import Vsoshlb.ControlPlane.Provenance
import Vsoshlb.ControlPlane.ServerIdSpace
import Vsoshlb.DataPlane.Tunnels
import Vsoshlb.System.Counters

/-!
# The balancer at work

Calls of the control plane and packets on the CPUs come in any order. A packet reads the maps as the
calls so far have left them. So the frames that leave go to reals that a call named, for VIPs that a
call added, and the statistics at the end are those of the packets.
-/

namespace Vsoshlb

open DataPlane

/-! ## Calls and packets -/

/-- A packet that comes to a CPU, and what it finds: the maps that the control plane is not followed
in here, the LRU maps, and what the checksum of a UDP header comes to. `ctl_array`, `ch_rings`, the
maps of the source routes and `decap_dst` are among `others` although the balancer writes them, so
what is proved holds whatever is in them. -/
structure Arrival where
  env : Env
  others : KernelMaps
  lru : LruMap → FlowKey → Option RealPosLru
  csum : Option (BitVec 64)

inductive Event (n : ℕ) where
  | call (call : Call)
  | packet (cpu : Fin n) (arrival : Arrival)

/-- A frame that left, with the VIP, the real and the next hop that it left for. -/
structure SentFrame where
  vip : VipDefinition
  real : RealDefinition
  mac : Frame
  inner : Frame
  outer : Frame

structure System (n : ℕ) where
  control : State
  machines : Fin n → Machine
  delivered : List (Option Delivery)
  sent : List SentFrame

/-- The maps as a packet finds them. -/
def State.packetMaps (config : Config) (s : State) (others : KernelMaps) : KernelMaps :=
  { kernelView config s.maps others with vipMap := s.maps.vipMap }

section Packet

variable (build : Build) (gueEncap : Bool) (maps : KernelMaps) (arrival : Arrival)

/-- The new frame, in a build with `GUE_ENCAP` or without it. -/
def tunnelledFrame (cval : BitVec 64) (pckt : PacketDescription) (dst : RealDefinition) :
    Option Frame :=
  let env := arrival.env
  if gueEncap then
    gueEncapsulate maps.pcktSrcs arrival.csum env.encap cval pckt dst env.isIpv6 env.pktBytes
      env.frame
  else
    encapsulate env.encap cval env.isIpv6 pckt dst env.pktBytes env.frame

/-- What leaves for a packet. -/
def sentFor (m : Machine) : Option SentFrame :=
  match classify build maps arrival.env m.start, processPacket build maps arrival.env m.start with
  | (.ok (vip, _), _), (.ok _, t) =>
    match maps.ctlArray 0, t.dst with
    | some cval, some dst =>
      (tunnelledFrame gueEncap maps arrival cval t.pckt dst).map fun outer ↦
        ⟨vip, dst, ctlMac cval, arrival.env.frame, outer⟩
    | _, _ => none
  | _, _ => none

end Packet

section Run

variable (folly : Folly) (config : Config) (chash : HashFunction → ConsistentHash)
variable (build : Build) (gueEncap : Bool) {n : ℕ}

/-- A packet on a CPU. -/
def System.receive (sys : System n) (cpu : Fin n) (arrival : Arrival) : System n :=
  let maps := sys.control.packetMaps config arrival.others
  let m := { sys.machines cpu with lru := arrival.lru }
  { sys with
    machines := Function.update sys.machines cpu
      ((processPacket build maps arrival.env).result m.start).2
    delivered := sys.delivered ++ [delivery build maps arrival.env m]
    sent := sys.sent ++ (sentFor build gueEncap maps arrival m).toList }

/-- A call that does not return has no next state. -/
def System.next (sys : System n) (event : Event n) : Option (System n) :=
  match event with
  | .call call =>
    (step folly config chash sys.control call).map fun control ↦ { sys with control := control }
  | .packet cpu arrival => some (sys.receive config build gueEncap cpu arrival)

def System.new (s : State) (machines : Fin n → Machine) : System n := ⟨s, machines, [], []⟩

/-- The system after the events, from a new balancer with empty maps. -/
def System.run (mac : List (BitVec 8)) (features : Features) (outcomes : List Bool)
    (machines : Fin n → Machine) (events : List (Event n)) : Option (System n) :=
  events.foldlM (System.next folly config chash build gueEncap)
    (.new (.new config mac features .empty outcomes) machines)

end Run

/-! ## Frames -/

/-- A frame for a VIP that one of the calls added, which goes to a real that one of them named, or
to the address of an entry that was never written. -/
structure SentFrame.Justified (folly : Folly) {n : ℕ} (events : List (Event n))
    (frame : SentFrame) : Prop where
  vip : ∃ call, .call call ∈ events ∧ call.op.NamesVip folly frame.vip
  real : frame.real = ⟨0, 0⟩ ∨ ∃ real flags,
    (∃ call, .call call ∈ events ∧ call.op.NamesReal folly real) ∧
      frame.real = realDefinition real flags
  tunnel : TunnelsTo frame.mac frame.real frame.inner frame.outer

section Frames

variable {folly : Folly} {config : Config} {chash : HashFunction → ConsistentHash}
variable {build : Build} {gueEncap : Bool} {maps : KernelMaps} {arrival : Arrival} {n : ℕ}

theorem tunnelledFrame_tunnelsTo {cval : BitVec 64} {pckt : PacketDescription}
    {dst : RealDefinition} {outer : Frame}
    (h : tunnelledFrame gueEncap maps arrival cval pckt dst = some outer) :
    TunnelsTo (ctlMac cval) dst arrival.env.frame outer := by
  unfold tunnelledFrame at h
  dsimp only at h
  split_ifs at h
  · exact gueEncapsulate_tunnelsTo h
  · exact encapsulate_tunnelsTo h

/-- What leaves is for a VIP of `vip_map`, and goes to an entry of `reals`. -/
theorem sentFor_eq_some {m : Machine} {frame : SentFrame}
    (h : sentFor build gueEncap maps arrival m = some frame) :
    (∃ vipInfo, maps.vipMap frame.vip = some vipInfo) ∧
      (∃ key, maps.reals key = some frame.real) ∧
      ∃ cval pckt, frame.mac = ctlMac cval ∧ frame.inner = arrival.env.frame ∧
        tunnelledFrame gueEncap maps arrival cval pckt frame.real = some frame.outer := by
  unfold sentFor at h
  cases hclass : classify build maps arrival.env m.start with
  | mk outcome found =>
    cases hprocess : processPacket build maps arrival.env m.start with
    | mk outcome' t =>
      rw [hclass, hprocess] at h
      cases outcome with
      | error action => cases h
      | ok vip =>
        cases outcome' with
        | error action => cases h
        | ok action =>
          dsimp only at h
          split at h
          · rename_i cval dst _ hdst
            obtain ⟨outer, houter, rfl⟩ := Option.map_eq_some_iff.mp h
            obtain ⟨key, -, hselected⟩ := processPacket_selected.ok rfl hprocess
            exact ⟨⟨vip.2, classify_vipMap hclass⟩, ⟨key, hselected.symm.trans hdst⟩, cval, t.pckt,
              rfl, rfl, houter⟩
          · cases h

theorem sentFor_selected {m : Machine} {frame : SentFrame}
    (h : sentFor build gueEncap maps arrival m = some frame) :
    (∃ vipInfo, maps.vipMap frame.vip = some vipInfo) ∧
      (∃ key, maps.reals key = some frame.real) ∧
      TunnelsTo frame.mac frame.real frame.inner frame.outer := by
  obtain ⟨hvip, hreal, cval, pckt, hmac, hinner, houter⟩ := sentFor_eq_some h
  refine ⟨hvip, hreal, ?_⟩
  rw [hmac, hinner]
  exact tunnelledFrame_tunnelsTo houter

/-- What holds of the system after some of the events. -/
structure System.Sound (folly : Folly) (config : Config) (events : List (Event n))
    (sys : System n) : Prop where
  reals : RealsFrom (fun real ↦ ∃ call, .call call ∈ events ∧ call.op.NamesReal folly real)
    sys.control
  vips : VipsFrom folly config
    (fun vipDef ↦ ∃ call, .call call ∈ events ∧ call.op.NamesVip folly vipDef) sys.control
  sent : ∀ frame ∈ sys.sent, frame.Justified folly events

theorem System.Sound.next {events : List (Event n)} {sys sys' : System n} {event : Event n}
    (h : sys.Sound folly config events) (hevent : event ∈ events)
    (hnext : sys.next folly config chash build gueEncap event = some sys') :
    sys'.Sound folly config events := by
  cases event with
  | call call =>
    obtain ⟨control, hstep, rfl⟩ := Option.map_eq_some_iff.mp hnext
    exact
      { reals := step_realsFrom h.reals (fun real hreal ↦ ⟨call, hevent, hreal⟩) hstep
        vips := step_vipsFrom h.vips (fun vipDef hvip ↦ ⟨call, hevent, hvip⟩) hstep
        sent := h.sent }
  | packet cpu arrival =>
    obtain rfl := Option.some.inj hnext
    refine ⟨h.reals, h.vips, fun frame hframe ↦ ?_⟩
    rcases List.mem_append.mp hframe with hold | hnew
    · exact h.sent frame hold
    · obtain ⟨⟨vipInfo, hvip⟩, ⟨key, hreal⟩, htunnel⟩ :=
        sentFor_selected (Option.mem_toList.mp hnew)
      refine ⟨(h.vips.entry frame.vip vipInfo hvip).2, ?_, htunnel⟩
      simp only [State.packetMaps, kernelView] at hreal
      split_ifs at hreal
      rw [← Option.some.inj hreal]
      exact h.reals.entry key.toNat

theorem System.run_sound {mac : List (BitVec 8)} {features : Features} {outcomes : List Bool}
    {machines : Fin n → Machine} {events : List (Event n)} {sys : System n}
    (hrun : System.run folly config chash build gueEncap mac features outcomes machines events =
      some sys) : sys.Sound folly config events := by
  have hnew : (System.new (State.new config mac features .empty outcomes) machines).Sound folly
      config events :=
    { reals := new_realsFrom mac features (fun _ ↦ rfl) outcomes
      vips := new_vipsFrom mac features (fun _ ↦ rfl) outcomes
      sent := fun frame hframe ↦ by cases hframe }
  exact Runs.invariant_of_along (P := fun _ event ↦ event ∈ events)
    (fun _ _ _ hsound hevent hnext ↦ hsound.next hevent hnext) hnew
    (Runs.along_of_forall (fun _ hevent ↦ hevent) _) hrun

end Frames

/-- A packet for a service. -/
def servedArrival : Arrival := ⟨quic6Env, KernelMaps.sample 0, fun _ _ ↦ none, none⟩

/-- A packet that comes before the calls, the calls on a service, and the packet once more. -/
def servedEvents : List (Event 2) :=
  .packet cpu0 servedArrival ::
    (serviceCalls "a00:1::").map .call ++ [.packet cpu1 servedArrival]

/-- The events with the small balancer. -/
def servedSystem : Option (System 2) :=
  System.run .sample .sample (fun _ ↦ .single) .plain false [] ⟨true, true, true⟩ []
    (fun _ ↦ emptyMachine) servedEvents

section Deleted

variable {folly : Folly} {config : Config} {chash : HashFunction → ConsistentHash}
variable {build : Build} {gueEncap : Bool} {n : ℕ}

/-- No VIP has the entry of `vipDef`, and what has left after `sent` was for others. -/
structure System.Without (folly : Folly) (config : Config) (vipDef : VipDefinition)
    (sent : List SentFrame) (sys : System n) : Prop where
  vips : VipsFrom folly config (fun vipDef' ↦ vipDef' ≠ vipDef) sys.control
  sent : ∃ later, sys.sent = sent ++ later ∧ ∀ frame ∈ later, frame.vip ≠ vipDef

theorem System.Without.next {vipDef : VipDefinition} {sent : List SentFrame} {sys sys' : System n}
    {event : Event n} (h : sys.Without folly config vipDef sent)
    (hevent : ∀ call, event = .call call → ¬ call.op.NamesVip folly vipDef)
    (hnext : sys.next folly config chash build gueEncap event = some sys') :
    sys'.Without folly config vipDef sent := by
  cases event with
  | call call =>
    obtain ⟨control, hstep, rfl⟩ := Option.map_eq_some_iff.mp hnext
    refine ⟨step_vipsFrom h.vips (fun vipDef' hnames hsame ↦ ?_) hstep, h.sent⟩
    exact hevent call rfl (hsame ▸ hnames)
  | packet cpu arrival =>
    obtain rfl := Option.some.inj hnext
    obtain ⟨later, hsent, hothers⟩ := h.sent
    let maps := sys.control.packetMaps config arrival.others
    let m := { sys.machines cpu with lru := arrival.lru }
    refine ⟨h.vips, later ++ (sentFor build gueEncap maps arrival m).toList, ?_, ?_⟩
    · rw [← List.append_assoc, ← hsent]
      rfl
    · intro frame hframe
      rcases List.mem_append.mp hframe with hold | hnew
      · exact hothers frame hold
      · obtain ⟨⟨vipInfo, hvip⟩, -, -⟩ := sentFor_selected (Option.mem_toList.mp hnew)
        exact (h.vips.entry frame.vip vipInfo hvip).2

/-- Once a VIP has been deleted and the write has gone through, nothing leaves for it any more,
whatever the order of calls and packets is, until a call adds it again. -/
theorem System.run_stops (htesting : config.testing = false) {mac : List (BitVec 8)}
    {features : Features} {outcomes : List Bool} {machines : Fin n → Machine}
    {before : List (Event n)} {sys : System n}
    (hbefore : System.run folly config chash build gueEncap mac features outcomes machines before =
      some sys)
    (hok : sys.control.nextOutcome = true) {vip : VipKey} {v : Vip}
    (hvip : sys.control.tables.vips.lookup vip = some v) {vipDef : VipDefinition}
    (hdef : vipKeyToVipDefinition folly vip = some vipDef)
    (hown : ∀ vip' v', sys.control.tables.vips.lookup vip' = some v' →
      vipKeyToVipDefinition folly vip' = some vipDef → vip' = vip)
    {u : Unspecified} {later : List (Event n)} {sys' : System n}
    (hlater : (.call ⟨.delVip vip, u⟩ :: later).foldlM
      (System.next folly config chash build gueEncap) sys = some sys')
    (hnames : ∀ call, .call call ∈ later → ¬ call.op.NamesVip folly vipDef) :
    ∃ sent, sys'.sent = sys.sent ++ sent ∧ ∀ frame ∈ sent, frame.vip ≠ vipDef := by
  rw [List.foldlM_cons] at hlater
  obtain ⟨deleted, hdeleted, hrun⟩ := Option.bind_eq_some_iff.mp hlater
  have hgone : deleted.Without folly config vipDef sys.sent := by
    rw [← Option.some.inj hdeleted]
    refine ⟨?_, [], (List.append_nil _).symm, fun frame hframe ↦ by cases hframe⟩
    exact delVip_gone (System.run_sound hbefore).vips htesting hok hvip hdef hown u
  have hended := Runs.invariant_of_along
    (P := fun _ event ↦ ∀ call, event = .call call → ¬ call.op.NamesVip folly vipDef)
    (fun _ _ _ hwithout hevent hnext ↦ System.Without.next hwithout hevent hnext) hgone
    (Runs.along_of_forall (fun _ hevent call hcall ↦ hnames call (by rwa [← hcall])) _) hrun
  exact hended.sent

end Deleted

/-- The same packet after its VIP has been deleted. -/
theorem servedSystem_stops : ∃ (sys sys' : System 2) (vipDef : VipDefinition),
    servedSystem = some sys ∧
      vipKeyToVipDefinition .sample ⟨"fc00::1", 443, IPPROTO_UDP⟩ = some vipDef ∧
      [.call ((Op.delVip ⟨"fc00::1", 443, IPPROTO_UDP⟩).sorted id),
        .packet cpu1 servedArrival].foldlM
          (System.next .sample .sample (fun _ ↦ .single) .plain false) sys = some sys' ∧
      ∃ sent, sys'.sent = sys.sent ++ sent ∧ ∀ frame ∈ sent, frame.vip ≠ vipDef := by
  have hended : servedSystem.map (fun sys ↦ (sys.control.nextOutcome,
      sys.control.tables.vips.keys)) = some (true, {⟨"fc00::1", 443, IPPROTO_UDP⟩}) := by
    decide +kernel
  obtain ⟨sys, hrun, hfacts⟩ := Option.map_eq_some_iff.mp hended
  obtain ⟨hok, hkeys⟩ := Prod.mk.inj hfacts
  have hknown (vip : VipKey) : vip = ⟨"fc00::1", 443, IPPROTO_UDP⟩ ↔
      (sys.control.tables.vips.lookup vip).isSome := by
    rw [Finmap.lookup_isSome, ← Finmap.mem_keys, hkeys, Finset.mem_singleton]
  obtain ⟨v, hvip⟩ := Option.isSome_iff_exists.mp ((hknown _).mp rfl)
  have hnames : ∀ call, (.call call : Event 2) ∈ [.packet cpu1 servedArrival] →
      ¬ call.op.NamesVip .sample
        ⟨0xfc000000000000000000000000000001, bigEndian 443, IPPROTO_UDP⟩ := by
    simp
  refine ⟨sys, _, _, hrun, rfl, rfl, ?_⟩
  exact System.run_stops rfl hrun hok hvip rfl
    (fun vip' v' hvip' _ ↦ (hknown vip').mpr (by rw [hvip', Option.isSome_some])) rfl hnames

/-! ## Statistics -/

section Statistics

variable {folly : Folly} {config : Config} {chash : HashFunction → ConsistentHash}
variable {build : Build} {gueEncap : Bool} {n : ℕ}

theorem VipsFrom.numbersFit {q : VipDefinition → Prop} {s : State} (h : VipsFrom folly config q s)
    (hmax : config.maxVips ≤ build.maxVips.toNat) (others : KernelMaps) :
    NumbersFit build (s.packetMaps config others) :=
  fun vip vipInfo hvip ↦ lt_of_lt_of_le (h.entry vip vipInfo hvip).1 hmax

/-- The calls leave the counters to the packets. -/
theorem System.run_packets (hmax : config.maxVips ≤ build.maxVips.toNat) {mac : List (BitVec 8)}
    {features : Features} {outcomes : List Bool} {machines : Fin n → Machine}
    {events : List (Event n)} {sys : System n}
    (hrun : System.run folly config chash build gueEncap mac features outcomes machines events =
      some sys) :
    ∃ packets : List (Fin n × Packet build),
      afterPackets packets machines = (sys.delivered, sys.machines) := by
  let Counted (sys : System n) : Prop :=
    VipsFrom folly config (fun _ ↦ True) sys.control ∧ ∃ packets : List (Fin n × Packet build),
      afterPackets packets machines = (sys.delivered, sys.machines)
  have hnew : Counted (.new (.new config mac features .empty outcomes) machines) :=
    ⟨new_vipsFrom mac features (fun _ ↦ rfl) outcomes, [], rfl⟩
  have hnext (sys : System n) (event : Event n) (sys' : System n) (hsys : Counted sys)
      (h : sys.next folly config chash build gueEncap event = some sys') : Counted sys' := by
    obtain ⟨hvips, packets, hpackets⟩ := hsys
    cases event with
    | call call =>
      obtain ⟨control, hstep, rfl⟩ := Option.map_eq_some_iff.mp h
      exact ⟨step_vipsFrom hvips (fun _ _ ↦ trivial) hstep, packets, hpackets⟩
    | packet cpu arrival =>
      obtain rfl := Option.some.inj h
      refine ⟨hvips, packets ++ [(cpu, ⟨sys.control.packetMaps config arrival.others, arrival.env,
        arrival.lru, hvips.numbersFit hmax arrival.others⟩)], ?_⟩
      unfold afterPackets at hpackets ⊢
      rw [SideBySide.run_concat, hpackets]
      rfl
  exact (Runs.invariant hnext hnew hrun).2

/-- The statistics after calls and packets in any order. A number keeps its counters when its VIP
goes, so the statistics of a VIP have the packets of those before it. -/
theorem System.run_statistics (hfit : build.CountersFit)
    (hmax : config.maxVips ≤ build.maxVips.toNat) (htesting : config.testing = false)
    {mac : List (BitVec 8)} {features : Features} {outcomes : List Bool}
    {machines : Fin n → Machine} {events : List (Event n)} {sys : System n}
    (hrun : System.run folly config chash build gueEncap mac features outcomes machines events =
      some sys)
    (hok : sys.control.nextOutcome = true) {vip : VipKey} {v : Vip}
    (hvip : sys.control.tables.vips.lookup vip = some v) {index : BitVec 32}
    (hfresh : ∀ c, Fresh build (machines c))
    (hindex : ∀ c, ((machines c).realsStats index).isSome) :
    (getStatsForVip config (fun num ↦ List.ofFn fun c ↦ vipCounters (sys.machines c) num) vip
        sys.control).1 =
        countDeliveries
          (deliveriesFor (fun d ↦ d.vipNum = BitVec.ofNat 32 v.vipNum) sys.delivered) ∧
      (getRealStats config (fun i ↦ List.ofFn fun c ↦ realCounters (sys.machines c) i) index
        sys.control).1 =
        countDeliveries (deliveriesFor (fun d ↦ d.realIndex = index) sys.delivered) := by
  obtain ⟨packets, hpackets⟩ := System.run_packets hmax hrun
  have hnum : v.vipNum < build.maxVips.toNat :=
    lt_of_lt_of_le ((System.run_sound hrun).vips.registered vip v hvip).1 hmax
  have hcounts := statistics_count hfit htesting hok hvip hnum hfresh hindex packets
  rw [hpackets] at hcounts
  exact hcounts

end Statistics

theorem emptyMachine_fresh : Fresh .plain emptyMachine where
  provisioned := ⟨fun _ _ ↦ rfl, rfl⟩
  stats _ := rfl
  reals _ := rfl

theorem servedSystem_statistics : ∃ (sys : System 2) (v : Vip), servedSystem = some sys ∧
    sys.control.tables.vips.lookup ⟨"fc00::1", 443, IPPROTO_UDP⟩ = some v ∧
    (getStatsForVip .sample (fun num ↦ List.ofFn fun c ↦ vipCounters (sys.machines c) num)
        ⟨"fc00::1", 443, IPPROTO_UDP⟩ sys.control).1 =
        countDeliveries
          (deliveriesFor (fun d ↦ d.vipNum = BitVec.ofNat 32 v.vipNum) sys.delivered) ∧
      (getRealStats .sample (fun i ↦ List.ofFn fun c ↦ realCounters (sys.machines c) i) 1
        sys.control).1 =
        countDeliveries (deliveriesFor (fun d ↦ d.realIndex = 1) sys.delivered) := by
  have hended : servedSystem.map (fun sys ↦ (sys.control.nextOutcome,
      (sys.control.tables.vips.lookup ⟨"fc00::1", 443, IPPROTO_UDP⟩).isSome)) =
      some (true, true) := by decide +kernel
  obtain ⟨sys, hrun, hfacts⟩ := Option.map_eq_some_iff.mp hended
  obtain ⟨hok, hknown⟩ := Prod.mk.inj hfacts
  obtain ⟨v, hvip⟩ := Option.isSome_iff_exists.mp hknown
  exact ⟨sys, v, hrun, hvip, System.run_statistics (by decide) (by decide) rfl hrun hok hvip
    (fun _ ↦ emptyMachine_fresh) fun _ ↦ rfl⟩

end Vsoshlb
