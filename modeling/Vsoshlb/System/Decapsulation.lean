import Vsoshlb.DataPlane.HealthcheckFrames
import Vsoshlb.Decap.GuePackets
import Vsoshlb.System.Interleaving

/-!
# From the balancer to the host of a real

A build with `GUE_ENCAP` and the program at the host of a real are two ends of a tunnel. Whatever
calls and packets came to the balancer, the frames that it sent are unpacked at the other end, and
the packets inside are those that had come to the balancer. The same goes for the packets of the
health checks.
-/

namespace Vsoshlb

open DataPlane Decap EarlyExit

/-! ## The headers of the balancer -/

section Headers

variable {pcktSrcs : BitVec 32 → Option RealDefinition} {csum : Option (BitVec 64)}
variable {adjustHead isIpv6 : Bool} {cval : BitVec 64} {pckt : PacketDescription}
variable {dst : RealDefinition} {pktBytes : BitVec 16} {frame written : Frame}

theorem newEth_etherType {hProto : BitVec 16} (hframe : ethhdrSize ≤ frame.length) :
    Frame.etherType (newEth cval hProto frame) = hProto := by
  have hmacs := (@newEth_macs cval hProto frame hframe []).2.2
  rwa [List.append_nil] at hmacs

/-- What the balancer writes is what the program at the host of the real takes off. -/
theorem gueEncapsulate_carriesGue (hpayload : frame.drop ethhdrSize ≠ [])
    (h : gueEncapsulate pcktSrcs csum adjustHead cval pckt dst isIpv6 pktBytes frame =
      some written) :
    CarriesGue (hasFlag dst.flags F_IPV6) written ∧
      written.udpPayload (hasFlag dst.flags F_IPV6) = frame.drop ethhdrSize := by
  unfold gueEncapsulate at h
  split_ifs at h with hfamily
  · unfold gueEncapV6 at h
    cases hsrc : pcktSrcs V6_SRC_INDEX with
    | none => simp [hsrc] at h
    | some src =>
      simp only [hsrc] at h
      split at h
      · cases h
      · split at h
        · cases h
        · rename_i hbounds
          have hframe := not_gueOutOfBounds.mp hbounds
          rw [← Option.some.inj h, List.append_assoc, List.append_assoc, hfamily]
          exact carriesGue_v6 (newEth_length hframe) (newEth_etherType hframe) _ _ _ _ rfl hpayload
  · unfold gueEncapV4 at h
    cases hsrc : pcktSrcs V4_SRC_INDEX with
    | none => simp [hsrc] at h
    | some src =>
      simp only [hsrc] at h
      split_ifs at h with hadjust hbounds
      have hframe := not_gueOutOfBounds.mp hbounds
      rw [← Option.some.inj h, List.append_assoc, List.append_assoc,
        (Bool.not_eq_true _).mp hfamily]
      exact carriesGue_v4 (newEth_length hframe) (newEth_etherType hframe) _ _ _ _ rfl hpayload

end Headers

/-! ## Both ends -/

/-- The packet says of itself what the balancer takes it for. -/
def Arrival.SaysVersion (arrival : Arrival) : Prop :=
  arrival.env.frame.ipVersion = if arrival.env.isIpv6 then 6 else 4

/-- The frame carries the packet that it is for, which is of one of the two families. -/
structure SentFrame.Carries (frame : SentFrame) : Prop where
  gue : CarriesGue (hasFlag frame.real.flags F_IPV6) frame.outer
  payload : frame.outer.udpPayload (hasFlag frame.real.flags F_IPV6) = frame.inner.drop ethhdrSize
  version : frame.inner.ipVersion = 4 ∨ frame.inner.ipVersion = 6

/-- The frame comes to a host whose kernel does what the program asks it for. -/
structure SentFrame.Arrives (frame : SentFrame) (packet : DecapEnv × TcSkb) : Prop where
  answers : packet.1.Succeeds
  linear : ethhdrSize ≤ packet.2.headlen
  outer : packet.2.frame = frame.outer
  protocol : packet.2.protocol = packet.2.frame.etherType

/-- The packet goes up as it came to the balancer, behind another Ethernet header. The kernel takes
it for what it is exactly where it is an IPv4 packet or its real has an IPv6 address. -/
structure SentFrame.GoesUp (frame : SentFrame) (result : TcAction × TcSkb) : Prop where
  action : result.1 = .unspec
  payload : result.2.frame = frame.outer.take ethhdrSize ++ frame.inner.drop ethhdrSize
  protocol : (result.2.protocol =
    if frame.inner.ipVersion = 6 then BE_ETH_P_IPV6 else BE_ETH_P_IP) ↔
      frame.inner.ipVersion = 4 ∨ hasFlag frame.real.flags F_IPV6 = true

section Frames

variable {frame : SentFrame}

theorem drop_ne_nil_of_ipVersion {inner : Frame} (h : inner.ipVersion = 4 ∨ inner.ipVersion = 6) :
    inner.drop ethhdrSize ≠ [] := by
  intro hnil
  have hshort : inner.length ≤ ethhdrSize := List.drop_eq_nil_iff.mp hnil
  have hzero : inner.ipVersion = 0 := by
    simp [Frame.ipVersion, Frame.byte, List.getD_eq_getElem?_getD,
      List.getElem?_eq_none hshort]
  rw [hzero] at h
  revert h
  decide

/-- The first byte of the packet inside, seen from outside. -/
theorem SentFrame.Carries.saysIpv6_iff (h : frame.Carries) :
    SaysIpv6 (hasFlag frame.real.flags F_IPV6) frame.outer ↔ frame.inner.ipVersion = 6 := by
  have hbyte (outer : Frame) (n : ℕ) : outer.byte n = Frame.byte (outer.drop n) 0 := by
    simp [Frame.byte, List.getD_eq_getElem?_getD]
  have hfirst := hbyte frame.outer
    (ethhdrSize + Frame.ipHeaderSize (hasFlag frame.real.flags F_IPV6) + udphdrSize)
  have hpayload := h.payload
  rw [Frame.udpPayload, ← Nat.add_assoc] at hpayload
  rw [hpayload, ← hbyte] at hfirst
  have hversion := h.version
  unfold SaysIpv6 Frame.ipVersion at *
  rw [hfirst]
  generalize frame.inner.byte ethhdrSize = first at hversion ⊢
  revert first
  decide

theorem SentFrame.Carries.goesUp (h : frame.Carries) {skb skb' : TcSkb} {stats stats' : DecapStats}
    {action : TcAction} (hframe : skb.frame = frame.outer)
    (hprotocol : skb.protocol = skb.frame.etherType) (hfate : Fate skb stats action skb' stats') :
    frame.GoesUp (action, skb') := by
  obtain ⟨haction, hunpacked⟩ := hfate.unpacked_of_carries (hframe.symm ▸ h.gue)
  have htype := h.gue.reached.etherType
  have hunpackedFrame := hunpacked.frame
  have hunpackedProtocol := hunpacked.protocol
  have hfamilies : BE_ETH_P_IP ≠ BE_ETH_P_IPV6 := by decide
  rw [hframe, h.payload] at hunpackedFrame
  rw [hprotocol, hframe, htype] at hunpackedProtocol
  simp only [h.saysIpv6_iff] at hunpackedProtocol
  refine ⟨haction, hunpackedFrame, ?_⟩
  simp only [hunpackedProtocol]
  rcases h.version with hversion | hversion
  · cases hasFlag frame.real.flags F_IPV6 with
    | true => simp [hversion]
    | false => simp [hversion]
  · cases hasFlag frame.real.flags F_IPV6 with
    | true => simp [hversion]
    | false => simp [hversion, hfamilies]

/-- The frames in the order in which they come to a host. -/
theorem receiveAll_goesUp {frames : List SentFrame} {packets : List (DecapEnv × TcSkb)}
    (harrive : List.Forall₂ SentFrame.Arrives frames packets)
    (hcarries : ∀ frame ∈ frames, frame.Carries) (stats : DecapStats) :
    List.Forall₂ SentFrame.GoesUp frames (receiveAll packets (some stats)).1 ∧
      (receiveAll packets (some stats)).2 =
        some (stats.after (frames.map fun frame ↦ frame.outer)) := by
  induction harrive generalizing stats with
  | nil => exact ⟨.nil, by simp [receiveAll, DecapStats.after]⟩
  | @cons frame packet frames packets harrives _ ih =>
    obtain ⟨env, skb⟩ := packet
    have hcarried := hcarries frame List.mem_cons_self
    obtain ⟨action, m, hresult, hcounters, hfate⟩ :=
      tcdecap_fate harrives.answers harrives.linear stats
    obtain ⟨hresults, hstats⟩ := ih (fun frame h ↦ hcarries frame (List.mem_cons_of_mem _ h))
      (stats.after [skb.frame])
    simp only [receiveAll, hresult, hcounters]
    refine ⟨.cons (hcarried.goesUp harrives.outer harrives.protocol hfate) hresults, ?_⟩
    rw [hstats, DecapStats.after_append, harrives.outer]
    rfl

/-- The counters after frames that carry packets. -/
theorem after_carries {frames : List SentFrame} (hcarries : ∀ frame ∈ frames, frame.Carries)
    (stats : DecapStats) :
    stats.after (frames.map fun frame ↦ frame.outer) =
      { decapV4 := stats.decapV4 + BitVec.ofNat 64
          (frames.countP fun frame ↦ !hasFlag frame.real.flags F_IPV6)
        decapV6 := stats.decapV6 + BitVec.ofNat 64
          (frames.countP fun frame ↦ hasFlag frame.real.flags F_IPV6)
        total := stats.total + BitVec.ofNat 64 frames.length } := by
  have hipv4 : frames.countP (fun frame ↦ CarriesGue false frame.outer) =
      frames.countP fun frame ↦ !hasFlag frame.real.flags F_IPV6 := by
    apply List.countP_congr
    intro frame hframe
    rw [decide_eq_true_eq, (hcarries frame hframe).gue.iff_eq]
    cases hasFlag frame.real.flags F_IPV6 <;> decide
  have hipv6 : frames.countP (fun frame ↦ CarriesGue true frame.outer) =
      frames.countP fun frame ↦ hasFlag frame.real.flags F_IPV6 := by
    apply List.countP_congr
    intro frame hframe
    rw [decide_eq_true_eq, (hcarries frame hframe).gue.iff_eq]
    exact eq_comm
  have hall : frames.countP (fun frame ↦ Examined frame.outer) = frames.length := by
    apply List.countP_eq_length.mpr
    intro frame hframe
    exact decide_eq_true (hcarries frame hframe).gue.examined
  simp only [DecapStats.after, List.countP_map, Function.comp_def, hipv4, hipv6, hall]

end Frames

section Run

variable {folly : Folly} {config : Config} {chash : HashFunction → ConsistentHash}
variable {build : Build} {n : ℕ}

theorem sentFor_carries {maps : KernelMaps} {arrival : Arrival} {m : Machine} {frame : SentFrame}
    (hversion : arrival.SaysVersion) (h : sentFor build true maps arrival m = some frame) :
    frame.Carries := by
  obtain ⟨-, -, cval, pckt, -, hinner, houter⟩ := sentFor_eq_some h
  have hfamily : frame.inner.ipVersion = 4 ∨ frame.inner.ipVersion = 6 := by
    rw [hinner, hversion]
    cases arrival.env.isIpv6 with
    | false => exact Or.inl rfl
    | true => exact Or.inr rfl
  simp only [tunnelledFrame, if_true, ← hinner] at houter
  obtain ⟨hgue, hpayload⟩ := gueEncapsulate_carriesGue (drop_ne_nil_of_ipVersion hfamily) houter
  exact ⟨hgue, hpayload, hfamily⟩

theorem System.next_carries {sys sys' : System n} {event : Event n}
    (h : ∀ frame ∈ sys.sent, frame.Carries)
    (hevent : ∀ cpu arrival, event = .packet cpu arrival → arrival.SaysVersion)
    (hnext : sys.next folly config chash build true event = some sys') :
    ∀ frame ∈ sys'.sent, frame.Carries := by
  cases event with
  | call call =>
    obtain ⟨control, -, rfl⟩ := Option.map_eq_some_iff.mp hnext
    exact h
  | packet cpu arrival =>
    obtain rfl := Option.some.inj hnext
    intro frame hframe
    rcases List.mem_append.mp hframe with hold | hnew
    · exact h frame hold
    · exact sentFor_carries (hevent cpu arrival rfl) (Option.mem_toList.mp hnew)

theorem System.run_carries {mac : List (BitVec 8)} {features : Features} {outcomes : List Bool}
    {machines : Fin n → Machine} {events : List (Event n)} {sys : System n}
    (hrun : System.run folly config chash build true mac features outcomes machines events =
      some sys)
    (hevents : ∀ cpu arrival, .packet cpu arrival ∈ events → arrival.SaysVersion) :
    ∀ frame ∈ sys.sent, frame.Carries :=
  Runs.invariant_of_along
    (P := fun _ event ↦ ∀ cpu arrival, event = .packet cpu arrival → arrival.SaysVersion)
    (fun _ _ _ h hevent hnext ↦ System.next_carries h hevent hnext)
    (fun _ hframe ↦ by cases hframe)
    (Runs.along_of_forall (fun _ hevent cpu arrival hpacket ↦
      hevents cpu arrival (by rwa [← hpacket])) _) hrun

/-- Whatever calls and packets the balancer had, and whichever of its frames come to the host of a
real in whatever order: the packets inside go up as they came to the balancer, none of them is lost,
and the counters of the host count each of them by the family of its real. -/
theorem System.run_unpacked {mac : List (BitVec 8)} {features : Features} {outcomes : List Bool}
    {machines : Fin n → Machine} {events : List (Event n)} {sys : System n}
    (hrun : System.run folly config chash build true mac features outcomes machines events =
      some sys)
    (hevents : ∀ cpu arrival, .packet cpu arrival ∈ events → arrival.SaysVersion)
    {frames : List SentFrame} (hframes : ∀ frame ∈ frames, frame ∈ sys.sent)
    {packets : List (DecapEnv × TcSkb)} (harrive : List.Forall₂ SentFrame.Arrives frames packets)
    (stats : DecapStats) :
    List.Forall₂ SentFrame.GoesUp frames (receiveAll packets (some stats)).1 ∧
      (receiveAll packets (some stats)).2 = some
        { decapV4 := stats.decapV4 + BitVec.ofNat 64
            (frames.countP fun frame ↦ !hasFlag frame.real.flags F_IPV6)
          decapV6 := stats.decapV6 + BitVec.ofNat 64
            (frames.countP fun frame ↦ hasFlag frame.real.flags F_IPV6)
          total := stats.total + BitVec.ofNat 64 frames.length } := by
  have hcarries : ∀ frame ∈ frames, frame.Carries :=
    fun frame hframe ↦ System.run_carries hrun hevents frame (hframes frame hframe)
  rw [← after_carries hcarries]
  exact receiveAll_goesUp harrive hcarries stats

end Run

/-- The packet for a service, at a balancer that has addresses of its own. -/
def tunnelledArrival : Arrival :=
  { servedArrival with
    others := { KernelMaps.sample 0 with pcktSrcs := fun _ ↦ some (RealDefinition.sample 0) } }

/-- The calls on a service, and the packet twice. -/
def tunnelledEvents : List (Event 2) :=
  (serviceCalls "a00:1::").map .call ++
    [.packet cpu1 tunnelledArrival, .packet cpu0 tunnelledArrival]

def tunnelledSystem : Option (System 2) :=
  System.run .sample .sample (fun _ ↦ .single) .plain true [] ⟨true, true, true⟩ []
    (fun _ ↦ emptyMachine) tunnelledEvents

theorem received_arrives {frame : SentFrame} (h : frame.Carries) :
    frame.Arrives (DecapEnv.sample, TcSkb.received frame.outer) where
  answers := DecapEnv.sample_succeeds
  linear := le_min le_rfl ((Nat.le_add_right _ _).trans h.gue.header.length)
  outer := rfl
  protocol := rfl

/-- The two frames, which come to a host in the other order. -/
theorem tunnelledSystem_unpacked : ∃ sys, tunnelledSystem = some sys ∧ sys.sent.length = 2 ∧
    List.Forall₂ SentFrame.GoesUp sys.sent.reverse
      (receiveAll (sys.sent.reverse.map fun frame ↦ (DecapEnv.sample, TcSkb.received frame.outer))
        (some ⟨0, 0, 0⟩)).1 := by
  have hsent : tunnelledSystem.map (fun sys ↦ sys.sent.length) = some 2 := by decide +kernel
  obtain ⟨sys, hrun, hlength⟩ := Option.map_eq_some_iff.mp hsent
  have hevents : ∀ cpu arrival, (.packet cpu arrival : Event 2) ∈ tunnelledEvents →
      arrival.SaysVersion := by
    intro cpu arrival hpacket
    simp only [tunnelledEvents, List.mem_append, List.mem_map, reduceCtorEq, and_false,
      exists_false, List.mem_cons, Event.packet.injEq, List.not_mem_nil, or_false,
      false_or] at hpacket
    rcases hpacket with ⟨-, rfl⟩ | ⟨-, rfl⟩
    · rfl
    · rfl
  have harrive : List.Forall₂ SentFrame.Arrives sys.sent.reverse
      (sys.sent.reverse.map fun frame ↦ (DecapEnv.sample, TcSkb.received frame.outer)) := by
    apply List.forall₂_map_right_iff.mpr
    apply List.forall₂_same.mpr
    intro frame hframe
    exact received_arrives (System.run_carries hrun hevents frame (List.mem_reverse.mp hframe))
  exact ⟨sys, hrun, hlength, (System.run_unpacked hrun hevents
    (fun frame hframe ↦ List.mem_reverse.mp hframe) harrive ⟨0, 0, 0⟩).1⟩

/-! ## Health checks -/

section Healthchecks

variable {build : HcBuild} {maps : HcMaps} {env : HcEnv} {skb : SkBuff}

/-- A packet that is sent is one that was encapsulated, between new addresses. -/
def HcWrote (build : HcBuild) (maps : HcMaps) (env : HcEnv) (skb : SkBuff) (action : TcAction)
    (m : HcMachine) : Prop :=
  ∀ ifindex, action = .redirect ifindex → ∃ real esrc edst encapsulated,
    hcRealOf maps skb = some real ∧
      hcEncap build maps env real (decide (skb.frame.etherType = BE_ETH_P_IPV6)) skb.clearMark =
        some encapsulated ∧
      m.skb = encapsulated.setMacs esrc edst

theorem hcForward_wrote {real : BeAddr} (hreal : hcRealOf maps skb = some real) :
    Triple (fun _ ↦ True) (hcForward build maps env skb real) (HcWrote build maps env skb)
      (HcWrote build maps env skb) := by
  have hdrop (m : HcMachine) (_ : True) :
      HcWrote build maps env skb .shot { m with hcStatsMap := m.hcStatsMap.map HcStats.dropped } :=
    fun ifindex h ↦ by cases h
  refine .bind (Q := fun _ _ ↦ True) (.when (fun _ ↦ .bind (Q := fun _ _ ↦ True)
    (.modify fun _ _ ↦ trivial) fun _ ↦ .exit fun _ _ ifindex h ↦ by cases h) fun _ _ _ ↦ trivial)
    fun _ ↦ ?_
  refine .bind (hcRequire_triple hdrop) fun ifindex ↦ .fact fun _ ↦ ?_
  refine .bind (hcRequire_triple hdrop) fun esrc ↦ .fact fun _ ↦ ?_
  refine .bind (hcRequire_triple hdrop) fun edst ↦ .fact fun _ ↦ ?_
  refine .bind (hcDropIf_triple hdrop) fun _ ↦ .fact fun _ ↦ ?_
  refine .bind (.modify (Q := fun _ _ ↦ True) fun _ _ ↦ trivial) fun _ ↦ ?_
  refine .bind (hcRequire_triple hdrop) fun encapsulated ↦ .fact fun hencap ↦ ?_
  refine .bind (hcDropIf_triple hdrop) fun _ ↦ .fact fun _ ↦ ?_
  refine .bind (.modify (Q := fun _ m ↦ m.skb = encapsulated.setMacs esrc edst)
    fun _ _ ↦ rfl) fun _ ↦ ?_
  refine .bind (.modify (Q := fun _ m ↦ m.skb = encapsulated.setMacs esrc edst)
    fun _ hm ↦ hm) fun _ ↦ ?_
  exact .bind (lookUpHcKeyStats_triple _) fun _ ↦ .pure fun m hm _ _ ↦
    ⟨real, esrc, edst, encapsulated, hreal, hencap, hm⟩

theorem healthcheckEncap_wrote :
    Triple (fun m ↦ m.skb = skb) (healthcheckEncap build maps env) (HcWrote build maps env skb)
      (HcWrote build maps env skb) := by
  have hskip : Triple (fun m ↦ m.skb = skb) hcSkip (HcWrote build maps env skb)
      (HcWrote build maps env skb) :=
    .bind (.modify (Q := fun _ _ ↦ True) fun _ _ ↦ trivial) fun _ ↦
      .exit fun _ _ ifindex h ↦ by cases h
  refine .read_bind fun m _ ↦ .exitIf_bind (fun _ _ _ ifindex h ↦ by cases h) fun _ ↦
    .read_bind fun m hm ↦ ?_
  rw [hm]
  refine .ite (fun _ ↦ hskip) fun hmark ↦ ?_
  cases hreal : maps.hcRealsMap skb.mark with
  | none => exact hskip
  | some real =>
    exact (hcForward_wrote ((if_neg hmark).trans hreal)).conseq (fun _ _ ↦ trivial)
      (fun _ _ h ↦ h) fun _ _ h ↦ h

variable {real : BeAddr} {sent : SkBuff} {esrc edst : HcMac} {hProto : BitVec 16}

theorem hcFrame_front_etherType :
    Frame.etherType (edst.toList ++ esrc.toList ++ bytes16 hProto) = hProto := by
  have htype := @hcFrame_etherType edst esrc hProto [] []
  rwa [hcFrame, List.append_nil, List.append_nil] at htype

section Mistyped

variable {front rest : Frame} (hfront : front.length = ethhdrSize) (tos : BitVec 8)
variable (saddr daddr : BitVec 32) (len : BitVec 16) (proto : BitVec 8)

include hfront

/-- The byte that is the next header of an IPv6 header is part of the fragment offset. -/
theorem ipProtocol_createV4Hdr :
    (front ++ ((createV4Hdr tos saddr daddr len proto).bytes ++ rest)).ipProtocol true = 0 :=
  byte_append ((createV4Hdr tos saddr daddr len proto).bytes ++ rest) hfront 6

/-- Behind the Ethernet header of another family, an IPv4 header is not taken off. -/
theorem not_carriesGue_of_etherType (htype : front.etherType ≠ BE_ETH_P_IP) (isIpv6 : Bool) :
    ¬ CarriesGue isIpv6 (front ++ ((createV4Hdr tos saddr daddr len proto).bytes ++ rest)) := by
  intro h
  cases isIpv6 with
  | false => exact htype ((etherType_append hfront _).symm.trans h.reached.etherType)
  | true =>
    have hnexthdr := @ipProtocol_createV4Hdr front rest hfront tos saddr daddr len proto
    exact absurd (hnexthdr.symm.trans h.protocol) (by decide)

/-- Nor is it refused. -/
theorem acceptedHeader_of_etherType (htype : front.etherType ≠ BE_ETH_P_IP) {isIpv6 : Bool}
    (h : Reached isIpv6 (front ++ ((createV4Hdr tos saddr daddr len proto).bytes ++ rest))) :
    AcceptedHeader isIpv6
      (front ++ ((createV4Hdr tos saddr daddr len proto).bytes ++ rest)) := by
  cases isIpv6 with
  | false => exact absurd ((etherType_append hfront _).symm.trans h.etherType) htype
  | true =>
    have hlong : ethhdrSize + Frame.ipHeaderSize true ≤ hdrLen true := by decide
    refine ⟨hlong.trans h.length, (absurd · (by decide)), (absurd · (by decide)), fun _ ↦ ?_⟩
    rw [ipProtocol_createV4Hdr hfront]
    decide

end Mistyped

/-- The GUE headers of a health check are taken off where the Ethernet header goes with them, and
are not refused elsewhere. -/
theorem hcEncapGue_carriesGue (hpayload : skb.frame.drop ethhdrSize ≠ [])
    (h : hcEncapGue maps env real skb = some sent) :
    let outer := (sent.setMacs esrc edst).frame
    (∀ isIpv6, CarriesGue isIpv6 outer ↔ isIpv6 = decide (real.flags = V6DADDR) ∧
      (real.flags = V6DADDR ∨ skb.frame.etherType = BE_ETH_P_IP)) ∧
      (∀ isIpv6, Reached isIpv6 outer → AcceptedHeader isIpv6 outer) ∧
      outer.udpPayload (decide (real.flags = V6DADDR)) = skb.frame.drop ethhdrSize := by
  have hlong : ethhdrSize ≤ skb.frame.length := by
    by_contra hshort
    exact hpayload (List.drop_eq_nil_iff.mpr (Nat.le_of_not_le hshort))
  have hpayloadOf := (hcEncapGue_encapsulated esrc edst h).2.payload
  rw [← and_assoc]
  refine ⟨?_, hpayloadOf⟩
  unfold hcEncapGue at h
  dsimp only at h
  by_cases hreal : real.flags = V6DADDR
  · rw [if_pos hreal] at h
    cases hsrc : maps.hcPcktSrcsMap V6_SRC_INDEX with
    | none => simp [hsrc] at h
    | some src =>
      simp only [hsrc] at h
      split at h
      · cases h
      · split at h
        · cases h
        · obtain rfl := Option.some.inj h
          rw [setEtherType_setMacs hlong, hcFrame_append]
          simp only [hreal, decide_true, true_or, and_true]
          apply CarriesGue.only
          exact (carriesGue_v6 (hcFrame_front edst esrc BE_ETH_P_IPV6) hcFrame_front_etherType _ _ _
            _ rfl hpayload).1
  · rw [if_neg hreal] at h
    cases hsrc : maps.hcPcktSrcsMap V4_SRC_INDEX with
    | none => simp [hsrc] at h
    | some src =>
      simp only [hsrc] at h
      split at h
      · cases h
      · split at h
        · cases h
        · obtain rfl := Option.some.inj h
          rw [insertHeaders_setMacs hlong, hcFrame_append]
          simp only [hreal, decide_false, false_or]
          have hfront := hcFrame_front edst esrc skb.frame.etherType
          by_cases htype : skb.frame.etherType = BE_ETH_P_IP
          · simp only [and_iff_left htype]
            apply CarriesGue.only
            exact (carriesGue_v4 hfront (hcFrame_front_etherType.trans htype) _ _ _ _ rfl
              hpayload).1
          · have hother : Frame.etherType (edst.toList ++ esrc.toList ++
                bytes16 skb.frame.etherType) ≠ BE_ETH_P_IP := by rwa [hcFrame_front_etherType]
            simp only [htype, and_false, iff_false]
            exact ⟨not_carriesGue_of_etherType hfront _ _ _ _ _ hother, fun _ ↦
              acceptedHeader_of_etherType hfront _ _ _ _ _ hother⟩

/-- A health check takes the way of the traffic to the end: at the host of the real for its mark its
headers are taken off and the packet goes up as it was. The exceptions are the packets other than
IPv4 packets to a real with an IPv4 address, whose Ethernet header does not go with the headers:
these go up with all their headers. -/
theorem healthcheckEncap_unpacked_iff {m left : HcMachine} {ifindex : BitVec 32}
    (hgue : build.gueEncap = true) (hpayload : m.skb.frame.drop ethhdrSize ≠ [])
    (h : (healthcheckEncap build maps env).result m = (.redirect ifindex, left))
    {decapEnv : DecapEnv} (hanswers : decapEnv.Succeeds) {skb : TcSkb}
    (hframe : skb.frame = left.skb.frame) (hlinear : ethhdrSize ≤ skb.headlen)
    (stats : DecapStats) :
    ∃ real action t, maps.hcRealsMap m.skb.mark = some real ∧
      (tcdecap decapEnv).result ⟨skb, some stats⟩ = (action, t) ∧
      ((action = .unspec ∧
          t.skb.frame = left.skb.frame.take ethhdrSize ++ m.skb.frame.drop ethhdrSize) ↔
        real.flags = V6DADDR ∨ m.skb.frame.etherType = BE_ETH_P_IP) ∧
      (¬ (real.flags = V6DADDR ∨ m.skb.frame.etherType = BE_ETH_P_IP) →
        action = .unspec ∧ SamePacket skb t.skb) := by
  have hwrote := (@healthcheckEncap_wrote build maps env m.skb).result (s := m) rfl
  rw [h] at hwrote
  obtain ⟨real, esrc, edst, encapsulated, hreal, hencap, hleft⟩ := hwrote ifindex rfl
  have hknown : maps.hcRealsMap m.skb.mark = some real := by
    unfold hcRealOf at hreal
    split_ifs at hreal
    exact hreal
  unfold hcEncap at hencap
  rw [if_pos hgue] at hencap
  obtain ⟨hcarries, haccepted, hinside⟩ := @hcEncapGue_carriesGue maps env m.skb.clearMark real
    encapsulated esrc edst hpayload hencap
  rw [← hleft, ← hframe] at hcarries haccepted hinside
  obtain ⟨action, t, hresult, -, hfate⟩ := tcdecap_fate hanswers hlinear stats
  have hother (hno : ¬ (real.flags = V6DADDR ∨ m.skb.frame.etherType = BE_ETH_P_IP)) :
      action = .unspec ∧ SamePacket skb t.skb :=
    hfate.passed_of_accepted (fun isIpv6 hgue ↦ hno ((hcarries isIpv6).mp hgue).2) haccepted
  refine ⟨real, action, t, hknown, hresult, ?_, hother⟩
  rw [← hframe]
  constructor
  · rintro ⟨-, hunpacked⟩
    by_contra hno
    have hsame := (hother hno).2.frame
    have hinner : skb.frame.udpPayload (decide (real.flags = V6DADDR)) ≠ [] := hinside ▸ hpayload
    have hlong := List.length_pos_of_ne_nil hinner
    -- the frame that went up is longer than what it carries
    rw [hsame] at hunpacked
    have hlength := congrArg List.length hunpacked
    have hdropped : (m.skb.frame.drop ethhdrSize).length =
        (skb.frame.udpPayload (decide (real.flags = V6DADDR))).length := by rw [hinside]; rfl
    rw [List.length_append, hdropped] at hlength
    simp only [Frame.udpPayload, List.length_drop, List.length_take, ethhdrSize, udphdrSize]
      at hlong hlength
    omega
  · intro hright
    obtain ⟨haction, hunpacked⟩ :=
      hfate.unpacked_of_carries ((hcarries _).mpr ⟨rfl, hright⟩)
    exact ⟨haction, hunpacked.frame.trans (by rw [hinside]; rfl)⟩

end Healthchecks

/-- The marked segment in a build with `GUE_ENCAP`. -/
def checked : TcAction × HcMachine :=
  (healthcheckEncap ⟨0, false, true⟩ .sample .sample).result (.sample 7)

theorem checked_unpacked : ∃ action t,
    (tcdecap DecapEnv.sample).result
      ⟨TcSkb.received checked.2.skb.frame, some ⟨0, 0, 0⟩⟩ = (action, t) ∧
      action = .unspec ∧
        t.skb.frame = checked.2.skb.frame.take ethhdrSize ++ Frame.ack.drop ethhdrSize := by
  have hsent : (healthcheckEncap ⟨0, false, true⟩ .sample .sample).result (.sample 7) =
      (.redirect 2, checked.2) := rfl
  have hframe : (TcSkb.received checked.2.skb.frame).frame = checked.2.skb.frame := rfl
  obtain ⟨real, action, t, -, hresult, hiff, -⟩ := healthcheckEncap_unpacked_iff rfl (by decide)
    hsent DecapEnv.sample_succeeds hframe (by decide) ⟨0, 0, 0⟩
  exact ⟨action, t, hresult, hiff.mpr (Or.inr rfl)⟩

end Vsoshlb
