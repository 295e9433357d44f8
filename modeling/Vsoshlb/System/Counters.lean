import Vsoshlb.ControlPlane.Statistics
import Vsoshlb.DataPlane.HealthcheckFrames
import Vsoshlb.DataPlane.UnknownIds

/-!
# What the statistics say

The CPUs work side by side, each with counters of its own. Whatever the order of their packets, the
statistics that the balancer reads are those of all packets together.
-/

namespace Vsoshlb

open DataPlane EarlyExit

/-- The CPUs of a machine that has two. -/
def cpu0 : Fin 2 := 0

def cpu1 : Fin 2 := 1

/-- A counter that every event increases by whether `p` holds of its result. The statistics say how
many results there were with `p`, on all CPUs. -/
theorem readPerCpu_counts {config : Config} {s : State} (htesting : config.testing = false)
    (hok : s.nextOutcome = true) {σ ε ο : Type} {zero : σ} {add : σ → σ → σ} {next : σ → ε → ο × σ}
    (counter : σ → BitVec 64) (p : ο → Bool) (hzero : counter zero = 0)
    (hadd : ∀ total stats, counter (add total stats) = counter total + counter stats)
    (hstep : ∀ stats event, counter (next stats event).2 =
      counter stats + if p (next stats event).1 then 1 else 0) {n : ℕ}
    (events : List (Fin n × ε)) :
    let ended := SideBySide.run next events fun _ ↦ zero
    counter (readPerCpu config zero add (List.ofFn ended.2) s).1 =
      BitVec.ofNat 64 (ended.1.countP p) := by
  dsimp only
  calc
    _ = ∑ c, counter ((SideBySide.run next events fun _ ↦ zero).2 c) :=
      readPerCpu_component counter hzero hadd htesting hok _
    _ = ∑ c : Fin n, counter zero + ((SideBySide.run next events fun _ ↦ zero).1.map
          fun result ↦ if p result then 1 else 0).sum :=
      SideBySide.sum_run (I := fun _ ↦ True) (fun _ _ _ ↦ trivial)
        (fun stats event _ ↦ hstep stats event) events fun _ ↦ trivial
    _ = _ := by
      rw [hzero, Finset.sum_const_zero, zero_add, SideBySide.sum_map_ite]
      rfl

/-! ## VIPs and reals -/

/-- A packet and the maps that it meets, whose VIPs have numbers below their limit. Other CPUs, the
kernel and the balancer change the LRU maps too, so a packet can find anything there. -/
structure Packet (build : Build) where
  maps : KernelMaps
  env : Env
  lru : LruMap → FlowKey → Option RealPosLru
  numbersFit : NumbersFit build maps

/-- The machine that a packet finds, with the counters of its CPU. -/
def Packet.machine {build : Build} (packet : Packet build) (m : Machine) : Machine :=
  { m with lru := packet.lru }

/-- `processPacket` for one packet on a CPU. -/
def Packet.process {build : Build} (packet : Packet build) (m : Machine) : XdpAction × Machine :=
  (processPacket build packet.maps packet.env).result (packet.machine m).start

/-- One packet on a CPU, and what it is counted for. -/
def packetStep (build : Build) (m : Machine) (packet : Packet build) : Option Delivery × Machine :=
  (delivery build packet.maps packet.env (packet.machine m), (packet.process m).2)

/-- The deliveries that `p` selects. -/
def deliveriesFor (p : Delivery → Bool) (delivered : List (Option Delivery)) : List Delivery :=
  delivered.filterMap fun delivery ↦ delivery.filter p

/-- How many packets there are, and how many bytes. -/
def countDeliveries (deliveries : List Delivery) : DataPlane.LbStats :=
  ⟨BitVec.ofNat 64 deliveries.length, (deliveries.map Delivery.bytes).sum⟩

theorem countDeliveries_cons (delivery : Delivery) (deliveries : List Delivery) :
    countDeliveries (delivery :: deliveries) = delivery.amount + countDeliveries deliveries := by
  apply DataPlane.LbStats.ext
  · calc BitVec.ofNat 64 (deliveries.length + 1)
        = BitVec.ofNat 64 deliveries.length + 1 := BitVec.ofNat_add _ _
      _ = 1 + BitVec.ofNat 64 deliveries.length := BitVec.add_comm _ _
  · exact List.sum_cons

theorem sum_amountFor (p : Delivery → Bool) (delivered : List (Option Delivery)) :
    (delivered.map (amountFor p)).sum = countDeliveries (deliveriesFor p delivered) := by
  induction delivered with
  | nil => rfl
  | cons first delivered ih =>
    rw [List.map_cons, List.sum_cons, ih]
    cases first with
    | none => exact zero_add _
    | some delivery =>
      cases hp : p delivery with
      | false =>
        have hskip : deliveriesFor p (some delivery :: delivered) = deliveriesFor p delivered := by
          simp [deliveriesFor, Option.filter, hp]
        rw [hskip, amountFor, hp]
        exact zero_add _
      | true =>
        have htake : deliveriesFor p (some delivery :: delivered) =
            delivery :: deliveriesFor p delivered := by
          simp [deliveriesFor, Option.filter, hp]
        rw [htake, countDeliveries_cons, amountFor, hp, if_pos rfl]

section Deliveries

variable {config : Config} {build : Build} {s : State} {n : ℕ}

theorem Packet.machine_provisioned (packet : Packet build) {m : Machine}
    (hm : Provisioned build m) : Provisioned build (packet.machine m) := ⟨hm.stats, hm.quicStats⟩

/-- Counters at zero, with all their entries. -/
structure Fresh (build : Build) (m : Machine) : Prop where
  provisioned : Provisioned build m
  stats : ∀ key, vipCounters m key = 0
  reals : ∀ index, realCounters m index = 0

/-- The machines after the packets, and what the packets were counted for. -/
def afterPackets (packets : List (Fin n × Packet build)) (machines : Fin n → Machine) :
    List (Option Delivery) × (Fin n → Machine) :=
  SideBySide.run (packetStep build) packets machines

/-- A lookup adds up the counters of all CPUs, where every packet adds what it is counted for. -/
theorem getLbStats_counts (htesting : config.testing = false) (hok : s.nextOutcome = true)
    (counters : Machine → DataPlane.LbStats) {p : Delivery → Bool} {I : Machine → Prop}
    (hI : ∀ m packet, I m → I (packetStep build m packet).2)
    (hstep : ∀ m packet, I m → counters (packetStep build m packet).2 =
      counters m + amountFor p (packetStep build m packet).1)
    {machines : Fin n → Machine} (hmachines : ∀ c, I (machines c))
    (hzero : ∀ c, counters (machines c) = 0) (packets : List (Fin n × Packet build)) :
    let ended := afterPackets packets machines
    (getLbStats config (List.ofFn fun c ↦ counters (ended.2 c)) s).1 =
      countDeliveries (deliveriesFor p ended.1) := by
  dsimp only
  calc
    _ = ∑ c, counters ((afterPackets packets machines).2 c) :=
      readPerCpu_component id rfl (fun _ _ ↦ rfl) htesting hok _
    _ = ∑ c, counters (machines c) + ((afterPackets packets machines).1.map (amountFor p)).sum :=
      SideBySide.sum_run hI hstep packets hmachines
    _ = _ := by rw [Finset.sum_eq_zero fun c _ ↦ hzero c, zero_add, sum_amountFor]

/-- The statistics of a VIP and of the index of a real, whatever the order of the packets: the
packets that were delivered for them, on all CPUs, and their bytes. -/
theorem statistics_count (hfit : build.CountersFit) (htesting : config.testing = false)
    (hok : s.nextOutcome = true) {vip : VipKey} {v : Vip} (hvip : s.tables.vips.lookup vip = some v)
    (hnum : v.vipNum < build.maxVips.toNat) {machines : Fin n → Machine} {index : BitVec 32}
    (hfresh : ∀ c, Fresh build (machines c)) (hindex : ∀ c, ((machines c).realsStats index).isSome)
    (packets : List (Fin n × Packet build)) :
    let ended := afterPackets packets machines
    (getStatsForVip config (fun num ↦ List.ofFn fun c ↦ vipCounters (ended.2 c) num) vip s).1 =
        countDeliveries (deliveriesFor (fun d ↦ d.vipNum = BitVec.ofNat 32 v.vipNum) ended.1) ∧
      (getRealStats config (fun i ↦ List.ofFn fun c ↦ realCounters (ended.2 c) i) index s).1 =
        countDeliveries (deliveriesFor (fun d ↦ d.realIndex = index) ended.1) := by
  have htoNat : (BitVec.ofNat 32 v.vipNum).toNat < build.maxVips.toNat := by
    rw [BitVec.toNat_ofNat, Nat.mod_eq_of_lt (hnum.trans build.maxVips.isLt)]
    exact hnum
  constructor
  · rw [getStatsForVip, hvip]
    exact getLbStats_counts (I := Provisioned build) htesting hok (fun m ↦ vipCounters m _)
      (fun m packet hm ↦
        processPacket_provisioned hfit packet.numbersFit (packet.machine_provisioned hm))
      (fun m packet hm ↦
        processPacket_vipCounters hfit packet.numbersFit (packet.machine_provisioned hm) htoNat)
      (fun c ↦ (hfresh c).provisioned) (fun c ↦ (hfresh c).stats _) packets
  · exact getLbStats_counts
      (I := fun m ↦ Provisioned build m ∧ (m.realsStats index).isSome) htesting hok
      (fun m ↦ realCounters m index)
      (fun m packet hm ↦
        have hfound := packet.machine_provisioned hm.1
        ⟨processPacket_provisioned hfit packet.numbersFit hfound,
          (processPacket_realsStats hfit packet.numbersFit hfound index).trans hm.2⟩)
      (fun m packet hm ↦
        processPacket_realCounters hfit packet.numbersFit (packet.machine_provisioned hm.1) hm.2)
      (fun c ↦ ⟨(hfresh c).provisioned, hindex c⟩) (fun c ↦ (hfresh c).reals _) packets

end Deliveries

/-! ## Routing by a server id -/

/-- No TCP packet has been counted as one that a server id routes. -/
def DataPlane.TprPacketsStats.Unrouted (stats : TprPacketsStats) : Prop :=
  stats.sidRouted = 0 ∧ stats.dstMismatchInLru = 0

def TprUnrouted (m : Machine) : Prop := ∀ stats ∈ m.tprStats, stats.Unrouted

section Routing

variable {config : Config} {build : Build} {s : State} {n : ℕ}

theorem tprUnrouted_unrouting : Unrouting build TprUnrouted where
  bump _ _ hm := hm
  pckt _ hm := hm

theorem tprUnrouted_undelivered : Undelivered build TprUnrouted where
  toUncounted := tprUnrouted_unrouting.toUncounted
  quiet hm h := by
    unfold TprUnrouted
    rw [h.tprStats]
    exact hm
  quic _ hm := hm
  tpr hf hm := by
    intro stats hstats
    obtain ⟨old, hold, rfl⟩ := Option.map_eq_some_iff.mp hstats
    exact ⟨(hf old).1.trans (hm old hold).1, (hf old).2.trans (hm old hold).2⟩

theorem processPacket_tprUnrouted {packet : Packet build} {m : Machine} (hm : TprUnrouted m) :
    TprUnrouted (packet.process m).2 := by
  have hprocess : Keeps TprUnrouted (processPacket build packet.maps packet.env) := by
    refine .bind tprUnrouted_unrouting.classify fun found ↦ ?_
    dsimp only
    rw [balance_eq]
    refine .bind (tprUnrouted_undelivered.chooseReal fun _ _ _ _ _ hm ↦ hm) fun _ ↦ ?_
    refine deliver_keeps (fun _ _ _ htpr hm ↦ ?_) _
    unfold TprUnrouted
    rw [htpr]
    exact hm
  exact Triple.result (s := (packet.machine m).start) hprocess hm

/-- The statistics of TCP packets that are routed by a server id stay at zero: the option with the
id is never found, whatever packets come. -/
theorem tcpServerIdRouting_never {machines : Fin n → Machine} (h : ∀ c, TprUnrouted (machines c))
    (packets : List (Fin n × Packet build)) :
    let ended := afterPackets packets machines
    (getTcpServerIdRoutingStats config
      (List.ofFn fun c ↦ (ended.2 c).tprStats.getD .zero) s).1.Unrouted := by
  have hended (c : Fin n) : TprUnrouted ((afterPackets packets machines).2 c) :=
    @SideBySide.run_invariant _ _ _ _ _ (packetStep build) TprUnrouted
      (fun _ _ hm ↦ processPacket_tprUnrouted hm) packets machines h c
  refine readPerCpu_invariant (p := TprPacketsStats.Unrouted) ⟨rfl, rfl⟩
    fun total stats hmem htotal ↦ ?_
  obtain ⟨c, rfl⟩ := List.mem_ofFn.mp hmem
  have hstats : (((afterPackets packets machines).2 c).tprStats.getD .zero).Unrouted := by
    cases htpr : ((afterPackets packets machines).2 c).tprStats with
    | none => exact ⟨rfl, rfl⟩
    | some stats => exact hended c stats htpr
  unfold TprPacketsStats.Unrouted TprPacketsStats.add
  rw [htotal.1, htotal.2, hstats.1, hstats.2]
  exact ⟨rfl, rfl⟩

/-- What `process_udp_stable_routing` makes of a packet. -/
inductive StableOutcome where
  | notStable
  | noId
  | unknownId
  | noReal
  | routed
deriving DecidableEq, Repr

/-- A packet that comes to `process_udp_stable_routing`, as far as routing has got with it. -/
structure StableArrival where
  maps : KernelMaps
  frame : Frame
  isIpv6 : Bool
  machine : Machine

def StableArrival.outcome (arrival : StableArrival) : StableOutcome :=
  let usr := parseUdpStableRtHdr arrival.frame arrival.isIpv6 arrival.machine.pckt
  if usr.serverId = 0 then
    if usr.isStableRtPkt then .noId else .notStable
  else if (arrival.maps.serverIdMap usr.serverId).isNone then
    .unknownId
  else if arrival.machine.dst.isNone then
    .noReal
  else
    .routed

/-- The packets that go on to the flow table and the ring. -/
def StableOutcome.hashed (outcome : StableOutcome) : Bool :=
  outcome = .notStable ∨ outcome = .noId ∨ outcome = .unknownId

/-- One packet on a CPU, with the counters of the CPU. -/
def stableStep (stats : StableRtPacketsStats) (arrival : StableArrival) :
    StableOutcome × StableRtPacketsStats :=
  let ended := processUdpStableRouting arrival.maps arrival.frame arrival.isIpv6
    { arrival.machine with stableRtStats := some stats }
  (arrival.outcome, ended.stableRtStats.getD stats)

/-- Which counters a packet increases. -/
structure StableCounted (outcome : StableOutcome) (stats after : StableRtPacketsStats) : Prop where
  hashed : after.chRouted = stats.chRouted + if outcome.hashed then 1 else 0
  unknownId : after.cidInvalidServerId =
    stats.cidInvalidServerId + if outcome = .unknownId then 1 else 0
  noReal : after.cidUnknownRealDropped =
    stats.cidUnknownRealDropped + if outcome = .noReal then 1 else 0
  routed : after.cidRouted = stats.cidRouted + if outcome = .routed then 1 else 0

theorem stableStep_counted {stats : StableRtPacketsStats} {arrival : StableArrival} :
    StableCounted (stableStep stats arrival).1 stats (stableStep stats arrival).2 := by
  simp only [stableStep, StableArrival.outcome, processUdpStableRouting]
  generalize parseUdpStableRtHdr arrival.frame arrival.isIpv6 arrival.machine.pckt = usr
  by_cases hid : usr.serverId = 0
  · rw [if_pos hid, if_neg (not_not_intro hid)]
    split_ifs
    · constructor <;> simp [StableOutcome.hashed]
    · constructor <;> simp [StableOutcome.hashed]
  · rw [if_neg hid, if_pos hid]
    split_ifs
    · constructor <;> simp [StableOutcome.hashed]
    · constructor <;> simp [StableOutcome.hashed]
    · constructor <;> simp [StableOutcome.hashed]

/-- The statistics of stable routing, whatever the CPUs and the order. Every packet goes on to the
flow table and the ring, lacks its real or is routed, and the packets of an invalid type are
reported as none. -/
theorem udpStableRouting_counts (htesting : config.testing = false) (hok : s.nextOutcome = true)
    (arrivals : List (Fin n × StableArrival)) :
    let ended := SideBySide.run stableStep arrivals fun _ ↦ .zero
    let stats := (getUdpStableRoutingStats config (List.ofFn ended.2) s).1
    stats.chRouted = BitVec.ofNat 64 (ended.1.countP StableOutcome.hashed) ∧
      stats.cidInvalidServerId = BitVec.ofNat 64 (ended.1.countP (· = .unknownId)) ∧
      stats.cidUnknownRealDropped = BitVec.ofNat 64 (ended.1.countP (· = .noReal)) ∧
      stats.cidRouted = BitVec.ofNat 64 (ended.1.countP (· = .routed)) ∧
      stats.invalidPacketType = 0 ∧
      ended.1.countP StableOutcome.hashed + ended.1.countP (· = .noReal) +
        ended.1.countP (· = .routed) = arrivals.length := by
  have hcount (counter : StableRtPacketsStats → BitVec 64) (p : StableOutcome → Bool) :=
    @readPerCpu_counts config s htesting hok _ _ _ .zero .add stableStep counter p
  refine ⟨?_, ?_, ?_, ?_, ?_, ?_⟩
  · exact hcount _ _ rfl (fun _ _ ↦ rfl) (fun _ _ ↦ stableStep_counted.hashed) arrivals
  · refine hcount _ _ rfl (fun _ _ ↦ rfl) (fun _ _ ↦ ?_) arrivals
    simpa using stableStep_counted.unknownId
  · refine hcount _ _ rfl (fun _ _ ↦ rfl) (fun _ _ ↦ ?_) arrivals
    simpa using stableStep_counted.noReal
  · refine hcount _ _ rfl (fun _ _ ↦ rfl) (fun _ _ ↦ ?_) arrivals
    simpa using stableStep_counted.routed
  · exact readPerCpu_invariant (p := fun total : StableRtPacketsStats ↦
      total.invalidPacketType = 0) rfl fun _ _ _ htotal ↦ htotal
  · rw [← @SideBySide.run_length _ _ _ _ _ stableStep arrivals fun _ ↦ .zero]
    induction (SideBySide.run stableStep arrivals fun _ ↦ .zero).1 with
    | nil => rfl
    | cons outcome outcomes ih =>
      rw [List.countP_cons, List.countP_cons, List.countP_cons, List.length_cons, ← ih]
      cases outcome with
      | notStable => simp [StableOutcome.hashed]; omega
      | noId => simp [StableOutcome.hashed]; omega
      | unknownId => simp [StableOutcome.hashed]; omega
      | noReal => simp [StableOutcome.hashed]; omega
      | routed => simp [StableOutcome.hashed]; omega

end Routing

/-! ## Health checks -/

/-- A packet that leaves the host, and what the program finds. -/
structure HcPacket where
  maps : HcMaps
  env : HcEnv
  skb : SkBuff
  perHckeyStats : BitVec 32 → Option (BitVec 64)

/-- What became of a packet. -/
structure HcResult where
  action : TcAction
  tooBig : Bool

/-- One packet on a CPU, with the counters of the CPU. -/
def hcStep (build : HcBuild) (stats : HcStats) (packet : HcPacket) : HcResult × HcStats :=
  let ended := (healthcheckEncap build packet.maps packet.env).result
    ⟨packet.skb, some stats, packet.perHckeyStats⟩
  (⟨ended.1, HcTooBig build packet.maps packet.skb⟩, ended.2.hcStatsMap.getD stats)

def HcResult.isProcessed (result : HcResult) : Bool :=
  match result.action with
  | .redirect _ => true
  | _ => false

def HcResult.isDropped (result : HcResult) : Bool := result.action = .shot

def HcResult.isSkipped (result : HcResult) : Bool := result.action = .unspec

section Healthchecks

variable {build : HcBuild} {stats : HcStats} {packet : HcPacket}

/-- Which counters a packet increases. A packet that is too big is dropped. -/
structure HcCounted (result : HcResult) (stats after : HcStats) : Prop where
  processed : after.pcktsProcessed = stats.pcktsProcessed + if result.isProcessed then 1 else 0
  dropped : after.pcktsDropped = stats.pcktsDropped + if result.isDropped then 1 else 0
  skipped : after.pcktsSkipped = stats.pcktsSkipped + if result.isSkipped then 1 else 0
  tooBig : after.pcktsTooBig = stats.pcktsTooBig + if result.tooBig then 1 else 0
  tooBig_dropped : result.tooBig → result.isDropped

theorem hcStep_counted :
    HcCounted (hcStep build stats packet).1 stats (hcStep build stats packet).2 := by
  have hends := (@healthcheckEncap_ends build packet.maps packet.env packet.skb stats).result
    (s := ⟨packet.skb, some stats, packet.perHckeyStats⟩) ⟨rfl, rfl⟩
  unfold hcStep
  generalize (healthcheckEncap build packet.maps packet.env).result
    ⟨packet.skb, some stats, packet.perHckeyStats⟩ = ended at hends ⊢
  obtain ⟨action, m⟩ := ended
  dsimp only at hends ⊢
  cases action with
  | unspec =>
    obtain ⟨hnone, -, hstats⟩ := hends
    have hfits : ¬ HcTooBig build packet.maps packet.skb := by
      intro hbig
      have hknown := hbig.1
      rw [hnone] at hknown
      cases hknown
    rw [hstats, decide_eq_false hfits]
    constructor <;> simp [HcStats.skipped, HcResult.isProcessed, HcResult.isDropped,
      HcResult.isSkipped]
  | shot =>
    obtain ⟨-, hstats⟩ := hends
    rw [hstats]
    by_cases hbig : HcTooBig build packet.maps packet.skb
    · rw [if_pos hbig, decide_eq_true hbig]
      constructor <;> simp [HcStats.dropped, HcStats.tooBig, HcResult.isProcessed,
        HcResult.isDropped, HcResult.isSkipped]
    · rw [if_neg hbig, decide_eq_false hbig]
      constructor <;> simp [HcStats.dropped, HcResult.isProcessed, HcResult.isDropped,
        HcResult.isSkipped]
  | redirect ifindex =>
    obtain ⟨hstats, real, hsent⟩ := hends
    rw [hstats, decide_eq_false hsent.fits]
    constructor <;> simp [HcStats.processed, HcResult.isProcessed, HcResult.isDropped,
      HcResult.isSkipped]

/-- The CPUs after the packets, and what became of the packets. -/
def afterHcPackets (build : HcBuild) {n : ℕ} (packets : List (Fin n × HcPacket)) :
    List HcResult × (Fin n → HcStats) :=
  SideBySide.run (hcStep build) packets fun _ ↦ .zero

theorem afterHcPackets_length {n : ℕ} (packets : List (Fin n × HcPacket)) :
    (afterHcPackets build packets).1.length = packets.length :=
  SideBySide.run_length packets _

/-- Every packet that the program sees is processed, dropped or skipped, and the statistics say how
many there were of each, whatever the CPUs and the order. -/
theorem healthcheckStatistics_count {config : Config} {s : State}
    (htesting : config.testing = false) (hok : s.nextOutcome = true) {n : ℕ}
    (packets : List (Fin n × HcPacket)) :
    let results := (afterHcPackets build packets).1
    let stats := (getStatsForHealthCheckProgram config
      (List.ofFn (afterHcPackets build packets).2) s).1
    stats.pcktsProcessed = BitVec.ofNat 64 (results.countP HcResult.isProcessed) ∧
      stats.pcktsDropped = BitVec.ofNat 64 (results.countP HcResult.isDropped) ∧
      stats.pcktsSkipped = BitVec.ofNat 64 (results.countP HcResult.isSkipped) ∧
      stats.pcktsTooBig = BitVec.ofNat 64 (results.countP HcResult.tooBig) ∧
      results.countP HcResult.isProcessed + results.countP HcResult.isDropped +
        results.countP HcResult.isSkipped = packets.length := by
  have hcount (counter : HcStats → BitVec 64) (p : HcResult → Bool) :=
    @readPerCpu_counts config s htesting hok _ _ _ .zero .add (hcStep build) counter p
  refine ⟨?_, ?_, ?_, ?_, ?_⟩
  · exact hcount _ _ rfl (fun _ _ ↦ rfl) (fun _ _ ↦ hcStep_counted.processed) packets
  · exact hcount _ _ rfl (fun _ _ ↦ rfl) (fun _ _ ↦ hcStep_counted.dropped) packets
  · exact hcount _ _ rfl (fun _ _ ↦ rfl) (fun _ _ ↦ hcStep_counted.skipped) packets
  · exact hcount _ _ rfl (fun _ _ ↦ rfl) (fun _ _ ↦ hcStep_counted.tooBig) packets
  · rw [← @afterHcPackets_length build n packets]
    induction (afterHcPackets build packets).1 with
    | nil => rfl
    | cons result results ih =>
      rw [List.countP_cons, List.countP_cons, List.countP_cons, List.length_cons, ← ih]
      cases haction : result.action with
      | unspec =>
        simp [HcResult.isProcessed, HcResult.isDropped, HcResult.isSkipped, haction]; omega
      | shot => simp [HcResult.isProcessed, HcResult.isDropped, HcResult.isSkipped, haction]; omega
      | redirect ifindex =>
        simp [HcResult.isProcessed, HcResult.isDropped, HcResult.isSkipped, haction]; omega

/-- A packet of a health check, another packet, and the same once more on the other CPU. -/
def hcPackets : List (Fin 2 × HcPacket) :=
  [(cpu0, ⟨.sample, .sample, .ack 7, fun _ ↦ none⟩),
    (cpu1, ⟨.sample, .sample, .ack 0, fun _ ↦ none⟩),
    (cpu1, ⟨.sample, .sample, .ack 7, fun _ ↦ none⟩)]

theorem hcPackets_count :
    let results := (afterHcPackets .plain hcPackets).1
    let stats := (getStatsForHealthCheckProgram .sample
      (List.ofFn (afterHcPackets .plain hcPackets).2) (.sample [])).1
    stats.pcktsProcessed = BitVec.ofNat 64 (results.countP HcResult.isProcessed) ∧
      stats.pcktsDropped = BitVec.ofNat 64 (results.countP HcResult.isDropped) ∧
      stats.pcktsSkipped = BitVec.ofNat 64 (results.countP HcResult.isSkipped) ∧
      stats.pcktsTooBig = BitVec.ofNat 64 (results.countP HcResult.tooBig) ∧
      results.countP HcResult.isProcessed + results.countP HcResult.isDropped +
        results.countP HcResult.isSkipped = hcPackets.length :=
  healthcheckStatistics_count rfl rfl hcPackets

end Healthchecks

end Vsoshlb
