import Vsoshlb.DataPlane.ServerIdPaths
import Vsoshlb.DataPlane.Undelivered

/-!
# Which packets are forwarded

The end of `process_packet` is only for packets with a real, and only a server id gives a packet its
real. So the packets that are forwarded are those of QUIC services whose connection id has a server
id that `server_id_map` knows and that is the index of a real. Their counters are those of the VIP
and of the index that the packet has at the end.
-/

namespace Vsoshlb.DataPlane

open EarlyExit

variable (build : Build) (maps : KernelMaps) (env : Env)

/-- The part of `process_packet` between the lookup of the VIP and `deliver`, with the port that the
source has there. -/
def chooseReal (vip : VipDefinition) (vipInfo : VipMeta) : XdpProg (BitVec 16) := do
  Prog.when (build.maxPcktSize < env.frame.length) (rejectTooBig build env)
  countOrDrop (build.maxVips + LRU_CNTRS) (LbStats.addV1 1)
  Prog.modify fun m ↦ { m with pckt.flow := hideSourcePort vipInfo m.pckt.flow }
  let lruMap ← findLruMap build maps env
  routeByServerId build maps env vipInfo lruMap
  let originalSport ← Prog.read fun m ↦ m.pckt.flow.sport
  Prog.when (← Prog.read fun m ↦ m.dst.isNone) (selectReal build maps env vip vipInfo lruMap)
  return originalSport

theorem balance_eq (vip : VipDefinition) (vipInfo : VipMeta) :
    balance build maps env vip vipInfo =
      chooseReal build maps env vip vipInfo >>= deliver build maps env vipInfo := by
  simp only [balance, chooseReal, Prog.bind_assoc, Prog.pure_bind]

variable {build maps env} {vip : VipDefinition} {vipInfo : VipMeta}

/-- The choice keeps a statement that goes through the count of an invalid id. -/
theorem Undelivered.chooseReal {P : Machine → Prop} (hP : Undelivered build P)
    (hinvalid : ∀ m₀ id, P m₀ → unknownServerId maps env vipInfo m₀.pckt = some id →
      ∀ m, P m → P (m.countInvalid id)) :
    Keeps P (chooseReal build maps env vip vipInfo) := by
  refine .bind (.when fun _ ↦ hP.toUncounted.rejectTooBig) fun _ ↦ ?_
  refine .bind (hP.toUncounted.countOrDrop (by decide) _) fun _ ↦ ?_
  refine .bind (.modify fun _ hm ↦ hP.quiet hm ⟨rfl, rfl, rfl, rfl, rfl⟩) fun _ ↦ ?_
  refine .bind hP.toUncounted.findLruMap fun lruMap ↦ ?_
  refine .bind (hP.routeByServerId lruMap hinvalid) fun _ ↦ ?_
  refine .bind .read fun _ ↦ .bind .read fun _ ↦ ?_
  exact .bind (.when fun _ ↦ hP.selectReal vip lruMap) fun _ ↦ .pure

/-! ## Arrays with all their entries -/

/-- The arrays of counters have their entries, as arrays of the kernel do. -/
structure Provisioned (build : Build) (m : Machine) : Prop where
  stats : ∀ key : BitVec 32, key.toNat ≤ build.maxVips.toNat + lastCounter → (m.stats key).isSome
  quicStats : m.quicStats.isSome

/-- The counters of a build come without overflow after those of the VIPs. -/
def Build.CountersFit (build : Build) : Prop := build.maxVips.toNat + lastCounter < 2 ^ 32

instance (build : Build) : Decidable build.CountersFit := inferInstanceAs (Decidable (_ < _))

theorem Build.CountersFit.toNat_add (h : build.CountersFit) {offset : BitVec 32}
    (hoffset : offset.toNat ≤ lastCounter) :
    (build.maxVips + offset).toNat = build.maxVips.toNat + offset.toNat :=
  BitVec.toNat_add_of_lt (lt_of_le_of_lt (Nat.add_le_add_left hoffset _) h)

theorem bump_isSome (m : Machine) (key key' : BitVec 32) (f : LbStats → LbStats) :
    ((m.bump key f).stats key').isSome = (m.stats key').isSome := by
  simp only [Machine.bump, Function.update_apply]
  split_ifs with hkey
  · rw [Option.isSome_map, hkey]
  · rfl

theorem provisioned_uncounted : Uncounted build (Provisioned build) where
  bump f _ hm := ⟨fun key hkey ↦ by rw [bump_isSome]; exact hm.stats key hkey, hm.quicStats⟩

theorem provisioned_unrouting : Unrouting build (Provisioned build) where
  toUncounted := provisioned_uncounted
  pckt _ hm := ⟨hm.stats, hm.quicStats⟩

theorem Provisioned.mapQuic {m : Machine} (hm : Provisioned build m)
    (f : QuicPacketsStats → QuicPacketsStats) :
    Provisioned build { m with quicStats := m.quicStats.map f } :=
  ⟨hm.stats, by rw [Option.isSome_map]; exact hm.quicStats⟩

theorem provisioned_undelivered : Undelivered build (Provisioned build) where
  toUncounted := provisioned_uncounted
  quiet hm h := ⟨by rw [h.stats]; exact hm.stats, by rw [h.quicStats]; exact hm.quicStats⟩
  quic _ hm := hm.mapQuic _
  tpr _ hm := ⟨hm.stats, hm.quicStats⟩

/-- A counter that is there. -/
theorem Uncounted.countOrDrop_provisioned {P : Machine → Prop} (hP : Uncounted build P)
    (hfit : build.CountersFit) (hprovisioned : ∀ m, P m → Provisioned build m) {offset : BitVec 32}
    (hoffset : offset.toNat ≤ lastCounter) {f : LbStats → LbStats}
    {E : XdpAction → Machine → Prop} :
    Triple P (DataPlane.countOrDrop (build.maxVips + offset) f) (fun _ ↦ P) E := by
  refine .read_bind fun m hm ↦ .exitIf_bind (fun hnone ↦ ?_) fun _ ↦ .modify fun _ hm ↦
    hP.bump f hoffset hm
  have hsome := (hprovisioned m hm).stats (build.maxVips + offset)
    (by rw [hfit.toNat_add hoffset]; exact Nat.add_le_add_left hoffset _)
  rw [Option.isNone_iff_eq_none.mp hnone] at hsome
  cases hsome

theorem Uncounted.findLruMap_provisioned {P : Machine → Prop} (hP : Uncounted build P)
    (hfit : build.CountersFit) (hprovisioned : ∀ m, P m → Provisioned build m)
    {E : XdpAction → Machine → Prop} :
    Triple P (DataPlane.findLruMap build maps env) (fun _ ↦ P) E := by
  unfold DataPlane.findLruMap
  split
  · exact .pure fun _ hm ↦ hm
  · exact .bind (hP.countOrDrop_provisioned hfit hprovisioned (by decide)) fun _ ↦
      .pure fun _ hm ↦ hm

/-! ## The choice of a real -/

/-- The state of a packet that has no real yet, with the flags that it came with. -/
def Ready (build : Build) (flags : BitVec 8) (m : Machine) : Prop :=
  Provisioned build m ∧ Unrouted flags m

theorem ready_uncounted {flags : BitVec 8} : Uncounted build (Ready build flags) where
  bump f hoffset hm := ⟨provisioned_uncounted.bump f hoffset hm.1, hm.2⟩

/-- The real of a packet that is routed by its server id: the one that has the server id for its
index. -/
def idReal (maps : KernelMaps) (env : Env) (pckt : PacketDescription) : Option RealDefinition :=
  maps.reals (parseQuic env.frame env.isIpv6 pckt).serverId

/-- A packet with a server id gets its real. -/
theorem chooseReal_routed (hfit : build.CountersFit)
    (hsize : env.frame.length ≤ build.maxPcktSize) {pckt : PacketDescription}
    (h : RoutedByServerId maps env vipInfo pckt) :
    Triple (Ready build pckt.flags) (chooseReal build maps env vip vipInfo)
      (fun _ m ↦ m.dst = idReal maps env pckt) (fun _ _ ↦ False) := by
  obtain ⟨hquic, hclient, hid, hknown, hreal⟩ := h
  obtain ⟨real, hreal⟩ := Option.isSome_iff_exists.mp hreal
  obtain ⟨pos, hpos⟩ := Option.isSome_iff_exists.mp hknown
  have hdst : idReal maps env pckt = some real := hreal
  rw [hdst]
  refine .bind (.when (Q := fun _ ↦ Ready build pckt.flags)
    (fun hbig ↦ absurd hsize (Nat.not_le.mpr hbig)) fun _ _ hm ↦ hm) fun _ ↦ ?_
  refine .bind (ready_uncounted.countOrDrop_provisioned hfit (fun _ hm ↦ hm.1) (by decide)) fun _ ↦
    ?_
  refine .bind (.modify (Q := fun _ ↦ Ready build pckt.flags) fun _ hm ↦ ⟨⟨hm.1.1, hm.1.2⟩, hm.2⟩)
    fun _ ↦ .bind (ready_uncounted.findLruMap_provisioned hfit fun _ hm ↦ hm.1) fun lruMap ↦ ?_
  refine .bind (Q := fun _ m ↦ m.dst = some real) (fun m hm ↦ ?_) fun _ ↦ ?_
  · -- the lookups by a server id, from one state
    have hsame : parseQuic env.frame env.isIpv6 m.pckt = parseQuic env.frame env.isIpv6 pckt := by
      simp only [parseQuic, hm.2.2]
    have hnoIcmp : hasFlag m.pckt.flags F_ICMP = false := by rw [hm.2.2, hclient]
    have hentry : quicEntry maps env.frame env.isIpv6 m.pckt = some (some real) := by
      rw [quicEntry_of_parsed hnoIcmp (by rw [hsame]; exact hid), hsame, serverIdEntry, hpos,
        ← hreal]
      rfl
    have hdecides := @routeByServerId_decides build maps env (vip, vipInfo, lruMap) m hm.2.1
      hm.1.quicStats fun hicmp ↦ by rw [hnoIcmp] at hicmp; cases hicmp
    rw [if_pos hquic, hentry] at hdecides
    refine hdecides.conseq (fun _ h ↦ h) (fun _ t ht ↦ ?_) (fun _ _ hdropped ↦ ?_) m rfl
    · cases hend : t.dst with
      | none =>
        rw [hend] at ht
        cases ht
      | some other =>
        rw [hend] at ht
        injection ht with hother
        rw [hother]
    · cases hdropped
  · refine .read_bind fun _ _ ↦ .read_bind fun m hm ↦ ?_
    refine .bind (.when (Q := fun _ m ↦ m.dst = some real) (fun hnone ↦ ?_) fun _ _ hm ↦ hm)
      fun _ ↦ .pure fun _ hm ↦ hm
    rw [hm] at hnone
    cases hnone

/-- A packet that no server id routes does not get a real. -/
theorem chooseReal_unrouted {pckt : PacketDescription}
    (h : ¬ RoutedByServerId maps env vipInfo pckt) :
    Triple (Unrouted pckt.flags) (chooseReal build maps env vip vipInfo) (fun _ _ ↦ False)
      (Lost build env) := by
  refine .bind (.when (fun hsize ↦ rejectTooBig_unrouted hsize) fun _ _ hs ↦ hs) fun _ ↦ ?_
  refine .bind (countOrDrop_unrouted _ _) fun _ ↦ ?_
  refine .bind (.modify (Q := fun _ ↦ Unrouted pckt.flags) fun _ hs ↦ hs) fun _ ↦ ?_
  refine .bind findLruMap_unrouted fun lruMap ↦ .bind (routeByServerId_unrouted lruMap h) fun _ ↦ ?_
  refine .read_bind fun _ _ ↦ .read_bind fun s hs ↦ ?_
  refine .bind (.when (Q := fun _ _ ↦ False) (fun _ ↦ selectReal_unrouted vip lruMap)
    fun hsome ↦ ?_) fun _ _ h ↦ h.elim
  simp [hs.1] at hsome

/-- Nor does a packet that is too big. -/
theorem chooseReal_tooBig (hsize : build.maxPcktSize < env.frame.length) {flags : BitVec 8} :
    Triple (Unrouted flags) (chooseReal build maps env vip vipInfo) (fun _ _ ↦ False)
      (Lost build env) := by
  refine .bind (Q := fun _ _ ↦ False) (.when (fun _ ↦ ?_) fun hnot ↦ absurd hsize hnot)
    fun _ _ h ↦ h.elim
  refine .ite (fun _ ↦ .bind (countOrDrop_unrouted _ _) fun _ ↦ ?_) fun _ ↦ .exit fun m hm ↦ hm.lost
  refine .exitIf_bind (fun _ m hm ↦ hm.lost) fun _ ↦ .exit fun m hm ↦ ?_
  exact ⟨hm.1, fun hle ↦ absurd hsize (Nat.not_lt.mpr hle)⟩

/-- The choice comes to an end for the packets that get a real. -/
theorem chooseReal_returns_iff (hfit : build.CountersFit) {t : Machine} (ht : Provisioned build t)
    (hnone : t.dst = none) :
    (∃ sport t', chooseReal build maps env vip vipInfo t = (.ok sport, t')) ↔
      env.frame.length ≤ build.maxPcktSize ∧ RoutedByServerId maps env vipInfo t.pckt := by
  have hunrouted : Unrouted t.pckt.flags t := ⟨hnone, rfl⟩
  constructor
  · rintro ⟨sport, t', hrun⟩
    have hsize : env.frame.length ≤ build.maxPcktSize := by
      by_contra hbig
      exact (chooseReal_tooBig (Nat.not_le.mp hbig)).ok hunrouted hrun
    refine ⟨hsize, ?_⟩
    by_contra hrouted
    exact (chooseReal_unrouted hrouted).ok hunrouted hrun
  · rintro ⟨hsize, hrouted⟩
    have hchoose := @chooseReal_routed build maps env vip vipInfo hfit hsize t.pckt hrouted
    obtain ⟨sport, t', hrun, -⟩ := hchoose.returns ⟨ht, hunrouted⟩
    exact ⟨sport, t', hrun⟩

theorem dst_unrouting : Unrouting build fun m ↦ m.dst = none where
  pckt _ hm := hm
  bump _ _ hm := hm

/-- A packet whose VIP is found has no real yet. -/
theorem classify_ready {m t : Machine} {found : VipDefinition × VipMeta} (hm : Provisioned build m)
    (hclass : classify build maps env m.start = (.ok found, t)) :
    Provisioned build t ∧ t.dst = none := by
  have hprovisioned : Keeps (Provisioned build) (classify build maps env) :=
    (@provisioned_unrouting build).classify
  have hundecided : Keeps (fun m ↦ m.dst = none) (classify build maps env) :=
    (@dst_unrouting build).classify
  have hstart : Provisioned build m.start := ⟨hm.stats, hm.quicStats⟩
  exact ⟨hprovisioned.ok hstart hclass, hundecided.ok (s := m.start) rfl hclass⟩

theorem deliver_dst (dst : Option RealDefinition) (originalSport : BitVec 16) :
    Keeps (fun m ↦ m.dst = dst) (deliver build maps env vipInfo originalSport) := by
  refine .bind .exitIf fun _ ↦ ?_
  refine .bind (countOrDrop_triple (fun _ hm ↦ hm) fun _ hm ↦ hm) fun _ ↦ ?_
  refine .bind .read fun _ ↦ .bind .read fun _ ↦ .bind .exitIf fun _ ↦ ?_
  refine .bind (.modify fun _ hm ↦ hm) fun _ ↦ .bind .read fun _ ↦ .bind .exitIf fun _ ↦ ?_
  exact .bind (.modify fun _ hm ↦ hm) fun _ ↦ .pure

/-! ## The packets that get a real -/

/-- The packet is not too big, and it is one of a service for QUIC whose server id names a real. -/
def Forwardable (build : Build) (maps : KernelMaps) (env : Env) (m : Machine)
    (real : RealDefinition) : Prop :=
  env.frame.length ≤ build.maxPcktSize ∧ ∃ vip vipInfo t,
    classify build maps env m.start = (.ok (vip, vipInfo), t) ∧
      RoutedByServerId maps env vipInfo t.pckt ∧ idReal maps env t.pckt = some real

/-- The real at the end of `balance`. -/
theorem balance_dst_iff (hfit : build.CountersFit) {t : Machine} (ht : Provisioned build t)
    (hnone : t.dst = none) (real : RealDefinition) :
    ((balance build maps env vip vipInfo).result t).2.dst = some real ↔
      env.frame.length ≤ build.maxPcktSize ∧ RoutedByServerId maps env vipInfo t.pckt ∧
        idReal maps env t.pckt = some real := by
  have hunrouted : Unrouted t.pckt.flags t := ⟨hnone, rfl⟩
  have hlost (hchoose : Triple (Unrouted t.pckt.flags) (chooseReal build maps env vip vipInfo)
      (fun _ _ ↦ False) (Lost build env)) :
      ((balance build maps env vip vipInfo).result t).2.dst = none := by
    rw [balance_eq]
    exact (Triple.bind hchoose fun _ _ h ↦ h.elim).result hunrouted |>.1
  by_cases hsize : env.frame.length ≤ build.maxPcktSize
  · by_cases hrouted : RoutedByServerId maps env vipInfo t.pckt
    · have hchoose := @chooseReal_routed build maps env vip vipInfo hfit hsize t.pckt hrouted
      have hbalance : Triple (Ready build t.pckt.flags) (balance build maps env vip vipInfo)
          (fun _ m ↦ m.dst = idReal maps env t.pckt) fun _ m ↦ m.dst = idReal maps env t.pckt := by
        rw [balance_eq]
        exact .bind (hchoose.conseq (fun _ h ↦ h) (fun _ _ h ↦ h) fun _ _ h ↦ h.elim)
          fun sport ↦ deliver_dst (idReal maps env t.pckt) sport
      rw [hbalance.result ⟨ht, hunrouted⟩]
      exact ⟨fun hreal ↦ ⟨hsize, hrouted, hreal⟩, fun h ↦ h.2.2⟩
    · rw [hlost (chooseReal_unrouted hrouted)]
      exact iff_of_false (fun h ↦ by cases h) fun h ↦ hrouted h.2.1
  · rw [hlost (chooseReal_tooBig (Nat.not_le.mp hsize))]
    exact iff_of_false (fun h ↦ by cases h) fun h ↦ hsize h.1

/-- A packet ends with a real exactly where a server id gives it that real. Neither the tables of
flows nor the ring ever do. -/
theorem processPacket_dst_iff (hfit : build.CountersFit) {m : Machine} (hm : Provisioned build m)
    (real : RealDefinition) :
    ((processPacket build maps env).result m.start).2.dst = some real ↔
      Forwardable build maps env m real := by
  have hundecided : Keeps (fun m ↦ m.dst = none) (classify build maps env) :=
    (@dst_unrouting build).classify
  have hnone := hundecided m.start rfl
  cases hclass : classify build maps env m.start with
  | mk outcome t =>
    rw [hclass] at hnone
    cases outcome with
    | error action =>
      have hended : (processPacket build maps env).result m.start = (action, t) := by
        simp only [processPacket, Prog.result, Prog.bind_apply, hclass]
      have hdst : ((processPacket build maps env).result m.start).2.dst = none := by
        rw [hended]
        exact hnone
      rw [hdst]
      refine iff_of_false (fun h ↦ by cases h) ?_
      rintro ⟨-, vip, vipInfo, t', hclass', -⟩
      rw [hclass] at hclass'
      cases hclass'
    | ok found =>
      have hended : (processPacket build maps env).result m.start =
          (balance build maps env found.1 found.2).result t := by
        rw [processPacket, Prog.result_bind hclass]
      rw [hended, balance_dst_iff hfit (classify_ready hm hclass).1 hnone]
      constructor
      · rintro ⟨hsize, hrouted, hreal⟩
        exact ⟨hsize, found.1, found.2, t, hclass, hrouted, hreal⟩
      · rintro ⟨hsize, vip, vipInfo, t', hclass', hrouted, hreal⟩
        rw [hclass] at hclass'
        cases hclass'
        exact ⟨hsize, hrouted, hreal⟩

theorem countersMachine_provisioned : Provisioned stableBuild countersMachine :=
  ⟨fun _ _ ↦ rfl, rfl⟩

/-- A QUIC packet with a server id that is known. -/
theorem known_id_gets_real :
    ((processPacket stableBuild twoServices (quicWithId 1)).result countersMachine.start).2.dst =
        some (.sample 1) ↔
      Forwardable stableBuild twoServices (quicWithId 1) countersMachine (.sample 1) :=
  processPacket_dst_iff (by decide) countersMachine_provisioned _

end Vsoshlb.DataPlane
