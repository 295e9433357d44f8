import Vsoshlb.DataPlane.Forwarding

/-!
# Server ids that are unknown

A QUIC packet whose connection id has a server id that `server_id_map` does not have is counted,
with its id, and goes by consistent hashing. It is counted once, and no other packet changes the
count or the id.
-/

namespace Vsoshlb.DataPlane

open EarlyExit

variable (build : Build) (maps : KernelMaps) (env : Env)

/-- The server id that a packet is counted for as invalid. -/
def invalidId (m : Machine) : Option (BitVec 32) :=
  match classify build maps env m.start with
  | (.error _, _) => none
  | (.ok (_, vipInfo), t) =>
    if env.frame.length ≤ build.maxPcktSize then unknownServerId maps env vipInfo t.pckt else none

/-- How many invalid server ids the statistics of QUIC count, and the last of them. -/
def Machine.invalidIds (m : Machine) : Option (BitVec 64 × BitVec 64) :=
  m.quicStats.map fun stats ↦ (stats.cidInvalidServerId, stats.cidInvalidServerIdSample)

/-- The count and the last id after a packet. -/
def nextIds (counted : Option (BitVec 32)) (ids : Option (BitVec 64 × BitVec 64)) :
    Option (BitVec 64 × BitVec 64) :=
  match counted with
  | some id => ids.map fun old ↦ (old.1 + 1, id.signExtend 64)
  | none => ids

variable {build maps env} {vip : VipDefinition} {vipInfo : VipMeta}

theorem invalidIds_map {f : QuicPacketsStats → QuicPacketsStats}
    (hf : ∀ stats, (f stats).cidInvalidServerId = stats.cidInvalidServerId ∧
      (f stats).cidInvalidServerIdSample = stats.cidInvalidServerIdSample) (m : Machine) :
    { m with quicStats := m.quicStats.map f }.invalidIds = m.invalidIds := by
  simp only [Machine.invalidIds, Option.map_map, Function.comp_def, hf]

theorem countInvalid_invalidIds (m : Machine) (id : BitVec 32) :
    (m.countInvalid id).invalidIds = nextIds (some id) m.invalidIds := by
  simp only [Machine.invalidIds, Machine.countInvalid, nextIds, Option.map_map]
  rfl

theorem unknownServerId_eq_some_iff {pckt : PacketDescription} {id : BitVec 32} :
    unknownServerId maps env vipInfo pckt = some id ↔
      (hasFlag vipInfo.flags F_QUIC_VIP ∧ hasFlag pckt.flags F_ICMP = false ∧ 0 < id.toInt ∧
        maps.serverIdMap id = none) ∧ (parseQuic env.frame env.isIpv6 pckt).serverId = id := by
  rw [unknownServerId, Option.ite_none_right_eq_some, Option.some.injEq]
  refine and_congr_left fun hid ↦ ?_
  rw [hid]

/-- Nothing of a packet matters here but its flags. -/
theorem unknownServerId_congr {pckt pckt' : PacketDescription} (h : pckt'.flags = pckt.flags) :
    unknownServerId maps env vipInfo pckt' = unknownServerId maps env vipInfo pckt := by
  simp only [unknownServerId, parseQuic, h]

theorem invalidId_positive {m : Machine} {id : BitVec 32}
    (h : invalidId build maps env m = some id) : 0 < id.toInt := by
  unfold invalidId at h
  split at h
  · cases h
  · obtain ⟨-, hid⟩ := Option.ite_none_right_eq_some.mp h
    exact (unknownServerId_eq_some_iff.mp hid).1.2.2.1

/-! ## The count and the id on the way through the program -/

/-- The arrays of counters are there, with this count and id and these flags of the packet. -/
structure IdsAre (build : Build) (ids : Option (BitVec 64 × BitVec 64)) (flags : BitVec 8)
    (m : Machine) : Prop where
  provisioned : Provisioned build m
  ids : m.invalidIds = ids
  flags : m.pckt.flags = flags

variable {ids : Option (BitVec 64 × BitVec 64)} {flags : BitVec 8}

theorem idsAre_uncounted : Uncounted build (IdsAre build ids flags) where
  bump f hoffset hm := ⟨provisioned_uncounted.bump f hoffset hm.provisioned, hm.ids, hm.flags⟩

theorem idsAre_undelivered : Undelivered build (IdsAre build ids flags) where
  toUncounted := idsAre_uncounted
  quiet hm h :=
    { provisioned := provisioned_undelivered.quiet hm.provisioned h
      ids := by rw [Machine.invalidIds, h.quicStats]; exact hm.ids
      flags := h.flags.trans hm.flags }
  quic hf hm := ⟨hm.provisioned.mapQuic _, (invalidIds_map hf _).trans hm.ids, hm.flags⟩
  tpr hf hm := ⟨provisioned_undelivered.tpr hf hm.provisioned, hm.ids, hm.flags⟩

/-- Up to the VIP, where the flags are found. -/
theorem ids_unrouting : Unrouting build fun m ↦ Provisioned build m ∧ m.invalidIds = ids where
  bump f hoffset hm := ⟨provisioned_uncounted.bump f hoffset hm.1, hm.2⟩
  pckt pckt hm := ⟨provisioned_unrouting.pckt pckt hm.1, hm.2⟩

/-- A delivery changes the counters of the VIP and of the real alone. -/
theorem deliver_keeps {P : Machine → Prop}
    (hP : ∀ m m' : Machine, m'.quicStats = m.quicStats → m'.tprStats = m.tprStats → P m → P m')
    (originalSport : BitVec 16) : Keeps P (deliver build maps env vipInfo originalSport) := by
  refine .bind .exitIf fun _ ↦ ?_
  refine .bind (countOrDrop_triple (fun m ↦ hP m _ rfl rfl) fun _ hm ↦ hm) fun _ ↦ ?_
  refine .bind .read fun _ ↦ .bind .read fun _ ↦ .bind .exitIf fun _ ↦ ?_
  refine .bind (.modify fun m ↦ hP m _ rfl rfl) fun _ ↦ .bind .read fun _ ↦ .bind .exitIf fun _ ↦ ?_
  exact .bind (.modify fun m ↦ hP m _ rfl rfl) fun _ ↦ .pure

theorem deliver_invalidIds (originalSport : BitVec 16) :
    Keeps (fun m ↦ m.invalidIds = ids) (deliver build maps env vipInfo originalSport) :=
  deliver_keeps (fun _ _ hquic _ hm ↦ by rw [Machine.invalidIds, hquic]; exact hm) originalSport

/-- What the choice of a real leaves in the statistics is what the packet leaves. -/
theorem balance_invalidIds {P : Machine → Prop} (hchoose : Triple P
      (chooseReal build maps env vip vipInfo) (fun _ ↦ IdsAre build ids flags)
      fun _ ↦ IdsAre build ids flags) {t : Machine} (ht : P t) :
    ((balance build maps env vip vipInfo).result t).2.invalidIds = ids := by
  have hids : Triple P (chooseReal build maps env vip vipInfo) (fun _ m ↦ m.invalidIds = ids)
      fun _ m ↦ m.invalidIds = ids :=
    hchoose.conseq (fun _ hm ↦ hm) (fun _ _ hm ↦ hm.ids) fun _ _ hm ↦ hm.ids
  rw [balance_eq]
  exact (Triple.bind hids fun originalSport ↦ deliver_invalidIds originalSport).result ht

/-- A packet that is not counted for an invalid id. -/
theorem balance_ids_of_none {t : Machine} (ht : IdsAre build ids flags t)
    (hnone : env.frame.length ≤ build.maxPcktSize →
      unknownServerId maps env vipInfo t.pckt = none) :
    ((balance build maps env vip vipInfo).result t).2.invalidIds = ids := by
  have hchoose : Keeps (IdsAre build ids flags) (chooseReal build maps env vip vipInfo) := by
    by_cases hsize : env.frame.length ≤ build.maxPcktSize
    · apply idsAre_undelivered.chooseReal
      intro m₀ id hm₀ hid
      rw [unknownServerId_congr (hm₀.flags.trans ht.flags.symm), hnone hsize] at hid
      cases hid
    · refine Triple.bind (.when (fun _ ↦ idsAre_uncounted.rejectTooBig_exits) fun hnot ↦ ?_)
        fun _ _ h ↦ h.elim
      exact absurd (Nat.not_lt.mp hnot) hsize
  exact balance_invalidIds hchoose ht

/-- The lookup of a server id that is unknown. -/
theorem routeQuic_counts {lruMap : LruMap} {pckt : PacketDescription} {id : BitVec 32}
    (hid : unknownServerId maps env vipInfo pckt = some id) {E : XdpAction → Machine → Prop} :
    Triple (IdsAre build ids pckt.flags) (routeQuic build maps env lruMap)
      (fun _ ↦ IdsAre build (nextIds (some id) ids) pckt.flags) E := by
  obtain ⟨⟨-, hicmp, hpositive, hunknown⟩, rfl⟩ := unknownServerId_eq_some_iff.mp hid
  refine .read_bind fun m₀ hm₀ ↦ ?_
  have hparsed : parseQuic env.frame env.isIpv6 m₀.pckt = parseQuic env.frame env.isIpv6 pckt := by
    simp only [parseQuic, hm₀.flags]
  rw [hm₀.flags, hicmp, if_neg Bool.false_ne_true]
  refine .read_bind fun m hm ↦ .exitIf_bind (fun hnone ↦ ?_) fun _ ↦ ?_
  · have hstats := hm.provisioned.quicStats
    rw [Option.isNone_iff_eq_none.mp hnone] at hstats
    cases hstats
  · dsimp only
    rw [hparsed, if_pos hpositive]
    refine .bind (.modify (Q := fun _ ↦ IdsAre build ids pckt.flags) fun _ hm ↦
      idsAre_undelivered.quic (incrementQuicCidVersionStats_ids _) hm) fun _ ↦ ?_
    refine .ite (fun _ ↦ .modify fun m hm ↦ ?_) fun hknown ↦ ?_
    · refine ⟨hm.provisioned.mapQuic _, ?_, hm.flags⟩
      rw [← hm.ids]
      exact countInvalid_invalidIds m _
    · exact absurd (Option.isNone_iff_eq_none.mpr hunknown) hknown

theorem routeByServerId_counts {lruMap : LruMap} {pckt : PacketDescription} {id : BitVec 32}
    (hid : unknownServerId maps env vipInfo pckt = some id) {E : XdpAction → Machine → Prop} :
    Triple (IdsAre build ids pckt.flags) (routeByServerId build maps env vipInfo lruMap)
      (fun _ ↦ IdsAre build (nextIds (some id) ids) pckt.flags) E := by
  have hquic := (unknownServerId_eq_some_iff.mp hid).1.1
  refine .bind (.when (fun _ ↦ routeQuic_counts hid) fun hnot ↦ absurd hquic hnot) fun _ ↦ ?_
  refine .read_bind fun _ _ ↦ .when (fun _ ↦ .modify fun _ ↦ ?_) fun _ _ hm ↦ hm
  exact idsAre_undelivered.processUdpStableRouting

/-- A packet that is counted for an invalid id. -/
theorem balance_ids_of_some (hfit : build.CountersFit)
    (hsize : env.frame.length ≤ build.maxPcktSize) {t : Machine} {id : BitVec 32}
    (ht : IdsAre build ids t.pckt.flags t)
    (hid : unknownServerId maps env vipInfo t.pckt = some id) :
    ((balance build maps env vip vipInfo).result t).2.invalidIds = nextIds (some id) ids := by
  have hcounted : Undelivered build (IdsAre build (nextIds (some id) ids) t.pckt.flags) :=
    idsAre_undelivered
  have hchoose : Triple (IdsAre build ids t.pckt.flags) (chooseReal build maps env vip vipInfo)
      (fun _ ↦ IdsAre build (nextIds (some id) ids) t.pckt.flags)
      fun _ ↦ IdsAre build (nextIds (some id) ids) t.pckt.flags := by
    refine .bind (.when (Q := fun _ ↦ IdsAre build ids t.pckt.flags)
      (fun hbig ↦ absurd hsize (Nat.not_le.mpr hbig)) fun _ _ hm ↦ hm) fun _ ↦ ?_
    refine .bind (idsAre_uncounted.countOrDrop_provisioned hfit (fun _ hm ↦ hm.provisioned)
      (by decide)) fun _ ↦ ?_
    refine .bind (.modify (Q := fun _ ↦ IdsAre build ids t.pckt.flags) fun _ hm ↦
      idsAre_undelivered.quiet hm ⟨rfl, rfl, rfl, rfl, rfl⟩) fun _ ↦ ?_
    refine .bind (idsAre_uncounted.findLruMap_provisioned hfit fun _ hm ↦ hm.provisioned)
      fun lruMap ↦ .bind (routeByServerId_counts hid) fun _ ↦ ?_
    refine .read_bind fun _ _ ↦ .read_bind fun _ _ ↦ ?_
    exact .bind (.when (fun _ ↦ hcounted.selectReal vip lruMap) fun _ _ hm ↦ hm) fun _ ↦
      .pure fun _ hm ↦ hm
  exact balance_invalidIds hchoose ht

/-- What a packet does to the count and to the id. -/
theorem processPacket_invalidIds (hfit : build.CountersFit) {m : Machine}
    (hm : Provisioned build m) :
    ((processPacket build maps env).result m.start).2.invalidIds =
      nextIds (invalidId build maps env m) m.invalidIds := by
  have hclassified : Keeps (fun t ↦ Provisioned build t ∧ t.invalidIds = m.invalidIds)
      (classify build maps env) :=
    ids_unrouting.classify
  have hfound := hclassified m.start ⟨⟨hm.stats, hm.quicStats⟩, rfl⟩
  unfold invalidId
  cases hclass : classify build maps env m.start with
  | mk outcome t =>
    rw [hclass] at hfound
    cases outcome with
    | error action =>
      have hended : (processPacket build maps env).result m.start = (action, t) := by
        simp only [processPacket, Prog.result, Prog.bind_apply, hclass]
      rw [hended]
      exact hfound.2
    | ok found =>
      obtain ⟨vip, vipInfo⟩ := found
      have ht : IdsAre build m.invalidIds t.pckt.flags t := ⟨hfound.1, hfound.2, rfl⟩
      rw [processPacket, Prog.result_bind hclass]
      dsimp only
      by_cases hsize : env.frame.length ≤ build.maxPcktSize
      · rw [if_pos hsize]
        cases hid : unknownServerId maps env vipInfo t.pckt with
        | none => exact balance_ids_of_none ht fun _ ↦ hid
        | some id => exact balance_ids_of_some hfit hsize ht hid
      · rw [if_neg hsize]
        exact balance_ids_of_none ht fun hfits ↦ absurd hfits hsize

end Vsoshlb.DataPlane
