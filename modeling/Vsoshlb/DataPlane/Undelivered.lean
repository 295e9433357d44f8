import Vsoshlb.DataPlane.Encap

/-!
# The counters before a packet is delivered

Up to `deliver` the program counts in the entries of `stats` that come after those of the VIPs, and
in the statistics of QUIC, TPR and stable routing. The counters of the VIPs and of the reals stay as
they are. An invalid server id is counted only where `server_id_map` does not have it, and no TCP
packet is ever counted as routed by a server id.
-/

namespace Vsoshlb.DataPlane

open EarlyExit

/-- The last offset of a counter in `stats`. -/
def lastCounter : ℕ := 13

/-- The statement does not depend on counters in `stats` that are not those of a VIP. -/
structure Uncounted (build : Build) (P : Machine → Prop) : Prop where
  bump : ∀ {m : Machine} {offset : BitVec 32} (f : LbStats → LbStats), offset.toNat ≤ lastCounter →
    P m → P (m.bump (build.maxVips + offset) f)

/-- Nor does it depend on the description of the packet. -/
structure Unrouting (build : Build) (P : Machine → Prop) : Prop extends Uncounted build P where
  pckt : ∀ {m : Machine} (pckt : PacketDescription), P m → P { m with pckt := pckt }

/-- The counters that a statement can be about, and the flags of the packet, are those of another
state. -/
structure Quiet (m m' : Machine) : Prop where
  stats : m'.stats = m.stats
  realsStats : m'.realsStats = m.realsStats
  quicStats : m'.quicStats = m.quicStats
  tprStats : m'.tprStats = m.tprStats
  flags : m'.pckt.flags = m.pckt.flags

/-- The statement is about the counters of VIPs and reals, about the invalid server ids in the
statistics of QUIC and about the TCP packets that are routed by a server id. -/
structure Undelivered (build : Build) (P : Machine → Prop) : Prop extends Uncounted build P where
  quiet : ∀ {m m' : Machine}, P m → Quiet m m' → P m'
  quic : ∀ {m : Machine} {f : QuicPacketsStats → QuicPacketsStats},
    (∀ stats, (f stats).cidInvalidServerId = stats.cidInvalidServerId ∧
      (f stats).cidInvalidServerIdSample = stats.cidInvalidServerIdSample) →
    P m → P { m with quicStats := m.quicStats.map f }
  tpr : ∀ {m : Machine} {f : TprPacketsStats → TprPacketsStats},
    (∀ stats, (f stats).sidRouted = stats.sidRouted ∧
      (f stats).dstMismatchInLru = stats.dstMismatchInLru) →
    P m → P { m with tprStats := m.tprStats.map f }

/-- The server id of a packet of the VIP, if it is one that `server_id_map` does not have. -/
def unknownServerId (maps : KernelMaps) (env : Env) (vipInfo : VipMeta) (pckt : PacketDescription) :
    Option (BitVec 32) :=
  let id := (parseQuic env.frame env.isIpv6 pckt).serverId
  if hasFlag vipInfo.flags F_QUIC_VIP ∧ hasFlag pckt.flags F_ICMP = false ∧ 0 < id.toInt ∧
      maps.serverIdMap id = none then
    some id
  else
    none

/-- The state after an invalid server id is counted. -/
def Machine.countInvalid (m : Machine) (id : BitVec 32) : Machine :=
  { m with quicStats := m.quicStats.map (invalidServerId id) }

variable {build : Build} {maps : KernelMaps} {env : Env} {vipInfo : VipMeta}
variable {P : Machine → Prop}

/-! ## Up to the VIP -/

theorem Uncounted.countOrDrop (hP : Uncounted build P) {offset : BitVec 32}
    (hoffset : offset.toNat ≤ lastCounter) (f : LbStats → LbStats) :
    Keeps P (countOrDrop (build.maxVips + offset) f) :=
  countOrDrop_triple (fun _ hm ↦ hP.bump f hoffset hm) fun _ hm ↦ hm

namespace Unrouting

theorem sendIcmpReply (frame : Frame) (hdrSize : ℕ) : Keeps P (sendIcmpReply frame hdrSize) :=
  .bind .exitIf fun _ ↦ .exit

theorem parseIcmpv6 (hP : Unrouting build P) : Keeps P (parseIcmpv6 build env) := by
  refine .bind .exitIf fun _ ↦ .bind (.when fun _ ↦ sendIcmpReply _ _) fun _ ↦ ?_
  refine .bind .exitIf fun _ ↦ .bind (.when fun _ ↦ ?_) fun _ ↦ ?_
  · exact hP.countOrDrop (by decide) _
  · exact .bind .exitIf fun _ ↦ .modify fun _ hm ↦ hP.pckt _ hm

theorem parseIcmp (hP : Unrouting build P) : Keeps P (parseIcmp build env) := by
  refine .bind .exitIf fun _ ↦ .bind (.when fun _ ↦ sendIcmpReply _ _) fun _ ↦ ?_
  refine .bind .exitIf fun _ ↦ .bind (.when fun _ ↦ ?_) fun _ ↦ ?_
  · exact hP.countOrDrop (by decide) _
  · refine .bind .exitIf fun _ ↦ .bind .exitIf fun _ ↦ ?_
    exact .modify fun _ hm ↦ hP.pckt _ hm

theorem handleIfIcmp (hP : Unrouting build P) : Keeps P (handleIfIcmp build env) :=
  .ite (fun _ ↦ hP.parseIcmpv6) fun _ ↦ .ite (fun _ ↦ hP.parseIcmp) fun _ ↦ .pure

theorem checkDecapDst (hP : Unrouting build P) : Keeps P (checkDecapDst build maps env) := by
  refine .bind .read fun _ ↦ .ite (fun _ ↦ hP.countOrDrop (by decide) _) fun _ ↦ ?_
  exact .when fun _ ↦ .ite (fun _ ↦ .exitIf) fun _ ↦ .exitIf

theorem decapsulate (hP : Unrouting build P) : Keeps P (decapsulate build maps env) :=
  .bind hP.checkDecapDst fun _ ↦ .exit

theorem parseL3 (hP : Unrouting build P) : Keeps P (parseL3 env) := by
  refine .bind .read fun pckt ↦ ?_
  generalize parseL3Headers env.frame env.protocol env.nhOff env.isIpv6 pckt = parsed
  obtain ⟨action, pckt⟩ := parsed
  refine .bind (.modify fun _ hm ↦ hP.pckt _ hm) fun _ ↦ ?_
  cases action with
  | none => exact .pure
  | some action => exact .exit

theorem parseL4 (hP : Unrouting build P) : Keeps P (parseL4 build maps env) := by
  refine .bind .read fun _ ↦ .ite (fun _ ↦ ?_) fun _ ↦ .ite (fun _ ↦ ?_) fun _ ↦ .exit
  · exact .bind .orExit fun _ ↦ .modify fun _ hm ↦ hP.pckt _ hm
  · refine .bind .orExit fun _ ↦ ?_
    refine .bind (.modify fun _ hm ↦ hP.pckt _ hm) fun _ ↦ ?_
    exact .when fun _ ↦ hP.decapsulate

theorem parseHeaders (hP : Unrouting build P) : Keeps P (parseHeaders build maps env) := by
  refine .bind hP.parseL3 fun _ ↦ .bind hP.handleIfIcmp fun _ ↦ .bind .read fun _ ↦ ?_
  exact .bind (.when fun _ ↦ hP.decapsulate) fun _ ↦ hP.parseL4

theorem classify (hP : Unrouting build P) : Keeps P (classify build maps env) := by
  refine .bind hP.parseHeaders fun _ ↦ .bind .read fun _ ↦ .bind .orExit fun _ ↦ ?_
  exact .bind (.modify fun _ hm ↦ hP.pckt _ hm) fun _ ↦ .pure

end Unrouting

/-- A packet that is too big goes no further. -/
theorem Uncounted.rejectTooBig_exits (hP : Uncounted build P) :
    Triple P (DataPlane.rejectTooBig build env) (fun _ _ ↦ False) fun _ ↦ P := by
  refine .ite (fun _ ↦ .bind (hP.countOrDrop (by decide) _) fun _ ↦ ?_) fun _ ↦ .exit fun _ hm ↦ hm
  exact .exitIf_bind (fun _ _ hm ↦ hm) fun _ ↦ .exit fun _ hm ↦ hm

theorem Uncounted.rejectTooBig (hP : Uncounted build P) : Keeps P (rejectTooBig build env) :=
  hP.rejectTooBig_exits.conseq (fun _ hm ↦ hm) (fun _ _ h ↦ h.elim) fun _ _ hm ↦ hm

theorem Uncounted.findLruMap (hP : Uncounted build P) : Keeps P (findLruMap build maps env) := by
  unfold DataPlane.findLruMap
  split
  · exact .pure
  · exact .bind (hP.countOrDrop (by decide) _) fun _ ↦ .pure

/-! ## By a server id -/

theorem incrementQuicCidVersionStats_ids (cidVersion : BitVec 8) (stats : QuicPacketsStats) :
    (incrementQuicCidVersionStats cidVersion stats).cidInvalidServerId = stats.cidInvalidServerId ∧
      (incrementQuicCidVersionStats cidVersion stats).cidInvalidServerIdSample =
        stats.cidInvalidServerIdSample := by
  unfold incrementQuicCidVersionStats
  split_ifs
  · exact ⟨rfl, rfl⟩
  · exact ⟨rfl, rfl⟩
  · exact ⟨rfl, rfl⟩
  · exact ⟨rfl, rfl⟩

namespace Undelivered

theorem countQuic (hP : Undelivered build P) {f : QuicPacketsStats → QuicPacketsStats}
    (hf : ∀ stats, (f stats).cidInvalidServerId = stats.cidInvalidServerId ∧
      (f stats).cidInvalidServerIdSample = stats.cidInvalidServerIdSample) :
    Keeps P (countQuic f) :=
  .modify fun _ hm ↦ hP.quic hf hm

theorem countTpr (hP : Undelivered build P) {f : TprPacketsStats → TprPacketsStats}
    (hf : ∀ stats, (f stats).sidRouted = stats.sidRouted ∧
      (f stats).dstMismatchInLru = stats.dstMismatchInLru) :
    Keeps P (countTpr f) :=
  .modify fun _ hm ↦ hP.tpr hf hm

theorem isUnderFlood (hP : Undelivered build P) (curTime : BitVec 64) {m : Machine}
    (hm : P m) : P (isUnderFlood build curTime m).2 := by
  obtain ⟨f, hflood⟩ := @isUnderFlood_snd build curTime m
  rw [hflood]
  exact hP.bump f (by decide) hm

theorem checkAndUpdateRealIndexInLru (hP : Undelivered build P) (curTime : BitVec 64)
    (lruMap : LruMap) {m : Machine} (hm : P m) :
    P (checkAndUpdateRealIndexInLru build curTime lruMap m).2 := by
  have hlooked : P (m.record (.lruLookup lruMap m.pckt.flow)) :=
    hP.quiet hm ⟨rfl, rfl, rfl, rfl, rfl⟩
  simp only [DataPlane.checkAndUpdateRealIndexInLru]
  generalize m.record (.lruLookup lruMap m.pckt.flow) = looked at hlooked ⊢
  split
  · split
    · exact hlooked
    · exact hP.quiet hlooked ⟨rfl, rfl, rfl, rfl, rfl⟩
  · have hcounted := hP.isUnderFlood curTime hlooked
    split
    · exact hcounted
    · exact hP.quiet hcounted ⟨rfl, rfl, rfl, rfl, rfl⟩

theorem routeToIndex (hP : Undelivered build P) (lruMap : LruMap) (key : BitVec 32) :
    Keeps P (routeToIndex build maps env lruMap key) := by
  refine .bind (.modify fun _ hm ↦ hP.quiet hm ⟨rfl, rfl, rfl, rfl, rfl⟩) fun _ ↦ ?_
  refine .bind (.when fun _ ↦ .bind (hP.countQuic fun _ ↦ ⟨rfl, rfl⟩) fun _ ↦ .exit) fun _ ↦ ?_
  refine .bind (.act fun _ hm ↦ hP.checkAndUpdateRealIndexInLru env.curTime lruMap hm) fun res ↦ ?_
  refine .bind (hP.countQuic fun _ ↦ ?_) fun _ ↦ hP.countQuic fun _ ↦ ⟨rfl, rfl⟩
  cases res with
  | matched => exact ⟨rfl, rfl⟩
  | mismatched => exact ⟨rfl, rfl⟩
  | notFound => exact ⟨rfl, rfl⟩

theorem routeByCid (hP : Undelivered build P) (lruMap : LruMap) {qpr : QuicParseResult}
    (hid : 0 < qpr.serverId.toInt)
    (hinvalid : maps.serverIdMap qpr.serverId = none → ∀ m, P m → P (m.countInvalid qpr.serverId)) :
    Keeps P (routeByCid build maps env lruMap qpr) := by
  refine .bind (hP.countQuic (incrementQuicCidVersionStats_ids _)) fun _ ↦ ?_
  refine .ite (fun hnone ↦ ?_) fun _ ↦ ?_
  · exact .modify (hinvalid (Option.isNone_iff_eq_none.mp hnone))
  · refine .ite (fun hzero ↦ ?_) fun _ ↦ hP.routeToIndex lruMap _
    rw [hzero] at hid
    cases hid

theorem processUdpStableRouting (hP : Undelivered build P) {m : Machine} (hm : P m) :
    P (processUdpStableRouting maps env.frame env.isIpv6 m) := by
  simp only [DataPlane.processUdpStableRouting]
  split
  · exact hm
  · split
    · split
      · exact hP.quiet hm ⟨rfl, rfl, rfl, rfl, rfl⟩
      · split
        · exact hP.quiet hm ⟨rfl, rfl, rfl, rfl, rfl⟩
        · exact hP.quiet hm ⟨rfl, rfl, rfl, rfl, rfl⟩
    · exact hP.quiet hm ⟨rfl, rfl, rfl, rfl, rfl⟩

/-- The lookups by a server id, for a statement that goes through the count of an invalid id. -/
theorem routeQuic (hP : Undelivered build P) (lruMap : LruMap)
    (hquic : hasFlag vipInfo.flags F_QUIC_VIP = true)
    (hinvalid : ∀ m₀ id, P m₀ → unknownServerId maps env vipInfo m₀.pckt = some id →
      ∀ m, P m → P (m.countInvalid id)) :
    Keeps P (routeQuic build maps env lruMap) := by
  refine .read_bind fun m₀ hm₀ ↦ ?_
  refine .ite (fun _ ↦ hP.toUncounted.countOrDrop (by decide) _) fun hicmp ↦ ?_
  refine .bind .read fun _ ↦ .bind .exitIf fun _ ↦ ?_
  refine .ite (fun hid ↦ hP.routeByCid lruMap hid fun hnone ↦ ?_) fun _ ↦ ?_
  · exact hinvalid m₀ _ hm₀ (if_pos ⟨hquic, Bool.eq_false_of_not_eq_true hicmp, hid, hnone⟩)
  · refine .ite (fun _ ↦ hP.countQuic fun _ ↦ ⟨rfl, rfl⟩) fun _ ↦ ?_
    exact hP.countQuic fun _ ↦ ⟨rfl, rfl⟩

theorem routeByServerId (hP : Undelivered build P) (lruMap : LruMap)
    (hinvalid : ∀ m₀ id, P m₀ → unknownServerId maps env vipInfo m₀.pckt = some id →
      ∀ m, P m → P (m.countInvalid id)) :
    Keeps P (routeByServerId build maps env vipInfo lruMap) := by
  refine .bind (.when fun hquic ↦ hP.routeQuic lruMap hquic hinvalid) fun _ ↦ .bind .read fun _ ↦ ?_
  exact .when fun _ ↦ .modify fun _ hm ↦ hP.processUdpStableRouting hm

/-! ## By the flow -/

theorem routeTcp (hP : Undelivered build P) (lruMap : LruMap) :
    Keeps P (routeTcp build maps env vipInfo lruMap) := by
  refine .bind .read fun _ ↦ .when fun _ ↦ .bind .read fun _ ↦ ?_
  refine .bind .exitIf fun _ ↦ .ite (fun _ ↦ hP.countTpr fun _ ↦ ⟨rfl, rfl⟩) fun _ ↦ ?_
  refine Triple.bind (Q := fun found m ↦ found = false ∧ P m) (.act fun m hm ↦ ?_) fun found ↦ ?_
  · rw [tcpHdrOptLookup_eq]
    exact ⟨rfl, hm⟩
  · refine .fact fun hfound ↦ ?_
    rw [hfound, if_neg Bool.false_ne_true]
    exact hP.countTpr fun _ ↦ ⟨rfl, rfl⟩

theorem connectionTableLookup (hP : Undelivered build P) (now : BitVec 64)
    (lruMap : LruMap) (isGlobalLru : Bool) :
    Keeps P (Prog.modify (connectionTableLookup build now lruMap isGlobalLru) : XdpProg Unit) := by
  refine .modify fun m hm ↦ ?_
  have hlooked : P (m.record (.lruLookup lruMap m.pckt.flow)) :=
    hP.quiet hm ⟨rfl, rfl, rfl, rfl, rfl⟩
  simp only [DataPlane.connectionTableLookup]
  generalize m.record (.lruLookup lruMap m.pckt.flow) = looked at hlooked ⊢
  split
  · exact hlooked
  · split
    · split
      · exact hlooked
      · exact hP.quiet hlooked ⟨rfl, rfl, rfl, rfl, rfl⟩
    · exact hP.quiet hlooked ⟨rfl, rfl, rfl, rfl, rfl⟩

theorem performGlobalLruLookup (hP : Undelivered build P) (cpuNum : BitVec 32)
    (now : BitVec 64) : Keeps P (performGlobalLruLookup build maps cpuNum now) := by
  have hmap : Keeps P (findGlobalLruMap build maps cpuNum) := by
    unfold findGlobalLruMap
    split
    · exact .pure
    · exact .bind (.modify fun _ hm ↦ hP.bump _ (by decide) hm) fun _ ↦ .pure
  refine .bind .read fun _ ↦ .bind .exitIf fun _ ↦ .bind hmap fun _ ↦ ?_
  refine .bind (hP.connectionTableLookup now _ true) fun _ ↦ .bind .read fun _ ↦ ?_
  exact .when fun _ ↦ .modify fun _ hm ↦ hP.bump _ (by decide) hm

theorem installDst (hP : Undelivered build P) (key : BitVec 32) (underFlood : Bool)
    (lruMap : LruMap) {m : Machine} (hm : P m) :
    P (installDst build key vipInfo underFlood lruMap m).2 := by
  unfold DataPlane.installDst
  dsimp only
  split_ifs
  · exact hP.bump _ (by decide) (hP.quiet hm ⟨rfl, rfl, rfl, rfl, rfl⟩)
  · exact hP.quiet hm ⟨rfl, rfl, rfl, rfl, rfl⟩
  · exact hP.quiet hm ⟨rfl, rfl, rfl, rfl, rfl⟩

theorem getPacketDst (hP : Undelivered build P) (key : BitVec 32) (isIpv6 : Bool)
    (lruMap : LruMap) {m : Machine} (hm : P m) :
    P (getPacketDst build maps key vipInfo isIpv6 lruMap m).2 := by
  have hflood := hP.isUnderFlood 0 hm
  unfold DataPlane.getPacketDst
  generalize DataPlane.isUnderFlood build 0 m = flood at hflood ⊢
  obtain ⟨underFlood, m₁⟩ := flood
  have hsource : P (lookupSource build maps vipInfo isIpv6 underFlood m₁).2 := by
    obtain ⟨f, hf⟩ := @lookupSource_snd build maps vipInfo isIpv6 underFlood m₁
    rw [hf]
    exact hP.bump f (by decide) hflood
  dsimp only
  generalize lookupSource build maps vipInfo isIpv6 underFlood m₁ = source at hsource ⊢
  obtain ⟨srcFound, m₂⟩ := source
  dsimp only at hsource ⊢
  split
  · exact hP.installDst key underFlood lruMap hsource
  · have hhashed : P (hashPacket build vipInfo isIpv6 m₂) := by
      unfold hashPacket
      dsimp only
      split
      · exact hP.quiet hsource ⟨rfl, rfl, rfl, rfl, rfl⟩
      · exact hP.quiet hsource ⟨rfl, rfl, rfl, rfl, rfl⟩
    generalize hashPacket build vipInfo isIpv6 m₂ = hashed at hhashed ⊢
    have hasked : P (hashed.record (.ringLookup key)) := hP.quiet hhashed ⟨rfl, rfl, rfl, rfl, rfl⟩
    split
    · exact hasked
    · split
      · exact hP.bump _ (by decide) hasked
      · exact hP.installDst key underFlood lruMap hasked

theorem routeByHash (hP : Undelivered build P) (vip : VipDefinition) (lruMap : LruMap) :
    Keeps P (routeByHash build maps env vip vipInfo lruMap) := by
  refine .bind .read fun _ ↦ ?_
  refine .bind (.when fun _ ↦ hP.toUncounted.countOrDrop (by decide) _) fun _ ↦ ?_
  refine .bind (.act fun _ hm ↦ hP.getPacketDst env.key env.isIpv6 lruMap hm) fun _ ↦ ?_
  refine .bind .exitIf fun _ ↦ .bind ?_ fun _ ↦ ?_
  · refine .bind .read fun _ ↦ .bind .orExit fun _ ↦ ?_
    refine .bind (.modify fun _ hm ↦ hP.quiet hm ⟨rfl, rfl, rfl, rfl, rfl⟩) fun _ ↦ ?_
    exact .bind .read fun _ ↦ .exitIf
  · exact .modify fun _ hm ↦ hP.bump _ (by decide) hm

theorem selectReal (hP : Undelivered build P) (vip : VipDefinition) (lruMap : LruMap) :
    Keeps P (selectReal build maps env vip vipInfo lruMap) := by
  refine .bind (.when fun _ ↦ hP.routeTcp lruMap) fun _ ↦ .bind .read fun _ ↦ ?_
  refine .bind (.when fun _ ↦ hP.connectionTableLookup _ _ _) fun _ ↦ .bind .read fun _ ↦ ?_
  refine .bind (.when fun _ ↦ hP.performGlobalLruLookup _ _) fun _ ↦ .bind .read fun _ ↦ ?_
  exact .when fun _ ↦ hP.routeByHash vip lruMap

end Undelivered

end Vsoshlb.DataPlane
