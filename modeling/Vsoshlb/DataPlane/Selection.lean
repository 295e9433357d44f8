import Vsoshlb.DataPlane.PacketHash

/-!
# Choosing a real

The functions that look for the real of a flow. None of them stores what it finds in the pointer to
the real: where a lookup in `reals` would do so, the code goes on with the pointer it was given.
-/

namespace Vsoshlb.DataPlane

open EarlyExit

variable (build : Build) (maps : KernelMaps)

/-- `is_under_flood`. The clock is not read, so the result depends on what `*curTime` holds. -/
def isUnderFlood (curTime : BitVec 64) (m : Machine) : Bool × Machine :=
  let connRateKey := build.maxVips + NEW_CONN_RATE_CNTR
  match m.stats connRateKey with
  | none => (true, m)
  | some connRateStats =>
    if ONE_SEC.toNat < (curTime - connRateStats.v2).toNat then
      (false, m.bump connRateKey fun stats ↦ { stats with v1 := 1 })
    else
      let m := m.bump connRateKey (LbStats.addV1 1)
      (build.maxConnRate.toNat < (connRateStats.v1 + 1).toNat, m)

variable {build} in
/-- Of the state, only the counters of new connections change. -/
theorem isUnderFlood_snd (curTime : BitVec 64) (m : Machine) :
    ∃ f, (isUnderFlood build curTime m).2 = m.bump (build.maxVips + NEW_CONN_RATE_CNTR) f := by
  simp only [isUnderFlood]
  split
  · exact ⟨id, (m.bump_id _).symm⟩
  · split
    · exact ⟨_, rfl⟩
    · exact ⟨_, rfl⟩

/-- The counters of `increment_ch_drop_no_real` and `increment_ch_drop_real_0`. -/
def incrementChDrop (f : LbStats → LbStats) (m : Machine) : Machine :=
  m.bump (build.maxVips + CH_DROP_STATS) f

/-- The lookup of the source in the trie of its family. -/
def lpmVal (isIpv6 : Bool) (flow : FlowKey) : Option (BitVec 32) :=
  if isIpv6 then maps.lpmSrcV6 flow.src else maps.lpmSrcV4 (ipv4Part flow.src)

/-- The part of `get_packet_dst` under `LPM_SRC_LOOKUP`. It finds whether the source has a rule. -/
def lookupSource (vipInfo : VipMeta) (isIpv6 underFlood : Bool) (m : Machine) : Bool × Machine :=
  if build.lpmSrcLookup ∧ hasFlag vipInfo.flags F_SRC_ROUTING ∧ underFlood = false then
    let srcFound := (lpmVal maps isIpv6 m.pckt.flow).isSome
    (srcFound, m.bump (build.maxVips + LPM_SRC_CNTRS)
      (if srcFound then LbStats.addV2 1 else LbStats.addV1 1))
  else
    (false, m)

variable {build maps} in
theorem lookupSource_snd (vipInfo : VipMeta) (isIpv6 underFlood : Bool) (m : Machine) :
    ∃ f, (lookupSource build maps vipInfo isIpv6 underFlood m).2 =
      m.bump (build.maxVips + LPM_SRC_CNTRS) f := by
  simp only [lookupSource]
  split
  · exact ⟨_, rfl⟩
  · exact ⟨id, (m.bump_id _).symm⟩

/-- What a service that hashes the destination port alone does to the flow. -/
def hideSource (flow : FlowKey) : FlowKey :=
  { flow with
    sport := flow.dport
    src := 0 }

/-- The end of `get_packet_dst`: the check of the real and the entry for the new connection. -/
def installDst (key : BitVec 32) (vipInfo : VipMeta) (underFlood : Bool) (lruMap : LruMap)
    (m : Machine) : Bool × Machine :=
  let m := { m with pckt.realIndex := key }
  if m.dst.isNone then
    (false, incrementChDrop build (LbStats.addV1 1) m)
  else if hasFlag vipInfo.flags F_LRU_BYPASS = false ∧ underFlood = false then
    -- `cur_time` is still 0, also for UDP
    (true, m.updateLru lruMap m.pckt.flow ⟨key, 0⟩)
  else
    (true, m)

/-- What `get_packet_dst` does to the packet before it asks the ring: a service that hashes the
destination port alone hides the source, and then the offset in the ring is computed. -/
def hashPacket (vipInfo : VipMeta) (isIpv6 : Bool) (m : Machine) : Machine :=
  let m :=
    if hasFlag vipInfo.flags F_HASH_DPORT_ONLY then
      { m with pckt.flow := hideSource m.pckt.flow }
    else
      m
  { m with hash := some (getPacketHash build m.pckt.flow isIpv6 % build.ringSize) }

section HashPacket

variable {build} (vipInfo : VipMeta) (isIpv6 : Bool) (m : Machine)

@[simp]
theorem hashPacket_flow : (hashPacket build vipInfo isIpv6 m).pckt.flow =
    if hasFlag vipInfo.flags F_HASH_DPORT_ONLY then hideSource m.pckt.flow else m.pckt.flow := by
  simp only [hashPacket]
  split_ifs
  · rfl
  · rfl

@[simp]
theorem hashPacket_dst : (hashPacket build vipInfo isIpv6 m).dst = m.dst := by
  simp only [hashPacket]
  split_ifs
  · rfl
  · rfl

@[simp]
theorem hashPacket_accesses : (hashPacket build vipInfo isIpv6 m).accesses = m.accesses := by
  simp only [hashPacket]
  split_ifs
  · rfl
  · rfl

/-- The hash is that of the flow as it leaves the function. -/
theorem hashPacket_hash : (hashPacket build vipInfo isIpv6 m).hash =
    some (getPacketHash build (hashPacket build vipInfo isIpv6 m).pckt.flow isIpv6 %
      build.ringSize) := rfl

end HashPacket

/-- `get_packet_dst`. The hash of the packet is computed but not used: the key of the ring is the
variable `key`, which nothing sets. The map of its one caller is never null. -/
def getPacketDst (key : BitVec 32) (vipInfo : VipMeta) (isIpv6 : Bool) (lruMap : LruMap)
    (m : Machine) : Bool × Machine :=
  let (underFlood, m) := isUnderFlood build 0 m
  let (srcFound, m) := lookupSource build maps vipInfo isIpv6 underFlood m
  if srcFound then
    installDst build key vipInfo underFlood lruMap m
  else
    let m := (hashPacket build vipInfo isIpv6 m).record (.ringLookup key)
    if (maps.chRings key).isNone then
      (false, m)
    else if key = 0 then
      (false, incrementChDrop build (LbStats.addV2 1) m)
    else
      installDst build key vipInfo underFlood lruMap m

/-- `connection_table_lookup`. -/
def connectionTableLookup (now : BitVec 64) (lruMap : LruMap) (isGlobalLru : Bool) (m : Machine) :
    Machine :=
  let m := m.record (.lruLookup lruMap m.pckt.flow)
  match m.lru lruMap m.pckt.flow with
  | none => m
  | some dstLru =>
    if isGlobalLru = false ∧ m.pckt.flow.proto = IPPROTO_UDP then
      if build.lruUdpTimeout.toNat < (now - dstLru.atime).toNat then
        m
      else
        { m.setLru lruMap m.pckt.flow { dstLru with atime := now } with
          pckt.realIndex := dstLru.pos }
    else
      { m with pckt.realIndex := dstLru.pos }

variable {build} in
theorem connectionTableLookup_kept (now : BitVec 64) (lruMap : LruMap) (isGlobalLru : Bool)
    (m : Machine) :
    (connectionTableLookup build now lruMap isGlobalLru m).dst = m.dst ∧
      (connectionTableLookup build now lruMap isGlobalLru m).pckt.flags = m.pckt.flags := by
  simp only [connectionTableLookup]
  split
  · exact ⟨rfl, rfl⟩
  · split
    · split
      · exact ⟨rfl, rfl⟩
      · exact ⟨rfl, rfl⟩
    · exact ⟨rfl, rfl⟩

/-- The global LRU map of the core. -/
def findGlobalLruMap (cpuNum : BitVec 32) : XdpProg LruMap :=
  match maps.globalLruMaps cpuNum with
  | some fd => pure (.core fd)
  | none => do
    Prog.modify fun m ↦ m.bump (build.maxVips + GLOBAL_LRU_CNTR) (LbStats.addV1 1)
    return .fallbackGlru

/-- `perform_global_lru_lookup`. -/
def performGlobalLruLookup (cpuNum : BitVec 32) (now : BitVec 64) : XdpProg Unit := do
  let statsKey := build.maxVips + GLOBAL_LRU_CNTR
  Prog.exitIf (← Prog.read fun m ↦ (m.stats statsKey).isNone) .drop
  let gLruMap ← findGlobalLruMap build maps cpuNum
  Prog.modify (connectionTableLookup build now gLruMap true)
  Prog.when (← Prog.read fun m ↦ m.dst.isSome)
    (Prog.modify fun m ↦ m.bump statsKey (LbStats.addV2 1))

inductive LruCheck where
  | matched
  | mismatched
  | notFound
deriving DecidableEq, Repr

/-- `check_and_update_real_index_in_lru`. -/
def checkAndUpdateRealIndexInLru (curTime : BitVec 64) (lruMap : LruMap) (m : Machine) :
    LruCheck × Machine :=
  let m := m.record (.lruLookup lruMap m.pckt.flow)
  match m.lru lruMap m.pckt.flow with
  | some dstLru =>
    if dstLru.pos = m.pckt.realIndex then
      (.matched, m)
    else
      (.mismatched, m.setLru lruMap m.pckt.flow { dstLru with pos := m.pckt.realIndex })
  | none =>
    let (underFlood, m) := isUnderFlood build curTime m
    if underFlood then
      (.notFound, m)
    else
      (.notFound, m.updateLru lruMap m.pckt.flow ⟨m.pckt.realIndex, 0⟩)

/-- `update_vip_lru_miss_stats`. The protocol is assigned where it should be compared, and the
counter of the real is looked up but not changed. -/
def updateVipLruMissStats (vip : VipDefinition) (isIpv6 : Bool) : XdpProg Unit := do
  let lruMissStatVip ← Prog.orExit (← Prog.read Machine.vipMissStats) .drop
  let addressMatch :=
    if isIpv6 then lruMissStatVip.addr = vip.addr
    else ipv4Part lruMissStatVip.addr = ipv4Part vip.addr
  Prog.modify fun m ↦ { m with vipMissStats := some { lruMissStatVip with proto := vip.proto } }
  let vipMatch := addressMatch ∧ lruMissStatVip.port = vip.port ∧ vip.proto ≠ 0
  let counted ← Prog.read fun m ↦ (m.lruMissStats m.pckt.realIndex).isSome
  Prog.exitIf (vipMatch ∧ counted = false) .drop

/-- `process_udp_stable_routing`. Its caller ignores what it returns, so leaving it is no exit. -/
def processUdpStableRouting (frame : Frame) (isIpv6 : Bool) (m : Machine) : Machine :=
  match m.stableRtStats with
  | none => m
  | some stats =>
    let usr := parseUdpStableRtHdr frame isIpv6 m.pckt
    if usr.serverId ≠ 0 then
      let key := usr.serverId
      if (maps.serverIdMap key).isNone then
        { m with
          stableRtStats := some { stats with
            cidInvalidServerId := stats.cidInvalidServerId + 1
            chRouted := stats.chRouted + 1 } }
      else
        let m := { m with pckt.realIndex := key }
        if m.dst.isNone then
          { m with
            stableRtStats := some { stats with
              cidUnknownRealDropped := stats.cidUnknownRealDropped + 1 } }
        else
          { m with stableRtStats := some { stats with cidRouted := stats.cidRouted + 1 } }
    else
      { m with
        stableRtStats := some { stats with
          invalidPacketType :=
            if usr.isStableRtPkt then stats.invalidPacketType else stats.invalidPacketType + 1
          chRouted := stats.chRouted + 1 } }

variable {maps} in
theorem processUdpStableRouting_kept (frame : Frame) (isIpv6 : Bool) (m : Machine) :
    (processUdpStableRouting maps frame isIpv6 m).dst = m.dst ∧
      (processUdpStableRouting maps frame isIpv6 m).pckt.flags = m.pckt.flags := by
  simp only [processUdpStableRouting]
  split
  · exact ⟨rfl, rfl⟩
  · split
    · split
      · exact ⟨rfl, rfl⟩
      · split
        · exact ⟨rfl, rfl⟩
        · exact ⟨rfl, rfl⟩
    · exact ⟨rfl, rfl⟩

/-- `tcp_hdr_opt_lookup` returns 0. -/
def tcpHdrOptLookup (frame : Frame) (m : Machine) : Bool × Machine :=
  let serverId : BitVec 32 := 0
  if tcpHdrOptLookupServerId frame = false then
    (false, m)
  else
    let key := serverId
    if (maps.serverIdMap key).isNone then
      (false, m)
    else if key = 0 then
      (false, m)
    else
      let m := { m with pckt.realIndex := key }
      (m.dst.isSome, m)

variable {maps} in
@[simp]
theorem tcpHdrOptLookup_eq (frame : Frame) (m : Machine) :
    tcpHdrOptLookup maps frame m = (false, m) := by
  simp [tcpHdrOptLookup]

end Vsoshlb.DataPlane
