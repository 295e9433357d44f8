import Vsoshlb.DataPlane.Selection

/-!
# The forwarding program

`process_packet` step by step. Leaving a step early is leaving the program with that action. Here
the frame stays as it is, and whether a step that writes to it succeeds comes from the environment.
The bytes of encapsulated packets, of the replies to ICMP messages and of the messages to senders of
packets that are too big have modules of their own. Inline decapsulation ends the program with an
action from the environment.
-/

namespace Vsoshlb.DataPlane

open EarlyExit

variable (build : Build) (maps : KernelMaps) (env : Env)

/-! ## ICMP -/

/-- `send_icmp_reply` and `send_icmp6_reply`, by the size of the header of the address family. -/
def sendIcmpReply (frame : Frame) (hdrSize : ℕ) : XdpProg Unit := do
  Prog.exitIf (frame.length < ethhdrSize + hdrSize + icmphdrSize) .drop
  Prog.exit .tx

/-- `parse_icmpv6`. -/
def parseIcmpv6 : XdpProg Unit := do
  let frame := env.frame
  let off := env.thOff
  Prog.exitIf (frame.length < off + icmphdrSize) .drop
  let icmpType := frame.byte off
  Prog.when (icmpType = 128) (sendIcmpReply frame ipv6hdrSize)
  Prog.exitIf (icmpType ≠ 2 ∧ icmpType ≠ 1) .pass
  let smallMtu := (frame.be32 (off + 4)).toNat < 1280
  Prog.when (icmpType = 2)
    (countOrDrop (build.maxVips + ICMP_PTB_V6_STATS) fun stats ↦
      (if smallMtu then LbStats.addV2 1 else id) (stats.addV1 1))
  let ip6h := off + icmphdrSize
  Prog.exitIf (frame.length < ip6h + ipv6hdrSize) .drop
  Prog.modify fun m ↦ { m with
    pckt.flow.proto := frame.byte (ip6h + 6)
    pckt.flags := m.pckt.flags ||| F_ICMP
    pckt.flow.src := frame.be128 (ip6h + 24)
    pckt.flow.dst := frame.be128 (ip6h + 8) }

/-- `parse_icmp`. -/
def parseIcmp : XdpProg Unit := do
  let frame := env.frame
  let off := env.thOff
  Prog.exitIf (frame.length < off + icmphdrSize) .drop
  let icmpType := frame.byte off
  Prog.when (icmpType = 8) (sendIcmpReply frame iphdrSize)
  Prog.exitIf (icmpType ≠ 3) .pass
  let smallMtu := (frame.byte (off + 6) ++ frame.byte (off + 7)).toNat < 1280
  Prog.when (frame.byte (off + 1) = 4)
    (countOrDrop (build.maxVips + ICMP_PTB_V4_STATS) fun stats ↦
      (if smallMtu then LbStats.addV2 1 else id) (stats.addV1 1))
  let iph := off + icmphdrSize
  Prog.exitIf (frame.length < iph + iphdrSize) .drop
  Prog.exitIf (frame.byte iph &&& 0x0F ≠ 5) .drop
  Prog.modify fun m ↦ { m with
    pckt.flow.proto := frame.byte (iph + 9)
    pckt.flags := m.pckt.flags ||| F_ICMP
    pckt.flow.src := setIpv4Part m.pckt.flow.src (frame.be32 (iph + 16))
    pckt.flow.dst := setIpv4Part m.pckt.flow.dst (frame.be32 (iph + 12)) }

/-- `handle_if_icmp`. -/
def handleIfIcmp : XdpProg Unit :=
  if env.protocol = IPPROTO_ICMPV6 then
    parseIcmpv6 build env
  else if env.protocol = IPPROTO_ICMP then
    parseIcmp build env
  else
    pure ()

/-- `ignorable_quic_icmp_code`. -/
def ignorableQuicIcmpCode (frame : Frame) (isIpv6 : Bool) : Bool :=
  if isIpv6 then
    let code := frame.byte (ethhdrSize + ipv6hdrSize + 1)
    code = 3 ∨ code = 4
  else
    let code := frame.byte (ethhdrSize + iphdrSize + 1)
    code = 3 ∨ code = 1

/-! ## From the frame to the flow -/

/-- The part of `check_decap_dst` under `DECAP_STRICT_DESTINATION`. -/
def checkHostAddr (flow : FlowKey) : XdpProg Unit :=
  if env.isIpv6 then
    Prog.exitIf (∃ addr ∈ maps.pcktSrcs 1, addr.addr ≠ flow.dst) .pass
  else
    Prog.exitIf (∃ addr ∈ maps.pcktSrcs 0, ipv4Part addr.addr ≠ ipv4Part flow.dst) .pass

/-- `check_decap_dst`. -/
def checkDecapDst : XdpProg Unit := do
  let flow ← Prog.read fun m ↦ m.pckt.flow
  let dstAddr := if env.isIpv6 then flow.dst else setIpv4Part 0 (ipv4Part flow.dst)
  if (maps.decapDst dstAddr).isSome then
    countOrDrop (build.maxVips + REMOTE_ENCAP_CNTRS) (LbStats.addV1 1)
  else
    Prog.when build.decapStrictDestination (checkHostAddr maps env flow)

/-- The decapsulation of a packet from another balancer, which ends the program. -/
def decapsulate : XdpProg Unit := do
  checkDecapDst build maps env
  Prog.exit env.decap

def parseL3 : XdpProg Unit := do
  let pckt ← Prog.read Machine.pckt
  let (action, pckt) := parseL3Headers env.frame env.protocol env.nhOff env.isIpv6 pckt
  Prog.modify fun m ↦ { m with pckt := { pckt with flow.proto := env.flowProto } }
  match action with
  | some action => Prog.exit action
  | none => pure ()

def parseL4 : XdpProg Unit := do
  let pckt ← Prog.read Machine.pckt
  if pckt.flow.proto = IPPROTO_TCP then
    let pckt ← Prog.orExit (parseTcp env.frame env.isIpv6 pckt) .drop
    Prog.modify fun m ↦ { m with pckt := pckt }
  else if pckt.flow.proto = IPPROTO_UDP then
    let pckt ← Prog.orExit (parseUdp env.frame env.isIpv6 pckt) .drop
    Prog.modify fun m ↦ { m with pckt := pckt }
    Prog.when (build.inlineDecapGue ∧ pckt.flow.dport = bigEndian build.gueDport)
      (decapsulate build maps env)
  else
    Prog.exit .pass

/-- The part of `process_packet` that parses the headers. -/
def parseHeaders : XdpProg Unit := do
  parseL3 env
  handleIfIcmp build env
  let protocol ← Prog.read fun m ↦ m.pckt.flow.proto
  Prog.when (build.inlineDecapIpip ∧ (protocol = IPPROTO_IPIP ∨ protocol = IPPROTO_IPV6))
    (decapsulate build maps env)
  parseL4 build maps env

/-! ## From the flow to the VIP -/

/-- The key of the map of VIPs that the flow of a packet goes to. -/
def vipDefinition (isIpv6 : Bool) (flow : FlowKey) : VipDefinition where
  addr := if isIpv6 then flow.dst else setIpv4Part 0 (ipv4Part flow.dst)
  port := flow.dport
  proto := flow.proto

/-- The VIP of a flow, and the flow as it is hashed and looked up. A VIP without a port takes every
port, and forgets it unless its flags ask for it. -/
def findVip (isIpv6 : Bool) (flow : FlowKey) : Option (VipDefinition × VipMeta × FlowKey) :=
  let vip := vipDefinition isIpv6 flow
  match maps.vipMap vip with
  | some vipInfo => some (vip, vipInfo, flow)
  | none =>
    let vip := { vip with port := 0 }
    match maps.vipMap vip with
    | none => none
    | some vipInfo =>
      if hasFlag vipInfo.flags F_HASH_DPORT_ONLY = false ∧
          hasFlag vipInfo.flags F_HASH_SRC_DST_PORT = false then
        some (vip, vipInfo, { flow with dport := 0 })
      else
        some (vip, vipInfo, flow)

/-- `F_HASH_NO_SRC_PORT`. -/
def hideSourcePort (vipInfo : VipMeta) (flow : FlowKey) : FlowKey :=
  if hasFlag vipInfo.flags F_HASH_NO_SRC_PORT then { flow with sport := 0 } else flow

/-- The VIP of the packet, of which the flow keeps what the VIP cares about. -/
def lookupVip : XdpProg (VipDefinition × VipMeta) := do
  let flow ← Prog.read fun m ↦ m.pckt.flow
  let (vip, vipInfo, flow) ← Prog.orExit (findVip maps env.isIpv6 flow) .pass
  Prog.modify fun m ↦ { m with pckt.flow := flow }
  return (vip, vipInfo)

/-- `send_icmp_too_big`. -/
def sendIcmpTooBig : XdpProg Unit := do
  Prog.exitIf (env.adjustTail = false ∨ env.adjustHead = false) .drop
  Prog.exit .tx

/-- What happens to a packet that is too big. -/
def rejectTooBig : XdpProg Unit :=
  if build.icmpToobigGeneration then do
    countOrDrop (build.maxVips + ICMP_TOOBIG_CNTRS)
      (if env.isIpv6 then LbStats.addV2 1 else LbStats.addV1 1)
    sendIcmpTooBig env
  else
    Prog.exit .drop

variable {build env} in
theorem rejectTooBig_triple {P : Machine → Prop} {E : XdpAction → Machine → Prop}
    (hbump : ∀ key f m, P m → P (m.bump key f)) (hexit : ∀ action m, P m → E action m) :
    Triple P (rejectTooBig build env) (fun _ ↦ P) E := by
  refine .ite (fun _ ↦ ?_) fun _ ↦ .exit (hexit .drop)
  refine .bind (countOrDrop_triple (hbump _ _) (hexit .drop)) fun _ ↦ ?_
  exact .exitIf_bind (fun _ ↦ hexit .drop) fun _ ↦ .exit (hexit .tx)

/-- The LRU map of the core. -/
def findLruMap : XdpProg LruMap :=
  match maps.lruMapping env.cpuNum with
  | some fd => pure (.core fd)
  | none => do
    countOrDrop (build.maxVips + FALLBACK_LRU_CNTR) (LbStats.addV1 1)
    return .fallbackCache

variable {build maps env} in
/-- Finding the map changes a counter at most. -/
theorem findLruMap_triple {P : Machine → Prop} {E : XdpAction → Machine → Prop}
    (hbump : ∀ m key f, P m → P (m.bump key f)) (hdrop : ∀ m, P m → E .drop m) :
    Triple P (findLruMap build maps env) (fun _ ↦ P) E := by
  unfold findLruMap
  split
  · exact .pure fun _ hs ↦ hs
  · exact .bind (countOrDrop_triple (fun m ↦ hbump m _ _) hdrop) fun _ ↦ .pure fun _ hs ↦ hs

/-! ## Server ids -/

def countQuic (f : QuicPacketsStats → QuicPacketsStats) : XdpProg Unit :=
  Prog.modify fun m ↦ { m with quicStats := m.quicStats.map f }

/-- `increment_quic_cid_version_stats`. -/
def incrementQuicCidVersionStats (cidVersion : BitVec 8) (stats : QuicPacketsStats) :
    QuicPacketsStats :=
  if cidVersion = 1 then { stats with cidV1 := stats.cidV1 + 1 }
  else if cidVersion = 2 then { stats with cidV2 := stats.cidV2 + 1 }
  else if cidVersion = 3 then { stats with cidV3 := stats.cidV3 + 1 }
  else { stats with cidV0 := stats.cidV0 + 1 }

/-- A server id without a position: the packet goes by consistent hashing. -/
def invalidServerId (serverId : BitVec 32) (stats : QuicPacketsStats) : QuicPacketsStats :=
  { stats with
    cidInvalidServerId := stats.cidInvalidServerId + 1
    cidInvalidServerIdSample := serverId.signExtend 64
    chRouted := stats.chRouted + 1 }

/-- The statistics of a routed packet, by what the LRU map held. -/
def countLruCheck (check : LruCheck) (stats : QuicPacketsStats) : QuicPacketsStats :=
  match check with
  | .matched => { stats with dstMatchInLru := stats.dstMatchInLru + 1 }
  | .mismatched => { stats with dstMismatchInLru := stats.dstMismatchInLru + 1 }
  | .notFound => { stats with dstNotFoundInLru := stats.dstNotFoundInLru + 1 }

/-- A packet of the real with the given index, which is dropped where there is no such real. -/
def routeToIndex (lruMap : LruMap) (key : BitVec 32) : XdpProg Unit := do
  Prog.modify fun m ↦ { m with
    pckt.realIndex := key
    dst := maps.reals key }
  Prog.when (maps.reals key).isNone do
    countQuic fun stats ↦ { stats with cidUnknownRealDropped := stats.cidUnknownRealDropped + 1 }
    Prog.exit .drop
  let res ← Prog.act (checkAndUpdateRealIndexInLru build env.curTime lruMap)
  countQuic (countLruCheck res)
  countQuic fun stats ↦ { stats with cidRouted := stats.cidRouted + 1 }

/-- The routing of a QUIC packet by the server id in its connection id. The id itself is the index
of the real: the position that `server_id_map` gives for it is not read. -/
def routeByCid (lruMap : LruMap) (qpr : QuicParseResult) : XdpProg Unit := do
  countQuic (incrementQuicCidVersionStats qpr.cidVersion)
  let key := qpr.serverId
  if (maps.serverIdMap key).isNone then
    countQuic (invalidServerId qpr.serverId)
  else if key = 0 then
    countQuic (invalidServerId qpr.serverId)
  else
    routeToIndex build maps env lruMap key

/-- The part of `process_packet` for a VIP with `F_QUIC_VIP`. -/
def routeQuic (lruMap : LruMap) : XdpProg Unit := do
  let pckt ← Prog.read Machine.pckt
  if hasFlag pckt.flags F_ICMP then
    countOrDrop (build.maxVips + QUIC_ICMP_STATS) fun stats ↦
      (if ignorableQuicIcmpCode env.frame env.isIpv6 then LbStats.addV2 1 else id) (stats.addV1 1)
  else
    Prog.exitIf (← Prog.read fun m ↦ m.quicStats.isNone) .drop
    let qpr := parseQuic env.frame env.isIpv6 pckt
    if 0 < qpr.serverId.toInt then
      routeByCid build maps env lruMap qpr
    else if qpr.isInitial = false then
      countQuic fun stats ↦ { stats with chRouted := stats.chRouted + 1 }
    else
      countQuic fun stats ↦ { stats with cidInitial := stats.cidInitial + 1 }

/-- Every lookup of a real by a server id that comes before those by the flow. -/
def routeByServerId (vipInfo : VipMeta) (lruMap : LruMap) : XdpProg Unit := do
  Prog.when (hasFlag vipInfo.flags F_QUIC_VIP) (routeQuic build maps env lruMap)
  let proto ← Prog.read fun m ↦ m.pckt.flow.proto
  Prog.when (build.udpStableRouting ∧ proto = IPPROTO_UDP ∧
      hasFlag vipInfo.flags F_UDP_STABLE_ROUTING_VIP)
    (Prog.modify (processUdpStableRouting maps env.frame env.isIpv6))

/-! ## The flow table and the ring -/

def countTpr (f : TprPacketsStats → TprPacketsStats) : XdpProg Unit :=
  Prog.modify fun m ↦ { m with tprStats := m.tprStats.map f }

/-- A TCP packet with a server id: the LRU map learns where it goes. -/
def refreshLru (vipInfo : VipMeta) (lruMap : LruMap) : XdpProg Unit :=
  Prog.when (hasFlag vipInfo.flags F_LRU_BYPASS = false) do
    let res ← Prog.act (checkAndUpdateRealIndexInLru build env.curTime lruMap)
    Prog.when (res = .mismatched)
      (countTpr fun stats ↦ { stats with dstMismatchInLru := stats.dstMismatchInLru + 1 })

/-- The lookup of a server id in the options of a TCP header. -/
def routeTcp (vipInfo : VipMeta) (lruMap : LruMap) : XdpProg Unit := do
  let pckt ← Prog.read Machine.pckt
  Prog.when (pckt.flow.proto = IPPROTO_TCP) do
    Prog.exitIf (← Prog.read fun m ↦ m.tprStats.isNone) .drop
    if hasFlag pckt.flags F_SYN_SET then
      countTpr fun stats ↦ { stats with tcpSyn := stats.tcpSyn + 1 }
    else
      let found ← Prog.act (tcpHdrOptLookup maps env.frame)
      if found then
        refreshLru build env vipInfo lruMap
        countTpr fun stats ↦ { stats with sidRouted := stats.sidRouted + 1 }
      else
        countTpr fun stats ↦ { stats with chRouted := stats.chRouted + 1 }

/-- No real is known yet, and the packet does not open a connection. -/
def wantsLookup (m : Machine) : Bool := m.dst.isNone && !hasFlag m.pckt.flags F_SYN_SET

/-- The miss of the LRU maps and the choice by consistent hashing. -/
def routeByHash (vip : VipDefinition) (vipInfo : VipMeta) (lruMap : LruMap) : XdpProg Unit := do
  let pckt ← Prog.read Machine.pckt
  Prog.when (pckt.flow.proto = IPPROTO_TCP)
    (countOrDrop (build.maxVips + LRU_MISS_CNTR)
      (if hasFlag pckt.flags F_SYN_SET then LbStats.addV1 1 else LbStats.addV2 1))
  let found ← Prog.act (getPacketDst build maps env.key vipInfo env.isIpv6 lruMap)
  Prog.exitIf (found = false) .drop
  updateVipLruMissStats vip env.isIpv6
  Prog.modify fun m ↦ m.bump (build.maxVips + LRU_CNTRS) (LbStats.addV2 1)

/-- The part of `process_packet` for packets without a real. -/
def selectReal (vip : VipDefinition) (vipInfo : VipMeta) (lruMap : LruMap) : XdpProg Unit := do
  Prog.when build.tcpServerIdRouting (routeTcp build maps env vipInfo lruMap)
  let lookup ← Prog.read wantsLookup
  Prog.when (lookup ∧ hasFlag vipInfo.flags F_LRU_BYPASS = false)
    (Prog.modify (connectionTableLookup build env.now lruMap false))
  let lookup ← Prog.read wantsLookup
  Prog.when (build.globalLruLookup ∧ lookup ∧ hasFlag vipInfo.flags F_GLOBAL_LRU)
    (performGlobalLruLookup build maps env.cpuNum env.now)
  Prog.when (← Prog.read fun m ↦ m.dst.isNone) (routeByHash build maps env vip vipInfo lruMap)

/-! ## The whole program -/

/-- The end of `process_packet`, for a packet with a real. -/
def deliver (vipInfo : VipMeta) (originalSport : BitVec 16) : XdpProg XdpAction := do
  Prog.exitIf (maps.ctlArray 0).isNone .drop
  let pktBytes := env.pktBytes.setWidth 64
  countOrDrop (BitVec.ofNat 32 vipInfo.vipNum) fun stats ↦ (stats.addV1 1).addV2 pktBytes
  let realIndex ← Prog.read fun m ↦ m.pckt.realIndex
  Prog.exitIf (← Prog.read fun m ↦ (m.realsStats realIndex).isNone) .drop
  Prog.modify fun m ↦ { m with
    realsStats := Function.update m.realsStats realIndex
      ((m.realsStats realIndex).map fun stats ↦ (stats.addV1 1).addV2 pktBytes) }
  let localReal ← Prog.read fun m ↦ m.dst.any fun dst ↦ hasFlag dst.flags F_LOCAL_REAL
  Prog.exitIf (build.localDeliveryOptimization ∧ hasFlag vipInfo.flags F_LOCAL_VIP ∧ localReal)
    .pass
  Prog.modify fun m ↦ { m with pckt.flow.sport := originalSport }
  return if env.encap then .tx else .drop

/-- `process_packet` after the lookup of the VIP. -/
def balance (vip : VipDefinition) (vipInfo : VipMeta) : XdpProg XdpAction := do
  Prog.when (build.maxPcktSize < env.frame.length) (rejectTooBig build env)
  countOrDrop (build.maxVips + LRU_CNTRS) (LbStats.addV1 1)
  Prog.modify fun m ↦ { m with pckt.flow := hideSourcePort vipInfo m.pckt.flow }
  let lruMap ← findLruMap build maps env
  routeByServerId build maps env vipInfo lruMap
  let originalSport ← Prog.read fun m ↦ m.pckt.flow.sport
  Prog.when (← Prog.read fun m ↦ m.dst.isNone) (selectReal build maps env vip vipInfo lruMap)
  deliver build maps env vipInfo originalSport

/-- The VIP that a packet goes to. -/
def classify : XdpProg (VipDefinition × VipMeta) := do
  parseHeaders build maps env
  lookupVip maps env

/-- `process_packet`. -/
def processPacket : XdpProg XdpAction := do
  let (vip, vipInfo) ← classify build maps env
  balance build maps env vip vipInfo

/-- `balancer_ingress`. -/
def balancerIngress : XdpProg XdpAction :=
  if env.frame.length < ethhdrSize then
    Prog.exit .drop
  else if env.frame.u16 12 = 8 then
    processPacket build maps { env with
      nhOff := ethhdrSize
      isIpv6 := false }
  else if env.frame.u16 12 = 56710 then
    processPacket build maps { env with
      nhOff := ethhdrSize
      isIpv6 := true }
  else
    Prog.exit .pass

/-- The locals of `process_packet` at its start, over maps that other packets have left. -/
def Machine.start (m : Machine) : Machine :=
  { m with
    pckt := ⟨⟨0, 0, 0, 0, 0⟩, 0, 0, 0⟩
    dst := none
    hash := none
    accesses := [] }

/-! ## A small data plane

One VIP, 10.0.0.1:80, with two reals, and a packet of a TCP connection to it. -/

/-- A TCP segment with nothing but an ACK, from 192.0.2.7:40000 to 10.0.0.1:80. -/
def Frame.ack : Frame :=
  List.replicate 12 0 ++ [0x08, 0x00] ++
    [0x45, 0x00, 0x00, 0x28, 0x00, 0x00, 0x00, 0x00, 0x40, 0x06, 0x00, 0x00,
      192, 0, 2, 7, 10, 0, 0, 1] ++
    [0x9c, 0x40, 0x00, 0x50, 0, 0, 0, 1, 0, 0, 0, 1, 0x50, 0x10, 0, 0, 0, 0, 0, 0]

/-- The flow of the segment. -/
def FlowKey.ack : FlowKey :=
  ⟨setIpv4Part 0 0xc0000207, setIpv4Part 0 0x0a000001, 0x409c, 0x5000, IPPROTO_TCP⟩

/-- What the program finds for a TCP segment over IPv4, and 5 in the variables that nothing sets. -/
def Env.tcp (frame : Frame) : Env where
  frame := frame
  nhOff := ethhdrSize
  isIpv6 := false
  cpuNum := 0
  now := 1000
  adjustTail := true
  adjustHead := true
  encap := true
  decap := .pass
  protocol := IPPROTO_TCP
  flowProto := IPPROTO_TCP
  thOff := ethhdrSize + iphdrSize
  pktBytes := 40
  key := 5
  curTime := 5

def RealDefinition.sample (i : BitVec 32) : RealDefinition := ⟨setIpv4Part 0 (0x0a000100 + i), 0⟩

def KernelMaps.sample (flags : BitVec 32) : KernelMaps where
  vipMap vip :=
    if vip = ⟨setIpv4Part 0 0x0a000001, 0x5000, IPPROTO_TCP⟩ then some ⟨flags, 0⟩ else none
  chRings _ := some 2
  reals i := if i.toNat < 3 then some (.sample i) else none
  serverIdMap _ := none
  lruMapping cpuNum := if cpuNum = 0 then some 0 else none
  globalLruMaps _ := none
  lpmSrcV4 _ := none
  lpmSrcV6 _ := none
  ctlArray _ := some 0
  decapDst _ := none
  pcktSrcs _ := none

/-- Counters at zero, and in every LRU map the position 1 for every flow. -/
def Machine.sample : Machine where
  pckt := ⟨⟨0, 0, 0, 0, 0⟩, 0, 0, 0⟩
  dst := none
  hash := none
  lru _ _ := some ⟨1, 1000⟩
  stats _ := some ⟨0, 0⟩
  realsStats _ := some ⟨0, 0⟩
  lruMissStats _ := some 0
  vipMissStats := some ⟨0, 0, 0⟩
  quicStats := none
  tprStats := none
  stableRtStats := none
  accesses := []

end Vsoshlb.DataPlane
