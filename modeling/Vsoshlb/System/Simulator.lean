import Vsoshlb.DataPlane.CompleteHeaders
import Vsoshlb.DataPlane.EchoReply
import Vsoshlb.System.Interleaving

/-!
# The simulator

`VsoshlbSimulator` makes a packet of a flow, runs it through the program and reads the real from the
headers of what comes back. The packet is one that the program parses into the flow, and so finds
under the key that the balancer stores for the VIP. Bytes that no function sets keep what was in
the buffer.
-/

namespace Vsoshlb

open DataPlane EarlyExit

def kMaxXdpPcktSize : ℕ := 4096

def kTestPacketSize : ℕ := 512

def kDefaultTtl : BitVec 8 := 64

structure VsoshlbFlow where
  src : String
  dst : String
  srcPort : BitVec 16
  dstPort : BitVec 16
  proto : BitVec 8

/-! ## The packet of a flow -/

def createV4Packet (src dst : BitVec 32) (buf : Frame) (proto : BitVec 8) (size : BitVec 16) :
    Frame :=
  let iph : Iphdr :=
    { version := 4
      ihl := 5
      tos := 0
      totLen := bigEndian size
      id := buf.u16 (ethhdrSize + 4)
      fragOff := 0
      ttl := kDefaultTtl
      protocol := proto
      check := 0
      saddr := reverseBytes src
      daddr := reverseBytes dst }
  (buf.write 12 (bytes16 BE_ETH_P_IP)).write ethhdrSize iph.bytes

def createV6Packet (src dst : BitVec 128) (buf : Frame) (proto : BitVec 8) (size : BitVec 16) :
    Frame :=
  let ip6h : Ipv6hdr :=
    { version := 6
      priority := 0
      flowLbl := fun _ ↦ 0
      payloadLen := bigEndian (size - 40)
      nexthdr := proto
      hopLimit := kDefaultTtl
      saddr := bytes128 src
      daddr := bytes128 dst }
  (buf.write 12 (bytes16 BE_ETH_P_IPV6)).write ethhdrSize ip6h.bytes

/-- `createTcpHeader`. All that is not zero are the ports and the flag `syn`. -/
def createTcpHeader (buf : Frame) (srcPort dstPort : BitVec 16) (offset : ℕ) : Frame :=
  buf.write offset (bytes16 (bigEndian srcPort) ++ bytes16 (bigEndian dstPort) ++
    (List.replicate 9 0 ++ [2] ++ List.replicate 6 0))

/-- `createUdpHeader`. The length is written in the order of the machine. -/
def createUdpHeader (buf : Frame) (srcPort dstPort : BitVec 16) (offset : ℕ) (size : BitVec 16) :
    Frame :=
  buf.write offset (bytes16 (bigEndian srcPort) ++ bytes16 (bigEndian dstPort) ++
    (bytes16 size ++ bytes16 0))

/-- The transport header that `createPacketFromFlow` adds, for one of the two protocols. -/
def createTransportHeader (flow : VsoshlbFlow) (pckt : Frame) (offset : ℕ) (size : BitVec 16) :
    Option Frame :=
  if flow.proto = IPPROTO_TCP then
    some (createTcpHeader pckt flow.srcPort flow.dstPort offset)
  else if flow.proto = IPPROTO_UDP then
    some (createUdpHeader pckt flow.srcPort flow.dstPort offset size)
  else
    none

/-- `createPacketFromFlow`, from the bytes of a new buffer, with `none` for `nullptr`. -/
def createPacketFromFlow (folly : Folly) (flow : VsoshlbFlow) (buf : Frame) : Option Frame :=
  let size : BitVec 16 := BitVec.ofNat 16 (kTestPacketSize - ethhdrSize)
  match folly.parse flow.src, folly.parse flow.dst with
  | some (.v4 src), some (.v4 dst) =>
    createTransportHeader flow (createV4Packet src dst buf flow.proto size)
      (ethhdrSize + iphdrSize) (size - 20)
  | some (.v6 src), some (.v6 dst) =>
    createTransportHeader flow (createV6Packet src dst buf flow.proto size)
      (ethhdrSize + ipv6hdrSize) (size - 40)
  | _, _ => none

/-! ## The run of the program -/

/-- `testXdpProg`, for what the program does to the bytes. It sets neither the size nor the return
value, although the caller passes variables for both. -/
def testXdpProg (prog : Frame → ℤ × Frame) (data : Frame) (sizeOut retval : BitVec 32) :
    ℤ × Frame × BitVec 32 × BitVec 32 :=
  let (res, dataOut) := prog data
  (res, dataOut, sizeOut, retval)

/-- `runSimulationInternal`. -/
def runSimulation (prog : Frame → ℤ × Frame) (pckt : Option Frame) : Option Frame :=
  match pckt with
  | none => none
  | some pckt =>
    if pckt.length > kMaxXdpPcktSize then
      none
    else
      let (res, rpckt, outputPcktSize, progRetVal) := testXdpProg prog pckt 0 0
      if res < 0 then
        none
      else if progRetVal ≠ 3 then
        none
      else
        some (rpckt.take outputPcktSize.toNat)

/-- `getPcktDst`. -/
def getPcktDst (folly : Folly) (pckt : Frame) : String :=
  if pckt.length < ethhdrSize then
    ""
  else if pckt.etherType = BE_ETH_P_IP then
    if pckt.length < ethhdrSize + iphdrSize then
      ""
    else
      folly.str (.v4 (pckt.be32 (ethhdrSize + 16)))
  else
    if pckt.length < ethhdrSize + ipv6hdrSize then
      ""
    else
      folly.str (.v6 (pckt.be128 (ethhdrSize + 24)))

def getRealForFlow (folly : Folly) (prog : Frame → ℤ × Frame) (flow : VsoshlbFlow) (buf : Frame) :
    String :=
  match runSimulation prog (createPacketFromFlow folly flow buf) with
  | none => ""
  | some rpckt => getPcktDst folly rpckt

/-- Nothing sets the return value, so no simulation has a result. -/
theorem getRealForFlow_eq (folly : Folly) (prog : Frame → ℤ × Frame) (flow : VsoshlbFlow)
    (buf : Frame) : getRealForFlow folly prog flow buf = "" := by
  have hnone : runSimulation prog (createPacketFromFlow folly flow buf) = none := by
    unfold runSimulation
    cases createPacketFromFlow folly flow buf with
    | none => rfl
    | some pckt =>
      dsimp only [testXdpProg]
      split_ifs
      · rfl
      · rfl
      · rfl
      · rename_i hretval
        exact absurd (by decide : (0 : BitVec 32) ≠ 3) hretval
  rw [getRealForFlow, hnone]

/-! ## What the packet says -/

section Headers

variable {buf hdr : Frame}

/-- The three writes as one frame. -/
theorem writes_eq {hProto : BitVec 16} {l4 : Frame}
    (hroom : ethhdrSize + hdr.length + l4.length ≤ buf.length) :
    ((buf.write 12 (bytes16 hProto)).write ethhdrSize hdr).write (ethhdrSize + hdr.length) l4 =
      buf.take 12 ++ bytes16 hProto ++
        (hdr ++ (l4 ++ buf.drop (ethhdrSize + hdr.length + l4.length))) := by
  have htype : (bytes16 hProto).length = 2 := rfl
  simp only [ethhdrSize] at hroom ⊢
  have hfront : (buf.take 12 ++ bytes16 hProto).length = 14 := by
    rw [List.length_append, List.length_take_of_le (by omega), htype]
  have hip : (buf.take 12 ++ bytes16 hProto ++ hdr).length = 14 + hdr.length := by
    rw [List.length_append, hfront]
  have hfirst : (buf.write 12 (bytes16 hProto)).length = buf.length :=
    Frame.length_write (by omega)
  have hheader : (buf.write 12 (bytes16 hProto)).write 14 hdr =
      buf.take 12 ++ bytes16 hProto ++ hdr ++ buf.drop (14 + hdr.length) := by
    have htake : (buf.write 12 (bytes16 hProto)).take 14 = buf.take 12 ++ bytes16 hProto :=
      List.take_left' hfront
    rw [Frame.write, htake, Frame.drop_write_of_le (by omega) (by omega)]
  have hsecond : ((buf.write 12 (bytes16 hProto)).write 14 hdr).length = buf.length :=
    (Frame.length_write (by omega)).trans hfirst
  have htake : ((buf.write 12 (bytes16 hProto)).write 14 hdr).take (14 + hdr.length) =
      buf.take 12 ++ bytes16 hProto ++ hdr := by
    rw [hheader]
    exact List.take_left' hip
  rw [Frame.write, htake, Frame.drop_write_of_le (by omega) (by omega),
    Frame.drop_write_of_le (by omega) (by omega)]
  simp only [List.append_assoc]

/-- An Ethernet header in front of anything else. -/
theorem front_etherType (hbuf : 12 ≤ buf.length) (hProto : BitVec 16) (rest : Frame) :
    (buf.take 12 ++ bytes16 hProto).length = ethhdrSize ∧
      Frame.etherType (buf.take 12 ++ bytes16 hProto ++ rest) = hProto := by
  have htake : (buf.take 12).length = 12 := List.length_take_of_le hbuf
  refine ⟨by rw [List.length_append, htake]; rfl, ?_⟩
  rw [Frame.etherType, ← Nat.add_zero 12, List.append_assoc, u16_append _ htake]
  exact u16_bytes hProto rest

end Headers

/-- A flow between two addresses, as the program writes it. -/
def VsoshlbFlow.key (flow : VsoshlbFlow) (src dst : IPAddress) : FlowKey where
  src := (parseAddrToBe src).addr
  dst := (parseAddrToBe dst).addr
  sport := bigEndian flow.srcPort
  dport := bigEndian flow.dstPort
  proto := flow.proto

/-- The packet of a flow: its headers are complete, its IP header covers it, and they say what the
flow is. The length in a UDP header is not that of the UDP packet. -/
structure MadeFrom (flow : VsoshlbFlow) (src dst : IPAddress) (isIpv6 : Bool) (pckt : Frame) :
    Prop where
  length : pckt.length = kTestPacketSize
  etherType : pckt.etherType = if isIpv6 then BE_ETH_P_IPV6 else BE_ETH_P_IP
  ipLength : ethhdrSize + pckt.ipLength isIpv6 = pckt.length
  connection : pckt.connection isIpv6 ethhdrSize = flow.key src dst
  complete : pckt.CompleteAt isIpv6 ethhdrSize
  whole : isIpv6 = false → hasFlag (pckt.u16 (ethhdrSize + 6)) 65343 = false
  udpLength : flow.proto = IPPROTO_UDP →
    ethhdrSize + Frame.ipHeaderSize isIpv6 + (pckt.udpLength isIpv6).toNat ≠ pckt.length

section Packets

variable {flow : VsoshlbFlow} {buf more : Frame}

/-- The bytes of a transport header: the ports, and then `more`. -/
def transportBytes (flow : VsoshlbFlow) (more : Frame) : Frame :=
  bytes16 (bigEndian flow.srcPort) ++ bytes16 (bigEndian flow.dstPort) ++ more

theorem createTransportHeader_eq {pckt made : Frame} {offset : ℕ} {size : BitVec 16}
    (h : createTransportHeader flow pckt offset size = some made) :
    (flow.proto = IPPROTO_TCP ∨ flow.proto = IPPROTO_UDP) ∧ ∃ more : Frame,
      more.length + 4 = transportHdrSize flow.proto ∧
      (flow.proto = IPPROTO_UDP → more.take 2 = bytes16 size) ∧
      made = pckt.write offset (transportBytes flow more) := by
  unfold createTransportHeader at h
  split_ifs at h with htcp hudp
  · refine ⟨Or.inl htcp, List.replicate 9 0 ++ [2] ++ List.replicate 6 0, ?_, ?_,
      (Option.some.inj h).symm⟩
    · rw [htcp]
      rfl
    · intro hudp
      rw [htcp] at hudp
      exact absurd hudp (by decide)
  · refine ⟨Or.inr hudp, bytes16 size ++ bytes16 0, ?_, fun _ ↦ rfl, (Option.some.inj h).symm⟩
    rw [hudp]
    rfl

theorem length_transportBytes (hmore : more.length + 4 = transportHdrSize flow.proto) :
    (transportBytes flow more).length = transportHdrSize flow.proto := by
  rw [← hmore, transportBytes, List.length_append, Nat.add_comm]
  rfl

/-- What both families have in common, by the fields of the IP header. -/
theorem madeFrom_of_header {isIpv6 : Bool} {src dst : IPAddress} {hdr : Frame} {hProto : BitVec 16}
    {size : BitVec 16} (hbuf : buf.length = kTestPacketSize)
    (hproto : flow.proto = IPPROTO_TCP ∨ flow.proto = IPPROTO_UDP)
    (hmore : more.length + 4 = transportHdrSize flow.proto)
    (hudp : flow.proto = IPPROTO_UDP → more.take 2 = bytes16 size)
    (hwrong : ethhdrSize + Frame.ipHeaderSize isIpv6 + (bigEndian size).toNat ≠ kTestPacketSize)
    (hhdr : hdr.length = Frame.ipHeaderSize isIpv6)
    (htype : hProto = if isIpv6 then BE_ETH_P_IPV6 else BE_ETH_P_IP)
    (hconnection : ∀ front rest : Frame, front.length = ethhdrSize →
      Frame.connection (front ++ (hdr ++ (transportBytes flow more ++ rest))) isIpv6 ethhdrSize =
        flow.key src dst)
    (hlength : ∀ front rest : Frame, front.length = ethhdrSize →
      ethhdrSize + Frame.ipLength (front ++ (hdr ++ rest)) isIpv6 = kTestPacketSize)
    (hheader : isIpv6 = false → ∀ rest : Frame,
      Frame.byte (hdr ++ rest) 0 = 0x45 ∧ Frame.u16 (hdr ++ rest) 6 = 0) :
    MadeFrom flow src dst isIpv6
      (((buf.write 12 (bytes16 hProto)).write ethhdrSize hdr).write (ethhdrSize + hdr.length)
        (transportBytes flow more)) := by
  have hl4 := length_transportBytes hmore
  have hsmall : transportHdrSize flow.proto ≤ 20 := by
    rcases hproto with htcp | hudp
    · rw [htcp]
      decide
    · rw [hudp]
      decide
  have hip : Frame.ipHeaderSize isIpv6 ≤ 40 := by cases isIpv6 <;> decide
  have hroom : ethhdrSize + hdr.length + (transportBytes flow more).length ≤ buf.length := by
    rw [hhdr, hl4, hbuf]
    simp only [ethhdrSize, kTestPacketSize]
    omega
  rw [writes_eq hroom]
  generalize hrest : buf.drop (ethhdrSize + hdr.length + (transportBytes flow more).length) = rest
  obtain ⟨hfront, hetherType⟩ := front_etherType (hbuf ▸ (by decide : 12 ≤ kTestPacketSize))
    hProto (hdr ++ (transportBytes flow more ++ rest))
  have hconn := hconnection _ rest hfront
  have hdropped : rest.length + (ethhdrSize + hdr.length + (transportBytes flow more).length) =
      kTestPacketSize := by
    rw [← hrest, List.length_drop, ← hbuf]
    exact Nat.sub_add_cancel hroom
  have htotal : (buf.take 12 ++ bytes16 hProto ++
      (hdr ++ (transportBytes flow more ++ rest))).length = kTestPacketSize := by
    rw [List.length_append, hfront, List.length_append, List.length_append]
    omega
  have hkey : (flow.key src dst).proto = flow.proto := rfl
  refine
    { length := htotal
      etherType := hetherType.trans htype
      ipLength := (hlength _ _ hfront).trans htotal.symm
      connection := hconn
      complete := ⟨fun hipv4 ↦ ?_, ?_, ?_⟩
      whole := fun hipv4 ↦ ?_
      udpLength := fun hproto' ↦ ?_ }
  · rw [← Nat.add_zero ethhdrSize, byte_append _ hfront, (hheader hipv4 _).1]
    decide
  · rw [hconn]
    exact hproto
  · rw [hconn, htotal, hkey, ← hl4, ← hdropped]
    have hsame : ipHdrSize isIpv6 = hdr.length := hhdr.symm
    omega
  · rw [u16_append _ hfront, (hheader hipv4 _).2]
    decide
  · have hbehind : (buf.take 12 ++ bytes16 hProto ++ hdr).length =
        ethhdrSize + Frame.ipHeaderSize isIpv6 := by
      rw [List.length_append, hfront, hhdr]
    have hfield : Frame.udpLength (buf.take 12 ++ bytes16 hProto ++
        (hdr ++ (transportBytes flow more ++ rest))) isIpv6 = bigEndian size := by
      rw [Frame.udpLength, ← List.append_assoc, ← Nat.add_assoc, be16_append _ hbehind,
        ← List.take_append_drop 2 more, hudp hproto']
      rfl
    rw [hfield, htotal]
    exact hwrong

theorem createV4Packet_madeFrom (hbuf : buf.length = kTestPacketSize) {src dst : BitVec 32}
    {pckt : Frame} (h : createTransportHeader flow (createV4Packet src dst buf flow.proto 498)
      (ethhdrSize + iphdrSize) 478 = some pckt) :
    MadeFrom flow (.v4 src) (.v4 dst) false pckt := by
  have hversion : (4 : BitVec 4) ++ (5 : BitVec 4) = (0x45 : BitVec 8) := by decide
  obtain ⟨hproto, more, hmore, hudp, rfl⟩ := createTransportHeader_eq h
  refine madeFrom_of_header hbuf hproto hmore hudp (by decide) rfl rfl
    (fun front rest hfront ↦ ?_) (fun front rest hfront ↦ ?_) fun _ _ ↦
      ⟨hversion, u16_bytes 0 []⟩
  · rw [transportBytes, List.append_assoc, connection_v4 hfront, reverseBytes_reverseBytes,
      reverseBytes_reverseBytes]
    rfl
  · rw [Frame.ipLength, (iphdr_fields hfront _ rest).2.2.2.1, bigEndian_bigEndian]
    rfl

theorem createV6Packet_madeFrom (hbuf : buf.length = kTestPacketSize) {src dst : BitVec 128}
    {pckt : Frame} (h : createTransportHeader flow (createV6Packet src dst buf flow.proto 498)
      (ethhdrSize + ipv6hdrSize) 458 = some pckt) :
    MadeFrom flow (.v6 src) (.v6 dst) true pckt := by
  obtain ⟨hproto, more, hmore, hudp, rfl⟩ := createTransportHeader_eq h
  refine madeFrom_of_header hbuf hproto hmore hudp (by decide) rfl rfl
    (fun front rest hfront ↦ ?_) (fun front rest hfront ↦ ?_) fun hipv4 ↦ by cases hipv4
  · rw [transportBytes, List.append_assoc, connection_v6 hfront _ rfl rfl]
    rfl
  · rw [Frame.ipLength, (ipv6hdr_fields hfront _ rfl rfl rest).2.1, bigEndian_bigEndian]
    rfl

/-- The packet of a flow between two addresses of one family. -/
theorem createPacketFromFlow_madeFrom {folly : Folly} {pckt : Frame}
    (hbuf : buf.length = kTestPacketSize)
    (h : createPacketFromFlow folly flow buf = some pckt) :
    ∃ src dst isIpv6, folly.parse flow.src = some src ∧ folly.parse flow.dst = some dst ∧
      MadeFrom flow src dst isIpv6 pckt := by
  unfold createPacketFromFlow at h
  dsimp only at h
  split at h
  · rename_i src dst hsrc hdst
    exact ⟨.v4 src, .v4 dst, false, hsrc, hdst, createV4Packet_madeFrom hbuf h⟩
  · rename_i src dst hsrc hdst
    exact ⟨.v6 src, .v6 dst, true, hsrc, hdst, createV6Packet_madeFrom hbuf h⟩
  · cases h

end Packets

/-! ## The program on such a packet -/

/-- What the program finds for a packet, with the variables set that the parser of the IP header
leaves alone. -/
structure Simulating (flow : VsoshlbFlow) (pckt : Frame) (env : Env) : Prop where
  frame : env.frame = pckt
  protocol : env.protocol = flow.proto
  flowProto : env.flowProto = flow.proto

section Simulation

variable {folly : Folly} {config : Config} {flow : VsoshlbFlow} {buf pckt : Frame} {build : Build}
variable {maps : KernelMaps} {env : Env}

namespace MadeFrom

variable {src dst : IPAddress} {isIpv6 : Bool}

/-- The entry for which the program looks is that of the VIP with the address, the port and the
protocol of the flow. -/
theorem vipDefinition (h : MadeFrom flow src dst isIpv6 pckt)
    (hdst : folly.parse flow.dst = some dst) :
    some (vipDefinition isIpv6 (flow.key src dst)) =
      vipKeyToVipDefinition folly ⟨flow.dst, flow.dstPort, flow.proto⟩ := by
  have haddr := congrArg FlowKey.dst (overlay_connection pckt isIpv6 ethhdrSize)
  rw [h.connection] at haddr
  simp only [vipKeyToVipDefinition, hdst, Option.map_some]
  exact congrArg (fun addr ↦ some (⟨addr, _, _⟩ : VipDefinition)) haddr

/-- The program parses the packet into the flow. -/
theorem parseHeaders (h : MadeFrom flow src dst isIpv6 pckt) (hsim : Simulating flow pckt env)
    (hgue : ¬ (build.inlineDecapGue ∧ flow.dstPort = build.gueDport)) (m : Machine) :
    ∃ t, parseHeaders build maps (env.ingress isIpv6) m.start = (.ok (), t) ∧
      t.pckt.flow = flow.key src dst := by
  obtain ⟨frame, protocol, flowProto⟩ := hsim
  subst frame
  have hproto := congrArg FlowKey.proto h.connection
  have hdport := congrArg FlowKey.dport h.connection
  obtain ⟨t, hparse, hflow⟩ := @parseHeaders_complete build maps (env.ingress isIpv6) m rfl
    h.complete h.whole (protocol.trans hproto.symm) (flowProto.trans hproto.symm)
    fun hport ↦ hgue ⟨hport.1, bigEndian_injective (hdport.symm.trans hport.2)⟩
  exact ⟨t, hparse, hflow.trans h.connection⟩

end MadeFrom

/-- The program on a packet that a flow has been made into. -/
theorem MadeFrom.balanced {src dst : IPAddress} {isIpv6 : Bool} {vipInfo : VipMeta}
    (h : MadeFrom flow src dst isIpv6 pckt) (hsim : Simulating flow pckt env)
    (hgue : ¬ (build.inlineDecapGue ∧ flow.dstPort = build.gueDport))
    (hvip : maps.vipMap (DataPlane.vipDefinition isIpv6 (flow.key src dst)) = some vipInfo)
    (m : Machine) :
    ∃ t, t.pckt.flow = flow.key src dst ∧
      balancerIngress build maps env m.start = balance build maps (env.ingress isIpv6)
        (DataPlane.vipDefinition isIpv6 (flow.key src dst)) vipInfo t := by
  obtain ⟨t, hparse, hflow⟩ := @MadeFrom.parseHeaders flow pckt build maps env src dst isIpv6 h
    hsim hgue m
  have hlength : ethhdrSize ≤ env.frame.length := by
    rw [hsim.frame, h.length]
    decide
  have htype : env.frame.etherType = if isIpv6 then BE_ETH_P_IPV6 else BE_ETH_P_IP := by
    rw [hsim.frame]
    exact h.etherType
  rw [← hflow] at hvip ⊢
  exact ⟨t, rfl, balancerIngress_of_parseHeaders htype hlength hparse hvip⟩

/-- The program finds the VIP of a flow for the packet that the simulator makes, and balances it by
the key of the flow. -/
theorem createPacketFromFlow_balanced {s : State} (hagrees : VipMapAgrees folly s)
    (hbuf : buf.length = kTestPacketSize)
    (hpckt : createPacketFromFlow folly flow buf = some pckt) (hsim : Simulating flow pckt env)
    (hgue : ¬ (build.inlineDecapGue ∧ flow.dstPort = build.gueDport)) {v : Vip}
    (hvip : s.tables.vips.lookup ⟨flow.dst, flow.dstPort, flow.proto⟩ = some v)
    (others : KernelMaps) (m : Machine) :
    ∃ src dst isIpv6 vipDef t, folly.parse flow.src = some src ∧
      folly.parse flow.dst = some dst ∧
      vipKeyToVipDefinition folly ⟨flow.dst, flow.dstPort, flow.proto⟩ = some vipDef ∧
      t.pckt.flow = flow.key src dst ∧
      balancerIngress build (s.packetMaps config others) env m.start =
        balance build (s.packetMaps config others) (env.ingress isIpv6) vipDef
          ⟨v.vipFlags, v.vipNum⟩ t := by
  obtain ⟨src, dst, isIpv6, hsrc, hdst, hmade⟩ := createPacketFromFlow_madeFrom hbuf hpckt
  obtain ⟨vipDef, hdef, hentry⟩ := hagrees.entry _ v hvip
  have hvipDef : DataPlane.vipDefinition isIpv6 (flow.key src dst) = vipDef :=
    Option.some.inj ((hmade.vipDefinition hdst).trans hdef)
  obtain ⟨t, hflow, hbalance⟩ := @MadeFrom.balanced flow pckt build (s.packetMaps config others)
    env src dst isIpv6 (vipEntry v) hmade hsim hgue (by rw [hvipDef]; exact hentry) m
  rw [hvipDef] at hbalance
  exact ⟨src, dst, isIpv6, vipDef, t, hsrc, hdst, hdef, hflow, hbalance⟩

end Simulation

/-- A flow to a service, with the ports of no tunnel. -/
def sampleFlow : VsoshlbFlow := ⟨"10.0.0.2", "10.0.0.1", 40000, 80, IPPROTO_TCP⟩

/-- The small balancer with the service of the flow. -/
def sampleService : State :=
  (addVip .sample .sample ⟨"10.0.0.1", 80, IPPROTO_TCP⟩ 0 (.sample [])).2

theorem sampleFlow_balanced : ∃ (pckt : Frame) (v : Vip) (src dst : IPAddress) (isIpv6 : Bool)
    (vipDef : VipDefinition) (t : Machine),
    createPacketFromFlow .sample sampleFlow (List.replicate 512 0) = some pckt ∧
      Folly.sample.parse sampleFlow.src = some src ∧
      Folly.sample.parse sampleFlow.dst = some dst ∧
      vipKeyToVipDefinition .sample ⟨"10.0.0.1", 80, IPPROTO_TCP⟩ = some vipDef ∧
      t.pckt.flow = sampleFlow.key src dst ∧
      balancerIngress .plain (sampleService.packetMaps .sample (KernelMaps.sample 0))
          (Env.tcp pckt) Machine.sample.start =
        balance .plain (sampleService.packetMaps .sample (KernelMaps.sample 0))
          ((Env.tcp pckt).ingress isIpv6) vipDef ⟨v.vipFlags, v.vipNum⟩ t := by
  have hempty : VipMapAgrees .sample (.sample []) := Image.isImage_empty
  have hagrees : VipMapAgrees .sample sampleService := by
    apply (addVip_vipMapAgrees_iff rfl rfl hempty _ 0 (.sorted id)).mp
    intro _ vip' v' hlookup
    exact absurd (hlookup.symm.trans (Finmap.lookup_empty vip')) (Option.some_ne_none v')
  have hmade : (createPacketFromFlow .sample sampleFlow (List.replicate 512 0)).isSome := by
    decide +kernel
  have hknown : (sampleService.tables.vips.lookup ⟨"10.0.0.1", 80, IPPROTO_TCP⟩).isSome := by
    decide +kernel
  obtain ⟨pckt, hpckt⟩ := Option.isSome_iff_exists.mp hmade
  obtain ⟨v, hvip⟩ := Option.isSome_iff_exists.mp hknown
  obtain ⟨src, dst, isIpv6, vipDef, t, hbalanced⟩ := @createPacketFromFlow_balanced .sample .sample
    sampleFlow _ pckt .plain (Env.tcp pckt) sampleService hagrees List.length_replicate
    hpckt ⟨rfl, rfl, rfl⟩ (fun hgue ↦ absurd hgue.1 (by decide)) v hvip (KernelMaps.sample 0)
    Machine.sample
  exact ⟨pckt, v, src, dst, isIpv6, vipDef, t, hpckt, hbalanced⟩

/-! ## The real of a frame -/

section Reals

variable {folly : Folly}

end Reals

end Vsoshlb
