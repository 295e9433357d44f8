import Vsoshlb.DataPlane.IcmpErrors
import Vsoshlb.DataPlane.Tunnels

/-!
# Headers as they are written and as they are parsed

A frame that is made of headers says what the fields of the headers say. Where the headers of a
packet are complete the program parses it into its connection, and an ICMP error with a complete
quotation into the connection that it is about.
-/

namespace Vsoshlb.DataPlane

open EarlyExit

/-! ## Fields after a front -/

section Fields

variable {front : Frame}

theorem u16_append (rest : Frame) {n : ℕ} (hfront : front.length = n) (i : ℕ) :
    Frame.u16 (front ++ rest) (n + i) = rest.u16 i := by
  unfold Frame.u16
  rw [Nat.add_assoc, byte_append rest hfront, byte_append rest hfront]

/-- The ports after the two headers. -/
theorem ports_append {n : ℕ} (hfront : front.length = n) (sport dport : BitVec 16) (rest : Frame) :
    Frame.u16 (front ++ (bytes16 sport ++ bytes16 dport ++ rest)) n = sport ∧
      Frame.u16 (front ++ (bytes16 sport ++ bytes16 dport ++ rest)) (n + 2) = dport := by
  constructor
  · rw [← Nat.add_zero n, u16_append _ hfront, List.append_assoc]
    exact u16_bytes sport _
  · rw [u16_append _ hfront, List.append_assoc]
    exact u16_bytes dport rest

/-- What an IPv4 header says, whatever comes after it. -/
theorem iphdr_fields (hfront : front.length = ethhdrSize) (iph : Iphdr) (rest : Frame) :
    let frame := front ++ (iph.bytes ++ rest)
    frame.byte ethhdrSize = iph.version ++ iph.ihl ∧
      frame.u16 (ethhdrSize + 6) = iph.fragOff ∧
      frame.ipProtocol false = iph.protocol ∧
      frame.ipLengthField false = bigEndian iph.totLen ∧
      frame.be32 (ethhdrSize + 12) = reverseBytes iph.saddr ∧
      frame.be32 (ethhdrSize + 16) = reverseBytes iph.daddr := by
  have hfirst := byte_append (iph.bytes ++ rest) hfront 0
  have hfragOff := u16_append (iph.bytes ++ rest) hfront 6
  have hprotocol := byte_append (iph.bytes ++ rest) hfront 9
  have hlength := be16_append (iph.bytes ++ rest) hfront 2
  have hsaddr := be32_append (iph.bytes ++ rest) hfront 12
  have hdaddr := be32_append (iph.bytes ++ rest) hfront 16
  refine ⟨hfirst, hfragOff.trans ?_, hprotocol, hlength, hsaddr, hdaddr⟩
  exact u16_bytes iph.fragOff []

/-- What an IPv6 header says, whatever comes after it. -/
theorem ipv6hdr_fields (hfront : front.length = ethhdrSize) (ip6h : Ipv6hdr) {src dst : BitVec 128}
    (hsrc : ip6h.saddr = bytes128 src) (hdst : ip6h.daddr = bytes128 dst) (rest : Frame) :
    let frame := front ++ (ip6h.bytes ++ rest)
    frame.ipProtocol true = ip6h.nexthdr ∧
      frame.ipLengthField true = bigEndian ip6h.payloadLen ∧
      frame.be128 (ethhdrSize + 8) = src ∧ frame.be128 (ethhdrSize + 24) = dst := by
  have hprotocol := byte_append (ip6h.bytes ++ rest) hfront 6
  have hlength := be16_append (ip6h.bytes ++ rest) hfront 4
  let first : Frame := [ip6h.version ++ ip6h.priority, ip6h.flowLbl 0, ip6h.flowLbl 1,
    ip6h.flowLbl 2] ++ bytes16 ip6h.payloadLen ++ [ip6h.nexthdr, ip6h.hopLimit]
  have hbytes : ip6h.bytes = first ++ bytes128 src ++ bytes128 dst := by
    rw [← hsrc, ← hdst]
    rfl
  have hfirst : (front ++ first).length = ethhdrSize + 8 := by
    rw [List.length_append, hfront]
    rfl
  have hsecond : (front ++ first ++ bytes128 src).length = ethhdrSize + 24 := by
    rw [List.length_append, hfirst]
    rfl
  have hsaddr := (be128_append (bytes128 src ++ (bytes128 dst ++ rest)) hfirst 0).trans
    (be128_bytes src _)
  have hdaddr := (be128_append (bytes128 dst ++ rest) hsecond 0).trans (be128_bytes dst _)
  refine ⟨hprotocol, hlength, ?_, ?_⟩
  · rw [hbytes]
    simpa only [List.append_assoc, Nat.add_zero] using hsaddr
  · rw [hbytes]
    simpa only [List.append_assoc, Nat.add_zero] using hdaddr

theorem connection_v4 (hfront : front.length = ethhdrSize) (iph : Iphdr) (sport dport : BitVec 16)
    (rest : Frame) :
    Frame.connection (front ++ (iph.bytes ++ (bytes16 sport ++ bytes16 dport ++ rest))) false
      ethhdrSize = ⟨setIpv4Part 0 (reverseBytes iph.saddr), setIpv4Part 0 (reverseBytes iph.daddr),
        sport, dport, iph.protocol⟩ := by
  have hip : (front ++ iph.bytes).length = ethhdrSize + iphdrSize := by
    rw [List.length_append, hfront]
    rfl
  obtain ⟨hsport, hdport⟩ := ports_append hip sport dport rest
  rw [List.append_assoc] at hsport hdport
  obtain ⟨-, -, hproto, -, hsrc, hdst⟩ :=
    iphdr_fields hfront iph (bytes16 sport ++ bytes16 dport ++ rest)
  simp only [Frame.ipProtocol, Bool.false_eq_true, if_false] at hproto
  simp only [Frame.connection, ipHdrSize, Bool.false_eq_true, if_false, hsrc, hdst, hproto, hsport,
    hdport]

theorem connection_v6 (hfront : front.length = ethhdrSize) (ip6h : Ipv6hdr) {src dst : BitVec 128}
    (hsrc : ip6h.saddr = bytes128 src) (hdst : ip6h.daddr = bytes128 dst) (sport dport : BitVec 16)
    (rest : Frame) :
    Frame.connection (front ++ (ip6h.bytes ++ (bytes16 sport ++ bytes16 dport ++ rest))) true
      ethhdrSize = ⟨src, dst, sport, dport, ip6h.nexthdr⟩ := by
  have hip : (front ++ ip6h.bytes).length = ethhdrSize + ipv6hdrSize := by
    rw [List.length_append, hfront, Ipv6hdr.bytes, hsrc, hdst]
    rfl
  obtain ⟨hsport, hdport⟩ := ports_append hip sport dport rest
  rw [List.append_assoc] at hsport hdport
  obtain ⟨hproto, -, hsaddr, hdaddr⟩ :=
    ipv6hdr_fields hfront ip6h hsrc hdst (bytes16 sport ++ bytes16 dport ++ rest)
  simp only [Frame.ipProtocol, if_true] at hproto
  simp only [Frame.connection, ipHdrSize, if_true, hsaddr, hdaddr, hproto, hsport, hdport]

end Fields

/-! ## Connections -/

/-- Two frames with the same bytes in the places that a connection is taken from. -/
theorem connection_congr {frame frame' : Frame} {isIpv6 : Bool} {ip ip' : ℕ}
    (h : ∀ i < ipHdrSize isIpv6 + 4, frame.byte (ip + i) = frame'.byte (ip' + i)) :
    frame.connection isIpv6 ip = frame'.connection isIpv6 ip' := by
  have hu16 (i : ℕ) (hi : i + 1 < ipHdrSize isIpv6 + 4) :
      frame.u16 (ip + i) = frame'.u16 (ip' + i) := by
    simp only [Frame.u16, Nat.add_assoc, h i (by omega), h (i + 1) hi]
  have hbe32 (i : ℕ) (hi : i + 3 < ipHdrSize isIpv6 + 4) :
      frame.be32 (ip + i) = frame'.be32 (ip' + i) := by
    simp only [Frame.be32, Nat.add_assoc, h i (by omega), h (i + 1) (by omega),
      h (i + 2) (by omega), h (i + 3) hi]
  have hbe128 (i : ℕ) (hi : i + 15 < ipHdrSize isIpv6 + 4) :
      frame.be128 (ip + i) = frame'.be128 (ip' + i) := by
    simp only [Frame.be128, Nat.add_assoc, hbe32 i (by omega), hbe32 (i + 4) (by omega),
      hbe32 (i + 8) (by omega), hbe32 (i + 12) (by omega)]
  have hsport := hu16 (ipHdrSize isIpv6) (by omega)
  have hdport := hu16 (ipHdrSize isIpv6 + 2) (by omega)
  rw [← Nat.add_assoc, ← Nat.add_assoc] at hdport
  cases isIpv6 with
  | false =>
    simp only [Frame.connection, Bool.false_eq_true, if_false, hbe32 12 (by decide),
      hbe32 16 (by decide), h 9 (by decide), hsport, hdport]
  | true =>
    simp only [Frame.connection, if_true, hbe128 8 (by decide), hbe128 24 (by decide),
      h 6 (by decide), hsport, hdport]

/-- The addresses of a connection have nothing beyond their family. -/
theorem overlay_connection (frame : Frame) (isIpv6 : Bool) (ip : ℕ) :
    FlowKey.overlay isIpv6 ⟨0, 0, 0, 0, 0⟩ (frame.connection isIpv6 ip) =
      frame.connection isIpv6 ip := by
  cases isIpv6 with
  | true => simp only [FlowKey.overlay, setAddress, if_true]
  | false =>
    have hipv4 (addr : BitVec 32) : setAddress false 0 (setIpv4Part 0 addr) = setIpv4Part 0 addr :=
      isIpv4_setIpv4Part addr
    simp only [FlowKey.overlay, Frame.connection, Bool.false_eq_true, if_false, hipv4]

theorem overlay_reply {isIpv6 : Bool} {connection : FlowKey}
    (h : FlowKey.overlay isIpv6 ⟨0, 0, 0, 0, 0⟩ connection = connection) :
    FlowKey.overlay isIpv6 ⟨0, 0, 0, 0, 0⟩ connection.reply = connection.reply := by
  have hreply : FlowKey.overlay isIpv6 ⟨0, 0, 0, 0, 0⟩ connection.reply =
      (FlowKey.overlay isIpv6 ⟨0, 0, 0, 0, 0⟩ connection).reply := by
    simp only [FlowKey.overlay, FlowKey.reply]
  rw [hreply, h]

/-! ## The parser -/

/-- The IP header of the packet is whole, without options, and the packet is no fragment. -/
structure Frame.HeaderAt (frame : Frame) (isIpv6 : Bool) : Prop where
  length : ethhdrSize + ipHdrSize isIpv6 ≤ frame.length
  header : isIpv6 = false → frame.byte ethhdrSize &&& 0x0F = 5
  whole : isIpv6 = false → hasFlag (frame.u16 (ethhdrSize + 6)) 65343 = false

section Parsing

variable {build : Build} {maps : KernelMaps} {env : Env} {m : Machine}

theorem Frame.CompleteAt.headerAt {frame : Frame} {isIpv6 : Bool}
    (h : frame.CompleteAt isIpv6 ethhdrSize)
    (hwhole : isIpv6 = false → hasFlag (frame.u16 (ethhdrSize + 6)) 65343 = false) :
    frame.HeaderAt isIpv6 :=
  ⟨(Nat.le_add_right _ _).trans h.length, h.header, hwhole⟩

/-- The addresses of an ICMP message are not those of a connection. -/
theorem parseL3Headers_of_header {frame : Frame} {isIpv6 : Bool} {protocol : BitVec 8}
    (h : frame.HeaderAt isIpv6) (hprotocol : protocol ≠ IPPROTO_FRAGMENT)
    (pckt : PacketDescription) :
    ∃ pckt', parseL3Headers frame protocol ethhdrSize isIpv6 pckt = (none, pckt') ∧
      pckt'.flags = pckt.flags ∧
      (protocol = (if isIpv6 then IPPROTO_ICMPV6 else IPPROTO_ICMP) → pckt'.flow = pckt.flow) := by
  have hroom := h.length
  cases isIpv6 with
  | false =>
    have hlong : ¬ frame.length < ethhdrSize + iphdrSize := Nat.not_lt.mpr hroom
    simp only [parseL3Headers, Bool.false_eq_true, if_false, hlong, h.header rfl, h.whole rfl,
      ne_eq, not_true_eq_false]
    split_ifs with hicmp
    · exact ⟨_, rfl, rfl, fun _ ↦ rfl⟩
    · exact ⟨_, rfl, rfl, fun heq ↦ absurd heq hicmp⟩
  | true =>
    have hlong : ¬ frame.length < ethhdrSize + ipv6hdrSize := Nat.not_lt.mpr hroom
    simp only [parseL3Headers, if_true, hlong, hprotocol, if_false]
    split_ifs with hicmp
    · exact ⟨_, rfl, rfl, fun _ ↦ rfl⟩
    · exact ⟨_, rfl, rfl, fun heq ↦ absurd heq hicmp⟩

theorem parseL3_apply {pckt : PacketDescription} (hoff : env.nhOff = ethhdrSize)
    (h : parseL3Headers env.frame env.protocol ethhdrSize env.isIpv6 m.pckt = (none, pckt)) :
    parseL3 env m = (.ok (), { m with pckt := { pckt with flow.proto := env.flowProto } }) := by
  unfold parseL3
  rw [Prog.read_bind_apply, hoff, h]
  rfl

theorem parseL4_apply {pckt : PacketDescription}
    (h : parseTransport env.frame env.isIpv6 m.pckt = some pckt)
    (hgue : ¬ (build.inlineDecapGue ∧ pckt.flow.dport = bigEndian build.gueDport)) :
    parseL4 build maps env m = (.ok (), { m with pckt := pckt }) := by
  unfold parseTransport at h
  unfold parseL4
  rw [Prog.read_bind_apply]
  split_ifs at h with htcp hudp
  · rw [if_pos htcp, h]
    rfl
  · rw [if_neg htcp, if_pos hudp, h]
    simp only [Prog.orExit, Prog.pure_bind, Prog.modify_bind_apply, Prog.when, if_neg hgue]
    rfl

/-- What is after the headers for ICMP. -/
theorem parseHeaders_apply {l3 l4 : PacketDescription} {t : Machine}
    (hoff : env.nhOff = ethhdrSize)
    (hl3 : parseL3Headers env.frame env.protocol ethhdrSize env.isIpv6 m.pckt = (none, l3))
    (hicmp : handleIfIcmp build env { m with pckt := { l3 with flow.proto := env.flowProto } } =
      (.ok (), t))
    (hproto : t.pckt.flow.proto = IPPROTO_TCP ∨ t.pckt.flow.proto = IPPROTO_UDP)
    (hl4 : parseTransport env.frame env.isIpv6 t.pckt = some l4)
    (hgue : ¬ (build.inlineDecapGue ∧ l4.flow.dport = bigEndian build.gueDport)) :
    parseHeaders build maps env m = (.ok (), { t with pckt := l4 }) := by
  have hother : ¬ (t.pckt.flow.proto = IPPROTO_IPIP ∨ t.pckt.flow.proto = IPPROTO_IPV6) := by
    rcases hproto with htcp | hudp
    · rw [htcp]
      decide
    · rw [hudp]
      decide
  unfold parseHeaders
  rw [Prog.bind_apply, parseL3_apply hoff hl3]
  dsimp only
  rw [Prog.bind_apply, hicmp]
  dsimp only
  rw [Prog.read_bind_apply, Prog.when, if_neg fun h ↦ hother h.2, Prog.pure_bind]
  exact parseL4_apply hl4 hgue

/-- Complete headers are parsed into the connection that they have. -/
theorem parseHeaders_complete (hoff : env.nhOff = ethhdrSize)
    (hcomplete : env.frame.CompleteAt env.isIpv6 ethhdrSize)
    (hwhole : env.isIpv6 = false → hasFlag (env.frame.u16 (ethhdrSize + 6)) 65343 = false)
    (hprotocol : env.protocol = (env.frame.connection env.isIpv6 ethhdrSize).proto)
    (hflowProto : env.flowProto = (env.frame.connection env.isIpv6 ethhdrSize).proto)
    (hgue : ¬ (build.inlineDecapGue ∧
      (env.frame.connection env.isIpv6 ethhdrSize).dport = bigEndian build.gueDport)) :
    ∃ t, parseHeaders build maps env m.start = (.ok (), t) ∧
      t.pckt.flow = env.frame.connection env.isIpv6 ethhdrSize := by
  have hproto := hcomplete.proto
  have hother : env.protocol ≠ IPPROTO_FRAGMENT ∧ env.protocol ≠ IPPROTO_ICMP ∧
      env.protocol ≠ IPPROTO_ICMPV6 := by
    rw [hprotocol]
    rcases hproto with htcp | hudp
    · rw [htcp]
      decide
    · rw [hudp]
      decide
  obtain ⟨l3, hl3, hflags, -⟩ :=
    parseL3Headers_of_header (hcomplete.headerAt hwhole) hother.1 m.start.pckt
  have hclient : hasFlag m.start.pckt.flags F_ICMP = false :=
    (by decide : hasFlag (0 : BitVec 8) F_ICMP = false)
  have hheader : portsHdr env.isIpv6 (hasFlag l3.flags F_ICMP) = ethhdrSize := by
    rw [hflags, hclient]
    rfl
  obtain ⟨l4, hl4⟩ := @parseTransport_isSome env.frame env.isIpv6
    { l3 with flow.proto := env.flowProto } (by rw [hheader]; exact hcomplete)
    (by rw [hheader]; exact hflowProto)
  have hflow : l4.flow = env.frame.connection env.isIpv6 ethhdrSize := by
    rw [hprotocol] at hl3
    rw [hflowProto] at hl4
    exact (ownFlow hclient hproto hl3 hl4).trans (overlay_connection _ _ _)
  have hicmp : handleIfIcmp build env
      { m.start with pckt := { l3 with flow.proto := env.flowProto } } =
        (.ok (), { m.start with pckt := { l3 with flow.proto := env.flowProto } }) := by
    rw [handleIfIcmp, if_neg hother.2.2, if_neg hother.2.1]
    rfl
  rw [← hflow] at hgue
  rw [← hflowProto] at hproto
  exact ⟨_, parseHeaders_apply hoff hl3 hicmp hproto hl4 hgue, hflow⟩

/-- An ICMP error with a complete quotation is parsed into the quoted connection, as the other side
sees it. -/
theorem parseHeaders_error (hoff : env.nhOff = ethhdrSize)
    (hthOff : env.thOff = calcOffset env.isIpv6 false)
    (hheader : env.frame.HeaderAt env.isIpv6)
    (hprotocol : env.protocol = if env.isIpv6 then IPPROTO_ICMPV6 else IPPROTO_ICMP)
    (herror : env.frame.IsIcmpError env.isIpv6 env.thOff)
    (hcomplete : env.frame.CompleteAt env.isIpv6 (portsHdr env.isIpv6 true))
    (hcounters : PtbCounters build env.isIpv6 m)
    (hgue : ¬ (build.inlineDecapGue ∧
      (env.frame.connection env.isIpv6 (portsHdr env.isIpv6 true)).sport =
        bigEndian build.gueDport)) :
    ∃ t, parseHeaders build maps env m.start = (.ok (), t) ∧
      hasFlag t.pckt.flags F_ICMP = true ∧
      t.pckt.flow = (env.frame.connection env.isIpv6 (portsHdr env.isIpv6 true)).reply := by
  have hfragment : env.protocol ≠ IPPROTO_FRAGMENT := by
    rw [hprotocol]
    cases env.isIpv6 <;> decide
  obtain ⟨l3, hl3, -, hsame⟩ := parseL3Headers_of_header hheader hfragment m.start.pckt
  let read : Machine := { m.start with pckt := { l3 with flow.proto := env.flowProto } }
  obtain ⟨t, hrun, hquoted⟩ := @parseIcmpError_quoted build env read hthOff herror hcomplete
    hcounters
  obtain ⟨hflag, hquotedProto, hquotedFlow⟩ := hquoted.flow
  obtain ⟨l4, hl4⟩ : ∃ l4, parseTransport env.frame env.isIpv6 t.pckt = some l4 := by
    apply parseTransport_isSome
    · rw [hflag]
      exact hcomplete
    · rw [hflag, hquotedProto]
      rfl
  obtain ⟨hflags, hports⟩ := parseTransport_flow hl4
  have hflow : l4.flow = (env.frame.connection env.isIpv6 (portsHdr env.isIpv6 true)).reply := by
    have hstart : read.pckt.flow.src = 0 ∧ read.pckt.flow.dst = 0 := by
      have hflow := hsame hprotocol
      exact ⟨congrArg FlowKey.src hflow, congrArg FlowKey.dst hflow⟩
    calc l4.flow
        = .overlay env.isIpv6 read.pckt.flow (env.frame.clientConnection env.isIpv6 true) := by
          rw [hports, hflag, hquotedFlow]
      _ = .overlay env.isIpv6 ⟨0, 0, 0, 0, 0⟩ (env.frame.clientConnection env.isIpv6 true) :=
          FlowKey.overlay_congr hstart.1 hstart.2 _
      _ = env.frame.clientConnection env.isIpv6 true := overlay_reply (overlay_connection _ _ _)
  have hicmp : handleIfIcmp build env read = (.ok (), t) := by
    rw [← hrun, handleIfIcmp, parseIcmpError, hprotocol]
    cases env.isIpv6 with
    | false =>
      rw [if_neg Bool.false_ne_true, if_neg Bool.false_ne_true, if_neg (by decide), if_pos rfl]
    | true =>
      rw [if_pos rfl, if_pos rfl, if_pos rfl]
  have hproto : t.pckt.flow.proto = IPPROTO_TCP ∨ t.pckt.flow.proto = IPPROTO_UDP := by
    rw [hquotedProto]
    exact hcomplete.proto
  refine ⟨_, parseHeaders_apply hoff hl3 hicmp hproto hl4 ?_, hflags.trans hflag, hflow⟩
  rw [hflow]
  exact hgue

end Parsing

/-! ## The VIP of a packet -/

section Ingress

variable {build : Build} {maps : KernelMaps} {env : Env} {m t : Machine} {isIpv6 : Bool}

/-- The environment of `process_packet` for a frame of one family. -/
def Env.ingress (env : Env) (isIpv6 : Bool) : Env :=
  { env with
    nhOff := ethhdrSize
    isIpv6 := isIpv6 }

/-- A frame whose headers parse and whose VIP has an entry for its own port is balanced for that
VIP. -/
theorem balancerIngress_of_parseHeaders {vipInfo : VipMeta}
    (htype : env.frame.etherType = if isIpv6 then BE_ETH_P_IPV6 else BE_ETH_P_IP)
    (hlength : ethhdrSize ≤ env.frame.length)
    (hparse : parseHeaders build maps (env.ingress isIpv6) m.start = (.ok (), t))
    (hvip : maps.vipMap (vipDefinition isIpv6 t.pckt.flow) = some vipInfo) :
    balancerIngress build maps env m.start =
      balance build maps (env.ingress isIpv6) (vipDefinition isIpv6 t.pckt.flow) vipInfo t := by
  have hfind : findVip maps isIpv6 t.pckt.flow =
      some (vipDefinition isIpv6 t.pckt.flow, vipInfo, t.pckt.flow) := by
    simp only [findVip, hvip]
  have hprocess : processPacket build maps (env.ingress isIpv6) m.start =
      balance build maps (env.ingress isIpv6) (vipDefinition isIpv6 t.pckt.flow) vipInfo t := by
    rw [processPacket, Prog.bind_apply, classify_of_parseHeaders hparse hfind]
  have hlong : ¬ env.frame.length < ethhdrSize := Nat.not_lt.mpr hlength
  rw [← hprocess]
  cases isIpv6 with
  | false =>
    have hipv4 : env.frame.u16 12 = 8 := htype
    rw [balancerIngress, if_neg hlong, if_pos hipv4]
    rfl
  | true =>
    have hipv6 : env.frame.u16 12 = 56710 := htype
    have hother : env.frame.u16 12 ≠ 8 := by
      rw [hipv6]
      decide
    rw [balancerIngress, if_neg hlong, if_neg hother, if_pos hipv6]
    rfl

end Ingress

end Vsoshlb.DataPlane
