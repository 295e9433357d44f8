import Vsoshlb.DataPlane.Classification

/-!
# ICMP errors

An ICMP error quotes the headers of the packet it is about. Where that packet went from a service to
a client, the error has to go to the server of the connection. `parse_icmp` and `parse_icmpv6` take
the addresses of the quotation the other way round and leave a flag, by which `parse_tcp` and
`parse_udp` find the quoted ports and take them the other way round as well. The flow that comes out
is the flow of the client's own packets.
-/

namespace Vsoshlb.DataPlane

open EarlyExit

variable {build : Build} {env : Env}

/-! ## Connections in the bytes of a frame -/

/-- The size of an IP header without options or extensions. -/
def ipHdrSize (isIpv6 : Bool) : ℕ := if isIpv6 then ipv6hdrSize else iphdrSize

def transportHdrSize (proto : BitVec 8) : ℕ :=
  if proto = IPPROTO_TCP then tcphdrSize else udphdrSize

/-- The connection of a packet whose IP header is at `ip`. -/
def Frame.connection (frame : Frame) (isIpv6 : Bool) (ip : ℕ) : FlowKey where
  src := if isIpv6 then frame.be128 (ip + 8) else setIpv4Part 0 (frame.be32 (ip + 12))
  dst := if isIpv6 then frame.be128 (ip + 24) else setIpv4Part 0 (frame.be32 (ip + 16))
  sport := frame.u16 (ip + ipHdrSize isIpv6)
  dport := frame.u16 (ip + ipHdrSize isIpv6 + 2)
  proto := if isIpv6 then frame.byte (ip + 6) else frame.byte (ip + 9)

/-- The same connection in the other direction. -/
def FlowKey.reply (flow : FlowKey) : FlowKey where
  src := flow.dst
  dst := flow.src
  sport := flow.dport
  dport := flow.sport
  proto := flow.proto

@[simp]
theorem FlowKey.reply_reply (flow : FlowKey) : flow.reply.reply = flow := rfl

/-- At `ip` the frame has the complete headers of a TCP or UDP packet, without options or extensions
of the IP header. -/
structure Frame.CompleteAt (frame : Frame) (isIpv6 : Bool) (ip : ℕ) : Prop where
  header : isIpv6 = false → frame.byte ip &&& 0x0F = 5
  proto : (frame.connection isIpv6 ip).proto = IPPROTO_TCP ∨
    (frame.connection isIpv6 ip).proto = IPPROTO_UDP
  length : ip + ipHdrSize isIpv6 + transportHdrSize (frame.connection isIpv6 ip).proto ≤
    frame.length

/-- The address in the place of `old`, of which an IPv4 address fills four bytes. -/
def setAddress (isIpv6 : Bool) (old addr : BitVec 128) : BitVec 128 :=
  if isIpv6 then addr else setIpv4Part old (ipv4Part addr)

/-- A connection as a flow, over what the flow held before. -/
def FlowKey.overlay (isIpv6 : Bool) (old connection : FlowKey) : FlowKey where
  src := setAddress isIpv6 old.src connection.src
  dst := setAddress isIpv6 old.dst connection.dst
  sport := connection.sport
  dport := connection.dport
  proto := connection.proto

theorem FlowKey.overlay_congr {isIpv6 : Bool} {old old' : FlowKey} (hsrc : old.src = old'.src)
    (hdst : old.dst = old'.dst) (connection : FlowKey) :
    overlay isIpv6 old connection = overlay isIpv6 old' connection := by
  unfold overlay
  rw [hsrc, hdst]

/-! ## The ports -/

/-- `parse_tcp` or `parse_udp`, as the protocol has it. -/
def parseTransport (frame : Frame) (isIpv6 : Bool) (pckt : PacketDescription) :
    Option PacketDescription :=
  if pckt.flow.proto = IPPROTO_TCP then
    parseTcp frame isIpv6 pckt
  else if pckt.flow.proto = IPPROTO_UDP then
    parseUdp frame isIpv6 pckt
  else
    none

/-- The IP header that the ports belong to: that of the packet, or that of the quotation. -/
def portsHdr (isIpv6 isIcmp : Bool) : ℕ :=
  if isIcmp then calcOffset isIpv6 false + icmphdrSize else ethhdrSize

theorem calcOffset_eq (isIpv6 isIcmp : Bool) :
    calcOffset isIpv6 isIcmp = portsHdr isIpv6 isIcmp + ipHdrSize isIpv6 := by
  cases isIpv6 <;> cases isIcmp <;> rfl

/-- The connection that the ports are taken from, in the direction of the client's packets. -/
def Frame.clientConnection (frame : Frame) (isIpv6 isIcmp : Bool) : FlowKey :=
  let connection := frame.connection isIpv6 (portsHdr isIpv6 isIcmp)
  if isIcmp then connection.reply else connection

theorem setPorts_flow (source dest : BitVec 16) (pckt : PacketDescription) :
    (setPorts source dest pckt).flow =
      if hasFlag pckt.flags F_ICMP then { pckt.flow with sport := dest, dport := source }
      else { pckt.flow with sport := source, dport := dest } := by
  unfold setPorts
  split_ifs
  · rfl
  · rfl

/-- The ports of the headers, taken as the flag has it. -/
theorem setPorts_clientConnection (frame : Frame) (isIpv6 : Bool) (pckt : PacketDescription) :
    (setPorts (frame.u16 (calcOffset isIpv6 (hasFlag pckt.flags F_ICMP)))
        (frame.u16 (calcOffset isIpv6 (hasFlag pckt.flags F_ICMP) + 2)) pckt).flow =
      { pckt.flow with
        sport := (frame.clientConnection isIpv6 (hasFlag pckt.flags F_ICMP)).sport
        dport := (frame.clientConnection isIpv6 (hasFlag pckt.flags F_ICMP)).dport } := by
  rw [setPorts_flow, calcOffset_eq]
  cases hasFlag pckt.flags F_ICMP
  · rfl
  · rfl

theorem parseUdp_flow {frame : Frame} {isIpv6 : Bool} {pckt pckt' : PacketDescription}
    (h : parseUdp frame isIpv6 pckt = some pckt') :
    pckt'.flow = { pckt.flow with
      sport := (frame.clientConnection isIpv6 (hasFlag pckt.flags F_ICMP)).sport
      dport := (frame.clientConnection isIpv6 (hasFlag pckt.flags F_ICMP)).dport } := by
  rw [parseUdp_eq h]
  exact setPorts_clientConnection frame isIpv6 pckt

theorem parseTcp_flow {frame : Frame} {isIpv6 : Bool} {pckt pckt' : PacketDescription}
    (h : parseTcp frame isIpv6 pckt = some pckt') :
    pckt'.flow = { pckt.flow with
      sport := (frame.clientConnection isIpv6 (hasFlag pckt.flags F_ICMP)).sport
      dport := (frame.clientConnection isIpv6 (hasFlag pckt.flags F_ICMP)).dport } := by
  obtain ⟨flags, hicmp, rfl⟩ := parseTcp_eq h
  have hports := setPorts_clientConnection frame isIpv6 { pckt with flags := flags }
  rwa [hicmp] at hports

theorem parseTransport_flow {frame : Frame} {isIpv6 : Bool} {pckt pckt' : PacketDescription}
    (h : parseTransport frame isIpv6 pckt = some pckt') :
    hasFlag pckt'.flags F_ICMP = hasFlag pckt.flags F_ICMP ∧
      pckt'.flow = { pckt.flow with
        sport := (frame.clientConnection isIpv6 (hasFlag pckt.flags F_ICMP)).sport
        dport := (frame.clientConnection isIpv6 (hasFlag pckt.flags F_ICMP)).dport } := by
  unfold parseTransport at h
  split_ifs at h
  · exact ⟨(parseTcp_kept h).1, parseTcp_flow h⟩
  · exact ⟨(parseUdp_kept h).1, parseUdp_flow h⟩

/-- Complete headers are parsed. -/
theorem parseTransport_isSome {frame : Frame} {isIpv6 : Bool} {pckt : PacketDescription}
    (hcomplete : frame.CompleteAt isIpv6 (portsHdr isIpv6 (hasFlag pckt.flags F_ICMP)))
    (hproto : pckt.flow.proto =
      (frame.connection isIpv6 (portsHdr isIpv6 (hasFlag pckt.flags F_ICMP))).proto) :
    ∃ pckt', parseTransport frame isIpv6 pckt = some pckt' := by
  have hlength := hcomplete.length
  rw [← calcOffset_eq, ← hproto] at hlength
  have hknown := hcomplete.proto
  rw [← hproto] at hknown
  unfold parseTransport
  rcases hknown with htcp | hudp
  · rw [htcp, transportHdrSize, if_pos rfl] at hlength
    rw [if_pos htcp, parseTcp, if_neg (Nat.not_lt.mpr hlength)]
    exact ⟨_, rfl⟩
  · rw [hudp, transportHdrSize, if_neg (by decide)] at hlength
    rw [hudp, if_neg (by decide), if_pos rfl, parseUdp, if_neg (Nat.not_lt.mpr hlength)]
    exact ⟨_, rfl⟩

/-! ## The client's own packets -/

theorem parseL3Headers_flow {frame : Frame} {protocol : BitVec 8} {nhOff : ℕ} {isIpv6 : Bool}
    {pckt pckt' : PacketDescription}
    (h : parseL3Headers frame protocol nhOff isIpv6 pckt = (none, pckt'))
    (hproto : protocol = IPPROTO_TCP ∨ protocol = IPPROTO_UDP) :
    pckt'.flags = pckt.flags ∧
      pckt'.flow.src = setAddress isIpv6 pckt.flow.src (frame.connection isIpv6 nhOff).src ∧
      pckt'.flow.dst = setAddress isIpv6 pckt.flow.dst (frame.connection isIpv6 nhOff).dst := by
  have hicmp : protocol ≠ IPPROTO_ICMP ∧ protocol ≠ IPPROTO_ICMPV6 := by
    rcases hproto with rfl | rfl <;> decide
  cases isIpv6 with
  | false =>
    simp only [parseL3Headers, if_neg Bool.false_ne_true, hicmp.1, if_false] at h
    split_ifs at h
    · cases h
    · cases h
    · cases h
    obtain rfl := (Prod.mk.inj h).2
    simp only [setAddress, Frame.connection, if_neg Bool.false_ne_true, ipv4Part_setIpv4Part,
      and_self]
  | true =>
    simp only [parseL3Headers, if_true, hicmp.2, if_false] at h
    split_ifs at h
    · cases h
    · cases h
    obtain rfl := (Prod.mk.inj h).2
    exact ⟨rfl, rfl, rfl⟩

/-- The flow of a packet that is no ICMP error is the connection that its bytes have. -/
theorem ownFlow {frame : Frame} {isIpv6 : Bool} {pckt l3 l4 : PacketDescription}
    (hclient : hasFlag pckt.flags F_ICMP = false)
    (hproto : (frame.connection isIpv6 ethhdrSize).proto = IPPROTO_TCP ∨
      (frame.connection isIpv6 ethhdrSize).proto = IPPROTO_UDP)
    (hl3 : parseL3Headers frame (frame.connection isIpv6 ethhdrSize).proto ethhdrSize isIpv6 pckt =
      (none, l3))
    (hl4 : parseTransport frame isIpv6
      { l3 with flow.proto := (frame.connection isIpv6 ethhdrSize).proto } = some l4) :
    l4.flow = .overlay isIpv6 pckt.flow (frame.connection isIpv6 ethhdrSize) := by
  obtain ⟨hflags, hsrc, hdst⟩ := parseL3Headers_flow hl3 hproto
  have hports := (parseTransport_flow hl4).2
  dsimp only at hports
  rw [hflags, hclient, hsrc, hdst] at hports
  exact hports

/-! ## The quotation -/

/-- `parse_icmp` or `parse_icmpv6`, as the address family has it. -/
def parseIcmpError (build : Build) (env : Env) : XdpProg Unit :=
  if env.isIpv6 then parseIcmpv6 build env else parseIcmp build env

/-- The message at `off` says that a destination is unreachable (where IPv4 has the need to
fragment), or that a packet is too big. -/
def Frame.IsIcmpError (frame : Frame) (isIpv6 : Bool) (off : ℕ) : Prop :=
  if isIpv6 then frame.byte off = 1 ∨ frame.byte off = 2 else frame.byte off = 3

/-- The array of the counters has the entry for packets that are too big. -/
def PtbCounters (build : Build) (isIpv6 : Bool) (m : Machine) : Prop :=
  (m.stats (build.maxVips + if isIpv6 then ICMP_PTB_V6_STATS else ICMP_PTB_V4_STATS)).isSome

/-- The description after the quotation has been read. -/
def Quoted (frame : Frame) (isIpv6 : Bool) (pckt : PacketDescription) (m : Machine) : Prop :=
  let quoted := frame.clientConnection isIpv6 true
  m.pckt = { pckt with
    flags := pckt.flags ||| F_ICMP
    flow.src := setAddress isIpv6 pckt.flow.src quoted.src
    flow.dst := setAddress isIpv6 pckt.flow.dst quoted.dst
    flow.proto := quoted.proto }

/-- With the quoted ports the flow is complete. -/
theorem Quoted.flow {frame : Frame} {isIpv6 : Bool} {pckt : PacketDescription} {m : Machine}
    (h : Quoted frame isIpv6 pckt m) :
    hasFlag m.pckt.flags F_ICMP = true ∧
      m.pckt.flow.proto = (frame.clientConnection isIpv6 true).proto ∧
      { m.pckt.flow with
        sport := (frame.clientConnection isIpv6 true).sport
        dport := (frame.clientConnection isIpv6 true).dport } =
        .overlay isIpv6 pckt.flow (frame.clientConnection isIpv6 true) := by
  unfold Quoted at h
  generalize frame.clientConnection isIpv6 true = quoted at h ⊢
  rw [h]
  exact ⟨hasFlag_or_self _, rfl, rfl⟩

theorem countOrDrop_keeps {pckt : PacketDescription} {key : BitVec 32} (f : LbStats → LbStats) :
    Triple (fun m ↦ m.pckt = pckt ∧ (m.stats key).isSome) (countOrDrop key f)
      (fun _ m ↦ m.pckt = pckt) (fun _ _ ↦ False) := by
  refine .read_bind fun s hs ↦ .exitIf_bind (fun hnone ↦ ?_) fun _ ↦ .modify fun m hm ↦ ?_
  · rw [Option.isNone_iff_eq_none] at hnone
    rw [hnone] at hs
    cases hs.2
  · exact hm.1

theorem parseIcmp_quoted {pckt : PacketDescription} (hoff : env.thOff = calcOffset false false)
    (herror : env.frame.IsIcmpError false env.thOff)
    (hcomplete : env.frame.CompleteAt false (portsHdr false true)) :
    Triple (fun m ↦ m.pckt = pckt ∧ PtbCounters build false m) (parseIcmp build env)
      (fun _ ↦ Quoted env.frame false pckt) (fun _ _ ↦ False) := by
  have hiph : env.thOff + icmphdrSize = portsHdr false true := by rw [hoff]; rfl
  have hlength : portsHdr false true + iphdrSize ≤ env.frame.length :=
    le_trans (Nat.le_add_right _ _) hcomplete.length
  have htype : env.frame.byte env.thOff = 3 := herror
  apply Triple.exitIf_bind
  · intro hshort
    omega
  intro _
  apply Triple.bind (Q := fun _ m ↦ m.pckt = pckt ∧ PtbCounters build false m)
  · apply Triple.when
    · intro hecho
      rw [htype] at hecho
      exact absurd hecho (by decide)
    · intro _ m hm
      exact hm
  intro _
  apply Triple.exitIf_bind
  · intro hother
    exact absurd htype hother
  intro _
  apply Triple.bind (Q := fun _ m ↦ m.pckt = pckt)
  · apply Triple.when
    · intro _
      exact countOrDrop_keeps _
    · intro _ m hm
      exact hm.1
  intro _
  apply Triple.exitIf_bind
  · intro hshort
    omega
  intro _
  apply Triple.exitIf_bind
  · intro hoptions
    rw [hiph] at hoptions
    exact absurd (hcomplete.header rfl) hoptions
  intro _
  apply Triple.modify
  intro m hm
  rw [hiph, hm]
  simp only [Quoted, setAddress, Frame.clientConnection, if_true, FlowKey.reply,
    Frame.connection, if_neg Bool.false_ne_true, ipv4Part_setIpv4Part]

theorem parseIcmpv6_quoted {pckt : PacketDescription} (hoff : env.thOff = calcOffset true false)
    (herror : env.frame.IsIcmpError true env.thOff)
    (hcomplete : env.frame.CompleteAt true (portsHdr true true)) :
    Triple (fun m ↦ m.pckt = pckt ∧ PtbCounters build true m) (parseIcmpv6 build env)
      (fun _ ↦ Quoted env.frame true pckt) (fun _ _ ↦ False) := by
  have hip6h : env.thOff + icmphdrSize = portsHdr true true := by rw [hoff]; rfl
  have hlength : portsHdr true true + ipv6hdrSize ≤ env.frame.length :=
    le_trans (Nat.le_add_right _ _) hcomplete.length
  have htype : env.frame.byte env.thOff = 1 ∨ env.frame.byte env.thOff = 2 := herror
  apply Triple.exitIf_bind
  · intro hshort
    omega
  intro _
  apply Triple.bind (Q := fun _ m ↦ m.pckt = pckt ∧ PtbCounters build true m)
  · apply Triple.when
    · intro hecho
      rw [hecho] at htype
      exact absurd htype (by decide)
    · intro _ m hm
      exact hm
  intro _
  apply Triple.exitIf_bind
  · intro hother
    rcases htype with hunreach | htooBig
    · exact absurd hunreach hother.2
    · exact absurd htooBig hother.1
  intro _
  apply Triple.bind (Q := fun _ m ↦ m.pckt = pckt)
  · apply Triple.when
    · intro _
      exact countOrDrop_keeps _
    · intro _ m hm
      exact hm.1
  intro _
  apply Triple.exitIf_bind
  · intro hshort
    omega
  intro _
  apply Triple.modify
  intro m hm
  rw [hip6h, hm]
  rfl

/-- The addresses and the protocol of the quotation, as the client's packets have them. -/
theorem parseIcmpError_quoted {m : Machine} (hoff : env.thOff = calcOffset env.isIpv6 false)
    (herror : env.frame.IsIcmpError env.isIpv6 env.thOff)
    (hcomplete : env.frame.CompleteAt env.isIpv6 (portsHdr env.isIpv6 true))
    (hcounters : PtbCounters build env.isIpv6 m) :
    ∃ t, parseIcmpError build env m = (.ok (), t) ∧ Quoted env.frame env.isIpv6 m.pckt t := by
  unfold parseIcmpError
  cases hfamily : env.isIpv6 with
  | false =>
    rw [hfamily] at hoff herror hcomplete hcounters
    obtain ⟨_, t, hrun, hquoted⟩ :=
      (parseIcmp_quoted hoff herror hcomplete).returns ⟨rfl, hcounters⟩
    exact ⟨t, hrun, hquoted⟩
  | true =>
    rw [hfamily] at hoff herror hcomplete hcounters
    obtain ⟨_, t, hrun, hquoted⟩ :=
      (parseIcmpv6_quoted hoff herror hcomplete).returns ⟨rfl, hcounters⟩
    exact ⟨t, hrun, hquoted⟩

/-- An ICMP error about a packet from a service to a client gets the flow of the client's
packets. -/
theorem icmpError_flow {m : Machine} {own : Frame} {pckt l3 l4 : PacketDescription}
    (hoff : env.thOff = calcOffset env.isIpv6 false)
    (herror : env.frame.IsIcmpError env.isIpv6 env.thOff)
    (hcomplete : env.frame.CompleteAt env.isIpv6 (env.thOff + icmphdrSize))
    (hquoted : env.frame.connection env.isIpv6 (env.thOff + icmphdrSize) =
      (own.connection env.isIpv6 ethhdrSize).reply)
    (hcounters : PtbCounters build env.isIpv6 m)
    (hsrc : m.pckt.flow.src = pckt.flow.src) (hdst : m.pckt.flow.dst = pckt.flow.dst)
    (hclient : hasFlag pckt.flags F_ICMP = false)
    (hl3 : parseL3Headers own (own.connection env.isIpv6 ethhdrSize).proto ethhdrSize env.isIpv6
      pckt = (none, l3))
    (hl4 : parseTransport own env.isIpv6
      { l3 with flow.proto := (own.connection env.isIpv6 ethhdrSize).proto } = some l4) :
    ∃ t pckt', parseIcmpError build env m = (.ok (), t) ∧
      parseTransport env.frame env.isIpv6 t.pckt = some pckt' ∧
      hasFlag pckt'.flags F_ICMP = true ∧ pckt'.flow = l4.flow := by
  have hiph : env.thOff + icmphdrSize = portsHdr env.isIpv6 true := by rw [hoff]; rfl
  rw [hiph] at hcomplete hquoted
  have hproto : (own.connection env.isIpv6 ethhdrSize).proto = IPPROTO_TCP ∨
      (own.connection env.isIpv6 ethhdrSize).proto = IPPROTO_UDP := by
    rw [show (own.connection env.isIpv6 ethhdrSize).proto =
      (own.connection env.isIpv6 ethhdrSize).reply.proto from rfl, ← hquoted]
    exact hcomplete.proto
  obtain ⟨t, hrun, ht⟩ := parseIcmpError_quoted hoff herror hcomplete hcounters
  obtain ⟨hflag, hquotedProto, hquotedFlow⟩ := ht.flow
  obtain ⟨pckt', hparse⟩ : ∃ pckt', parseTransport env.frame env.isIpv6 t.pckt = some pckt' := by
    apply parseTransport_isSome
    · rw [hflag]
      exact hcomplete
    · rw [hflag, hquotedProto]
      rfl
  obtain ⟨hflags, hflow⟩ := parseTransport_flow hparse
  have hclientConnection : env.frame.clientConnection env.isIpv6 true =
      own.connection env.isIpv6 ethhdrSize := congrArg FlowKey.reply hquoted
  refine ⟨t, pckt', hrun, hparse, hflags.trans hflag, ?_⟩
  calc pckt'.flow
      = .overlay env.isIpv6 m.pckt.flow (env.frame.clientConnection env.isIpv6 true) := by
        rw [hflow, hflag, hquotedFlow]
    _ = .overlay env.isIpv6 pckt.flow (own.connection env.isIpv6 ethhdrSize) := by
        rw [hclientConnection, FlowKey.overlay_congr hsrc hdst]
    _ = l4.flow := (ownFlow hclient hproto hl3 hl4).symm

/-! ## A path with a smaller MTU -/

/-- The message of the router 198.51.100.1 that a segment from 10.0.0.1:80 to
192.0.2.7:40000 needs fragmentation. -/
def fragNeeded : Frame :=
  List.replicate 12 0 ++ [0x08, 0x00] ++
    [0x45, 0, 0, 68, 0, 0, 0, 0, 0x40, 1, 0, 0, 198, 51, 100, 1, 10, 0, 0, 1] ++
    [3, 4, 0, 0, 0, 0, 0x05, 0x78] ++
    [0x45, 0, 0x05, 0xdc, 0, 0, 0x40, 0, 0x40, 6, 0, 0, 10, 0, 0, 1, 192, 0, 2, 7] ++
    [0, 80, 0x9c, 0x40, 0, 0, 0, 1, 0, 0, 0, 1, 0x50, 0x10, 0, 0, 0, 0, 0, 0]

/-- The description of `Frame.ack` after its IP header. -/
def ownL3 : PacketDescription :=
  (parseL3Headers .ack IPPROTO_TCP ethhdrSize false Machine.sample.pckt).2

def ownL4 : PacketDescription :=
  (parseTransport .ack false { ownL3 with flow.proto := IPPROTO_TCP }).getD ownL3

theorem fragNeeded_flow :
    ∃ t pckt', parseIcmpError .plain (.tcp fragNeeded) .sample = (.ok (), t) ∧
      parseTransport fragNeeded false t.pckt = some pckt' ∧
      hasFlag pckt'.flags F_ICMP = true ∧ pckt'.flow = ownL4.flow :=
  @icmpError_flow .plain (.tcp fragNeeded) .sample .ack Machine.sample.pckt ownL3 ownL4
    rfl (by decide +kernel : fragNeeded.byte 34 = 3)
    ⟨by decide +kernel, by decide +kernel, by decide +kernel⟩ (by decide +kernel) rfl rfl rfl
    (by decide +kernel) (by decide +kernel) (by decide +kernel)

end Vsoshlb.DataPlane
