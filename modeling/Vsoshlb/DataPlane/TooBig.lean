import Vsoshlb.DataPlane.CompleteHeaders
import Vsoshlb.DataPlane.EchoReplyV6

/-!
# Packets that are too big

`send_icmp_too_big` answers a packet that would not fit after encapsulation. It cuts the packet and
puts an IP header and an ICMP header in front of what is left, so that the packet quotes itself.
Where the sender is a service of another balancer, that balancer finds the connection by the
quotation.

The functions for the checksums have no bodies in the source that there is, so what they come to is
an input.
-/

namespace Vsoshlb.DataPlane

def ICMP_TOOBIG_SIZE : ℕ := 98

def ICMP6_TOOBIG_SIZE : ℕ := 262

def ICMP_TOOBIG_PAYLOAD_SIZE : ℕ := ICMP_TOOBIG_SIZE - 6

def ICMP6_TOOBIG_PAYLOAD_SIZE : ℕ := ICMP6_TOOBIG_SIZE - 6

def ICMP_DEST_UNREACH : BitVec 8 := 3

def ICMP_FRAG_NEEDED : BitVec 8 := 4

def ICMPV6_PKT_TOOBIG : BitVec 8 := 2

/-! ## The message -/

/-- `struct icmphdr` and `struct icmp6hdr`, with the four bytes of the union at the end. -/
structure Icmphdr where
  type : BitVec 8
  code : BitVec 8
  checksum : BitVec 16
  un : Frame

def Icmphdr.bytes (icmpHdr : Icmphdr) : Frame :=
  [icmpHdr.type, icmpHdr.code] ++ bytes16 icmpHdr.checksum ++ icmpHdr.un

/-- The Ethernet header that `swap_mac` writes. -/
def swappedEth (origEth : Frame) : Frame :=
  origEth.slice 6 6 ++ origEth.slice 0 6 ++ origEth.slice 12 2

section Messages

variable (build : Build)

/-- `send_icmp4_too_big` after the packet has been cut, with `none` for `XDP_DROP`. `ipv4Csum` is
what `ipv4_csum` makes of some bytes and the sum before them. -/
def sendIcmp4TooBig (adjustHead : Bool) (ipv4Csum : Frame → BitVec 64 → BitVec 64)
    (frame : Frame) : Option Frame :=
  let headroom := iphdrSize + icmphdrSize
  if adjustHead = false then
    none
  else if frame.length + headroom < ICMP_TOOBIG_SIZE + headroom then
    none
  else
    let quoted := frame.drop ethhdrSize
    let icmpHdr : Icmphdr :=
      { type := ICMP_DEST_UNREACH
        code := ICMP_FRAG_NEEDED
        checksum := 0
        un := bytes16 0 ++ bytes16 (bigEndian (BitVec.ofNat 16 build.maxPcktSize - 14)) }
    let csum := ipv4Csum ((icmpHdr.bytes ++ quoted).take ICMP_TOOBIG_PAYLOAD_SIZE) 0
    let icmpHdr := { icmpHdr with checksum := csum.setWidth 16 }
    let iph : Iphdr :=
      { version := 4
        ihl := 5
        tos := 0
        totLen := bigEndian (BitVec.ofNat 16 (ICMP_TOOBIG_SIZE + headroom - ethhdrSize))
        id := 0
        fragOff := 0
        ttl := DEFAULT_TTL
        protocol := IPPROTO_ICMP
        check := 0
        saddr := reverseBytes (frame.be32 (ethhdrSize + 16))
        daddr := reverseBytes (frame.be32 (ethhdrSize + 12)) }
    let iph := { iph with check := (ipv4Csum iph.bytes 0).setWidth 16 }
    some (swappedEth frame ++ (iph.bytes ++ (icmpHdr.bytes ++ quoted)))

/-- `send_icmp6_too_big` after the packet has been cut. `ipv6Csum` also gets the IPv6 header. -/
def sendIcmp6TooBig (adjustHead : Bool) (ipv6Csum : Frame → BitVec 64 → Ipv6hdr → BitVec 64)
    (frame : Frame) : Option Frame :=
  let headroom := ipv6hdrSize + icmp6hdrSize
  if adjustHead = false then
    none
  else if frame.length + headroom < ICMP6_TOOBIG_SIZE + headroom then
    none
  else
    let quoted := frame.drop ethhdrSize
    let ip6h : Ipv6hdr :=
      { version := 6
        priority := 0
        flowLbl := fun _ ↦ 0
        payloadLen := bigEndian (BitVec.ofNat 16 ICMP6_TOOBIG_PAYLOAD_SIZE)
        nexthdr := IPPROTO_ICMPV6
        hopLimit := DEFAULT_TTL
        saddr := bytes128 (frame.be128 (ethhdrSize + 24))
        daddr := bytes128 (frame.be128 (ethhdrSize + 8)) }
    let icmp6Hdr : Icmphdr :=
      { type := ICMPV6_PKT_TOOBIG
        code := 0
        checksum := 0
        un := bytes32 (reverseBytes (BitVec.ofNat 32 build.maxPcktSize - 14)) }
    let csum := ipv6Csum ((icmp6Hdr.bytes ++ quoted).take ICMP6_TOOBIG_PAYLOAD_SIZE) 0 ip6h
    let icmp6Hdr := { icmp6Hdr with checksum := csum.setWidth 16 }
    some (swappedEth frame ++ (ip6h.bytes ++ (icmp6Hdr.bytes ++ quoted)))

/-- The size to which `send_icmp_too_big` cuts a packet. -/
def icmpTooBigSize (isIpv6 : Bool) : ℕ := if isIpv6 then ICMP6_TOOBIG_SIZE else ICMP_TOOBIG_SIZE

/-- `bpf_xdp_adjust_tail`, to a given size. -/
def adjustTail (size : ℕ) (frame : Frame) : Frame :=
  frame.take size ++ List.replicate (size - frame.length) 0

/-- The frame that `send_icmp_too_big` leaves, with `none` for `XDP_DROP`. -/
def icmpTooBig (env : Env) (ipv4Csum : Frame → BitVec 64 → BitVec 64)
    (ipv6Csum : Frame → BitVec 64 → Ipv6hdr → BitVec 64) : Option Frame :=
  if env.adjustTail = false then
    none
  else
    let cut := adjustTail (icmpTooBigSize env.isIpv6) env.frame
    if env.isIpv6 then
      sendIcmp6TooBig build env.adjustHead ipv6Csum cut
    else
      sendIcmp4TooBig build env.adjustHead ipv4Csum cut

end Messages

/-! ## What the message says -/

/-- The MTU in a message that a packet is too big. -/
def Frame.icmpMtu (frame : Frame) (isIpv6 : Bool) : ℕ :=
  if isIpv6 then (frame.be32 (calcOffset true false + 4)).toNat
  else (frame.be16 (calcOffset false false + 6)).toNat

/-- The message goes back to the sender of the packet, its lengths are right, and after its headers
it has the beginning of the packet. -/
structure AnswersTooBig (isIpv6 : Bool) (frame message : Frame) : Prop where
  receiver : message.slice 0 6 = frame.slice 6 6
  sender : message.slice 6 6 = frame.slice 0 6
  etherType : message.etherType = frame.etherType
  src : (message.connection isIpv6 ethhdrSize).src = (frame.connection isIpv6 ethhdrSize).dst
  dst : (message.connection isIpv6 ethhdrSize).dst = (frame.connection isIpv6 ethhdrSize).src
  proto : message.ipProtocol isIpv6 = if isIpv6 then IPPROTO_ICMPV6 else IPPROTO_ICMP
  size : message.length = ipHdrSize isIpv6 + icmphdrSize + icmpTooBigSize isIpv6
  length : ethhdrSize + message.ipLength isIpv6 = message.length
  header : message.HeaderAt isIpv6
  error : message.IsIcmpError isIpv6 (calcOffset isIpv6 false)
  quotation : message.drop (portsHdr isIpv6 true) =
    (frame.drop ethhdrSize).take (icmpTooBigSize isIpv6 - ethhdrSize)

section Answers

variable {build : Build} {frame message : Frame} {adjustHead isIpv6 : Bool}

theorem length_adjustTail (size : ℕ) (frame : Frame) : (adjustTail size frame).length = size := by
  rw [adjustTail, List.length_append, List.length_take, List.length_replicate]
  omega

/-- The addresses change places. -/
theorem swappedEth_fields (hframe : ethhdrSize ≤ frame.length) (rest : Frame) :
    (swappedEth frame).length = ethhdrSize ∧
      (swappedEth frame ++ rest).slice 0 6 = frame.slice 6 6 ∧
      (swappedEth frame ++ rest).slice 6 6 = frame.slice 0 6 ∧
      Frame.etherType (swappedEth frame ++ rest) = frame.etherType := by
  simp only [ethhdrSize] at hframe
  have hdest : (frame.slice 6 6).length = 6 := Frame.length_slice (by omega)
  have hsource : (frame.slice 0 6).length = 6 := Frame.length_slice (by omega)
  have hmacs : (frame.slice 6 6 ++ frame.slice 0 6).length = 12 := by
    rw [List.length_append, hdest, hsource]
  have hproto : (frame.slice 12 2).length = 2 := Frame.length_slice (by omega)
  have htype (i : ℕ) (hi : i < 2) :
      Frame.byte (frame.slice 12 2 ++ rest) i = frame.byte (12 + i) := by
    rw [← Frame.byte_slice hi, Frame.byte, Frame.byte, List.getD_eq_getElem?_getD,
      List.getD_eq_getElem?_getD, List.getElem?_append_left (by omega)]
  unfold swappedEth
  refine ⟨by rw [List.length_append, hmacs, hproto]; rfl, ?_, ?_, ?_⟩
  · rw [List.append_assoc, List.append_assoc]
    exact List.take_left' hdest
  · rw [List.append_assoc, List.append_assoc, Frame.slice, List.drop_left' hdest]
    exact List.take_left' hsource
  · rw [List.append_assoc, Frame.etherType, ← Nat.add_zero 12, u16_append _ hmacs, Frame.etherType,
      Frame.u16, Frame.u16, htype 0 (by decide), htype 1 (by decide)]

/-- What both families have in common: the packet, without its Ethernet header, after the two new
headers. -/
theorem message_parts {ipHdr : Frame} {icmpHdr : Icmphdr}
    (hframe : frame.length = icmpTooBigSize isIpv6) (hip : ipHdr.length = ipHdrSize isIpv6)
    (hun : icmpHdr.un.length = 4) :
    let message := swappedEth frame ++ (ipHdr ++ (icmpHdr.bytes ++ frame.drop ethhdrSize))
    message.length = ipHdrSize isIpv6 + icmphdrSize + icmpTooBigSize isIpv6 ∧
      message.drop (portsHdr isIpv6 true) =
        (frame.drop ethhdrSize).take (icmpTooBigSize isIpv6 - ethhdrSize) ∧
      ∀ i, Frame.byte message (calcOffset isIpv6 false + i) =
        Frame.byte (icmpHdr.bytes ++ frame.drop ethhdrSize) i := by
  have hlong : ethhdrSize ≤ frame.length := by
    rw [hframe]
    cases isIpv6 <;> decide
  have hquoted : (frame.drop ethhdrSize).length = icmpTooBigSize isIpv6 - ethhdrSize := by
    rw [List.length_drop, hframe]
  have heth : (swappedEth frame).length = ethhdrSize := (swappedEth_fields hlong []).1
  have hicmp : icmpHdr.bytes.length = icmphdrSize := by
    rw [Icmphdr.bytes, List.length_append, hun]
    rfl
  have hfront : (swappedEth frame ++ ipHdr).length = calcOffset isIpv6 false := by
    rw [List.length_append, heth, hip, calcOffset_eq]
    rfl
  have hheaders : (swappedEth frame ++ ipHdr ++ icmpHdr.bytes).length = portsHdr isIpv6 true := by
    rw [List.length_append, hfront, hicmp]
    rfl
  refine ⟨?_, ?_, fun i ↦ ?_⟩
  · rw [List.length_append, List.length_append, List.length_append, heth, hip, hicmp, hquoted]
    omega
  · rw [← List.append_assoc, ← List.append_assoc, List.drop_left' hheaders,
      List.take_of_length_le hquoted.le]
  · rw [← List.append_assoc]
    exact byte_append _ hfront i

/-- The two headers of a message over IPv4. -/
theorem sendIcmp4TooBig_eq_some {ipv4Csum : Frame → BitVec 64 → BitVec 64}
    (h : sendIcmp4TooBig build adjustHead ipv4Csum frame = some message) :
    ∃ (iph : Iphdr) (icmpHdr : Icmphdr), iph.version ++ iph.ihl = (0x45 : BitVec 8) ∧
      iph.fragOff = 0 ∧ iph.protocol = IPPROTO_ICMP ∧
      iph.totLen =
        bigEndian (BitVec.ofNat 16 (ICMP_TOOBIG_SIZE + (iphdrSize + icmphdrSize) - ethhdrSize)) ∧
      iph.saddr = reverseBytes (frame.be32 (ethhdrSize + 16)) ∧
      iph.daddr = reverseBytes (frame.be32 (ethhdrSize + 12)) ∧
      icmpHdr.type = ICMP_DEST_UNREACH ∧
      icmpHdr.un = bytes16 0 ++ bytes16 (bigEndian (BitVec.ofNat 16 build.maxPcktSize - 14)) ∧
      message = swappedEth frame ++ (iph.bytes ++ (icmpHdr.bytes ++ frame.drop ethhdrSize)) := by
  have hversion : (4 : BitVec 4) ++ (5 : BitVec 4) = (0x45 : BitVec 8) := by decide
  unfold sendIcmp4TooBig at h
  dsimp only at h
  split_ifs at h
  refine ⟨_, _, ?_, ?_, ?_, ?_, ?_, ?_, ?_, ?_, (Option.some.inj h).symm⟩
  · exact hversion
  all_goals rfl

theorem sendIcmp4TooBig_answers {ipv4Csum : Frame → BitVec 64 → BitVec 64}
    (hframe : frame.length = ICMP_TOOBIG_SIZE)
    (h : sendIcmp4TooBig build adjustHead ipv4Csum frame = some message) :
    AnswersTooBig false frame message ∧
      message.icmpMtu false = (BitVec.ofNat 16 build.maxPcktSize - 14).toNat := by
  obtain ⟨iph, icmpHdr, hfirst, hfragOff, hprotocol, htotLen, hsaddr, hdaddr, htype, hun, rfl⟩ :=
    sendIcmp4TooBig_eq_some h
  clear h
  have hlong : ethhdrSize ≤ frame.length := by
    rw [hframe]
    decide
  obtain ⟨hsize, hquotation, hicmp⟩ := @message_parts frame false iph.bytes icmpHdr hframe rfl
    (by rw [hun]; rfl)
  generalize hrest : icmpHdr.bytes ++ frame.drop ethhdrSize = rest at hsize hquotation hicmp ⊢
  obtain ⟨heth, hreceiver, hsender, hether⟩ := swappedEth_fields hlong (iph.bytes ++ rest)
  obtain ⟨hbyte, hfrag, hproto, hfield, hsrc, hdst⟩ := iphdr_fields heth iph rest
  rw [hsaddr, reverseBytes_reverseBytes] at hsrc
  rw [hdaddr, reverseBytes_reverseBytes] at hdst
  have hmtu : Frame.be16 rest 6 = BitVec.ofNat 16 build.maxPcktSize - 14 := by
    rw [← bigEndian_bigEndian (BitVec.ofNat 16 build.maxPcktSize - 14), ← hrest, Icmphdr.bytes,
      hun]
    rfl
  refine ⟨
    { receiver := hreceiver
      sender := hsender
      etherType := hether
      src := ?_
      dst := ?_
      proto := hproto.trans hprotocol
      size := hsize
      length := ?_
      header := ⟨?_, fun _ ↦ ?_, fun _ ↦ ?_⟩
      error := ?_
      quotation := hquotation }, ?_⟩
  · simp only [Frame.connection, Bool.false_eq_true, if_false, hsrc]
  · simp only [Frame.connection, Bool.false_eq_true, if_false, hdst]
  · rw [hsize, Frame.ipLength, hfield, htotLen, bigEndian_bigEndian]
    rfl
  · rw [hsize]
    decide
  · rw [hbyte, hfirst]
    decide
  · rw [hfrag, hfragOff]
    decide
  · refine (hicmp 0).trans ?_
    rw [← hrest]
    exact htype
  · refine congrArg BitVec.toNat (Eq.trans ?_ hmtu)
    simp only [Frame.be16, Nat.add_assoc, hicmp]

/-- The two headers of a message over IPv6. -/
theorem sendIcmp6TooBig_eq_some {ipv6Csum : Frame → BitVec 64 → Ipv6hdr → BitVec 64}
    (h : sendIcmp6TooBig build adjustHead ipv6Csum frame = some message) :
    ∃ (ip6h : Ipv6hdr) (icmp6Hdr : Icmphdr), ip6h.nexthdr = IPPROTO_ICMPV6 ∧
      ip6h.payloadLen = bigEndian (BitVec.ofNat 16 ICMP6_TOOBIG_PAYLOAD_SIZE) ∧
      ip6h.saddr = bytes128 (frame.be128 (ethhdrSize + 24)) ∧
      ip6h.daddr = bytes128 (frame.be128 (ethhdrSize + 8)) ∧
      icmp6Hdr.type = ICMPV6_PKT_TOOBIG ∧
      icmp6Hdr.un = bytes32 (reverseBytes (BitVec.ofNat 32 build.maxPcktSize - 14)) ∧
      message = swappedEth frame ++ (ip6h.bytes ++ (icmp6Hdr.bytes ++ frame.drop ethhdrSize)) := by
  unfold sendIcmp6TooBig at h
  dsimp only at h
  split_ifs at h
  refine ⟨_, _, ?_, ?_, ?_, ?_, ?_, ?_, (Option.some.inj h).symm⟩
  all_goals rfl

theorem sendIcmp6TooBig_answers {ipv6Csum : Frame → BitVec 64 → Ipv6hdr → BitVec 64}
    (hframe : frame.length = ICMP6_TOOBIG_SIZE)
    (h : sendIcmp6TooBig build adjustHead ipv6Csum frame = some message) :
    AnswersTooBig true frame message ∧
      message.icmpMtu true = (BitVec.ofNat 32 build.maxPcktSize - 14).toNat := by
  obtain ⟨ip6h, icmpHdr, hnexthdr, hpayloadLen, hsaddr, hdaddr, htype, hun, rfl⟩ :=
    sendIcmp6TooBig_eq_some h
  clear h
  have hlong : ethhdrSize ≤ frame.length := by
    rw [hframe]
    decide
  have hip : ip6h.bytes.length = ipHdrSize true := by
    rw [Ipv6hdr.bytes, hsaddr, hdaddr]
    rfl
  obtain ⟨hsize, hquotation, hicmp⟩ := @message_parts frame true _ icmpHdr hframe hip
    (by rw [hun]; rfl)
  generalize hrest : icmpHdr.bytes ++ frame.drop ethhdrSize = rest at hsize hquotation hicmp ⊢
  obtain ⟨heth, hreceiver, hsender, hether⟩ := swappedEth_fields hlong (ip6h.bytes ++ rest)
  obtain ⟨hproto, hfield, hsrc, hdst⟩ := ipv6hdr_fields heth ip6h hsaddr hdaddr rest
  have hmtu : Frame.be32 rest 4 = BitVec.ofNat 32 build.maxPcktSize - 14 := by
    rw [← reverseBytes_reverseBytes (BitVec.ofNat 32 build.maxPcktSize - 14), ← hrest,
      Icmphdr.bytes, hun]
    rfl
  refine ⟨
    { receiver := hreceiver
      sender := hsender
      etherType := hether
      src := ?_
      dst := ?_
      proto := hproto.trans hnexthdr
      size := hsize
      length := ?_
      header := ⟨?_, fun hipv4 ↦ (by cases hipv4), fun hipv4 ↦ (by cases hipv4)⟩
      error := ?_
      quotation := hquotation }, ?_⟩
  · simp only [Frame.connection, if_true, hsrc]
  · simp only [Frame.connection, if_true, hdst]
  · rw [hsize, Frame.ipLength, hfield, hpayloadLen, bigEndian_bigEndian]
    rfl
  · rw [hsize]
    decide
  · refine Or.inr ((hicmp 0).trans ?_)
    rw [← hrest]
    exact htype
  · refine congrArg BitVec.toNat (Eq.trans ?_ hmtu)
    simp only [Frame.be32, Nat.add_assoc, hicmp]

end Answers

/-! ## The way back -/

section Reaches

variable {build : Build} {env : Env} {ipv4Csum : Frame → BitVec 64 → BitVec 64}
variable {ipv6Csum : Frame → BitVec 64 → Ipv6hdr → BitVec 64} {message : Frame}

/-- There is a message wherever the packet can be cut and can grow. -/
theorem icmpTooBig_isSome (build : Build) (env : Env) (ipv4Csum : Frame → BitVec 64 → BitVec 64)
    (ipv6Csum : Frame → BitVec 64 → Ipv6hdr → BitVec 64) :
    (icmpTooBig build env ipv4Csum ipv6Csum).isSome ↔
      env.adjustTail = true ∧ env.adjustHead = true := by
  have hroom (size headroom : ℕ) :
      ¬ (adjustTail size env.frame).length + headroom < size + headroom := by
    rw [length_adjustTail]
    exact lt_irrefl _
  unfold icmpTooBig
  cases hfamily : env.isIpv6 with
  | false =>
    simp only [icmpTooBigSize, Bool.false_eq_true, if_false, sendIcmp4TooBig, hroom]
    split_ifs with htail hhead
    · simp [htail]
    · simp [hhead]
    · simp [(Bool.not_eq_false _).mp htail, (Bool.not_eq_false _).mp hhead]
  | true =>
    simp only [icmpTooBigSize, if_true, sendIcmp6TooBig, hroom, if_false]
    split_ifs with htail hhead
    · simp [htail]
    · simp [hhead]
    · simp [(Bool.not_eq_false _).mp htail, (Bool.not_eq_false _).mp hhead]

/-- `send_icmp_too_big` ends in `XDP_TX` where there is a message. -/
theorem sendIcmpTooBig_eq (build : Build) (env : Env) (ipv4Csum : Frame → BitVec 64 → BitVec 64)
    (ipv6Csum : Frame → BitVec 64 → Ipv6hdr → BitVec 64) :
    sendIcmpTooBig env = EarlyExit.Prog.exit
      (if (icmpTooBig build env ipv4Csum ipv6Csum).isSome then .tx else .drop) := by
  have hsome := icmpTooBig_isSome build env ipv4Csum ipv6Csum
  funext m
  by_cases hstuck : env.adjustTail = false ∨ env.adjustHead = false
  · have hnone : ¬ (icmpTooBig build env ipv4Csum ipv6Csum).isSome := by
      rw [hsome]
      rintro ⟨htail, hhead⟩
      rw [htail, hhead] at hstuck
      simp at hstuck
    rw [if_neg hnone]
    exact EarlyExit.Prog.exitIf_bind_of_pos hstuck _ _ m
  · have hmessage : (icmpTooBig build env ipv4Csum ipv6Csum).isSome := by
      rw [hsome]
      simpa using hstuck
    rw [if_pos hmessage]
    exact EarlyExit.Prog.exitIf_bind_of_neg hstuck _ _ m

/-- A packet that has been cut still has the bytes before the cut. -/
theorem byte_adjustTail {frame : Frame} {size i : ℕ} (hlong : size ≤ frame.length) (hi : i < size) :
    (adjustTail size frame).byte i = frame.byte i := by
  have htake : i < (frame.take size).length := by
    rw [List.length_take]
    omega
  rw [Frame.byte, Frame.byte, List.getD_eq_getElem?_getD, List.getD_eq_getElem?_getD, adjustTail,
    List.getElem?_append_left htake, List.getElem?_take_of_lt hi]

theorem adjustTail_eq_take {frame : Frame} {size : ℕ} (hlong : size ≤ frame.length) :
    adjustTail size frame = frame.take size := by
  rw [adjustTail, Nat.sub_eq_zero_of_le hlong, List.replicate_zero, List.append_nil]

namespace AnswersTooBig

variable {isIpv6 : Bool} {frame : Frame}

theorem headers_le_size (isIpv6 : Bool) :
    ethhdrSize + ipHdrSize isIpv6 + tcphdrSize ≤ icmpTooBigSize isIpv6 := by
  cases isIpv6 <;> decide

/-- An answer to what the cut has left is an answer to the packet. -/
theorem of_cut (h : AnswersTooBig isIpv6 (adjustTail (icmpTooBigSize isIpv6) frame) message)
    (hlong : icmpTooBigSize isIpv6 ≤ frame.length) : AnswersTooBig isIpv6 frame message := by
  have hsize := headers_le_size isIpv6
  have hfront : 34 ≤ icmpTooBigSize isIpv6 := by cases isIpv6 <;> decide
  have hslice (i n : ℕ) (hn : i + n ≤ 34) :
      (adjustTail (icmpTooBigSize isIpv6) frame).slice i n = frame.slice i n := by
    rw [adjustTail_eq_take hlong, Frame.slice, Frame.slice, List.drop_take, List.take_take,
      min_eq_left (by omega)]
  have hconnection : (adjustTail (icmpTooBigSize isIpv6) frame).connection isIpv6 ethhdrSize =
      frame.connection isIpv6 ethhdrSize := by
    apply connection_congr
    intro i hi
    apply byte_adjustTail hlong
    simp only [tcphdrSize] at hsize
    omega
  exact
    { receiver := h.receiver.trans (hslice 6 6 (by decide))
      sender := h.sender.trans (hslice 0 6 (by decide))
      etherType := by
        rw [h.etherType, Frame.etherType, Frame.etherType, Frame.u16, Frame.u16,
          byte_adjustTail hlong (by omega), byte_adjustTail hlong (by omega)]
      src := h.src.trans (congrArg FlowKey.dst hconnection)
      dst := h.dst.trans (congrArg FlowKey.src hconnection)
      proto := h.proto
      size := h.size
      length := h.length
      header := h.header
      error := h.error
      quotation := by
        rw [h.quotation, adjustTail_eq_take hlong, List.drop_take, List.take_take, min_self] }

/-- The bytes of the quotation. -/
theorem byte_quoted (h : AnswersTooBig isIpv6 frame message) {i : ℕ}
    (hi : ethhdrSize + i < icmpTooBigSize isIpv6) :
    message.byte (portsHdr isIpv6 true + i) = frame.byte (ethhdrSize + i) := by
  have htake : i < icmpTooBigSize isIpv6 - ethhdrSize := by omega
  rw [← Frame.byte_drop, h.quotation, ← Frame.byte_drop, Frame.byte, Frame.byte,
    List.getD_eq_getElem?_getD, List.getD_eq_getElem?_getD, List.getElem?_take_of_lt htake]

theorem quoted_connection (h : AnswersTooBig isIpv6 frame message) :
    message.connection isIpv6 (portsHdr isIpv6 true) = frame.connection isIpv6 ethhdrSize := by
  have hsize := headers_le_size isIpv6
  apply connection_congr
  intro i hi
  apply h.byte_quoted
  simp only [tcphdrSize] at hsize
  omega

/-- The quotation has the headers of the packet. -/
theorem complete (h : AnswersTooBig isIpv6 frame message)
    (hcomplete : frame.CompleteAt isIpv6 ethhdrSize) :
    message.CompleteAt isIpv6 (portsHdr isIpv6 true) := by
  have hsize := headers_le_size isIpv6
  have hquoted := h.quoted_connection
  have hsmall : transportHdrSize (frame.connection isIpv6 ethhdrSize).proto ≤ tcphdrSize := by
    unfold transportHdrSize
    split_ifs <;> decide
  have hall := h.size
  have hports : portsHdr isIpv6 true = ethhdrSize + ipHdrSize isIpv6 + icmphdrSize := by
    cases isIpv6 <;> rfl
  have hfirst : ethhdrSize + 0 < icmpTooBigSize isIpv6 := by cases isIpv6 <;> decide
  refine ⟨fun hipv4 ↦ ?_, ?_, ?_⟩
  · have hbyte := h.byte_quoted hfirst
    rw [Nat.add_zero, Nat.add_zero] at hbyte
    rw [hbyte]
    exact hcomplete.header hipv4
  · rw [hquoted]
    exact hcomplete.proto
  · rw [hquoted, hall, hports]
    omega

end AnswersTooBig

theorem icmpTooBig_answers (h : icmpTooBig build env ipv4Csum ipv6Csum = some message)
    (hlong : icmpTooBigSize env.isIpv6 ≤ env.frame.length) :
    AnswersTooBig env.isIpv6 env.frame message := by
  unfold icmpTooBig at h
  dsimp only at h
  cases hfamily : env.isIpv6 with
  | false =>
    simp only [hfamily, Bool.false_eq_true, if_false] at h hlong
    split_ifs at h
    exact (sendIcmp4TooBig_answers (length_adjustTail _ _) h).1.of_cut hlong
  | true =>
    simp only [hfamily, if_true] at h hlong
    split_ifs at h
    exact (sendIcmp6TooBig_answers (length_adjustTail _ _) h).1.of_cut hlong

/-- A sender that follows the MTU of the message sends nothing that is too big. -/
theorem icmpTooBig_mtu (h : icmpTooBig build env ipv4Csum ipv6Csum = some message)
    (hether : ethhdrSize ≤ build.maxPcktSize) (hsmall : build.maxPcktSize < 65536) :
    ethhdrSize + message.icmpMtu env.isIpv6 = build.maxPcktSize := by
  simp only [ethhdrSize] at hether ⊢
  unfold icmpTooBig at h
  dsimp only at h
  cases hfamily : env.isIpv6 with
  | false =>
    simp only [hfamily, Bool.false_eq_true, if_false] at h
    split_ifs at h
    have hheader : (14 : BitVec 16).toNat = 14 := rfl
    rw [(sendIcmp4TooBig_answers (length_adjustTail _ _) h).2, BitVec.toNat_sub, hheader,
      BitVec.toNat_ofNat]
    omega
  | true =>
    simp only [hfamily, if_true] at h
    split_ifs at h
    have hheader : (14 : BitVec 32).toNat = 14 := rfl
    rw [(sendIcmp6TooBig_answers (length_adjustTail _ _) h).2, BitVec.toNat_sub, hheader,
      BitVec.toNat_ofNat]
    omega

/-- What the message says and whom it is for. A sender that follows it sends nothing that is too
big. -/
theorem icmpTooBig_wellFormed (h : icmpTooBig build env ipv4Csum ipv6Csum = some message)
    (hlong : icmpTooBigSize env.isIpv6 ≤ env.frame.length)
    (hether : ethhdrSize ≤ build.maxPcktSize) (hsmall : build.maxPcktSize < 65536) :
    AnswersTooBig env.isIpv6 env.frame message ∧
      ethhdrSize + message.icmpMtu env.isIpv6 = build.maxPcktSize :=
  ⟨icmpTooBig_answers h hlong, icmpTooBig_mtu h hether hsmall⟩

/-- A message about a packet from a service to this balancer comes to the service at its own
balancer, with the flow of the packets that come to the service. -/
theorem icmpTooBig_reaches (h : icmpTooBig build env ipv4Csum ipv6Csum = some message)
    (hlong : icmpTooBigSize env.isIpv6 ≤ env.frame.length)
    (htype : env.frame.etherType = if env.isIpv6 then BE_ETH_P_IPV6 else BE_ETH_P_IP)
    (hcomplete : env.frame.CompleteAt env.isIpv6 ethhdrSize) {build' : Build} {maps : KernelMaps}
    {env' : Env} {m : Machine} {vipInfo : VipMeta} (hframe : env'.frame = message)
    (hthOff : env'.thOff = calcOffset env.isIpv6 false)
    (hprotocol : env'.protocol = if env.isIpv6 then IPPROTO_ICMPV6 else IPPROTO_ICMP)
    (hcounters : PtbCounters build' env.isIpv6 m)
    (hgue : ¬ (build'.inlineDecapGue ∧
      (env.frame.connection env.isIpv6 ethhdrSize).sport = bigEndian build'.gueDport))
    (hvip : maps.vipMap
      (vipDefinition env.isIpv6 (env.frame.connection env.isIpv6 ethhdrSize).reply) =
        some vipInfo) :
    ∃ t, t.pckt.flow = (env.frame.connection env.isIpv6 ethhdrSize).reply ∧
      hasFlag t.pckt.flags F_ICMP = true ∧
      balancerIngress build' maps env' m.start = balance build' maps (env'.ingress env.isIpv6)
        (vipDefinition env.isIpv6 (env.frame.connection env.isIpv6 ethhdrSize).reply) vipInfo
        t := by
  have hanswers := icmpTooBig_answers h hlong
  subst hframe
  generalize env.isIpv6 = isIpv6 at *
  have herror : env'.frame.IsIcmpError isIpv6 env'.thOff := by
    rw [hthOff]
    exact hanswers.error
  rw [← hanswers.quoted_connection] at hgue hvip ⊢
  obtain ⟨t, hparse, hflag, hflow⟩ := @parseHeaders_error build' maps (env'.ingress isIpv6) m rfl
    hthOff hanswers.header hprotocol herror (hanswers.complete hcomplete) hcounters hgue
  have hframe : ethhdrSize ≤ env'.frame.length :=
    (Nat.le_add_right _ _).trans hanswers.header.length
  have hreply : t.pckt.flow = (env'.frame.connection isIpv6 (portsHdr isIpv6 true)).reply := hflow
  rw [← hreply] at hvip ⊢
  exact ⟨t, rfl, hflag, balancerIngress_of_parseHeaders (hanswers.etherType.trans htype) hframe
    hparse hvip⟩

/-- A segment that is too big for `Build.plain`, from 192.0.2.7:40000 to 10.0.0.1:80. -/
def bigAck : Frame := Frame.ack ++ List.replicate 1500 0

theorem bigAck_wellFormed : ∃ message : Frame,
    icmpTooBig .plain (.tcp bigAck) (fun _ csum ↦ csum) (fun _ csum _ ↦ csum) = some message ∧
      AnswersTooBig false bigAck message ∧
      ethhdrSize + message.icmpMtu false = Build.plain.maxPcktSize := by
  have hsome : (icmpTooBig .plain (.tcp bigAck) (fun _ csum ↦ csum)
      (fun _ csum _ ↦ csum)).isSome := (icmpTooBig_isSome _ _ _ _).mpr ⟨rfl, rfl⟩
  obtain ⟨message, hmessage⟩ := Option.isSome_iff_exists.mp hsome
  exact ⟨message, hmessage,
    icmpTooBig_wellFormed hmessage (by decide +kernel) (by decide) (by decide)⟩

/-- The balancer of 192.0.2.7:40000. -/
def senderMaps : KernelMaps :=
  { KernelMaps.sample 0 with
    vipMap := fun vip ↦ if vip = vipDefinition false FlowKey.ack.reply then some ⟨0, 0⟩ else none }

theorem bigAck_reaches : ∃ (message : Frame) (t : Machine),
    icmpTooBig .plain (.tcp bigAck) (fun _ csum ↦ csum) (fun _ csum _ ↦ csum) = some message ∧
      t.pckt.flow = FlowKey.ack.reply ∧ hasFlag t.pckt.flags F_ICMP = true ∧
      balancerIngress .plain senderMaps { Env.tcp message with protocol := IPPROTO_ICMP }
          Machine.sample.start =
        balance .plain senderMaps
          (Env.ingress { Env.tcp message with protocol := IPPROTO_ICMP } false)
          (vipDefinition false FlowKey.ack.reply) ⟨0, 0⟩ t := by
  have hsome : (icmpTooBig .plain (.tcp bigAck) (fun _ csum ↦ csum)
      (fun _ csum _ ↦ csum)).isSome := (icmpTooBig_isSome _ _ _ _).mpr ⟨rfl, rfl⟩
  obtain ⟨message, hmessage⟩ := Option.isSome_iff_exists.mp hsome
  have hconnection : bigAck.connection false ethhdrSize = .ack := by decide +kernel
  have hcomplete : bigAck.CompleteAt false ethhdrSize :=
    ⟨by decide +kernel, by decide +kernel, by decide +kernel⟩
  have hvip : senderMaps.vipMap
      (vipDefinition false (bigAck.connection false ethhdrSize).reply) = some ⟨0, 0⟩ := by
    rw [hconnection]
    simp [senderMaps]
  have hreaches := @icmpTooBig_reaches .plain (.tcp bigAck) _ _ message hmessage
    (by decide +kernel) (by decide +kernel) hcomplete .plain senderMaps
    { Env.tcp message with protocol := IPPROTO_ICMP } .sample ⟨0, 0⟩ rfl rfl rfl rfl
    (fun hgue ↦ absurd hgue.1 (by decide)) hvip
  have hfamily : (Env.tcp bigAck).isIpv6 = false := rfl
  have hframe : (Env.tcp bigAck).frame = bigAck := rfl
  rw [hfamily, hframe, hconnection] at hreaches
  obtain ⟨t, hflow, hflag, hbalance⟩ := hreaches
  exact ⟨message, t, hmessage, hflow, hflag, hbalance⟩

end Reaches

end Vsoshlb.DataPlane
