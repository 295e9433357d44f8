import Vsoshlb.DataPlane.Encap

/-!
# GUE encapsulation

A build with `GUE_ENCAP` puts a UDP header between the packet and its new IP header. As without
that header, the real decides the family of the new one, and only `gue_encap_v6` looks at the family
of the packet: `gue_encap_v4` takes the length of every packet for one that counts its own header.

The functions that compute the checksum of the UDP header are not part of the source that there is,
so what they come to is an input. Neither the lengths nor the packet itself depend on it.
-/

namespace Vsoshlb.DataPlane

def V4_SRC_INDEX : BitVec 32 := 0

def V6_SRC_INDEX : BitVec 32 := 1

def GUE_DPORT : BitVec 16 := 6080

/-! ## The UDP header -/

/-- `struct udphdr`. -/
structure Udphdr where
  source : BitVec 16
  dest : BitVec 16
  len : BitVec 16
  check : BitVec 16

def Udphdr.bytes (udph : Udphdr) : Frame :=
  bytes16 udph.source ++ bytes16 udph.dest ++ bytes16 udph.len ++ bytes16 udph.check

/-- `create_udp_hdr`. -/
def createUdpHdr (sport dport len csum : BitVec 16) : Udphdr where
  source := sport
  dest := bigEndian dport
  len := bigEndian len
  check := csum

/-- There is no room for an IP header of `ipSize` and a UDP header once the frame has grown by
both. -/
def GueOutOfBounds (ipSize : ℕ) (frame : Frame) : Prop :=
  let grown := frame.length + (ipSize + udphdrSize)
  grown < ethhdrSize ∨ grown < ipSize + udphdrSize + ethhdrSize ∨ grown < ethhdrSize + ipSize ∨
    grown < ethhdrSize + ipSize + udphdrSize

instance (ipSize : ℕ) (frame : Frame) : Decidable (GueOutOfBounds ipSize frame) :=
  inferInstanceAs (Decidable (_ ∨ _ ∨ _ ∨ _))

/-! ## Encapsulation -/

/-- What `gue_csum` leaves in the header, with `none` where it returns false. -/
def udpCheck (csum : Option (BitVec 64)) : BitVec 16 :=
  match csum with
  | some csum => (csum &&& 0xFFFF).setWidth 16
  | none => 0

section Encapsulation

variable (pcktSrcs : BitVec 32 → Option RealDefinition) (csum : Option (BitVec 64))
variable (adjustHead : Bool) (cval : BitVec 64) (pckt : PacketDescription) (dst : RealDefinition)

/-- `gue_encap_v4`, with `none` for `false`. -/
def gueEncapV4 (pktBytes : BitVec 32) (frame : Frame) : Option Frame :=
  match pcktSrcs V4_SRC_INDEX with
  | none => none
  | some src =>
    let sport := bigEndian pckt.flow.sport ^^^
      (reverseBytes (ipv4Part pckt.flow.src) >>> 16 &&& 0xFFFF).setWidth 16
    if adjustHead = false then
      none
    else if GueOutOfBounds iphdrSize frame then
      none
    else
      let udph := createUdpHdr sport GUE_DPORT ((pktBytes + 8).setWidth 16) 0
      let iph := createV4Hdr pckt.tos (reverseBytes (ipv4Part src.addr))
        (reverseBytes (ipv4Part dst.addr)) ((pktBytes + 8).setWidth 16) IPPROTO_UDP
      let udph := { udph with check := udpCheck csum }
      some (newEth cval BE_ETH_P_IP frame ++ iph.bytes ++ udph.bytes ++ frame.drop ethhdrSize)

/-- `gue_encap_v6`, with `none` for `false`. -/
def gueEncapV6 (isIpv6 : Bool) (pktBytes : BitVec 32) (frame : Frame) : Option Frame :=
  match pcktSrcs V6_SRC_INDEX with
  | none => none
  | some src =>
    if adjustHead = false then
      none
    else if GueOutOfBounds ipv6hdrSize frame then
      none
    else
      let sport := pckt.flow.sport ^^^
        if isIpv6 then (reverseBytes (pckt.flow.src.extractLsb' 0 32) &&& 0xFFFF).setWidth 16
        else (reverseBytes (ipv4Part pckt.flow.src) >>> 16 &&& 0xFFFF).setWidth 16
      let pktBytes := if isIpv6 then pktBytes + 48 else pktBytes + 8
      let udph := createUdpHdr sport GUE_DPORT (pktBytes.setWidth 16) 0
      let ip6h := createV6Hdr pckt.tos (bytes128 src.addr) (bytes128 dst.addr)
        (pktBytes.setWidth 16) IPPROTO_UDP
      let udph := { udph with check := udpCheck csum }
      some (newEth cval BE_ETH_P_IPV6 frame ++ ip6h.bytes ++ udph.bytes ++ frame.drop ethhdrSize)

/-- The choice between the two at the end of `process_packet`. -/
def gueEncapsulate (isIpv6 : Bool) (pktBytes : BitVec 16) (frame : Frame) : Option Frame :=
  if hasFlag dst.flags F_IPV6 then
    gueEncapV6 pcktSrcs csum adjustHead cval pckt dst isIpv6 (pktBytes.setWidth 32) frame
  else
    gueEncapV4 pcktSrcs csum adjustHead cval pckt dst (pktBytes.setWidth 32) frame

end Encapsulation

/-! ## What the headers say -/

namespace Frame

variable (frame : Frame) (isIpv6 : Bool)

/-- The destination port of the UDP header after the IP header. -/
def udpDest : BitVec 16 := frame.be16 (ethhdrSize + (Frame.ipHeaderSize isIpv6 + 2))

def udpLength : BitVec 16 := frame.be16 (ethhdrSize + (Frame.ipHeaderSize isIpv6 + 4))

/-- What is inside of the UDP packet. -/
def udpPayload : Frame := frame.drop (ethhdrSize + (Frame.ipHeaderSize isIpv6 + udphdrSize))

end Frame

/-- The outer headers carry a UDP packet to the port of GUE, and both lengths cover the packet
inside. -/
structure GueMatches (outerIpv6 isIpv6 : Bool) (outer inner : Frame) : Prop where
  udp : outer.ipProtocol outerIpv6 = IPPROTO_UDP
  port : outer.udpDest outerIpv6 = GUE_DPORT
  udpLength : (outer.udpLength outerIpv6).toNat = udphdrSize + inner.ipLength isIpv6
  length : outer.ipLength outerIpv6 =
    Frame.ipHeaderSize outerIpv6 + udphdrSize + inner.ipLength isIpv6

section Headers

variable {cval : BitVec 64} {hProto : BitVec 16} {frame ipHdr : Frame} {isIpv6 : Bool}

theorem Udphdr.be16_dest (udph : Udphdr) (rest : Frame) :
    Frame.be16 (udph.bytes ++ rest) 2 = bigEndian udph.dest := rfl

theorem Udphdr.be16_len (udph : Udphdr) (rest : Frame) :
    Frame.be16 (udph.bytes ++ rest) 4 = bigEndian udph.len := rfl

/-- A field of a UDP header after an Ethernet and an IP header. -/
theorem be16_behindIp (hframe : ethhdrSize ≤ frame.length)
    (hipHdr : ipHdr.length = Frame.ipHeaderSize isIpv6) (rest : Frame) (i : ℕ) :
    Frame.be16 (newEth cval hProto frame ++ ipHdr ++ rest)
      (ethhdrSize + (Frame.ipHeaderSize isIpv6 + i)) = rest.be16 i := by
  rw [List.append_assoc]
  calc
    _ = Frame.be16 (ipHdr ++ rest) (Frame.ipHeaderSize isIpv6 + i) :=
      be16_append _ (newEth_length hframe) _
    _ = rest.be16 i := be16_append _ hipHdr i

/-- What the UDP header says that both functions write. -/
theorem udpFields (hframe : ethhdrSize ≤ frame.length)
    (hipHdr : ipHdr.length = Frame.ipHeaderSize isIpv6) {udph : Udphdr} {len : BitVec 16}
    (hdest : udph.dest = bigEndian GUE_DPORT) (hlen : udph.len = bigEndian len) {written : Frame}
    (hwritten : written = newEth cval hProto frame ++ ipHdr ++ udph.bytes ++
      frame.drop ethhdrSize) :
    written.udpDest isIpv6 = GUE_DPORT ∧ written.udpLength isIpv6 = len ∧
      written.udpPayload isIpv6 = frame.drop ethhdrSize := by
  subst hwritten
  refine ⟨?_, ?_, ?_⟩
  · unfold Frame.udpDest
    rw [List.append_assoc, be16_behindIp hframe hipHdr, Udphdr.be16_dest, hdest,
      bigEndian_bigEndian]
  · unfold Frame.udpLength
    rw [List.append_assoc, be16_behindIp hframe hipHdr, Udphdr.be16_len, hlen,
      bigEndian_bigEndian]
  · apply List.drop_left'
    rw [List.length_append, List.length_append, newEth_length hframe, hipHdr, Nat.add_assoc]
    rfl

end Headers

section Fields

variable {pcktSrcs : BitVec 32 → Option RealDefinition} {csum : Option (BitVec 64)}
variable {adjustHead isIpv6 : Bool} {cval : BitVec 64} {pckt : PacketDescription}
variable {dst : RealDefinition} {pktBytes : BitVec 16} {frame written : Frame}

theorem not_gueOutOfBounds {ipSize : ℕ} :
    ¬ GueOutOfBounds ipSize frame ↔ ethhdrSize ≤ frame.length := by
  unfold GueOutOfBounds
  dsimp only
  omega

/-- A length that is computed in 32 bits and kept in 16. -/
theorem setWidth_add_setWidth (more : BitVec 32) :
    (pktBytes.setWidth 32 + more).setWidth 16 = pktBytes + more.setWidth 16 := by
  rw [BitVec.setWidth_add _ _ (by decide), BitVec.setWidth_setWidth_of_le _ (by decide),
    BitVec.setWidth_eq]

/-- The fields of an outer IPv4 header and of its UDP header. -/
theorem gueEncapV4_fields
    (h : gueEncapV4 pcktSrcs csum adjustHead cval pckt dst (pktBytes.setWidth 32) frame =
      some written) :
    written.ipProtocol false = IPPROTO_UDP ∧ written.ipLengthField false = pktBytes + 28 ∧
      written.udpDest false = GUE_DPORT ∧ written.udpLength false = pktBytes + 8 ∧
      written.udpPayload false = frame.drop ethhdrSize := by
  unfold gueEncapV4 at h
  cases hsrc : pcktSrcs V4_SRC_INDEX with
  | none => simp [hsrc] at h
  | some src =>
    simp only [hsrc] at h
    split_ifs at h with hadjust hbounds
    have hframe := not_gueOutOfBounds.mp hbounds
    have heth := @newEth_length cval BE_ETH_P_IP frame hframe
    rw [setWidth_add_setWidth] at h
    have hwritten := (Option.some.inj h).symm
    have hudp := @udpFields cval BE_ETH_P_IP frame _ false hframe rfl _ _ rfl rfl _ hwritten
    have hlen : pktBytes + 8 + 20 = pktBytes + 28 := by
      rw [BitVec.add_assoc]
      rfl
    refine ⟨?_, ?_, hudp⟩
    · rw [hwritten, List.append_assoc, List.append_assoc]
      exact byte_append _ heth 9
    · rw [hwritten, List.append_assoc, List.append_assoc, ← hlen]
      exact (be16_append _ heth 2).trans (be16_bytes (pktBytes + 8 + 20))

/-- The fields of an outer IPv6 header and of its UDP header. -/
theorem gueEncapV6_fields
    (h : gueEncapV6 pcktSrcs csum adjustHead cval pckt dst isIpv6 (pktBytes.setWidth 32) frame =
      some written) :
    written.ipProtocol true = IPPROTO_UDP ∧
      written.ipLengthField true = pktBytes + (if isIpv6 then 48 else 8) ∧
      written.udpDest true = GUE_DPORT ∧
      written.udpLength true = pktBytes + (if isIpv6 then 48 else 8) ∧
      written.udpPayload true = frame.drop ethhdrSize := by
  have hlen : (if isIpv6 then pktBytes.setWidth 32 + 48 else pktBytes.setWidth 32 + 8).setWidth 16 =
      pktBytes + if isIpv6 then (48 : BitVec 16) else 8 := by
    cases isIpv6 with
    | true => exact setWidth_add_setWidth 48
    | false => exact setWidth_add_setWidth 8
  unfold gueEncapV6 at h
  cases hsrc : pcktSrcs V6_SRC_INDEX with
  | none => simp [hsrc] at h
  | some src =>
    simp only [hsrc, hlen] at h
    split at h
    · cases h
    · split at h
      · cases h
      · rename_i hbounds
        have hframe := not_gueOutOfBounds.mp hbounds
        have heth := @newEth_length cval BE_ETH_P_IPV6 frame hframe
        generalize (pktBytes + if isIpv6 then (48 : BitVec 16) else 8) = payloadLen at h ⊢
        have hwritten := (Option.some.inj h).symm
        have hudp := @udpFields cval BE_ETH_P_IPV6 frame _ true hframe rfl _ _ rfl rfl _ hwritten
        refine ⟨?_, ?_, hudp⟩
        · rw [hwritten, List.append_assoc, List.append_assoc]
          exact byte_append _ heth 6
        · rw [hwritten, List.append_assoc, List.append_assoc]
          exact (be16_append _ heth 4).trans (be16_bytes payloadLen)

theorem gueEncapV4_matches_iff (hpktBytes : pktBytes = frame.ipLengthField isIpv6)
    (hsize : ethhdrSize + frame.ipLength isIpv6 ≤ 65521)
    (h : gueEncapV4 pcktSrcs csum adjustHead cval pckt dst (pktBytes.setWidth 32) frame =
      some written) : GueMatches false isIpv6 written frame ↔ isIpv6 = false := by
  obtain ⟨hprotocol, hlength, hport, hudpLength, -⟩ := gueEncapV4_fields h
  have hfits : pktBytes.toNat + 28 < 2 ^ 16 := by
    simp only [Frame.ipLength, ← hpktBytes, ethhdrSize] at hsize
    omega
  have hudp : (written.udpLength false).toNat = pktBytes.toNat + 8 := by
    rw [hudpLength]
    apply BitVec.toNat_add_of_lt
    exact (Nat.add_lt_add_left (by decide : 8 < 28) _).trans hfits
  constructor
  · intro hmatches
    have hcovered := hmatches.udpLength
    cases isIpv6 with
    | false => rfl
    | true =>
      -- the length field of an IPv6 header leaves out that header
      simp only [hudp, udphdrSize, Frame.ipLength, ← hpktBytes, ipv6hdrSize, if_true] at hcovered
      omega
  · rintro rfl
    refine ⟨hprotocol, hport, ?_, ?_⟩
    · rw [hudp]
      simp [Frame.ipLength, ← hpktBytes, udphdrSize, Nat.add_comm]
    · calc
        _ = (pktBytes + 28).toNat := by simp [Frame.ipLength, hlength]
        _ = pktBytes.toNat + 28 := BitVec.toNat_add_of_lt hfits
        _ = _ := by
          simp [Frame.ipHeaderSize, Frame.ipLength, ← hpktBytes, iphdrSize, udphdrSize,
            Nat.add_comm]

theorem gueEncapV6_matches (hpktBytes : pktBytes = frame.ipLengthField isIpv6)
    (hsize : ethhdrSize + frame.ipLength isIpv6 ≤ 65521)
    (h : gueEncapV6 pcktSrcs csum adjustHead cval pckt dst isIpv6 (pktBytes.setWidth 32) frame =
      some written) : GueMatches true isIpv6 written frame := by
  obtain ⟨hprotocol, hlength, hport, hudpLength, -⟩ := gueEncapV6_fields h
  have hcovers : (pktBytes + if isIpv6 then (48 : BitVec 16) else 8).toNat =
      udphdrSize + frame.ipLength isIpv6 := by
    cases isIpv6 with
    | false =>
      simp only [Frame.ipLength, ← hpktBytes, ethhdrSize, Bool.false_eq_true, if_false] at hsize ⊢
      exact (BitVec.toNat_add_of_lt (by simp; omega)).trans (by simp [udphdrSize]; omega)
    | true =>
      simp only [Frame.ipLength, ← hpktBytes, ethhdrSize, ipv6hdrSize, if_true] at hsize ⊢
      exact (BitVec.toNat_add_of_lt (by simp; omega)).trans (by simp [udphdrSize]; omega)
  refine ⟨hprotocol, hport, ?_, ?_⟩
  · rw [hudpLength, hcovers]
  · calc
      _ = ipv6hdrSize + (pktBytes + if isIpv6 then (48 : BitVec 16) else 8).toNat := by
        simp only [Frame.ipLength, hlength, if_true]
      _ = _ := by
        rw [hcovers, ← Nat.add_assoc]
        rfl

/-- Whatever the packet and its real, the packet itself is what the UDP header carries. The lengths
and ports of the two new headers are right exactly where the packet is an IPv4 packet or its real
has an IPv6 address. -/
theorem gueEncapsulate_matches_iff (hpktBytes : pktBytes = frame.ipLengthField isIpv6)
    (hsize : ethhdrSize + frame.ipLength isIpv6 ≤ 65521)
    (h : gueEncapsulate pcktSrcs csum adjustHead cval pckt dst isIpv6 pktBytes frame =
      some written) :
    written.udpPayload (hasFlag dst.flags F_IPV6) = frame.drop ethhdrSize ∧
      (GueMatches (hasFlag dst.flags F_IPV6) isIpv6 written frame ↔
        isIpv6 = false ∨ hasFlag dst.flags F_IPV6 = true) := by
  unfold gueEncapsulate at h
  split_ifs at h with hfamily
  · obtain ⟨-, -, -, -, hpayload⟩ := gueEncapV6_fields h
    rw [hfamily]
    exact ⟨hpayload, by simp [gueEncapV6_matches hpktBytes hsize h]⟩
  · obtain ⟨-, -, -, -, hpayload⟩ := gueEncapV4_fields h
    rw [Bool.not_eq_true] at hfamily
    rw [hfamily]
    exact ⟨hpayload, by simp [gueEncapV4_matches_iff hpktBytes hsize h]⟩

end Fields

/-- A segment to a real with an IPv4 address. -/
theorem ack_gueMatches : ∃ written, GueMatches false false written Frame.ack := by
  obtain ⟨written, hwritten⟩ : ∃ written, gueEncapsulate (fun _ ↦ some (RealDefinition.sample 0))
      none true 0 ⟨FlowKey.ack, 0, 0, 0⟩ (RealDefinition.sample 2) false
      (Frame.ack.ipLengthField false) Frame.ack = some written := ⟨_, rfl⟩
  have hright := (gueEncapsulate_matches_iff rfl (by decide) hwritten).2
  exact ⟨written, hright.mpr (Or.inl rfl)⟩

end Vsoshlb.DataPlane
