import Vsoshlb.DataPlane.GueEncap

/-!
# Where an encapsulated packet goes

Whichever encapsulation a build uses, the new headers take the packet to the next hop and from there
to the address of its real.
-/

namespace Vsoshlb.DataPlane

/-! ## Addresses in a header -/

namespace Frame

variable (frame : Frame)

/-- The type field of the Ethernet header. -/
def etherType : BitVec 16 := frame.u16 12

/-- The version field of the IP header. -/
def ipVersion : BitVec 8 := frame.byte ethhdrSize >>> 4

/-- The destination of the IP header, of which an IPv4 address takes the first four bytes. -/
def ipDaddr (isIpv6 : Bool) : BitVec 128 :=
  if isIpv6 then frame.be128 (ethhdrSize + 24) else setIpv4Part 0 (frame.be32 (ethhdrSize + 16))

end Frame

theorem be32_append {front : Frame} (rest : Frame) {n : ℕ} (hfront : front.length = n) (i : ℕ) :
    Frame.be32 (front ++ rest) (n + i) = rest.be32 i := by
  unfold Frame.be32
  simp only [Nat.add_assoc, byte_append rest hfront]

theorem be128_append {front : Frame} (rest : Frame) {n : ℕ} (hfront : front.length = n) (i : ℕ) :
    Frame.be128 (front ++ rest) (n + i) = rest.be128 i := by
  unfold Frame.be128
  simp only [Nat.add_assoc, be32_append rest hfront]

theorem reverseBytes_reverseBytes (word : BitVec 32) : reverseBytes (reverseBytes word) = word := by
  unfold reverseBytes
  apply BitVec.eq_of_getLsbD_eq
  intro i hi
  simp only [BitVec.getLsbD_append, BitVec.getLsbD_extractLsb']
  grind

/-- A word in the order of the network is read as it was meant. -/
theorem be32_bytes (word : BitVec 32) (rest : Frame) :
    Frame.be32 (bytes32 (reverseBytes word) ++ rest) 0 = word :=
  reverseBytes_reverseBytes word

theorem be128_bytes (addr : BitVec 128) (rest : Frame) :
    Frame.be128 (bytes128 addr ++ rest) 0 = addr := by
  have hbytes : Frame.be128 (bytes128 addr ++ rest) 0 =
      (addr.extractLsb' 120 8 ++ addr.extractLsb' 112 8 ++ addr.extractLsb' 104 8 ++
          addr.extractLsb' 96 8) ++
        (addr.extractLsb' 88 8 ++ addr.extractLsb' 80 8 ++ addr.extractLsb' 72 8 ++
          addr.extractLsb' 64 8) ++
        (addr.extractLsb' 56 8 ++ addr.extractLsb' 48 8 ++ addr.extractLsb' 40 8 ++
          addr.extractLsb' 32 8) ++
        (addr.extractLsb' 24 8 ++ addr.extractLsb' 16 8 ++ addr.extractLsb' 8 8 ++
          addr.extractLsb' 0 8) := rfl
  rw [hbytes]
  simp only [BitVec.extractLsb'_append_extractLsb'_eq_extractLsb']
  exact BitVec.extractLsb'_eq_self

theorem u16_bytes (word : BitVec 16) (rest : Frame) :
    Frame.u16 (bytes16 word ++ rest) 0 = word := by
  have hbytes : Frame.u16 (bytes16 word ++ rest) 0 =
      word.extractLsb' 8 8 ++ word.extractLsb' 0 8 := rfl
  rw [hbytes]
  simp only [BitVec.extractLsb'_append_extractLsb'_eq_extractLsb']
  exact BitVec.extractLsb'_eq_self

/-! ## The headers of a tunnel -/

/-- The packet goes to the next hop, from the address that it came to, and on to the real. -/
structure TunnelsTo (mac : Frame) (dst : RealDefinition) (inner outer : Frame) : Prop where
  nextHop : outer.take 6 = mac
  source : (outer.drop 6).take 6 = inner.take 6
  etherType : outer.etherType = if hasFlag dst.flags F_IPV6 then BE_ETH_P_IPV6 else BE_ETH_P_IP
  version : outer.ipVersion = if hasFlag dst.flags F_IPV6 then 6 else 4
  daddr : outer.ipDaddr (hasFlag dst.flags F_IPV6) =
    if hasFlag dst.flags F_IPV6 then dst.addr else setIpv4Part 0 (ipv4Part dst.addr)
  complete : ethhdrSize + Frame.ipHeaderSize (hasFlag dst.flags F_IPV6) ≤ outer.length

section Headers

variable {cval : BitVec 64} {hProto : BitVec 16} {dst : RealDefinition} {frame : Frame}

theorem newEth_macs (hframe : ethhdrSize ≤ frame.length) (rest : Frame) :
    (newEth cval hProto frame ++ rest).take 6 = ctlMac cval ∧
      ((newEth cval hProto frame ++ rest).drop 6).take 6 = frame.take 6 ∧
      Frame.etherType (newEth cval hProto frame ++ rest) = hProto := by
  have hmac : (ctlMac cval).length = 6 := rfl
  have hsource : (frame.take 6).length = 6 := List.length_take_of_le (le_trans (by decide) hframe)
  have hmacs : (ctlMac cval ++ frame.take 6).length = 12 := by
    rw [List.length_append, hmac, hsource]
  unfold newEth
  refine ⟨?_, ?_, ?_⟩
  · rw [List.append_assoc, List.append_assoc]
    exact List.take_left' hmac
  · rw [List.append_assoc, List.append_assoc, List.drop_left' hmac]
    exact List.take_left' hsource
  · rw [List.append_assoc, Frame.etherType, Frame.u16, byte_append _ hmacs 1,
      byte_append _ hmacs 0]
    exact u16_bytes hProto rest

/-- What an IPv4 header says after a front of the size of an Ethernet header. -/
theorem v4Hdr_fields {front : Frame} (hfront : front.length = ethhdrSize) (tos : BitVec 8)
    (saddr daddr : BitVec 32) (pktBytes : BitVec 16) (proto : BitVec 8) (rest : Frame) :
    let outer :=
      front ++ ((createV4Hdr tos saddr (reverseBytes daddr) pktBytes proto).bytes ++ rest)
    Frame.ipVersion outer = 4 ∧ Frame.ipDaddr outer false = setIpv4Part 0 daddr ∧
      Frame.ipProtocol outer false = proto ∧ Frame.ipLengthField outer false = pktBytes + 20 := by
  have hversion : ((4 : BitVec 4) ++ (5 : BitVec 4)) >>> 4 = (4 : BitVec 8) := by decide
  refine ⟨?_, ?_, ?_, ?_⟩
  · rw [Frame.ipVersion, ← Nat.add_zero ethhdrSize, byte_append _ hfront 0]
    exact hversion
  · simp only [Frame.ipDaddr, Bool.false_eq_true, if_false]
    rw [be32_append _ hfront 16]
    let iph := createV4Hdr tos saddr (reverseBytes daddr) pktBytes proto
    have hbefore : (iph.bytes.take 16).length = 16 := by
      simp [Iphdr.bytes, bytes16, bytes32]
    have hsplit : iph.bytes ++ rest =
        iph.bytes.take 16 ++ (bytes32 (reverseBytes daddr) ++ rest) := by
      simp [iph, Iphdr.bytes, createV4Hdr, bytes16, bytes32]
    rw [hsplit]
    exact congrArg _ ((be32_append _ hbefore 0).trans (be32_bytes daddr rest))
  · exact byte_append _ hfront 9
  · exact (be16_append _ hfront 2).trans (be16_bytes (pktBytes + 20))

/-- What an IPv6 header says after a front of the size of an Ethernet header. -/
theorem v6Hdr_fields {front : Frame} (hfront : front.length = ethhdrSize) (tc : BitVec 8)
    {saddr : Frame} (hsaddr : saddr.length = 16) (daddr : BitVec 128) (payloadLen : BitVec 16)
    (proto : BitVec 8) (rest : Frame) :
    let outer := front ++ ((createV6Hdr tc saddr (bytes128 daddr) payloadLen proto).bytes ++ rest)
    Frame.ipVersion outer = 6 ∧ Frame.ipDaddr outer true = daddr ∧
      Frame.ipProtocol outer true = proto ∧ Frame.ipLengthField outer true = payloadLen := by
  refine ⟨?_, ?_, ?_, ?_⟩
  · rw [Frame.ipVersion, ← Nat.add_zero ethhdrSize, byte_append _ hfront 0]
    simp only [createV6Hdr, Ipv6hdr.bytes, Frame.byte, List.cons_append, List.getD_cons_zero]
    generalize BitVec.setWidth 4 _ = priority
    revert priority
    decide
  · simp only [Frame.ipDaddr, if_true]
    rw [be128_append _ hfront 24]
    have hbefore : (createV6Hdr tc saddr [] payloadLen proto).bytes.length = 24 := by
      simp [Ipv6hdr.bytes, createV6Hdr, bytes16, hsaddr]
    have hsplit : (createV6Hdr tc saddr (bytes128 daddr) payloadLen proto).bytes ++ rest =
        (createV6Hdr tc saddr [] payloadLen proto).bytes ++ (bytes128 daddr ++ rest) := by
      simp [Ipv6hdr.bytes, createV6Hdr]
    rw [hsplit]
    exact (be128_append _ hbefore 0).trans (be128_bytes daddr rest)
  · exact byte_append _ hfront 6
  · exact (be16_append _ hfront 4).trans (be16_bytes payloadLen)

/-- A new IPv4 header after the new Ethernet header. -/
theorem tunnelsTo_v4 (hframe : ethhdrSize ≤ frame.length)
    (hfamily : hasFlag dst.flags F_IPV6 = false) (tos : BitVec 8) (saddr : BitVec 32)
    (pktBytes : BitVec 16) (proto : BitVec 8) (rest : Frame) :
    TunnelsTo (ctlMac cval) dst frame (newEth cval BE_ETH_P_IP frame ++
      ((createV4Hdr tos saddr (reverseBytes (ipv4Part dst.addr)) pktBytes proto).bytes ++
        rest)) := by
  obtain ⟨hnextHop, hsource, htype⟩ := @newEth_macs cval BE_ETH_P_IP frame hframe
    ((createV4Hdr tos saddr (reverseBytes (ipv4Part dst.addr)) pktBytes proto).bytes ++ rest)
  obtain ⟨hversion, hdaddr, -, -⟩ := v4Hdr_fields (@newEth_length cval BE_ETH_P_IP frame hframe)
    tos saddr (ipv4Part dst.addr) pktBytes proto rest
  refine ⟨hnextHop, hsource, ?_, ?_, ?_, ?_⟩
  · simp [hfamily, htype]
  · simp [hfamily, hversion]
  · simp [hfamily, hdaddr]
  · rw [List.length_append, newEth_length hframe, List.length_append, hfamily]
    exact Nat.add_le_add_left (Nat.le_add_right _ _) _

/-- A new IPv6 header after the new Ethernet header. -/
theorem tunnelsTo_v6 (hframe : ethhdrSize ≤ frame.length)
    (hfamily : hasFlag dst.flags F_IPV6 = true) (tc : BitVec 8) {saddr : Frame}
    (hsaddr : saddr.length = 16) (payloadLen : BitVec 16) (proto : BitVec 8) (rest : Frame) :
    TunnelsTo (ctlMac cval) dst frame (newEth cval BE_ETH_P_IPV6 frame ++
      ((createV6Hdr tc saddr (bytes128 dst.addr) payloadLen proto).bytes ++ rest)) := by
  obtain ⟨hnextHop, hsource, htype⟩ := @newEth_macs cval BE_ETH_P_IPV6 frame hframe
    ((createV6Hdr tc saddr (bytes128 dst.addr) payloadLen proto).bytes ++ rest)
  obtain ⟨hversion, hdaddr, -, -⟩ := v6Hdr_fields (@newEth_length cval BE_ETH_P_IPV6 frame hframe)
    tc hsaddr dst.addr payloadLen proto rest
  have hhdr : (createV6Hdr tc saddr (bytes128 dst.addr) payloadLen proto).bytes.length = 40 := by
    simp [Ipv6hdr.bytes, createV6Hdr, bytes16, bytes128, hsaddr]
  refine ⟨hnextHop, hsource, ?_, ?_, ?_, ?_⟩
  · simp [hfamily, htype]
  · simp [hfamily, hversion]
  · simp [hfamily, hdaddr]
  · rw [List.length_append, newEth_length hframe, List.length_append, hhdr, hfamily]
    exact Nat.add_le_add_left (Nat.le_add_right _ _) _

end Headers

/-! ## Both encapsulations -/

section Encapsulations

variable {adjustHead isIpv6 : Bool} {cval : BitVec 64} {pckt : PacketDescription}
variable {dst : RealDefinition} {pktBytes : BitVec 16} {frame written : Frame}

theorem encapsulate_tunnelsTo
    (h : encapsulate adjustHead cval isIpv6 pckt dst pktBytes frame = some written) :
    TunnelsTo (ctlMac cval) dst frame written := by
  unfold encapsulate at h
  split_ifs at h with hfamily
  · obtain ⟨hframe, saddr, hsaddr, rfl⟩ := encapV6_eq_some h
    rw [List.append_assoc]
    exact tunnelsTo_v6 hframe hfamily _ hsaddr _ _ _
  · unfold encapV4 at h
    dsimp only at h
    split_ifs at h with hadjust hbounds
    have hframe : ethhdrSize ≤ frame.length := by
      unfold OutOfBounds at hbounds
      omega
    rw [← Option.some.inj h, List.append_assoc]
    exact tunnelsTo_v4 hframe ((Bool.not_eq_true _).mp hfamily) _ _ _ _ _

theorem gueEncapsulate_tunnelsTo {pcktSrcs : BitVec 32 → Option RealDefinition}
    {csum : Option (BitVec 64)}
    (h : gueEncapsulate pcktSrcs csum adjustHead cval pckt dst isIpv6 pktBytes frame =
      some written) : TunnelsTo (ctlMac cval) dst frame written := by
  unfold gueEncapsulate at h
  split_ifs at h with hfamily
  · unfold gueEncapV6 at h
    cases hsrc : pcktSrcs V6_SRC_INDEX with
    | none => simp [hsrc] at h
    | some src =>
      simp only [hsrc] at h
      split at h
      · cases h
      · split at h
        · cases h
        · rename_i hbounds
          rw [← Option.some.inj h, List.append_assoc, List.append_assoc]
          exact tunnelsTo_v6 (not_gueOutOfBounds.mp hbounds) hfamily _ rfl _ _ _
  · unfold gueEncapV4 at h
    cases hsrc : pcktSrcs V4_SRC_INDEX with
    | none => simp [hsrc] at h
    | some src =>
      simp only [hsrc] at h
      split_ifs at h with hadjust hbounds
      rw [← Option.some.inj h, List.append_assoc, List.append_assoc]
      exact tunnelsTo_v4 (not_gueOutOfBounds.mp hbounds) ((Bool.not_eq_true _).mp hfamily) _ _ _ _ _

end Encapsulations

end Vsoshlb.DataPlane
