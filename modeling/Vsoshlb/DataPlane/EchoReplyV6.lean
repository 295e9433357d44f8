import Vsoshlb.DataPlane.Checksums

/-!
# Echo replies over IPv6

`send_icmp6_reply` changes the type of the message from 128 to 129 and takes 1 from the checksum.
The addresses are exchanged, which leaves the sum of the pseudo header as it was. Where the checksum
is zero the difference borrows, and the 16 bits of the field lose the borrow.
-/

namespace Vsoshlb.DataPlane

open OnesComplement (words total)

def ICMPV6_ECHO_REQUEST : BitVec 8 := 128

def ICMPV6_ECHO_REPLY : BitVec 8 := 129

def icmp6hdrSize : ℕ := 8

/-! ## The reply -/

def setEchoReplyV6 (frame : Frame) : Frame :=
  frame.write (ethhdrSize + ipv6hdrSize) [ICMPV6_ECHO_REPLY]

/-- `icmp_hdr->icmp6_cksum -= 0x0001`. -/
def lowerChecksum (frame : Frame) : Frame :=
  frame.write (ethhdrSize + ipv6hdrSize + 2)
    (bytes16 (frame.u16 (ethhdrSize + ipv6hdrSize + 2) - 0x0001))

def setHopLimit (frame : Frame) : Frame := frame.write (ethhdrSize + 7) [DEFAULT_TTL]

def swapAddressesV6 (frame : Frame) : Frame :=
  (frame.write (ethhdrSize + 8) (frame.slice (ethhdrSize + 24) 16)).write (ethhdrSize + 24)
    (frame.slice (ethhdrSize + 8) 16)

/-- The frame that `send_icmp6_reply` leaves, with `none` for `XDP_DROP`. -/
def icmp6Reply (frame : Frame) : Option Frame :=
  if frame.length < ethhdrSize + ipv6hdrSize + icmp6hdrSize then
    none
  else
    some (swapMac (swapAddressesV6 (setHopLimit (lowerChecksum (setEchoReplyV6 frame)))))

/-- `send_icmp6_reply` ends in `XDP_TX` where there is a reply. -/
theorem sendIcmp6Reply_eq (frame : Frame) :
    sendIcmpReply frame ipv6hdrSize =
      EarlyExit.Prog.exit (if (icmp6Reply frame).isSome then .tx else .drop) := by
  unfold sendIcmpReply icmp6Reply
  funext m
  by_cases hshort : frame.length < ethhdrSize + ipv6hdrSize + icmp6hdrSize
  · rw [if_pos hshort]
    exact EarlyExit.Prog.exitIf_bind_of_pos hshort _ _ m
  · rw [if_neg hshort]
    exact EarlyExit.Prog.exitIf_bind_of_neg hshort _ _ m

/-! ## Messages and pseudo headers -/

/-- The ICMP message, as long as the IPv6 header says. -/
def Frame.icmp6Message (frame : Frame) : Frame :=
  frame.slice (ethhdrSize + ipv6hdrSize) (frame.be16 (ethhdrSize + 4)).toNat

/-- The addresses, the length of the message in four bytes, and the number of its protocol. -/
def Frame.pseudoHeader (frame : Frame) : Frame :=
  frame.slice (ethhdrSize + 8) 16 ++ (frame.slice (ethhdrSize + 24) 16 ++
    ([0, 0] ++ (frame.slice (ethhdrSize + 4) 2 ++ [0, 0, 0, IPPROTO_ICMPV6])))

/-- The one's-complement sum of the pseudo header and the message is all ones. -/
def Frame.Icmp6Valid (frame : Frame) : Prop :=
  OnesComplement.sum (words (frame.pseudoHeader ++ frame.icmp6Message)) = 0xFFFF

instance (frame : Frame) : Decidable frame.Icmp6Valid :=
  inferInstanceAs
    (Decidable (OnesComplement.sum (words (frame.pseudoHeader ++ frame.icmp6Message)) = 0xFFFF))

/-- An echo request in an IPv6 packet, with all of its message. -/
structure Frame.IsEchoRequestV6 (frame : Frame) : Prop where
  nexthdr : frame.byte (ethhdrSize + 6) = IPPROTO_ICMPV6
  header : icmp6hdrSize ≤ (frame.be16 (ethhdrSize + 4)).toNat
  length : ethhdrSize + ipv6hdrSize + (frame.be16 (ethhdrSize + 4)).toNat ≤ frame.length
  type : frame.byte (ethhdrSize + ipv6hdrSize) = ICMPV6_ECHO_REQUEST

/-- The reply has the message with the new type and checksum, and the header of the request with its
addresses exchanged. -/
structure RepliesTo (frame reply : Frame) : Prop where
  length : reply.length = frame.length
  message : ∃ code rest, frame.drop (ethhdrSize + ipv6hdrSize) =
      frame.byte (ethhdrSize + ipv6hdrSize) :: code ::
        (bytes16 (frame.u16 (ethhdrSize + ipv6hdrSize + 2)) ++ rest) ∧
    reply.drop (ethhdrSize + ipv6hdrSize) = ICMPV6_ECHO_REPLY :: code ::
      (bytes16 (frame.u16 (ethhdrSize + ipv6hdrSize + 2) - 0x0001) ++ rest)
  payloadLen : reply.slice (ethhdrSize + 4) 2 = frame.slice (ethhdrSize + 4) 2
  saddr : reply.slice (ethhdrSize + 8) 16 = frame.slice (ethhdrSize + 24) 16
  daddr : reply.slice (ethhdrSize + 24) 16 = frame.slice (ethhdrSize + 8) 16

theorem be16_of_slice {frame reply : Frame} {i : ℕ} (h : reply.slice i 2 = frame.slice i 2) :
    reply.be16 i = frame.be16 i := by
  have hbyte {p : ℕ} (hp : p < 2) : reply.byte (i + p) = frame.byte (i + p) := by
    rw [← Frame.byte_slice hp, h, Frame.byte_slice hp]
  have hfirst := hbyte Nat.two_pos
  rw [Nat.add_zero] at hfirst
  rw [Frame.be16, Frame.be16, hfirst, hbyte Nat.one_lt_two]

/-- The writes to the message leave the header alone. -/
theorem lowerChecksum_setEchoReplyV6 {frame : Frame}
    (h : ethhdrSize + ipv6hdrSize + icmp6hdrSize ≤ frame.length) :
    (lowerChecksum (setEchoReplyV6 frame)).length = frame.length ∧
      ∀ p n, p + n ≤ ethhdrSize + ipv6hdrSize →
        (lowerChecksum (setEchoReplyV6 frame)).slice p n = frame.slice p n := by
  unfold icmp6hdrSize at h
  have htype : (setEchoReplyV6 frame).length = frame.length :=
    Frame.length_write (by rw [List.length_singleton]; omega)
  have hchecksum : ethhdrSize + ipv6hdrSize + 2 + 2 ≤ (setEchoReplyV6 frame).length := by omega
  constructor
  · exact (Frame.length_write hchecksum).trans htype
  · intro p n hp
    rw [lowerChecksum, Frame.slice_write_of_ge (by omega) (by omega), setEchoReplyV6,
      Frame.slice_write_of_ge (by omega) hp]

/-- The write to the hop limit leaves the rest of the header and the message alone. -/
theorem setHopLimit_kept {frame : Frame} (h : ethhdrSize + ipv6hdrSize ≤ frame.length) :
    (setHopLimit frame).length = frame.length ∧
      (setHopLimit frame).drop (ethhdrSize + ipv6hdrSize) =
        frame.drop (ethhdrSize + ipv6hdrSize) ∧
      ∀ p n, p + n ≤ ethhdrSize + 7 ∨ ethhdrSize + 8 ≤ p →
        (setHopLimit frame).slice p n = frame.slice p n := by
  unfold ethhdrSize ipv6hdrSize at *
  have hroom : 21 + [DEFAULT_TTL].length ≤ frame.length := by
    rw [List.length_singleton]
    omega
  refine ⟨Frame.length_write hroom, Frame.drop_write_of_le hroom (by decide), ?_⟩
  intro p n hp
  rcases hp with hfront | hbehind
  · exact Frame.slice_write_of_ge (by unfold ethhdrSize; omega) hfront
  · exact Frame.slice_write_of_le hroom hbehind

/-- The two exchanges swap the addresses, and leave the length of the payload and the message. -/
theorem swapMac_swapAddressesV6 {frame : Frame} (h : ethhdrSize + ipv6hdrSize ≤ frame.length) :
    (swapMac (swapAddressesV6 frame)).length = frame.length ∧
      (swapMac (swapAddressesV6 frame)).drop (ethhdrSize + ipv6hdrSize) =
        frame.drop (ethhdrSize + ipv6hdrSize) ∧
      (swapMac (swapAddressesV6 frame)).slice (ethhdrSize + 4) 2 =
        frame.slice (ethhdrSize + 4) 2 ∧
      (swapMac (swapAddressesV6 frame)).slice (ethhdrSize + 8) 16 =
        frame.slice (ethhdrSize + 24) 16 ∧
      (swapMac (swapAddressesV6 frame)).slice (ethhdrSize + 24) 16 =
        frame.slice (ethhdrSize + 8) 16 := by
  have hsaddr : ethhdrSize + 8 + 16 ≤ frame.length := le_trans (by decide) h
  have hdaddr : ethhdrSize + 24 + 16 ≤ frame.length := h
  have hswapped : (swapAddressesV6 frame).length = frame.length :=
    Frame.length_exchange hsaddr hdaddr
  have hsource : 6 + 6 ≤ (swapAddressesV6 frame).length := by
    rw [hswapped]
    exact le_trans (by decide) h
  have hdest : 0 + 6 ≤ (swapAddressesV6 frame).length := by omega
  have hmac (p n : ℕ) (hp : 12 ≤ p) :
      (swapMac (swapAddressesV6 frame)).slice p n = (swapAddressesV6 frame).slice p n :=
    Frame.slice_exchange_of_disjoint hsource hdest (Or.inl hp) (Or.inl (by omega))
  refine ⟨(Frame.length_exchange hsource hdest).trans hswapped, ?_, ?_, ?_, ?_⟩
  · calc
      _ = (swapAddressesV6 frame).drop (ethhdrSize + ipv6hdrSize) :=
        Frame.drop_exchange hsource hdest (by decide) (by decide)
      _ = _ := Frame.drop_exchange hsaddr hdaddr (by decide) (by decide)
  · calc
      _ = (swapAddressesV6 frame).slice (ethhdrSize + 4) 2 := hmac _ _ (by decide)
      _ = _ := Frame.slice_exchange_of_disjoint hsaddr hdaddr (by decide) (by decide)
  · calc
      _ = (swapAddressesV6 frame).slice (ethhdrSize + 8) 16 := hmac _ _ (by decide)
      _ = _ := Frame.slice_exchange_left hsaddr hdaddr (by decide)
  · calc
      _ = (swapAddressesV6 frame).slice (ethhdrSize + 24) 16 := hmac _ _ (by decide)
      _ = _ := Frame.slice_exchange_right hsaddr hdaddr

theorem icmp6Reply_repliesTo {frame : Frame}
    (h : ethhdrSize + ipv6hdrSize + icmp6hdrSize ≤ frame.length) :
    RepliesTo frame
      (swapMac (swapAddressesV6 (setHopLimit (lowerChecksum (setEchoReplyV6 frame))))) := by
  have hmessage : ethhdrSize + ipv6hdrSize + 4 ≤ frame.length := by
    unfold icmp6hdrSize at h
    omega
  obtain ⟨code, rest, hold, hchecksum, hwritten⟩ := drop_write_message hmessage ICMPV6_ECHO_REPLY
  have hnew : (lowerChecksum (setEchoReplyV6 frame)).drop (ethhdrSize + ipv6hdrSize) =
      ICMPV6_ECHO_REPLY :: code ::
        (bytes16 (frame.u16 (ethhdrSize + ipv6hdrSize + 2) - 0x0001) ++ rest) := by
    unfold lowerChecksum setEchoReplyV6
    rw [hchecksum]
    exact hwritten _
  obtain ⟨hlowered, hheader⟩ := lowerChecksum_setEchoReplyV6 h
  obtain ⟨hhopped, hbehind, hbeside⟩ :=
    @setHopLimit_kept (lowerChecksum (setEchoReplyV6 frame)) (by omega)
  have hkept (p n : ℕ) (hp : p + n ≤ ethhdrSize + 7 ∨ ethhdrSize + 8 ≤ p)
      (hn : p + n ≤ ethhdrSize + ipv6hdrSize) :
      (setHopLimit (lowerChecksum (setEchoReplyV6 frame))).slice p n = frame.slice p n :=
    (hbeside p n hp).trans (hheader p n hn)
  obtain ⟨hlength, hdrop, hpayload, hsaddr, hdaddr⟩ :=
    @swapMac_swapAddressesV6 (setHopLimit (lowerChecksum (setEchoReplyV6 frame))) (by omega)
  constructor
  · exact (hlength.trans hhopped).trans hlowered
  · exact ⟨code, rest, hold, (hdrop.trans hbehind).trans hnew⟩
  · exact hpayload.trans (hkept _ _ (by decide) (by decide))
  · exact hsaddr.trans (hkept _ _ (by decide) (by decide))
  · exact hdaddr.trans (hkept _ _ (by decide) (by decide))

/-! ## The checksum of a reply -/

/-- The sum of a pseudo header is that of its parts, and it is not zero. -/
theorem total_pseudoHeader {frame : Frame} (h : ethhdrSize + ipv6hdrSize ≤ frame.length)
    (message : Frame) :
    total (words (frame.pseudoHeader ++ message)) =
      total (words (frame.slice (ethhdrSize + 8) 16)) +
        total (words (frame.slice (ethhdrSize + 24) 16)) +
        total (words (frame.slice (ethhdrSize + 4) 2)) + 58 + total (words message) := by
  unfold ethhdrSize ipv6hdrSize at *
  have hsaddr : (frame.slice 22 16).length = 16 := Frame.length_slice (by omega)
  have hdaddr : (frame.slice 38 16).length = 16 := Frame.length_slice (by omega)
  have hlength : (frame.slice 18 2).length = 2 := Frame.length_slice (by omega)
  have hzeros : total (words [0, 0]) = 0 := rfl
  have hproto : total (words [0, 0, 0, IPPROTO_ICMPV6]) = 58 := rfl
  unfold Frame.pseudoHeader ethhdrSize
  rw [List.append_assoc, List.append_assoc, List.append_assoc, List.append_assoc,
    OnesComplement.words_append (by rw [hsaddr]), OnesComplement.words_append (by rw [hdaddr]),
    OnesComplement.words_append rfl, OnesComplement.words_append (by rw [hlength]),
    OnesComplement.words_append rfl]
  simp only [OnesComplement.total_append, hzeros, hproto]
  omega

/-- The type gains 1 in the high byte of its word; the checksum loses 1 in its first byte, and what
a borrow from one byte to the other moves is a multiple of `2 ^ 16 - 1`. -/
theorem total_message_lowered (code : BitVec 8) (checksum : BitVec 16) (rest : Frame) (n : ℕ) :
    (n + total (words (ICMPV6_ECHO_REPLY :: code :: (bytes16 (checksum - 0x0001) ++ rest)))) %
        65535 =
      (n + total (words (ICMPV6_ECHO_REQUEST :: code :: (bytes16 checksum ++ rest)))) % 65535 ↔
    checksum ≠ 0 := by
  have hlt := checksum.isLt
  have hdiff : (checksum - 0x0001).toNat = (65535 + checksum.toNat) % 65536 :=
    BitVec.toNat_sub _ _
  have hrequest : ICMPV6_ECHO_REQUEST.toNat = 128 := rfl
  have hreply : ICMPV6_ECHO_REPLY.toNat = 129 := rfl
  have hzero : checksum ≠ 0 ↔ checksum.toNat ≠ 0 := by
    rw [ne_eq, ← BitVec.toNat_inj]
    rfl
  rw [hzero, total_message, total_message, hdiff, hrequest, hreply]
  -- whether the difference borrows from the second byte, and from behind it
  rcases Nat.eq_zero_or_pos (checksum.toNat % 256) with hbyte | hbyte
  · rcases Nat.eq_zero_or_pos checksum.toNat with hword | hword
    · omega
    · omega
  · omega

/-- The reply to an echo request with a valid checksum is valid, too, if and only if the checksum
field of the request is not zero. -/
theorem icmp6Reply_valid_iff (frame : Frame) (hrequest : frame.IsEchoRequestV6)
    (hvalid : frame.Icmp6Valid) :
    ∃ reply, icmp6Reply frame = some reply ∧
      (reply.Icmp6Valid ↔ frame.u16 (ethhdrSize + ipv6hdrSize + 2) ≠ 0) := by
  have hheader := hrequest.header
  have hlength : ethhdrSize + ipv6hdrSize + icmp6hdrSize ≤ frame.length := by
    have hpacket := hrequest.length
    omega
  have hreplies := icmp6Reply_repliesTo hlength
  refine ⟨_, if_neg (by omega), ?_⟩
  generalize swapMac _ = reply at hreplies ⊢
  obtain ⟨code, rest, hmessage, hreply⟩ := hreplies.message
  have hheaders : ethhdrSize + ipv6hdrSize ≤ frame.length := by omega
  have hreplyHeaders : ethhdrSize + ipv6hdrSize ≤ reply.length := by
    rw [hreplies.length]
    exact hheaders
  -- the length of the message counts its header of eight bytes
  obtain ⟨n, hn⟩ : ∃ n, (frame.be16 (ethhdrSize + 4)).toNat = n + 4 :=
    ⟨(frame.be16 (ethhdrSize + 4)).toNat - 4, by
      unfold icmp6hdrSize at hheader
      omega⟩
  have hold : frame.icmp6Message = ICMPV6_ECHO_REQUEST :: code ::
      (bytes16 (frame.u16 (ethhdrSize + ipv6hdrSize + 2)) ++ rest.take n) := by
    rw [Frame.icmp6Message, Frame.slice, hmessage, hn, hrequest.type]
    rfl
  have hnew : reply.icmp6Message = ICMPV6_ECHO_REPLY :: code ::
      (bytes16 (frame.u16 (ethhdrSize + ipv6hdrSize + 2) - 0x0001) ++ rest.take n) := by
    rw [Frame.icmp6Message, Frame.slice, hreply, be16_of_slice hreplies.payloadLen, hn]
    rfl
  rw [Frame.Icmp6Valid, OnesComplement.sum_eq_allOnes_iff, total_pseudoHeader hheaders, hold]
    at hvalid
  rw [Frame.Icmp6Valid, OnesComplement.sum_eq_allOnes_iff, total_pseudoHeader hreplyHeaders, hnew,
    hreplies.payloadLen, hreplies.saddr, hreplies.daddr,
    Nat.add_comm (total (words (frame.slice (ethhdrSize + 24) 16))),
    ← total_message_lowered code _ (rest.take n), ← hvalid.2]
  exact and_iff_right (by omega)

/-- An IPv6 packet from the first node of a link to the second, with the given ICMP message. -/
def icmp6Frame (message : Frame) : Frame :=
  List.replicate 12 0 ++ [0x86, 0xDD, 0x60, 0, 0, 0, 0, BitVec.ofNat 8 message.length] ++
    [IPPROTO_ICMPV6, 255] ++ ([0xFE, 0x80] ++ List.replicate 13 0 ++ [1]) ++
    ([0xFE, 0x80] ++ List.replicate 13 0 ++ [2]) ++ message

theorem icmp6Reply_valid_ping :
    ∃ reply, icmp6Reply (icmp6Frame [128, 0, 0x82, 0xB8, 0, 0, 0, 0]) = some reply ∧
      (reply.Icmp6Valid ↔ Frame.u16 (icmp6Frame [128, 0, 0x82, 0xB8, 0, 0, 0, 0])
        (ethhdrSize + ipv6hdrSize + 2) ≠ 0) :=
  icmp6Reply_valid_iff (icmp6Frame [128, 0, 0x82, 0xB8, 0, 0, 0, 0])
    ⟨by decide, by decide, by decide, by decide⟩ (by decide)

/-- A request whose other words already add up has a checksum of zero. -/
theorem icmp6Reply_invalid :
    Frame.IsEchoRequestV6 (icmp6Frame [128, 0, 0, 0, 0x82, 0xB8, 0, 0]) ∧
    Frame.Icmp6Valid (icmp6Frame [128, 0, 0, 0, 0x82, 0xB8, 0, 0]) ∧
    ¬ ∃ reply, icmp6Reply (icmp6Frame [128, 0, 0, 0, 0x82, 0xB8, 0, 0]) = some reply ∧
      reply.Icmp6Valid := by
  refine ⟨⟨by decide, by decide, by decide, by decide⟩, by decide, ?_⟩
  rintro ⟨reply, hreply, hvalid⟩
  obtain rfl := Option.some.inj hreply
  revert hvalid
  decide

end Vsoshlb.DataPlane
