import Vsoshlb.Library.OnesComplement
import Vsoshlb.DataPlane.Encap

/-!
# Echo replies

`send_icmp_reply` answers an echo request in place. The type of the message goes from 8 to 0, and
instead of a new checksum the old one is increased by 8, in the byte order of the machine. One's
complement arithmetic would bring a carry of that addition back in; the 16 bits of the field lose
it. A reply is valid exactly where there is none.
-/

namespace Vsoshlb.DataPlane

open OnesComplement (words total)

/-! ## Writing to a frame -/

def ICMP_ECHO : BitVec 8 := 8

def ICMP_ECHOREPLY : BitVec 8 := 0

namespace Frame

/-- `memcpy` to position `i`. -/
def write (frame : Frame) (i : ℕ) (bytes : Frame) : Frame :=
  frame.take i ++ bytes ++ frame.drop (i + bytes.length)

def slice (frame : Frame) (i n : ℕ) : Frame := (frame.drop i).take n

variable {frame bytes : Frame} {i n p : ℕ}

theorem length_slice (h : i + n ≤ frame.length) : (frame.slice i n).length = n := by
  rw [slice, List.length_take, List.length_drop]
  omega

theorem length_write (h : i + bytes.length ≤ frame.length) :
    (frame.write i bytes).length = frame.length := by
  rw [write, List.length_append, List.length_append, List.length_take, List.length_drop]
  omega

theorem drop_write_of_le (h : i + bytes.length ≤ frame.length) (hle : i + bytes.length ≤ n) :
    (frame.write i bytes).drop n = frame.drop n := by
  have hlength : (frame.take i ++ bytes).length = i + bytes.length := by
    rw [List.length_append, List.length_take]
    omega
  rw [write, List.drop_append, List.drop_eq_nil_of_le (by omega), List.nil_append, hlength,
    List.drop_drop]
  congr 1
  omega

theorem drop_write_of_ge (h : i ≤ frame.length) (hge : n ≤ i) :
    (frame.write i bytes).drop n = Frame.write (frame.drop n) (i - n) bytes := by
  have htake : (frame.take i).length = i := by
    rw [List.length_take]
    omega
  rw [write, write, List.append_assoc, List.drop_append, htake, Nat.sub_eq_zero_of_le hge,
    List.drop_zero, List.append_assoc, List.drop_take, List.drop_drop]
  congr 3
  omega

theorem write_write {bytes' : Frame} (hsame : bytes'.length = bytes.length)
    (h : i + bytes.length ≤ frame.length) :
    (frame.write i bytes).write i bytes' = frame.write i bytes' := by
  have htake : (frame.take i).length = i := by
    rw [List.length_take]
    omega
  have hfront : (frame.write i bytes).take i = frame.take i := by
    rw [write, List.append_assoc, List.take_left' htake]
  have hrest : (frame.write i bytes).drop (i + bytes'.length) =
      frame.drop (i + bytes'.length) := by
    rw [hsame]
    exact drop_write_of_le h (le_refl _)
  calc
    _ = (frame.write i bytes).take i ++ bytes' ++
        (frame.write i bytes).drop (i + bytes'.length) := rfl
    _ = frame.take i ++ bytes' ++ frame.drop (i + bytes'.length) := by rw [hfront, hrest]
    _ = frame.write i bytes' := rfl

theorem byte_drop (frame : Frame) (n i : ℕ) : Frame.byte (frame.drop n) i = frame.byte (n + i) := by
  simp [byte, List.getD_eq_getElem?_getD]

theorem byte_write_of_lt (h : i ≤ frame.length) (hp : p < i) :
    (frame.write i bytes).byte p = frame.byte p := by
  have htake : p < (frame.take i).length := by
    rw [List.length_take]
    omega
  rw [byte, byte, List.getD_eq_getElem?_getD, List.getD_eq_getElem?_getD, write,
    List.append_assoc, List.getElem?_append_left htake, List.getElem?_take_of_lt hp]

theorem byte_write_of_ge (h : i + bytes.length ≤ frame.length) (hp : i + bytes.length ≤ p) :
    (frame.write i bytes).byte p = frame.byte p := by
  have hdrop := byte_drop (frame.write i bytes) p 0
  rw [drop_write_of_le h hp, byte_drop] at hdrop
  exact hdrop.symm

theorem byte_write_add (h : i + bytes.length ≤ frame.length) (hp : p < bytes.length) :
    (frame.write i bytes).byte (i + p) = bytes.byte p := by
  have hdrop := byte_drop (frame.write i bytes) i p
  rw [drop_write_of_ge (by omega) (le_refl i), Nat.sub_self, write, List.take_zero,
    List.nil_append, Nat.zero_add] at hdrop
  rw [← hdrop, byte, byte, List.getD_eq_getElem?_getD, List.getD_eq_getElem?_getD,
    List.getElem?_append_left hp]

theorem byte_slice (hp : p < n) : Frame.byte (frame.slice i n) p = frame.byte (i + p) := by
  rw [← byte_drop, slice, byte, byte, List.getD_eq_getElem?_getD, List.getD_eq_getElem?_getD,
    List.getElem?_take_of_lt hp]

theorem slice_write_of_le (h : i + bytes.length ≤ frame.length) (hp : i + bytes.length ≤ p) :
    (frame.write i bytes).slice p n = frame.slice p n := by
  rw [slice, drop_write_of_le h hp, slice]

theorem slice_write_of_ge (h : i ≤ frame.length) (hp : p + n ≤ i) :
    (frame.write i bytes).slice p n = frame.slice p n := by
  rw [slice, drop_write_of_ge h (by omega), slice, write, List.append_assoc,
    List.take_append_of_le_length (by rw [List.length_take, List.length_drop]; omega),
    List.take_take, min_eq_left (by omega)]

/-- A write within a slice. -/
theorem slice_write_add (hi : i + bytes.length ≤ n) (hp : p + n ≤ frame.length) :
    (frame.write (p + i) bytes).slice p n = Frame.write (frame.slice p n) i bytes := by
  have hlength : n ≤ (frame.drop p).length := by
    rw [List.length_drop]
    omega
  rw [slice, drop_write_of_ge (by omega) (Nat.le_add_right p i), Nat.add_sub_cancel_left, slice]
  generalize frame.drop p = rest at hlength ⊢
  have htake : (rest.take i).length = i := by
    rw [List.length_take]
    omega
  have hfront : (rest.take i).take n = (rest.take n).take i := by
    rw [List.take_take, List.take_take, min_comm]
  have hbytes : bytes.take (n - i) = bytes := List.take_of_length_le (by omega)
  rw [write, write, List.append_assoc, List.append_assoc, List.take_append, List.take_append, htake,
    hfront, hbytes, List.drop_take, Nat.sub_sub]

theorem slice_write_self (h : i ≤ frame.length) (hbytes : bytes.length = n) :
    (frame.write i bytes).slice i n = bytes := by
  rw [slice, drop_write_of_ge h (le_refl i), Nat.sub_self, write, List.take_zero, List.nil_append,
    ← hbytes, List.take_left']
  rfl

/-- Two fields of `n` bytes are exchanged. -/
def exchange (frame : Frame) (i j n : ℕ) : Frame :=
  (frame.write i (frame.slice j n)).write j (frame.slice i n)

section Exchange

variable {j m : ℕ} (hi : i + n ≤ frame.length) (hj : j + n ≤ frame.length)
include hi hj

theorem length_write_slice : (frame.write i (frame.slice j n)).length = frame.length :=
  length_write (by rw [length_slice hj]; exact hi)

theorem length_exchange : (frame.exchange i j n).length = frame.length := by
  have hfirst := length_write_slice hi hj
  rw [exchange, length_write (by rw [length_slice hi, hfirst]; exact hj), hfirst]

theorem drop_exchange (hip : i + n ≤ p) (hjp : j + n ≤ p) :
    (frame.exchange i j n).drop p = frame.drop p := by
  have hfirst := length_write_slice hi hj
  rw [exchange, drop_write_of_le (by rw [length_slice hi, hfirst]; exact hj)
    (by rw [length_slice hi]; exact hjp), drop_write_of_le (by rw [length_slice hj]; exact hi)
    (by rw [length_slice hj]; exact hip)]

/-- What lies beside both fields stays. -/
theorem slice_exchange_of_disjoint (hip : i + n ≤ p ∨ p + m ≤ i) (hjp : j + n ≤ p ∨ p + m ≤ j) :
    (frame.exchange i j n).slice p m = frame.slice p m := by
  have hfirst := length_write_slice hi hj
  have hsecond : (frame.write i (frame.slice j n)).slice p m = frame.slice p m := by
    rcases hip with hbehind | hbefore
    · exact slice_write_of_le (by rw [length_slice hj]; exact hi)
        (by rw [length_slice hj]; exact hbehind)
    · exact slice_write_of_ge (by omega) hbefore
  rw [exchange, ← hsecond]
  rcases hjp with hbehind | hbefore
  · exact slice_write_of_le (by rw [length_slice hi, hfirst]; exact hj)
      (by rw [length_slice hi]; exact hbehind)
  · exact slice_write_of_ge (by omega) hbefore

theorem slice_exchange_right : (frame.exchange i j n).slice j n = frame.slice i n := by
  have hfirst := length_write_slice hi hj
  exact slice_write_self (by omega) (length_slice hi)

theorem slice_exchange_left (hdisjoint : i + n ≤ j ∨ j + n ≤ i) :
    (frame.exchange i j n).slice i n = frame.slice j n := by
  have hfirst := length_write_slice hi hj
  have hsecond : (frame.write i (frame.slice j n)).slice i n = frame.slice j n :=
    slice_write_self (by omega) (length_slice hj)
  rw [exchange]
  rcases hdisjoint with hbefore | hbehind
  · rw [slice_write_of_ge (by omega) hbefore, hsecond]
  · rw [slice_write_of_le (by rw [length_slice hi, hfirst]; exact hj)
      (by rw [length_slice hi]; exact hbehind), hsecond]

end Exchange

end Frame

/-! ## The reply -/

/-- `swap_mac_and_send`. -/
def swapMac (frame : Frame) : Frame :=
  (frame.write 6 (frame.slice 0 6)).write 0 (frame.slice 6 6)

def setEchoReply (frame : Frame) : Frame :=
  frame.write (ethhdrSize + iphdrSize) [ICMP_ECHOREPLY]

/-- `icmp_hdr->checksum += 0x0008`. -/
def adjustChecksum (frame : Frame) : Frame :=
  frame.write (ethhdrSize + iphdrSize + 2)
    (bytes16 (frame.u16 (ethhdrSize + iphdrSize + 2) + 0x0008))

def setTtl (frame : Frame) : Frame := frame.write (ethhdrSize + 8) [DEFAULT_TTL]

def swapAddresses (frame : Frame) : Frame :=
  (frame.write (ethhdrSize + 16) (frame.slice (ethhdrSize + 12) 4)).write (ethhdrSize + 12)
    (frame.slice (ethhdrSize + 16) 4)

/-- The checksum of the IPv4 header is zeroed, and then set to what `ipv4_csum_inline` leaves in
`csum`, which is the zero that it was. -/
def clearCheck (frame : Frame) : Frame := frame.write (ethhdrSize + 10) (bytes16 0)

/-- The frame that `send_icmp_reply` leaves, with `none` for `XDP_DROP`. -/
def icmpReply (frame : Frame) : Option Frame :=
  if frame.length < ethhdrSize + iphdrSize + icmphdrSize then
    none
  else
    some (swapMac (clearCheck (swapAddresses (setTtl (adjustChecksum (setEchoReply frame))))))

/-- `send_icmp_reply` ends in `XDP_TX` where there is a reply. -/
theorem sendIcmpReply_eq (frame : Frame) :
    sendIcmpReply frame iphdrSize =
      EarlyExit.Prog.exit (if (icmpReply frame).isSome then .tx else .drop) := by
  unfold sendIcmpReply icmpReply
  funext m
  by_cases hshort : frame.length < ethhdrSize + iphdrSize + icmphdrSize
  · rw [if_pos hshort]
    exact EarlyExit.Prog.exitIf_bind_of_pos hshort _ _ m
  · rw [if_neg hshort]
    exact EarlyExit.Prog.exitIf_bind_of_neg hshort _ _ m

/-! ## The message of a reply -/

/-- The ICMP message, as long as the IPv4 header says. -/
def Frame.icmpMessage (frame : Frame) : Frame :=
  frame.slice (ethhdrSize + iphdrSize) ((frame.be16 (ethhdrSize + 2)).toNat - iphdrSize)

/-- The one's-complement sum of the message is all ones. -/
def Frame.IcmpValid (frame : Frame) : Prop :=
  OnesComplement.sum (words frame.icmpMessage) = 0xFFFF

instance (frame : Frame) : Decidable frame.IcmpValid :=
  inferInstanceAs (Decidable (OnesComplement.sum (words frame.icmpMessage) = 0xFFFF))

/-- An echo request in an IPv4 packet, with all of its message. -/
structure Frame.IsEchoRequest (frame : Frame) : Prop where
  header : iphdrSize + icmphdrSize ≤ (frame.be16 (ethhdrSize + 2)).toNat
  length : ethhdrSize + (frame.be16 (ethhdrSize + 2)).toNat ≤ frame.length
  type : frame.byte (ethhdrSize + iphdrSize) = ICMP_ECHO

/-- A frame with the same message, up to its length field. -/
structure SameMessage (frame frame' : Frame) : Prop where
  length : frame'.length = frame.length
  message : frame'.drop (ethhdrSize + iphdrSize) = frame.drop (ethhdrSize + iphdrSize)
  totLen : frame'.be16 (ethhdrSize + 2) = frame.be16 (ethhdrSize + 2)

theorem SameMessage.trans {a b c : Frame} (hab : SameMessage a b) (hbc : SameMessage b c) :
    SameMessage a c where
  length := hbc.length.trans hab.length
  message := hbc.message.trans hab.message
  totLen := hbc.totLen.trans hab.totLen

/-- A write in front of the message and beside the length field. -/
theorem sameMessage_write {frame bytes : Frame} {i : ℕ}
    (hlength : ethhdrSize + iphdrSize ≤ frame.length)
    (hout : i + bytes.length ≤ ethhdrSize + 2 ∨
      ethhdrSize + 4 ≤ i ∧ i + bytes.length ≤ ethhdrSize + iphdrSize) :
    SameMessage frame (frame.write i bytes) := by
  unfold ethhdrSize iphdrSize at *
  have hfits : i + bytes.length ≤ frame.length := by omega
  have hmessage : i + bytes.length ≤ ethhdrSize + iphdrSize := by
    unfold ethhdrSize iphdrSize
    omega
  refine ⟨Frame.length_write hfits, Frame.drop_write_of_le hfits hmessage, ?_⟩
  unfold Frame.be16 ethhdrSize
  rcases hout with hbefore | ⟨hbehind, -⟩
  · rw [Frame.byte_write_of_ge hfits hbefore, Frame.byte_write_of_ge hfits (by omega)]
  · rw [Frame.byte_write_of_lt (by omega) (by omega), Frame.byte_write_of_lt (by omega) (by omega)]

section Steps

variable {frame : Frame} (hlength : ethhdrSize + iphdrSize ≤ frame.length)
include hlength

theorem sameMessage_setTtl : SameMessage frame (setTtl frame) :=
  sameMessage_write hlength (by simp [ethhdrSize, iphdrSize])

theorem sameMessage_clearCheck : SameMessage frame (clearCheck frame) :=
  sameMessage_write hlength (by simp [ethhdrSize, iphdrSize, bytes16])

/-- An exchange of two fields in front of the message and beside the length field. -/
theorem sameMessage_exchange {i j n : ℕ}
    (hi : i + n ≤ ethhdrSize + 2 ∨ ethhdrSize + 4 ≤ i ∧ i + n ≤ ethhdrSize + iphdrSize)
    (hj : j + n ≤ ethhdrSize + 2 ∨ ethhdrSize + 4 ≤ j ∧ j + n ≤ ethhdrSize + iphdrSize) :
    SameMessage frame (frame.exchange i j n) := by
  have hroom (p : ℕ)
      (hp : p + n ≤ ethhdrSize + 2 ∨ ethhdrSize + 4 ≤ p ∧ p + n ≤ ethhdrSize + iphdrSize) :
      (frame.slice p n).length = n := by
    unfold ethhdrSize iphdrSize at *
    exact Frame.length_slice (by omega)
  have hfirst : SameMessage frame (frame.write i (frame.slice j n)) :=
    sameMessage_write hlength (by rw [hroom j hj]; exact hi)
  have hsecond : SameMessage (frame.write i (frame.slice j n)) (frame.exchange i j n) :=
    sameMessage_write (by rw [hfirst.length]; exact hlength) (by rw [hroom i hi]; exact hj)
  exact hfirst.trans hsecond

theorem sameMessage_swapAddresses : SameMessage frame (swapAddresses frame) :=
  sameMessage_exchange hlength (by decide) (by decide)

theorem sameMessage_swapMac : SameMessage frame (swapMac frame) :=
  sameMessage_exchange hlength (by decide) (by decide)

end Steps

theorem sameMessage_replyHeaders {frame : Frame}
    (hlength : ethhdrSize + iphdrSize ≤ frame.length) :
    SameMessage frame (swapMac (clearCheck (swapAddresses (setTtl frame)))) := by
  have hsetTtl := sameMessage_setTtl hlength
  have hswap := sameMessage_swapAddresses (hsetTtl.length ▸ hlength)
  have hclear := sameMessage_clearCheck (hswap.length ▸ hsetTtl.length ▸ hlength)
  have hmac := sameMessage_swapMac (hclear.length ▸ hswap.length ▸ hsetTtl.length ▸ hlength)
  exact hsetTtl.trans (hswap.trans (hclear.trans hmac))

/-- The type and the checksum of the message at position `i` are replaced. -/
theorem drop_write_message {frame : Frame} {i : ℕ} (h : i + 4 ≤ frame.length) (type : BitVec 8) :
    ∃ code rest, frame.drop i = frame.byte i :: code :: (bytes16 (frame.u16 (i + 2)) ++ rest) ∧
      (frame.write i [type]).u16 (i + 2) = frame.u16 (i + 2) ∧
      ∀ checksum, ((frame.write i [type]).write (i + 2) (bytes16 checksum)).drop i =
        type :: code :: (bytes16 checksum ++ rest) := by
  have hroom : i + [type].length ≤ frame.length := by
    rw [List.length_singleton]
    omega
  have hlength : (frame.write i [type]).length = frame.length := Frame.length_write hroom
  have hbytes : bytes16 (frame.u16 (i + 2)) = [frame.byte (i + 2), frame.byte (i + 3)] := by
    unfold bytes16 Frame.u16
    rw [BitVec.extractLsb'_append_eq_of_add_le (by decide),
      BitVec.extractLsb'_append_eq_of_le (by decide), BitVec.extractLsb'_eq_self,
      BitVec.extractLsb'_eq_self]
  obtain ⟨old, code, low, high, rest, hmessage⟩ :
      ∃ old code low high rest, frame.drop i = old :: code :: low :: high :: rest := by
    have hsome : 4 ≤ (frame.drop i).length := by
      rw [List.length_drop]
      omega
    generalize frame.drop i = message at hsome ⊢
    rcases message with _ | ⟨old, _ | ⟨code, _ | ⟨low, _ | ⟨high, rest⟩⟩⟩⟩
    · exact absurd hsome (by simp)
    · exact absurd hsome (by simp)
    · exact absurd hsome (by simp)
    · exact absurd hsome (by simp)
    · exact ⟨old, code, low, high, rest, rfl⟩
  have hbyte : ∀ p, frame.byte (i + p) = Frame.byte (old :: code :: low :: high :: rest) p :=
    fun p ↦ by rw [← hmessage, Frame.byte_drop]
  have hfirst : (frame.write i [type]).drop i = type :: code :: low :: high :: rest := by
    rw [Frame.drop_write_of_ge (by omega) (le_refl i), hmessage, Nat.sub_self]
    rfl
  refine ⟨code, rest, ?_, ?_, fun checksum ↦ ?_⟩
  · have hold := hbyte 0
    rw [Nat.add_zero] at hold
    rw [hmessage, hbytes, hold, hbyte 2, hbyte 3]
    rfl
  · have hbehind : i + [type].length ≤ i + 2 := Nat.le_succ _
    unfold Frame.u16
    rw [Frame.byte_write_of_ge hroom (by omega), Frame.byte_write_of_ge hroom hbehind]
  · rw [Frame.drop_write_of_ge (by rw [hlength]; omega) (Nat.le_add_right i 2), hfirst,
      Nat.add_sub_cancel_left]
    rfl

/-- The two writes to the message. -/
theorem adjustChecksum_setEchoReply {frame : Frame}
    (hlength : ethhdrSize + iphdrSize + icmphdrSize ≤ frame.length) :
    ∃ code rest, frame.drop (ethhdrSize + iphdrSize) =
        frame.byte (ethhdrSize + iphdrSize) :: code ::
          (bytes16 (frame.u16 (ethhdrSize + iphdrSize + 2)) ++ rest) ∧
      (adjustChecksum (setEchoReply frame)).drop (ethhdrSize + iphdrSize) =
        ICMP_ECHOREPLY :: code ::
          (bytes16 (frame.u16 (ethhdrSize + iphdrSize + 2) + 0x0008) ++ rest) ∧
      (adjustChecksum (setEchoReply frame)).length = frame.length ∧
      (adjustChecksum (setEchoReply frame)).be16 (ethhdrSize + 2) =
        frame.be16 (ethhdrSize + 2) := by
  obtain ⟨code, rest, hmessage, hchecksum, hreply⟩ :=
    @drop_write_message frame (ethhdrSize + iphdrSize) (by unfold icmphdrSize at hlength; omega)
      ICMP_ECHOREPLY
  have htype : (setEchoReply frame).length = frame.length :=
    Frame.length_write (by unfold icmphdrSize at hlength; rw [List.length_singleton]; omega)
  unfold ethhdrSize iphdrSize icmphdrSize at hlength
  refine ⟨code, rest, hmessage, ?_, ?_, ?_⟩
  · unfold adjustChecksum setEchoReply
    rw [hchecksum]
    exact hreply _
  · unfold adjustChecksum ethhdrSize iphdrSize
    rw [Frame.length_write (by rw [htype]; simp [bytes16]; omega), htype]
  · unfold adjustChecksum ethhdrSize iphdrSize Frame.be16
    rw [Frame.byte_write_of_lt (by rw [htype]; omega) (by decide),
      Frame.byte_write_of_lt (by rw [htype]; omega) (by decide)]
    unfold setEchoReply ethhdrSize iphdrSize
    rw [Frame.byte_write_of_lt (by omega) (by decide),
      Frame.byte_write_of_lt (by omega) (by decide)]

/-! ## The checksum of a reply -/

theorem total_message (type code : BitVec 8) (checksum : BitVec 16) (rest : Frame) :
    total (words (type :: code :: (bytes16 checksum ++ rest))) =
      type.toNat * 256 + code.toNat +
        (checksum.toNat % 256 * 256 + checksum.toNat / 256 + total (words rest)) := by
  have hbytes : bytes16 checksum ++ rest =
      checksum.extractLsb' 0 8 :: checksum.extractLsb' 8 8 :: rest := rfl
  rw [hbytes, words, words, OnesComplement.total_cons, OnesComplement.total_cons,
    OnesComplement.toNat_append, OnesComplement.toNat_append, OnesComplement.toNat_low,
    OnesComplement.toNat_high]

/-- The type loses 8 in the high byte of its word; the checksum gains 8 in its first byte, and what
a carry from one byte to the other moves is a multiple of `2 ^ 16 - 1`. -/
theorem total_reply (code : BitVec 8) (checksum : BitVec 16) (rest : Frame)
    (hvalid : total (words (ICMP_ECHO :: code :: (bytes16 checksum ++ rest))) % 65535 = 0) :
    (0 < total (words (ICMP_ECHOREPLY :: code :: (bytes16 (checksum + 0x0008) ++ rest))) ∧
      total (words (ICMP_ECHOREPLY :: code :: (bytes16 (checksum + 0x0008) ++ rest))) % 65535 =
        0) ↔ checksum.toNat < 0xFFF8 := by
  have hlt := checksum.isLt
  have hsum : (checksum + 0x0008).toNat = (checksum.toNat + 8) % 65536 := BitVec.toNat_add _ _
  have hecho : ICMP_ECHO.toNat = 8 := rfl
  have hreply : ICMP_ECHOREPLY.toNat = 0 := rfl
  rw [total_message, hecho] at hvalid
  rw [total_message, hreply, hsum]
  -- whether the sum carries into the second byte, and out of it
  rcases Nat.lt_or_ge (checksum.toNat % 256 + 8) 256 with hbyte | hbyte
  · omega
  · rcases Nat.lt_or_ge (checksum.toNat + 8) 65536 with hword | hword
    · omega
    · omega

/-- The reply to an echo request with a valid checksum is valid, too, if and only if the checksum
field, read as a little-endian number, is below `0xFFF8`. -/
theorem icmpReply_valid_iff (frame : Frame) (hrequest : frame.IsEchoRequest)
    (hvalid : frame.IcmpValid) :
    ∃ reply, icmpReply frame = some reply ∧
      (reply.IcmpValid ↔ (frame.u16 (ethhdrSize + iphdrSize + 2)).toNat < 0xFFF8) := by
  have hheader := hrequest.header
  have hlength : ethhdrSize + iphdrSize + icmphdrSize ≤ frame.length := by
    have := hrequest.length
    omega
  obtain ⟨code, rest, hmessage, hreply, hsame, htotLen⟩ := adjustChecksum_setEchoReply hlength
  have hheaders := @sameMessage_replyHeaders (adjustChecksum (setEchoReply frame))
    (by rw [hsame]; omega)
  refine ⟨_, if_neg (by omega), ?_⟩
  generalize swapMac _ = reply at hheaders ⊢
  rw [Frame.IcmpValid, OnesComplement.sum_eq_allOnes_iff, Frame.icmpMessage, Frame.slice,
    hmessage, hrequest.type] at hvalid
  rw [Frame.IcmpValid, OnesComplement.sum_eq_allOnes_iff, Frame.icmpMessage, Frame.slice,
    hheaders.message, hheaders.totLen, htotLen, hreply]
  -- the length of the message counts its header of eight bytes
  obtain ⟨n, hn⟩ : ∃ n, (frame.be16 (ethhdrSize + 2)).toNat - iphdrSize = n + 4 :=
    ⟨(frame.be16 (ethhdrSize + 2)).toNat - iphdrSize - 4, by
      unfold icmphdrSize at hheader
      omega⟩
  rw [hn] at hvalid ⊢
  exact total_reply code _ (rest.take n) hvalid.2

/-- An IPv4 packet with the given ICMP message. -/
def icmpFrame (message : Frame) : Frame :=
  List.replicate 12 0 ++ [8, 0, 0x45, 0, 0, 20 + BitVec.ofNat 8 message.length] ++
    List.replicate 5 0 ++ [IPPROTO_ICMP] ++ List.replicate 10 0 ++ message

theorem icmpReply_valid_below :
    ∃ reply, icmpReply (icmpFrame [8, 0, 0xF7, 0xFF, 0, 0, 0, 0]) = some reply ∧
      (reply.IcmpValid ↔ (Frame.u16 (icmpFrame [8, 0, 0xF7, 0xFF, 0, 0, 0, 0])
        (ethhdrSize + iphdrSize + 2)).toNat < 0xFFF8) :=
  icmpReply_valid_iff (icmpFrame [8, 0, 0xF7, 0xFF, 0, 0, 0, 0])
    ⟨by decide, by decide, by decide⟩ (by decide)

/-- The next checksum loses its carry. -/
theorem icmpReply_invalid :
    Frame.IsEchoRequest (icmpFrame [8, 0, 0xF8, 0xFF, 0xFE, 0xFF, 0, 0]) ∧
    Frame.IcmpValid (icmpFrame [8, 0, 0xF8, 0xFF, 0xFE, 0xFF, 0, 0]) ∧
    ¬ ∃ reply, icmpReply (icmpFrame [8, 0, 0xF8, 0xFF, 0xFE, 0xFF, 0, 0]) = some reply ∧
      reply.IcmpValid := by
  refine ⟨⟨by decide, by decide, by decide⟩, by decide, ?_⟩
  rintro ⟨reply, hreply, hvalid⟩
  obtain rfl := Option.some.inj hreply
  revert hvalid
  decide

end Vsoshlb.DataPlane
