import Vsoshlb.DataPlane.EchoReplyV6

/-!
# Time to live

`decrement_ttl` lowers the field first and asks afterwards whether it has become zero. What a field
of zero becomes is 255, and that packet goes on. The checksum of an IPv4 header gains what the field
loses, with the carry brought back in.
-/

namespace Vsoshlb.DataPlane

open OnesComplement (words total)

/-! ## The function -/

/-- The place of `ttl` or `hop_limit` in its header. -/
def ttlField (isIpv6 : Bool) : ℕ := if isIpv6 then 7 else 8

/-- The checksum for a field that is one less. -/
def raiseCheck (check : BitVec 16) : BitVec 16 :=
  let csum : BitVec 32 := check.setWidth 32 + 0x0001#32
  ((csum &&& 0xffff#32) + (csum >>> 16)).setWidth 16

/-- `decrement_ttl`, with `none` for `FURTHER_PROCESSING`, and the frame it leaves. -/
def decrementTtl (frame : Frame) (offset : ℕ) (isIpv6 : Bool) : Option XdpAction × Frame :=
  if isIpv6 then
    if frame.length < offset + ipv6hdrSize then
      (some .drop, frame)
    else
      let hopLimit := frame.byte (offset + 7) - 1
      let frame := frame.write (offset + 7) [hopLimit]
      if hopLimit = 0 then (some .drop, frame) else (none, frame)
  else
    if frame.length < offset + iphdrSize then
      (some .drop, frame)
    else
      let ttl := frame.byte (offset + 8) - 1
      let frame := frame.write (offset + 8) [ttl]
      if ttl = 0 then
        (some .drop, frame)
      else
        (none, frame.write (offset + 10) (bytes16 (raiseCheck (frame.u16 (offset + 10)))))

/-! ## What it is for -/

/-- The length of the IPv4 header at `offset`, which counts itself in words of four bytes. -/
def Frame.ihl (frame : Frame) (offset : ℕ) : ℕ := 4 * (frame.byte offset &&& 0x0F).toNat

/-- The frame has all of the header at `offset`, and the checksum of an IPv4 header is valid. -/
structure Frame.HasHeader (frame : Frame) (offset : ℕ) (isIpv6 : Bool) : Prop where
  ipv6 : isIpv6 = true → offset + ipv6hdrSize ≤ frame.length
  ipv4 : isIpv6 = false → iphdrSize ≤ frame.ihl offset ∧ offset + frame.ihl offset ≤ frame.length ∧
    HeaderValid (frame.slice offset (frame.ihl offset))

/-- A packet without a hop left is dropped. Any other goes on with one hop less, and with a valid
checksum if it has one. -/
structure LowersTtl (frame : Frame) (offset : ℕ) (isIpv6 : Bool) : Prop where
  drop : (decrementTtl frame offset isIpv6).1 = some .drop ↔
    (frame.byte (offset + ttlField isIpv6)).toNat ≤ 1
  forward : 1 < (frame.byte (offset + ttlField isIpv6)).toNat →
    (decrementTtl frame offset isIpv6).1 = none
  ttl : 1 < (frame.byte (offset + ttlField isIpv6)).toNat →
    ((decrementTtl frame offset isIpv6).2.byte (offset + ttlField isIpv6)).toNat + 1 =
      (frame.byte (offset + ttlField isIpv6)).toNat
  length : 1 < (frame.byte (offset + ttlField isIpv6)).toNat →
    (decrementTtl frame offset isIpv6).2.length = frame.length
  others : 1 < (frame.byte (offset + ttlField isIpv6)).toNat → ∀ p, p ≠ offset + ttlField isIpv6 →
    (isIpv6 = false → p ≠ offset + 10 ∧ p ≠ offset + 11) →
      (decrementTtl frame offset isIpv6).2.byte p = frame.byte p
  check : 1 < (frame.byte (offset + ttlField isIpv6)).toNat → isIpv6 = false →
    HeaderValid ((decrementTtl frame offset isIpv6).2.slice offset (frame.ihl offset))

/-! ## The checksum -/

theorem toNat_raiseCheck (check : BitVec 16) :
    (raiseCheck check).toNat = (check.toNat + 1) % 65536 + (check.toNat + 1) / 65536 := by
  have hlt := check.isLt
  have hcsum : (check.setWidth 32 + 0x0001#32).toNat = check.toNat + 1 := by
    rw [BitVec.toNat_add, BitVec.toNat_setWidth_of_le (by decide)]
    exact Nat.mod_eq_of_lt (by simp; omega)
  have hlow : ((check.setWidth 32 + 0x0001#32) &&& 0xffff#32).toNat =
      (check.toNat + 1) % 65536 := by
    rw [BitVec.toNat_and, hcsum]
    exact Nat.and_two_pow_sub_one_eq_mod _ 16
  have hhigh : ((check.setWidth 32 + 0x0001#32) >>> 16).toNat = (check.toNat + 1) / 65536 := by
    rw [BitVec.toNat_ushiftRight, hcsum, Nat.shiftRight_eq_div_pow]
  unfold raiseCheck
  rw [BitVec.toNat_setWidth, BitVec.toNat_add, hlow, hhigh]
  omega

/-- The field loses 1 in the high byte of its word; the checksum gains 1 in its first byte. -/
theorem total_raiseCheck {ttl ttl' : BitVec 8} (httl : ttl'.toNat + 1 = ttl.toNat)
    (protocol : BitVec 8) (check : BitVec 16) (rest : Frame) :
    total (words (ttl' :: protocol :: (bytes16 (raiseCheck check) ++ rest))) % 65535 =
        total (words (ttl :: protocol :: (bytes16 check ++ rest))) % 65535 ∧
      0 < total (words (ttl' :: protocol :: (bytes16 (raiseCheck check) ++ rest))) := by
  have hlt := check.isLt
  rw [total_message, total_message, toNat_raiseCheck]
  -- whether the sum carries into the second byte, and out of it
  rcases Nat.lt_or_ge (check.toNat % 256 + 1) 256 with hbyte | hbyte
  · omega
  · rcases Nat.lt_or_ge (check.toNat + 1) 65536 with hword | hword
    · omega
    · omega

theorem headerValid_raiseCheck {header : Frame} (hlength : iphdrSize ≤ header.length)
    (hvalid : HeaderValid header) {ttl : BitVec 8} (httl : ttl.toNat + 1 = (header.byte 8).toNat) :
    HeaderValid ((header.write 8 [ttl]).write 10 (bytes16 (raiseCheck (header.u16 10)))) := by
  unfold iphdrSize at hlength
  obtain ⟨protocol, rest, hold, -, hnew⟩ := @drop_write_message header 8 (by omega) ttl
  simp only [Nat.reduceAdd] at hold
  have hfront : ((header.write 8 [ttl]).write 10 (bytes16 (raiseCheck (header.u16 10)))).take 8 =
      header.take 8 := by
    have hfirst : (header.write 8 [ttl]).length = header.length :=
      Frame.length_write (by rw [List.length_singleton]; omega)
    have houter := @Frame.slice_write_of_ge (header.write 8 [ttl])
      (bytes16 (raiseCheck (header.u16 10))) 10 8 0 (by omega) (by decide)
    have hinner := @Frame.slice_write_of_ge header [ttl] 8 8 0 (by omega) (by decide)
    exact houter.trans hinner
  have htake : (header.take 8).length % 2 = 0 := by
    rw [List.length_take, min_eq_left (by omega)]
  rw [HeaderValid, OnesComplement.sum_eq_allOnes_iff, ← List.take_append_drop 8 header,
    OnesComplement.words_append htake, OnesComplement.total_append, hold] at hvalid
  rw [HeaderValid, OnesComplement.sum_eq_allOnes_iff, ← List.take_append_drop 8
    ((header.write 8 [ttl]).write 10 _), hfront, OnesComplement.words_append htake,
    OnesComplement.total_append, hnew]
  obtain ⟨hmod, hpos⟩ := total_raiseCheck httl protocol (header.u16 10) rest
  omega

/-! ## The packet afterwards -/

theorem toNat_sub_one (ttl : BitVec 8) (h : ttl ≠ 0) : (ttl - 1).toNat + 1 = ttl.toNat := by
  have hpos : ttl.toNat ≠ 0 := fun hzero ↦ h (BitVec.eq_of_toNat_eq hzero)
  have hsub : (ttl - 1).toNat = (255 + ttl.toNat) % 256 := BitVec.toNat_sub _ _
  have hlt := ttl.isLt
  omega

theorem sub_one_eq_zero_iff (ttl : BitVec 8) : ttl - 1 = 0 ↔ ttl.toNat = 1 := by
  have hsub : (ttl - 1).toNat = (255 + ttl.toNat) % 256 := BitVec.toNat_sub _ _
  have hlt := ttl.isLt
  have hzero : ttl - 1 = 0 ↔ (ttl - 1).toNat = 0 := by
    rw [← BitVec.toNat_inj]
    rfl
  rw [hzero]
  omega

/-- The frame of a packet that goes on. -/
def forwarded (frame : Frame) (offset : ℕ) (isIpv6 : Bool) : Frame :=
  let lowered := frame.write (offset + ttlField isIpv6) [frame.byte (offset + ttlField isIpv6) - 1]
  if isIpv6 then
    lowered
  else
    lowered.write (offset + 10) (bytes16 (raiseCheck (lowered.u16 (offset + 10))))

section Forwarded

variable {frame : Frame} {offset : ℕ} {isIpv6 : Bool} (hheader : frame.HasHeader offset isIpv6)
include hheader

theorem Frame.HasHeader.room : offset + Frame.ipHeaderSize isIpv6 ≤ frame.length := by
  cases isIpv6 with
  | true => exact hheader.ipv6 rfl
  | false =>
    obtain ⟨hsize, hlength, -⟩ := hheader.ipv4 rfl
    exact le_trans (Nat.add_le_add_left hsize offset) hlength

theorem Frame.HasHeader.field_lt :
    offset + ttlField isIpv6 + [frame.byte (offset + ttlField isIpv6) - 1].length ≤
      frame.length := by
  have hfield : ttlField isIpv6 + 1 ≤ Frame.ipHeaderSize isIpv6 := by cases isIpv6 <;> decide
  have hroom := hheader.room
  rw [List.length_singleton]
  omega

theorem Frame.HasHeader.check_lt (hipv4 : isIpv6 = false) : offset + 10 + 2 ≤ frame.length := by
  have hcheck : 10 + 2 ≤ Frame.ipHeaderSize false := by decide
  have hroom := hheader.room
  rw [hipv4] at hroom
  omega

theorem decrementTtl_eq : decrementTtl frame offset isIpv6 =
    if (frame.byte (offset + ttlField isIpv6)).toNat = 1 then
      (some .drop,
        frame.write (offset + ttlField isIpv6) [frame.byte (offset + ttlField isIpv6) - 1])
    else
      (none, forwarded frame offset isIpv6) := by
  have hlong : ¬ frame.length < offset + Frame.ipHeaderSize isIpv6 := Nat.not_lt.mpr hheader.room
  simp only [← sub_one_eq_zero_iff]
  cases isIpv6 with
  | true =>
    rw [decrementTtl, if_pos rfl]
    exact if_neg hlong
  | false =>
    rw [decrementTtl, if_neg Bool.false_ne_true]
    exact if_neg hlong

theorem length_forwarded : (forwarded frame offset isIpv6).length = frame.length := by
  have hlowered := Frame.length_write hheader.field_lt
  cases isIpv6 with
  | true => exact hlowered
  | false =>
    have hcheck := hheader.check_lt rfl
    rw [← hlowered] at hcheck
    exact (Frame.length_write hcheck).trans hlowered

theorem byte_forwarded_of_ne {p : ℕ} (hp : p ≠ offset + ttlField isIpv6)
    (hcheck : isIpv6 = false → p ≠ offset + 10 ∧ p ≠ offset + 11) :
    (forwarded frame offset isIpv6).byte p = frame.byte p := by
  have hfield := hheader.field_lt
  have hlowered := Frame.length_write hfield
  have hbyte : (frame.write (offset + ttlField isIpv6)
      [frame.byte (offset + ttlField isIpv6) - 1]).byte p = frame.byte p := by
    rcases Nat.lt_or_gt_of_ne hp with hbefore | hbehind
    · exact Frame.byte_write_of_lt (by omega) hbefore
    · exact Frame.byte_write_of_ge hfield hbehind
  cases isIpv6 with
  | true => exact hbyte
  | false =>
    obtain ⟨hlow, hhigh⟩ := hcheck rfl
    have hroom := hheader.check_lt rfl
    rw [← hlowered] at hroom
    rcases Nat.lt_or_ge p (offset + 10) with hbefore | hbehind
    · exact (Frame.byte_write_of_lt (by omega) hbefore).trans hbyte
    · have hpast : offset + 10 + 2 ≤ p := by omega
      exact (Frame.byte_write_of_ge hroom hpast).trans hbyte

theorem byte_forwarded :
    (forwarded frame offset isIpv6).byte (offset + ttlField isIpv6) =
      frame.byte (offset + ttlField isIpv6) - 1 := by
  have hfield := hheader.field_lt
  have hlowered := Frame.length_write hfield
  have hbyte := Frame.byte_write_add hfield Nat.one_pos
  cases isIpv6 with
  | true => exact hbyte
  | false =>
    have hroom := hheader.check_lt rfl
    rw [← hlowered] at hroom
    have hbefore : offset + ttlField false + 0 < offset + 10 := by
      simp [ttlField]
    exact (Frame.byte_write_of_lt (by omega) hbefore).trans hbyte

/-- The sum of an IPv4 header stays all ones. -/
theorem headerValid_forwarded (hipv4 : isIpv6 = false)
    (hne : frame.byte (offset + ttlField isIpv6) ≠ 0) :
    HeaderValid ((forwarded frame offset isIpv6).slice offset (frame.ihl offset)) := by
  subst hipv4
  obtain ⟨hsize, hlength, hvalid⟩ := hheader.ipv4 rfl
  have hhdr := Frame.length_slice hlength
  have hfield : offset + 8 + [frame.byte (offset + 8) - 1].length ≤ frame.length :=
    hheader.field_lt
  have hlowered := Frame.length_write hfield
  have hroom := hheader.check_lt rfl
  have hsize' : 20 ≤ frame.ihl offset := hsize
  have httl : (frame.slice offset (frame.ihl offset)).byte 8 = frame.byte (offset + 8) :=
    Frame.byte_slice (by omega)
  have hcheck : (frame.write (offset + 8) [frame.byte (offset + 8) - 1]).u16 (offset + 10) =
      (frame.slice offset (frame.ihl offset)).u16 10 := by
    have hpast : offset + 8 + 1 ≤ offset + 10 := by omega
    rw [Frame.u16, Frame.u16, Frame.byte_write_of_ge hfield hpast,
      Frame.byte_write_of_ge hfield (Nat.le_succ_of_le hpast), Frame.byte_slice (by omega),
      Frame.byte_slice (by omega)]
  have hslice : (forwarded frame offset false).slice offset (frame.ihl offset) =
      ((frame.slice offset (frame.ihl offset)).write 8 [frame.byte (offset + 8) - 1]).write 10
        (bytes16 (raiseCheck ((frame.slice offset (frame.ihl offset)).u16 10))) := by
    have hwithin : 8 + [frame.byte (offset + 8) - 1].length ≤ frame.ihl offset := by
      rw [List.length_singleton]
      omega
    have hwithin' : 10 + 2 ≤ frame.ihl offset := by omega
    rw [← Frame.slice_write_add hwithin hlength, ← hcheck]
    exact Frame.slice_write_add hwithin' (hlowered.symm ▸ hlength)
  rw [hslice]
  apply headerValid_raiseCheck
  · rw [hhdr]
    exact hsize
  · exact hvalid
  · rw [httl]
    exact toNat_sub_one _ hne

/-- The time to live is handled as it should be if and only if it is not zero. -/
theorem decrementTtl_sound_iff :
    LowersTtl frame offset isIpv6 ↔ frame.byte (offset + ttlField isIpv6) ≠ 0 := by
  have hzero : frame.byte (offset + ttlField isIpv6) = 0 ↔
      (frame.byte (offset + ttlField isIpv6)).toNat = 0 := by
    rw [← BitVec.toNat_inj]
    rfl
  constructor
  · intro hlowers hfield
    have hdrop := hlowers.drop.mpr (by rw [hfield]; decide)
    rw [decrementTtl_eq hheader, hfield] at hdrop
    exact absurd hdrop (by simp)
  · intro hne
    have hlowered := toNat_sub_one _ hne
    have heq := decrementTtl_eq hheader
    have hforward (hmore : 1 < (frame.byte (offset + ttlField isIpv6)).toNat) :
        decrementTtl frame offset isIpv6 = (none, forwarded frame offset isIpv6) := by
      rw [heq, if_neg (Nat.ne_of_gt hmore)]
    constructor
    · rw [heq]
      split_ifs with hone
      · simp [hone]
      · simp
        omega
    · intro hmore
      rw [hforward hmore]
    · intro hmore
      rw [hforward hmore, byte_forwarded hheader]
      exact hlowered
    · intro hmore
      rw [hforward hmore]
      exact length_forwarded hheader
    · intro hmore p hp hcheck
      rw [hforward hmore]
      exact byte_forwarded_of_ne hheader hp hcheck
    · intro hmore hipv4
      rw [hforward hmore]
      exact headerValid_forwarded hheader hipv4 hne

end Forwarded

/-- An IPv4 packet that is only a header. -/
def ttlFrame (ttl : BitVec 8) (check : BitVec 16) : Frame :=
  [0x45, 0, 0, 20, 0, 0, 0, 0, ttl, IPPROTO_UDP] ++ bytes16 check ++ List.replicate 8 0

theorem decrementTtl_sound_two :
    LowersTtl (ttlFrame 2 0xDAB8) 0 false ↔
      Frame.byte (ttlFrame 2 0xDAB8) (0 + ttlField false) ≠ 0 :=
  decrementTtl_sound_iff ⟨by decide, by decide⟩

/-- A packet that has no hop left goes on with 255. -/
theorem decrementTtl_wraps :
    Frame.HasHeader (ttlFrame 0 0xDABA) 0 false ∧
    Frame.byte (ttlFrame 0 0xDABA) 8 = 0 ∧
    (decrementTtl (ttlFrame 0 0xDABA) 0 false).1 = none ∧
    (decrementTtl (ttlFrame 0 0xDABA) 0 false).2.byte 8 = 255 ∧
    ¬ LowersTtl (ttlFrame 0 0xDABA) 0 false := by
  refine ⟨⟨by decide, by decide⟩, by decide, by decide, by decide, fun hlowers ↦ ?_⟩
  have hdrop := hlowers.drop.mpr (by decide)
  revert hdrop
  decide

end Vsoshlb.DataPlane
