import Vsoshlb.DataPlane.EchoReply

/-!
# Checksums

`csum_fold_helper` brings the carries of a 64-bit sum back in, four times, and returns the
complement of what is left. Four times are enough for every sum, so the result completes the words
that were added to a valid list.
-/

namespace Vsoshlb.DataPlane

open OnesComplement (Agrees total)

/-! ## Folding -/

/-- One round of the loop. -/
def foldCarries (csum : BitVec 64) : BitVec 64 :=
  if csum >>> 16 ≠ 0 then (csum &&& 0xffff#64) + (csum >>> 16) else csum

/-- What the loop of `csum_fold_helper` leaves in `csum`. -/
def foldCsum (csum : BitVec 64) : BitVec 64 :=
  (List.range 4).foldl (fun csum _ ↦ foldCarries csum) csum

/-- `csum_fold_helper`. -/
def csumFoldHelper (csum : BitVec 64) : BitVec 16 := (~~~ foldCsum csum).setWidth 16

/-- Words added to a 64-bit sum, one after the other. -/
def addWords (csum : BitVec 64) (words : List (BitVec 16)) : BitVec 64 :=
  words.foldl (fun csum word ↦ csum + word.setWidth 64) csum

/-- The four words of a 64-bit value. -/
def csumWords (csum : BitVec 64) : List (BitVec 16) :=
  (List.range 4).map fun i ↦ csum.extractLsb' (16 * i) 16

theorem toNat_foldCarries (csum : BitVec 64) :
    (foldCarries csum).toNat = csum.toNat % 65536 + csum.toNat / 65536 := by
  have hlt := csum.isLt
  have hhigh : (csum >>> 16).toNat = csum.toNat / 65536 := by
    rw [BitVec.toNat_ushiftRight, Nat.shiftRight_eq_div_pow]
  have hlow : (csum &&& 0xffff#64).toNat = csum.toNat % 65536 := by
    rw [BitVec.toNat_and]
    exact Nat.and_two_pow_sub_one_eq_mod csum.toNat 16
  unfold foldCarries
  split_ifs with hcarry
  · rw [BitVec.toNat_add, hlow, hhigh]
    omega
  · have hzero : (csum >>> 16).toNat = 0 := by
      rw [not_not.mp hcarry]
      rfl
    omega

/-- A round takes sixteen bits off the bound. -/
theorem foldCarries_le {csum : BitVec 64} {n : ℕ} (h : csum.toNat ≤ 65536 * n + 65534) :
    (foldCarries csum).toNat ≤ n + 65534 := by
  rw [toNat_foldCarries]
  omega

/-- A round keeps the one's-complement sum. -/
theorem foldCarries_mod (csum : BitVec 64) :
    (foldCarries csum).toNat % 65535 = csum.toNat % 65535 ∧
      ((foldCarries csum).toNat = 0 ↔ csum.toNat = 0) := by
  rw [toNat_foldCarries]
  omega

theorem foldCsum_le (csum : BitVec 64) : (foldCsum csum).toNat ≤ 0xFFFF := by
  have hlt := csum.isLt
  have h₁ : (foldCarries csum).toNat ≤ 2 ^ 48 + 65534 := foldCarries_le (by omega)
  have h₂ : (foldCarries (foldCarries csum)).toNat ≤ 2 ^ 32 + 65534 := foldCarries_le (by omega)
  have h₃ : (foldCarries (foldCarries (foldCarries csum))).toNat ≤ 2 ^ 16 + 65534 :=
    foldCarries_le (by omega)
  exact foldCarries_le (n := 1) (by omega)

theorem foldCsum_mod (csum : BitVec 64) :
    (foldCsum csum).toNat % 65535 = csum.toNat % 65535 ∧
      ((foldCsum csum).toNat = 0 ↔ csum.toNat = 0) := by
  have hround (rounds : List ℕ) (csum : BitVec 64) :
      (rounds.foldl (fun csum _ ↦ foldCarries csum) csum).toNat % 65535 = csum.toNat % 65535 ∧
        ((rounds.foldl (fun csum _ ↦ foldCarries csum) csum).toNat = 0 ↔ csum.toNat = 0) := by
    induction rounds generalizing csum with
    | nil => exact ⟨rfl, Iff.rfl⟩
    | cons round rounds ih =>
      obtain ⟨hmod, hzero⟩ := ih (foldCarries csum)
      obtain ⟨hmod', hzero'⟩ := foldCarries_mod csum
      exact ⟨hmod.trans hmod', hzero.trans hzero'⟩
  exact hround (List.range 4) csum

/-- What is left after the loop is the one's-complement sum of everything that was added. -/
theorem foldCsum_agrees (csum : BitVec 64) : Agrees ((foldCsum csum).setWidth 16) csum.toNat := by
  have hle := foldCsum_le csum
  have hwidth : ((foldCsum csum).setWidth 16).toNat = (foldCsum csum).toNat := by
    rw [BitVec.toNat_setWidth]
    exact Nat.mod_eq_of_lt (by omega)
  unfold Agrees
  rw [hwidth]
  exact foldCsum_mod csum

theorem csumFoldHelper_eq_not (csum : BitVec 64) :
    csumFoldHelper csum = ~~~ (foldCsum csum).setWidth 16 :=
  BitVec.setWidth_not (by decide)

theorem toNat_addWords {words : List (BitVec 16)} {csum : BitVec 64}
    (h : csum.toNat + total words < 2 ^ 64) :
    (addWords csum words).toNat = csum.toNat + total words := by
  induction words generalizing csum with
  | nil => rfl
  | cons word words ih =>
    rw [OnesComplement.total_cons] at h ⊢
    have hword : (word.setWidth 64).toNat = word.toNat :=
      BitVec.toNat_setWidth_of_le (by decide)
    have hadd : (csum + word.setWidth 64).toNat = csum.toNat + word.toNat := by
      rw [BitVec.toNat_add, hword]
      exact Nat.mod_eq_of_lt (by omega)
    have hrest := @ih (csum + word.setWidth 64) (by omega)
    rw [hadd] at hrest
    exact hrest.trans (Nat.add_assoc _ _ _)

/-- The low word of a number and words that stand for the rest of it stand for the number. -/
theorem mod_add_of_div {n rest : ℕ} (hmod : rest % 65535 = n / 65536 % 65535)
    (hzero : rest = 0 ↔ n / 65536 = 0) :
    (n % 65536 + rest) % 65535 = n % 65535 ∧ (n % 65536 + rest = 0 ↔ n = 0) := by
  omega

theorem total_csumWords (csum : BitVec 64) :
    total (csumWords csum) % 65535 = csum.toNat % 65535 ∧
      (total (csumWords csum) = 0 ↔ csum.toNat = 0) := by
  have htotal : total (csumWords csum) = csum.toNat % 65536 + (csum.toNat / 65536 % 65536 +
      (csum.toNat / 65536 / 65536 % 65536 + csum.toNat / 65536 / 65536 / 65536)) := by
    have hlt := csum.isLt
    have hhigh : csum.toNat / 65536 / 65536 / 65536 % 65536 =
        csum.toNat / 65536 / 65536 / 65536 := by omega
    rw [← hhigh]
    simp [csumWords, List.range_succ, Nat.shiftRight_eq_div_pow, total, Nat.div_div_eq_div_mul]
  rw [htotal]
  obtain ⟨hmod₂, hzero₂⟩ := @mod_add_of_div (csum.toNat / 65536 / 65536) _ rfl Iff.rfl
  obtain ⟨hmod₁, hzero₁⟩ := mod_add_of_div hmod₂ hzero₂
  exact mod_add_of_div hmod₁ hzero₁

/-- The result for words whose sum has 64 bits. -/
theorem csumFoldHelper_addWords {words : List (BitVec 16)} (h : total words < 2 ^ 64) :
    csumFoldHelper (addWords 0 words) = ~~~ OnesComplement.sum words := by
  have hadd : (addWords 0 words).toNat = total words := by
    rw [toNat_addWords (by simpa using h)]
    simp
  have hfold := foldCsum_agrees (addWords 0 words)
  rw [hadd] at hfold
  rw [csumFoldHelper_eq_not, hfold.unique (OnesComplement.sum_agrees words)]

/-- Four rounds leave the one's-complement sum of a 64-bit value, and the result completes the words
that were added. -/
theorem csumFoldHelper_complement :
    (∀ csum : BitVec 64, (foldCsum csum).toNat ≤ 0xFFFF ∧
      (foldCsum csum).toNat % 0xFFFF = csum.toNat % 0xFFFF ∧ (foldCsum csum = 0 → csum = 0) ∧
      csumFoldHelper csum = ~~~ OnesComplement.sum (csumWords csum)) ∧
    ∀ words : List (BitVec 16), words.length < 2 ^ 48 →
      (addWords 0 words).toNat = total words ∧
      csumFoldHelper (addWords 0 words) = ~~~ OnesComplement.sum words ∧
      OnesComplement.sum (words ++ [csumFoldHelper (addWords 0 words)]) = 0xFFFF := by
  constructor
  · intro csum
    obtain ⟨hmod, hzero⟩ := foldCsum_mod csum
    obtain ⟨hmod', hzero'⟩ := total_csumWords csum
    refine ⟨foldCsum_le csum, hmod, fun h ↦ ?_, ?_⟩
    · apply BitVec.eq_of_toNat_eq
      apply hzero.mp
      rw [h]
      rfl
    · have hagrees : Agrees (OnesComplement.sum (csumWords csum)) csum.toNat := by
        obtain ⟨hsum, hsumZero⟩ := OnesComplement.sum_agrees (csumWords csum)
        exact ⟨hsum.trans hmod', hsumZero.trans hzero'⟩
      rw [csumFoldHelper_eq_not, (foldCsum_agrees csum).unique hagrees]
  · intro words hlength
    have htotal : total words < 2 ^ 64 := by
      have hle := OnesComplement.total_le words
      omega
    have hadd : (addWords 0 words).toNat = 0 + total words :=
      toNat_addWords (by simpa using htotal)
    rw [Nat.zero_add] at hadd
    refine ⟨hadd, csumFoldHelper_addWords htotal, ?_⟩
    rw [csumFoldHelper_addWords htotal]
    exact OnesComplement.sum_append_not words

theorem csumFoldHelper_complement_carries :
    csumFoldHelper (addWords 0 [0xFFFF, 0xFFFF, 0x0001]) = 0xFFFE ∧
      OnesComplement.sum ([0xFFFF, 0xFFFF, 0x0001] ++
        [csumFoldHelper (addWords 0 [0xFFFF, 0xFFFF, 0x0001])]) = 0xFFFF :=
  ⟨by decide, (csumFoldHelper_complement.2 [0xFFFF, 0xFFFF, 0x0001] (by decide)).2.2⟩

/-! ## Headers -/

/-- The ten words of a header, as the loop of `ipv4_csum_inline` takes them. -/
def headerWords (iph : Frame) : List (BitVec 16) :=
  (List.range (iphdrSize / 2)).map fun i ↦ iph.u16 (2 * i)

/-- `ipv4_csum_inline` where the loop adds the words of the header and the sum is folded. -/
def foldHeader (iph : Frame) (csum : BitVec 64) : BitVec 64 :=
  (csumFoldHelper (addWords csum (headerWords iph))).setWidth 64

/-- `create_v4_hdr` on top of what the twenty bytes held before. What `ipv4_csum_inline` makes of
the sum is a parameter. -/
def writeV4Hdr (csumInline : Frame → BitVec 64 → BitVec 64) (iph : Iphdr) (tos : BitVec 8)
    (saddr daddr : BitVec 32) (pktBytes : BitVec 16) (proto : BitVec 8) : Iphdr :=
  let iph := { iph with
    version := 4
    ihl := 5
    fragOff := 0
    protocol := proto
    check := 0
    tos := tos
    totLen := bigEndian (pktBytes + 20)
    id := 0
    daddr := daddr
    saddr := saddr
    ttl := DEFAULT_TTL }
  { iph with check := (csumInline iph.bytes 0).setWidth 16 }

/-- The end of `send_icmp_reply`, before the addresses of the frame are exchanged. -/
def setCheck (csumInline : Frame → BitVec 64 → BitVec 64) (frame : Frame) : Frame :=
  let frame := frame.write (ethhdrSize + 10) (bytes16 0)
  frame.write (ethhdrSize + 10)
    (bytes16 ((csumInline (frame.slice ethhdrSize iphdrSize) 0).setWidth 16))

/-- The frame that `send_icmp_reply` leaves. -/
def icmpReplyBy (csumInline : Frame → BitVec 64 → BitVec 64) (frame : Frame) : Option Frame :=
  if frame.length < ethhdrSize + iphdrSize + icmphdrSize then
    none
  else
    some (swapMac (setCheck csumInline
      (swapAddresses (setTtl (adjustChecksum (setEchoReply frame))))))

/-- The one's-complement sum of the header is all ones. -/
def HeaderValid (header : Frame) : Prop :=
  OnesComplement.sum (OnesComplement.words header) = 0xFFFF

instance (header : Frame) : Decidable (HeaderValid header) :=
  inferInstanceAs (Decidable (OnesComplement.sum (OnesComplement.words header) = 0xFFFF))

/-- Without a body of the loop these are the functions above. -/
theorem writeV4Hdr_unfolded (iph : Iphdr) (tos : BitVec 8) (saddr daddr : BitVec 32)
    (pktBytes : BitVec 16) (proto : BitVec 8) :
    writeV4Hdr (fun _ csum ↦ csum) iph tos saddr daddr pktBytes proto =
      createV4Hdr tos saddr daddr pktBytes proto :=
  rfl

theorem setCheck_unfolded {frame : Frame} (h : ethhdrSize + iphdrSize ≤ frame.length) :
    setCheck (fun _ csum ↦ csum) frame = clearCheck frame :=
  Frame.write_write rfl (by
    simp only [bytes16, ethhdrSize, iphdrSize, List.length_cons, List.length_nil] at h ⊢
    omega)

theorem length_beforeCheck {frame : Frame}
    (h : ethhdrSize + iphdrSize + icmphdrSize ≤ frame.length) :
    (swapAddresses (setTtl (adjustChecksum (setEchoReply frame)))).length = frame.length := by
  obtain ⟨-, -, -, -, hlength, -⟩ := adjustChecksum_setEchoReply h
  generalize adjustChecksum (setEchoReply frame) = changed at hlength ⊢
  have hroom : ethhdrSize + iphdrSize ≤ changed.length := by omega
  have hsetTtl := (sameMessage_setTtl hroom).length
  have hswap := (sameMessage_swapAddresses (hsetTtl ▸ hroom)).length
  exact (hswap.trans hsetTtl).trans hlength

theorem icmpReplyBy_unfolded (frame : Frame) :
    icmpReplyBy (fun _ csum ↦ csum) frame = icmpReply frame := by
  unfold icmpReplyBy icmpReply
  split_ifs with hshort
  · rfl
  · have hlength := length_beforeCheck (Nat.not_lt.mp hshort)
    rw [setCheck_unfolded (by omega)]

/-- In the order of the network the words have their bytes exchanged. -/
theorem words_eq_map {n : ℕ} {bytes : Frame} (h : bytes.length = 2 * n) :
    OnesComplement.words bytes =
      ((List.range n).map fun i ↦ bytes.u16 (2 * i)).map OnesComplement.swapBytes := by
  induction n generalizing bytes with
  | zero =>
    rw [List.length_eq_zero_iff.mp h]
    rfl
  | succ n ih =>
    rcases bytes with _ | ⟨high, _ | ⟨low, bytes⟩⟩
    · simp at h
    · simp at h
      omega
    · have hrest := @ih bytes (by simp only [List.length_cons] at h; omega)
      have hfirst : OnesComplement.swapBytes (low ++ high) = high ++ low := by
        rw [OnesComplement.swapBytes, BitVec.extractLsb'_append_eq_of_add_le (by decide),
          BitVec.extractLsb'_append_eq_of_le (by decide), BitVec.extractLsb'_eq_self,
          BitVec.extractLsb'_eq_self]
      rw [OnesComplement.words, hrest, List.range_succ_eq_map, List.map_cons, List.map_cons]
      apply List.cons_eq_cons.mpr
      constructor
      · exact hfirst.symm
      · rw [List.map_map, List.map_map, List.map_map]
        rfl

theorem headerValid_iff {header : Frame} (h : header.length = iphdrSize) :
    HeaderValid header ↔ OnesComplement.sum (headerWords header) = 0xFFFF := by
  rw [HeaderValid, words_eq_map (n := 10) h]
  exact OnesComplement.sum_map_swapBytes_eq_allOnes_iff _

theorem u16_write {frame : Frame} {i : ℕ} (h : i + 2 ≤ frame.length) (word : BitVec 16) :
    (frame.write i (bytes16 word)).u16 i = word := by
  have hlength : i + (bytes16 word).length ≤ frame.length := h
  have hlow := @Frame.byte_write_add frame _ i 0 hlength Nat.two_pos
  have hhigh := @Frame.byte_write_add frame _ i 1 hlength Nat.one_lt_two
  rw [Nat.add_zero] at hlow
  rw [Frame.u16, hlow, hhigh]
  apply BitVec.eq_of_toNat_eq
  have hbytes : (Frame.byte (bytes16 word) 1 ++ Frame.byte (bytes16 word) 0).toNat =
      (word.extractLsb' 8 8 ++ word.extractLsb' 0 8).toNat := rfl
  rw [hbytes, OnesComplement.toNat_append, OnesComplement.toNat_low, OnesComplement.toNat_high]
  omega

theorem u16_write_of_ne {frame : Frame} {i j : ℕ} (h : i + 2 ≤ frame.length) (word : BitVec 16)
    (hdisjoint : j + 2 ≤ i ∨ i + 2 ≤ j) :
    (frame.write i (bytes16 word)).u16 j = frame.u16 j := by
  have hlength : i + (bytes16 word).length ≤ frame.length := h
  rw [Frame.u16, Frame.u16]
  rcases hdisjoint with hbefore | hbehind
  · rw [Frame.byte_write_of_lt (by omega) (by omega),
      Frame.byte_write_of_lt (by omega) (by omega)]
  · have hbehind' : i + (bytes16 word).length ≤ j := hbehind
    rw [Frame.byte_write_of_ge hlength (by omega), Frame.byte_write_of_ge hlength hbehind']

theorem headerWords_write {header : Frame} (h : header.length = iphdrSize) (check : BitVec 16) :
    headerWords (header.write 10 (bytes16 check)) = (headerWords header).set 5 check := by
  have hlength : 10 + 2 ≤ header.length := by
    rw [h]
    decide
  apply List.ext_getElem?
  intro i
  rw [List.getElem?_set, headerWords, headerWords, List.getElem?_map, List.getElem?_map]
  split_ifs with hcheck hbound
  · subst hcheck
    exact congrArg some (u16_write hlength check)
  · simp [iphdrSize] at hbound
  · rcases hi : (List.range (iphdrSize / 2))[i]? with _ | j
    · rfl
    · obtain ⟨-, rfl⟩ := List.getElem?_eq_some_iff.mp hi
      rw [List.getElem_range]
      exact congrArg some (u16_write_of_ne hlength check (by omega))

/-- A header with a checksum field of zero gets a valid checksum. -/
theorem headerValid_write {header : Frame} (h : header.length = iphdrSize)
    (hzero : header.u16 10 = 0) :
    HeaderValid (header.write 10 (bytes16 ((foldHeader header 0).setWidth 16))) := by
  have hwords : (headerWords header).length = 10 := by simp [headerWords, iphdrSize]
  have hsum : total (headerWords header) < 2 ^ 64 := by
    have hle := OnesComplement.total_le (headerWords header)
    omega
  have hcheck :
      (foldHeader header 0).setWidth 16 = ~~~ OnesComplement.sum (headerWords header) := by
    rw [foldHeader, BitVec.setWidth_setWidth_of_le _ (by decide), BitVec.setWidth_eq,
      csumFoldHelper_addWords hsum]
  have hold : (headerWords header)[5]? = some 0 := by
    rw [headerWords, List.getElem?_map]
    exact congrArg some hzero
  have hset := OnesComplement.total_set hold (~~~ OnesComplement.sum (headerWords header))
  have hvalid := OnesComplement.sum_append_not (headerWords header)
  have hroom : 10 + 2 ≤ header.length := by
    rw [h]
    decide
  have hlength : (header.write 10 (bytes16 (~~~ OnesComplement.sum (headerWords header)))).length =
      iphdrSize := (Frame.length_write hroom).trans h
  rw [hcheck, headerValid_iff hlength, headerWords_write h,
    OnesComplement.sum_eq_allOnes_iff]
  rw [OnesComplement.sum_eq_allOnes_iff, OnesComplement.total_append, OnesComplement.total_cons]
    at hvalid
  have hnil : total [] = 0 := rfl
  have hnone : (0 : BitVec 16).toNat = 0 := rfl
  omega

theorem writeV4Hdr_valid (iph : Iphdr) (tos : BitVec 8) (saddr daddr : BitVec 32)
    (pktBytes : BitVec 16) (proto : BitVec 8) :
    HeaderValid (writeV4Hdr foldHeader iph tos saddr daddr pktBytes proto).bytes := by
  -- the header as it is when the checksum is taken
  let header : Iphdr := { createV4Hdr tos saddr daddr pktBytes proto with check := 0 }
  have hbytes : (writeV4Hdr foldHeader iph tos saddr daddr pktBytes proto).bytes =
      header.bytes.write 10 (bytes16 ((foldHeader header.bytes 0).setWidth 16)) := rfl
  have hzero : header.bytes.u16 10 = 0 := by
    simp [header, Iphdr.bytes, bytes16, Frame.u16, Frame.byte]
  rw [hbytes]
  exact headerValid_write rfl hzero

theorem slice_swapMac {frame : Frame} (h : ethhdrSize ≤ frame.length) (n : ℕ) :
    (swapMac frame).slice ethhdrSize n = frame.slice ethhdrSize n := by
  unfold ethhdrSize at *
  apply Frame.slice_exchange_of_disjoint <;> omega

theorem setCheck_valid {frame : Frame} (h : ethhdrSize + iphdrSize ≤ frame.length) :
    HeaderValid ((setCheck foldHeader frame).slice ethhdrSize iphdrSize) := by
  have hfield : 10 + 2 ≤ iphdrSize := by decide
  have hroom : ethhdrSize + 10 + 2 ≤ frame.length := by omega
  have hcleared : (frame.write (ethhdrSize + 10) (bytes16 0)).length = frame.length :=
    Frame.length_write hroom
  have hzero : (frame.write (ethhdrSize + 10) (bytes16 0)).u16 (ethhdrSize + 10) = 0 :=
    u16_write hroom 0
  unfold setCheck
  dsimp only
  generalize frame.write (ethhdrSize + 10) (bytes16 0) = cleared at hcleared hzero ⊢
  rw [Frame.slice_write_add hfield (by omega)]
  apply headerValid_write
  · exact Frame.length_slice (by omega)
  · rw [Frame.u16, Frame.byte_slice (by decide), Frame.byte_slice (by decide)]
    exact hzero

/-- A header that is written has a valid checksum, whatever its fields are and whatever was in its
place before. -/
theorem writtenHeader_valid :
    (∀ (iph : Iphdr) (tos : BitVec 8) (saddr daddr : BitVec 32) (pktBytes : BitVec 16)
        (proto : BitVec 8),
      HeaderValid (writeV4Hdr foldHeader iph tos saddr daddr pktBytes proto).bytes) ∧
    ∀ frame : Frame, ethhdrSize + iphdrSize + icmphdrSize ≤ frame.length →
      ∃ reply, icmpReplyBy foldHeader frame = some reply ∧
        HeaderValid (reply.slice ethhdrSize iphdrSize) := by
  refine ⟨writeV4Hdr_valid, fun frame hframe ↦ ⟨_, if_neg (Nat.not_lt.mpr hframe), ?_⟩⟩
  have hlength := length_beforeCheck hframe
  generalize swapAddresses _ = swapped at hlength ⊢
  rw [slice_swapMac]
  · exact setCheck_valid (by omega)
  · have hset : (setCheck foldHeader swapped).length = swapped.length := by
      unfold setCheck
      dsimp only
      have hfield : ethhdrSize + 10 + 2 ≤ swapped.length := by
        unfold ethhdrSize iphdrSize at *
        omega
      rw [Frame.length_write, Frame.length_write hfield]
      rw [Frame.length_write hfield]
      exact hfield
    omega

theorem writtenHeader_valid_ping :
    HeaderValid (writeV4Hdr foldHeader (createV4Hdr 0 0 0 0 0) 0xFF 0x0100000A 0x0200000A 84
      IPPROTO_IPIP).bytes ∧
    ∃ reply, icmpReplyBy foldHeader (icmpFrame [8, 0, 0xF7, 0xFF, 0, 0, 0, 0]) = some reply ∧
      HeaderValid (reply.slice ethhdrSize iphdrSize) :=
  ⟨writtenHeader_valid.1 _ _ _ _ _ _,
    writtenHeader_valid.2 (icmpFrame [8, 0, 0xF7, 0xFF, 0, 0, 0, 0]) (by decide)⟩

end Vsoshlb.DataPlane
