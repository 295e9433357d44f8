import Mathlib.Data.List.Infix
import Mathlib.Algebra.Ring.Nat

/-!
# Framed streams

The frames of a stream follow one another without a gap, and the length of the first frame can be
told from the bytes at hand once they hold that frame. Cut anywhere, the stream then falls into
its whole frames and a rest, however many pieces it arrives in. A header of a fixed size that gives
the length of its payload frames a stream so.
-/

namespace Framing

variable {β : Type} {α : Type}

/-- The length of the frame that some bytes begin with, where they hold all of it. What follows the
frame makes no difference. -/
structure Frames (β : Type) where
  frameLength : List β → Option ℕ
  pos : ∀ {buf n}, frameLength buf = some n → 0 < n
  le : ∀ {buf n}, frameLength buf = some n → n ≤ buf.length
  take : ∀ {buf n}, frameLength buf = some n → frameLength (buf.take n) = some n
  append : ∀ {buf n} (more), frameLength buf = some n → frameLength (buf ++ more) = some n

variable {F : Frames β} {buf more stream frame rest : List β} {frames whole : List (List β)}

def IsFrame (F : Frames β) (frame : List β) : Prop :=
  F.frameLength frame = some frame.length

/-- The bytes are these frames and a rest that holds no further one. -/
structure Splits (F : Frames β) (buf : List β) (frames : List (List β)) (rest : List β) :
    Prop where
  bytes : frames.flatten ++ rest = buf
  isFrame : ∀ frame ∈ frames, IsFrame F frame
  rest : F.frameLength rest = none

/-- The part that is there of the first frame to come; nothing, where none is to come. -/
def IsIncomplete (rest : List β) : List (List β) → Prop
  | [] => rest = []
  | frame :: _ => rest <+: frame ∧ rest ≠ frame

theorem IsFrame.length_pos (h : IsFrame F frame) : 0 < frame.length := F.pos h

theorem IsFrame.frameLength_append (h : IsFrame F frame) (more : List β) :
    F.frameLength (frame ++ more) = some frame.length := F.append more h

theorem frameLength_nil : F.frameLength [] = none := by
  cases h : F.frameLength [] with
  | none => rfl
  | some n => exact absurd (F.pos h) (Nat.not_lt.mpr (F.le h))

theorem isFrame_take {n : ℕ} (h : F.frameLength buf = some n) : IsFrame F (buf.take n) := by
  rw [IsFrame, F.take h, List.length_take, min_eq_left (F.le h)]

theorem Splits.nil : Splits F [] [] [] := ⟨rfl, by simp, frameLength_nil⟩

theorem Splits.cons (hframe : IsFrame F frame) (h : Splits F buf frames rest) :
    Splits F (frame ++ buf) (frame :: frames) rest where
  bytes := by rw [List.flatten_cons, List.append_assoc, h.bytes]
  isFrame := List.forall_mem_cons.mpr ⟨hframe, h.isFrame⟩
  rest := h.rest

theorem Splits.frameLength_eq_none (h : Splits F buf [] rest) : F.frameLength buf = none := by
  obtain rfl : rest = buf := h.bytes
  exact h.rest

/-- The first frame, and what the bytes after it split into. -/
theorem Splits.uncons (h : Splits F buf (frame :: frames) rest) :
    F.frameLength buf = some frame.length ∧ buf.take frame.length = frame ∧
      Splits F (buf.drop frame.length) frames rest := by
  have hbytes : buf = frame ++ (frames.flatten ++ rest) := by
    rw [← h.bytes, List.flatten_cons, List.append_assoc]
  have hframe : IsFrame F frame := h.isFrame frame List.mem_cons_self
  subst hbytes
  refine ⟨hframe.frameLength_append _, List.take_left, ?_⟩
  rw [List.drop_left]
  exact ⟨rfl, fun f hf ↦ h.isFrame f (List.mem_cons_of_mem frame hf), h.rest⟩

/-- No frame is empty. -/
theorem Splits.length_le (h : Splits F buf frames rest) : frames.length ≤ buf.length := by
  induction frames generalizing buf with
  | nil => exact Nat.zero_le _
  | cons frame frames ih =>
    obtain ⟨hlength, -, hlater⟩ := h.uncons
    have hframes := ih hlater
    have hpos := F.pos hlength
    have hle := F.le hlength
    rw [List.length_drop] at hframes
    rw [List.length_cons]
    omega

theorem exists_splits (F : Frames β) (buf : List β) : ∃ frames rest, Splits F buf frames rest := by
  induction hlength : buf.length using Nat.strong_induction_on generalizing buf with
  | h length ih =>
    cases hn : F.frameLength buf with
    | none => exact ⟨[], buf, rfl, by simp, hn⟩
    | some n =>
      have hshorter : (buf.drop n).length < length := by
        have hpos := F.pos hn
        have hle := F.le hn
        rw [List.length_drop]
        omega
      obtain ⟨frames, rest, hsplits⟩ := ih (buf.drop n).length hshorter (buf.drop n) rfl
      have hcons := hsplits.cons (isFrame_take hn)
      rw [List.take_append_drop] at hcons
      exact ⟨buf.take n :: frames, rest, hcons⟩

/-- Frames that were split off stay split off as more arrives. -/
theorem Splits.append {later : List (List β)} {rest' : List β} (h : Splits F buf frames rest)
    (hmore : Splits F (rest ++ more) later rest') :
    Splits F (buf ++ more) (frames ++ later) rest' where
  bytes := by
    rw [List.flatten_append, List.append_assoc, hmore.bytes, ← List.append_assoc, h.bytes]
  isFrame frame hframe := (List.mem_append.mp hframe).elim (h.isFrame frame) (hmore.isFrame frame)
  rest := hmore.rest

/-- The beginning of a stream of frames splits into the first ones and a part of the next one. -/
theorem Splits.of_prefix (h : Splits F buf frames rest) (hwhole : ∀ frame ∈ whole, IsFrame F frame)
    (hpre : buf <+: whole.flatten) :
    ∃ later, whole = frames ++ later ∧ IsIncomplete rest later := by
  induction frames generalizing buf whole with
  | nil =>
    obtain rfl : rest = buf := h.bytes
    refine ⟨whole, rfl, ?_⟩
    cases whole with
    | nil => exact List.prefix_nil.mp hpre
    | cons frame whole =>
      have hframe : IsFrame F frame := hwhole frame List.mem_cons_self
      rcases List.prefix_or_prefix_of_prefix hpre (List.prefix_append frame whole.flatten) with
        hrest | ⟨tail, htail⟩
      · refine ⟨hrest, fun heq ↦ ?_⟩
        cases (heq ▸ h.rest).symm.trans hframe
      · -- a rest that held the next frame would have been split further
        cases (htail ▸ h.rest).symm.trans (hframe.frameLength_append tail)
  | cons frame frames ih =>
    have hframe : IsFrame F frame := h.isFrame frame List.mem_cons_self
    have hbytes : frame ++ (frames.flatten ++ rest) = buf := by
      rw [← List.append_assoc]
      exact h.bytes
    cases whole with
    | nil =>
      obtain rfl : buf = [] := List.prefix_nil.mp hpre
      have hnil : frame = [] := (List.append_eq_nil_iff.mp hbytes).1
      exact absurd hframe.length_pos (by simp [hnil])
    | cons next whole =>
      have hnext : IsFrame F next := hwhole next List.mem_cons_self
      obtain ⟨tail, htail⟩ := hpre
      have hstream : frame ++ (frames.flatten ++ rest ++ tail) = next ++ whole.flatten := by
        rw [← List.append_assoc, hbytes]
        exact htail
      have hlength : next.length = frame.length := by
        have hfirst := hframe.frameLength_append (frames.flatten ++ rest ++ tail)
        rw [hstream, hnext.frameLength_append] at hfirst
        exact Option.some.inj hfirst
      obtain ⟨rfl, hlater⟩ := List.append_inj hstream hlength.symm
      obtain ⟨later, rfl, hincomplete⟩ := ih
        ⟨rfl, fun f hf ↦ h.isFrame f (List.mem_cons_of_mem _ hf), h.rest⟩
        (fun f hf ↦ hwhole f (List.mem_cons_of_mem _ hf)) ⟨tail, hlater⟩
      exact ⟨later, rfl, hincomplete⟩

/-- The bytes determine the frames. -/
theorem frames_eq_of_flatten_eq (hframes : ∀ frame ∈ frames, IsFrame F frame)
    (hwhole : ∀ frame ∈ whole, IsFrame F frame) (h : frames.flatten = whole.flatten) :
    frames = whole := by
  have hsplit : Splits F frames.flatten frames [] :=
    ⟨List.append_nil _, hframes, frameLength_nil⟩
  obtain ⟨later, rfl, hlater⟩ := hsplit.of_prefix hwhole (by rw [h])
  cases later with
  | nil => exact (List.append_nil frames).symm
  | cons frame later =>
    have hframe : IsFrame F frame := hwhole frame (List.mem_append_right _ List.mem_cons_self)
    rw [List.flatten_append, List.flatten_cons] at h
    have hlength := congrArg List.length h
    have hpos := hframe.length_pos
    simp only [List.length_append] at hlength
    omega

/-- Nothing is left over at the end of the stream. -/
theorem IsIncomplete.eq_nil {later : List (List β)} (h : IsIncomplete rest later)
    (hend : rest = later.flatten) : rest = [] ∧ later = [] := by
  cases later with
  | nil => exact ⟨h, rfl⟩
  | cons frame later =>
    obtain ⟨hpre, hne⟩ := h
    have hle : frame.length ≤ rest.length := by
      rw [hend, List.flatten_cons, List.length_append]
      exact Nat.le_add_right _ _
    exact absurd (hpre.eq_of_length_le hle) hne

/-! ## Headers of a fixed size -/

/-- An encoding into a fixed number of bytes that can be read back. -/
structure FixedCodec (α β : Type) where
  size : ℕ
  encode : α → List β
  decode : List β → α
  length_encode : ∀ a, (encode a).length = size
  decode_encode : ∀ a, decode (encode a) = a

/-- A type with two values needs some bytes. -/
theorem FixedCodec.size_pos [Nontrivial α] (codec : FixedCodec α β) : 0 < codec.size := by
  obtain ⟨a, b, hne⟩ := exists_pair_ne α
  refine Nat.pos_of_ne_zero fun hsize ↦ hne ?_
  have hempty : ∀ c, codec.encode c = [] := fun c ↦
    List.eq_nil_of_length_eq_zero ((codec.length_encode c).trans hsize)
  rw [← codec.decode_encode a, ← codec.decode_encode b, hempty a, hempty b]

/-- The bytes of a number, the lowest first. -/
def bytesOf : ℕ → ℕ → List (BitVec 8)
  | 0, _ => []
  | k + 1, n => BitVec.ofNat 8 n :: bytesOf k (n / 256)

def numberOf : List (BitVec 8) → ℕ
  | [] => 0
  | byte :: bytes => byte.toNat + 256 * numberOf bytes

theorem length_bytesOf (k n : ℕ) : (bytesOf k n).length = k := by
  induction k generalizing n with
  | zero => rfl
  | succ k ih => rw [bytesOf, List.length_cons, ih]

theorem numberOf_bytesOf {k n : ℕ} (hn : n < 256 ^ k) : numberOf (bytesOf k n) = n := by
  induction k generalizing n with
  | zero => exact (Nat.lt_one_iff.mp hn).symm
  | succ k ih =>
    have hrest : n / 256 < 256 ^ k := Nat.div_lt_of_lt_mul (by rwa [← Nat.pow_succ'])
    rw [bytesOf, numberOf, ih hrest, BitVec.toNat_ofNat]
    exact Nat.mod_add_div n 256

/-- A number of `k` bytes in little-endian order. -/
def FixedCodec.word (k : ℕ) : FixedCodec (BitVec (8 * k)) (BitVec 8) where
  size := k
  encode v := bytesOf k v.toNat
  decode bytes := BitVec.ofNat (8 * k) (numberOf bytes)
  length_encode v := length_bytesOf k v.toNat
  decode_encode v := by
    have hlt : v.toNat < 256 ^ k := by
      have hpow : 256 ^ k = 2 ^ (8 * k) := (Nat.pow_mul 2 8 k).symm
      rw [hpow]
      exact v.isLt
    rw [numberOf_bytesOf hlt, BitVec.ofNat_toNat, BitVec.setWidth_eq]

/-- One field after the other. -/
def FixedCodec.prod {γ : Type} (first : FixedCodec α β) (second : FixedCodec γ β) :
    FixedCodec (α × γ) β where
  size := first.size + second.size
  encode a := first.encode a.1 ++ second.encode a.2
  decode bytes := (first.decode (bytes.take first.size), second.decode (bytes.drop first.size))
  length_encode a := by rw [List.length_append, first.length_encode, second.length_encode]
  decode_encode a := by
    have hsize := first.length_encode a.1
    rw [← hsize, List.take_left, List.drop_left, first.decode_encode, second.decode_encode]

/-- The encoding of the fields of a structure. -/
def FixedCodec.comap {γ : Type} (codec : FixedCodec α β) (fields : γ → α) (make : α → γ)
    (hmake : ∀ c, make (fields c) = c) : FixedCodec γ β where
  size := codec.size
  encode c := codec.encode (fields c)
  decode bytes := make (codec.decode bytes)
  length_encode c := codec.length_encode (fields c)
  decode_encode c := by rw [codec.decode_encode, hmake]

/-- Records of a header and the payload whose length the header gives. -/
def lengthPrefixed [Nontrivial α] (codec : FixedCodec α β) (payloadLength : α → ℕ) : Frames β where
  frameLength buf :=
    if buf.length < codec.size then
      none
    else
      let n := codec.size + payloadLength (codec.decode (buf.take codec.size))
      if n ≤ buf.length then some n else none
  pos {buf n} h := by
    have hsize := codec.size_pos
    grind
  le {buf n} h := by grind
  take {buf n} h := by
    have htake : codec.size ≤ n → (buf.take n).take codec.size = buf.take codec.size := fun hle ↦ by
      rw [List.take_take, min_eq_left hle]
    grind
  append {buf n} more h := by
    have htake : codec.size ≤ buf.length → (buf ++ more).take codec.size = buf.take codec.size :=
      List.take_append_of_le_length
    grind

section LengthPrefixed

variable [Nontrivial α] {codec : FixedCodec α β} {payloadLength : α → ℕ}

theorem isFrame_lengthPrefixed {header : α} {payload : List β}
    (hlength : payload.length = payloadLength header) :
    IsFrame (lengthPrefixed codec payloadLength) (codec.encode header ++ payload) := by
  have hsize := codec.length_encode header
  have htake : (codec.encode header ++ payload).take codec.size = codec.encode header := by
    rw [← hsize, List.take_left]
  simp only [IsFrame, lengthPrefixed, htake, codec.decode_encode, List.length_append, hsize,
    hlength]
  rw [if_neg (by omega), if_pos le_rfl]

end LengthPrefixed

end Framing
