import Mathlib.Algebra.BigOperators.Group.List.Basic
import Mathlib.Data.BitVec

/-!
# One's-complement sums

Words of 16 bits are added with the carry brought back in at the low end. The result is the ordinary
sum modulo `2 ^ 16 - 1`. Zero has two forms there, and a sum is all zeros only where every word is,
so a sum of all ones is a positive multiple of `2 ^ 16 - 1`.
-/

namespace OnesComplement

/-- Addition with an end-around carry. -/
def add (a b : BitVec 16) : BitVec 16 :=
  BitVec.ofNat 16 ((a.toNat + b.toNat) % 2 ^ 16 + (a.toNat + b.toNat) / 2 ^ 16)

def sum (words : List (BitVec 16)) : BitVec 16 := words.foldl add 0

/-- The ordinary sum. -/
def total (words : List (BitVec 16)) : ℕ := (words.map BitVec.toNat).sum

/-- Bytes as words, the first byte on top. An odd byte at the end is filled up with zeros. -/
def words : List (BitVec 8) → List (BitVec 16)
  | [] => []
  | [byte] => [byte ++ 0#8]
  | high :: low :: bytes => (high ++ low) :: words bytes

theorem toNat_append (high low : BitVec 8) :
    (high ++ low).toNat = high.toNat * 256 + low.toNat := by
  rw [BitVec.toNat_append, ← Nat.shiftLeft_add_eq_or_of_lt low.isLt, Nat.shiftLeft_eq]

theorem toNat_low (word : BitVec 16) : (word.extractLsb' 0 8).toNat = word.toNat % 256 := by
  rw [BitVec.extractLsb'_toNat, Nat.shiftRight_zero]

theorem toNat_high (word : BitVec 16) : (word.extractLsb' 8 8).toNat = word.toNat / 256 := by
  have hlt := word.isLt
  rw [BitVec.extractLsb'_toNat, Nat.shiftRight_eq_div_pow]
  omega

@[simp]
theorem total_cons (word : BitVec 16) (words : List (BitVec 16)) :
    total (word :: words) = word.toNat + total words := by
  simp [total]

@[simp]
theorem total_append (front rest : List (BitVec 16)) :
    total (front ++ rest) = total front + total rest := by
  simp [total]

theorem total_le (words : List (BitVec 16)) : total words ≤ 65535 * words.length := by
  induction words with
  | nil => exact le_refl 0
  | cons word words ih =>
    have hlt := word.isLt
    rw [total_cons, List.length_cons]
    omega

/-- What replacing a word does to the total. -/
theorem total_set {words : List (BitVec 16)} {i : ℕ} {old : BitVec 16} (h : words[i]? = some old)
    (word : BitVec 16) : total (words.set i word) + old.toNat = total words + word.toNat := by
  induction words generalizing i with
  | nil => simp at h
  | cons head words ih =>
    cases i with
    | zero =>
      obtain rfl : head = old := by simpa using h
      rw [List.set_cons_zero, total_cons, total_cons]
      omega
    | succ i =>
      have hset := ih (i := i) (by simpa using h)
      rw [List.set_cons_succ, total_cons, total_cons]
      omega

theorem words_append {front : List (BitVec 8)} (heven : front.length % 2 = 0)
    (rest : List (BitVec 8)) : words (front ++ rest) = words front ++ words rest := by
  induction front using words.induct with
  | case1 => rfl
  | case2 byte => simp at heven
  | case3 high low bytes ih =>
    have hbytes : bytes.length % 2 = 0 := by
      simp only [List.length_cons] at heven
      omega
    rw [List.cons_append, List.cons_append, words, words, ih hbytes, List.cons_append]

theorem toNat_add (a b : BitVec 16) :
    (add a b).toNat =
      if a.toNat + b.toNat < 2 ^ 16 then a.toNat + b.toNat else a.toNat + b.toNat - 65535 := by
  have ha := a.isLt
  have hb := b.isLt
  rw [add, BitVec.toNat_ofNat]
  split_ifs <;> omega

/-- What the sum and the total have in common. -/
def Agrees (word : BitVec 16) (n : ℕ) : Prop :=
  word.toNat % 65535 = n % 65535 ∧ (word.toNat = 0 ↔ n = 0)

theorem Agrees.add {a : BitVec 16} {n : ℕ} (h : Agrees a n) (b : BitVec 16) :
    Agrees (add a b) (n + b.toNat) := by
  obtain ⟨hmod, hzero⟩ := h
  have hb := b.isLt
  unfold Agrees
  rw [toNat_add]
  split_ifs <;> omega

theorem sum_agrees (words : List (BitVec 16)) : Agrees (sum words) (total words) := by
  suffices h : ∀ a n, Agrees a n → Agrees (words.foldl add a) (n + total words) by
    have hzero : Agrees 0 0 := ⟨rfl, by simp⟩
    have hsum := h 0 0 hzero
    rwa [Nat.zero_add] at hsum
  induction words with
  | nil => exact fun a n h ↦ h
  | cons word words ih =>
    intro a n h
    rw [List.foldl_cons, total_cons, ← Nat.add_assoc]
    exact ih _ _ (h.add word)

/-- The total decides the sum. -/
theorem Agrees.unique {a b : BitVec 16} {n : ℕ} (ha : Agrees a n) (hb : Agrees b n) : a = b := by
  obtain ⟨hamod, hazero⟩ := ha
  obtain ⟨hbmod, hbzero⟩ := hb
  have halt := a.isLt
  have hblt := b.isLt
  apply BitVec.eq_of_toNat_eq
  omega

theorem sum_eq_allOnes_iff (words : List (BitVec 16)) :
    sum words = 0xFFFF ↔ 0 < total words ∧ total words % 65535 = 0 := by
  obtain ⟨hmod, hzero⟩ := sum_agrees words
  have hlt := (sum words).isLt
  have hones : sum words = 0xFFFF ↔ (sum words).toNat = 65535 := by
    rw [← BitVec.toNat_inj]
    rfl
  rw [hones]
  omega

/-- A checksum is the complement of the sum of the other words. -/
theorem sum_append_not (words : List (BitVec 16)) : sum (words ++ [~~~ sum words]) = 0xFFFF := by
  obtain ⟨hmod, hzero⟩ := sum_agrees words
  have hlt := (sum words).isLt
  have hnot : (~~~ sum words).toNat = 65535 - (sum words).toNat := BitVec.toNat_not
  have hnil : total [] = 0 := rfl
  rw [sum_eq_allOnes_iff, total_append, total_cons, hnil, hnot]
  omega

/-! ## The order of the bytes -/

/-- The bytes of a word, exchanged. -/
def swapBytes (word : BitVec 16) : BitVec 16 := word.extractLsb' 0 8 ++ word.extractLsb' 8 8

theorem toNat_swapBytes (word : BitVec 16) :
    (swapBytes word).toNat = word.toNat % 256 * 256 + word.toNat / 256 := by
  rw [swapBytes, toNat_append, toNat_low, toNat_high]

/-- To exchange the bytes is to multiply by `2 ^ 8`, which has an inverse. -/
theorem total_map_swapBytes (words : List (BitVec 16)) :
    total (words.map swapBytes) % 65535 = 256 * total words % 65535 ∧
      (total (words.map swapBytes) = 0 ↔ total words = 0) := by
  induction words with
  | nil => exact ⟨rfl, Iff.rfl⟩
  | cons word words ih =>
    obtain ⟨hmod, hzero⟩ := ih
    have hswap := toNat_swapBytes word
    rw [List.map_cons, total_cons, total_cons]
    omega

/-- Whether a sum is all ones does not depend on the order of the bytes. -/
theorem sum_map_swapBytes_eq_allOnes_iff (words : List (BitVec 16)) :
    sum (words.map swapBytes) = 0xFFFF ↔ sum words = 0xFFFF := by
  obtain ⟨hmod, hzero⟩ := total_map_swapBytes words
  rw [sum_eq_allOnes_iff, sum_eq_allOnes_iff]
  omega

end OnesComplement
