import Mathlib.Data.List.DropRight
import Mathlib.Data.List.Infix

/-!
# Counting since the last reset

A counter goes up by one with every element of a list, and starts again at one with an element that
resets it. It passes a bound if and only if that many elements in a row, with one more before them,
do not reset it.
-/

namespace Streaks

variable {α : Type*} (resets : α → Prop) [DecidablePred resets]

/-- The counter after one more element. -/
def count (n : ℕ) (a : α) : ℕ := if resets a then 1 else n + 1

/-- The counter after a list. -/
def sinceReset (as : List α) : ℕ := as.foldl (count resets) 0

variable {resets}

@[simp]
theorem sinceReset_nil : sinceReset resets ([] : List α) = 0 := rfl

theorem sinceReset_append_singleton (as : List α) (a : α) :
    sinceReset resets (as ++ [a]) = count resets (sinceReset resets as) a := by
  rw [sinceReset, List.foldl_append]
  rfl

/-- The counter is above `bound` after more than `bound` elements of which the last ones do not
reset it. -/
theorem lt_sinceReset_iff {bound : ℕ} {as : List α} :
    bound < sinceReset resets as ↔ bound < as.length ∧ ∀ a ∈ as.rtake bound, ¬ resets a := by
  induction as using List.reverseRecOn generalizing bound with
  | nil => simp
  | append_singleton as a ih =>
    rw [sinceReset_append_singleton, List.length_append, List.length_singleton]
    cases bound with
    | zero =>
      have hpos : 0 < count resets (sinceReset resets as) a := by
        unfold count
        split_ifs <;> omega
      simp [hpos]
    | succ bound =>
      rw [List.rtake_concat_succ]
      by_cases hreset : resets a
      · simp [count, hreset]
      · simp only [count, hreset, if_false, Nat.add_lt_add_iff_right, ih, List.mem_append,
          List.mem_singleton]
        grind

theorem rtake_append_of_length {front run : List α} {bound : ℕ} (h : run.length = bound) :
    (front ++ run).rtake bound = run := by
  rw [List.rtake, List.length_append, h, Nat.add_sub_cancel, List.drop_left]

theorem tail_rtake_succ {as : List α} {bound : ℕ} (h : bound < as.length) :
    (as.rtake (bound + 1)).tail = as.rtake bound := by
  have hstart : as.length - (bound + 1) + 1 = as.length - bound := by omega
  rw [List.rtake, List.rtake, List.tail_drop, hstart]

/-- In no initial part of the list is the counter above the bound if and only if, of every
`bound + 1` successive elements, one that is not the first of them resets it. -/
theorem sinceReset_le_iff {bound : ℕ} {as : List α} :
    (∀ pre, pre <+: as → sinceReset resets pre ≤ bound) ↔
      ∀ run, run <:+: as → run.length = bound + 1 → ∃ a ∈ run.tail, resets a := by
  constructor
  · rintro hcount run ⟨front, back, rfl⟩ hlength
    have hle := hcount (front ++ run) ⟨back, rfl⟩
    rw [← not_lt, lt_sinceReset_iff] at hle
    cases run with
    | nil => cases hlength
    | cons first run =>
      have hrun : run.length = bound := Nat.succ.inj hlength
      rw [List.append_cons, rtake_append_of_length hrun] at hle
      by_contra hnone
      apply hle
      constructor
      · simp only [List.length_append, List.length_singleton, hrun]
        omega
      · intro a ha hreset
        exact hnone ⟨a, ha, hreset⟩
  · intro hrun pre hpre
    rw [← not_lt, lt_sinceReset_iff]
    rintro ⟨hlength, hnone⟩
    have hlast : (pre.rtake (bound + 1)).length = bound + 1 := by
      rw [List.rtake, List.length_drop]
      omega
    have hinfix : pre.rtake (bound + 1) <:+: as :=
      (List.drop_suffix _ pre).isInfix.trans hpre.isInfix
    obtain ⟨a, ha, hreset⟩ := hrun _ hinfix hlast
    rw [tail_rtake_succ hlength] at ha
    exact hnone a ha hreset

end Streaks
