import Mathlib.Data.List.Nodup
import Mathlib.Logic.Function.Basic
import Mathlib.Algebra.Ring.Nat

/-!
# A flat array of blocks

An array that holds one block of `size` places for each number, changed by lists of updates. A
list of updates with distinct keys sets exactly those keys; the updates of one block leave every
other block alone.
-/

namespace FlatArray

/-- The array after the updates of a list, in order. -/
def setAll (array : ℕ → ℕ) (updates : List (ℕ × ℕ)) : ℕ → ℕ :=
  updates.foldl (fun array update ↦ Function.update array update.1 update.2) array

variable {array : ℕ → ℕ} {updates : List (ℕ × ℕ)} {k v : ℕ}

theorem setAll_of_not_mem (h : k ∉ updates.map Prod.fst) : setAll array updates k = array k := by
  induction updates generalizing array with
  | nil => rfl
  | cons update updates ih =>
    rw [List.map_cons, List.mem_cons, not_or] at h
    calc setAll array (update :: updates) k
        = setAll (Function.update array update.1 update.2) updates k := rfl
      _ = Function.update array update.1 update.2 k := ih h.2
      _ = array k := Function.update_of_ne h.1 _ _

theorem setAll_of_mem (hnodup : (updates.map Prod.fst).Nodup) (h : (k, v) ∈ updates) :
    setAll array updates k = v := by
  induction updates generalizing array with
  | nil => exact absurd h List.not_mem_nil
  | cons update updates ih =>
    rw [List.map_cons, List.nodup_cons] at hnodup
    rcases List.mem_cons.mp h with rfl | hrest
    · calc setAll array ((k, v) :: updates) k
          = setAll (Function.update array k v) updates k := rfl
        _ = Function.update array k v k := setAll_of_not_mem hnodup.1
        _ = v := Function.update_self k v array
    · exact ih hnodup.2 hrest

/-! ## Blocks -/

/-- Place `p` of block `n`. -/
def place (size n p : ℕ) : ℕ := n * size + p

theorem place_inj {size n m p q : ℕ} (hp : p < size) (hq : q < size)
    (h : place size n p = place size m q) : n = m ∧ p = q := by
  unfold place at h
  have hpos : 0 < size := Nat.zero_lt_of_lt hp
  have hblock : n = m := by
    calc n = (n * size + p) / size := by
          rw [Nat.mul_comm, Nat.mul_add_div hpos, Nat.div_eq_of_lt hp, Nat.add_zero]
      _ = (m * size + q) / size := by rw [h]
      _ = m := by rw [Nat.mul_comm, Nat.mul_add_div hpos, Nat.div_eq_of_lt hq, Nat.add_zero]
  subst hblock
  exact ⟨rfl, Nat.add_left_cancel h⟩

/-- The updates of places of one block, as updates of the array. -/
def blockUpdates (size n : ℕ) (delta : List (ℕ × ℕ)) : List (ℕ × ℕ) :=
  delta.map fun update ↦ (place size n update.1, update.2)

section Blocks

variable {size n : ℕ} {delta : List (ℕ × ℕ)} (hdelta : ∀ update ∈ delta, update.1 < size)

include hdelta

theorem setAll_block_of_mem (hnodup : (delta.map Prod.fst).Nodup) {p : ℕ}
    (h : (p, v) ∈ delta) : setAll array (blockUpdates size n delta) (place size n p) = v := by
  refine setAll_of_mem ?_ (List.mem_map.mpr ⟨(p, v), h, rfl⟩)
  rw [blockUpdates, List.map_map]
  have hplaces : delta.map (Prod.fst ∘ fun update ↦ (place size n update.1, update.2)) =
      (delta.map Prod.fst).map (place size n) := by
    rw [List.map_map]
    rfl
  rw [hplaces]
  refine hnodup.map_on fun p hp q hq heq ↦ ?_
  obtain ⟨update, hupdate, rfl⟩ := List.mem_map.mp hp
  obtain ⟨update', hupdate', rfl⟩ := List.mem_map.mp hq
  exact (place_inj (hdelta update hupdate) (hdelta update' hupdate') heq).2

/-- A place that no update names, in this block or another one. -/
theorem setAll_block_of_not_mem {m p : ℕ} (hp : p < size)
    (h : m = n → p ∉ delta.map Prod.fst) :
    setAll array (blockUpdates size n delta) (place size m p) = array (place size m p) := by
  refine setAll_of_not_mem fun hmem ↦ ?_
  rw [blockUpdates, List.map_map] at hmem
  obtain ⟨update, hupdate, heq⟩ := List.mem_map.mp hmem
  obtain ⟨hn, hplace⟩ := place_inj (hdelta update hupdate) hp heq
  exact h hn.symm (hplace ▸ List.mem_map_of_mem hupdate)

end Blocks

end FlatArray
