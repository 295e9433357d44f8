import Mathlib.Data.List.Range
import Mathlib.Algebra.Ring.Nat

/-!
# Ring buffers

The bytes of a ring follow one another by their positions, which are counted on and on; a position
stands for its remainder by the size of the ring. A window of consecutive positions is one block of
the memory behind the ring, or two of them where it goes around the end.
-/

namespace RingBuffer

variable {β : Type}

/-- Consecutive bytes of a memory. -/
def block (memory : ℕ → β) (p n : ℕ) : List β := (List.range n).map fun i ↦ memory (p + i)

/-- Consecutive bytes of a ring. -/
def window (memory : ℕ → β) (size p n : ℕ) : List β :=
  (List.range n).map fun i ↦ memory ((p + i) % size)

variable {memory : ℕ → β} {size p n m i : ℕ}

@[simp]
theorem length_block : (block memory p n).length = n := by simp [block]

@[simp]
theorem length_window : (window memory size p n).length = n := by simp [window]

theorem getElem?_block (h : i < n) : (block memory p n)[i]? = some (memory (p + i)) := by
  rw [block, List.getElem?_map, List.getElem?_range h]
  rfl

theorem block_add : block memory p (m + n) = block memory p m ++ block memory (p + m) n := by
  rw [block, block, block, List.range_add, List.map_append, List.map_map]
  simp only [Function.comp_def, Nat.add_assoc]

/-- The bytes behind a pointer. -/
theorem block_from (memory : ℕ → β) (p n : ℕ) :
    block (fun i ↦ memory (p + i)) 0 n = block memory p n := by
  simp only [block, Nat.zero_add]

/-- The beginning of what a memory holds. -/
theorem block_eq_append {front rest : List β}
    (h : block memory p (front ++ rest).length = front ++ rest) :
    block memory p front.length = front ∧
      block memory (p + front.length) rest.length = rest := by
  rw [List.length_append, block_add] at h
  exact List.append_inj h length_block

/-- A window is a block of the memory that repeats the ring. -/
theorem window_eq_block :
    window memory size p n = block (fun i ↦ memory (i % size)) p n := rfl

theorem getElem?_window (h : i < n) :
    (window memory size p n)[i]? = some (memory ((p + i) % size)) := by
  rw [window_eq_block, getElem?_block h]

theorem window_add : window memory size p (m + n) =
    window memory size p m ++ window memory size (p + m) n := by
  simp only [window_eq_block, block_add]

/-- The first of several pieces, and the window of the others. -/
theorem window_eq_append {front rest : List β}
    (h : window memory size p (front ++ rest).length = front ++ rest) :
    window memory size p front.length = front ∧
      window memory size (p + front.length) rest.length = rest := by
  rw [window_eq_block] at h
  exact block_eq_append h

/-- A window that ends before the end of the ring, or there. -/
theorem window_of_le (h : p % size + n ≤ size) :
    window memory size p n = block memory (p % size) n := by
  rw [window, block]
  apply List.map_congr_left
  intro i hi
  have hlt := List.mem_range.mp hi
  congr 1
  calc
    (p + i) % size = (p % size + i) % size := (Nat.mod_add_mod p size i).symm
    _ = p % size + i := Nat.mod_eq_of_lt (by omega)

/-- A window that goes around the end of the ring. -/
theorem window_of_lt (hsize : 0 < size) (hn : n ≤ size) (h : size < p % size + n) :
    window memory size p n =
      block memory (p % size) (size - p % size) ++ block memory 0 (n - (size - p % size)) := by
  have hp := Nat.mod_lt p hsize
  have hend : (p + (size - p % size)) % size = 0 := by
    calc
      _ = (p % size + (size - p % size)) % size := (Nat.mod_add_mod p size _).symm
      _ = size % size := by rw [Nat.add_sub_cancel' (Nat.le_of_lt hp)]
      _ = 0 := Nat.mod_self size
  have hsplit : n = (size - p % size) + (n - (size - p % size)) := by omega
  have hfront := @window_of_le β memory size p (size - p % size) (by omega)
  have hback := @window_of_le β memory size (p + (size - p % size)) (n - (size - p % size))
    (by omega)
  rw [hend] at hback
  calc
    _ = window memory size p ((size - p % size) + (n - (size - p % size))) := by rw [← hsplit]
    _ = _ := by rw [window_add, hfront, hback]

/-- Less than a whole round does not come back to where it began. -/
theorem mod_ne_add_mod (hpos : 0 < n) (hn : n < size) : p % size ≠ (p + n) % size := by
  intro h
  have hzero := Nat.sub_mod_eq_zero_of_mod_eq h.symm
  rw [Nat.add_sub_cancel_left, Nat.mod_eq_of_lt hn] at hzero
  exact absurd hzero (Nat.ne_of_gt hpos)

end RingBuffer
