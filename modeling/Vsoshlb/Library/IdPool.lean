import Vsoshlb.Library.HashTable

/-!
# Identifiers from a pool

A program hands out identifiers from a list of free ones and keeps the used ones in the entries of
a table. What matters is how often an identifier occurs in the two together: taking one from the
front of the list for a new entry, giving one back when its entry goes, and changing an entry under
its identifier all leave that number alone.
-/

namespace IdPool

open HashTable

variable {K V : Type} [DecidableEq K] (id : V → ℕ)

/-- The number of times `n` occurs among the free identifiers and the entries of the table. -/
def total (free : List ℕ) (t : Finmap fun _ : K ↦ V) (n : ℕ) : ℕ :=
  free.count n + count (fun _ v ↦ id v = n) t

omit [DecidableEq K] in
@[simp]
theorem total_empty (free : List ℕ) (n : ℕ) :
    total id free (∅ : Finmap fun _ : K ↦ V) n = free.count n := by
  simp [total]

theorem total_take {free : List ℕ} {t : Finmap fun _ : K ↦ V} {k : K} {v : V}
    (hk : t.lookup k = none) (n : ℕ) :
    total id free (t.insert k v) n = total id (id v :: free) t n := by
  unfold total
  rw [count_insert_of_lookup_none _ v hk, List.count_cons]
  by_cases h : id v = n
  · simp [h]
    omega
  · simp [h]

theorem total_give {free : List ℕ} {t : Finmap fun _ : K ↦ V} {k : K} {v : V}
    (hk : t.lookup k = some v) (n : ℕ) :
    total id (free ++ [id v]) (t.erase k) n = total id free t n := by
  have herase := count_erase_of_lookup (fun _ v ↦ id v = n) hk
  unfold total
  rw [List.count_append]
  by_cases h : id v = n
  · simp [h] at herase ⊢
    omega
  · simp [h] at herase ⊢
    omega

theorem total_update {free : List ℕ} {t : Finmap fun _ : K ↦ V} {k : K} {v w : V}
    (hk : t.lookup k = some v) (hid : id w = id v) (n : ℕ) :
    total id free (t.insert k w) n = total id free t n := by
  have hinsert := count_insert_of_lookup (fun _ v ↦ id v = n) w hk
  unfold total
  simp only [hid] at hinsert
  omega

theorem total_insert_of_ne {free : List ℕ} {t : Finmap fun _ : K ↦ V} {k : K} {v : V} {n : ℕ}
    (hk : t.lookup k = none) (hne : id v ≠ n) :
    total id free (t.insert k v) n = total id free t n := by
  unfold total
  rw [count_insert_of_lookup_none _ v hk, if_neg hne, Nat.add_zero]

variable {id} in
/-- An identifier that occurs at most once has at most one user. -/
theorem key_unique {free : List ℕ} {t : Finmap fun _ : K ↦ V} {n : ℕ}
    (hone : total id free t n ≤ 1) {k k' : K} {v v' : V} (h : t.lookup k = some v)
    (h' : t.lookup k' = some v') (hid : id v = n) (hid' : id v' = n) : k = k' :=
  key_unique_of_count_le_one (fun _ v ↦ id v = n) (by unfold total at hone; omega) h h' hid hid'

variable {id} in
/-- An identifier in use that occurs at most once is not free. -/
theorem not_mem_free {free : List ℕ} {t : Finmap fun _ : K ↦ V} {n : ℕ}
    (hone : total id free t n ≤ 1) {k : K} {v : V} (h : t.lookup k = some v) (hid : id v = n) :
    n ∉ free := by
  intro hmem
  have hfree := List.count_pos_iff.mpr hmem
  have hused : 0 < count (fun _ v ↦ id v = n) t := (count_pos_iff _).mpr ⟨k, v, h, hid⟩
  unfold total at hone
  omega

end IdPool
