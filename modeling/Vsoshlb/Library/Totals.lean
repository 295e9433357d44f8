import Mathlib.Algebra.BigOperators.Group.Multiset.Basic
import Mathlib.Algebra.BigOperators.Group.List.Basic
import Vsoshlb.Library.HashTable

/-!
# Totals of a hash table

A total adds up what a function makes of every entry of a table. Entries that are replaced, moved
to another table or taken in by an entry that is already there contribute what they did before,
whenever the function turns the operation on the values into a sum. Loops over a table add up in
every order of the iteration. What all values of a table have in common the operations keep.
-/

namespace HashTable

variable {K V M : Type} [DecidableEq K] [AddCommMonoid M]

/-- The sum of what `f` makes of the entries. -/
def total (f : K → V → M) (t : Finmap fun _ : K ↦ V) : M :=
  (t.entries.map fun e ↦ f e.1 e.2).sum

variable {f g : K → V → M} {t : Finmap fun _ : K ↦ V}

omit [DecidableEq K] in
@[simp]
theorem total_empty : total f (∅ : Finmap fun _ : K ↦ V) = 0 := rfl

theorem total_insert_of_lookup_none {k : K} (v : V) (h : t.lookup k = none) :
    total f (t.insert k v) = total f t + f k v := by
  have hk : k ∉ t := Finmap.lookup_eq_none.mp h
  rw [total, Finmap.entries_insert_of_notMem hk, Multiset.map_cons, Multiset.sum_cons, add_comm]
  rfl

theorem total_erase_of_lookup {k : K} {v : V} (h : t.lookup k = some v) :
    total f (t.erase k) + f k v = total f t := by
  have hback : (t.erase k).insert k v = t := by
    rw [insert_erase_self, insert_lookup_self h]
  rw [← total_insert_of_lookup_none v (by simp : (t.erase k).lookup k = none), hback]

/-- A new value for a key that counts the same. -/
theorem total_insert_of_lookup {k : K} {v w : V} (h : t.lookup k = some v)
    (hsame : f k w = f k v) : total f (t.insert k w) = total f t := by
  rw [← insert_erase_self, total_insert_of_lookup_none w (by simp), hsame, total_erase_of_lookup h]

omit [DecidableEq K] in
theorem total_add : total (fun k v ↦ f k v + g k v) t = total f t + total g t :=
  Multiset.sum_map_add

theorem total_congr (h : ∀ k v, t.lookup k = some v → f k v = g k v) : total f t = total g t := by
  unfold total
  congr 1
  apply Multiset.map_congr rfl
  intro e he
  exact h e.1 e.2 (Finmap.mem_lookup_iff.mpr he)

/-- A total as the sum along an iteration. -/
theorem total_order (w : Walk K V) : ((w.order t).map fun e ↦ f e.1 e.2).sum = total f t := by
  rw [← Multiset.sum_coe, ← Multiset.map_coe, w.perm, pairs, Multiset.map_map]
  rfl

omit [DecidableEq K] in
/-- A loop whose every step adds to the total. -/
theorem total_foldl {α : Type} {step : (Finmap fun _ : K ↦ V) → α → Finmap fun _ : K ↦ V}
    {gain : α → M} (hstep : ∀ t a, total f (step t a) = total f t + gain a) (as : List α) :
    total f (as.foldl step t) = total f t + (as.map gain).sum := by
  induction as generalizing t with
  | nil => simp
  | cons a as ih => rw [List.foldl_cons, ih, hstep, List.map_cons, List.sum_cons, add_assoc]

/-! ## What all values have -/

def All (P : V → Prop) (t : Finmap fun _ : K ↦ V) : Prop := ∀ k v, t.lookup k = some v → P v

variable {P : V → Prop}

theorem all_empty : All P (∅ : Finmap fun _ : K ↦ V) := by
  intro k v h
  rw [Finmap.lookup_empty] at h
  cases h

theorem All.insert (h : All P t) {v : V} (hv : P v) (k : K) : All P (t.insert k v) := by
  intro k' v' hlookup
  rw [lookup_insert_ite] at hlookup
  split_ifs at hlookup
  · exact Option.some.inj hlookup ▸ hv
  · exact h k' v' hlookup

theorem All.getD (h : All P t) {default : V} (hdefault : P default) (k : K) :
    P ((t.lookup k).getD default) := by
  cases hlookup : t.lookup k with
  | none => exact hdefault
  | some v => exact h k v hlookup

/-! ## Entries that are made when they are asked for -/

/-- The value of the key is changed, or the default value where there is none. -/
def modify (default : V) (t : Finmap fun _ : K ↦ V) (k : K) (change : V → V) :
    Finmap fun _ : K ↦ V :=
  t.insert k (change ((t.lookup k).getD default))

theorem All.modify (h : All P t) {default : V} (hdefault : P default) (k : K) {change : V → V}
    (hchange : ∀ v, P v → P (change v)) : All P (modify default t k change) :=
  h.insert (hchange _ (h.getD hdefault k)) k

theorem total_modify {default : V} {k : K} {change : V → V} {gain : M}
    (hdefault : f k default = 0) (hchange : ∀ v, f k (change v) = f k v + gain) :
    total f (modify default t k change) = total f t + gain := by
  unfold modify
  cases h : t.lookup k with
  | none =>
    rw [Option.getD_none, total_insert_of_lookup_none _ h, hchange, hdefault, zero_add]
  | some v =>
    rw [Option.getD_some, ← insert_erase_self, total_insert_of_lookup_none _ (by simp), hchange,
      ← add_assoc, total_erase_of_lookup h]

/-! ## Erasing in a loop -/

/-- A loop over the entries of a table that erases those of a kind. -/
def eraseAll (w : Walk K V) (kind : K → V → Bool) (t : Finmap fun _ : K ↦ V) :
    Finmap fun _ : K ↦ V :=
  (w.order t).foldl (fun t e ↦ if kind e.1 e.2 then t.erase e.1 else t) t

variable {kind : K → V → Bool}

theorem lookup_foldl_erase (entries : List (K × V)) (k : K) :
    (entries.foldl (fun t e ↦ if kind e.1 e.2 then t.erase e.1 else t) t).lookup k =
      if entries.any fun e ↦ decide (k = e.1) && kind e.1 e.2 then none else t.lookup k := by
  induction entries generalizing t with
  | nil => rfl
  | cons e entries ih =>
    rw [List.foldl_cons, ih, List.any_cons]
    cases entries.any fun e ↦ decide (k = e.1) && kind e.1 e.2 with
    | true => rw [Bool.or_true, if_pos rfl, if_pos rfl]
    | false =>
      rw [if_neg Bool.false_ne_true, Bool.or_false]
      cases kind e.1 e.2 with
      | true =>
        rw [if_pos rfl, lookup_erase_ite, Bool.and_true]
        simp only [decide_eq_true_eq]
      | false => rw [if_neg Bool.false_ne_true, Bool.and_false, if_neg Bool.false_ne_true]

theorem lookup_eraseAll (w : Walk K V) {k : K} {v : V} :
    (eraseAll w kind t).lookup k = some v ↔ t.lookup k = some v ∧ kind k v = false := by
  rw [eraseAll, lookup_foldl_erase]
  constructor
  · intro h
    split_ifs at h with herased
    refine ⟨h, Bool.eq_false_of_not_eq_true fun hkind ↦ herased ?_⟩
    exact List.any_eq_true.mpr ⟨(k, v), (w.mem_order t).mpr h, by simp [hkind]⟩
  · rintro ⟨h, hkind⟩
    rw [if_neg, h]
    intro herased
    obtain ⟨e, he, heq⟩ := List.any_eq_true.mp herased
    obtain ⟨rfl, hv⟩ : k = e.1 ∧ kind e.1 e.2 = true := by simpa using heq
    have hvalue : t.lookup e.1 = some e.2 := (w.mem_order t).mp he
    rw [h, Option.some.injEq] at hvalue
    rw [← hvalue, hkind] at hv
    exact Bool.false_ne_true hv

/-- Erasing what counts as zero. -/
theorem total_foldl_erase (hzero : ∀ k v, kind k v = true → f k v = 0) {entries : List (K × V)}
    (hnodup : (entries.map Prod.fst).Nodup)
    (hentries : ∀ k v, (k, v) ∈ entries → t.lookup k = some v) :
    total f (entries.foldl (fun t e ↦ if kind e.1 e.2 then t.erase e.1 else t) t) =
      total f t := by
  induction entries generalizing t with
  | nil => rfl
  | cons e entries ih =>
    obtain ⟨hnew, hrest⟩ := List.nodup_cons.mp hnodup
    have hself := hentries e.1 e.2 List.mem_cons_self
    have hlater (k : K) (v : V) (h : (k, v) ∈ entries) : t.lookup k = some v :=
      hentries k v (List.mem_cons_of_mem _ h)
    rw [List.foldl_cons]
    split_ifs with hkind
    · have herase : total f (t.erase e.1) = total f t := by
        rw [← total_erase_of_lookup hself, hzero _ _ hkind, add_zero]
      rw [ih hrest (fun k v hmem ↦ ?_), herase]
      have hne : k ≠ e.1 := by
        rintro rfl
        exact hnew (List.mem_map.mpr ⟨_, hmem, rfl⟩)
      rw [lookup_erase_ite, if_neg hne]
      exact hlater k v hmem
    · exact ih hrest hlater

/-- What is erased does not count any more. -/
theorem total_eraseAll (w : Walk K V) :
    total f (eraseAll w kind t) = total (fun k v ↦ if kind k v then 0 else f k v) t := by
  have hkept : total f (eraseAll w kind t) =
      total (fun k v ↦ if kind k v then 0 else f k v) (eraseAll w kind t) := by
    apply total_congr
    intro k v h
    rw [((lookup_eraseAll w).mp h).2, if_neg Bool.false_ne_true]
  rw [hkept]
  exact total_foldl_erase (fun k v hkind ↦ if_pos hkind) (w.nodup_keys t)
    fun k v hmem ↦ (w.mem_order t).mp hmem

end HashTable
