import Mathlib.Data.Finmap
import Mathlib.Data.List.Sort

/-!
# Hash tables and the order in which they are walked

A hash table is a finite map: its contents say nothing about the order in which an iteration
meets the entries. Programs that iterate receive that order from a `Walk`, which may be any
function that lists every entry once. Counting the entries with a property is the bookkeeping
that sharing arguments need, so the effect of one insertion or removal on a count is stated here.
-/

namespace HashTable

variable {K V : Type} [DecidableEq K]

theorem lookup_insert_ite (t : Finmap fun _ : K ↦ V) (k k' : K) (v : V) :
    (t.insert k v).lookup k' = if k' = k then some v else t.lookup k' := by
  by_cases h : k' = k
  · subst h
    simp
  · rw [if_neg h, Finmap.lookup_insert_of_ne t h]

theorem lookup_erase_ite (t : Finmap fun _ : K ↦ V) (k k' : K) :
    (t.erase k).lookup k' = if k' = k then none else t.lookup k' := by
  by_cases h : k' = k
  · subst h
    simp
  · rw [if_neg h, Finmap.lookup_erase_ne h]

/-- Writing back the value that a key already holds changes nothing. -/
theorem insert_lookup_self {t : Finmap fun _ : K ↦ V} {k : K} {v : V}
    (h : t.lookup k = some v) : t.insert k v = t := by
  apply Finmap.ext_lookup
  intro k'
  rw [lookup_insert_ite]
  split_ifs with hk
  · rw [hk, h]
  · rfl

theorem insert_erase_self (t : Finmap fun _ : K ↦ V) (k : K) (v : V) :
    (t.erase k).insert k v = t.insert k v := by
  apply Finmap.ext_lookup
  intro k'
  simp only [lookup_insert_ite, lookup_erase_ite]
  split_ifs <;> rfl

theorem erase_of_lookup_none {t : Finmap fun _ : K ↦ V} {k : K}
    (h : t.lookup k = none) : t.erase k = t := by
  apply Finmap.ext_lookup
  intro k'
  rw [lookup_erase_ite]
  split_ifs with hk
  · rw [hk, h]
  · rfl

/-- The number of entries. -/
def size (t : Finmap fun _ : K ↦ V) : ℕ := Multiset.card t.entries

/-! ## Counting entries -/

/-- The number of entries whose key and value satisfy `p`. -/
def count (p : K → V → Prop) [∀ k v, Decidable (p k v)] (t : Finmap fun _ : K ↦ V) : ℕ :=
  t.entries.countP fun e ↦ p e.1 e.2

variable (p : K → V → Prop) [∀ k v, Decidable (p k v)]

omit [DecidableEq K] in
@[simp]
theorem count_empty : count p (∅ : Finmap fun _ : K ↦ V) = 0 := by
  rfl

theorem count_insert_of_lookup_none {t : Finmap fun _ : K ↦ V} {k : K} (v : V)
    (h : t.lookup k = none) :
    count p (t.insert k v) = count p t + if p k v then 1 else 0 := by
  have hk : k ∉ t := Finmap.lookup_eq_none.mp h
  rw [count, Finmap.entries_insert_of_notMem hk, Multiset.countP_cons]
  rfl

theorem count_erase_of_lookup {t : Finmap fun _ : K ↦ V} {k : K} {v : V}
    (h : t.lookup k = some v) :
    count p (t.erase k) + (if p k v then 1 else 0) = count p t := by
  have hback : (t.erase k).insert k v = t := by
    rw [insert_erase_self, insert_lookup_self h]
  rw [← count_insert_of_lookup_none p v (by simp : (t.erase k).lookup k = none), hback]

theorem count_insert_of_lookup {t : Finmap fun _ : K ↦ V} {k : K} {w : V} (v : V)
    (h : t.lookup k = some w) :
    count p (t.insert k v) + (if p k w then 1 else 0) =
      count p t + if p k v then 1 else 0 := by
  rw [← insert_erase_self, count_insert_of_lookup_none p v (by simp),
    ← count_erase_of_lookup p h]
  omega

theorem count_pos_iff {t : Finmap fun _ : K ↦ V} :
    0 < count p t ↔ ∃ k v, t.lookup k = some v ∧ p k v := by
  rw [count, Multiset.countP_pos]
  constructor
  · rintro ⟨e, he, hp⟩
    exact ⟨e.1, e.2, Finmap.mem_lookup_iff.mpr he, hp⟩
  · rintro ⟨k, v, hl, hp⟩
    exact ⟨⟨k, v⟩, Finmap.mem_lookup_iff.mp hl, hp⟩

omit [DecidableEq K] in
theorem size_eq_count (t : Finmap fun _ : K ↦ V) : size t = count (fun _ _ ↦ True) t :=
  (Multiset.countP_eq_card.mpr fun _ _ ↦ trivial).symm

theorem size_insert_of_lookup_none {t : Finmap fun _ : K ↦ V} {k : K} (v : V)
    (h : t.lookup k = none) : size (t.insert k v) = size t + 1 := by
  rw [size_eq_count, size_eq_count, count_insert_of_lookup_none _ v h, if_pos trivial]

theorem size_insert_le (t : Finmap fun _ : K ↦ V) (k : K) (v : V) :
    size (t.insert k v) ≤ size t + 1 := by
  cases h : t.lookup k with
  | none => exact Nat.le_of_eq (size_insert_of_lookup_none v h)
  | some w =>
    have hcount := count_insert_of_lookup (fun _ _ ↦ True) v h
    rw [if_pos trivial, ← size_eq_count, ← size_eq_count] at hcount
    omega

theorem size_erase_le (t : Finmap fun _ : K ↦ V) (k : K) : size (t.erase k) ≤ size t := by
  cases h : t.lookup k with
  | none => rw [erase_of_lookup_none h]
  | some v =>
    rw [size_eq_count, size_eq_count, ← count_erase_of_lookup (fun _ _ ↦ True) h]
    exact Nat.le_add_right _ _

/-- An insertion that leaves an entry that is there. -/
def insertNew (t : Finmap fun _ : K ↦ V) (k : K) (v : V) : Finmap fun _ : K ↦ V :=
  if (t.lookup k).isSome then t else t.insert k v

theorem keys_insertNew (t : Finmap fun _ : K ↦ V) (k : K) (v : V) :
    (insertNew t k v).keys = insert k t.keys := by
  ext k'
  rw [Finmap.mem_keys, Finset.mem_insert, Finmap.mem_keys]
  unfold insertNew
  split_ifs with h
  · have hk : k ∈ t := Finmap.lookup_isSome.mp h
    refine ⟨Or.inr, fun hk' ↦ ?_⟩
    exact hk'.elim (fun heq ↦ heq ▸ hk) id
  · exact Finmap.mem_insert

omit [DecidableEq K] in
theorem card_keys (t : Finmap fun _ : K ↦ V) : t.keys.card = size t :=
  Multiset.card_map _ _

/-- A count of at most one leaves no room for two different keys. -/
theorem key_unique_of_count_le_one {t : Finmap fun _ : K ↦ V} (hcount : count p t ≤ 1)
    {k k' : K} {v v' : V} (h : t.lookup k = some v) (h' : t.lookup k' = some v')
    (hp : p k v) (hp' : p k' v') : k = k' := by
  by_contra hne
  have hl : (t.erase k).lookup k' = some v' := by
    rw [lookup_erase_ite, if_neg (Ne.symm hne), h']
  have hpos : 0 < count p (t.erase k) := (count_pos_iff p).mpr ⟨k', v', hl, hp'⟩
  have herase := count_erase_of_lookup p h
  rw [if_pos hp] at herase
  omega

/-! ## Iteration -/

/-- The entries of a table as pairs. -/
def pairs (t : Finmap fun _ : K ↦ V) : Multiset (K × V) :=
  t.entries.map fun e ↦ (e.1, e.2)

theorem mem_pairs {t : Finmap fun _ : K ↦ V} {k : K} {v : V} :
    (k, v) ∈ pairs t ↔ t.lookup k = some v := by
  rw [pairs, Multiset.mem_map]
  constructor
  · rintro ⟨e, he, heq⟩
    obtain ⟨rfl, rfl⟩ := Prod.mk.inj heq
    exact Finmap.mem_lookup_iff.mpr he
  · intro h
    exact ⟨⟨k, v⟩, Finmap.mem_lookup_iff.mp h, rfl⟩

/-- An iteration order: every entry of the table, once, in an order of its own choosing. -/
structure Walk (K V : Type) [DecidableEq K] where
  order : (Finmap fun _ : K ↦ V) → List (K × V)
  perm : ∀ t, (order t : Multiset (K × V)) = pairs t

namespace Walk

variable (w : Walk K V) (t : Finmap fun _ : K ↦ V)

@[simp]
theorem mem_order {k : K} {v : V} : (k, v) ∈ w.order t ↔ t.lookup k = some v := by
  rw [← mem_pairs, ← w.perm, Multiset.mem_coe]

theorem nodup_keys : ((w.order t).map Prod.fst).Nodup := by
  have h : ((w.order t).map Prod.fst : Multiset K) = t.entries.keys := by
    rw [← Multiset.map_coe, w.perm, pairs, Multiset.map_map]
    rfl
  rw [← Multiset.coe_nodup, h]
  exact Multiset.nodup_keys.mpr t.nodupKeys

/-- A loop that takes out one entry after the other ends with the empty table. -/
theorem foldlM_erase {σ : Type} {body : σ → K × V → Option σ}
    {I : (Finmap fun _ : K ↦ V) → σ → Prop}
    (hstep : ∀ t s k v s', I t s → t.lookup k = some v → body s (k, v) = some s' →
      I (t.erase k) s')
    {t : Finmap fun _ : K ↦ V} {s s' : σ} (h : I t s)
    (hloop : (w.order t).foldlM body s = some s') : I ∅ s' := by
  have horder : ∀ k v, t.lookup k = some v ↔ (k, v) ∈ w.order t :=
    fun k v ↦ (w.mem_order t).symm
  have hnodup := w.nodup_keys t
  generalize w.order t = order at hloop horder hnodup
  -- the table shrinks to the entries that the loop has still to visit
  induction order generalizing s t with
  | nil =>
    obtain rfl := Option.some.inj hloop
    have hempty : t = ∅ := by
      apply Finmap.ext_lookup
      intro k
      rw [Finmap.lookup_empty, Option.eq_none_iff_forall_ne_some]
      exact fun v hk ↦ List.not_mem_nil ((horder k v).mp hk)
    exact hempty ▸ h
  | cons entry order ih =>
    obtain ⟨k, v⟩ := entry
    obtain ⟨hnew, htail⟩ := List.nodup_cons.mp hnodup
    rw [List.foldlM_cons] at hloop
    obtain ⟨s₁, hbody, hloop⟩ := Option.bind_eq_some_iff.mp hloop
    have hk : t.lookup k = some v := (horder k v).mpr List.mem_cons_self
    refine ih (hstep t s k v s₁ h hk hbody) hloop (fun k' v' ↦ ?_) htail
    rw [lookup_erase_ite]
    by_cases heq : k' = k
    · rw [if_pos heq]
      refine iff_of_false (by simp) fun hmem ↦ hnew ?_
      exact List.mem_map.mpr ⟨(k', v'), hmem, heq⟩
    · rw [if_neg heq, horder, List.mem_cons, or_iff_right]
      exact fun hpair ↦ heq (Prod.mk.inj hpair).1

/-- Iteration in the order of a code of the keys. -/
def sortedBy (code : K → ℕ) (hcode : Function.Injective code) : Walk K V where
  order t := t.liftOn
    (fun l ↦ (l.entries.map fun e ↦ (e.1, e.2)).insertionSort fun a b ↦ code a.1 ≤ code b.1) (by
      intro l l' hperm
      have hpairs := hperm.map fun e : Σ _ : K, V ↦ (e.1, e.2)
      have htotal : Std.Total fun a b : K × V ↦ code a.1 ≤ code b.1 :=
        ⟨fun a b ↦ Nat.le_total (code a.1) (code b.1)⟩
      have htrans : IsTrans (K × V) fun a b ↦ code a.1 ≤ code b.1 :=
        ⟨fun a b c ↦ Nat.le_trans⟩
      refine List.Perm.eq_of_pairwise (fun a b ha hb hab hba ↦ ?_)
        (List.pairwise_insertionSort (fun a b : K × V ↦ code a.1 ≤ code b.1) _)
        (List.pairwise_insertionSort _ _)
        ((List.perm_insertionSort _ _).trans (hpairs.trans (List.perm_insertionSort _ _).symm))
      obtain ⟨e, he, rfl⟩ := List.mem_map.mp ((List.mem_insertionSort _).mp ha)
      obtain ⟨e', he', rfl⟩ :=
        List.mem_map.mp (hpairs.mem_iff.mpr ((List.mem_insertionSort _).mp hb))
      rw [l.nodupKeys.eq_of_fst_eq he he' (hcode (Nat.le_antisymm hab hba))])
  perm t := by
    induction t using Finmap.induction_on with
    | _ l =>
      rw [Finmap.liftOn_toFinmap]
      exact Multiset.coe_eq_coe.mpr (List.perm_insertionSort _ _)

/-- Iteration in the order of the keys. -/
def sorted : Walk ℕ V := sortedBy id Function.injective_id

end Walk

end HashTable
