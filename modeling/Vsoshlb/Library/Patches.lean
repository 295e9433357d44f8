import Mathlib.Data.List.Infix
import Mathlib.Algebra.Ring.Nat

/-!
# Patches of a list

A patch sets single places of a list. The patch from one list to another of the same length has the
places where they differ, in order. A machine that answers every step with the patch of its view can
be followed from the answers alone.
-/

namespace Patches

variable {α : Type}

/-- The list after a patch. -/
def apply (as : List α) (patch : List (ℕ × α)) : List α :=
  patch.foldl (fun as change ↦ as.set change.1 change.2) as

@[simp]
theorem length_apply (as : List α) (patch : List (ℕ × α)) :
    (apply as patch).length = as.length := by
  unfold apply
  induction patch generalizing as with
  | nil => rfl
  | cons change patch ih => rw [List.foldl_cons, ih, List.length_set]

/-- The places are in order, and each of them changes. -/
structure Changes (as : List α) (patch : List (ℕ × α)) : Prop where
  sorted : (patch.map Prod.fst).Pairwise (· < ·)
  changed : ∀ change ∈ patch, ∃ a, as[change.1]? = some a ∧ a ≠ change.2

theorem changes_nil (as : List α) : Changes as [] where
  sorted := List.Pairwise.nil
  changed _ hmem := absurd hmem List.not_mem_nil

/-! ## The patch between two lists -/

section Diff

variable [DecidableEq α]

/-- The changes from the first list to the second one, with the places counted from `i`. -/
def diff (i : ℕ) : List α → List α → List (ℕ × α)
  | old :: olds, new :: news =>
    if new ≠ old then (i, new) :: diff (i + 1) olds news else diff (i + 1) olds news
  | _, _ => []

variable {old new : List α} {i : ℕ}

theorem mem_diff {change : ℕ × α} :
    change ∈ diff i old new ↔
      ∃ p a b, old[p]? = some a ∧ new[p]? = some b ∧ b ≠ a ∧ change = (i + p, b) := by
  induction old generalizing i new with
  | nil => simp [diff]
  | cons a old ih =>
    cases new with
    | nil => simp [diff]
    | cons b new =>
      have hlater : change ∈ diff (i + 1) old new ↔ ∃ p a' b', (a :: old)[p + 1]? = some a' ∧
          (b :: new)[p + 1]? = some b' ∧ b' ≠ a' ∧ change = (i + (p + 1), b') := by
        rw [ih]
        simp only [List.getElem?_cons_succ, Nat.add_assoc, Nat.add_comm 1]
      have hmem : change ∈ diff i (a :: old) (b :: new) ↔
          (b ≠ a ∧ change = (i, b)) ∨ change ∈ diff (i + 1) old new := by
        rw [diff]
        by_cases hne : b ≠ a
        · rw [if_pos hne, List.mem_cons, and_iff_right hne]
        · rw [if_neg hne, or_iff_right fun hboth ↦ hne hboth.1]
      rw [hmem, hlater]
      constructor
      · rintro (⟨hne, hchange⟩ | ⟨p, a', b', ha, hb, hne, hchange⟩)
        · exact ⟨0, a, b, rfl, rfl, hne, hchange⟩
        · exact ⟨p + 1, a', b', ha, hb, hne, hchange⟩
      · rintro ⟨p, a', b', ha, hb, hne, hchange⟩
        cases p with
        | zero =>
          obtain rfl : a = a' := by simpa using ha
          obtain rfl : b = b' := by simpa using hb
          exact .inl ⟨hne, hchange⟩
        | succ p => exact .inr ⟨p, a', b', ha, hb, hne, hchange⟩

theorem le_of_mem_diff {change : ℕ × α} (h : change ∈ diff i old new) : i ≤ change.1 := by
  obtain ⟨p, a, b, -, -, -, rfl⟩ := mem_diff.mp h
  exact Nat.le_add_right i p

theorem diff_sorted : ((diff i old new).map Prod.fst).Pairwise (· < ·) := by
  induction old generalizing i new with
  | nil => exact List.Pairwise.nil
  | cons a old ih =>
    cases new with
    | nil => exact List.Pairwise.nil
    | cons b new =>
      rw [diff]
      split_ifs
      · rw [List.map_cons, List.pairwise_cons]
        refine ⟨fun p hp ↦ ?_, ih⟩
        obtain ⟨change, hchange, rfl⟩ := List.mem_map.mp hp
        exact le_of_mem_diff hchange
      · exact ih

theorem diff_changes (old new : List α) : Changes old (diff 0 old new) where
  sorted := diff_sorted
  changed change hmem := by
    obtain ⟨p, a, b, ha, -, hne, rfl⟩ := mem_diff.mp hmem
    rw [Nat.zero_add]
    exact ⟨a, ha, hne.symm⟩

/-- The changes of the rest of two lists, behind lists that agree. -/
theorem apply_append_diff {front : List α} (h : new.length = old.length) :
    apply (front ++ old) (diff front.length old new) = front ++ new := by
  induction old generalizing front new with
  | nil =>
    obtain rfl : new = [] := List.length_eq_zero_iff.mp h
    rfl
  | cons a old ih =>
    obtain ⟨b, new, rfl⟩ := List.exists_cons_of_length_eq_add_one h
    have hlength : new.length = old.length := by simpa using h
    have hrest := @ih new (front ++ [b]) hlength
    rw [List.length_append, List.length_singleton, List.append_assoc, List.append_assoc,
      List.singleton_append, List.singleton_append] at hrest
    rw [diff]
    split_ifs with hne
    · have hset : (front ++ a :: old).set front.length b = front ++ b :: old := by
        rw [List.set_append_right _ _ le_rfl, Nat.sub_self, List.set_cons_zero]
      calc apply (front ++ a :: old) ((front.length, b) :: diff (front.length + 1) old new)
          = apply ((front ++ a :: old).set front.length b) (diff (front.length + 1) old new) := rfl
        _ = front ++ b :: new := by rw [hset, hrest]
    · obtain rfl : b = a := not_not.mp hne
      exact hrest

theorem apply_diff (h : new.length = old.length) : apply old (diff 0 old new) = new :=
  @apply_append_diff α _ old new [] h

end Diff

/-! ## Following a machine -/

section Replay

variable {σ β δ : Type}

/-- A run of a machine with its answers. -/
def answers (step : σ → β → Option (δ × σ)) : σ → List β → Option (List δ × σ)
  | s, [] => some ([], s)
  | s, b :: bs => do
    let (d, t) ← step s b
    let (ds, u) ← answers step t bs
    return (d :: ds, u)

/-- The list after a history of answers. -/
def replay (patchOf : δ → List (ℕ × α)) (as : List α) (ds : List δ) : List α :=
  ds.foldl (fun as d ↦ apply as (patchOf d)) as

@[simp]
theorem length_replay (patchOf : δ → List (ℕ × α)) (as : List α) (ds : List δ) :
    (replay patchOf as ds).length = as.length := by
  unfold replay
  induction ds generalizing as with
  | nil => rfl
  | cons d ds ih => rw [List.foldl_cons, ih, length_apply]

/-- If every step answers with the changes of the view, the replay of the answers is the view, and
no answer has a change that changes nothing. -/
theorem answers_replay {step : σ → β → Option (δ × σ)} {patchOf : δ → List (ℕ × α)}
    {view : σ → List α} {I : σ → Prop}
    (hstep : ∀ s b, I s → ∃ d t, step s b = some (d, t) ∧ I t ∧
      apply (view s) (patchOf d) = view t ∧ Changes (view s) (patchOf d))
    {s : σ} (hs : I s) (bs : List β) :
    ∃ ds t, answers step s bs = some (ds, t) ∧ I t ∧ replay patchOf (view s) ds = view t ∧
      ∀ front d back, ds = front ++ d :: back →
        Changes (replay patchOf (view s) front) (patchOf d) := by
  induction bs generalizing s with
  | nil =>
    refine ⟨[], s, rfl, hs, rfl, fun front d back hsplit ↦ ?_⟩
    exact absurd hsplit.symm (List.append_ne_nil_of_right_ne_nil _ (List.cons_ne_nil _ _))
  | cons b bs ih =>
    obtain ⟨d, t, hfirst, ht, happly, hchanges⟩ := hstep s b hs
    obtain ⟨ds, u, hrest, hu, hreplay, hall⟩ := ih ht
    refine ⟨d :: ds, u, by simp [answers, hfirst, hrest], hu, ?_, ?_⟩
    · calc replay patchOf (view s) (d :: ds)
          = replay patchOf (apply (view s) (patchOf d)) ds := rfl
        _ = view u := by rw [happly, hreplay]
    · intro front d' back hsplit
      cases front with
      | nil =>
        obtain ⟨rfl, -⟩ := List.cons.inj hsplit
        exact hchanges
      | cons first front =>
        obtain ⟨rfl, hlater⟩ := List.cons.inj hsplit
        have hlaterChanges := hall front d' back hlater
        rw [← happly] at hlaterChanges
        exact hlaterChanges

end Replay

end Patches
