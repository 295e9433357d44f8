import Mathlib.Data.Finset.Card

/-!
# A set with a largest size

A set takes new elements while there is room. It never has more than its largest size, it has
nothing but what it was given, and as long as there is room left it has everything that it was
given.
-/

namespace BoundedLog

variable {α : Type} [DecidableEq α] (limit : ℕ) (p : α → Prop) [DecidablePred p]

/-- The set after an element is offered, which has to meet `p`. -/
def offer (log : Finset α) (a : α) : Finset α :=
  if p a ∧ a ∉ log ∧ log.card < limit then insert a log else log

def offerAll (log : Finset α) (as : List α) : Finset α := as.foldl (offer limit p) log

variable {limit p} {log : Finset α} {as : List α} {a b : α}

theorem subset_offer (log : Finset α) (a : α) : log ⊆ offer limit p log a := by
  unfold offer
  split_ifs
  · exact Finset.subset_insert a log
  · exact Finset.Subset.refl log

theorem card_offer_le (h : log.card ≤ limit) : (offer limit p log a).card ≤ limit := by
  unfold offer
  split_ifs with hroom
  · rw [Finset.card_insert_of_notMem hroom.2.1]
    exact hroom.2.2
  · exact h

theorem mem_of_mem_offer (h : b ∈ offer limit p log a) : b ∈ log ∨ b = a ∧ p a := by
  unfold offer at h
  split_ifs at h with hroom
  · rcases Finset.mem_insert.mp h with heq | hmem
    · exact Or.inr ⟨heq, hroom.1⟩
    · exact Or.inl hmem
  · exact Or.inl h

/-- An element that is offered while there is room. -/
theorem mem_offer (hp : p a) (hroom : (offer limit p log a).card < limit) :
    a ∈ offer limit p log a := by
  by_cases hmem : a ∈ log
  · exact subset_offer log a hmem
  · have hcard : log.card < limit :=
      lt_of_le_of_lt (Finset.card_le_card (subset_offer log a)) hroom
    rw [offer, if_pos ⟨hp, hmem, hcard⟩]
    exact Finset.mem_insert_self a log

theorem subset_offerAll (log : Finset α) (as : List α) : log ⊆ offerAll limit p log as := by
  induction as generalizing log with
  | nil => exact Finset.Subset.refl log
  | cons a as ih => exact (subset_offer log a).trans (ih (offer limit p log a))

theorem card_offerAll_le (h : log.card ≤ limit) : (offerAll limit p log as).card ≤ limit := by
  induction as generalizing log with
  | nil => exact h
  | cons a as ih => exact ih (card_offer_le h)

theorem mem_of_mem_offerAll (h : b ∈ offerAll limit p log as) : b ∈ log ∨ b ∈ as ∧ p b := by
  induction as generalizing log with
  | nil => exact Or.inl h
  | cons a as ih =>
    rcases ih h with hmem | ⟨hlater, hp⟩
    · rcases mem_of_mem_offer hmem with hlog | ⟨rfl, hp⟩
      · exact Or.inl hlog
      · exact Or.inr ⟨List.mem_cons_self, hp⟩
    · exact Or.inr ⟨List.mem_cons_of_mem a hlater, hp⟩

/-- While there is room left, nothing has been turned away. -/
theorem mem_offerAll (hroom : (offerAll limit p log as).card < limit) (ha : a ∈ as) (hp : p a) :
    a ∈ offerAll limit p log as := by
  induction as generalizing log with
  | nil => cases ha
  | cons b as ih =>
    rcases List.mem_cons.mp ha with rfl | hlater
    · have hsubset := @subset_offerAll α _ limit p _ (offer limit p log a) as
      exact hsubset (mem_offer hp (lt_of_le_of_lt (Finset.card_le_card hsubset) hroom))
    · exact ih hroom hlater

end BoundedLog
