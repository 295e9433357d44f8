import Mathlib.Algebra.BigOperators.Fin
import Mathlib.Data.Nat.Cast.Basic

/-!
# Machines side by side

Machines with one step function, each with a state of its own. An event names the machine that takes
it, so a list of events is one of the orders in which the machines can work. An amount that each
event adds to its machine adds up over all of them, whatever the order.
-/

namespace SideBySide

variable {C σ ε ο : Type} [DecidableEq C] {next : σ → ε → ο × σ}

/-- The events of all machines, with what each of them results in. -/
def run (next : σ → ε → ο × σ) : List (C × ε) → (C → σ) → List ο × (C → σ)
  | [], states => ([], states)
  | (c, e) :: events, states =>
    let (result, s) := next (states c) e
    let (results, states) := run next events (Function.update states c s)
    (result :: results, states)

theorem run_length (events : List (C × ε)) (states : C → σ) :
    (run next events states).1.length = events.length := by
  induction events generalizing states with
  | nil => rfl
  | cons event events ih =>
    rw [List.length_cons, ← ih (Function.update states event.1 (next (states event.1) event.2).2)]
    rfl

/-- One more event. -/
theorem run_concat (events : List (C × ε)) (c : C) (e : ε) (states : C → σ) :
    run next (events ++ [(c, e)]) states =
      let ended := run next events states
      (ended.1 ++ [(next (ended.2 c) e).1],
        Function.update ended.2 c (next (ended.2 c) e).2) := by
  induction events generalizing states with
  | nil => rfl
  | cons event events ih =>
    have hrest := ih (Function.update states event.1 (next (states event.1) event.2).2)
    simp only [List.cons_append, run, hrest]

/-- What every event preserves of the machine that takes it. -/
theorem run_invariant {I : σ → Prop} (hnext : ∀ s e, I s → I (next s e).2)
    (events : List (C × ε)) {states : C → σ} (hstates : ∀ c, I (states c)) (c : C) :
    I ((run next events states).2 c) := by
  induction events generalizing states with
  | nil => exact hstates c
  | cons event events ih =>
    apply ih
    intro c'
    by_cases h : c' = event.1
    · subst h
      rw [Function.update_self]
      exact hnext _ _ (hstates _)
    · rw [Function.update_of_ne h]
      exact hstates c'

section Totals

variable [Fintype C] {M : Type} [AddCommMonoid M] {value : σ → M} {amount : ο → M} {I : σ → Prop}

theorem sum_update (states : C → σ) (c : C) (s : σ) {more : M}
    (hs : value s = value (states c) + more) :
    ∑ c', value (Function.update states c s c') = ∑ c', value (states c') + more := by
  rw [← Finset.add_sum_erase _ _ (Finset.mem_univ c),
    ← Finset.add_sum_erase (a := c) _ (fun c' ↦ value (states c')) (Finset.mem_univ c)]
  have hothers : ∑ c' ∈ Finset.univ.erase c, value (Function.update states c s c') =
      ∑ c' ∈ Finset.univ.erase c, value (states c') := by
    apply Finset.sum_congr rfl
    intro c' hc'
    rw [Function.update_of_ne (Finset.ne_of_mem_erase hc')]
  rw [hothers, Function.update_self, hs]
  exact add_right_comm _ _ _

/-- An amount that every event adds to its machine, by its result, adds up over all machines. -/
theorem sum_run (hI : ∀ s e, I s → I (next s e).2)
    (hnext : ∀ s e, I s → value (next s e).2 = value s + amount (next s e).1)
    (events : List (C × ε)) {states : C → σ} (hstates : ∀ c, I (states c)) :
    ∑ c, value ((run next events states).2 c) =
      ∑ c, value (states c) + ((run next events states).1.map amount).sum := by
  induction events generalizing states with
  | nil => simp [run]
  | cons event events ih =>
    obtain ⟨c, e⟩ := event
    have hupdated : ∀ c', I (Function.update states c (next (states c) e).2 c') :=
      run_invariant hI [(c, e)] hstates
    calc
      _ = ∑ c', value (Function.update states c (next (states c) e).2 c') +
          ((run next events (Function.update states c (next (states c) e).2)).1.map amount).sum :=
        ih hupdated
      _ = ∑ c', value (states c') + amount (next (states c) e).1 +
          ((run next events
            (Function.update states c (next (states c) e).2)).1.map amount).sum := by
        rw [sum_update states c _ (hnext (states c) e (hstates c))]
      _ = _ := by
        rw [add_assoc]
        rfl

end Totals

/-- A count as a sum. -/
theorem sum_map_ite {R : Type} [AddCommMonoidWithOne R] (p : ο → Bool) (results : List ο) :
    (results.map fun result ↦ if p result then (1 : R) else 0).sum = (results.countP p : R) := by
  induction results with
  | nil => simp
  | cons result results ih =>
    rw [List.map_cons, List.sum_cons, ih, List.countP_cons]
    split_ifs
    · rw [Nat.cast_add, Nat.cast_one, add_comm]
    · rw [zero_add, Nat.add_zero]

end SideBySide
