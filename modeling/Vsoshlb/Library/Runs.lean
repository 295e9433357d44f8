import Mathlib.Data.List.Infix

/-!
# Runs of a partial step function

A run feeds a list of actions to a step function that may fail to return; `List.foldlM` is that
run. An invariant that every step preserves holds at the end of every run. Where a step preserves
it under a condition only, the condition has to hold along the run, and where the condition is
exact, the invariant holds in every visited state precisely when the condition does.
-/

namespace Runs

variable {σ α : Type} {step : σ → α → Option σ}

/-- The invariant rule for a total step function. -/
theorem foldl_invariant {step : σ → α → σ} (I : σ → Prop) {s : σ} (hs : I s) (as : List α)
    (hstep : ∀ s a, I s → I (step s a)) : I (as.foldl step s) := by
  induction as generalizing s with
  | nil => exact hs
  | cons a as ih => exact ih (hstep s a hs)

/-- The same where the steps preserve the invariant for the actions at hand. -/
theorem foldl_invariant_of_mem {step : σ → α → σ} (I : σ → Prop) {s : σ} (hs : I s) {as : List α}
    (hstep : ∀ s, ∀ a ∈ as, I s → I (step s a)) : I (as.foldl step s) := by
  induction as generalizing s with
  | nil => exact hs
  | cons a as ih =>
    exact ih (hstep s a List.mem_cons_self hs) fun s b hb ↦ hstep s b (List.mem_cons_of_mem a hb)

/-- What one of the actions brings about under an invariant, and every action keeps, holds at the
end. -/
theorem foldl_reaches {step : σ → α → σ} {I Q : σ → Prop} (hI : ∀ s a, I s → I (step s a))
    (hQ : ∀ s a, Q s → Q (step s a)) {as : List α} {a : α} (ha : a ∈ as)
    (hreach : ∀ s, I s → Q (step s a)) {s : σ} (hs : I s) : Q (as.foldl step s) := by
  induction as generalizing s with
  | nil => cases ha
  | cons b as ih =>
    rw [List.foldl_cons]
    rcases List.mem_cons.mp ha with rfl | hlater
    · exact foldl_invariant Q (hreach s hs) as hQ
    · exact ih hlater (hI s b hs)

/-- What is required of every result is required of the one that there is. -/
theorem forall_eq_some_iff {call : Option σ} {s : σ} {P : σ → Prop} (hcall : call = some s) :
    (∀ t, call = some t → P t) ↔ P s := by
  simp only [hcall, Option.some.injEq, forall_eq']

/-- The same for a result with a reply. -/
theorem forall_result_iff {ρ : Type} {call : Option (ρ × σ)} {reply : ρ} {s : σ} {P : ρ → σ → Prop}
    (hcall : call = some (reply, s)) : (∀ r t, call = some (r, t) → P r t) ↔ P reply s :=
  Prod.forall.symm.trans
    (@forall_eq_some_iff _ call (reply, s) (fun result ↦ P result.1 result.2) hcall)

/-- `P` holds of every state the run passes through and the action it takes there. -/
def Along (step : σ → α → Option σ) (P : σ → α → Prop) : σ → List α → Prop
  | _, [] => True
  | s, a :: as => P s a ∧ ∀ s', step s a = some s' → Along step P s' as

/-- The invariant rule for runs whose steps all meet a condition. -/
theorem invariant_of_along {I : σ → Prop} {P : σ → α → Prop}
    (hstep : ∀ s a s', I s → P s a → step s a = some s' → I s') {s t : σ} {as : List α}
    (hs : I s) (halong : Along step P s as) (hrun : as.foldlM step s = some t) : I t := by
  induction as generalizing s with
  | nil =>
    obtain rfl : s = t := Option.some.inj hrun
    exact hs
  | cons a as ih =>
    rw [List.foldlM_cons] at hrun
    obtain ⟨s', hs', hrest⟩ := Option.bind_eq_some_iff.mp hrun
    exact ih (hstep s a s' hs halong.1 hs') (halong.2 s' hs') hrest

/-- A condition on the actions alone. -/
theorem along_of_forall {P : α → Prop} {as : List α} (h : ∀ a ∈ as, P a) (s : σ) :
    Along step (fun _ ↦ P) s as := by
  induction as generalizing s with
  | nil => trivial
  | cons a as ih =>
    exact ⟨h a List.mem_cons_self, fun s' _ ↦ ih (fun b hb ↦ h b (List.mem_cons_of_mem a hb)) s'⟩

theorem invariant {I : σ → Prop} (hstep : ∀ s a s', I s → step s a = some s' → I s')
    {s t : σ} {as : List α} (hs : I s) (hrun : as.foldlM step s = some t) : I t := by
  have halong : Along step (fun _ _ ↦ True) s as := along_of_forall (fun _ _ ↦ trivial) s
  exact invariant_of_along (fun s a s' h _ ↦ hstep s a s' h) hs halong hrun

/-- Where every action can be taken and keeps the invariant, a run gets to its end. -/
theorem exists_run {I : σ → Prop} {as : List α}
    (hstep : ∀ s, ∀ a ∈ as, I s → ∃ s', step s a = some s' ∧ I s') {s : σ} (hs : I s) :
    ∃ t, as.foldlM step s = some t ∧ I t := by
  induction as generalizing s with
  | nil => exact ⟨s, rfl, hs⟩
  | cons a as ih =>
    obtain ⟨s', hs', hI⟩ := hstep s a List.mem_cons_self hs
    obtain ⟨t, hrun, ht⟩ := ih (fun s b hb ↦ hstep s b (List.mem_cons_of_mem a hb)) hI
    refine ⟨t, ?_, ht⟩
    rw [List.foldlM_cons, hs']
    exact hrun

/-- What an action brings about in any state, and every action keeps, holds from then on. -/
theorem holds_since {Q : σ → Prop} {s t : σ} {earlier later : List α} {a : α}
    (hrun : (earlier ++ a :: later).foldlM step s = some t)
    (hreach : ∀ s s', step s a = some s' → Q s')
    (hkeep : ∀ s a s', Q s → step s a = some s' → Q s') : Q t := by
  rw [List.foldlM_append] at hrun
  obtain ⟨u, -, hrun⟩ := Option.bind_eq_some_iff.mp hrun
  rw [List.foldlM_cons] at hrun
  obtain ⟨u', hu', hrun⟩ := Option.bind_eq_some_iff.mp hrun
  exact invariant hkeep (hreach u u' hu') hrun

theorem Along.mono {P Q : σ → α → Prop} (hPQ : ∀ s a, P s a → Q s a) {s : σ} {as : List α}
    (h : Along step P s as) : Along step Q s as := by
  induction as generalizing s with
  | nil => trivial
  | cons a as ih => exact ⟨hPQ s a h.1, fun s' hs' ↦ ih (h.2 s' hs')⟩

/-- Two conditions that agree on the steps of a run in the states with an invariant, which the first
one keeps, hold along that run together. -/
theorem along_congr {I : σ → Prop} {P Q : σ → α → Prop} {as : List α}
    (hiff : ∀ s, ∀ a ∈ as, ∀ s', I s → step s a = some s' → (P s a ↔ Q s a))
    (hI : ∀ s, ∀ a ∈ as, ∀ s', I s → P s a → step s a = some s' → I s') {s t : σ} (hs : I s)
    (hrun : as.foldlM step s = some t) : Along step P s as ↔ Along step Q s as := by
  induction as generalizing s with
  | nil => exact Iff.rfl
  | cons a as ih =>
    rw [List.foldlM_cons] at hrun
    obtain ⟨s', hs', hrest⟩ := Option.bind_eq_some_iff.mp hrun
    have hrest_iff : ∀ u, I u → as.foldlM step u = some t →
        (Along step P u as ↔ Along step Q u as) :=
      fun u ↦ ih (fun v b hb ↦ hiff v b (List.mem_cons_of_mem a hb))
        fun v b hb ↦ hI v b (List.mem_cons_of_mem a hb)
    calc P s a ∧ (∀ s'', step s a = some s'' → Along step P s'' as)
        ↔ P s a ∧ (∀ s'', step s a = some s'' → Along step Q s'' as) := by
          refine and_congr_right fun hP ↦ forall_congr' fun s'' ↦ imp_congr_right fun hs'' ↦ ?_
          obtain rfl := Option.some.inj (hs'.symm.trans hs'')
          exact hrest_iff s' (hI s a List.mem_cons_self s' hs hP hs') hrest
      _ ↔ Q s a ∧ (∀ s'', step s a = some s'' → Along step Q s'' as) :=
          and_congr_left' (hiff s a List.mem_cons_self s' hs hs')

/-- `I` holds in every state that some initial part of the run ends in. -/
def Always (step : σ → α → Option σ) (I : σ → Prop) (s : σ) (as : List α) : Prop :=
  ∀ pre t, pre <+: as → pre.foldlM step s = some t → I t

theorem always_cons_iff {I : σ → Prop} {s : σ} {a : α} {as : List α} :
    Always step I s (a :: as) ↔ I s ∧ ∀ s', step s a = some s' → Always step I s' as := by
  constructor
  · intro h
    refine ⟨h [] s List.nil_prefix rfl, fun s' hs' pre t hpre hrun ↦ ?_⟩
    apply h (a :: pre) t (List.cons_prefix_cons.mpr ⟨rfl, hpre⟩)
    rw [List.foldlM_cons, hs']
    exact hrun
  · rintro ⟨hs, hrest⟩ pre t hpre hrun
    cases pre with
    | nil =>
      obtain rfl : s = t := Option.some.inj hrun
      exact hs
    | cons b pre =>
      obtain ⟨rfl, htail⟩ := List.cons_prefix_cons.mp hpre
      rw [List.foldlM_cons] at hrun
      obtain ⟨s', hs', hrun⟩ := Option.bind_eq_some_iff.mp hrun
      exact hrest s' hs' pre t htail hrun

theorem Along.of_prefix {P : σ → α → Prop} {s : σ} {as pre : List α} (h : Along step P s as)
    (hpre : pre <+: as) : Along step P s pre := by
  induction pre generalizing s as with
  | nil => trivial
  | cons a pre ih =>
    obtain ⟨as, rfl⟩ := hpre
    exact ⟨h.1, fun s' hs' ↦ ih (h.2 s' hs') (List.prefix_append pre as)⟩

theorem Along.append {P : σ → α → Prop} {s : σ} {as bs : List α} (has : Along step P s as)
    (hbs : ∀ t, as.foldlM step s = some t → Along step P t bs) : Along step P s (as ++ bs) := by
  induction as generalizing s with
  | nil => exact hbs s rfl
  | cons a as ih =>
    refine ⟨has.1, fun s' hs' ↦ ih (has.2 s' hs') fun t ht ↦ hbs t ?_⟩
    rw [List.foldlM_cons, hs']
    exact ht

theorem always_of_along {I : σ → Prop} {P : σ → α → Prop}
    (hstep : ∀ s a s', I s → P s a → step s a = some s' → I s') {s : σ} {as : List α}
    (hs : I s) (halong : Along step P s as) : Always step I s as :=
  fun _ _ hpre hrun ↦ invariant_of_along hstep hs (halong.of_prefix hpre) hrun

theorem Always.mono {I I' : σ → Prop} (hI : ∀ s, I s → I' s) {s : σ} {as : List α}
    (h : Always step I s as) : Always step I' s as :=
  fun pre t hpre hrun ↦ hI t (h pre t hpre hrun)

/-- What follows from an invariant of the visited states holds along the run. -/
theorem Always.along {I : σ → Prop} {P : σ → α → Prop} (hP : ∀ s a, I s → P s a) {s : σ}
    {as : List α} (h : Always step I s as) : Along step P s as := by
  induction as generalizing s with
  | nil => trivial
  | cons a as ih =>
    obtain ⟨hs, hrest⟩ := always_cons_iff.mp h
    exact ⟨hP s a hs, fun s' hs' ↦ ih (hrest s' hs')⟩

/-- An exact step condition gives an exact run condition: under a background invariant `J`, the
states visited all satisfy `I` if and only if the condition holds along the run. -/
theorem always_iff_along {I J : σ → Prop} {P : σ → α → Prop}
    (hJ : ∀ s a s', J s → step s a = some s' → J s')
    (hstep : ∀ s a, J s → I s → (P s a ↔ ∀ s', step s a = some s' → I s'))
    {s : σ} {as : List α} (hs : I s) (hJs : J s) :
    Always step I s as ↔ Along step P s as := by
  induction as generalizing s with
  | nil =>
    refine ⟨fun _ ↦ trivial, fun _ pre t hpre hrun ↦ ?_⟩
    rw [List.prefix_nil.mp hpre] at hrun
    obtain rfl : s = t := Option.some.inj hrun
    exact hs
  | cons a as ih =>
    have hstep_s := hstep s a hJs hs
    rw [always_cons_iff]
    constructor
    · rintro ⟨-, hrest⟩
      have hI : ∀ s', step s a = some s' → I s' := fun s' hs' ↦
        hrest s' hs' [] s' List.nil_prefix rfl
      exact ⟨hstep_s.mpr hI, fun s' hs' ↦ (ih (hI s' hs') (hJ s a s' hJs hs')).mp (hrest s' hs')⟩
    · rintro ⟨hP, hrest⟩
      exact ⟨hs, fun s' hs' ↦
        (ih (hstep_s.mp hP s' hs') (hJ s a s' hJs hs')).mpr (hrest s' hs')⟩

end Runs
