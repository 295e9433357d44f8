import Mathlib.Init

/-!
# Programs that may leave early

A program over a state ends with a value, or leaves early with a result, as a function with several
`return` statements does. A triple says what holds at both ends; it composes along the text of the
program.
-/

namespace EarlyExit

/-- Programs over states `σ` that leave early with a result in `ρ` or end with a value in `α`. -/
def Prog (σ ρ α : Type) := σ → Except ρ α × σ

variable {σ ρ α β : Type}

instance : Monad (Prog σ ρ) where
  pure a := fun s ↦ (.ok a, s)
  bind prog next := fun s ↦
    match prog s with
    | (.ok a, t) => next a t
    | (.error r, t) => (.error r, t)

namespace Prog

def exit (r : ρ) : Prog σ ρ α := fun s ↦ (.error r, s)

def read (f : σ → α) : Prog σ ρ α := fun s ↦ (.ok (f s), s)

def modify (f : σ → σ) : Prog σ ρ Unit := fun s ↦ (.ok (), f s)

/-- A step that changes the state and has a value. -/
def act (f : σ → α × σ) : Prog σ ρ α := fun s ↦ (.ok (f s).1, (f s).2)

def exitIf (c : Prop) [Decidable c] (r : ρ) : Prog σ ρ Unit := if c then exit r else pure ()

/-- The value of an option, or an exit where there is none. -/
def orExit (a : Option α) (r : ρ) : Prog σ ρ α :=
  match a with
  | some a => pure a
  | none => exit r

def when (c : Prop) [Decidable c] (prog : Prog σ ρ Unit) : Prog σ ρ Unit :=
  if c then prog else pure ()

/-- One program after the other, for each item. -/
def forEach (items : List α) (body : α → Prog σ ρ Unit) : Prog σ ρ Unit :=
  match items with
  | [] => pure ()
  | item :: items => body item >>= fun _ ↦ forEach items body

/-- Where a program ends whose values are results as well. -/
def result (prog : Prog σ ρ ρ) (s : σ) : ρ × σ :=
  match prog s with
  | (.ok r, t) => (r, t)
  | (.error r, t) => (r, t)

theorem pure_apply (a : α) (s : σ) : (pure a : Prog σ ρ α) s = (.ok a, s) := rfl

theorem bind_apply (prog : Prog σ ρ α) (next : α → Prog σ ρ β) (s : σ) :
    (prog >>= next) s =
      match prog s with
      | (.ok a, t) => next a t
      | (.error r, t) => (.error r, t) :=
  rfl

theorem read_bind_apply (f : σ → α) (next : α → Prog σ ρ β) (s : σ) :
    (read f >>= next) s = next (f s) s := rfl

theorem modify_bind_apply (f : σ → σ) (next : Unit → Prog σ ρ α) (s : σ) :
    (modify f >>= next) s = next () (f s) := rfl

theorem exitIf_apply (c : Prop) [Decidable c] (r : ρ) (s : σ) :
    exitIf c r s = (if c then .error r else .ok (), s) := by
  unfold exitIf
  split
  · rfl
  · rfl

theorem exitIf_bind_of_pos {c : Prop} [Decidable c] (hc : c) (r : ρ) (next : Unit → Prog σ ρ α)
    (s : σ) : (exitIf c r >>= next) s = (.error r, s) := by
  rw [bind_apply, exitIf_apply, if_pos hc]

theorem exitIf_bind_of_neg {c : Prop} [Decidable c] (hc : ¬ c) (r : ρ) (next : Unit → Prog σ ρ α)
    (s : σ) : (exitIf c r >>= next) s = next () s := by
  rw [bind_apply, exitIf_apply, if_neg hc]

theorem pure_bind (a : α) (next : α → Prog σ ρ β) : (pure a : Prog σ ρ α) >>= next = next a := rfl

theorem bind_assoc {γ : Type} (prog : Prog σ ρ α) (next : α → Prog σ ρ β) (last : β → Prog σ ρ γ) :
    prog >>= next >>= last = prog >>= fun a ↦ next a >>= last := by
  funext s
  simp only [bind_apply]
  cases prog s with
  | mk outcome t =>
    cases outcome with
    | ok a => rfl
    | error r => rfl

theorem result_bind {prog : Prog σ ρ α} {next : α → Prog σ ρ ρ} {s t : σ} {a : α}
    (h : prog s = (.ok a, t)) : (prog >>= next).result s = (next a).result t := by
  simp only [result, bind_apply, h]

end Prog

/-! ## Triples -/

/-- From every state with `P` the program ends with `Q`, or leaves early with `E`. -/
def Triple (P : σ → Prop) (prog : Prog σ ρ α) (Q : α → σ → Prop) (E : ρ → σ → Prop) : Prop :=
  ∀ s, P s →
    match prog s with
    | (.ok a, t) => Q a t
    | (.error r, t) => E r t

namespace Triple

variable {P P' : σ → Prop} {prog : Prog σ ρ α} {Q Q' : α → σ → Prop} {E E' : ρ → σ → Prop}

theorem pure {a : α} (h : ∀ s, P s → Q a s) : Triple P (Pure.pure a : Prog σ ρ α) Q E :=
  fun s hs ↦ h s hs

theorem exit {r : ρ} (h : ∀ s, P s → E r s) : Triple P (Prog.exit r) Q E :=
  fun s hs ↦ h s hs

theorem read {f : σ → α} (h : ∀ s, P s → Q (f s) s) : Triple P (Prog.read f) Q E :=
  fun s hs ↦ h s hs

theorem modify {f : σ → σ} {Q : Unit → σ → Prop} (h : ∀ s, P s → Q () (f s)) :
    Triple P (Prog.modify f) Q E :=
  fun s hs ↦ h s hs

theorem act {f : σ → α × σ} (h : ∀ s, P s → Q (f s).1 (f s).2) : Triple P (Prog.act f) Q E :=
  fun s hs ↦ h s hs

theorem bind {next : α → Prog σ ρ β} {R : β → σ → Prop} (hprog : Triple P prog Q E)
    (hnext : ∀ a, Triple (Q a) (next a) R E) : Triple P (prog >>= next) R E := by
  intro s hs
  rw [Prog.bind_apply]
  have hmid := hprog s hs
  cases hrun : prog s with
  | mk outcome t =>
    rw [hrun] at hmid
    cases outcome with
    | ok a => exact hnext a t hmid
    | error r => exact hmid

/-- A value that is read is that of some state with the precondition. -/
theorem read_bind {f : σ → β} {next : β → Prog σ ρ α}
    (h : ∀ s, P s → Triple P (next (f s)) Q E) : Triple P (Prog.read f >>= next) Q E :=
  fun s hs ↦ h s hs s hs

/-- The same, for a continuation that depends on the state itself. -/
theorem read_bind_at {f : σ → β} {next : β → Prog σ ρ α}
    (h : ∀ s, P s → Triple (Eq s) (next (f s)) Q E) : Triple P (Prog.read f >>= next) Q E :=
  fun s hs ↦ h s hs s rfl

/-- Consequence. -/
theorem conseq (h : Triple P prog Q E) (hP : ∀ s, P' s → P s) (hQ : ∀ a s, Q a s → Q' a s)
    (hE : ∀ r s, E r s → E' r s) : Triple P' prog Q' E' := by
  intro s hs
  have hend := h s (hP s hs)
  cases hrun : prog s with
  | mk outcome t =>
    rw [hrun] at hend
    cases outcome with
    | ok a => exact hQ a t hend
    | error r => exact hE r t hend

/-- A fact in the precondition that is not about the state. -/
theorem fact {c : Prop} (h : c → Triple P prog Q E) : Triple (fun s ↦ c ∧ P s) prog Q E :=
  fun s hs ↦ h hs.1 s hs.2

theorem ite {c : Prop} [Decidable c] {other : Prog σ ρ α} (hpos : c → Triple P prog Q E)
    (hneg : ¬ c → Triple P other Q E) : Triple P (if c then prog else other) Q E := by
  by_cases hc : c
  · rw [if_pos hc]
    exact hpos hc
  · rw [if_neg hc]
    exact hneg hc

theorem exitIf {c : Prop} [Decidable c] {r : ρ} {Q : Unit → σ → Prop}
    (hexit : c → ∀ s, P s → E r s) (hnext : ¬ c → ∀ s, P s → Q () s) :
    Triple P (Prog.exitIf c r) Q E :=
  ite (fun hc ↦ exit (hexit hc)) fun hc ↦ pure (hnext hc)

theorem exitIf_bind {c : Prop} [Decidable c] {r : ρ} {next : Unit → Prog σ ρ α}
    (hexit : c → ∀ s, P s → E r s) (hnext : ¬ c → Triple P (next ()) Q E) :
    Triple P (Prog.exitIf c r >>= next) Q E := by
  by_cases hc : c
  · exact bind (exitIf (Q := fun _ _ ↦ False) hexit fun hnot ↦ absurd hc hnot) fun _ _ h ↦ h.elim
  · exact bind (exitIf hexit fun _ s hs ↦ hs) fun _ ↦ hnext hc

theorem orExit {a : Option α} {r : ρ} (hsome : ∀ b, a = some b → ∀ s, P s → Q b s)
    (hnone : a = none → ∀ s, P s → E r s) : Triple P (Prog.orExit a r) Q E := by
  cases a with
  | some b => exact pure (hsome b rfl)
  | none => exact exit (hnone rfl)

theorem when {c : Prop} [Decidable c] {prog : Prog σ ρ Unit} {Q : Unit → σ → Prop}
    (hprog : c → Triple P prog Q E) (hskip : ¬ c → ∀ s, P s → Q () s) :
    Triple P (Prog.when c prog) Q E :=
  ite hprog fun hc ↦ pure (hskip hc)

/-- The invariant of a loop speaks of the items that it has done. -/
theorem forEach_of_invariant {items : List α} {body : α → Prog σ ρ Unit} {I : List α → σ → Prop}
    (hbody : ∀ done item, item ∈ items → Triple (I done) (body item) (fun _ ↦ I (done ++ [item])) E)
    (done : List α) :
    Triple (I done) (Prog.forEach items body) (fun _ ↦ I (done ++ items)) E := by
  induction items generalizing done with
  | nil =>
    rw [List.append_nil]
    exact pure fun _ hs ↦ hs
  | cons item items ih =>
    refine bind (hbody done item List.mem_cons_self) fun _ ↦ ?_
    have hrest := ih (fun done' item' hmem ↦ hbody done' item' (List.mem_cons_of_mem _ hmem))
      (done ++ [item])
    rw [List.append_assoc] at hrest
    exact hrest

theorem forEach {items : List α} {body : α → Prog σ ρ Unit}
    (hbody : ∀ item ∈ items, Triple P (body item) (fun _ ↦ P) E) :
    Triple P (Prog.forEach items body) (fun _ ↦ P) E :=
  @forEach_of_invariant σ ρ α E items body (fun _ ↦ P) (fun _ item hmem ↦ hbody item hmem) []

/-- Where a program ends normally. -/
theorem ok (h : Triple P prog Q E) {s t : σ} {a : α} (hs : P s) (hrun : prog s = (.ok a, t)) :
    Q a t := by
  have hend := h s hs
  rw [hrun] at hend
  exact hend

/-- The state in which a program ends, in either way. -/
theorem snd {P' : σ → Prop} (h : Triple P prog (fun _ ↦ P') fun _ ↦ P') {s : σ} (hs : P s) :
    P' (prog s).2 := by
  have hend := h s hs
  cases hrun : prog s with
  | mk outcome t =>
    rw [hrun] at hend
    cases outcome with
    | ok a => exact hend
    | error r => exact hend

/-- A program that never leaves early ends normally. -/
theorem returns (h : Triple P prog Q fun _ _ ↦ False) {s : σ} (hs : P s) :
    ∃ a t, prog s = (.ok a, t) ∧ Q a t := by
  have hend := h s hs
  cases hrun : prog s with
  | mk outcome t =>
    rw [hrun] at hend
    cases outcome with
    | ok a => exact ⟨a, t, rfl, hend⟩
    | error r => exact hend.elim

/-- A program that leaves early or ends with a result, as a whole. -/
theorem result {prog : Prog σ ρ ρ} (h : Triple P prog E E) {s : σ} (hs : P s) :
    E (prog.result s).1 (prog.result s).2 := by
  have hend := h s hs
  unfold Prog.result
  cases hrun : prog s with
  | mk outcome t =>
    rw [hrun] at hend
    cases outcome with
    | ok r => exact hend
    | error r => exact hend

end Triple

/-! ## What a program keeps -/

/-- The program keeps the statement, however it ends. -/
def Keeps (P : σ → Prop) (prog : Prog σ ρ α) : Prop := Triple P prog (fun _ ↦ P) fun _ ↦ P

namespace Keeps

variable {P : σ → Prop} {prog other : Prog σ ρ α} {c : Prop} [Decidable c]

theorem pure {a : α} : Keeps P (Pure.pure a : Prog σ ρ α) := Triple.pure fun _ hs ↦ hs

theorem exit {r : ρ} : Keeps P (Prog.exit r : Prog σ ρ α) := Triple.exit fun _ hs ↦ hs

theorem read {f : σ → α} : Keeps P (Prog.read f : Prog σ ρ α) := Triple.read fun _ hs ↦ hs

theorem modify {f : σ → σ} (h : ∀ s, P s → P (f s)) : Keeps P (Prog.modify f : Prog σ ρ Unit) :=
  Triple.modify h

theorem act {f : σ → α × σ} (h : ∀ s, P s → P (f s).2) : Keeps P (Prog.act f : Prog σ ρ α) :=
  Triple.act h

theorem bind {next : α → Prog σ ρ β} (h : Keeps P prog) (hnext : ∀ a, Keeps P (next a)) :
    Keeps P (prog >>= next) :=
  Triple.bind h hnext

omit [Decidable c] in
theorem read_bind {f : σ → β} {next : β → Prog σ ρ α} (h : ∀ s, P s → Keeps P (next (f s))) :
    Keeps P (Prog.read f >>= next) :=
  Triple.read_bind h

theorem ite (hpos : c → Keeps P prog) (hneg : ¬ c → Keeps P other) :
    Keeps P (if c then prog else other) :=
  Triple.ite hpos hneg

theorem when {prog : Prog σ ρ Unit} (h : c → Keeps P prog) : Keeps P (Prog.when c prog) :=
  ite h fun _ ↦ pure

theorem exitIf {r : ρ} : Keeps P (Prog.exitIf c r : Prog σ ρ Unit) :=
  ite (fun _ ↦ exit) fun _ ↦ pure

omit [Decidable c] in
theorem orExit {a : Option α} {r : ρ} : Keeps P (Prog.orExit a r : Prog σ ρ α) :=
  Triple.orExit (fun _ _ _ hs ↦ hs) fun _ _ hs ↦ hs

end Keeps

end EarlyExit
