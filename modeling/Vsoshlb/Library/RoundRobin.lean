import Mathlib.Data.List.Forall2
import Mathlib.Data.Option.Basic
import Mathlib.Order.Defs.PartialOrder

/-!
# Round robin with an early return

Some members take turns on a shared state until one of them returns a result. A turn may also get
stuck, and the loop gives up when its fuel is spent. Five rules cover the loop: related members
and states give related results, an invariant of the turns holds of the result, an invariant that
counts the turns says where the loop stops, idle members can be left out, and turns that always
succeed and keep making progress return within the fuel.
-/

namespace RoundRobin

/-- What one turn ends with: an updated member and state, or the result of the whole loop. -/
inductive Turn (γ σ ρ : Type) where
  | going (member : γ) (state : σ)
  | returned (result : ρ)
deriving DecidableEq, Repr

variable {γ γ' σ σ' ρ ρ' : Type}

/-- One turn for every member, in order. -/
def pass (visit : γ → σ → Option (Turn γ σ ρ)) : List γ → σ → Option (Turn (List γ) σ ρ)
  | [], s => some (.going [] s)
  | g :: gs, s =>
    match visit g s with
    | none => none
    | some (.returned r) => some (.returned r)
    | some (.going g s) =>
      match pass visit gs s with
      | none => none
      | some (.returned r) => some (.returned r)
      | some (.going gs s) => some (.going (g :: gs) s)

theorem pass_cons (visit : γ → σ → Option (Turn γ σ ρ)) (g : γ) (gs : List γ) (s : σ) :
    pass visit (g :: gs) s =
      match visit g s with
      | none => none
      | some (.returned r) => some (.returned r)
      | some (.going g s) =>
        match pass visit gs s with
        | none => none
        | some (.returned r) => some (.returned r)
        | some (.going gs s) => some (.going (g :: gs) s) := rfl

/-- At most `fuel` passes. -/
def loop (visit : γ → σ → Option (Turn γ σ ρ)) : ℕ → List γ → σ → Option ρ
  | 0, _, _ => none
  | fuel + 1, gs, s =>
    match pass visit gs s with
    | none => none
    | some (.returned r) => some r
    | some (.going gs s) => loop visit fuel gs s

/-! ## Related runs -/

/-- Both turns end in the same way, with related values. -/
inductive Turn.Rel (G : γ → γ' → Prop) (S : σ → σ' → Prop) (P : ρ → ρ' → Prop) :
    Turn γ σ ρ → Turn γ' σ' ρ' → Prop where
  | going {g g' s s'} : G g g' → S s s' → Turn.Rel G S P (.going g s) (.going g' s')
  | returned {r r'} : P r r' → Turn.Rel G S P (.returned r) (.returned r')

section Rel

variable {G : γ → γ' → Prop} {S : σ → σ' → Prop} {P : ρ → ρ' → Prop}
variable {visit : γ → σ → Option (Turn γ σ ρ)} {visit' : γ' → σ' → Option (Turn γ' σ' ρ')}

theorem pass_rel
    (hvisit : ∀ g g' s s', G g g' → S s s' →
      Option.Rel (Turn.Rel G S P) (visit g s) (visit' g' s'))
    {gs : List γ} {gs' : List γ'} (hgs : List.Forall₂ G gs gs') {s : σ} {s' : σ'} (hs : S s s') :
    Option.Rel (Turn.Rel (List.Forall₂ G) S P) (pass visit gs s) (pass visit' gs' s') := by
  induction hgs generalizing s s' with
  | nil => exact .some (.going .nil hs)
  | @cons g g' gs gs' hg _ ih =>
    have hturn := hvisit g g' s s' hg hs
    unfold pass
    generalize visit g s = turn, visit' g' s' = turn' at hturn ⊢
    rcases hturn with ⟨⟨hg, hs⟩ | hr⟩ | _
    · have hrest := ih hs
      dsimp only
      generalize pass visit gs _ = rest, pass visit' gs' _ = rest' at hrest ⊢
      rcases hrest with ⟨⟨hgs, hs⟩ | hr⟩ | _
      · exact .some (.going (.cons hg hgs) hs)
      · exact .some (.returned hr)
      · exact .none
    · exact .some (.returned hr)
    · exact .none

theorem loop_rel
    (hvisit : ∀ g g' s s', G g g' → S s s' →
      Option.Rel (Turn.Rel G S P) (visit g s) (visit' g' s'))
    (fuel : ℕ) {gs : List γ} {gs' : List γ'} (hgs : List.Forall₂ G gs gs') {s : σ} {s' : σ'}
    (hs : S s s') : Option.Rel P (loop visit fuel gs s) (loop visit' fuel gs' s') := by
  induction fuel generalizing gs gs' s s' with
  | zero => exact .none
  | succ fuel ih =>
    have hturn := pass_rel hvisit hgs hs
    unfold loop
    generalize pass visit gs s = turn, pass visit' gs' s' = turn' at hturn ⊢
    rcases hturn with ⟨⟨hgs, hs⟩ | hr⟩ | _
    · exact ih hgs hs
    · exact .some hr
    · exact .none

/-- Where the second run computes `f` of the first run's result at every return, it does so for
the whole loop. -/
theorem loop_eq_map {f : ρ → ρ'}
    (hvisit : ∀ g g' s s', G g g' → S s s' →
      Option.Rel (Turn.Rel G S fun r r' ↦ r' = f r) (visit g s) (visit' g' s'))
    (fuel : ℕ) {gs : List γ} {gs' : List γ'} (hgs : List.Forall₂ G gs gs') {s : σ} {s' : σ'}
    (hs : S s s') : loop visit' fuel gs' s' = (loop visit fuel gs s).map f := by
  have hloop := loop_rel hvisit fuel hgs hs
  generalize loop visit fuel gs s = r, loop visit' fuel gs' s' = r' at hloop ⊢
  rcases hloop with rfl | _
  · rfl
  · rfl

end Rel

/-! ## Invariants -/

/-- A turn that ends in a member, a state or a result with the given properties. -/
def Turn.Holds (G : γ → Prop) (S : σ → Prop) (P : ρ → Prop) : Turn γ σ ρ → Prop
  | .going g s => G g ∧ S s
  | .returned r => P r

section Holds

variable {G : γ → Prop} {S : σ → Prop} {P : ρ → Prop} {visit : γ → σ → Option (Turn γ σ ρ)}

theorem pass_holds
    (hvisit : ∀ g s turn, G g → S s → visit g s = some turn → turn.Holds G S P)
    {gs : List γ} (hgs : ∀ g ∈ gs, G g) {s : σ} (hs : S s) {turn : Turn (List γ) σ ρ}
    (hpass : pass visit gs s = some turn) : turn.Holds (fun gs ↦ ∀ g ∈ gs, G g) S P := by
  induction gs generalizing s turn with
  | nil =>
    obtain rfl := Option.some.inj hpass
    exact ⟨hgs, hs⟩
  | cons g gs ih =>
    obtain ⟨hg, hgs⟩ := List.forall_mem_cons.mp hgs
    unfold pass at hpass
    cases hturn : visit g s with
    | none => simp [hturn] at hpass
    | some first =>
      have hfirst := hvisit g s first hg hs hturn
      cases first with
      | returned r =>
        obtain rfl : Turn.returned r = turn := by simpa [hturn] using hpass
        exact hfirst
      | going g' s' =>
        cases hrest : pass visit gs s' with
        | none => simp [hturn, hrest] at hpass
        | some rest =>
          have hturns := ih hgs hfirst.2 hrest
          cases rest with
          | returned r =>
            obtain rfl : Turn.returned r = turn := by simpa [hturn, hrest] using hpass
            exact hturns
          | going gs' s'' =>
            obtain rfl : Turn.going (g' :: gs') s'' = turn := by
              simpa [hturn, hrest] using hpass
            exact ⟨List.forall_mem_cons.mpr ⟨hfirst.1, hturns.1⟩, hturns.2⟩

/-- Whatever the loop returns satisfies the property that every returning turn establishes. -/
theorem loop_holds
    (hvisit : ∀ g s turn, G g → S s → visit g s = some turn → turn.Holds G S P)
    {fuel : ℕ} {gs : List γ} (hgs : ∀ g ∈ gs, G g) {s : σ} (hs : S s) {r : ρ}
    (hloop : loop visit fuel gs s = some r) : P r := by
  induction fuel generalizing gs s with
  | zero => simp [loop] at hloop
  | succ fuel ih =>
    unfold loop at hloop
    cases hpass : pass visit gs s with
    | none => simp [hpass] at hloop
    | some turn =>
      have hturn := pass_holds hvisit hgs hs hpass
      cases turn with
      | returned r' =>
        obtain rfl : r' = r := by simpa [hpass] using hloop
        exact hturn
      | going gs' s' => exact ih hturn.1 hturn.2 (by simpa [hpass] using hloop)

theorem pass_congr {visit' : γ → σ → Option (Turn γ σ ρ)}
    (hagree : ∀ g s, G g → S s → visit' g s = visit g s)
    (hvisit : ∀ g s turn, G g → S s → visit g s = some turn → turn.Holds G S P)
    {gs : List γ} (hgs : ∀ g ∈ gs, G g) {s : σ} (hs : S s) :
    pass visit' gs s = pass visit gs s := by
  induction gs generalizing s with
  | nil => rfl
  | cons g gs ih =>
    obtain ⟨hg, hgs⟩ := List.forall_mem_cons.mp hgs
    unfold pass
    rw [hagree g s hg hs]
    cases hturn : visit g s with
    | none => rfl
    | some turn =>
      cases turn with
      | returned r => rfl
      | going g' s' =>
        have hgoing := hvisit g s _ hg hs hturn
        dsimp only
        rw [ih hgs hgoing.2]

/-- Turns that agree wherever the invariant holds give the same run. -/
theorem loop_congr {visit' : γ → σ → Option (Turn γ σ ρ)}
    (hagree : ∀ g s, G g → S s → visit' g s = visit g s)
    (hvisit : ∀ g s turn, G g → S s → visit g s = some turn → turn.Holds G S P)
    (fuel : ℕ) {gs : List γ} (hgs : ∀ g ∈ gs, G g) {s : σ} (hs : S s) :
    loop visit' fuel gs s = loop visit fuel gs s := by
  induction fuel generalizing gs s with
  | zero => rfl
  | succ fuel ih =>
    unfold loop
    rw [pass_congr hagree hvisit hgs hs]
    cases hpass : pass visit gs s with
    | none => rfl
    | some turn =>
      cases turn with
      | returned r => rfl
      | going gs' s' =>
        have hgoing := pass_holds hvisit hgs hs hpass
        exact ih hgoing.1 hgoing.2

end Holds

/-! ## Where the loop stops

The members are listed by keys. A key in `done` has had one turn more than a key in `rest`. -/

section Cut

variable {ι : Type} {keys : List ι} {G : ℕ → ι → γ → Prop} {S : ℕ → List ι → List ι → σ → Prop}
  {P : ℕ → List ι → ι → List ι → ρ → Prop} {visit : γ → σ → Option (Turn γ σ ρ)}

theorem pass_cut {n : ℕ}
    (hvisit : ∀ done i rest g s turn, keys = done ++ i :: rest → G n i g →
      S n done (i :: rest) s → visit g s = some turn →
      turn.Holds (G (n + 1) i) (S n (done ++ [i]) rest) (P n done i rest))
    {done rest : List ι} (hkeys : keys = done ++ rest) {gs : List γ}
    (hgs : List.Forall₂ (G n) rest gs) {s : σ} (hs : S n done rest s)
    {turn : Turn (List γ) σ ρ} (hpass : pass visit gs s = some turn) :
    turn.Holds (List.Forall₂ (G (n + 1)) rest) (S n keys [])
      (fun r ↦ ∃ done i rest, keys = done ++ i :: rest ∧ P n done i rest r) := by
  induction hgs generalizing done s turn with
  | nil =>
    obtain rfl := Option.some.inj hpass
    rw [List.append_nil] at hkeys
    exact ⟨.nil, hkeys ▸ hs⟩
  | @cons i g rest gs hg _ ih =>
    unfold pass at hpass
    cases hturn : visit g s with
    | none => simp [hturn] at hpass
    | some first =>
      have hfirst := hvisit done i rest g s first hkeys hg hs hturn
      cases first with
      | returned r =>
        obtain rfl : Turn.returned r = turn := by simpa [hturn] using hpass
        exact ⟨done, i, rest, hkeys, hfirst⟩
      | going g' s' =>
        have hkeys' : keys = (done ++ [i]) ++ rest := by simp [hkeys]
        cases hrest : pass visit gs s' with
        | none => simp [hturn, hrest] at hpass
        | some turns =>
          have hturns := ih hkeys' hfirst.2 hrest
          cases turns with
          | returned r =>
            obtain rfl : Turn.returned r = turn := by simpa [hturn, hrest] using hpass
            exact hturns
          | going gs' s'' =>
            obtain rfl : Turn.going (g' :: gs') s'' = turn := by
              simpa [hturn, hrest] using hpass
            exact ⟨.cons hfirst.1 hturns.1, hturns.2⟩

/-- The loop stops in the turn of some key. The keys before it have had one turn more than the
keys behind it. -/
theorem loop_cut
    (hvisit : ∀ n done i rest g s turn, keys = done ++ i :: rest → G n i g →
      S n done (i :: rest) s → visit g s = some turn →
      turn.Holds (G (n + 1) i) (S n (done ++ [i]) rest) (P n done i rest))
    (hround : ∀ n s, S n keys [] s → S (n + 1) [] keys s)
    {n fuel : ℕ} {gs : List γ} (hgs : List.Forall₂ (G n) keys gs) {s : σ} (hs : S n [] keys s)
    {r : ρ} (hloop : loop visit fuel gs s = some r) :
    ∃ n done i rest, keys = done ++ i :: rest ∧ P n done i rest r := by
  induction fuel generalizing n gs s with
  | zero => simp [loop] at hloop
  | succ fuel ih =>
    unfold loop at hloop
    cases hpass : pass visit gs s with
    | none => simp [hpass] at hloop
    | some turn =>
      have hturn := pass_cut (hvisit n) rfl hgs hs hpass
      cases turn with
      | returned r' =>
        obtain rfl : r' = r := by simpa [hpass] using hloop
        exact ⟨n, hturn⟩
      | going gs' s' =>
        exact ih hturn.1 (hround n s' hturn.2) (by simpa [hpass] using hloop)

end Cut

/-! ## Members that can be left out -/

section Idle

variable {Idle Idle' : γ → Prop} {visit : γ → σ → Option (Turn γ σ ρ)}

/-- The second list has idle members besides those of the first. -/
inductive Skips (Idle : γ → Prop) : List γ → List γ → Prop where
  | nil : Skips Idle [] []
  | keep {g gs gs'} : Skips Idle gs gs' → Skips Idle (g :: gs) (g :: gs')
  | skip {g gs gs'} : Idle g → Skips Idle gs gs' → Skips Idle gs (g :: gs')

theorem Skips.map_filter {ι : Type} (f : ι → γ) (keep : ι → Bool) {is : List ι}
    (hidle : ∀ i ∈ is, keep i = false → Idle (f i)) :
    Skips Idle ((is.filter keep).map f) (is.map f) := by
  induction is with
  | nil => exact .nil
  | cons i is ih =>
    obtain ⟨hi, his⟩ := List.forall_mem_cons.mp hidle
    cases hkeep : keep i with
    | true =>
      rw [List.filter_cons_of_pos hkeep]
      exact .keep (ih his)
    | false =>
      rw [List.filter_cons_of_neg (by simp [hkeep])]
      exact .skip (hi hkeep) (ih his)

theorem pass_skips
    (hidle : ∀ g s, Idle g → ∃ g', visit g s = some (.going g' s) ∧ Idle' g')
    {gs gs' : List γ} (hgs : Skips Idle gs gs') (s : σ) :
    Option.Rel (Turn.Rel (Skips Idle') Eq Eq) (pass visit gs s) (pass visit gs' s) := by
  induction hgs generalizing s with
  | nil => exact .some (.going .nil rfl)
  | @keep g gs gs' _ ih =>
    unfold pass
    cases visit g s with
    | none => exact .none
    | some turn =>
      cases turn with
      | returned r => exact .some (.returned rfl)
      | going g s =>
        have hrest := ih s
        dsimp only
        generalize pass visit gs s = rest, pass visit gs' s = rest' at hrest ⊢
        rcases hrest with ⟨⟨hgs, hs⟩ | hr⟩ | _
        · exact .some (.going (.keep hgs) hs)
        · exact .some (.returned hr)
        · exact .none
  | @skip g gs gs' hg _ ih =>
    obtain ⟨g', hturn, hg'⟩ := hidle g s hg
    have hrest := ih s
    rw [pass_cons, hturn]
    dsimp only
    generalize pass visit gs s = rest, pass visit gs' s = rest' at hrest ⊢
    rcases hrest with ⟨⟨hgs, hs⟩ | hr⟩ | _
    · exact .some (.going (.skip hg' hgs) hs)
    · exact .some (.returned hr)
    · exact .none

/-- Members that never do anything make no difference. -/
theorem loop_skips (hidle : ∀ g s, Idle g → visit g s = some (.going g s)) (fuel : ℕ)
    {gs gs' : List γ} (hgs : Skips Idle gs gs') (s : σ) :
    loop visit fuel gs' s = loop visit fuel gs s := by
  induction fuel generalizing gs gs' s with
  | zero => rfl
  | succ fuel ih =>
    have hturn := pass_skips (fun g s hg ↦ ⟨g, hidle g s hg, hg⟩) hgs s
    unfold loop
    generalize pass visit gs s = turn, pass visit gs' s = turn' at hturn ⊢
    rcases hturn with ⟨⟨hgs, rfl⟩ | rfl⟩ | _
    · exact ih hgs _
    · rfl
    · rfl

theorem pass_append (gs hs : List γ) (s : σ) :
    pass visit (gs ++ hs) s =
      match pass visit gs s with
      | none => none
      | some (.returned r) => some (.returned r)
      | some (.going gs₁ s₁) =>
        match pass visit hs s₁ with
        | none => none
        | some (.returned r) => some (.returned r)
        | some (.going hs₁ s₂) => some (.going (gs₁ ++ hs₁) s₂) := by
  induction gs generalizing s with
  | nil =>
    simp only [List.nil_append, pass]
    cases pass visit hs s with
    | none => rfl
    | some turn => cases turn <;> rfl
  | cons g gs ih =>
    rw [List.cons_append, pass_cons, pass_cons]
    cases visit g s with
    | none => rfl
    | some turn =>
      cases turn with
      | returned r => rfl
      | going g s =>
        dsimp only
        rw [ih s]
        cases pass visit gs s with
        | none => rfl
        | some turn =>
          cases turn with
          | returned r => rfl
          | going gs₁ s₁ =>
            dsimp only
            cases pass visit hs s₁ with
            | none => rfl
            | some turn => cases turn <;> rfl

/-- Nobody behind `gs` matters where the pass does not get past `gs`. -/
theorem loop_append_congr {gs : List γ} {s : σ}
    (hstops : ∀ gs₁ s₁, pass visit gs s ≠ some (.going gs₁ s₁)) (fuel : ℕ) (hs hs' : List γ) :
    loop visit fuel (gs ++ hs) s = loop visit fuel (gs ++ hs') s := by
  cases fuel with
  | zero => rfl
  | succ fuel =>
    unfold loop
    rw [pass_append, pass_append]
    cases hpass : pass visit gs s with
    | none => rfl
    | some turn =>
      cases turn with
      | returned r => rfl
      | going gs₁ s₁ => exact absurd hpass (hstops gs₁ s₁)

end Idle

/-! ## A single member -/

/-- For a single member the invariant may speak of member and state together. -/
theorem loop_single {visit : γ → σ → Option (Turn γ σ ρ)} {J : γ → σ → Prop} {P : ρ → Prop}
    (hvisit : ∀ g s turn, J g s → visit g s = some turn →
      (∀ g' s', turn = .going g' s' → J g' s') ∧ ∀ r, turn = .returned r → P r)
    {fuel : ℕ} {g : γ} {s : σ} (hstart : J g s) {r : ρ} (hloop : loop visit fuel [g] s = some r) :
    P r := by
  induction fuel generalizing g s with
  | zero => simp [loop] at hloop
  | succ fuel ih =>
    unfold loop pass at hloop
    cases hturn : visit g s with
    | none => simp [hturn] at hloop
    | some turn =>
      obtain ⟨hgoing, hreturned⟩ := hvisit g s turn hstart hturn
      cases turn with
      | returned r' =>
        obtain rfl : r' = r := by simpa [hturn] using hloop
        exact hreturned r' rfl
      | going g' s' => exact ih (hgoing g' s' rfl) (by simpa [hturn, pass] using hloop)

/-! ## Termination -/

section Total

variable {W : Type} [Preorder W] {G : W → γ → Prop} {S : W → σ → Prop} {done : σ → ℕ}
  {Eager : γ → Prop} {visit : γ → σ → Option (Turn γ σ ρ)}

/-- The turn succeeds. Its knowledge `w` of the run only grows, work already done stays done, and
an eager member does some work and stays eager. -/
def Advances (G : W → γ → Prop) (S : W → σ → Prop) (done : σ → ℕ) (Eager : γ → Prop) (w : W)
    (g : γ) (s : σ) (outcome : Option (Turn γ σ ρ)) : Prop :=
  ∃ turn, outcome = some turn ∧ ∀ g' s', turn = .going g' s' →
    (∃ w', w ≤ w' ∧ G w' g' ∧ S w' s') ∧ done s ≤ done s' ∧
      (Eager g → Eager g' ∧ done s < done s')

theorem pass_advances (hmono : ∀ w w' g, w ≤ w' → G w g → G w' g)
    (hvisit : ∀ w g s, G w g → S w s → Advances G S done Eager w g s (visit g s))
    {gs : List γ} {w : W} (hgs : ∀ g ∈ gs, G w g) {s : σ} (hs : S w s) :
    Advances (fun w gs ↦ ∀ g ∈ gs, G w g) S done (fun gs ↦ ∃ g ∈ gs, Eager g) w gs s
      (pass visit gs s) := by
  induction gs generalizing w s with
  | nil =>
    refine ⟨.going [] s, rfl, fun gs' s' heq ↦ ?_⟩
    obtain ⟨rfl, rfl⟩ := Turn.going.inj heq
    exact ⟨⟨w, le_refl w, hgs, hs⟩, Nat.le_refl _, by simp⟩
  | cons g gs ih =>
    obtain ⟨hg, hgs⟩ := List.forall_mem_cons.mp hgs
    obtain ⟨turn, hturn, hgoing⟩ := hvisit w g s hg hs
    cases turn with
    | returned r => exact ⟨.returned r, by simp [pass, hturn], by simp⟩
    | going g' s' =>
      obtain ⟨⟨w', hw, hg', hs'⟩, hdone, heager⟩ := hgoing g' s' rfl
      obtain ⟨turns, hturns, hrest⟩ := ih (fun g hg ↦ hmono w w' g hw (hgs g hg)) hs'
      cases turns with
      | returned r => exact ⟨.returned r, by simp [pass, hturn, hturns], by simp⟩
      | going gs' s'' =>
        obtain ⟨⟨w'', hw', hgs', hs''⟩, hdone', heager'⟩ := hrest gs' s'' rfl
        refine ⟨.going (g' :: gs') s'', by simp [pass, hturn, hturns], fun _ _ heq ↦ ?_⟩
        obtain ⟨rfl, rfl⟩ := Turn.going.inj heq
        have hall : ∀ g ∈ g' :: gs', G w'' g :=
          List.forall_mem_cons.mpr ⟨hmono w' w'' g' hw' hg', hgs'⟩
        refine ⟨⟨w'', le_trans hw hw', hall, hs''⟩, Nat.le_trans hdone hdone', ?_⟩
        rintro ⟨e, he, heag⟩
        rcases List.mem_cons.mp he with rfl | he
        · obtain ⟨hkeep, hless⟩ := heager heag
          exact ⟨⟨g', List.mem_cons_self, hkeep⟩, Nat.lt_of_lt_of_le hless hdone'⟩
        · obtain ⟨⟨e', he', hkeep⟩, hless⟩ := heager' ⟨e, he, heag⟩
          exact ⟨⟨e', List.mem_cons_of_mem _ he', hkeep⟩, Nat.lt_of_le_of_lt hdone hless⟩

/-- With an eager member the loop returns once the fuel covers the work left. -/
theorem loop_returns (hmono : ∀ w w' g, w ≤ w' → G w g → G w' g)
    (hvisit : ∀ w g s, G w g → S w s → Advances G S done Eager w g s (visit g s))
    {limit : ℕ} (hlimit : ∀ w s, S w s → done s < limit)
    {fuel : ℕ} {gs : List γ} {w : W} (hgs : ∀ g ∈ gs, G w g) {s : σ} (hs : S w s)
    (heager : ∃ g ∈ gs, Eager g) (hfuel : limit ≤ done s + fuel) :
    ∃ r, loop visit fuel gs s = some r := by
  induction fuel generalizing gs w s with
  | zero => exact absurd (hlimit w s hs) (by omega)
  | succ fuel ih =>
    obtain ⟨turn, hturn, hgoing⟩ := pass_advances hmono hvisit hgs hs
    cases turn with
    | returned r => exact ⟨r, by simp [loop, hturn]⟩
    | going gs' s' =>
      obtain ⟨⟨w', -, hgs', hs'⟩, -, hkeep⟩ := hgoing gs' s' rfl
      obtain ⟨heager', hless⟩ := hkeep heager
      obtain ⟨r, hr⟩ := ih hgs' hs' heager' (by omega)
      exact ⟨r, by simp [loop, hturn, hr]⟩

/-- Where every turn leaves an eager member, one more pass makes up for a start without any. -/
theorem loop_returns_of_turns_eager (hmono : ∀ w w' g, w ≤ w' → G w g → G w' g)
    (hvisit : ∀ w g s, G w g → S w s → Advances G S done Eager w g s (visit g s))
    (hturns : ∀ g s g' s', visit g s = some (.going g' s') → Eager g')
    {limit : ℕ} (hlimit : ∀ w s, S w s → done s < limit)
    {fuel : ℕ} {gs : List γ} {w : W} (hgs : ∀ g ∈ gs, G w g) {s : σ} (hs : S w s)
    (hne : gs ≠ []) (hfuel : limit ≤ done s + fuel) :
    ∃ r, loop visit (fuel + 1) gs s = some r := by
  obtain ⟨turn, hturn, hgoing⟩ := pass_advances hmono hvisit hgs hs
  cases turn with
  | returned r => exact ⟨r, by simp [loop, hturn]⟩
  | going gs' s' =>
    obtain ⟨⟨w', -, hgs', hs'⟩, hdone, -⟩ := hgoing gs' s' rfl
    have heager : ∃ g ∈ gs', Eager g := by
      obtain ⟨g, gs, rfl⟩ := List.exists_cons_of_ne_nil hne
      unfold pass at hturn
      cases hfirst : visit g s with
      | none => simp [hfirst] at hturn
      | some first =>
        cases first with
        | returned r => simp [hfirst] at hturn
        | going g₁ s₁ =>
          cases hrest : pass visit gs s₁ with
          | none => simp [hfirst, hrest] at hturn
          | some rest =>
            cases rest with
            | returned r => simp [hfirst, hrest] at hturn
            | going gs₁ s₂ =>
              obtain ⟨rfl, -⟩ : g₁ :: gs₁ = gs' ∧ s₂ = s' := by
                simpa [hfirst, hrest] using hturn
              exact ⟨g₁, List.mem_cons_self, hturns g s g₁ s₁ hfirst⟩
    have hfuel' : limit ≤ done s' + fuel := by omega
    obtain ⟨r, hr⟩ := loop_returns hmono hvisit hlimit hgs' hs' heager hfuel'
    exact ⟨r, by simp [loop, hturn, hr]⟩

end Total

end RoundRobin
