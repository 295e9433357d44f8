import Mathlib.Data.List.Basic
import Mathlib.Data.List.Nodup

/-!
# Scanning a table key by key

A table hands out its keys in a fixed order, each in answer to the one before; a key it does not
hold is answered by the first. A scan asks for the next key before it visits the present one, so
that the visit may delete the key. It ends after the last key, and reports when an answer fails or
when it has made all its steps.
-/

namespace Scan

variable {σ κ : Type} [DecidableEq κ]

/-- The key after `key`, or the first one where `key` is not there. -/
def next (keys : List κ) (key : κ) : Option κ :=
  if key ∈ keys then (keys.drop (keys.idxOf key + 1)).head? else keys.head?

theorem next_of_notMem {keys : List κ} {key : κ} (h : key ∉ keys) : next keys key = keys.head? :=
  if_neg h

theorem next_append_cons {before rest : List κ} {key : κ} (h : key ∉ before) :
    next (before ++ key :: rest) key = rest.head? := by
  have hmem : key ∈ before ++ key :: rest := List.mem_append_right _ List.mem_cons_self
  have hindex : (before ++ key :: rest).idxOf key = before.length := by
    rw [List.idxOf_append_of_notMem h, List.idxOf_cons_self, Nat.add_zero]
  rw [next, if_pos hmem, hindex, List.drop_append, List.drop_eq_nil_of_le (Nat.le_succ _)]
  simp

/-- Why a scan may be incomplete. -/
inductive Fault where
  | query
  | maxed
  | full
deriving DecidableEq, Repr

/-- What a scan does to its state: `poll` is the effect of asking for a key, which may fail, and
`full` ends the scan early. -/
structure Ops (σ κ : Type) where
  keys : σ → List κ
  fails : σ → Bool
  poll : σ → σ
  visit : κ → σ → σ
  report : Fault → σ → σ
  full : σ → Bool

namespace Ops

variable (ops : Ops σ κ)

/-- `steps` more steps from `key`, which is not visited in the first step of a scan. -/
def loop : ℕ → Bool → κ → σ → σ
  | 0, _, _, s => s
  | steps + 1, first, key, s =>
    let answer := next (ops.keys s) key
    let failed := ops.fails s
    let s := ops.poll s
    let s := if first then s else ops.visit key s
    if failed then
      ops.report .query s
    else
      match answer with
      | none => s
      | some nextKey =>
        let s := if steps = 0 then ops.report .maxed s else s
        if ops.full s then ops.report .full s else loop steps false nextKey s

/-- Visits change the table at most by deleting their key, and what has been reported stays so. -/
structure Lawful (faulty : σ → Prop) : Prop where
  keys_poll : ∀ s, ops.keys (ops.poll s) = ops.keys s
  keys_visit : ∀ key s, ops.keys (ops.visit key s) = ops.keys s ∨
    ops.keys (ops.visit key s) = (ops.keys s).filter (· ≠ key)
  faulty_report : ∀ fault s, faulty (ops.report fault s)
  faulty_poll : ∀ s, faulty s → faulty (ops.poll s)
  faulty_visit : ∀ key s, faulty s → faulty (ops.visit key s)

variable {ops} {faulty : σ → Prop}

/-- One visit, with the question that comes before it. -/
def step (ops : Ops σ κ) (s : σ) (key : κ) : σ := ops.visit key (ops.poll s)

/-- A step that reports nothing ends the scan after the last key, or goes on to the next one. -/
theorem Lawful.loop_succ (h : ops.Lawful faulty) {steps : ℕ} {first : Bool} {key : κ} {s t : σ}
    (ht : (if first then ops.poll s else ops.step s key) = t)
    (hok : ¬ faulty (ops.loop (steps + 1) first key s)) :
    next (ops.keys s) key = none ∧ ops.loop (steps + 1) first key s = t ∨
      ∃ nextKey, next (ops.keys s) key = some nextKey ∧ 0 < steps ∧
        ops.loop (steps + 1) first key s = ops.loop steps false nextKey t := by
  have hloop : ops.loop (steps + 1) first key s =
      if ops.fails s then ops.report .query t
      else
        match next (ops.keys s) key with
        | none => t
        | some nextKey =>
          if ops.full (if steps = 0 then ops.report .maxed t else t) then
            ops.report .full (if steps = 0 then ops.report .maxed t else t)
          else ops.loop steps false nextKey (if steps = 0 then ops.report .maxed t else t) := by
    subst ht
    cases first with
    | true => rfl
    | false => rfl
  rw [hloop] at hok ⊢
  cases hfails : ops.fails s with
  | true => exact absurd (h.faulty_report _ _) (by simpa [hfails] using hok)
  | false =>
    rw [hfails, if_neg Bool.false_ne_true] at hok
    rw [if_neg Bool.false_ne_true]
    cases hnext : next (ops.keys s) key with
    | none => exact Or.inl ⟨rfl, rfl⟩
    | some nextKey =>
      rw [hnext] at hok
      dsimp only at hok ⊢
      by_cases hlast : steps = 0
      · subst hlast
        rw [if_pos rfl] at hok
        split at hok
        · exact absurd (h.faulty_report _ _) hok
        · exact absurd (h.faulty_report _ _) hok
      · rw [if_neg hlast] at hok ⊢
        cases hfull : ops.full t with
        | true => exact absurd (h.faulty_report _ _) (by simpa [hfull] using hok)
        | false => exact Or.inr ⟨nextKey, rfl, Nat.pos_of_ne_zero hlast, if_neg Bool.false_ne_true⟩

theorem Lawful.nodup_step (h : ops.Lawful faulty) {s : σ} (key : κ) (hnodup : (ops.keys s).Nodup) :
    (ops.keys (ops.step s key)).Nodup := by
  have hpoll : (ops.keys (ops.poll s)).Nodup := by rwa [h.keys_poll]
  rcases h.keys_visit key (ops.poll s) with hsame | hdeleted
  · rwa [step, hsame]
  · rw [step, hdeleted]
    exact hpoll.filter _

/-- A visit leaves the keys that come later in their order. -/
theorem Lawful.keys_step (h : ops.Lawful faulty) {s : σ} {before rest : List κ} {key : κ}
    (hkeys : ops.keys s = before ++ key :: rest) (hnodup : (ops.keys s).Nodup) :
    ∃ before', ops.keys (ops.step s key) = before' ++ rest := by
  rcases h.keys_visit key (ops.poll s) with hsame | hdeleted
  · exact ⟨before ++ [key], by rw [step, hsame, h.keys_poll, hkeys, List.append_cons]⟩
  · refine ⟨before.filter (· ≠ key), ?_⟩
    have hrest : ∀ k ∈ rest, k ≠ key := by
      rintro k hk rfl
      rw [hkeys] at hnodup
      exact (List.nodup_cons.mp hnodup.of_append_right).1 hk
    rw [step, hdeleted, h.keys_poll, hkeys, List.filter_append, List.filter_cons_of_neg (by simp),
      List.filter_eq_self.mpr fun k hk ↦ decide_eq_true (hrest k hk)]

/-- A scan that reports nothing visits its key and all the keys after it, in their order. -/
theorem Lawful.loop_eq_foldl (h : ops.Lawful faulty) {steps : ℕ} (hsteps : 0 < steps) {key : κ}
    {s : σ} {before rest : List κ} (hkeys : ops.keys s = before ++ key :: rest)
    (hnodup : (ops.keys s).Nodup) (hok : ¬ faulty (ops.loop steps false key s)) :
    ops.loop steps false key s = (key :: rest).foldl ops.step s := by
  induction steps generalizing key s before rest with
  | zero => exact absurd hsteps (Nat.lt_irrefl 0)
  | succ steps ih =>
    have hnotMem : key ∉ before := by
      rw [hkeys] at hnodup
      exact fun hmem ↦ (List.nodup_append.mp hnodup).2.2 key hmem key List.mem_cons_self rfl
    have hanswer : next (ops.keys s) key = rest.head? := by
      rw [hkeys, next_append_cons hnotMem]
    rcases h.loop_succ (if_neg Bool.false_ne_true) hok with
      ⟨hlast, hloop⟩ | ⟨nextKey, hnext, hpos, hloop⟩
    · rw [hanswer, List.head?_eq_none_iff] at hlast
      rw [hloop, hlast, List.foldl_cons, List.foldl_nil]
    · rw [hanswer, List.head?_eq_some_iff] at hnext
      obtain ⟨rest', rfl⟩ := hnext
      obtain ⟨before', hkeys'⟩ := h.keys_step hkeys hnodup
      rw [hloop] at hok ⊢
      exact ih hpos hkeys' (h.nodup_step key hnodup) hok

/-- A scan from a key that the table does not hold visits every key once, if it reports nothing. -/
theorem Lawful.scan_eq_foldl (h : ops.Lawful faulty) {steps : ℕ} (hsteps : 0 < steps) {key : κ}
    {s : σ} (hkey : key ∉ ops.keys s) (hnodup : (ops.keys s).Nodup)
    (hok : ¬ faulty (ops.loop steps true key s)) :
    ops.loop steps true key s = (ops.keys s).foldl ops.step (ops.poll s) := by
  obtain ⟨steps, rfl⟩ := Nat.exists_eq_succ_of_ne_zero (Nat.ne_of_gt hsteps)
  rcases h.loop_succ (if_pos rfl) hok with ⟨hlast, hloop⟩ | ⟨nextKey, hnext, hpos, hloop⟩
  · rw [next_of_notMem hkey, List.head?_eq_none_iff] at hlast
    rw [hloop, hlast, List.foldl_nil]
  · rw [next_of_notMem hkey, List.head?_eq_some_iff] at hnext
    obtain ⟨rest, hkeys⟩ := hnext
    have hpolled : ops.keys (ops.poll s) = [] ++ nextKey :: rest := by
      rw [h.keys_poll, hkeys, List.nil_append]
    rw [hloop] at hok ⊢
    rw [hkeys]
    exact h.loop_eq_foldl hpos hpolled (by rwa [h.keys_poll]) hok

/-- What every operation keeps a scan keeps. -/
theorem loop_invariant {P : σ → Prop} (hpoll : ∀ s, P s → P (ops.poll s))
    (hvisit : ∀ key s, P s → P (ops.visit key s))
    (hreport : ∀ fault s, P s → P (ops.report fault s)) (steps : ℕ) (first : Bool) (key : κ) {s : σ}
    (hs : P s) : P (ops.loop steps first key s) := by
  induction steps generalizing first key s with
  | zero => exact hs
  | succ steps ih =>
    have hvisited : P (if first then ops.poll s else ops.visit key (ops.poll s)) := by
      split_ifs
      · exact hpoll s hs
      · exact hvisit key _ (hpoll s hs)
    unfold loop
    dsimp only
    generalize (if first then ops.poll s else ops.visit key (ops.poll s)) = visited at hvisited ⊢
    have hlast : P (if steps = 0 then ops.report .maxed visited else visited) := by
      split_ifs
      · exact hreport _ _ hvisited
      · exact hvisited
    by_cases hfails : ops.fails s = true
    · rw [if_pos hfails]
      exact hreport _ _ hvisited
    · rw [if_neg hfails]
      cases next (ops.keys s) key with
      | none => exact hvisited
      | some nextKey =>
        dsimp only
        generalize (if steps = 0 then ops.report .maxed visited else visited) = last at hlast ⊢
        split_ifs
        · exact hreport _ _ hlast
        · exact ih false nextKey hlast

/-- What has been reported stays so to the end of a scan. -/
theorem Lawful.faulty_loop (h : ops.Lawful faulty) (steps : ℕ) (first : Bool) (key : κ) {s : σ}
    (hs : faulty s) : faulty (ops.loop steps first key s) :=
  loop_invariant h.faulty_poll h.faulty_visit (fun fault s _ ↦ h.faulty_report fault s) steps first
    key hs

theorem Lawful.faulty_foldl (h : ops.Lawful faulty) {s : σ} (hs : faulty s) (visited : List κ) :
    faulty (visited.foldl ops.step s) := by
  induction visited generalizing s with
  | nil => exact hs
  | cons key visited ih => exact ih (h.faulty_visit key _ (h.faulty_poll s hs))

/-- What the visits that report nothing make of a part of the state, they make of it together. -/
theorem Lawful.view_foldl {α : Type} (h : ops.Lawful faulty) (view : σ → α) {effect : α → κ → α}
    (hpoll : ∀ s, view (ops.poll s) = view s)
    (hvisit : ∀ key s, ¬ faulty (ops.visit key s) →
      view (ops.visit key s) = effect (view s) key) {visited : List κ} {s : σ}
    (hok : ¬ faulty (visited.foldl ops.step s)) :
    view (visited.foldl ops.step s) = visited.foldl effect (view s) := by
  induction visited generalizing s with
  | nil => rfl
  | cons key visited ih =>
    have hstep : ¬ faulty (ops.visit key (ops.poll s)) := fun hfaulty ↦
      hok (h.faulty_foldl hfaulty visited)
    rw [List.foldl_cons] at hok
    rw [List.foldl_cons, List.foldl_cons, ih hok, step, hvisit key _ hstep, hpoll]

/-- A scan that reports nothing has its effect on every key of the table, once. -/
theorem Lawful.view_scan {α : Type} (h : ops.Lawful faulty) (view : σ → α) {effect : α → κ → α}
    (hpoll : ∀ s, view (ops.poll s) = view s)
    (hvisit : ∀ key s, ¬ faulty (ops.visit key s) →
      view (ops.visit key s) = effect (view s) key) {steps : ℕ} (hsteps : 0 < steps) {key : κ}
    {s : σ} (hkey : key ∉ ops.keys s) (hnodup : (ops.keys s).Nodup)
    (hok : ¬ faulty (ops.loop steps true key s)) :
    view (ops.loop steps true key s) = (ops.keys s).foldl effect (view s) := by
  have hscan := h.scan_eq_foldl hsteps hkey hnodup hok
  rw [hscan] at hok ⊢
  rw [h.view_foldl view hpoll hvisit hok, hpoll]

/-- Visits that delete the keys of a kind, or report, leave the other keys of those visited. -/
theorem Lawful.keys_foldl (h : ops.Lawful faulty) {kind : κ → Bool}
    (hdelete : ∀ key s, ¬ faulty (ops.visit key s) → ops.keys (ops.visit key s) =
      if kind key then (ops.keys s).filter (· ≠ key) else ops.keys s) {visited : List κ} {s : σ}
    (hok : ¬ faulty (visited.foldl ops.step s)) :
    ops.keys (visited.foldl ops.step s) =
      (ops.keys s).filter fun key ↦ !(kind key && decide (key ∈ visited)) := by
  induction visited generalizing s with
  | nil => simp
  | cons key visited ih =>
    have hstep : ¬ faulty (ops.visit key (ops.poll s)) := fun hfaulty ↦
      hok (h.faulty_foldl hfaulty visited)
    rw [List.foldl_cons] at hok ⊢
    rw [ih hok, step, hdelete key _ hstep, h.keys_poll]
    cases hkind : kind key with
    | true =>
      rw [if_pos rfl, List.filter_filter]
      apply List.filter_congr
      intro k _
      by_cases hk : k = key
      · simp [hk, hkind]
      · simp [hk]
    | false =>
      rw [if_neg Bool.false_ne_true]
      apply List.filter_congr
      intro k _
      by_cases hk : k = key
      · simp [hk, hkind]
      · simp [hk]

/-- A scan that deletes a kind of keys and reports nothing leaves the keys of no such kind. -/
theorem Lawful.keys_scan (h : ops.Lawful faulty) {kind : κ → Bool}
    (hdelete : ∀ key s, ¬ faulty (ops.visit key s) → ops.keys (ops.visit key s) =
      if kind key then (ops.keys s).filter (· ≠ key) else ops.keys s) {steps : ℕ}
    (hsteps : 0 < steps) {key : κ} {s : σ} (hkey : key ∉ ops.keys s) (hnodup : (ops.keys s).Nodup)
    (hok : ¬ faulty (ops.loop steps true key s)) :
    ops.keys (ops.loop steps true key s) = (ops.keys s).filter fun key ↦ !kind key := by
  have hscan := h.scan_eq_foldl hsteps hkey hnodup hok
  rw [hscan] at hok ⊢
  rw [h.keys_foldl hdelete hok, h.keys_poll]
  apply List.filter_congr
  intro k hk
  simp [hk]

end Ops

end Scan
