import Mathlib.Data.Finset.Card
import Mathlib.Data.Finset.Range
import Vsoshlb.Library.RoundRobin
import Vsoshlb.HashRing.ConsistentHash

/-!
# Maglev hashing

`MaglevHash.cpp` and `MaglevHashV2.cpp`. The endpoints take turns. On its turn an endpoint walks
down its own permutation of the slots to the next free one and puts its number there. The first
version gives an endpoint as many slots as its weight in the first round and one in each later
round; the second lets an endpoint collect its weight in every round and place when it has reached
the largest weight.

The rows stand for what `genMaglevPermutation` computes from the hash of an endpoint, and the
results about the rings grant that they are permutations of the slots. The source makes an offset
and a skip for a row, and the lines that fill the row from them are not there. The skip is a
remainder modulo `ring_size - 1`, so at a ring size of one the source divides by zero.

A walk past the end of a row has no result. A slot is free while it is negative, so a number from
`2 ^ 31` on would not occupy its slot.
-/

namespace Vsoshlb

open RoundRobin (Turn loop)

namespace Maglev

/-- The ring under construction and the number of placements so far. -/
structure Filling where
  result : List ℤ
  runs : ℕ
deriving DecidableEq, Repr

/-- One endpoint of the round. `ahead` is its row of the permutation from `next[i]` on. Only the
second version has a use for `cumWeight`. -/
structure Cursor where
  num : ℕ
  weight : ℕ
  ahead : List ℕ
  cumWeight : ℕ
deriving DecidableEq, Repr

/-- `while (result[cur] >= 0)`: the first free slot of the row and what lies behind it. -/
def skipTaken (result : List ℤ) : List ℕ → Option (ℕ × List ℕ)
  | [] => none
  | cur :: ahead =>
    match result[cur]? with
    | none => none
    | some slot => if slot ≥ 0 then skipTaken result ahead else some (cur, ahead)

def placeOne (ringSize num : ℕ) (ahead : List ℕ) (fill : Filling) :
    Option (Turn (List ℕ) Filling (List ℤ)) :=
  match skipTaken fill.result ahead with
  | none => none
  | some (cur, ahead) =>
    let result := fill.result.set cur (int32 num)
    let runs := fill.runs + 1
    if runs = ringSize then
      some (.returned result)
    else
      some (.going ahead ⟨result, runs⟩)

def placeMany (ringSize num : ℕ) :
    ℕ → List ℕ → Filling → Option (Turn (List ℕ) Filling (List ℤ))
  | 0, ahead, fill => some (.going ahead fill)
  | weight + 1, ahead, fill =>
    match placeOne ringSize num ahead fill with
    | none => none
    | some (.returned ring) => some (.returned ring)
    | some (.going ahead fill) => placeMany ringSize num weight ahead fill

/-- One turn of `MaglevHash`. -/
def visit (ringSize : ℕ) (c : Cursor) (fill : Filling) :
    Option (Turn Cursor Filling (List ℤ)) :=
  match placeMany ringSize c.num c.weight c.ahead fill with
  | none => none
  | some (.returned ring) => some (.returned ring)
  | some (.going ahead fill) => some (.going { c with ahead := ahead, weight := 1 } fill)

/-- One turn of `MaglevHashV2`, in `uint32_t` arithmetic. -/
def visitV2 (maxWeight ringSize : ℕ) (c : Cursor) (fill : Filling) :
    Option (Turn Cursor Filling (List ℤ)) :=
  let cumWeight := (c.cumWeight + c.weight) % 2 ^ 32
  if cumWeight ≥ maxWeight then
    match placeOne ringSize c.num c.ahead fill with
    | none => none
    | some (.returned ring) => some (.returned ring)
    | some (.going ahead fill) =>
      some (.going { c with ahead := ahead, cumWeight := cumWeight - maxWeight } fill)
  else
    some (.going { c with cumWeight := cumWeight } fill)

def maxWeight (endpoints : List Endpoint) : ℕ :=
  endpoints.foldl (fun m e ↦ if e.weight > m then e.weight else m) 0

section

variable (permutation : ℕ → ℕ → List ℕ)

def start (ringSize : ℕ) (e : Endpoint) : Cursor where
  num := e.num
  weight := e.weight
  ahead := permutation e.hash ringSize
  cumWeight := 0

/-- The part that both versions share. The fuel is enough: every round but the first places. -/
def fillRing (visit : Cursor → Filling → Option (Turn Cursor Filling (List ℤ)))
    (endpoints : List Endpoint) (ringSize : ℕ) : Option (List ℤ) :=
  let result := List.replicate ringSize (-1)
  match endpoints with
  | [] => some result
  | [e] => some (result.map fun _ ↦ int32 e.num)
  | endpoints =>
    loop visit (ringSize + 1) (endpoints.map (start permutation ringSize)) ⟨result, 0⟩

def maglevHash : ConsistentHash where
  generateHashRing endpoints ringSize :=
    fillRing permutation (visit ringSize) endpoints ringSize

def maglevHashV2 : ConsistentHash where
  generateHashRing endpoints ringSize :=
    fillRing permutation (visitV2 (maxWeight endpoints) ringSize) endpoints ringSize

/-- `CHFactory::make`. -/
def make : HashFunction → ConsistentHash
  | .maglev => maglevHash permutation
  | .maglevV2 => maglevHashV2 permutation

end

theorem generateHashRing_singleton (permutation : ℕ → ℕ → List ℕ) (func : HashFunction)
    (e : Endpoint) (ringSize : ℕ) : (make permutation func).generateHashRing [e] ringSize =
      some (List.replicate ringSize (int32 e.num)) := by
  cases func <;> simp [make, maglevHash, maglevHashV2, fillRing]

/-! ## Renaming the endpoints

Two runs whose endpoints differ in their numbers only make the same moves. -/

section Rename

variable {rename : ℕ → ℕ} {relabel : ℤ → ℤ}

/-- The second cursor is the first under its new number. -/
structure Cursor.Renamed (rename : ℕ → ℕ) (relabel : ℤ → ℤ) (c c' : Cursor) : Prop where
  num : c'.num = rename c.num
  slot : int32 (rename c.num) = relabel (int32 c.num)
  weight : c'.weight = c.weight
  ahead : c'.ahead = c.ahead
  cumWeight : c'.cumWeight = c.cumWeight

/-- The second ring is the first with its slots relabelled. -/
structure Filling.Relabelled (relabel : ℤ → ℤ) (fill fill' : Filling) : Prop where
  result : fill'.result = fill.result.map relabel
  runs : fill'.runs = fill.runs

abbrev Turn.Relabelled {γ : Type} (relabel : ℤ → ℤ) (G : γ → γ → Prop) :
    Turn γ Filling (List ℤ) → Turn γ Filling (List ℤ) → Prop :=
  Turn.Rel G (Filling.Relabelled relabel) fun ring ring' ↦ ring' = ring.map relabel

theorem skipTaken_map (hsign : ∀ slot, 0 ≤ relabel slot ↔ 0 ≤ slot) (result : List ℤ)
    (ahead : List ℕ) : skipTaken (result.map relabel) ahead = skipTaken result ahead := by
  induction ahead with
  | nil => rfl
  | cons cur ahead ih =>
    simp only [skipTaken, List.getElem?_map]
    cases result[cur]? with
    | none => rfl
    | some slot => simp only [Option.map_some, ge_iff_le, hsign, ih]

theorem placeOne_rel (hsign : ∀ slot, 0 ≤ relabel slot ↔ 0 ≤ slot) (ringSize : ℕ) {num num' : ℕ}
    (hnum : int32 num' = relabel (int32 num)) (ahead : List ℕ) {fill fill' : Filling}
    (hfill : fill.Relabelled relabel fill') :
    Option.Rel (Turn.Relabelled relabel Eq) (placeOne ringSize num ahead fill)
      (placeOne ringSize num' ahead fill') := by
  unfold placeOne
  rw [hfill.result, hfill.runs, skipTaken_map hsign]
  cases skipTaken fill.result ahead with
  | none => exact .none
  | some next =>
    obtain ⟨cur, ahead⟩ := next
    simp only [hnum, ← List.map_set]
    split_ifs
    · exact .some (.returned rfl)
    · exact .some (.going rfl ⟨rfl, rfl⟩)

theorem placeMany_rel (hsign : ∀ slot, 0 ≤ relabel slot ↔ 0 ≤ slot) (ringSize : ℕ) {num num' : ℕ}
    (hnum : int32 num' = relabel (int32 num)) (weight : ℕ) (ahead : List ℕ)
    {fill fill' : Filling} (hfill : fill.Relabelled relabel fill') :
    Option.Rel (Turn.Relabelled relabel Eq) (placeMany ringSize num weight ahead fill)
      (placeMany ringSize num' weight ahead fill') := by
  induction weight generalizing ahead fill fill' with
  | zero => exact .some (.going rfl hfill)
  | succ weight ih =>
    have hone := placeOne_rel hsign ringSize hnum ahead hfill
    unfold placeMany
    generalize placeOne ringSize num ahead fill = turn,
      placeOne ringSize num' ahead fill' = turn' at hone ⊢
    rcases hone with ⟨⟨rfl, hfill⟩ | hring⟩ | _
    · exact ih _ hfill
    · exact .some (.returned hring)
    · exact .none

theorem visit_rel (hsign : ∀ slot, 0 ≤ relabel slot ↔ 0 ≤ slot) (ringSize : ℕ)
    (c c' : Cursor) (fill fill' : Filling) (hc : c.Renamed rename relabel c')
    (hfill : fill.Relabelled relabel fill') :
    Option.Rel (Turn.Relabelled relabel (Cursor.Renamed rename relabel)) (visit ringSize c fill)
      (visit ringSize c' fill') := by
  have hmany := placeMany_rel hsign ringSize hc.slot c.weight c.ahead hfill
  unfold visit
  rw [hc.num, hc.weight, hc.ahead]
  generalize placeMany ringSize c.num c.weight c.ahead fill = turn,
    placeMany ringSize (rename c.num) c.weight c.ahead fill' = turn' at hmany ⊢
  rcases hmany with ⟨⟨rfl, hfill⟩ | hring⟩ | _
  · exact .some (.going ⟨rfl, hc.slot, rfl, rfl, hc.cumWeight⟩ hfill)
  · exact .some (.returned hring)
  · exact .none

theorem visitV2_rel (hsign : ∀ slot, 0 ≤ relabel slot ↔ 0 ≤ slot) (maxWeight ringSize : ℕ)
    (c c' : Cursor) (fill fill' : Filling) (hc : c.Renamed rename relabel c')
    (hfill : fill.Relabelled relabel fill') :
    Option.Rel (Turn.Relabelled relabel (Cursor.Renamed rename relabel))
      (visitV2 maxWeight ringSize c fill) (visitV2 maxWeight ringSize c' fill') := by
  have hone := placeOne_rel hsign ringSize hc.slot c.ahead hfill
  unfold visitV2
  rw [hc.num, hc.weight, hc.ahead, hc.cumWeight]
  dsimp only
  split_ifs
  · generalize placeOne ringSize c.num c.ahead fill = turn,
      placeOne ringSize (rename c.num) c.ahead fill' = turn' at hone ⊢
    rcases hone with ⟨⟨rfl, hfill⟩ | hring⟩ | _
    · exact .some (.going ⟨rfl, hc.slot, rfl, rfl, rfl⟩ hfill)
    · exact .some (.returned hring)
    · exact .none
  · exact .some (.going ⟨rfl, hc.slot, rfl, rfl, rfl⟩ hfill)

/-- Renaming the numbers of the endpoints relabels the slots of the ring. -/
theorem fillRing_rename (permutation : ℕ → ℕ → List ℕ) (hfree : relabel (-1) = -1)
    {visit : Cursor → Filling → Option (Turn Cursor Filling (List ℤ))}
    (hvisit : ∀ c c' fill fill', c.Renamed rename relabel c' → fill.Relabelled relabel fill' →
      Option.Rel (Turn.Relabelled relabel (Cursor.Renamed rename relabel)) (visit c fill)
        (visit c' fill'))
    {endpoints : List Endpoint}
    (hslot : ∀ e ∈ endpoints, int32 (rename e.num) = relabel (int32 e.num)) (ringSize : ℕ) :
    fillRing permutation visit (endpoints.map (Endpoint.rename rename)) ringSize =
      (fillRing permutation visit endpoints ringSize).map (List.map relabel) := by
  match endpoints, hslot with
  | [], _ => simp [fillRing, hfree]
  | [e], hslot => simp [fillRing, Endpoint.rename, hslot e (by simp)]
  | e₁ :: e₂ :: endpoints, hslot =>
    have hcursors : List.Forall₂ (Cursor.Renamed rename relabel)
        ((e₁ :: e₂ :: endpoints).map (start permutation ringSize))
        (((e₁ :: e₂ :: endpoints).map (Endpoint.rename rename)).map
          (start permutation ringSize)) := by
      rw [List.map_map, List.forall₂_map_left_iff, List.forall₂_map_right_iff,
        List.forall₂_same]
      exact fun e he ↦ ⟨rfl, hslot e he, rfl, rfl, rfl⟩
    have hstart : Filling.Relabelled relabel ⟨List.replicate ringSize (-1), 0⟩
        ⟨List.replicate ringSize (-1), 0⟩ := ⟨by simp [hfree], rfl⟩
    have hloop := RoundRobin.loop_eq_map hvisit (ringSize + 1) hcursors hstart
    exact hloop

theorem maxWeight_rename (endpoints : List Endpoint) :
    maxWeight (endpoints.map (Endpoint.rename rename)) = maxWeight endpoints := by
  unfold maxWeight
  rw [List.foldl_map]
  rfl

theorem generateHashRing_rename (permutation : ℕ → ℕ → List ℕ) (func : HashFunction)
    (hsign : ∀ slot, 0 ≤ relabel slot ↔ 0 ≤ slot) (hfree : relabel (-1) = -1)
    {endpoints : List Endpoint}
    (hslot : ∀ e ∈ endpoints, int32 (rename e.num) = relabel (int32 e.num)) (ringSize : ℕ) :
    (make permutation func).generateHashRing (endpoints.map (Endpoint.rename rename)) ringSize =
      ((make permutation func).generateHashRing endpoints ringSize).map (List.map relabel) := by
  cases func with
  | maglev => exact fillRing_rename permutation hfree (visit_rel hsign ringSize) hslot _
  | maglevV2 =>
    simp only [make, maglevHashV2, maxWeight_rename]
    exact fillRing_rename permutation hfree (visitV2_rel hsign _ ringSize) hslot _

end Rename

/-! ## A returned ring is full

Numbers below `2 ^ 31` occupy the slots they are put in, so every placement leaves one free slot
less. -/

section Full

variable {ringSize : ℕ} {nums : Set ℕ}

/-- As many slots are taken as placements were made, all of them by one of `nums`. -/
structure Filling.Counted (ringSize : ℕ) (nums : Set ℕ) (fill : Filling) : Prop where
  length : fill.result.length = ringSize
  free : (∀ num ∈ nums, num < 2 ^ 31) → fill.result.countP (· < 0) + fill.runs = ringSize
  slots : ∀ slot ∈ fill.result, slot < 0 ∨ ∃ num ∈ nums, slot = int32 num

/-- Every slot holds one of `nums`, if these are small. -/
structure Full (ringSize : ℕ) (nums : Set ℕ) (ring : List ℤ) : Prop where
  length : ring.length = ringSize
  slots : (∀ num ∈ nums, num < 2 ^ 31) → ∀ slot ∈ ring, ∃ num ∈ nums, slot = int32 num

theorem skipTaken_eq_some {result : List ℤ} {ahead : List ℕ} {cur : ℕ} {rest : List ℕ}
    (h : skipTaken result ahead = some (cur, rest)) :
    ∃ slot, result[cur]? = some slot ∧ slot < 0 ∧ ∃ skipped, ahead = skipped ++ cur :: rest ∧
      ∀ p ∈ skipped, ∃ slot, result[p]? = some slot ∧ 0 ≤ slot := by
  induction ahead with
  | nil => simp [skipTaken] at h
  | cons p ahead ih =>
    unfold skipTaken at h
    cases hslot : result[p]? with
    | none => simp [hslot] at h
    | some slot =>
      simp only [hslot] at h
      split_ifs at h with htaken
      · obtain ⟨free, hfree, hneg, skipped, rfl, hskipped⟩ := ih h
        exact ⟨free, hfree, hneg, p :: skipped, rfl,
          List.forall_mem_cons.mpr ⟨⟨slot, hslot, htaken⟩, hskipped⟩⟩
      · obtain ⟨rfl, rfl⟩ : p = cur ∧ ahead = rest := by simpa using h
        exact ⟨slot, hslot, by omega, [], rfl, by simp⟩

theorem countP_set_of_neg {result : List ℤ} {cur : ℕ} {slot new : ℤ}
    (hslot : result[cur]? = some slot) (hneg : slot < 0) (hnew : 0 ≤ new) :
    (result.set cur new).countP (· < 0) + 1 = result.countP (· < 0) := by
  obtain ⟨hcur, rfl⟩ := List.getElem?_eq_some_iff.mp hslot
  have hpos : 0 < result.countP (· < 0) :=
    List.countP_pos_iff.mpr ⟨_, List.getElem_mem hcur, by simpa using hneg⟩
  rw [List.countP_set hcur]
  simp [hneg, not_lt.mpr hnew]
  omega

theorem placeOne_counted {num : ℕ} (hnum : num ∈ nums) {ahead : List ℕ} {fill : Filling}
    {turn : Turn (List ℕ) Filling (List ℤ)} (hfill : fill.Counted ringSize nums)
    (h : placeOne ringSize num ahead fill = some turn) :
    turn.Holds (fun _ ↦ True) (Filling.Counted ringSize nums) (Full ringSize nums) := by
  unfold placeOne at h
  cases hskip : skipTaken fill.result ahead with
  | none => simp [hskip] at h
  | some next =>
    obtain ⟨cur, rest⟩ := next
    obtain ⟨slot, hslot, hneg, -⟩ := skipTaken_eq_some hskip
    have hfree : (∀ num ∈ nums, num < 2 ^ 31) →
        (fill.result.set cur (int32 num)).countP (· < 0) + (fill.runs + 1) = ringSize := by
      intro hsmall
      have htaken : (0 : ℤ) ≤ int32 num := by
        rw [int32_of_lt (hsmall num hnum)]
        omega
      have hcount := countP_set_of_neg hslot hneg htaken
      have hbefore := hfill.free hsmall
      omega
    have hslots : ∀ slot ∈ fill.result.set cur (int32 num),
        slot < 0 ∨ ∃ num ∈ nums, slot = int32 num := by
      intro slot hmem
      rcases List.mem_or_eq_of_mem_set hmem with hold | hnew
      · exact hfill.slots slot hold
      · exact .inr ⟨num, hnum, hnew⟩
    simp only [hskip] at h
    split_ifs at h with hruns <;> obtain rfl := Option.some.inj h
    · refine ⟨by simpa using hfill.length, fun hsmall slot hmem ↦ ?_⟩
      have hzero : (fill.result.set cur (int32 num)).countP (· < 0) = 0 := by
        have hafter := hfree hsmall
        omega
      have hnone := List.countP_eq_zero.mp hzero slot hmem
      exact (hslots slot hmem).resolve_left (by simpa using hnone)
    · exact ⟨trivial, by simpa using hfill.length, hfree, hslots⟩

theorem placeMany_counted {num : ℕ} (hnum : num ∈ nums) {weight : ℕ} {ahead : List ℕ}
    {fill : Filling} {turn : Turn (List ℕ) Filling (List ℤ)}
    (hfill : fill.Counted ringSize nums)
    (h : placeMany ringSize num weight ahead fill = some turn) :
    turn.Holds (fun _ ↦ True) (Filling.Counted ringSize nums) (Full ringSize nums) := by
  induction weight generalizing ahead fill with
  | zero =>
    obtain rfl := Option.some.inj h
    exact ⟨trivial, hfill⟩
  | succ weight ih =>
    unfold placeMany at h
    cases hone : placeOne ringSize num ahead fill with
    | none => simp [hone] at h
    | some first =>
      have hfirst := placeOne_counted hnum hfill hone
      cases first with
      | returned ring =>
        obtain rfl : Turn.returned ring = turn := by simpa [hone] using h
        exact hfirst
      | going ahead fill => exact ih hfirst.2 (by simpa [hone] using h)

theorem visit_counted (c : Cursor) (fill : Filling) (turn : Turn Cursor Filling (List ℤ))
    (hc : c.num ∈ nums) (hfill : fill.Counted ringSize nums)
    (h : visit ringSize c fill = some turn) :
    turn.Holds (·.num ∈ nums) (Filling.Counted ringSize nums) (Full ringSize nums) := by
  unfold visit at h
  cases hmany : placeMany ringSize c.num c.weight c.ahead fill with
  | none => simp [hmany] at h
  | some placed =>
    have hplaced := placeMany_counted hc hfill hmany
    cases placed with
    | returned ring =>
      obtain rfl : Turn.returned ring = turn := by simpa [hmany] using h
      exact hplaced
    | going ahead fill' =>
      obtain rfl : Turn.going { c with ahead := ahead, weight := 1 } fill' = turn := by
        simpa [hmany] using h
      exact ⟨hc, hplaced.2⟩

theorem visitV2_counted (maxWeight : ℕ) (c : Cursor) (fill : Filling)
    (turn : Turn Cursor Filling (List ℤ)) (hc : c.num ∈ nums)
    (hfill : fill.Counted ringSize nums) (h : visitV2 maxWeight ringSize c fill = some turn) :
    turn.Holds (·.num ∈ nums) (Filling.Counted ringSize nums) (Full ringSize nums) := by
  unfold visitV2 at h
  dsimp only at h
  split_ifs at h
  · cases hone : placeOne ringSize c.num c.ahead fill with
    | none => simp [hone] at h
    | some placed =>
      have hplaced := placeOne_counted hc hfill hone
      cases placed with
      | returned ring =>
        obtain rfl : Turn.returned ring = turn := by simpa [hone] using h
        exact hplaced
      | going ahead fill' =>
        simp only [hone, Option.some.injEq] at h
        rw [← h]
        exact ⟨hc, hplaced.2⟩
  · obtain rfl := Option.some.inj h
    exact ⟨hc, hfill⟩

theorem fillRing_full (permutation : ℕ → ℕ → List ℕ)
    {visit : Cursor → Filling → Option (Turn Cursor Filling (List ℤ))}
    (hvisit : ∀ c fill turn, c.num ∈ nums → fill.Counted ringSize nums →
      visit c fill = some turn →
      turn.Holds (·.num ∈ nums) (Filling.Counted ringSize nums) (Full ringSize nums))
    {endpoints : List Endpoint} (hne : endpoints ≠ []) (hnums : ∀ e ∈ endpoints, e.num ∈ nums)
    {ring : List ℤ} (h : fillRing permutation visit endpoints ringSize = some ring) :
    Full ringSize nums ring := by
  match endpoints, hne, hnums with
  | [e], _, hnums =>
    obtain rfl := Option.some.inj h
    refine ⟨by simp, fun _ slot hslot ↦ ⟨e.num, hnums e (by simp), ?_⟩⟩
    obtain ⟨-, -, rfl⟩ := List.mem_map.mp hslot
    rfl
  | e₁ :: e₂ :: endpoints, _, hnums =>
    have hcursors : ∀ c ∈ (e₁ :: e₂ :: endpoints).map (start permutation ringSize),
        c.num ∈ nums := by
      intro c hc
      obtain ⟨e, he, rfl⟩ := List.mem_map.mp hc
      exact hnums e he
    have hstart : Filling.Counted ringSize nums ⟨List.replicate ringSize (-1), 0⟩ :=
      ⟨by simp, by simp [List.countP_replicate],
        fun slot hslot ↦ .inl (by rw [List.eq_of_mem_replicate hslot]; omega)⟩
    exact RoundRobin.loop_holds hvisit hcursors hstart h

/-- Both versions give every slot to one of the endpoints. -/
theorem generateHashRing_full (permutation : ℕ → ℕ → List ℕ) (func : HashFunction)
    {endpoints : List Endpoint} (hne : endpoints ≠ []) {ring : List ℤ}
    (h : (make permutation func).generateHashRing endpoints ringSize = some ring) :
    Full ringSize {num | ∃ e ∈ endpoints, e.num = num} ring := by
  have hnums : ∀ e ∈ endpoints, e.num ∈ {num | ∃ e ∈ endpoints, e.num = num} :=
    fun e he ↦ ⟨e, he, rfl⟩
  cases func with
  | maglev => exact fillRing_full permutation visit_counted hne hnums h
  | maglevV2 => exact fillRing_full permutation (visitV2_counted _) hne hnums h

end Full

/-! ## Every ring is returned

`placed` collects the positions written so far. There are at most as many as placements, so before
the last placement every row still has a free position ahead. -/

section Returns

variable {ringSize : ℕ}

structure Filling.PlacedAt (ringSize : ℕ) (placed : Finset ℕ) (fill : Filling) : Prop where
  length : fill.result.length = ringSize
  card : placed.card ≤ fill.runs
  runs : fill.runs < ringSize
  free : ∀ p < ringSize, p ∉ placed → fill.result[p]? = some (-1)

/-- The row stays in the ring and still has every position that is not placed. -/
structure Ahead (ringSize : ℕ) (placed : Finset ℕ) (ahead : List ℕ) : Prop where
  bound : ∀ p ∈ ahead, p < ringSize
  covers : ∀ p < ringSize, p ∉ placed → p ∈ ahead

theorem Ahead.mono {placed placed' : Finset ℕ} {ahead : List ℕ} (hle : placed ≤ placed')
    (h : Ahead ringSize placed ahead) : Ahead ringSize placed' ahead where
  bound := h.bound
  covers p hp hnot := h.covers p hp fun hmem ↦ hnot (hle hmem)

theorem skipTaken_isSome {result : List ℤ} {ahead : List ℕ}
    (hbound : ∀ p ∈ ahead, p < result.length) {p : ℕ} (hp : p ∈ ahead) {slot : ℤ}
    (hslot : result[p]? = some slot) (hneg : slot < 0) :
    ∃ cur rest, skipTaken result ahead = some (cur, rest) := by
  induction ahead with
  | nil => simp at hp
  | cons q ahead ih =>
    obtain ⟨hq, hbound⟩ := List.forall_mem_cons.mp hbound
    unfold skipTaken
    rw [List.getElem?_eq_getElem hq]
    dsimp only
    split_ifs with htaken
    · refine ih hbound ((List.mem_cons.mp hp).resolve_left fun heq ↦ ?_)
      subst heq
      rw [List.getElem?_eq_getElem hq] at hslot
      have := Option.some.inj hslot
      omega
    · exact ⟨q, ahead, rfl⟩

theorem placeOne_advances (num : ℕ) {placed : Finset ℕ} {ahead : List ℕ} {fill : Filling}
    (hahead : Ahead ringSize placed ahead) (hfill : fill.PlacedAt ringSize placed) :
    RoundRobin.Advances (Ahead ringSize) (Filling.PlacedAt ringSize) Filling.runs (fun _ ↦ True)
      placed ahead fill (placeOne ringSize num ahead fill) := by
  have hroom : ∃ p ∈ Finset.range ringSize, p ∉ placed := by
    apply Finset.exists_mem_notMem_of_card_lt_card
    rw [Finset.card_range]
    exact lt_of_le_of_lt hfill.card hfill.runs
  obtain ⟨p, hp, hnot⟩ := hroom
  have hp : p < ringSize := Finset.mem_range.mp hp
  obtain ⟨cur, rest, hskip⟩ := skipTaken_isSome
    (fun q hq ↦ hfill.length.symm ▸ hahead.bound q hq) (hahead.covers p hp hnot)
    (hfill.free p hp hnot) (by decide)
  obtain ⟨slot, hslot, hneg, skipped, hsplit, htaken⟩ := skipTaken_eq_some hskip
  unfold placeOne
  rw [hskip]
  dsimp only
  split_ifs with hruns
  · exact ⟨_, rfl, by simp⟩
  · refine ⟨_, rfl, fun ahead' fill' heq ↦ ?_⟩
    obtain ⟨rfl, rfl⟩ := Turn.going.inj heq
    have hrest : Ahead ringSize (insert cur placed) rest := by
      refine ⟨fun q hq ↦ hahead.bound q (by simp [hsplit, hq]), fun q hq hout ↦ ?_⟩
      obtain ⟨hcur, hout⟩ := not_or.mp (Finset.mem_insert.not.mp hout)
      have hmem := hahead.covers q hq hout
      rw [hsplit, List.mem_append, List.mem_cons] at hmem
      refine (hmem.resolve_left fun hskipped ↦ ?_).resolve_left hcur
      obtain ⟨taken, hget, hpos⟩ := htaken q hskipped
      rw [hfill.free q hq hout] at hget
      have := Option.some.inj hget
      omega
    have hcard : (insert cur placed).card ≤ fill.runs + 1 :=
      le_trans (Finset.card_insert_le _ _) (Nat.succ_le_succ hfill.card)
    have hlast := hfill.runs
    refine ⟨⟨insert cur placed, Finset.subset_insert _ _, hrest, ?_⟩, by simp, by simp⟩
    refine ⟨by simpa using hfill.length, hcard, by simp only; omega, fun q hq hout ↦ ?_⟩
    obtain ⟨hcur, hout⟩ := not_or.mp (Finset.mem_insert.not.mp hout)
    simpa [List.getElem?_set, Ne.symm hcur] using hfill.free q hq hout

theorem placeMany_advances (num weight : ℕ) {placed : Finset ℕ} {ahead : List ℕ}
    {fill : Filling} (hahead : Ahead ringSize placed ahead)
    (hfill : fill.PlacedAt ringSize placed) :
    RoundRobin.Advances (Ahead ringSize) (Filling.PlacedAt ringSize) Filling.runs
      (fun _ ↦ weight ≠ 0) placed ahead fill (placeMany ringSize num weight ahead fill) := by
  induction weight generalizing placed ahead fill with
  | zero =>
    refine ⟨_, rfl, fun ahead' fill' heq ↦ ?_⟩
    obtain ⟨rfl, rfl⟩ := Turn.going.inj heq
    exact ⟨⟨placed, le_refl _, hahead, hfill⟩, le_refl _, by simp⟩
  | succ weight ih =>
    obtain ⟨turn, hturn, hgoing⟩ := placeOne_advances num hahead hfill
    unfold placeMany
    rw [hturn]
    cases turn with
    | returned ring => exact ⟨.returned ring, rfl, by simp⟩
    | going ahead₁ fill₁ =>
      obtain ⟨⟨placed₁, hle, hahead₁, hfill₁⟩, -, hless⟩ := hgoing ahead₁ fill₁ rfl
      obtain ⟨turn, hturn, hrest⟩ := ih hahead₁ hfill₁
      refine ⟨turn, hturn, fun ahead' fill' heq ↦ ?_⟩
      obtain ⟨⟨placed', hle', hahead', hfill'⟩, hdone, -⟩ := hrest ahead' fill' heq
      have hmore := lt_of_lt_of_le (hless trivial).2 hdone
      exact ⟨⟨placed', le_trans hle hle', hahead', hfill'⟩, le_of_lt hmore,
        fun _ ↦ ⟨by simp, hmore⟩⟩

theorem visit_advances (placed : Finset ℕ) (c : Cursor) (fill : Filling)
    (hc : Ahead ringSize placed c.ahead) (hfill : fill.PlacedAt ringSize placed) :
    RoundRobin.Advances (fun placed c ↦ Ahead ringSize placed c.ahead)
      (Filling.PlacedAt ringSize) Filling.runs (·.weight ≠ 0) placed c fill
      (visit ringSize c fill) := by
  obtain ⟨turn, hturn, hgoing⟩ := placeMany_advances c.num c.weight hc hfill
  unfold visit
  rw [hturn]
  cases turn with
  | returned ring => exact ⟨.returned ring, rfl, by simp⟩
  | going ahead₁ fill₁ =>
    refine ⟨_, rfl, fun c' fill' heq ↦ ?_⟩
    obtain ⟨rfl, rfl⟩ := Turn.going.inj heq
    obtain ⟨hstate, hdone, hless⟩ := hgoing ahead₁ fill₁ rfl
    exact ⟨hstate, hdone, fun hweight ↦ ⟨Nat.one_ne_zero, (hless hweight).2⟩⟩

theorem visit_eager (c : Cursor) (fill : Filling) (c' : Cursor) (fill' : Filling)
    (h : visit ringSize c fill = some (.going c' fill')) : c'.weight ≠ 0 := by
  unfold visit at h
  cases hmany : placeMany ringSize c.num c.weight c.ahead fill with
  | none => simp [hmany] at h
  | some turn =>
    cases turn with
    | returned ring => simp [hmany] at h
    | going ahead fill =>
      obtain ⟨rfl, -⟩ : { c with ahead := ahead, weight := 1 } = c' ∧ fill = fill' := by
        simpa [hmany] using h
      exact Nat.one_ne_zero

theorem visitV2_advances {maxWeight : ℕ} (hmax : maxWeight < 2 ^ 32) (placed : Finset ℕ)
    (c : Cursor) (fill : Filling) (hc : Ahead ringSize placed c.ahead)
    (hfill : fill.PlacedAt ringSize placed) :
    RoundRobin.Advances (fun placed c ↦ Ahead ringSize placed c.ahead)
      (Filling.PlacedAt ringSize) Filling.runs
      (fun c ↦ c.weight = maxWeight ∧ c.cumWeight = 0) placed c fill
      (visitV2 maxWeight ringSize c fill) := by
  have hfull : c.weight = maxWeight ∧ c.cumWeight = 0 →
      (c.cumWeight + c.weight) % 2 ^ 32 = maxWeight := by
    rintro ⟨hweight, hcum⟩
    rw [hweight, hcum, Nat.zero_add, Nat.mod_eq_of_lt hmax]
  unfold visitV2
  dsimp only
  split_ifs with hreached
  · obtain ⟨turn, hturn, hgoing⟩ := placeOne_advances c.num hc hfill
    rw [hturn]
    cases turn with
    | returned ring => exact ⟨.returned ring, rfl, by simp⟩
    | going ahead₁ fill₁ =>
      refine ⟨_, rfl, fun c' fill' heq ↦ ?_⟩
      obtain ⟨rfl, rfl⟩ := Turn.going.inj heq
      obtain ⟨hstate, hdone, hless⟩ := hgoing ahead₁ fill₁ rfl
      refine ⟨hstate, hdone, fun heager ↦ ⟨⟨heager.1, ?_⟩, (hless trivial).2⟩⟩
      exact Nat.sub_eq_zero_of_le (hfull heager).le
  · refine ⟨_, rfl, fun c' fill' heq ↦ ?_⟩
    obtain ⟨rfl, rfl⟩ := Turn.going.inj heq
    exact ⟨⟨placed, le_refl _, hc, hfill⟩, le_refl _,
      fun heager ↦ absurd (hfull heager).ge hreached⟩

theorem exists_weight_eq_maxWeight {endpoints : List Endpoint} (hne : endpoints ≠ []) :
    ∃ e ∈ endpoints, e.weight = maxWeight endpoints := by
  have hfold : ∀ (es : List Endpoint) (m : ℕ),
      (es.foldl (fun m e ↦ if e.weight > m then e.weight else m) m = m ∧
        ∀ e ∈ es, e.weight ≤ m) ∨
      ∃ e ∈ es, e.weight = es.foldl (fun m e ↦ if e.weight > m then e.weight else m) m := by
    intro es
    induction es with
    | nil => exact fun m ↦ .inl ⟨rfl, by simp⟩
    | cons e es ih =>
      intro m
      rw [List.foldl_cons]
      split_ifs with hmore
      · rcases ih e.weight with ⟨hsame, -⟩ | ⟨e', he', hmax⟩
        · exact .inr ⟨e, List.mem_cons_self, hsame.symm⟩
        · exact .inr ⟨e', List.mem_cons_of_mem _ he', hmax⟩
      · rcases ih m with ⟨hsame, hle⟩ | ⟨e', he', hmax⟩
        · exact .inl ⟨hsame, List.forall_mem_cons.mpr ⟨Nat.not_lt.mp hmore, hle⟩⟩
        · exact .inr ⟨e', List.mem_cons_of_mem _ he', hmax⟩
  rcases hfold endpoints 0 with ⟨hzero, hle⟩ | hmax
  · obtain ⟨e, rest, rfl⟩ := List.exists_cons_of_ne_nil hne
    exact ⟨e, List.mem_cons_self, (Nat.le_zero.mp (hle e List.mem_cons_self)).trans hzero.symm⟩
  · exact hmax

/-- Where the rows are permutations of the slots, both versions return a ring. A walk never gets
past the end of its row. -/
theorem generateHashRing_returns {permutation : ℕ → ℕ → List ℕ} (hringSize : 0 < ringSize)
    (func : HashFunction) {endpoints : List Endpoint}
    (hrows : ∀ e ∈ endpoints, (permutation e.hash ringSize).Perm (List.range ringSize))
    (hweight : ∀ e ∈ endpoints, e.weight < 2 ^ 32) :
    ∃ ring, (make permutation func).generateHashRing endpoints ringSize = some ring := by
  match endpoints, hrows, hweight with
  | [], _, _ => cases func <;> exact ⟨_, rfl⟩
  | [e], _, _ => cases func <;> exact ⟨_, rfl⟩
  | e₁ :: e₂ :: endpoints, hrows, hweight =>
    have hrow : ∀ c ∈ (e₁ :: e₂ :: endpoints).map (start permutation ringSize),
        Ahead ringSize ∅ c.ahead := by
      intro c hc
      obtain ⟨e, he, rfl⟩ := List.mem_map.mp hc
      have hmem : ∀ p, p ∈ permutation e.hash ringSize ↔ p < ringSize := fun p ↦
        (hrows e he).mem_iff.trans List.mem_range
      exact ⟨fun p ↦ (hmem p).mp, fun p hp _ ↦ (hmem p).mpr hp⟩
    have hstart : Filling.PlacedAt ringSize ∅ ⟨List.replicate ringSize (-1), 0⟩ :=
      ⟨by simp, by simp, hringSize, fun p hp _ ↦ by simp [hp]⟩
    have hlimit : ∀ (placed : Finset ℕ) (fill : Filling),
        fill.PlacedAt ringSize placed → fill.runs < ringSize := fun _ _ h ↦ h.runs
    have hmono : ∀ (placed placed' : Finset ℕ) (c : Cursor), placed ≤ placed' →
        Ahead ringSize placed c.ahead → Ahead ringSize placed' c.ahead :=
      fun _ _ _ hle h ↦ h.mono hle
    cases func with
    | maglev =>
      exact RoundRobin.loop_returns_of_turns_eager hmono visit_advances visit_eager hlimit hrow
        hstart (by simp) (by simp)
    | maglevV2 =>
      obtain ⟨e, he, hmax⟩ := exists_weight_eq_maxWeight (List.cons_ne_nil e₁ (e₂ :: endpoints))
      exact RoundRobin.loop_returns hmono (visitV2_advances (hmax ▸ hweight e he)) hlimit hrow
        hstart ⟨_, List.mem_map_of_mem he, hmax, rfl⟩ (by simp)

end Returns

end Maglev

end Vsoshlb
