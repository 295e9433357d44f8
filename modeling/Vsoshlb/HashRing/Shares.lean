import Mathlib.Algebra.BigOperators.Group.List.Basic
import Mathlib.Order.Bounds.Basic
import Vsoshlb.HashRing.Maglev

/-!
# The shares of the ring

How many slots of a Maglev ring each endpoint gets. A turn fills slots that are free and no later
turn writes to them, so the slots of an endpoint are counted turn by turn. The loop returns in the
middle of a pass: the endpoints before the last placement have had one turn more than those behind
it. Closed forms of what an endpoint holds after so many turns then give the shares of both
versions.

Both results ask for distinct numbers below `2 ^ 31`, and for rows that are permutations.
-/

namespace Vsoshlb

open RoundRobin (Turn loop)

namespace Maglev

/-! ## What a turn adds -/

variable {ringSize : ℕ}

/-- The slots of `num` that a placement leaves, next to those of all other small numbers. -/
structure Filling.Gains (num gain : ℕ) (fill fill' : Filling) : Prop where
  slots : ∀ m < 2 ^ 31,
    fill'.result.count (int32 m) = fill.result.count (int32 m) + if m = num then gain else 0
  runs : fill'.runs = fill.runs + gain

theorem Filling.Gains.refl (num : ℕ) (fill : Filling) : fill.Gains num 0 fill :=
  ⟨fun m _ ↦ by simp, rfl⟩

theorem Filling.Gains.trans {num gain gain' : ℕ} {fill fill' fill'' : Filling}
    (h : fill.Gains num gain fill') (h' : fill'.Gains num gain' fill'') :
    fill.Gains num (gain + gain') fill'' where
  slots m hm := by
    rw [h'.slots m hm, h.slots m hm]
    split_ifs <;> omega
  runs := by rw [h'.runs, h.runs, Nat.add_assoc]

/-- Filling a free slot takes nothing from a small number. -/
theorem count_set_of_neg {result : List ℤ} {cur num m : ℕ} {slot : ℤ}
    (hslot : result[cur]? = some slot) (hneg : slot < 0) (hnum : num < 2 ^ 31)
    (hm : m < 2 ^ 31) :
    (result.set cur (int32 num)).count (int32 m) =
      result.count (int32 m) + if m = num then 1 else 0 := by
  obtain ⟨hcur, rfl⟩ := List.getElem?_eq_some_iff.mp hslot
  rw [List.count_set hcur, int32_of_lt hnum, int32_of_lt hm]
  have hold : (result[cur] == (m : ℤ)) = false := by
    rw [beq_eq_false_iff_ne]
    omega
  rw [hold]
  by_cases hsame : m = num
  · simp [hsame]
  · have hnew : ((num : ℤ) == (m : ℤ)) = false := by
      rw [beq_eq_false_iff_ne]
      omega
    simp [hnew, hsame]

theorem placeOne_gains {num : ℕ} (hnum : num < 2 ^ 31) {ahead : List ℕ} {fill : Filling}
    {turn : Turn (List ℕ) Filling (List ℤ)} (h : placeOne ringSize num ahead fill = some turn) :
    turn.Holds (fun _ ↦ True) (fill.Gains num 1)
      (fun ring ↦ fill.Gains num 1 ⟨ring, ringSize⟩) := by
  unfold placeOne at h
  cases hskip : skipTaken fill.result ahead with
  | none => simp [hskip] at h
  | some next =>
    obtain ⟨cur, rest⟩ := next
    obtain ⟨slot, hslot, hneg, -⟩ := skipTaken_eq_some hskip
    have hslots : ∀ m < 2 ^ 31, (fill.result.set cur (int32 num)).count (int32 m) =
        fill.result.count (int32 m) + if m = num then 1 else 0 :=
      fun m hm ↦ count_set_of_neg hslot hneg hnum hm
    simp only [hskip] at h
    split_ifs at h with hruns
    · obtain rfl := Option.some.inj h
      exact ⟨hslots, hruns.symm⟩
    · obtain rfl := Option.some.inj h
      exact ⟨trivial, hslots, rfl⟩

theorem placeMany_gains {num : ℕ} (hnum : num < 2 ^ 31) {weight : ℕ} {ahead : List ℕ}
    {fill : Filling} {turn : Turn (List ℕ) Filling (List ℤ)}
    (h : placeMany ringSize num weight ahead fill = some turn) :
    turn.Holds (fun _ ↦ True) (fill.Gains num weight)
      (fun ring ↦ ∃ gain, 0 < gain ∧ gain ≤ weight ∧ fill.Gains num gain ⟨ring, ringSize⟩) := by
  induction weight generalizing ahead fill with
  | zero =>
    obtain rfl := Option.some.inj h
    exact ⟨trivial, .refl num fill⟩
  | succ weight ih =>
    unfold placeMany at h
    cases hone : placeOne ringSize num ahead fill with
    | none => simp [hone] at h
    | some first =>
      have hfirst := placeOne_gains hnum hone
      cases first with
      | returned ring =>
        obtain rfl : Turn.returned ring = turn := by simpa [hone] using h
        exact ⟨1, Nat.one_pos, by omega, hfirst⟩
      | going ahead fill₁ =>
        have hrest := ih (by simpa [hone] using h)
        cases turn with
        | returned ring =>
          obtain ⟨gain, -, hle, hgain⟩ := hrest
          exact ⟨1 + gain, by omega, by omega, hfirst.2.trans hgain⟩
        | going ahead fill₂ =>
          have hgain := hfirst.2.trans hrest.2
          rw [Nat.add_comm] at hgain
          exact ⟨trivial, hgain⟩

/-! ## Counting the turns

`held n e` is what endpoint `e` holds after `n` turns, and `Taken n e` says that a cursor has had
`n` turns as `e`. -/

section Turns

variable {endpoints : List Endpoint} {held : ℕ → Endpoint → ℕ}
  {Taken : ℕ → Endpoint → Cursor → Prop}
  {visit : Cursor → Filling → Option (Turn Cursor Filling (List ℤ))}

/-- The endpoints of `done` have had `n + 1` turns, those of `rest` have had `n`. -/
structure Filling.Shared (held : ℕ → Endpoint → ℕ) (n : ℕ) (done rest : List Endpoint)
    (fill : Filling) : Prop where
  ahead : ∀ e ∈ done, fill.result.count (int32 e.num) = held (n + 1) e
  behind : ∀ e ∈ rest, fill.result.count (int32 e.num) = held n e
  runs : fill.runs = (done.map (held (n + 1))).sum + (rest.map (held n)).sum

/-- The ring is full in a turn of `e`, with `gain` slots gained in it. -/
structure Cut (held : ℕ → Endpoint → ℕ) (ringSize n : ℕ) (done : List Endpoint) (e : Endpoint)
    (rest : List Endpoint) (gain : ℕ) (ring : List ℤ) : Prop where
  positive : 0 < gain
  bound : held n e + gain ≤ held (n + 1) e
  ahead : ∀ a ∈ done, ring.count (int32 a.num) = held (n + 1) a
  last : ring.count (int32 e.num) = held n e + gain
  behind : ∀ a ∈ rest, ring.count (int32 a.num) = held n a
  total : ringSize = (done.map (held (n + 1))).sum + (held n e + gain) + (rest.map (held n)).sum

/-- A turn that gains what `held` says, or the last part of it. -/
def TurnGains (held : ℕ → Endpoint → ℕ) (Taken : ℕ → Endpoint → Cursor → Prop) (ringSize n : ℕ)
    (e : Endpoint) (fill : Filling) (turn : Turn Cursor Filling (List ℤ)) : Prop :=
  turn.Holds (Taken (n + 1) e)
    (fun fill' ↦ ∃ gain, held (n + 1) e = held n e + gain ∧ fill.Gains e.num gain fill')
    (fun ring ↦ ∃ gain, 0 < gain ∧ held n e + gain ≤ held (n + 1) e ∧
      fill.Gains e.num gain ⟨ring, ringSize⟩)

theorem turn_shared {n : ℕ} {done : List Endpoint} {e : Endpoint} {rest : List Endpoint}
    (hnodup : ((done ++ e :: rest).map Endpoint.num).Nodup)
    (hsmall : ∀ a ∈ done ++ e :: rest, a.num < 2 ^ 31) {fill : Filling}
    (hfill : fill.Shared held n done (e :: rest)) {turn : Turn Cursor Filling (List ℤ)}
    (hturn : TurnGains held Taken ringSize n e fill turn) :
    turn.Holds (Taken (n + 1) e) (Filling.Shared held n (done ++ [e]) rest)
      (fun ring ↦ ∃ gain, Cut held ringSize n done e rest gain ring) := by
  rw [List.map_append, List.map_cons, List.nodup_append, List.nodup_cons] at hnodup
  obtain ⟨-, ⟨hrest, -⟩, hdone⟩ := hnodup
  have hdone' : ∀ a ∈ done, a.num ≠ e.num := fun a ha ↦
    hdone a.num (List.mem_map_of_mem ha) e.num List.mem_cons_self
  have hrest' : ∀ a ∈ rest, a.num ≠ e.num := fun a ha heq ↦
    hrest (heq ▸ List.mem_map_of_mem ha)
  have hkeep : ∀ {gain : ℕ} {fill' : Filling}, fill.Gains e.num gain fill' →
      (∀ a ∈ done, fill'.result.count (int32 a.num) = held (n + 1) a) ∧
      fill'.result.count (int32 e.num) = held n e + gain ∧
      (∀ a ∈ rest, fill'.result.count (int32 a.num) = held n a) := by
    intro gain fill' hgain
    refine ⟨fun a ha ↦ ?_, ?_, fun a ha ↦ ?_⟩
    · rw [hgain.slots a.num (hsmall a (by simp [ha])), if_neg (hdone' a ha), Nat.add_zero]
      exact hfill.ahead a ha
    · rw [hgain.slots e.num (hsmall e (by simp)), if_pos rfl,
        hfill.behind e List.mem_cons_self]
    · rw [hgain.slots a.num (hsmall a (by simp [ha])), if_neg (hrest' a ha), Nat.add_zero]
      exact hfill.behind a (List.mem_cons_of_mem _ ha)
  have hruns := hfill.runs
  rw [List.map_cons, List.sum_cons] at hruns
  cases turn with
  | going c fill' =>
    obtain ⟨htaken, gain, hheld, hgain⟩ := hturn
    obtain ⟨hcountDone, hcount, hcountRest⟩ := hkeep hgain
    refine ⟨htaken, ?_, hcountRest, ?_⟩
    · intro a ha
      rcases List.mem_append.mp ha with ha | ha
      · exact hcountDone a ha
      · obtain rfl := List.mem_singleton.mp ha
        rw [hcount, hheld]
    · rw [hgain.runs, hruns, List.map_append, List.sum_append, List.map_singleton,
        List.sum_singleton, hheld]
      omega
  | returned ring =>
    obtain ⟨gain, hpositive, hbound, hgain⟩ := hturn
    obtain ⟨hcountDone, hcount, hcountRest⟩ := hkeep hgain
    refine ⟨gain, hpositive, hbound, hcountDone, hcount, hcountRest, ?_⟩
    have htotal : ringSize = fill.runs + gain := hgain.runs
    omega

/-- Where every turn gains what `held` says, the ring is cut in one of them. -/
theorem loop_shares (hnodup : (endpoints.map Endpoint.num).Nodup)
    (hsmall : ∀ e ∈ endpoints, e.num < 2 ^ 31) (hzero : ∀ e, held 0 e = 0)
    (hvisit : ∀ n, ∀ e ∈ endpoints, ∀ c fill turn, Taken n e c → visit c fill = some turn →
      TurnGains held Taken ringSize n e fill turn)
    {permutation : ℕ → ℕ → List ℕ} (hstart : ∀ e, Taken 0 e (start permutation ringSize e))
    {fuel : ℕ} {ring : List ℤ}
    (hloop : loop visit fuel (endpoints.map (start permutation ringSize))
      ⟨List.replicate ringSize (-1), 0⟩ = some ring) :
    ∃ n done e rest gain, endpoints = done ++ e :: rest ∧
      Cut held ringSize n done e rest gain ring := by
  have hgs : List.Forall₂ (Taken 0) endpoints
      (endpoints.map (start permutation ringSize)) := by
    rw [List.forall₂_map_right_iff, List.forall₂_same]
    exact fun e _ ↦ hstart e
  have hempty : Filling.Shared held 0 [] endpoints ⟨List.replicate ringSize (-1), 0⟩ := by
    refine ⟨by simp, fun e he ↦ ?_, ?_⟩
    · rw [hzero, List.count_eq_zero]
      intro hmem
      have hslot := List.eq_of_mem_replicate hmem
      rw [int32_of_lt (hsmall e he)] at hslot
      omega
    · have hnone : endpoints.map (held 0) = endpoints.map fun _ ↦ 0 :=
        List.map_congr_left fun e _ ↦ hzero e
      simp [hnone]
  have hturn : ∀ n done e rest c fill turn, endpoints = done ++ e :: rest → Taken n e c →
      Filling.Shared held n done (e :: rest) fill → visit c fill = some turn →
      turn.Holds (Taken (n + 1) e) (Filling.Shared held n (done ++ [e]) rest)
        (fun ring ↦ ∃ gain, Cut held ringSize n done e rest gain ring) := by
    intro n done e rest c fill turn hsplit htaken hfill hvisited
    subst hsplit
    exact turn_shared hnodup hsmall hfill (hvisit n e (by simp) c fill turn htaken hvisited)
  have hround : ∀ n fill, Filling.Shared held n endpoints [] fill →
      Filling.Shared held (n + 1) [] endpoints fill := by
    intro n fill hfill
    exact ⟨by simp, hfill.ahead, by simpa using hfill.runs⟩
  have hcut : ∃ n done e rest, endpoints = done ++ e :: rest ∧
      ∃ gain, Cut held ringSize n done e rest gain ring :=
    RoundRobin.loop_cut hturn hround hgs hempty hloop
  obtain ⟨n, done, e, rest, hsplit, gain, hcut⟩ := hcut
  exact ⟨n, done, e, rest, gain, hsplit, hcut⟩

end Turns

theorem fillRing_eq_loop {permutation : ℕ → ℕ → List ℕ}
    {visit : Cursor → Filling → Option (Turn Cursor Filling (List ℤ))}
    {endpoints : List Endpoint} (hlength : 2 ≤ endpoints.length) :
    fillRing permutation visit endpoints ringSize =
      loop visit (ringSize + 1) (endpoints.map (start permutation ringSize))
        ⟨List.replicate ringSize (-1), 0⟩ := by
  match endpoints, hlength with
  | _ :: _ :: _, _ => rfl

theorem Full.neg_one_notMem {endpoints : List Endpoint} {ring : List ℤ}
    (hsmall : ∀ e ∈ endpoints, e.num < 2 ^ 31)
    (hfull : Full ringSize {num | ∃ e ∈ endpoints, e.num = num} ring) : -1 ∉ ring := by
  have hnums : ∀ num ∈ {num | ∃ e ∈ endpoints, e.num = num}, num < 2 ^ 31 := by
    rintro num ⟨e, he, rfl⟩
    exact hsmall e he
  intro hmem
  obtain ⟨num, hnum, hslot⟩ := hfull.slots hnums (-1) hmem
  rw [int32_of_lt (hnums num hnum)] at hslot
  omega

/-- The position of an entry tells whether its endpoint comes before the cut or behind it. -/
theorem getElem?_split {done : List Endpoint} {e : Endpoint} {rest : List Endpoint} {i : ℕ}
    {a : Endpoint} (h : (done ++ e :: rest)[i]? = some a) :
    (i < done.length ∧ a ∈ done) ∨ (i = done.length ∧ a = e) ∨ (done.length < i ∧ a ∈ rest) := by
  rcases Nat.lt_trichotomy i done.length with hi | rfl | hi
  · rw [List.getElem?_append_left hi] at h
    exact .inl ⟨hi, List.mem_of_getElem? h⟩
  · rw [List.getElem?_append_right (Nat.le_refl _), Nat.sub_self] at h
    exact .inr (.inl ⟨rfl, (Option.some.inj h).symm⟩)
  · rw [List.getElem?_append_right (Nat.le_of_lt hi)] at h
    obtain ⟨j, hj⟩ : ∃ j, i - done.length = j + 1 := ⟨i - done.length - 1, by omega⟩
    rw [hj, List.getElem?_cons_succ] at h
    exact .inr (.inr ⟨hi, List.mem_of_getElem? h⟩)

/-! ## The first version -/

def totalWeight (endpoints : List Endpoint) : ℕ := (endpoints.map Endpoint.weight).sum

theorem totalWeight_append (as bs : List Endpoint) :
    totalWeight (as ++ bs) = totalWeight as + totalWeight bs := by
  rw [totalWeight, List.map_append, List.sum_append]
  rfl

theorem totalWeight_cons (e : Endpoint) (endpoints : List Endpoint) :
    totalWeight (e :: endpoints) = e.weight + totalWeight endpoints := by
  rw [totalWeight, List.map_cons, List.sum_cons]
  rfl

theorem totalWeight_take_add {endpoints : List Endpoint} {i : ℕ} {e : Endpoint}
    (h : endpoints[i]? = some e) :
    totalWeight (endpoints.take i) + e.weight = totalWeight (endpoints.take (i + 1)) := by
  rw [List.take_add_one, h, totalWeight_append]
  simp [totalWeight]

theorem totalWeight_take_le (endpoints : List Endpoint) (i : ℕ) :
    totalWeight (endpoints.take i) ≤ totalWeight endpoints := by
  have hsplit := totalWeight_append (endpoints.take i) (endpoints.drop i)
  rw [List.take_append_drop] at hsplit
  omega

/-- `n` turns of `MaglevHash`: the weight in the first one and a single slot in every later one. -/
def held : ℕ → Endpoint → ℕ
  | 0, _ => 0
  | n + 1, e => e.weight + n

structure Taken (n : ℕ) (e : Endpoint) (c : Cursor) : Prop where
  num : c.num = e.num
  weight : c.weight = if n = 0 then e.weight else 1

theorem held_succ {n : ℕ} {e : Endpoint} {c : Cursor} (h : Taken n e c) :
    held (n + 1) e = held n e + c.weight := by
  rw [h.weight]
  cases n with
  | zero => simp [held]
  | succ n => simp [held, Nat.add_assoc]

theorem visit_turnGains {n : ℕ} {e : Endpoint} (hsmall : e.num < 2 ^ 31) {c : Cursor}
    {fill : Filling} {turn : Turn Cursor Filling (List ℤ)} (hc : Taken n e c)
    (h : visit ringSize c fill = some turn) : TurnGains held Taken ringSize n e fill turn := by
  have hheld := held_succ hc
  unfold visit at h
  cases hmany : placeMany ringSize c.num c.weight c.ahead fill with
  | none => simp [hmany] at h
  | some placed =>
    have hplaced := placeMany_gains (hc.num ▸ hsmall) hmany
    rw [hc.num] at hplaced
    cases placed with
    | returned ring =>
      obtain rfl : Turn.returned ring = turn := by simpa [hmany] using h
      obtain ⟨gain, hpositive, hle, hgain⟩ := hplaced
      exact ⟨gain, hpositive, by omega, hgain⟩
    | going ahead fill' =>
      obtain rfl : Turn.going { c with ahead := ahead, weight := 1 } fill' = turn := by
        simpa [hmany] using h
      exact ⟨⟨hc.num, by simp⟩, c.weight, hheld, hplaced.2⟩

theorem sum_held (n : ℕ) (endpoints : List Endpoint) :
    (endpoints.map (held (n + 1))).sum = totalWeight endpoints + endpoints.length * n := by
  induction endpoints with
  | nil => simp [totalWeight]
  | cons e endpoints ih =>
    rw [List.map_cons, List.sum_cons, ih, totalWeight_cons, List.length_cons, Nat.succ_mul, held]
    omega

/-- The slots that `MaglevHash` gives to the endpoint `e` at position `i`. -/
def share (endpoints : List Endpoint) (ringSize i : ℕ) (e : Endpoint) : ℕ :=
  if ringSize ≤ totalWeight endpoints then
    min e.weight (ringSize - totalWeight (endpoints.take i))
  else
    e.weight + (ringSize - totalWeight endpoints) / endpoints.length +
      if i < (ringSize - totalWeight endpoints) % endpoints.length then 1 else 0

/-- The ring is full in the first pass. -/
theorem share_of_first_pass {done : List Endpoint} {e : Endpoint} {rest : List Endpoint}
    {gain : ℕ} {ring : List ℤ} (hcut : Cut held ringSize 0 done e rest gain ring) {i : ℕ}
    {a : Endpoint} (ha : (done ++ e :: rest)[i]? = some a) :
    ring.count (int32 a.num) = share (done ++ e :: rest) ringSize i a := by
  have hnone : (rest.map (held 0)).sum = 0 := by
    have hzero : held 0 = fun _ ↦ 0 := rfl
    simp [hzero]
  have htotal : ringSize = totalWeight done + gain := by
    have h := hcut.total
    rw [hnone, sum_held, Nat.mul_zero] at h
    simpa [held] using h
  have hgain : gain ≤ e.weight := by simpa [held] using hcut.bound
  have hwhole : totalWeight (done ++ e :: rest) =
      totalWeight done + (e.weight + totalWeight rest) := by
    rw [totalWeight_append, totalWeight_cons]
  rw [share, if_pos (by omega)]
  rcases getElem?_split ha with ⟨hi, hmem⟩ | ⟨rfl, rfl⟩ | ⟨hi, hmem⟩
  · -- a complete turn: what precedes `a` and `a` itself are within `done`
    have htake := totalWeight_take_add ha
    have hle := totalWeight_take_le done (i + 1)
    have hsucc : i + 1 ≤ done.length := hi
    rw [List.take_append_of_le_length (Nat.le_of_lt hi), List.take_append_of_le_length hsucc]
      at htake
    rw [hcut.ahead a hmem, List.take_append_of_le_length (Nat.le_of_lt hi), Nat.min_eq_left]
    · simp [held]
    · omega
  · have hlast : ring.count (int32 a.num) = gain := by simpa [held] using hcut.last
    rw [hlast, List.take_left, htotal, Nat.add_sub_cancel_left, Nat.min_eq_right hgain]
  · -- `done` and `e` have used up the ring
    have hover : ringSize ≤ totalWeight ((done ++ e :: rest).take i) := by
      have hmono := totalWeight_take_le ((done ++ e :: rest).take i) (done.length + 1)
      have hcons : (done ++ e :: rest).take (done.length + 1) = done ++ [e] := by
        rw [List.take_length_add_append]
        simp
      rw [List.take_take, Nat.min_eq_left hi, hcons, totalWeight_append, totalWeight_cons]
        at hmono
      omega
    rw [hcut.behind a hmem, Nat.sub_eq_zero_of_le hover, Nat.min_zero]
    rfl

/-- The ring is full in a later pass. -/
theorem share_of_later_pass {n : ℕ} {done : List Endpoint} {e : Endpoint} {rest : List Endpoint}
    {gain : ℕ} {ring : List ℤ} (hcut : Cut held ringSize (n + 1) done e rest gain ring) {i : ℕ}
    {a : Endpoint} (ha : (done ++ e :: rest)[i]? = some a) :
    ring.count (int32 a.num) = share (done ++ e :: rest) ringSize i a := by
  have hgain : gain = 1 := by
    have hbound : e.weight + n + gain ≤ e.weight + (n + 1) := hcut.bound
    have hpositive := hcut.positive
    omega
  subst hgain
  have htotal : ringSize = (totalWeight done + done.length * (n + 1)) + (e.weight + n + 1) +
      (totalWeight rest + rest.length * n) := by
    rw [← sum_held (n + 1) done, ← sum_held n rest]
    exact hcut.total
  have hlength : (done ++ e :: rest).length = done.length + 1 + rest.length := by
    rw [List.length_append, List.length_cons]
    omega
  have hleft : ringSize - totalWeight (done ++ e :: rest) =
      (done.length + 1) + (done.length + 1 + rest.length) * n := by
    rw [totalWeight_append, totalWeight_cons, htotal, Nat.mul_succ, Nat.add_mul, Nat.add_mul]
    omega
  have hmore : ¬ ringSize ≤ totalWeight (done ++ e :: rest) := by omega
  rw [share, if_neg hmore, hleft, hlength, Nat.add_mul_div_left _ _ (by omega),
    Nat.add_mul_mod_self_left]
  have hcount : ring.count (int32 a.num) =
      a.weight + n + if i < done.length + 1 then 1 else 0 := by
    rcases getElem?_split ha with ⟨hi, hmem⟩ | ⟨rfl, rfl⟩ | ⟨hi, hmem⟩
    · rw [hcut.ahead a hmem, if_pos (by omega), held, Nat.add_assoc]
    · rw [hcut.last, if_pos (Nat.lt_succ_self _), held]
    · rw [hcut.behind a hmem, if_neg (by omega), held, Nat.add_zero]
  rw [hcount]
  cases rest with
  | nil =>
    -- the last endpoint of a pass: the remainder is zero and everyone has had the turn
    have hi : i < done.length + 1 := by
      have := (List.getElem?_eq_some_iff.mp ha).1
      simpa using this
    simp only [List.length_nil, Nat.add_zero, Nat.mod_self, Nat.not_lt_zero, if_false, if_pos hi,
      Nat.div_self (Nat.succ_pos _)]
    omega
  | cons b rest =>
    have hlt : done.length + 1 < done.length + 1 + (b :: rest).length := by simp
    rw [Nat.div_eq_of_lt hlt, Nat.mod_eq_of_lt hlt, Nat.zero_add]

theorem count_eq_share {permutation : ℕ → ℕ → List ℕ} {endpoints : List Endpoint}
    (hlength : 2 ≤ endpoints.length) (hnodup : (endpoints.map Endpoint.num).Nodup)
    (hsmall : ∀ e ∈ endpoints, e.num < 2 ^ 31) {ring : List ℤ}
    (hring : (maglevHash permutation).generateHashRing endpoints ringSize = some ring) {i : ℕ}
    {a : Endpoint} (ha : endpoints[i]? = some a) :
    ring.count (int32 a.num) = share endpoints ringSize i a := by
  have hloop : loop (visit ringSize) (ringSize + 1)
      (endpoints.map (start permutation ringSize)) ⟨List.replicate ringSize (-1), 0⟩ =
      some ring := by
    rw [← fillRing_eq_loop hlength]
    exact hring
  obtain ⟨n, done, e, rest, gain, rfl, hcut⟩ := loop_shares hnodup hsmall (fun _ ↦ rfl)
    (fun n e he c fill turn hc h ↦ visit_turnGains (hsmall e he) hc h)
    (fun e ↦ ⟨rfl, rfl⟩) hloop
  cases n with
  | zero => exact share_of_first_pass hcut ha
  | succ n => exact share_of_later_pass hcut ha

/-- `MaglevHash` fills the ring, and the endpoints get exact shares of it. -/
theorem maglevHash_shares (permutation : ℕ → ℕ → List ℕ) (endpoints : List Endpoint)
    (ringSize : ℕ) (hlength : 2 ≤ endpoints.length)
    (hnodup : (endpoints.map Endpoint.num).Nodup) (hsmall : ∀ e ∈ endpoints, e.num < 2 ^ 31)
    (hweight : ∀ e ∈ endpoints, e.weight < 2 ^ 31) (hringSize : 0 < ringSize)
    (hrows : ∀ e ∈ endpoints, (permutation e.hash ringSize).Perm (List.range ringSize)) :
    ∃ ring, (maglevHash permutation).generateHashRing endpoints ringSize = some ring ∧
      ring.length = ringSize ∧ -1 ∉ ring ∧
      ∀ (i : ℕ) (e : Endpoint), endpoints[i]? = some e →
        ring.count (int32 e.num) = share endpoints ringSize i e := by
  have hbound : ∀ e ∈ endpoints, e.weight < 2 ^ 32 := fun e he ↦
    Nat.lt_trans (hweight e he) (by decide)
  obtain ⟨ring, hring⟩ := generateHashRing_returns hringSize .maglev hrows hbound
  have hne : endpoints ≠ [] := List.ne_nil_of_length_pos (by omega)
  have hfull := generateHashRing_full permutation .maglev hne hring
  exact ⟨ring, hring, hfull.length, hfull.neg_one_notMem hsmall,
    fun i e he ↦ count_eq_share hlength hnodup hsmall hring he⟩

theorem maglevHash_shares_pair :
    ∃ ring, (maglevHash fun _ ringSize ↦ List.range ringSize).generateHashRing
        [⟨4, 2, 7⟩, ⟨9, 0, 8⟩] 5 = some ring ∧
      ring.length = 5 ∧ -1 ∉ ring ∧
      ∀ (i : ℕ) (e : Endpoint), ([⟨4, 2, 7⟩, ⟨9, 0, 8⟩] : List Endpoint)[i]? = some e →
        ring.count (int32 e.num) = share [⟨4, 2, 7⟩, ⟨9, 0, 8⟩] 5 i e :=
  maglevHash_shares (fun _ ringSize ↦ List.range ringSize) [⟨4, 2, 7⟩, ⟨9, 0, 8⟩] 5
    (by decide) (by decide) (by decide) (by decide) (by decide) (fun _ _ ↦ List.Perm.refl _)

/-! ## The second version -/

/-- `n` turns of `MaglevHashV2`: every turn adds the weight to a credit, and a slot costs the
largest weight. -/
def heldV2 (maxWeight n : ℕ) (e : Endpoint) : ℕ := n * e.weight / maxWeight

structure TakenV2 (maxWeight n : ℕ) (e : Endpoint) (c : Cursor) : Prop where
  num : c.num = e.num
  weight : c.weight = e.weight
  cumWeight : c.cumWeight = n * e.weight % maxWeight

/-- Both sides of the comparison in `MaglevHashV2`: a turn either buys one slot or saves up. -/
theorem credit_succ {maxWeight weight : ℕ} (hmax : 0 < maxWeight) (hle : weight ≤ maxWeight)
    (n : ℕ) :
    (maxWeight ≤ n * weight % maxWeight + weight →
      (n + 1) * weight / maxWeight = n * weight / maxWeight + 1 ∧
      (n + 1) * weight % maxWeight = n * weight % maxWeight + weight - maxWeight) ∧
    (n * weight % maxWeight + weight < maxWeight →
      (n + 1) * weight / maxWeight = n * weight / maxWeight ∧
      (n + 1) * weight % maxWeight = n * weight % maxWeight + weight) := by
  have hcredit : n * weight % maxWeight < maxWeight := Nat.mod_lt _ hmax
  have hsplit : (n + 1) * weight =
      n * weight % maxWeight + weight + maxWeight * (n * weight / maxWeight) := by
    have h := Nat.mod_add_div (n * weight) maxWeight
    rw [Nat.succ_mul]
    omega
  constructor
  · intro hreached
    have hbought : (n + 1) * weight = (n * weight % maxWeight + weight - maxWeight) +
        maxWeight * (n * weight / maxWeight + 1) := by
      rw [hsplit, Nat.mul_succ]
      omega
    have hrest : n * weight % maxWeight + weight - maxWeight < maxWeight := by omega
    rw [hbought, Nat.add_mul_div_left _ _ hmax, Nat.add_mul_mod_self_left,
      Nat.div_eq_of_lt hrest, Nat.mod_eq_of_lt hrest]
    exact ⟨Nat.zero_add _, rfl⟩
  · intro hsaved
    rw [hsplit, Nat.add_mul_div_left _ _ hmax, Nat.add_mul_mod_self_left,
      Nat.div_eq_of_lt hsaved, Nat.mod_eq_of_lt hsaved]
    exact ⟨Nat.zero_add _, rfl⟩

/-- Credit and weight stay below the largest weight, so their sum fits `uint32_t`. -/
theorem TakenV2.sum_lt {maxWeight n : ℕ} {e : Endpoint} {c : Cursor} (hmax : 0 < maxWeight)
    (hfits : maxWeight < 2 ^ 31) (hle : e.weight ≤ maxWeight) (hc : TakenV2 maxWeight n e c) :
    c.cumWeight + c.weight < 2 ^ 32 := by
  have hcredit : n * e.weight % maxWeight < maxWeight := Nat.mod_lt _ hmax
  rw [hc.cumWeight, hc.weight]
  omega

theorem visitV2_turnGains {maxWeight n : ℕ} (hmax : 0 < maxWeight) (hfits : maxWeight < 2 ^ 31)
    {e : Endpoint} (hle : e.weight ≤ maxWeight) (hsmall : e.num < 2 ^ 31) {c : Cursor}
    {fill : Filling} {turn : Turn Cursor Filling (List ℤ)} (hc : TakenV2 maxWeight n e c)
    (h : visitV2 maxWeight ringSize c fill = some turn) :
    TurnGains (heldV2 maxWeight) (TakenV2 maxWeight) ringSize n e fill turn := by
  obtain ⟨hbuy, hsave⟩ := credit_succ hmax hle n
  unfold visitV2 at h
  rw [Nat.mod_eq_of_lt (hc.sum_lt hmax hfits hle)] at h
  dsimp only at h
  split_ifs at h with hreached
  · rw [hc.cumWeight, hc.weight] at hreached
    obtain ⟨hheld, hrest⟩ := hbuy hreached
    cases hone : placeOne ringSize c.num c.ahead fill with
    | none => simp [hone] at h
    | some placed =>
      have hplaced := placeOne_gains (hc.num ▸ hsmall) hone
      rw [hc.num] at hplaced
      cases placed with
      | returned ring =>
        obtain rfl : Turn.returned ring = turn := by simpa [hone] using h
        exact ⟨1, Nat.one_pos, hheld.ge, hplaced⟩
      | going ahead fill' =>
        simp only [hone, Option.some.injEq] at h
        subst h
        have hcum : c.cumWeight + c.weight - maxWeight = (n + 1) * e.weight % maxWeight := by
          rw [hc.cumWeight, hc.weight, hrest]
        exact ⟨⟨hc.num, hc.weight, hcum⟩, 1, hheld, hplaced.2⟩
  · rw [hc.cumWeight, hc.weight] at hreached
    obtain ⟨hheld, hrest⟩ := hsave (Nat.not_le.mp hreached)
    obtain rfl := Option.some.inj h
    have hcum : c.cumWeight + c.weight = (n + 1) * e.weight % maxWeight := by
      rw [hc.cumWeight, hc.weight, hrest]
    exact ⟨⟨hc.num, hc.weight, hcum⟩, 0, hheld, .refl e.num fill⟩

/-- A turn of `MaglevHashV2` that gets stuck where the sum does not fit `uint32_t`. -/
def visitV2Checked (maxWeight ringSize : ℕ) (c : Cursor) (fill : Filling) :
    Option (Turn Cursor Filling (List ℤ)) :=
  if c.cumWeight + c.weight < 2 ^ 32 then visitV2 maxWeight ringSize c fill else none

theorem visitV2_credit {maxWeight : ℕ} (hfits : maxWeight < 2 ^ 31) (c : Cursor)
    (fill : Filling) (turn : Turn Cursor Filling (List ℤ))
    (hc : c.cumWeight < maxWeight ∧ c.weight ≤ maxWeight)
    (h : visitV2 maxWeight ringSize c fill = some turn) :
    turn.Holds (fun c ↦ c.cumWeight < maxWeight ∧ c.weight ≤ maxWeight) (fun _ ↦ True)
      (fun _ ↦ True) := by
  obtain ⟨hcredit, hle⟩ := hc
  unfold visitV2 at h
  rw [Nat.mod_eq_of_lt (by omega)] at h
  dsimp only at h
  split_ifs at h with hreached
  · cases hone : placeOne ringSize c.num c.ahead fill with
    | none => simp [hone] at h
    | some placed =>
      cases placed with
      | returned ring =>
        obtain rfl : Turn.returned ring = turn := by simpa [hone] using h
        trivial
      | going ahead fill' =>
        simp only [hone, Option.some.injEq] at h
        subst h
        exact ⟨⟨by dsimp only; omega, hle⟩, trivial⟩
  · obtain rfl := Option.some.inj h
    exact ⟨⟨Nat.not_le.mp hreached, hle⟩, trivial⟩

/-- No sum of a run leaves `uint32_t`: the checked run does not get stuck either. -/
theorem fillRing_checked (permutation : ℕ → ℕ → List ℕ) {endpoints : List Endpoint}
    (hlength : 2 ≤ endpoints.length) {maxWeight : ℕ} (hmax : 0 < maxWeight)
    (hfits : maxWeight < 2 ^ 31) (hle : ∀ e ∈ endpoints, e.weight ≤ maxWeight) :
    fillRing permutation (visitV2Checked maxWeight ringSize) endpoints ringSize =
      fillRing permutation (visitV2 maxWeight ringSize) endpoints ringSize := by
  rw [fillRing_eq_loop hlength, fillRing_eq_loop hlength]
  have hagree : ∀ (c : Cursor) (fill : Filling),
      c.cumWeight < maxWeight ∧ c.weight ≤ maxWeight → True →
      visitV2Checked maxWeight ringSize c fill = visitV2 maxWeight ringSize c fill := by
    rintro c fill ⟨hcredit, hweight⟩ -
    exact if_pos (by omega)
  apply RoundRobin.loop_congr hagree fun c fill turn hc _ h ↦ visitV2_credit hfits c fill turn hc h
  · intro c hc
    obtain ⟨e, he, rfl⟩ := List.mem_map.mp hc
    exact ⟨hmax, hle e he⟩
  · trivial

theorem weight_le_maxWeight {endpoints : List Endpoint} {e : Endpoint} (he : e ∈ endpoints) :
    e.weight ≤ maxWeight endpoints := by
  have hfold : ∀ (es : List Endpoint) (m : ℕ),
      m ≤ es.foldl (fun m e ↦ if e.weight > m then e.weight else m) m ∧
        ∀ e ∈ es, e.weight ≤ es.foldl (fun m e ↦ if e.weight > m then e.weight else m) m := by
    intro es
    induction es with
    | nil => exact fun m ↦ ⟨Nat.le_refl m, by simp⟩
    | cons a es ih =>
      intro m
      obtain ⟨hstart, hrest⟩ := ih (if a.weight > m then a.weight else m)
      have hboth : m ≤ (if a.weight > m then a.weight else m) ∧
          a.weight ≤ if a.weight > m then a.weight else m := by
        split_ifs <;> omega
      rw [List.foldl_cons]
      refine ⟨Nat.le_trans hboth.1 hstart, fun e he ↦ ?_⟩
      rcases List.mem_cons.mp he with rfl | he
      · exact Nat.le_trans hboth.2 hstart
      · exact hrest e he
  exact (hfold endpoints 0).2 e he

theorem maxWeight_eq {endpoints : List Endpoint} {M : ℕ}
    (hmax : IsGreatest {weight | ∃ e ∈ endpoints, e.weight = weight} M) :
    maxWeight endpoints = M := by
  obtain ⟨⟨e, he, rfl⟩, hbound⟩ := hmax
  obtain ⟨e', he', hweight⟩ := exists_weight_eq_maxWeight (List.ne_nil_of_mem he)
  have hle : maxWeight endpoints ≤ e.weight := hbound ⟨e', he', hweight⟩
  exact Nat.le_antisymm hle (weight_le_maxWeight he)

/-- `MaglevHashV2` fills the ring, and the slots of an endpoint are the floor of its proportion
after a number of passes that differs by at most one between the endpoints. -/
theorem maglevHashV2_shares (permutation : ℕ → ℕ → List ℕ) (endpoints : List Endpoint)
    (ringSize M : ℕ) (hlength : 2 ≤ endpoints.length)
    (hnodup : (endpoints.map Endpoint.num).Nodup) (hsmall : ∀ e ∈ endpoints, e.num < 2 ^ 31)
    (hmax : IsGreatest {weight | ∃ e ∈ endpoints, e.weight = weight} M) (hpositive : 1 ≤ M)
    (hfits : M < 2 ^ 31) (hringSize : 0 < ringSize)
    (hrows : ∀ e ∈ endpoints, (permutation e.hash ringSize).Perm (List.range ringSize)) :
    ∃ ring, (maglevHashV2 permutation).generateHashRing endpoints ringSize = some ring ∧
      ring.length = ringSize ∧ -1 ∉ ring ∧
      (∃ p k, ∀ (i : ℕ) (e : Endpoint), endpoints[i]? = some e →
        ring.count (int32 e.num) =
          if i < k then (p + 1) * e.weight / M else p * e.weight / M) ∧
      (∀ e ∈ endpoints, e.weight = 0 → int32 e.num ∉ ring) ∧
      fillRing permutation (visitV2Checked M ringSize) endpoints ringSize = some ring := by
  have hle : ∀ e ∈ endpoints, e.weight ≤ M := fun e he ↦ hmax.2 ⟨e, he, rfl⟩
  have hbound : ∀ e ∈ endpoints, e.weight < 2 ^ 32 := fun e he ↦ by
    have := hle e he
    omega
  obtain ⟨ring, hring⟩ := generateHashRing_returns hringSize .maglevV2 hrows hbound
  have hne : endpoints ≠ [] := List.ne_nil_of_length_pos (by omega)
  have hfull := generateHashRing_full permutation .maglevV2 hne hring
  have hfill : fillRing permutation (visitV2 M ringSize) endpoints ringSize = some ring := by
    rw [← maxWeight_eq hmax]
    exact hring
  have hloop := hfill
  rw [fillRing_eq_loop hlength] at hloop
  obtain ⟨p, done, e, rest, gain, hsplit, hcut⟩ := loop_shares hnodup hsmall
    (fun e ↦ by simp [heldV2])
    (fun n e he c fill turn hc h ↦
      visitV2_turnGains hpositive hfits (hle e he) (hsmall e he) hc h)
    (fun e ↦ ⟨rfl, rfl, by simp [start]⟩) hloop
  have hcount : ∀ i a, endpoints[i]? = some a → ring.count (int32 a.num) =
      if i < done.length + 1 then (p + 1) * a.weight / M else p * a.weight / M := by
    subst hsplit
    intro i a ha
    rcases getElem?_split ha with ⟨hi, hmem⟩ | ⟨rfl, rfl⟩ | ⟨hi, hmem⟩
    · rw [hcut.ahead a hmem, if_pos (by omega), heldV2]
    · -- a turn buys one slot at most, so the cut is at the end of the turn
      obtain ⟨hbuy, hsave⟩ := credit_succ hpositive (hle a (by simp)) p
      have hgain := hcut.positive
      have hrest := hcut.bound
      unfold heldV2 at hrest
      rw [hcut.last, if_pos (Nat.lt_succ_self _), heldV2]
      rcases Nat.lt_or_ge (p * a.weight % M + a.weight) M with hless | hmore
      · have := (hsave hless).1
        omega
      · have := (hbuy hmore).1
        omega
    · rw [hcut.behind a hmem, if_neg (by omega), heldV2]
  refine ⟨ring, hring, hfull.length, hfull.neg_one_notMem hsmall, ⟨p, done.length + 1, hcount⟩,
    ?_, ?_⟩
  · intro a ha hzero
    obtain ⟨i, hi⟩ := List.mem_iff_getElem?.mp ha
    have hnone := hcount i a hi
    rw [hzero, Nat.mul_zero, Nat.mul_zero, Nat.zero_div, ite_self] at hnone
    exact List.count_eq_zero.mp hnone
  · rw [fillRing_checked permutation hlength hpositive hfits hle]
    exact hfill

theorem maglevHashV2_shares_pair :
    ∃ ring, (maglevHashV2 fun _ ringSize ↦ List.range ringSize).generateHashRing
        [⟨4, 2, 7⟩, ⟨9, 3, 8⟩] 5 = some ring ∧
      ring.length = 5 ∧ -1 ∉ ring ∧
      (∃ p k, ∀ (i : ℕ) (e : Endpoint), ([⟨4, 2, 7⟩, ⟨9, 3, 8⟩] : List Endpoint)[i]? = some e →
        ring.count (int32 e.num) =
          if i < k then (p + 1) * e.weight / 3 else p * e.weight / 3) ∧
      (∀ e ∈ ([⟨4, 2, 7⟩, ⟨9, 3, 8⟩] : List Endpoint), e.weight = 0 → int32 e.num ∉ ring) ∧
      fillRing (fun _ ringSize ↦ List.range ringSize) (visitV2Checked 3 5)
        [⟨4, 2, 7⟩, ⟨9, 3, 8⟩] 5 = some ring := by
  have hmax : IsGreatest
      {weight | ∃ e ∈ ([⟨4, 2, 7⟩, ⟨9, 3, 8⟩] : List Endpoint), e.weight = weight} 3 := by
    refine ⟨⟨⟨9, 3, 8⟩, by simp, rfl⟩, ?_⟩
    rintro weight ⟨e, he, rfl⟩
    rcases List.mem_pair.mp he with rfl | rfl <;> decide
  exact maglevHashV2_shares (fun _ ringSize ↦ List.range ringSize) [⟨4, 2, 7⟩, ⟨9, 3, 8⟩] 5 3
    (by decide) (by decide) (by decide) hmax (by decide) (by decide) (by decide)
    (fun _ _ ↦ List.Perm.refl _)

end Maglev

end Vsoshlb
