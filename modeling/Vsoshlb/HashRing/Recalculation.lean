import Vsoshlb.HashRing.Agreement
import Vsoshlb.HashRing.Shares

/-!
# Computing the ring anew

`recalculateHashRing` passes on all reals of a VIP, while an update leaves out those of weight zero.
`MaglevHashV2` never places anything for a weight of zero. `MaglevHash` does not in its first pass,
but then it rewrites every weight to one. So the two ways of computing a ring agree as long as the
ring is full before the first drained real has its second turn, and where they do not, traffic goes
to a drained real.
-/

namespace Vsoshlb

open HashTable (Walk)
open RoundRobin (Turn loop pass Skips)

namespace Maglev

variable {ringSize : ℕ}

/-! ## The placements of a pass -/

theorem placeOne_runs {num : ℕ} {ahead : List ℕ} {fill : Filling}
    (hruns : fill.runs < ringSize) {turn : Turn (List ℕ) Filling (List ℤ)}
    (h : placeOne ringSize num ahead fill = some turn) :
    turn.Holds (fun _ ↦ True) (fun fill' ↦ fill'.runs = fill.runs + 1 ∧ fill'.runs < ringSize)
      (fun _ ↦ True) := by
  unfold placeOne at h
  cases hskip : skipTaken fill.result ahead with
  | none => simp [hskip] at h
  | some next =>
    simp only [hskip] at h
    split_ifs at h with hlast
    · obtain rfl := Option.some.inj h
      trivial
    · obtain rfl := Option.some.inj h
      exact ⟨trivial, rfl, by dsimp only; omega⟩

theorem placeMany_runs {num weight : ℕ} {ahead : List ℕ} {fill : Filling}
    (hruns : fill.runs < ringSize) {turn : Turn (List ℕ) Filling (List ℤ)}
    (h : placeMany ringSize num weight ahead fill = some turn) :
    turn.Holds (fun _ ↦ True)
      (fun fill' ↦ fill'.runs = fill.runs + weight ∧ fill'.runs < ringSize) (fun _ ↦ True) := by
  induction weight generalizing ahead fill with
  | zero =>
    obtain rfl := Option.some.inj h
    exact ⟨trivial, rfl, hruns⟩
  | succ weight ih =>
    unfold placeMany at h
    cases hone : placeOne ringSize num ahead fill with
    | none => simp [hone] at h
    | some first =>
      have hfirst := placeOne_runs hruns hone
      cases first with
      | returned ring =>
        obtain rfl : Turn.returned ring = turn := by simpa [hone] using h
        trivial
      | going ahead fill₁ =>
        obtain ⟨-, hsum, hless⟩ := hfirst
        have hrest := ih hless (by simpa [hone] using h)
        cases turn with
        | returned ring => trivial
        | going ahead fill₂ => exact ⟨trivial, by have := hrest.2.1; omega, hrest.2.2⟩

theorem visit_runs {c : Cursor} {fill : Filling} (hruns : fill.runs < ringSize)
    {turn : Turn Cursor Filling (List ℤ)} (h : visit ringSize c fill = some turn) :
    turn.Holds (·.weight = 1)
      (fun fill' ↦ fill'.runs = fill.runs + c.weight ∧ fill'.runs < ringSize)
      (fun _ ↦ True) := by
  unfold visit at h
  cases hmany : placeMany ringSize c.num c.weight c.ahead fill with
  | none => simp [hmany] at h
  | some placed =>
    have hplaced := placeMany_runs hruns hmany
    cases placed with
    | returned ring =>
      obtain rfl : Turn.returned ring = turn := by simpa [hmany] using h
      trivial
    | going ahead fill' =>
      obtain rfl : Turn.going { c with ahead := ahead, weight := 1 } fill' = turn := by
        simpa [hmany] using h
      exact ⟨rfl, hplaced.2⟩

/-- A pass of `MaglevHash` that does not return makes as many placements as the weights say. -/
theorem pass_runs {gs gs' : List Cursor} {fill fill' : Filling} (hruns : fill.runs < ringSize)
    (h : pass (visit ringSize) gs fill = some (.going gs' fill')) :
    (gs'.length = gs.length ∧ ∀ c ∈ gs', c.weight = 1) ∧
      fill'.runs = fill.runs + (gs.map Cursor.weight).sum ∧ fill'.runs < ringSize := by
  induction gs generalizing fill gs' with
  | nil =>
    obtain ⟨rfl, rfl⟩ := Turn.going.inj (Option.some.inj h)
    exact ⟨⟨rfl, by simp⟩, by simp, hruns⟩
  | cons c gs ih =>
    rw [RoundRobin.pass_cons] at h
    cases hturn : visit ringSize c fill with
    | none => simp [hturn] at h
    | some turn =>
      have hfirst := visit_runs hruns hturn
      cases turn with
      | returned ring => simp [hturn] at h
      | going c₁ fill₁ =>
        obtain ⟨hone, hsum, hless⟩ := hfirst
        cases hrest : pass (visit ringSize) gs fill₁ with
        | none => simp [hturn, hrest] at h
        | some rest =>
          cases rest with
          | returned ring => simp [hturn, hrest] at h
          | going gs₁ fill₂ =>
            obtain ⟨rfl, rfl⟩ : c₁ :: gs₁ = gs' ∧ fill₂ = fill' := by
              simpa [hturn, hrest] using h
            obtain ⟨⟨hlength, hones⟩, hsums, hlast⟩ := ih hless hrest
            refine ⟨⟨by simp [hlength], List.forall_mem_cons.mpr ⟨hone, hones⟩⟩, ?_, hlast⟩
            rw [hsums, hsum, List.map_cons, List.sum_cons, Nat.add_assoc]

/-! ## A single placer -/

/-- Only one endpoint has placed anything, at every position of its row behind it. -/
structure Sweeping (ringSize num : ℕ) (ahead : List ℕ) (fill : Filling) : Prop where
  length : fill.result.length = ringSize
  nodup : ahead.Nodup
  free : ∀ p ∈ ahead, fill.result[p]? = some (-1)
  filled : ∀ p < ringSize, p ∉ ahead → fill.result[p]? = some (int32 num)
  runs : fill.runs + ahead.length = ringSize

theorem placeOne_sweeping {num : ℕ} {ahead : List ℕ} {fill : Filling}
    (hfill : Sweeping ringSize num ahead fill) {turn : Turn (List ℕ) Filling (List ℤ)}
    (h : placeOne ringSize num ahead fill = some turn) :
    (∀ ahead' fill', turn = .going ahead' fill' → Sweeping ringSize num ahead' fill') ∧
      ∀ ring, turn = .returned ring → ring = List.replicate ringSize (int32 num) := by
  cases ahead with
  | nil => simp [placeOne, skipTaken] at h
  | cons cur ahead =>
    have hskip : skipTaken fill.result (cur :: ahead) = some (cur, ahead) := by
      simp [skipTaken, hfill.free cur List.mem_cons_self]
    obtain ⟨hcur, hnodup⟩ := List.nodup_cons.mp hfill.nodup
    have hlt : cur < ringSize := by
      have := (List.getElem?_eq_some_iff.mp (hfill.free cur List.mem_cons_self)).1
      rwa [hfill.length] at this
    have hfree : ∀ p ∈ ahead, (fill.result.set cur (int32 num))[p]? = some (-1) := by
      intro p hp
      have hne : cur ≠ p := fun heq ↦ hcur (heq ▸ hp)
      rw [List.getElem?_set_ne hne]
      exact hfill.free p (List.mem_cons_of_mem _ hp)
    have hfilled : ∀ p < ringSize, p ∉ ahead →
        (fill.result.set cur (int32 num))[p]? = some (int32 num) := by
      intro p hp hnot
      by_cases heq : cur = p
      · subst heq
        rw [List.getElem?_set_self (by rw [hfill.length]; exact hlt)]
      · rw [List.getElem?_set_ne heq]
        exact hfill.filled p hp (by simp [Ne.symm heq, hnot])
    have hruns := hfill.runs
    rw [List.length_cons] at hruns
    simp only [placeOne, hskip] at h
    split_ifs at h with hlast
    · obtain rfl := Option.some.inj h
      refine ⟨by simp, fun ring hring ↦ ?_⟩
      obtain rfl := Turn.returned.inj hring
      obtain rfl : ahead = [] := List.length_eq_zero_iff.mp (by omega)
      have hsize : (fill.result.set cur (int32 num)).length = ringSize := by
        rw [List.length_set, hfill.length]
      refine List.eq_replicate_iff.mpr ⟨hsize, fun slot hslot ↦ ?_⟩
      obtain ⟨p, hp⟩ := List.mem_iff_getElem?.mp hslot
      have hbound := (List.getElem?_eq_some_iff.mp hp).1
      rw [hfilled p (hsize ▸ hbound) (by simp)] at hp
      exact (Option.some.inj hp).symm
    · obtain rfl := Option.some.inj h
      refine ⟨fun ahead' fill' hgoing ↦ ?_, by simp⟩
      obtain ⟨rfl, rfl⟩ := Turn.going.inj hgoing
      exact ⟨by simpa using hfill.length, hnodup, hfree, hfilled, by dsimp only; omega⟩

theorem placeMany_sweeping {num weight : ℕ} {ahead : List ℕ} {fill : Filling}
    (hfill : Sweeping ringSize num ahead fill) {turn : Turn (List ℕ) Filling (List ℤ)}
    (h : placeMany ringSize num weight ahead fill = some turn) :
    (∀ ahead' fill', turn = .going ahead' fill' → Sweeping ringSize num ahead' fill') ∧
      ∀ ring, turn = .returned ring → ring = List.replicate ringSize (int32 num) := by
  induction weight generalizing ahead fill with
  | zero =>
    obtain rfl := Option.some.inj h
    refine ⟨fun ahead' fill' hgoing ↦ ?_, by simp⟩
    obtain ⟨rfl, rfl⟩ := Turn.going.inj hgoing
    exact hfill
  | succ weight ih =>
    unfold placeMany at h
    cases hone : placeOne ringSize num ahead fill with
    | none => simp [hone] at h
    | some first =>
      obtain ⟨hgoing, hreturned⟩ := placeOne_sweeping hfill hone
      cases first with
      | returned ring =>
        obtain rfl : Turn.returned ring = turn := by simpa [hone] using h
        exact ⟨by simp, hreturned⟩
      | going ahead fill => exact ih (hgoing ahead fill rfl) (by simpa [hone] using h)

/-- The cursor has number `num` and sweeps. -/
def Cursor.Sweeps (ringSize num : ℕ) (c : Cursor) (fill : Filling) : Prop :=
  c.num = num ∧ Sweeping ringSize num c.ahead fill

theorem visit_sweeps {num : ℕ} (c : Cursor) (fill : Filling)
    (turn : Turn Cursor Filling (List ℤ)) (hc : c.Sweeps ringSize num fill)
    (h : visit ringSize c fill = some turn) :
    (∀ c' fill', turn = .going c' fill' → c'.Sweeps ringSize num fill') ∧
      ∀ ring, turn = .returned ring → ring = List.replicate ringSize (int32 num) := by
  obtain ⟨rfl, hfill⟩ := hc
  unfold visit at h
  cases hmany : placeMany ringSize c.num c.weight c.ahead fill with
  | none => simp [hmany] at h
  | some placed =>
    obtain ⟨hgoing, hreturned⟩ := placeMany_sweeping hfill hmany
    cases placed with
    | returned ring =>
      obtain rfl : Turn.returned ring = turn := by simpa [hmany] using h
      refine ⟨by simp, fun ring' hring ↦ ?_⟩
      obtain rfl := Turn.returned.inj hring
      exact hreturned ring rfl
    | going ahead fill₁ =>
      obtain rfl : Turn.going { c with ahead := ahead, weight := 1 } fill₁ = turn := by
        simpa [hmany] using h
      refine ⟨fun c' fill' heq ↦ ?_, by simp⟩
      obtain ⟨rfl, rfl⟩ := Turn.going.inj heq
      exact ⟨rfl, hgoing ahead fill₁ rfl⟩

theorem visitV2_sweeps {maxWeight num : ℕ} (c : Cursor) (fill : Filling)
    (turn : Turn Cursor Filling (List ℤ)) (hc : c.Sweeps ringSize num fill)
    (h : visitV2 maxWeight ringSize c fill = some turn) :
    (∀ c' fill', turn = .going c' fill' → c'.Sweeps ringSize num fill') ∧
      ∀ ring, turn = .returned ring → ring = List.replicate ringSize (int32 num) := by
  obtain ⟨rfl, hfill⟩ := hc
  unfold visitV2 at h
  dsimp only at h
  split_ifs at h
  · cases hone : placeOne ringSize c.num c.ahead fill with
    | none => simp [hone] at h
    | some placed =>
      obtain ⟨hgoing, hreturned⟩ := placeOne_sweeping hfill hone
      cases placed with
      | returned ring =>
        obtain rfl : Turn.returned ring = turn := by simpa [hone] using h
        refine ⟨by simp, fun ring' hring ↦ ?_⟩
        obtain rfl := Turn.returned.inj hring
        exact hreturned ring rfl
      | going ahead fill₁ =>
        simp only [hone, Option.some.injEq] at h
        subst h
        refine ⟨fun c' fill' heq ↦ ?_, by simp⟩
        obtain ⟨rfl, rfl⟩ := Turn.going.inj heq
        exact ⟨rfl, hgoing ahead fill₁ rfl⟩
  · obtain rfl := Option.some.inj h
    refine ⟨fun c' fill' heq ↦ ?_, by simp⟩
    obtain ⟨rfl, rfl⟩ := Turn.going.inj heq
    exact ⟨rfl, hfill⟩

theorem start_sweeps {permutation : ℕ → ℕ → List ℕ} {e : Endpoint}
    (hrow : (permutation e.hash ringSize).Perm (List.range ringSize)) :
    (start permutation ringSize e).Sweeps ringSize e.num ⟨List.replicate ringSize (-1), 0⟩ := by
  have hmem : ∀ p, p ∈ permutation e.hash ringSize ↔ p < ringSize := fun p ↦
    hrow.mem_iff.trans List.mem_range
  refine ⟨rfl, by simp, hrow.nodup_iff.mpr List.nodup_range, fun p hp ↦ ?_, fun p hp hnot ↦ ?_,
    ?_⟩
  · have hp : p < ringSize := (hmem p).mp hp
    simp [hp]
  · exact absurd ((hmem p).mpr hp) hnot
  · simp [start, hrow.length_eq]

/-! ## Endpoints of weight zero -/

/-- The endpoints that an update passes on. -/
def weighted (endpoints : List Endpoint) : List Endpoint :=
  endpoints.filter fun e ↦ e.weight ≠ 0

theorem mem_weighted {endpoints : List Endpoint} {e : Endpoint} :
    e ∈ weighted endpoints ↔ e ∈ endpoints ∧ e.weight ≠ 0 := by
  simp [weighted]

theorem weighted_of_forall {endpoints : List Endpoint} (h : ∀ e ∈ endpoints, e.weight ≠ 0) :
    weighted endpoints = endpoints :=
  List.filter_eq_self.mpr fun e he ↦ decide_eq_true (h e he)

theorem maxWeight_weighted (endpoints : List Endpoint) :
    maxWeight (weighted endpoints) = maxWeight endpoints := by
  suffices h : ∀ m, (weighted endpoints).foldl
      (fun m e ↦ if e.weight > m then e.weight else m) m =
        endpoints.foldl (fun m e ↦ if e.weight > m then e.weight else m) m from h 0
  induction endpoints with
  | nil => exact fun _ ↦ rfl
  | cons e endpoints ih =>
    intro m
    by_cases hzero : e.weight = 0
    · rw [weighted, List.filter_cons_of_neg (by simpa using hzero), List.foldl_cons,
        if_neg (by omega)]
      exact ih m
    · rw [weighted, List.filter_cons_of_pos (by simpa using hzero), List.foldl_cons,
        List.foldl_cons]
      exact ih _

/-- In every pass of `MaglevHashV2`. -/
theorem visitV2_idle {maxWeight : ℕ} (hmax : 0 < maxWeight) (c : Cursor) (fill : Filling)
    (hc : c.weight = 0 ∧ c.cumWeight = 0) :
    visitV2 maxWeight ringSize c fill = some (.going c fill) := by
  obtain ⟨num, weight, ahead, cumWeight⟩ := c
  obtain ⟨rfl, rfl⟩ : weight = 0 ∧ cumWeight = 0 := hc
  simp [visitV2, hmax.ne']

/-- In the first pass of `MaglevHash`. -/
theorem visit_idle (c : Cursor) (fill : Filling) (hc : c.weight = 0) :
    ∃ c', visit ringSize c fill = some (.going c' fill) ∧ True :=
  ⟨{ c with weight := 1 }, by simp [visit, hc, placeMany], trivial⟩

theorem loop_weightedV2 {maxWeight : ℕ} (hmax : 0 < maxWeight) (permutation : ℕ → ℕ → List ℕ)
    (fuel : ℕ) (endpoints : List Endpoint) (fill : Filling) :
    loop (visitV2 maxWeight ringSize) fuel
        ((weighted endpoints).map (start permutation ringSize)) fill =
      loop (visitV2 maxWeight ringSize) fuel (endpoints.map (start permutation ringSize)) fill := by
  have hidle : ∀ e ∈ endpoints, decide (e.weight ≠ 0) = false →
      (start permutation ringSize e).weight = 0 ∧
        (start permutation ringSize e).cumWeight = 0 := by
    intro e _ hzero
    exact ⟨of_not_not (of_decide_eq_false hzero), rfl⟩
  exact (RoundRobin.loop_skips (visitV2_idle hmax) fuel (.map_filter _ _ hidle) fill).symm

/-- The endpoints of weight zero come too late to place anything. -/
def IdleStayOut (ringSize : ℕ) (endpoints : List Endpoint) : Prop :=
  ∀ (i : ℕ) (e : Endpoint), endpoints[i]? = some e → e.weight = 0 →
    ringSize ≤ totalWeight endpoints + i

/-- The first endpoint of weight zero decides. -/
theorem exists_first_idle {endpoints : List Endpoint} (h : ∃ e ∈ endpoints, e.weight = 0) :
    ∃ done e rest, endpoints = done ++ e :: rest ∧ e.weight = 0 ∧ ∀ a ∈ done, a.weight ≠ 0 := by
  induction endpoints with
  | nil => simp at h
  | cons a endpoints ih =>
    by_cases hzero : a.weight = 0
    · exact ⟨[], a, endpoints, rfl, hzero, by simp⟩
    · obtain ⟨e, he, hidle⟩ := h
      have he : e ∈ endpoints := (List.mem_cons.mp he).resolve_left fun heq ↦
        hzero (heq ▸ hidle)
      obtain ⟨done, e, rest, rfl, hidle, hdone⟩ := ih ⟨e, he, hidle⟩
      exact ⟨a :: done, e, rest, rfl, hidle, List.forall_mem_cons.mpr ⟨hzero, hdone⟩⟩

theorem sum_start_weights (permutation : ℕ → ℕ → List ℕ) (endpoints : List Endpoint) :
    ((endpoints.map (start permutation ringSize)).map Cursor.weight).sum =
      totalWeight endpoints := by
  rw [List.map_map]
  rfl

/-- The second pass of `MaglevHash` does not get past the endpoints `done` before the first
idle one, so what stands behind them never matters. -/
theorem loop_weighted {permutation : ℕ → ℕ → List ℕ} (hringSize : 0 < ringSize)
    {endpoints : List Endpoint} (hlate : IdleStayOut ringSize endpoints) :
    loop (visit ringSize) (ringSize + 1)
        ((weighted endpoints).map (start permutation ringSize))
        ⟨List.replicate ringSize (-1), 0⟩ =
      loop (visit ringSize) (ringSize + 1) (endpoints.map (start permutation ringSize))
        ⟨List.replicate ringSize (-1), 0⟩ := by
  by_cases hsome : ∃ e ∈ endpoints, e.weight = 0
  swap
  · rw [weighted_of_forall fun e he hzero ↦ hsome ⟨e, he, hzero⟩]
  obtain ⟨done, e, rest, rfl, hidle, hdone⟩ := exists_first_idle hsome
  have hroom := hlate done.length e (by simp) hidle
  have hsplit : weighted (done ++ e :: rest) = done ++ weighted (e :: rest) := by
    have h := weighted_of_forall hdone
    unfold weighted at h ⊢
    rw [List.filter_append, h]
  have hskips : Skips (fun c : Cursor ↦ c.weight = 0)
      ((weighted (e :: rest)).map (start permutation ringSize))
      ((e :: rest).map (start permutation ringSize)) :=
    .map_filter _ _ fun a _ hzero ↦ of_not_not (of_decide_eq_false hzero)
  have hruns : (⟨List.replicate ringSize (-1), 0⟩ : Filling).runs < ringSize := hringSize
  have hfirst : ∀ gs' fill', pass (visit ringSize)
      ((done ++ e :: rest).map (start permutation ringSize)) ⟨List.replicate ringSize (-1), 0⟩ =
        some (.going gs' fill') → fill'.runs = totalWeight (done ++ e :: rest) ∧
          fill'.runs < ringSize := by
    intro gs' fill' hpass
    obtain ⟨-, hsum, hless⟩ := pass_runs hruns hpass
    rw [sum_start_weights, Nat.zero_add] at hsum
    exact ⟨hsum, hless⟩
  rw [hsplit, List.map_append, List.map_append]
  rw [List.map_append] at hfirst
  unfold loop
  rw [RoundRobin.pass_append, RoundRobin.pass_append]
  rw [RoundRobin.pass_append] at hfirst
  cases hpass : pass (visit ringSize) (done.map (start permutation ringSize))
      ⟨List.replicate ringSize (-1), 0⟩ with
  | none => rfl
  | some turn =>
    cases turn with
    | returned ring => rfl
    | going gs fill₁ =>
      simp only [hpass] at hfirst ⊢
      obtain ⟨⟨hlength, hones⟩, -⟩ := pass_runs hruns hpass
      have hrel := RoundRobin.pass_skips (@visit_idle ringSize) hskips fill₁
      generalize pass (visit ringSize) ((weighted (e :: rest)).map _) fill₁ = turn,
        pass (visit ringSize) ((e :: rest).map _) fill₁ = turn' at hrel hfirst ⊢
      rcases hrel with ⟨@⟨hs, hs', fill₂, _, -, rfl⟩ | rfl⟩ | _
      · -- one more slot for everyone in `done` would overfill the ring
        obtain ⟨htotal, hless⟩ := hfirst _ _ rfl
        refine RoundRobin.loop_append_congr (fun gs₁ fill₃ hsecond ↦ ?_) ringSize hs hs'
        obtain ⟨-, hsum, hlast⟩ := pass_runs hless hsecond
        have hcount : (gs.map Cursor.weight).sum = done.length := by
          have hmap : gs.map Cursor.weight = List.replicate gs.length 1 :=
            List.eq_replicate_iff.mpr ⟨by simp, by simpa using hones⟩
          rw [hmap, List.sum_replicate_nat, Nat.mul_one, hlength, List.length_map]
        omega
      · rfl
      · rfl

/-- The turns of either version. -/
def visitOf (func : HashFunction) (maxWeight ringSize : ℕ) (c : Cursor) (fill : Filling) :
    Option (Turn Cursor Filling (List ℤ)) :=
  match func with
  | .maglev => visit ringSize c fill
  | .maglevV2 => visitV2 maxWeight ringSize c fill

theorem generateHashRing_eq_loop (permutation : ℕ → ℕ → List ℕ) (func : HashFunction)
    {endpoints : List Endpoint} (hlength : 2 ≤ endpoints.length) :
    (make permutation func).generateHashRing endpoints ringSize =
      loop (visitOf func (maxWeight endpoints) ringSize) (ringSize + 1)
        (endpoints.map (start permutation ringSize)) ⟨List.replicate ringSize (-1), 0⟩ := by
  cases func with
  | maglev => exact fillRing_eq_loop hlength
  | maglevV2 => exact fillRing_eq_loop hlength

/-- A single endpoint gets the whole ring in the loop, too. -/
theorem loop_single_eq_replicate {permutation : ℕ → ℕ → List ℕ} {func : HashFunction}
    {maxWeight fuel : ℕ} {e : Endpoint}
    (hrow : (permutation e.hash ringSize).Perm (List.range ringSize)) {ring : List ℤ}
    (h : loop (visitOf func maxWeight ringSize) fuel [start permutation ringSize e]
      ⟨List.replicate ringSize (-1), 0⟩ = some ring) :
    ring = List.replicate ringSize (int32 e.num) := by
  cases func with
  | maglev => exact RoundRobin.loop_single visit_sweeps (start_sweeps hrow) h
  | maglevV2 => exact RoundRobin.loop_single visitV2_sweeps (start_sweeps hrow) h

theorem two_le_length {endpoints : List Endpoint} {z a : Endpoint} (hz : z ∈ endpoints)
    (hzero : z.weight = 0) (ha : a ∈ endpoints) (hweight : a.weight ≠ 0) :
    2 ≤ endpoints.length := by
  match endpoints, hz, ha with
  | [e], hz, ha =>
    rw [List.mem_singleton.mp hz] at hzero
    rw [List.mem_singleton.mp ha] at hweight
    exact absurd hzero hweight
  | _ :: _ :: _, _, _ => simp

/-- Where the endpoints of weight zero come too late, or the second version is used, they make no
difference to the ring. -/
theorem generateHashRing_weighted {permutation : ℕ → ℕ → List ℕ} (hringSize : 0 < ringSize)
    {endpoints : List Endpoint}
    (hrows : ∀ e ∈ endpoints, (permutation e.hash ringSize).Perm (List.range ringSize))
    (hweight : ∀ e ∈ endpoints, e.weight < 2 ^ 32) (hsome : weighted endpoints ≠ [])
    {func : HashFunction} (hlate : func = .maglev → IdleStayOut ringSize endpoints) :
    (make permutation func).generateHashRing endpoints ringSize =
      (make permutation func).generateHashRing (weighted endpoints) ringSize := by
  by_cases hall : ∀ e ∈ endpoints, e.weight ≠ 0
  · rw [weighted_of_forall hall]
  obtain ⟨z, hz, hzero⟩ : ∃ z ∈ endpoints, z.weight = 0 := by simpa using hall
  obtain ⟨a, ha⟩ := List.exists_mem_of_ne_nil _ hsome
  obtain ⟨haMem, haWeight⟩ := mem_weighted.mp ha
  have hlength := two_le_length hz hzero haMem haWeight
  have hmax : 0 < maxWeight endpoints :=
    Nat.lt_of_lt_of_le (Nat.pos_of_ne_zero haWeight) (weight_le_maxWeight haMem)
  have hthin : loop (visitOf func (maxWeight endpoints) ringSize) (ringSize + 1)
      ((weighted endpoints).map (start permutation ringSize))
        ⟨List.replicate ringSize (-1), 0⟩ =
      loop (visitOf func (maxWeight endpoints) ringSize) (ringSize + 1)
        (endpoints.map (start permutation ringSize)) ⟨List.replicate ringSize (-1), 0⟩ := by
    cases func with
    | maglev => exact loop_weighted hringSize (hlate rfl)
    | maglevV2 => exact loop_weightedV2 hmax permutation _ _ _
  obtain ⟨ring, hring⟩ := generateHashRing_returns hringSize func hrows hweight
  have hloop := hring
  rw [generateHashRing_eq_loop permutation func hlength, ← hthin] at hloop
  rw [hring]
  match hes : weighted endpoints with
  | [] => exact absurd hes hsome
  | [e] =>
    rw [hes, List.map_singleton] at hloop
    have he : e ∈ endpoints := (mem_weighted.mp (hes ▸ List.mem_singleton_self e)).1
    rw [generateHashRing_singleton, loop_single_eq_replicate (hrows e he) hloop]
  | e₁ :: e₂ :: es =>
    have htwo : 2 ≤ (weighted endpoints).length := by simp [hes]
    rw [← hes, generateHashRing_eq_loop permutation func htwo, maxWeight_weighted, hloop]

/-- Otherwise the first version gives an endpoint of weight zero a slot. -/
theorem exists_idle_mem {permutation : ℕ → ℕ → List ℕ} {endpoints : List Endpoint}
    (hlength : 2 ≤ endpoints.length) (hnodup : (endpoints.map Endpoint.num).Nodup)
    (hsmall : ∀ e ∈ endpoints, e.num < 2 ^ 31) {ring : List ℤ}
    (hring : (make permutation .maglev).generateHashRing endpoints ringSize = some ring)
    (hearly : ¬ IdleStayOut ringSize endpoints) :
    ∃ e ∈ endpoints, e.weight = 0 ∧ int32 e.num ∈ ring := by
  unfold IdleStayOut at hearly
  push Not at hearly
  obtain ⟨i, e, hi, hzero, hroom⟩ := hearly
  have hcount := count_eq_share hlength hnodup hsmall hring hi
  have hlt : i < endpoints.length := (List.getElem?_eq_some_iff.mp hi).1
  rw [share, if_neg (by omega), hzero, Nat.zero_add] at hcount
  refine ⟨e, List.mem_of_getElem? hi, hzero, List.count_pos_iff.mp ?_⟩
  rw [hcount]
  rcases Nat.lt_or_ge (ringSize - totalWeight endpoints) endpoints.length with hless | hmore
  · rw [Nat.mod_eq_of_lt hless, if_pos (by omega)]
    exact Nat.succ_pos _
  · exact Nat.add_pos_left (Nat.div_pos hmore (by omega)) _

end Maglev

/-! ## The endpoints of all reals -/

namespace Vip

variable {permutation : ℕ → ℕ → List ℕ} {ringSize : ℕ} {func : HashFunction}

theorem nodup_getRealsAndWeight (walk : Walk ℕ VipReal) (v : Vip) :
    ((v.getRealsAndWeight walk).map Endpoint.num).Nodup := by
  have hperm : (v.getRealsAndWeight walk).Perm ((walk.order v.reals).map VipReal.endpoint) :=
    List.perm_insertionSort _ _
  rw [(hperm.map Endpoint.num).nodup_iff, List.map_map]
  exact walk.nodup_keys v.reals

theorem isEndpoints_weighted (walk : Walk ℕ VipReal) (v : Vip) :
    IsEndpoints v.reals (Maglev.weighted (v.getRealsAndWeight walk)) where
  mem _ := Maglev.mem_weighted.trans (and_congr_left' mem_getRealsAndWeight)
  nodup := (nodup_getRealsAndWeight walk v).of_map.filter _
  sorted := (pairwise_sortEndpoints _).filter _

theorem run_weightOf_lt {chash : HashFunction → ConsistentHash} {bound : ℕ}
    {calls : List (Walk ℕ VipReal × List UpdateReal)}
    (hcalls : ∀ call ∈ calls, ∀ ureal ∈ call.2, ureal.updatedReal.weight < bound) {v v' : Vip}
    (hv : ∀ num, weightOf v.reals num < bound)
    (hrun : calls.foldlM (updateStep chash) v = some v') (num : ℕ) :
    weightOf v'.reals num < bound := by
  refine Runs.invariant_of_along
    (I := fun v ↦ ∀ num, weightOf v.reals num < bound) ?_ hv
    (Runs.along_of_forall hcalls v) hrun num
  intro v call v' hv hcall hstep num
  obtain ⟨⟨delta, w⟩, hbatch, rfl⟩ := Option.map_eq_some_iff.mp hstep
  obtain ⟨ring, rfl⟩ := batchRealsUpdate_frame hbatch
  rw [weightOf_applyUpdates]
  exact requestedWeight_lt (hv num) hcall

/-! ## The two ways to a ring -/

theorem diffRings_self (i : ℕ) (ring : List ℤ) : diffRings i ring ring = some ([], ring) := by
  have hall := diffRings_take i ring.length (Nat.le_refl _)
  rwa [List.take_length] at hall

/-- Computing the ring anew with the function in use reports nothing and keeps the ring. -/
def KeepsRing (permutation : ℕ → ℕ → List ℕ) (walk : Walk ℕ VipReal) (v : Vip) : Prop :=
  (v.setHashFunction v.chash).recalculateHashRing (Maglev.make permutation) walk = some ([], v)

/-- Under another function the ring is computed, and no slot goes to a real of weight zero. -/
def SparesIdle (permutation : ℕ → ℕ → List ℕ) (walk : Walk ℕ VipReal) (v : Vip) : Prop :=
  ∀ func, func ≠ v.chash → ∃ delta v',
    (v.setHashFunction func).recalculateHashRing (Maglev.make permutation) walk =
      some (delta, v') ∧
    ∀ num r, v.reals.lookup num = some r → r.weight = 0 → int32 num ∉ v'.chRing

/-- Under any function the ring is computed from the reals of positive weight alone. -/
def RecalculatesWeighted (permutation : ℕ → ℕ → List ℕ) (walk : Walk ℕ VipReal) (v : Vip) :
    Prop :=
  ∀ func, ∃ delta v' endpoints,
    (v.setHashFunction func).recalculateHashRing (Maglev.make permutation) walk =
      some (delta, v') ∧
    IsEndpoints v.reals endpoints ∧
    (Maglev.make permutation func).generateHashRing endpoints v.chRingSize = some v'.chRing

theorem weighted_ne_nil {walk : Walk ℕ VipReal} {v : Vip} (hweight : HasWeight v.reals) :
    Maglev.weighted (v.getRealsAndWeight walk) ≠ [] := by
  obtain ⟨num, r, hlookup, hpos⟩ := hweight
  exact List.ne_nil_of_mem (Maglev.mem_weighted.mpr
    ⟨(mem_getRealsAndWeight (e := ⟨num, r.weight, r.hash⟩)).mpr hlookup, hpos⟩)

theorem getRealsAndWeight_ne_nil {walk : Walk ℕ VipReal} {v : Vip} (hweight : HasWeight v.reals) :
    v.getRealsAndWeight walk ≠ [] := by
  intro hnil
  apply @weighted_ne_nil walk v hweight
  rw [hnil]
  rfl

/-- The ring in use is the one of the reals of positive weight. -/
theorem RingCurrent.generate_weighted
    {v : Vip} (hv : v.RingCurrent (Maglev.make permutation) ringSize func)
    (hweight : HasWeight v.reals) (hdistinct : DistinctHashes v.reals) (walk : Walk ℕ VipReal) :
    (Maglev.make permutation func).generateHashRing
      (Maglev.weighted (v.getRealsAndWeight walk)) ringSize = some v.chRing := by
  obtain ⟨endpoints, hes, hring⟩ := hv.ring hweight
  rw [hes.unique (isEndpoints_weighted walk v) hdistinct]
  exact hring

/-- A ring of positive-weight reals with small numbers has no slot for any other real. -/
theorem int32_notMem_of_weighted {v : Vip} {walk : Walk ℕ VipReal}
    (hsmall : ∀ num r, v.reals.lookup num = some r → num < 2 ^ 31)
    (hweight : HasWeight v.reals) {func : HashFunction} {ring : List ℤ}
    (hring : (Maglev.make permutation func).generateHashRing
      (Maglev.weighted (v.getRealsAndWeight walk)) ringSize = some ring) {num : ℕ} {r : VipReal}
    (hlookup : v.reals.lookup num = some r) (hzero : r.weight = 0) : int32 num ∉ ring := by
  have hfull := Maglev.generateHashRing_full permutation func (weighted_ne_nil hweight) hring
  have hlookups : ∀ e ∈ Maglev.weighted (v.getRealsAndWeight walk),
      v.reals.lookup e.num = some ⟨e.weight, e.hash⟩ ∧ e.weight ≠ 0 := fun e he ↦
    ((isEndpoints_weighted walk v).mem e).mp he
  have hnums : ∀ m ∈ {m | ∃ e ∈ Maglev.weighted (v.getRealsAndWeight walk), e.num = m},
      m < 2 ^ 31 := by
    rintro m ⟨e, he, rfl⟩
    exact hsmall e.num _ (hlookups e he).1
  intro hmem
  obtain ⟨m, ⟨e, he, rfl⟩, hslot⟩ := hfull.slots hnums _ hmem
  obtain ⟨helookup, hepos⟩ := hlookups e he
  rw [int32_of_lt (hsmall num r hlookup), int32_of_lt (hsmall e.num _ helookup)] at hslot
  obtain rfl : num = e.num := by omega
  rw [hlookup] at helookup
  exact hepos (by rw [← hzero, Option.some.inj helookup])

section Both

variable {v : Vip} {walk : Walk ℕ VipReal}

theorem recalculate_of_idleStayOut (hringSize : 0 < ringSize)
    (hrows : ∀ hash, (permutation hash ringSize).Perm (List.range ringSize))
    (hv : v.RingCurrent (Maglev.make permutation) ringSize func)
    (hreals : ∀ num, weightOf v.reals num < 2 ^ 32) (hweight : HasWeight v.reals)
    (hdistinct : DistinctHashes v.reals)
    (hlate : Maglev.IdleStayOut ringSize (v.getRealsAndWeight walk)) :
    KeepsRing permutation walk v ∧ RecalculatesWeighted permutation walk v := by
  have hbound : ∀ e ∈ v.getRealsAndWeight walk, e.weight < 2 ^ 32 := by
    intro e he
    have hless := hreals e.num
    rwa [weightOf, mem_getRealsAndWeight.mp he] at hless
  have hnil := @getRealsAndWeight_ne_nil walk v hweight
  have hsize : (v.getRealsAndWeight walk).length ≠ 0 := by simpa using hnil
  have hsame : ∀ func, (Maglev.make permutation func).generateHashRing
      (v.getRealsAndWeight walk) ringSize = (Maglev.make permutation func).generateHashRing
        (Maglev.weighted (v.getRealsAndWeight walk)) ringSize := fun func ↦
    Maglev.generateHashRing_weighted hringSize (fun e _ ↦ hrows e.hash) hbound
      (weighted_ne_nil hweight) fun _ ↦ hlate
  constructor
  · have hring := (hsame func).trans (hv.generate_weighted hweight hdistinct walk)
    rw [← hv.size, ← hv.scheme] at hring
    have hcalc : v.calculateHashRing (Maglev.make permutation) (v.getRealsAndWeight walk) =
        some ([], v) := by
      simp [calculateHashRing, hsize, hring, diffRings_self]
    exact hcalc
  · intro func'
    obtain ⟨ring, hring⟩ := Maglev.generateHashRing_returns hringSize func'
      (fun e _ ↦ hrows e.hash) hbound
    have hlength := make_keepsSize permutation func' _ _ _ hnil hring
    have hring' := hring
    rw [← hv.size] at hring
    obtain ⟨delta, hcalc⟩ := calculateHashRing_of_ne_nil (v := v.setHashFunction func') hnil hring
      (hlength.trans hv.length.symm)
    refine ⟨delta, _, _, hcalc, isEndpoints_weighted walk v, ?_⟩
    rw [hv.size, ← hsame func']
    exact hring'

/-- A real of weight zero that gets a slot shows under either function. -/
theorem not_keepsRing_and_sparesIdle
    (hv : v.RingCurrent (Maglev.make permutation) ringSize func) (hweight : HasWeight v.reals)
    (hdistinct : DistinctHashes v.reals)
    (hsmall : ∀ num r, v.reals.lookup num = some r → num < 2 ^ 31)
    (hearly : ¬ Maglev.IdleStayOut ringSize (v.getRealsAndWeight walk)) :
    ¬ (KeepsRing permutation walk v ∧ SparesIdle permutation walk v) := by
  rintro ⟨hkeeps, hspares⟩
  have hnil := @getRealsAndWeight_ne_nil walk v hweight
  have hslot : ∀ ring, (Maglev.make permutation .maglev).generateHashRing
      (v.getRealsAndWeight walk) ringSize = some ring →
      ∃ num r, v.reals.lookup num = some r ∧ r.weight = 0 ∧ int32 num ∈ ring := by
    intro ring hring
    obtain ⟨a, ha⟩ := List.exists_mem_of_ne_nil _ (@weighted_ne_nil walk v hweight)
    obtain ⟨haMem, haWeight⟩ := Maglev.mem_weighted.mp ha
    have hidle := hearly
    unfold Maglev.IdleStayOut at hidle
    push Not at hidle
    obtain ⟨i, z, hi, hzero, -⟩ := hidle
    have hlength := Maglev.two_le_length (List.mem_of_getElem? hi) hzero haMem haWeight
    obtain ⟨e, he, hezero, hmem⟩ := Maglev.exists_idle_mem hlength
      (nodup_getRealsAndWeight walk v)
      (fun e he ↦ hsmall e.num _ (mem_getRealsAndWeight.mp he)) hring hearly
    exact ⟨e.num, _, mem_getRealsAndWeight.mp he, hezero, hmem⟩
  cases func with
  | maglev =>
    rcases calculateHashRing_eq_some hkeeps with ⟨hempty, -⟩ | ⟨-, ring, left, hring, hdiff, heq⟩
    · exact hnil hempty
    · simp only [setHashFunction, hv.scheme, hv.size] at hring
      have hlength := make_keepsSize permutation .maglev _ _ _ hnil hring
      obtain ⟨delta, hdelta⟩ := diffRings_of_length_eq 0 (hlength.trans hv.length.symm)
      obtain ⟨-, rfl⟩ := Prod.mk.inj (Option.some.inj (hdelta.symm.trans hdiff))
      have hkept : v.chRing = ring := congrArg Vip.chRing heq
      obtain ⟨num, r, hlookup, hzero, hmem⟩ := hslot ring hring
      rw [← hkept] at hmem
      exact int32_notMem_of_weighted hsmall hweight
        (hv.generate_weighted hweight hdistinct walk) hlookup hzero hmem
  | maglevV2 =>
    obtain ⟨delta, v', hcalc, hnone⟩ := hspares .maglev (by rw [hv.scheme]; decide)
    rcases calculateHashRing_eq_some hcalc with ⟨hempty, -⟩ | ⟨-, ring, left, hring, hdiff, rfl⟩
    · exact hnil hempty
    · simp only [setHashFunction, hv.size] at hring
      have hlength := make_keepsSize permutation .maglev _ _ _ hnil hring
      obtain ⟨delta', hdelta⟩ := diffRings_of_length_eq 0 (hlength.trans hv.length.symm)
      obtain ⟨-, rfl⟩ := Prod.mk.inj (Option.some.inj (hdelta.symm.trans hdiff))
      obtain ⟨num, r, hlookup, hzero, hmem⟩ := hslot ring hring
      exact hnone num r hlookup hzero hmem

end Both

/-- After any updates, setting the function in use and computing the ring anew changes nothing, and
the other function gives no slot to a real of weight zero, if and only if the reals of weight zero
come too late for `MaglevHash` to place them. -/
theorem recalculation_agrees_iff (permutation : ℕ → ℕ → List ℕ) (func : HashFunction)
    (ringSize vipNum : ℕ) (vipFlags : BitVec 32) (hringSize : 0 < ringSize)
    (hrows : ∀ hash, (permutation hash ringSize).Perm (List.range ringSize))
    (calls : List (Walk ℕ VipReal × List UpdateReal))
    (hcalls : ∀ call ∈ calls, ∀ ureal ∈ call.2, ureal.updatedReal.weight < 2 ^ 32) (v : Vip)
    (hrun : calls.foldlM (updateStep (Maglev.make permutation))
      (Vip.new vipNum vipFlags ringSize func) = some v)
    (hweight : HasWeight v.reals) (hdistinct : DistinctHashes v.reals)
    (walk : Walk ℕ VipReal) :
    (Maglev.IdleStayOut ringSize (v.getRealsAndWeight walk) →
      KeepsRing permutation walk v ∧ RecalculatesWeighted permutation walk v) ∧
    ((∀ num r, v.reals.lookup num = some r → num < 2 ^ 31) →
      (KeepsRing permutation walk v ∧ SparesIdle permutation walk v ↔
        Maglev.IdleStayOut ringSize (v.getRealsAndWeight walk))) := by
  have hv := run_ringCurrent (make_keepsSize permutation) hrun
  have hreals := run_weightOf_lt hcalls (by simp [weightOf, Vip.new]) hrun
  have hagrees := @recalculate_of_idleStayOut permutation ringSize func v walk hringSize hrows hv
    hreals hweight hdistinct
  refine ⟨hagrees, fun hsmall ↦ ⟨fun hboth ↦ ?_, fun hlate ↦ ?_⟩⟩
  · by_contra hearly
    exact not_keepsRing_and_sparesIdle hv hweight hdistinct hsmall hearly hboth
  · obtain ⟨hkeeps, hweighted⟩ := hagrees hlate
    refine ⟨hkeeps, fun func' _ ↦ ?_⟩
    obtain ⟨delta, v', endpoints, hcalc, hes, hring⟩ := hweighted func'
    refine ⟨delta, v', hcalc, fun num r hlookup hzero ↦ ?_⟩
    rw [hes.unique (isEndpoints_weighted walk v) hdistinct |>.symm] at hring
    exact int32_notMem_of_weighted hsmall hweight hring hlookup hzero

/-- A drained real beside one whose weight is the ring size. -/
theorem recalculation_agrees_pair :
    KeepsRing (fun _ ringSize ↦ List.range ringSize) Walk.sorted
        ⟨0, 0, 3, Finmap.insert 2 ⟨0, 9⟩ (Finmap.insert 1 ⟨3, 7⟩ ∅), [1, 1, 1], .maglev⟩ ∧
      RecalculatesWeighted (fun _ ringSize ↦ List.range ringSize) Walk.sorted
        ⟨0, 0, 3, Finmap.insert 2 ⟨0, 9⟩ (Finmap.insert 1 ⟨3, 7⟩ ∅), [1, 1, 1], .maglev⟩ := by
  refine (recalculation_agrees_iff (fun _ ringSize ↦ List.range ringSize) .maglev 3 0 0 (by decide)
    (fun _ ↦ List.Perm.refl _)
    [(Walk.sorted, [⟨.add, ⟨1, 3, 7⟩⟩, ⟨.add, ⟨2, 1, 9⟩⟩]), (Walk.sorted, [⟨.add, ⟨2, 0, 9⟩⟩])]
    (by decide) _ (by decide +kernel) ⟨1, ⟨3, 7⟩, by decide, by decide⟩
    (distinctHashes_pair (by decide)) Walk.sorted).1 ?_
  have hreals : getRealsAndWeight Walk.sorted
      ⟨0, 0, 3, Finmap.insert 2 ⟨0, 9⟩ (Finmap.insert 1 ⟨3, 7⟩ ∅), [1, 1, 1], .maglev⟩ =
        [⟨1, 3, 7⟩, ⟨2, 0, 9⟩] := by decide +kernel
  rw [hreals]
  intro i e _ _
  exact Nat.le_add_right 3 i

/-- A drained real gets the last slot back when the hash function is set again. -/
theorem recalculation_moves_slot :
    [(Walk.sorted, [⟨.add, ⟨1, 1, 7⟩⟩, ⟨.add, ⟨2, 1, 9⟩⟩]),
        (Walk.sorted, [⟨.add, ⟨2, 0, 9⟩⟩])].foldlM
        (updateStep (Maglev.make fun _ ringSize ↦ List.range ringSize))
        (Vip.new 0 0 3 .maglev) =
      some ⟨0, 0, 3, Finmap.insert 2 ⟨0, 9⟩ (Finmap.insert 1 ⟨1, 7⟩ ∅), [1, 1, 1], .maglev⟩ ∧
    HasWeight (Finmap.insert 2 ⟨0, 9⟩ (Finmap.insert 1 ⟨1, 7⟩ ∅)) ∧
    DistinctHashes (Finmap.insert 2 ⟨0, 9⟩ (Finmap.insert 1 ⟨1, 7⟩ ∅)) ∧
    ¬ (KeepsRing (fun _ ringSize ↦ List.range ringSize) Walk.sorted
        ⟨0, 0, 3, Finmap.insert 2 ⟨0, 9⟩ (Finmap.insert 1 ⟨1, 7⟩ ∅), [1, 1, 1], .maglev⟩ ∧
      SparesIdle (fun _ ringSize ↦ List.range ringSize) Walk.sorted
        ⟨0, 0, 3, Finmap.insert 2 ⟨0, 9⟩ (Finmap.insert 1 ⟨1, 7⟩ ∅), [1, 1, 1], .maglev⟩) := by
  refine ⟨by decide +kernel, ⟨1, ⟨1, 7⟩, by decide, by decide⟩, distinctHashes_pair (by decide), ?_⟩
  rintro ⟨hkeeps, -⟩
  have hmoves : recalculateHashRing (Maglev.make fun _ ringSize ↦ List.range ringSize) Walk.sorted
      ⟨0, 0, 3, Finmap.insert 2 ⟨0, 9⟩ (Finmap.insert 1 ⟨1, 7⟩ ∅), [1, 1, 1], .maglev⟩ =
        some ([⟨2, 2⟩],
          ⟨0, 0, 3, Finmap.insert 2 ⟨0, 9⟩ (Finmap.insert 1 ⟨1, 7⟩ ∅), [1, 1, 2], .maglev⟩) := by
    decide +kernel
  have hsame := hmoves.symm.trans hkeeps
  cases hsame

end Vip

end Vsoshlb
