import Vsoshlb.Library.Patches
import Vsoshlb.Library.Runs
import Vsoshlb.HashRing.Vip

/-!
# What the slots of a ring point to

A slot serves traffic for the real whose number it holds, so it should hold a number of positive
weight or nothing. `calculateHashRing` leaves the ring alone when it receives no endpoints, and
`getEndpoints` hands it none both when nothing changed and when nothing is left. The second case
keeps a ring of reals that are gone. The run theorem says that this is the only way to lose the
property.
-/

namespace Vsoshlb

open HashTable (Walk lookup_insert_ite lookup_erase_ite)

/-! ## The update loop of `getEndpoints` -/

/-- Two tables have the same entries of positive weight. -/
def SameWeighted (reals reals' : VipReals) : Prop :=
  ∀ num r, r.weight ≠ 0 → (reals.lookup num = some r ↔ reals'.lookup num = some r)

theorem SameWeighted.trans {a b c : VipReals} (hab : SameWeighted a b) (hbc : SameWeighted b c) :
    SameWeighted a c :=
  fun num r hr ↦ (hab num r hr).trans (hbc num r hr)

/-- An update that does not set `reals_changed` at most adds an entry of weight zero. -/
theorem applyUpdate_unchanged {reals reals' : VipReals} {changed : Bool} {ureal : UpdateReal}
    (h : applyUpdate (reals, changed) ureal = (reals', false)) :
    changed = false ∧ SameWeighted reals reals' := by
  unfold applyUpdate at h
  split at h
  · simp at h
  · simp only at h
    split_ifs at h with hweight
    · simp at h
    obtain ⟨rfl, rfl⟩ := Prod.mk.inj h
    refine ⟨rfl, fun num r hr ↦ ?_⟩
    rw [lookup_insert_ite]
    split_ifs with hnum
    · subst hnum
      cases hcur : reals.lookup ureal.updatedReal.num with
      | some cur => simp
      | none =>
        have : r ≠ ⟨0, 0⟩ := fun heq ↦ hr (by rw [heq])
        simpa using this.symm
    · rfl

theorem foldl_applyUpdate_unchanged {ureals : List UpdateReal} {reals reals' : VipReals}
    {changed : Bool} (h : ureals.foldl applyUpdate (reals, changed) = (reals', false)) :
    changed = false ∧ SameWeighted reals reals' := by
  induction ureals generalizing reals changed with
  | nil =>
    obtain ⟨rfl, rfl⟩ := Prod.mk.inj h
    exact ⟨rfl, fun _ _ _ ↦ Iff.rfl⟩
  | cons ureal ureals ih =>
    rw [List.foldl_cons] at h
    obtain ⟨hchanged, hrest⟩ := ih h
    obtain ⟨hstart, hfirst⟩ := applyUpdate_unchanged (Prod.ext rfl hchanged)
    exact ⟨hstart, hfirst.trans hrest⟩

/-- Skipped recomputations leave the positive-weight entries as they were. -/
theorem applyUpdates_unchanged {reals : VipReals} {ureals : List UpdateReal}
    (h : (applyUpdates reals ureals).2 = false) :
    SameWeighted reals (applyUpdates reals ureals).1 :=
  (foldl_applyUpdate_unchanged (Prod.ext rfl h)).2

/-! ## Endpoints -/

def HasWeight (reals : VipReals) : Prop :=
  ∃ num r, reals.lookup num = some r ∧ r.weight ≠ 0

theorem mem_sortEndpoints {endpoints : List Endpoint} {e : Endpoint} :
    e ∈ sortEndpoints endpoints ↔ e ∈ endpoints :=
  List.mem_insertionSort _

theorem mem_weightedEndpoints {walk : Walk ℕ VipReal} {reals : VipReals} {e : Endpoint} :
    e ∈ weightedEndpoints walk reals ↔
      reals.lookup e.num = some ⟨e.weight, e.hash⟩ ∧ e.weight ≠ 0 := by
  simp only [weightedEndpoints, List.mem_map, List.mem_filter]
  constructor
  · rintro ⟨entry, ⟨hentry, hweight⟩, rfl⟩
    exact ⟨(walk.mem_order reals).mp hentry, by simpa [VipReal.endpoint] using hweight⟩
  · rintro ⟨hlookup, hweight⟩
    exact ⟨(e.num, ⟨e.weight, e.hash⟩),
      ⟨(walk.mem_order reals).mpr hlookup, by simpa [VipReal.endpoint] using hweight⟩, rfl⟩

theorem Vip.mem_getRealsAndWeight {walk : Walk ℕ VipReal} {v : Vip} {e : Endpoint} :
    e ∈ v.getRealsAndWeight walk ↔ v.reals.lookup e.num = some ⟨e.weight, e.hash⟩ := by
  rw [getRealsAndWeight, mem_sortEndpoints, List.mem_map]
  constructor
  · rintro ⟨entry, hentry, rfl⟩
    exact (walk.mem_order v.reals).mp hentry
  · intro hlookup
    exact ⟨(e.num, ⟨e.weight, e.hash⟩), (walk.mem_order v.reals).mpr hlookup, rfl⟩

theorem sortEndpoints_weighted_eq_nil_iff {walk : Walk ℕ VipReal} {reals : VipReals} :
    sortEndpoints (weightedEndpoints walk reals) = [] ↔ ¬ HasWeight reals := by
  simp only [List.eq_nil_iff_forall_not_mem, mem_sortEndpoints, mem_weightedEndpoints]
  constructor
  · rintro h ⟨num, r, hlookup, hweight⟩
    exact h ⟨num, r.weight, r.hash⟩ ⟨hlookup, hweight⟩
  · rintro h e ⟨hlookup, hweight⟩
    exact h ⟨e.num, _, hlookup, hweight⟩

/-! ## The comparison loop -/

/-- Against a new ring of the same size the loop reports the patch between the two rings and ends
with the new one. -/
theorem diffRings_eq (i : ℕ) {old new : List ℤ} (h : new.length = old.length) :
    diffRings i old new =
      some ((Patches.diff i old new).map fun change ↦ ⟨uint32 change.2, change.1⟩, new) := by
  induction old generalizing i new with
  | nil =>
    obtain rfl : new = [] := List.length_eq_zero_iff.mp h
    rfl
  | cons slot old ih =>
    obtain ⟨slot', new, rfl⟩ := List.exists_cons_of_length_eq_add_one h
    have hlength : new.length = old.length := by simpa using h
    by_cases hslot : slot' = slot
    · simp [diffRings, Patches.diff, ih (i + 1) hlength, hslot]
    · simp [diffRings, Patches.diff, ih (i + 1) hlength, hslot]

theorem diffRings_of_length_eq (i : ℕ) {old new : List ℤ} (h : new.length = old.length) :
    ∃ delta, diffRings i old new = some (delta, new) :=
  ⟨_, diffRings_eq i h⟩

/-- Against a new ring of the same size the loop reports exactly the slots that change. -/
theorem mem_diffRings {i : ℕ} {old new ring : List ℤ} {delta : List RealPos}
    (hlength : new.length = old.length) (h : diffRings i old new = some (delta, ring))
    (e : RealPos) :
    e ∈ delta ↔ ∃ p a b, old[p]? = some a ∧ new[p]? = some b ∧ b ≠ a ∧ e = ⟨uint32 b, i + p⟩ := by
  rw [diffRings_eq i hlength] at h
  obtain ⟨rfl, -⟩ := Prod.mk.inj (Option.some.inj h)
  rw [List.mem_map]
  constructor
  · rintro ⟨change, hchange, rfl⟩
    obtain ⟨p, a, b, ha, hb, hne, rfl⟩ := Patches.mem_diff.mp hchange
    exact ⟨p, a, b, ha, hb, hne, rfl⟩
  · rintro ⟨p, a, b, ha, hb, hne, rfl⟩
    exact ⟨(i + p, b), Patches.mem_diff.mpr ⟨p, a, b, ha, hb, hne, rfl⟩, rfl⟩

/-- The slots are reported in order. -/
theorem diffRings_sorted {i : ℕ} {old new ring : List ℤ} {delta : List RealPos}
    (hlength : new.length = old.length) (h : diffRings i old new = some (delta, ring)) :
    (delta.map RealPos.pos).Pairwise (· < ·) := by
  rw [diffRings_eq i hlength] at h
  obtain ⟨rfl, -⟩ := Prod.mk.inj (Option.some.inj h)
  rw [List.map_map]
  exact Patches.diff_sorted

/-- Against a ring that begins with the old one there is nothing to report. -/
theorem diffRings_take (i n : ℕ) {ring : List ℤ} (h : n ≤ ring.length) :
    diffRings i (ring.take n) ring = some ([], ring.take n) := by
  induction ring generalizing i n with
  | nil => rw [List.take_nil]; rfl
  | cons slot ring ih =>
    cases n with
    | zero => rfl
    | succ n =>
      rw [List.take_succ_cons, diffRings, ih (i + 1) n (Nat.le_of_succ_le_succ h)]
      simp

/-! ## The weights a batch asks for -/

def weightOf (reals : VipReals) (num : ℕ) : ℕ :=
  ((reals.lookup num).map VipReal.weight).getD 0

/-- The weight one update asks for `num`, when it had weight `weight`. -/
def UpdateReal.weightFor (num weight : ℕ) (ureal : UpdateReal) : ℕ :=
  if ureal.updatedReal.num = num then
    match ureal.action with
    | .add => ureal.updatedReal.weight
    | .del => 0
  else
    weight

/-- The weight that a whole batch asks for `num`: its last update of `num` decides. -/
def requestedWeight (reals : VipReals) (ureals : List UpdateReal) (num : ℕ) : ℕ :=
  ureals.foldl (UpdateReal.weightFor num) (weightOf reals num)

theorem hasWeight_iff {reals : VipReals} : HasWeight reals ↔ ∃ num, weightOf reals num ≠ 0 := by
  constructor
  · rintro ⟨num, r, hlookup, hweight⟩
    exact ⟨num, by simpa [weightOf, hlookup] using hweight⟩
  · rintro ⟨num, hweight⟩
    cases hlookup : reals.lookup num with
    | none => simp [weightOf, hlookup] at hweight
    | some r => exact ⟨num, r, hlookup, by simpa [weightOf, hlookup] using hweight⟩

theorem weightOf_applyUpdate (state : VipReals × Bool) (ureal : UpdateReal) (num : ℕ) :
    weightOf (applyUpdate state ureal).1 num = ureal.weightFor num (weightOf state.1 num) := by
  obtain ⟨action, e⟩ := ureal
  cases action with
  | del =>
    by_cases hnum : e.num = num
    · simp [applyUpdate, UpdateReal.weightFor, weightOf, hnum]
    · simp [applyUpdate, UpdateReal.weightFor, weightOf, hnum, Ne.symm hnum]
  | add =>
    by_cases hnum : e.num = num
    · subst hnum
      simp only [applyUpdate, UpdateReal.weightFor, if_true]
      split_ifs with hweight
      · simp [weightOf]
      · simpa [weightOf] using hweight
    · simp only [applyUpdate, UpdateReal.weightFor, if_neg hnum]
      split_ifs <;> simp [weightOf, Ne.symm hnum]

theorem weightOf_applyUpdates (reals : VipReals) (ureals : List UpdateReal) (num : ℕ) :
    weightOf (applyUpdates reals ureals).1 num = requestedWeight reals ureals num := by
  suffices h : ∀ state : VipReals × Bool, weightOf (ureals.foldl applyUpdate state).1 num =
      ureals.foldl (UpdateReal.weightFor num) (weightOf state.1 num) from h (reals, false)
  induction ureals with
  | nil => exact fun _ ↦ rfl
  | cons ureal ureals ih =>
    intro state
    rw [List.foldl_cons, List.foldl_cons, ih, weightOf_applyUpdate]

namespace Vip

variable {chash : HashFunction → ConsistentHash}

theorem calculateHashRing_nil (v : Vip) : v.calculateHashRing chash [] = some ([], v) := rfl

theorem calculateHashRing_of_ne_nil {v : Vip} {endpoints : List Endpoint} {ring : List ℤ}
    (hne : endpoints ≠ [])
    (hring : (chash v.chash).generateHashRing endpoints v.chRingSize = some ring)
    (hlength : ring.length = v.chRing.length) :
    ∃ delta, v.calculateHashRing chash endpoints = some (delta, { v with chRing := ring }) := by
  obtain ⟨delta, hdelta⟩ := diffRings_of_length_eq 0 hlength
  have hsize : endpoints.length ≠ 0 := by simpa using hne
  exact ⟨delta, by simp [calculateHashRing, hsize, hring, hdelta]⟩

theorem calculateHashRing_eq_some {v v' : Vip} {endpoints : List Endpoint}
    {delta : List RealPos} (h : v.calculateHashRing chash endpoints = some (delta, v')) :
    (endpoints = [] ∧ delta = [] ∧ v' = v) ∨
    (endpoints ≠ [] ∧ ∃ ring left,
      (chash v.chash).generateHashRing endpoints v.chRingSize = some ring ∧
      diffRings 0 v.chRing ring = some (delta, left) ∧ v' = { v with chRing := left }) := by
  by_cases hnil : endpoints = []
  · subst hnil
    obtain ⟨rfl, rfl⟩ : [] = delta ∧ v = v' := by simpa [calculateHashRing_nil] using h
    exact .inl ⟨rfl, rfl, rfl⟩
  · have hsize : endpoints.length ≠ 0 := by simpa using hnil
    unfold calculateHashRing at h
    rw [if_pos hsize] at h
    obtain ⟨ring, hring, h⟩ := Option.bind_eq_some_iff.mp h
    obtain ⟨⟨delta', left⟩, hdiff, h⟩ := Option.bind_eq_some_iff.mp h
    obtain ⟨rfl, rfl⟩ := Prod.mk.inj (Option.some.inj h)
    exact .inr ⟨hnil, ring, left, hring, hdiff, rfl⟩

/-- Computing a ring changes nothing but the ring. -/
theorem calculateHashRing_frame {v v' : Vip} {endpoints : List Endpoint} {delta : List RealPos}
    (h : v.calculateHashRing chash endpoints = some (delta, v')) :
    ∃ ring, v' = { v with chRing := ring } := by
  rcases calculateHashRing_eq_some h with ⟨-, -, rfl⟩ | ⟨-, -, left, -, -, rfl⟩
  · exact ⟨v'.chRing, rfl⟩
  · exact ⟨left, rfl⟩

theorem batchRealsUpdate_frame {walk : Walk ℕ VipReal} {v v' : Vip} {ureals : List UpdateReal}
    {delta : List RealPos} (h : v.batchRealsUpdate chash walk ureals = some (delta, v')) :
    ∃ ring, v' = { v with reals := (applyUpdates v.reals ureals).1, chRing := ring } :=
  calculateHashRing_frame (v := { v with reals := (applyUpdates v.reals ureals).1 }) h

/-! ## The ring of a run -/

/-- Every slot holds nothing or the number of a real with positive weight. -/
structure RingServes (v : Vip) : Prop where
  slots : ∀ slot ∈ v.chRing, slot = -1 ∨
    ∃ num r, v.reals.lookup num = some r ∧ r.weight ≠ 0 ∧ slot = int32 num
  idle : ¬ HasWeight v.reals → ∀ slot ∈ v.chRing, slot = -1

theorem ringServes_of_slots {v : Vip}
    (h : ∀ slot ∈ v.chRing, slot = -1 ∨
      ∃ num r, v.reals.lookup num = some r ∧ r.weight ≠ 0 ∧ slot = int32 num) :
    v.RingServes where
  slots := h
  idle hnone slot hslot := by
    rcases h slot hslot with hfree | ⟨num, r, hlookup, hweight, -⟩
    · exact hfree
    · exact absurd ⟨num, r, hlookup, hweight⟩ hnone

/-- One call of `batchRealsUpdate`, with the iteration order it meets. -/
def updateStep (chash : HashFunction → ConsistentHash) (v : Vip)
    (call : Walk ℕ VipReal × List UpdateReal) : Option Vip :=
  (v.batchRealsUpdate chash call.1 call.2).map Prod.snd

/-- The three outcomes of one call: nothing to compute, nothing left, or a new ring. -/
theorem updateStep_cases (hfill : ∀ func, (chash func).FillsRing) {v : Vip}
    (hsize : v.chRing.length = v.chRingSize) (call : Walk ℕ VipReal × List UpdateReal) :
    ∃ ring, updateStep chash v call =
        some { v with reals := (applyUpdates v.reals call.2).1, chRing := ring } ∧
      ((ring = v.chRing ∧ SameWeighted v.reals (applyUpdates v.reals call.2).1) ∨
       (ring = v.chRing ∧ ¬ HasWeight (applyUpdates v.reals call.2).1) ∨
       (ring.length = v.chRingSize ∧ HasWeight (applyUpdates v.reals call.2).1 ∧
        ∀ slot ∈ ring, ∃ num r, (applyUpdates v.reals call.2).1.lookup num = some r ∧
          r.weight ≠ 0 ∧ slot = int32 num)) := by
  obtain ⟨walk, ureals⟩ := call
  let after := (applyUpdates v.reals ureals).1
  cases hchanged : (applyUpdates v.reals ureals).2 with
  | false =>
    refine ⟨v.chRing, ?_, .inl ⟨rfl, applyUpdates_unchanged hchanged⟩⟩
    simp [updateStep, batchRealsUpdate, getEndpoints, hchanged, calculateHashRing_nil]
  | true =>
    by_cases hweight : HasWeight after
    · have hne : sortEndpoints (weightedEndpoints walk after) ≠ [] := fun hnil ↦
        sortEndpoints_weighted_eq_nil_iff.mp hnil hweight
      obtain ⟨ring, hring, hlength, hslots⟩ := hfill v.chash _ v.chRingSize hne
      obtain ⟨delta, hcalc⟩ := calculateHashRing_of_ne_nil (v := { v with reals := after }) hne
        hring (hlength.trans hsize.symm)
      refine ⟨ring, ?_, .inr (.inr ⟨hlength, hweight, fun slot hslot ↦ ?_⟩)⟩
      · simp [updateStep, batchRealsUpdate, getEndpoints, hchanged, hcalc, after]
      · obtain ⟨e, he, heq⟩ := hslots slot hslot
        obtain ⟨hlookup, hpos⟩ := mem_weightedEndpoints.mp (mem_sortEndpoints.mp he)
        exact ⟨e.num, _, hlookup, hpos, heq⟩
    · refine ⟨v.chRing, ?_, .inr (.inl ⟨rfl, hweight⟩)⟩
      have hnil := (@sortEndpoints_weighted_eq_nil_iff walk _).mpr hweight
      simp [updateStep, batchRealsUpdate, getEndpoints, hchanged, hnil, calculateHashRing_nil,
        after]

/-- The batch asks for a real of positive weight, or finds nothing in the ring. -/
def KeepsWeight (v : Vip) (call : Walk ℕ VipReal × List UpdateReal) : Prop :=
  (∃ num, requestedWeight v.reals call.2 num ≠ 0) ∨ ∀ slot ∈ v.chRing, slot = -1

theorem hasWeight_applyUpdates_iff {v : Vip} {ureals : List UpdateReal} :
    HasWeight (applyUpdates v.reals ureals).1 ↔ ∃ num, requestedWeight v.reals ureals num ≠ 0 := by
  simp only [hasWeight_iff, weightOf_applyUpdates]

theorem updateStep_length (hfill : ∀ func, (chash func).FillsRing) (v : Vip)
    (call : Walk ℕ VipReal × List UpdateReal) (v' : Vip) (hsize : v.chRing.length = v.chRingSize)
    (h : updateStep chash v call = some v') : v'.chRing.length = v'.chRingSize := by
  obtain ⟨ring, hstep, hring⟩ := updateStep_cases hfill hsize call
  obtain rfl := Option.some.inj (hstep.symm.trans h)
  rcases hring with ⟨rfl, -⟩ | ⟨rfl, -⟩ | ⟨hlength, -⟩
  · exact hsize
  · exact hsize
  · exact hlength

/-- A call that starts from a serving ring keeps it serving exactly under `KeepsWeight`. -/
theorem updateStep_ringServes_iff (hfill : ∀ func, (chash func).FillsRing) (v : Vip)
    (call : Walk ℕ VipReal × List UpdateReal) (hsize : v.chRing.length = v.chRingSize)
    (hserves : v.RingServes) :
    KeepsWeight v call ↔ ∀ v', updateStep chash v call = some v' → v'.RingServes := by
  obtain ⟨ring, hstep, hring⟩ := updateStep_cases hfill hsize call
  rw [KeepsWeight, ← hasWeight_applyUpdates_iff]
  simp only [hstep, Option.some.injEq, forall_eq']
  rcases hring with ⟨rfl, hsame⟩ | ⟨rfl, hnone⟩ | ⟨-, hweight, hslots⟩
  · -- nothing changed: the slots still name reals of positive weight
    have hkept : RingServes { v with reals := (applyUpdates v.reals call.2).1 } := by
      refine ringServes_of_slots fun slot hslot ↦ ?_
      rcases hserves.slots slot hslot with hfree | ⟨num, r, hlookup, hweight, heq⟩
      · exact .inl hfree
      · exact .inr ⟨num, r, (hsame num r hweight).mp hlookup, hweight, heq⟩
    refine ⟨fun _ ↦ hkept, fun _ ↦ ?_⟩
    by_cases hweight : HasWeight (applyUpdates v.reals call.2).1
    · exact .inl hweight
    · exact .inr (hkept.idle hweight)
  · constructor
    · rintro (hweight | hfree)
      · exact absurd hweight hnone
      · exact ringServes_of_slots fun slot hslot ↦ .inl (hfree slot hslot)
    · exact fun h ↦ .inr (h.idle hnone)
  · exact ⟨fun _ ↦ ringServes_of_slots fun slot hslot ↦ .inr (hslots slot hslot),
      fun _ ↦ .inl hweight⟩

theorem new_ringServes (vipNum : ℕ) (vipFlags : BitVec 32) (ringSize : ℕ) (func : HashFunction) :
    (Vip.new vipNum vipFlags ringSize func).RingServes :=
  ringServes_of_slots fun _ hslot ↦ .inl (List.eq_of_mem_replicate hslot)

/-- Every sequence of batches on a fresh VIP returns. -/
theorem run_returns (hfill : ∀ func, (chash func).FillsRing) {v : Vip}
    (hsize : v.chRing.length = v.chRingSize) (calls : List (Walk ℕ VipReal × List UpdateReal)) :
    ∃ v', calls.foldlM (updateStep chash) v = some v' := by
  induction calls generalizing v with
  | nil => exact ⟨v, rfl⟩
  | cons call calls ih =>
    obtain ⟨ring, hstep, -⟩ := updateStep_cases hfill hsize call
    obtain ⟨v', hrest⟩ := ih (updateStep_length hfill v call _ hsize hstep)
    exact ⟨v', by rw [List.foldlM_cons, hstep]; exact hrest⟩

/-- Every sequence of batches on a fresh VIP returns, and all its rings serve only reals of
positive weight if and only if no batch takes the last of them from a ring in use. -/
theorem ring_serves_iff (hfill : ∀ func, (chash func).FillsRing) (vipNum : ℕ)
    (vipFlags : BitVec 32) (ringSize : ℕ) (func : HashFunction)
    (calls : List (Walk ℕ VipReal × List UpdateReal)) :
    (∃ v, calls.foldlM (updateStep chash) (Vip.new vipNum vipFlags ringSize func) = some v) ∧
    (Runs.Always (updateStep chash) RingServes (Vip.new vipNum vipFlags ringSize func) calls ↔
      Runs.Along (updateStep chash) KeepsWeight (Vip.new vipNum vipFlags ringSize func) calls) := by
  have hsize : (Vip.new vipNum vipFlags ringSize func).chRing.length =
      (Vip.new vipNum vipFlags ringSize func).chRingSize := List.length_replicate
  refine ⟨run_returns hfill hsize calls, ?_⟩
  exact Runs.always_iff_along (fun v call v' ↦ updateStep_length hfill v call v')
    (updateStep_ringServes_iff hfill) (new_ringServes vipNum vipFlags ringSize func) hsize

theorem ring_serves_iff_single :
    (∀ func : HashFunction, ((fun _ ↦ ConsistentHash.single) func).FillsRing) ∧
    (Runs.Always (updateStep fun _ ↦ .single) RingServes (Vip.new 0 0 3 .maglev)
        [(Walk.sorted, [⟨.add, ⟨5, 1, 9⟩⟩]),
          (Walk.sorted, [⟨.add, ⟨5, 0, 9⟩⟩, ⟨.add, ⟨6, 2, 4⟩⟩])] ↔
      Runs.Along (updateStep fun _ ↦ .single) KeepsWeight (Vip.new 0 0 3 .maglev)
        [(Walk.sorted, [⟨.add, ⟨5, 1, 9⟩⟩]),
          (Walk.sorted, [⟨.add, ⟨5, 0, 9⟩⟩, ⟨.add, ⟨6, 2, 4⟩⟩])]) :=
  ⟨fun _ ↦ ConsistentHash.single_fillsRing,
    (ring_serves_iff (fun _ ↦ ConsistentHash.single_fillsRing) 0 0 3 .maglev _).2⟩

/-- Deleting the only real leaves its number in every slot. -/
theorem drained_ring_keeps_slots :
    (∀ func : HashFunction, ((fun _ ↦ ConsistentHash.single) func).FillsRing) ∧
    [(Walk.sorted, [⟨.add, ⟨5, 1, 9⟩⟩]), (Walk.sorted, [⟨.del, ⟨5, 0, 0⟩⟩])].foldlM
        (updateStep fun _ ↦ .single) (Vip.new 0 0 3 .maglev) =
      some ⟨0, 0, 3, ∅, [5, 5, 5], .maglev⟩ ∧
    ¬ (Vip.mk 0 0 3 ∅ [5, 5, 5] .maglev).RingServes := by
  refine ⟨fun _ ↦ ConsistentHash.single_fillsRing, by decide +kernel, fun h ↦ ?_⟩
  have hfree := h.idle (by rintro ⟨num, r, hlookup, -⟩; simp at hlookup) 5 (by simp)
  omega

end Vip

end Vsoshlb
