import Vsoshlb.Library.Patches
import Vsoshlb.HashRing.VipRing

/-!
# Following a ring by its changes

The balancer never reads the ring of a `Vip`. It sees the slots that each call reports and sends
them on. A ring of free slots that takes over the reported slots, call by call, is the ring of the
`Vip` at every time: also across batches that change nothing, batches that leave no endpoint, and
changes of the hash function, which report nothing until the next computation.
-/

namespace Vsoshlb

open HashTable (Walk)

/-- On a non-empty list the scheme returns a ring of the requested size; its slots are `int`s. -/
def ConsistentHash.ReturnsRing (chash : ConsistentHash) : Prop :=
  ∀ endpoints ringSize, endpoints ≠ [] →
    ∃ ring, chash.generateHashRing endpoints ringSize = some ring ∧ ring.length = ringSize ∧
      ∀ slot ∈ ring, -2 ^ 31 ≤ slot ∧ slot < 2 ^ 31

theorem int32_range (num : ℕ) : -2 ^ 31 ≤ int32 num ∧ int32 num < 2 ^ 31 := by
  unfold int32
  constructor
  · have hlow := @Int.le_bmod num (2 ^ 32) (by decide)
    omega
  · have hhigh := @Int.bmod_lt num (2 ^ 32) (by decide)
    omega

theorem int32_uint32 {slot : ℤ} (h : -2 ^ 31 ≤ slot ∧ slot < 2 ^ 31) :
    int32 (uint32 slot) = slot := by
  unfold int32 uint32 Int.bmod
  dsimp only
  split_ifs <;> omega

theorem ConsistentHash.FillsRing.returnsRing {chash : ConsistentHash} (h : chash.FillsRing) :
    chash.ReturnsRing := by
  intro endpoints ringSize hne
  obtain ⟨ring, hring, hlength, hslots⟩ := h endpoints ringSize hne
  refine ⟨ring, hring, hlength, fun slot hslot ↦ ?_⟩
  obtain ⟨e, -, rfl⟩ := hslots slot hslot
  exact int32_range e.num

/-! ## The reported slots as a patch -/

/-- The reported slots, in a ring of `int`s. -/
def patchOf (delta : List RealPos) : List (ℕ × ℤ) :=
  delta.map fun e ↦ (e.pos, int32 e.real)

/-- The ring after the reported slots have been taken over. -/
def applyDelta (ring : List ℤ) (delta : List RealPos) : List ℤ :=
  delta.foldl (fun ring e ↦ ring.set e.pos (int32 e.real)) ring

theorem apply_patchOf (ring : List ℤ) (delta : List RealPos) :
    Patches.apply ring (patchOf delta) = applyDelta ring delta := by
  rw [Patches.apply, patchOf, List.foldl_map]
  rfl

/-- The slots that the loop reports are the patch between the rings. -/
theorem patchOf_diffRings {old new left : List ℤ} {delta : List RealPos}
    (hlength : new.length = old.length) (hslots : ∀ slot ∈ new, -2 ^ 31 ≤ slot ∧ slot < 2 ^ 31)
    (h : diffRings 0 old new = some (delta, left)) :
    patchOf delta = Patches.diff 0 old new ∧ left = new := by
  rw [diffRings_eq 0 hlength] at h
  obtain ⟨rfl, rfl⟩ := Prod.mk.inj (Option.some.inj h)
  refine ⟨?_, rfl⟩
  rw [patchOf, List.map_map]
  calc (Patches.diff 0 old new).map _
      = (Patches.diff 0 old new).map id := by
        apply List.map_congr_left
        intro change hchange
        obtain ⟨p, a, b, -, hb, -, rfl⟩ := Patches.mem_diff.mp hchange
        have hmem : b ∈ new := List.mem_of_getElem? hb
        exact Prod.ext rfl (int32_uint32 (hslots b hmem))
    _ = Patches.diff 0 old new := List.map_id _

/-! ## One call -/

/-- The calls that may change the ring, with the order of iteration that they meet, and the change
of the hash function. -/
inductive VipCall where
  | batchRealsUpdate (walk : Walk ℕ VipReal) (ureals : List UpdateReal)
  | addReal (walk : Walk ℕ VipReal) (real : Endpoint)
  | delReal (walk : Walk ℕ VipReal) (realNum : ℕ)
  | setHashFunction (func : HashFunction)
  | recalculateHashRing (walk : Walk ℕ VipReal)

variable {chash : HashFunction → ConsistentHash}

def VipCall.run (chash : HashFunction → ConsistentHash) (v : Vip) :
    VipCall → Option (List RealPos × Vip)
  | batchRealsUpdate walk ureals => v.batchRealsUpdate chash walk ureals
  | addReal walk real => v.addReal chash walk real
  | delReal walk realNum => v.delReal chash walk realNum
  | setHashFunction func => some ([], v.setHashFunction func)
  | recalculateHashRing walk => v.recalculateHashRing chash walk

/-- The ring has its size. -/
def Vip.Sized (n : ℕ) (v : Vip) : Prop := v.chRingSize = n ∧ v.chRing.length = n

/-- A computation reports the patch from the ring before to the ring after. -/
theorem Vip.calculateHashRing_patch (hchash : ∀ func, (chash func).ReturnsRing) {n : ℕ} {v : Vip}
    (hsized : v.Sized n) (endpoints : List Endpoint) :
    ∃ delta w, v.calculateHashRing chash endpoints = some (delta, w) ∧ w.Sized n ∧
      Patches.apply v.chRing (patchOf delta) = w.chRing ∧
      Patches.Changes v.chRing (patchOf delta) := by
  by_cases hnil : endpoints = []
  · subst hnil
    exact ⟨[], v, calculateHashRing_nil v, hsized, rfl, Patches.changes_nil _⟩
  · obtain ⟨ring, hring, hlength, hslots⟩ := hchash v.chash endpoints v.chRingSize hnil
    have hsame : ring.length = v.chRing.length := by
      rw [hlength, hsized.1, hsized.2]
    obtain ⟨delta, hcalc⟩ := calculateHashRing_of_ne_nil hnil hring hsame
    refine ⟨delta, _, hcalc, ⟨hsized.1, hsame.trans hsized.2⟩, ?_⟩
    rcases calculateHashRing_eq_some hcalc with ⟨hempty, -⟩ | ⟨-, ring', left, hring', hdiff, hw⟩
    · exact absurd hempty hnil
    · obtain rfl : ring = ring' := Option.some.inj (hring.symm.trans hring')
      obtain ⟨hpatch, rfl⟩ := patchOf_diffRings hsame hslots hdiff
      rw [hpatch]
      exact ⟨Patches.apply_diff hsame, Patches.diff_changes _ _⟩

theorem VipCall.run_patch (hchash : ∀ func, (chash func).ReturnsRing) {n : ℕ} (v : Vip)
    (call : VipCall) (hsized : v.Sized n) :
    ∃ delta w, call.run chash v = some (delta, w) ∧ w.Sized n ∧
      Patches.apply v.chRing (patchOf delta) = w.chRing ∧
      Patches.Changes v.chRing (patchOf delta) := by
  have hbatch (walk : Walk ℕ VipReal) (ureals : List UpdateReal) :
      ∃ delta w, v.batchRealsUpdate chash walk ureals = some (delta, w) ∧ w.Sized n ∧
        Patches.apply v.chRing (patchOf delta) = w.chRing ∧
        Patches.Changes v.chRing (patchOf delta) :=
    @Vip.calculateHashRing_patch chash hchash n (v.getEndpoints walk ureals).2 hsized
      (v.getEndpoints walk ureals).1
  cases call with
  | batchRealsUpdate walk ureals => exact hbatch walk ureals
  | addReal walk real => exact hbatch walk [⟨.add, real⟩]
  | delReal walk realNum => exact hbatch walk [⟨.del, ⟨realNum, 0, 0⟩⟩]
  | setHashFunction func => exact ⟨[], _, rfl, hsized, rfl, Patches.changes_nil _⟩
  | recalculateHashRing walk => exact Vip.calculateHashRing_patch hchash hsized _

/-! ## Whole histories -/

/-- A history of calls with what each of them reports. -/
def reports (chash : HashFunction → ConsistentHash) (v : Vip) (calls : List VipCall) :
    Option (List (List RealPos) × Vip) :=
  Patches.answers (VipCall.run chash) v calls

/-- The ring of free slots after the reported slots of a history have been taken over. -/
def replayRing (n : ℕ) (deltas : List (List RealPos)) : List ℤ :=
  deltas.foldl applyDelta (List.replicate n (-1))

theorem replay_eq_replayRing (n : ℕ) (deltas : List (List RealPos)) :
    Patches.replay patchOf (List.replicate n (-1)) deltas = replayRing n deltas := by
  unfold Patches.replay replayRing
  congr 1
  funext ring delta
  exact apply_patchOf ring delta

theorem length_replayRing (n : ℕ) (deltas : List (List RealPos)) :
    (replayRing n deltas).length = n := by
  rw [← replay_eq_replayRing, Patches.length_replay, List.length_replicate]

/-- The reported slots give the ring. Each report is in the order of the slots, and each of its
slots changes. -/
theorem replayRing_eq_chRing (hchash : ∀ func, (chash func).ReturnsRing) (vipNum : ℕ)
    (vipFlags : BitVec 32) (n : ℕ) (func : HashFunction) (calls : List VipCall) :
    ∃ deltas v, reports chash (Vip.new vipNum vipFlags n func) calls = some (deltas, v) ∧
      replayRing n deltas = v.chRing ∧
      ∀ front delta back, deltas = front ++ delta :: back →
        (delta.map RealPos.pos).Pairwise (· < ·) ∧
        ∀ e ∈ delta, e.pos < n ∧
          ∃ slot, (replayRing n front)[e.pos]? = some slot ∧ slot ≠ int32 e.real := by
  have hfresh : (Vip.new vipNum vipFlags n func).Sized n := ⟨rfl, List.length_replicate⟩
  obtain ⟨deltas, v, hreports, -, hreplay, hchanges⟩ :=
    Patches.answers_replay (VipCall.run_patch hchash) hfresh calls
  refine ⟨deltas, v, hreports, ?_, ?_⟩
  · rw [← replay_eq_replayRing]
    exact hreplay
  · intro front delta back hsplit
    have hdelta : Patches.Changes (replayRing n front) (patchOf delta) := by
      rw [← replay_eq_replayRing]
      exact hchanges front delta back hsplit
    constructor
    · have hsorted := hdelta.sorted
      rwa [patchOf, List.map_map] at hsorted
    · intro e he
      obtain ⟨slot, hslot, hne⟩ := hdelta.changed (e.pos, int32 e.real)
        (List.mem_map_of_mem he)
      obtain ⟨hpos, -⟩ := List.getElem?_eq_some_iff.mp hslot
      exact ⟨hpos.trans_eq (length_replayRing n front), slot, hslot, hne⟩

/-- A real is added and deleted under one hash function, and another one added under the other. -/
theorem replayRing_single :
    (∀ func : HashFunction, ((fun _ ↦ ConsistentHash.single) func).ReturnsRing) ∧
      ∃ deltas v, reports (fun _ ↦ .single) (Vip.new 0 0 3 .maglev)
          [.addReal .sorted ⟨5, 1, 9⟩, .delReal .sorted 5, .setHashFunction .maglevV2,
            .batchRealsUpdate .sorted [⟨.add, ⟨6, 2, 4⟩⟩], .recalculateHashRing .sorted] =
          some (deltas, v) ∧
        replayRing 3 deltas = v.chRing ∧
        ∀ front delta back, deltas = front ++ delta :: back →
          (delta.map RealPos.pos).Pairwise (· < ·) ∧
          ∀ e ∈ delta, e.pos < 3 ∧
            ∃ slot, (replayRing 3 front)[e.pos]? = some slot ∧ slot ≠ int32 e.real :=
  ⟨fun _ ↦ ConsistentHash.single_fillsRing.returnsRing,
    replayRing_eq_chRing (fun _ ↦ ConsistentHash.single_fillsRing.returnsRing) 0 0 3 .maglev _⟩

end Vsoshlb
