import Vsoshlb.HashRing.Agreement

/-!
# A batch in pieces

The updates of a batch may also come in pieces, with a call of `batchRealsUpdate` for each. The
table that they lead to is the same. The ring is that of the last piece that changed a weight, and
later pieces leave the endpoints as they are; so the rings agree wherever the endpoints determine
one, that is, where something of weight is left and no two endpoints share a hash.

The same updates once more change nothing: the table is the one they have led to, and a ring that is
computed again is computed from the same endpoints.
-/

namespace Vsoshlb

open HashTable (Walk)

/-! ## Updates in pieces -/

/-- `reals_changed` is set and never reset. -/
theorem applyUpdate_eq (reals : VipReals) (changed : Bool) (ureal : UpdateReal) :
    applyUpdate (reals, changed) ureal =
      ((applyUpdate (reals, false) ureal).1, changed || (applyUpdate (reals, false) ureal).2) := by
  unfold applyUpdate
  cases ureal.action with
  | del => simp
  | add =>
    dsimp only
    split_ifs
    · simp
    · simp

theorem foldl_applyUpdate_eq (reals : VipReals) (changed : Bool) (ureals : List UpdateReal) :
    ureals.foldl applyUpdate (reals, changed) =
      ((applyUpdates reals ureals).1, changed || (applyUpdates reals ureals).2) := by
  unfold applyUpdates
  induction ureals generalizing reals changed with
  | nil => simp
  | cons ureal ureals ih =>
    rw [List.foldl_cons, List.foldl_cons, applyUpdate_eq, ih, ih _ (applyUpdate _ ureal).2,
      Bool.or_assoc]

theorem applyUpdates_append (reals : VipReals) (ureals more : List UpdateReal) :
    applyUpdates reals (ureals ++ more) =
      ((applyUpdates (applyUpdates reals ureals).1 more).1,
        (applyUpdates reals ureals).2 || (applyUpdates (applyUpdates reals ureals).1 more).2) := by
  calc applyUpdates reals (ureals ++ more)
    _ = more.foldl applyUpdate (applyUpdates reals ureals) := List.foldl_append
    _ = _ := foldl_applyUpdate_eq _ _ _

/-- The loop leaves as much of the new ring as there was of the old one. -/
theorem diffRings_ring {i : ℕ} {olds news ring : List ℤ} {delta : List RealPos}
    (h : diffRings i olds news = some (delta, ring)) :
    ring = news.take olds.length ∧ olds.length ≤ news.length := by
  induction olds generalizing i news delta ring with
  | nil =>
    obtain ⟨-, rfl⟩ := Prod.mk.inj (Option.some.inj h)
    exact ⟨rfl, Nat.zero_le _⟩
  | cons old olds ih =>
    cases news with
    | nil => cases h
    | cons new news =>
      obtain ⟨⟨delta', left⟩, hrest, h⟩ := Option.bind_eq_some_iff.mp h
      obtain ⟨rfl, hlength⟩ := ih hrest
      refine ⟨?_, Nat.succ_le_succ hlength⟩
      dsimp only at h
      split_ifs at h with hslot
      · obtain ⟨-, rfl⟩ := Prod.mk.inj (Option.some.inj h)
        rfl
      · obtain ⟨-, rfl⟩ := Prod.mk.inj (Option.some.inj h)
        rw [← not_not.mp hslot]
        rfl

/-! ## The same updates again -/

/-- What an update makes of the entry under a number. -/
def updateEntry (num : ℕ) (entry : Option VipReal) (ureal : UpdateReal) : Option VipReal :=
  if ureal.updatedReal.num = num then
    match ureal.action with
    | .del => none
    | .add =>
      if (entry.getD ⟨0, 0⟩).weight ≠ ureal.updatedReal.weight then
        some ⟨ureal.updatedReal.weight, ureal.updatedReal.hash⟩
      else
        some (entry.getD ⟨0, 0⟩)
  else
    entry

theorem lookup_applyUpdate (state : VipReals × Bool) (ureal : UpdateReal) (num : ℕ) :
    (applyUpdate state ureal).1.lookup num = updateEntry num (state.1.lookup num) ureal := by
  obtain ⟨action, e⟩ := ureal
  unfold updateEntry
  by_cases hnum : e.num = num
  · subst hnum
    rw [if_pos rfl]
    cases action with
    | del => exact Finmap.lookup_erase _ _
    | add =>
      simp only [applyUpdate]
      split_ifs
      · exact Finmap.lookup_insert _
      · exact Finmap.lookup_insert _
  · rw [if_neg hnum]
    cases action with
    | del => exact Finmap.lookup_erase_ne (Ne.symm hnum)
    | add =>
      simp only [applyUpdate]
      split_ifs
      · exact Finmap.lookup_insert_of_ne _ (Ne.symm hnum)
      · exact Finmap.lookup_insert_of_ne _ (Ne.symm hnum)

theorem lookup_applyUpdates (reals : VipReals) (ureals : List UpdateReal) (num : ℕ) :
    (applyUpdates reals ureals).1.lookup num =
      ureals.foldl (updateEntry num) (reals.lookup num) := by
  suffices h : ∀ state : VipReals × Bool, (ureals.foldl applyUpdate state).1.lookup num =
      ureals.foldl (updateEntry num) (state.1.lookup num) from h (reals, false)
  induction ureals with
  | nil => exact fun _ ↦ rfl
  | cons ureal ureals ih =>
    intro state
    rw [List.foldl_cons, List.foldl_cons, ih, lookup_applyUpdate]

/-- The update leaves an entry of that weight alone. -/
def Steady (num weight : ℕ) (ureal : UpdateReal) : Prop :=
  ureal.updatedReal.num = num → ureal.action = .add ∧ ureal.updatedReal.weight = weight

section Entries

variable {num weight : ℕ} {ureal : UpdateReal} {ureals : List UpdateReal}

/-- An update that is not steady leaves nothing of the entry. -/
theorem updateEntry_of_not_steady {a b : Option VipReal}
    (ha : (a.getD ⟨0, 0⟩).weight = weight) (hb : (b.getD ⟨0, 0⟩).weight = weight)
    (hnot : ¬ Steady num weight ureal) :
    updateEntry num a ureal = updateEntry num b ureal := by
  obtain ⟨hnum, hchange⟩ := Classical.not_imp.mp hnot
  unfold updateEntry
  rw [if_pos hnum, if_pos hnum, ha, hb]
  cases haction : ureal.action with
  | del => rfl
  | add =>
    have hweight : weight ≠ ureal.updatedReal.weight := fun heq ↦ hchange ⟨haction, heq.symm⟩
    dsimp only
    rw [if_pos hweight, if_pos hweight]

theorem updateEntry_weight (entry : Option VipReal) :
    ((updateEntry num entry ureal).getD ⟨0, 0⟩).weight =
      ureal.weightFor num (entry.getD ⟨0, 0⟩).weight := by
  unfold updateEntry UpdateReal.weightFor
  by_cases hnum : ureal.updatedReal.num = num
  · rw [if_pos hnum, if_pos hnum]
    cases ureal.action with
    | del => rfl
    | add =>
      dsimp only
      split_ifs with hweight
      · rfl
      · exact not_not.mp hweight
  · rw [if_neg hnum, if_neg hnum]

/-- From entries of one weight, either no update changes anything, or they end alike. -/
theorem foldl_updateEntry_of_weight_eq {a b : Option VipReal}
    (ha : (a.getD ⟨0, 0⟩).weight = weight) (hb : (b.getD ⟨0, 0⟩).weight = weight) :
    (∀ ureal ∈ ureals, Steady num weight ureal) ∨
      ureals.foldl (updateEntry num) a = ureals.foldl (updateEntry num) b := by
  induction ureals generalizing a b with
  | nil => exact .inl fun _ hmem ↦ absurd hmem List.not_mem_nil
  | cons ureal ureals ih =>
    by_cases hsteady : Steady num weight ureal
    · have hkept : ureal.weightFor num weight = weight := by
        unfold UpdateReal.weightFor
        split_ifs with hnum
        · obtain ⟨haction, hweight⟩ := hsteady hnum
          rw [haction]
          exact hweight
        · rfl
      have hstep : ∀ entry : Option VipReal, (entry.getD ⟨0, 0⟩).weight = weight →
          ((updateEntry num entry ureal).getD ⟨0, 0⟩).weight = weight := by
        intro entry hentry
        rw [updateEntry_weight, hentry, hkept]
      exact (ih (hstep a ha) (hstep b hb)).imp_left
        fun hrest ↦ List.forall_mem_cons.mpr ⟨hsteady, hrest⟩
    · right
      rw [List.foldl_cons, List.foldl_cons, updateEntry_of_not_steady ha hb hsteady]

/-- Whatever the entries, either all updates are steady, or they end alike. -/
theorem foldl_updateEntry_or (a b : Option VipReal) :
    (∃ weight, ∀ ureal ∈ ureals, Steady num weight ureal) ∨
      ureals.foldl (updateEntry num) a = ureals.foldl (updateEntry num) b := by
  induction ureals generalizing a b with
  | nil => exact .inl ⟨0, fun _ hmem ↦ absurd hmem List.not_mem_nil⟩
  | cons ureal ureals ih =>
    by_cases hnum : ureal.updatedReal.num = num
    · cases haction : ureal.action with
      | del =>
        right
        rw [List.foldl_cons, List.foldl_cons]
        simp [updateEntry, hnum, haction]
      | add =>
        have hweight : ∀ entry : Option VipReal,
            ((updateEntry num entry ureal).getD ⟨0, 0⟩).weight = ureal.updatedReal.weight := by
          intro entry
          rw [updateEntry_weight, UpdateReal.weightFor, if_pos hnum, haction]
        refine (foldl_updateEntry_of_weight_eq (hweight a) (hweight b)).imp_left fun hrest ↦ ?_
        exact ⟨_, List.forall_mem_cons.mpr ⟨fun _ ↦ ⟨haction, rfl⟩, hrest⟩⟩
    · have hsame : ∀ entry, updateEntry num entry ureal = entry := fun entry ↦ if_neg hnum
      rw [List.foldl_cons, List.foldl_cons, hsame, hsame]
      apply (ih a b).imp_left
      rintro ⟨weight, hrest⟩
      exact ⟨weight, List.forall_mem_cons.mpr ⟨fun heq ↦ absurd heq hnum, hrest⟩⟩

/-- Steady updates leave an entry of their weight behind, and leave such an entry alone. -/
theorem foldl_updateEntry_of_steady (hsteady : ∀ ureal ∈ ureals, Steady num weight ureal)
    (entry : Option VipReal) : ureals.foldl (updateEntry num) entry = entry ∨
      ∃ r, ureals.foldl (updateEntry num) entry = some r ∧ r.weight = weight ∧
        ureals.foldl (updateEntry num) (some r) = some r := by
  induction ureals generalizing entry with
  | nil => exact .inl rfl
  | cons ureal ureals ih =>
    obtain ⟨hfirst, hrest⟩ := List.forall_mem_cons.mp hsteady
    rw [List.foldl_cons]
    by_cases hnum : ureal.updatedReal.num = num
    · obtain ⟨haction, hweight⟩ := hfirst hnum
      have hsome : ∃ r, updateEntry num entry ureal = some r ∧ r.weight = weight := by
        unfold updateEntry
        rw [if_pos hnum, haction]
        dsimp only
        split_ifs with hchange
        · exact ⟨_, rfl, hweight⟩
        · exact ⟨_, rfl, (not_not.mp hchange).trans hweight⟩
      have hkeeps : ∀ r : VipReal, r.weight = weight →
          updateEntry num (some r) ureal = some r := by
        intro r hr
        simp [updateEntry, hnum, haction, hr, hweight]
      obtain ⟨r, hr, hrweight⟩ := hsome
      rw [hr]
      right
      rcases ih hrest (some r) with hsame | ⟨r', hr', hweight', hsame⟩
      · refine ⟨r, hsame, hrweight, ?_⟩
        rw [List.foldl_cons, hkeeps r hrweight, hsame]
      · refine ⟨r', hr', hweight', ?_⟩
        rw [List.foldl_cons, hkeeps r' hweight', hsame]
    · have hsame : ∀ entry, updateEntry num entry ureal = entry := fun entry ↦ if_neg hnum
      rw [hsame]
      refine (ih hrest entry).imp_right fun ⟨r, hr, hweight, hkept⟩ ↦ ⟨r, hr, hweight, ?_⟩
      rw [List.foldl_cons, hsame, hkept]

end Entries

/-- Updates lead to a table that they leave as it is. -/
theorem applyUpdates_again (reals : VipReals) (ureals : List UpdateReal) :
    (applyUpdates (applyUpdates reals ureals).1 ureals).1 = (applyUpdates reals ureals).1 := by
  apply Finmap.ext_lookup
  intro num
  rw [lookup_applyUpdates, lookup_applyUpdates]
  rcases foldl_updateEntry_or (reals.lookup num)
    (ureals.foldl (updateEntry num) (reals.lookup num)) with ⟨weight, hsteady⟩ | hsame
  · rcases foldl_updateEntry_of_steady hsteady (reals.lookup num) with hsame | ⟨r, hr, -, hkept⟩
    · rw [hsame, hsame]
    · rw [hr, hkept]
  · exact hsame.symm

theorem applyUpdate_unchanged_iff {reals : VipReals} {ureal : UpdateReal} :
    (applyUpdate (reals, false) ureal).2 = false ↔
      ureal.action = .add ∧ weightOf reals ureal.updatedReal.num = ureal.updatedReal.weight := by
  have hweight : ∀ num, weightOf reals num = ((reals.lookup num).getD ⟨0, 0⟩).weight := by
    intro num
    unfold weightOf
    cases reals.lookup num with
    | none => rfl
    | some r => rfl
  unfold applyUpdate
  rw [hweight]
  cases ureal.action with
  | del => simp
  | add =>
    dsimp only
    split_ifs with hchange
    · simp [hchange]
    · simpa using hchange

/-- `reals_changed` stays unset if every update asks for the weight that the real has. -/
theorem applyUpdates_unchanged_iff {reals : VipReals} {ureals : List UpdateReal} :
    (applyUpdates reals ureals).2 = false ↔ ∀ ureal ∈ ureals,
      ureal.action = .add ∧ weightOf reals ureal.updatedReal.num = ureal.updatedReal.weight := by
  induction ureals generalizing reals with
  | nil => exact iff_of_true rfl fun _ hmem ↦ absurd hmem List.not_mem_nil
  | cons ureal ureals ih =>
    have hsplit : (applyUpdates reals (ureal :: ureals)).2 =
        ((applyUpdate (reals, false) ureal).2 ||
          (applyUpdates (applyUpdate (reals, false) ureal).1 ureals).2) :=
      congrArg Prod.snd (applyUpdates_append reals [ureal] ureals)
    rw [hsplit, Bool.or_eq_false_iff, ih, List.forall_mem_cons, applyUpdate_unchanged_iff]
    refine and_congr_right fun ⟨haction, hweight⟩ ↦ ?_
    -- the first update leaves every weight as it is
    have hsame : ∀ num, weightOf (applyUpdate (reals, false) ureal).1 num = weightOf reals num := by
      intro num
      rw [weightOf_applyUpdate, UpdateReal.weightFor]
      split_ifs with hnum
      · rw [haction, ← hnum]
        exact hweight.symm
      · rfl
    simp only [hsame]

theorem applyUpdates_again_unchanged {reals : VipReals} {ureals : List UpdateReal}
    (h : (applyUpdates reals ureals).2 = false) :
    (applyUpdates (applyUpdates reals ureals).1 ureals).2 = false := by
  rw [applyUpdates_unchanged_iff] at h ⊢
  intro ureal hmem
  refine ⟨(h ureal hmem).1, ?_⟩
  rw [weightOf_applyUpdates, requestedWeight]
  have hsame : ∀ num, ureals.foldl (UpdateReal.weightFor num) (weightOf reals num) =
      weightOf reals num := by
    intro num
    refine Runs.foldl_invariant_of_mem (· = weightOf reals num) rfl fun weight ureal' hmem' hw ↦ ?_
    obtain ⟨haction, hweight⟩ := h ureal' hmem'
    rw [hw, UpdateReal.weightFor, haction]
    split_ifs with hnum
    · rw [← hnum]
      exact hweight.symm
    · rfl
  rw [hsame]
  exact (h ureal hmem).2

namespace Vip

variable {chash : HashFunction → ConsistentHash} {v w w' : Vip} {ureals more : List UpdateReal}

/-- The VIP after calls with the given updates in all. -/
structure Pieces (chash : HashFunction → ConsistentHash) (v : Vip) (ureals : List UpdateReal)
    (w : Vip) : Prop where
  frame : ∃ ring, w = { v with reals := (applyUpdates v.reals ureals).1, chRing := ring }
  length : w.chRing.length = v.chRing.length
  unchanged : (applyUpdates v.reals ureals).2 = false → w.chRing = v.chRing
  changed : (applyUpdates v.reals ureals).2 = true → HasWeight w.reals →
    ∃ endpoints ring, IsEndpoints w.reals endpoints ∧
      (chash v.chash).generateHashRing endpoints v.chRingSize = some ring ∧
      w.chRing = ring.take v.chRing.length

theorem Pieces.refl (v : Vip) : Pieces chash v [] v where
  frame := ⟨v.chRing, rfl⟩
  length := rfl
  unchanged _ := rfl
  changed h := absurd h Bool.false_ne_true

theorem Pieces.reals (h : Pieces chash v ureals w) :
    w.reals = (applyUpdates v.reals ureals).1 := by
  obtain ⟨ring, rfl⟩ := h.frame
  rfl

/-- A further call. -/
theorem Pieces.step (h : Pieces chash v ureals w) {walk : Walk ℕ VipReal} {delta : List RealPos}
    (hcall : w.batchRealsUpdate chash walk more = some (delta, w')) :
    Pieces chash v (ureals ++ more) w' := by
  have hreals := h.reals
  obtain ⟨ring, hframe⟩ := batchRealsUpdate_frame hcall
  have happend := applyUpdates_append v.reals ureals more
  rw [← hreals] at happend
  unfold batchRealsUpdate getEndpoints at hcall
  dsimp only at hcall
  have hall : w'.reals = (applyUpdates v.reals (ureals ++ more)).1 := by
    rw [hframe, happend]
  have hw' : ∃ ring, w' =
      { v with reals := (applyUpdates v.reals (ureals ++ more)).1, chRing := ring } := by
    obtain ⟨ring₀, hw⟩ := h.frame
    refine ⟨ring, ?_⟩
    rw [hframe, happend, hw]
  have hscheme : w.chash = v.chash ∧ w.chRingSize = v.chRingSize := by
    obtain ⟨ring₀, hw⟩ := h.frame
    rw [hw]
    exact ⟨rfl, rfl⟩
  cases hmore : (applyUpdates w.reals more).2 with
  | false =>
    -- nothing is computed, and the endpoints are those of before
    rw [hmore, if_neg Bool.false_ne_true, calculateHashRing_nil] at hcall
    have hsame : w'.chRing = w.chRing := by
      rw [← (Prod.mk.inj (Option.some.inj hcall)).2]
    have hweighted := applyUpdates_unchanged hmore
    have hreals' : (applyUpdates w.reals more).1 = w'.reals := by rw [hframe]
    rw [hreals'] at hweighted
    rw [hmore, Bool.or_false] at happend
    refine ⟨hw', hsame ▸ h.length, fun hflag ↦ ?_, fun hflag hweight ↦ ?_⟩
    · rw [hsame]
      exact h.unchanged (by rw [← hflag, happend])
    · have hweight' : HasWeight w.reals := by
        obtain ⟨num, r, hlookup, hr⟩ := hweight
        exact ⟨num, r, (hweighted num r hr).mpr hlookup, hr⟩
      obtain ⟨endpoints, ring', hendpoints, hring, hleft⟩ :=
        h.changed (by rw [← hflag, happend]) hweight'
      exact ⟨endpoints, ring', hendpoints.congr hweighted, hring, hsame.trans hleft⟩
  | true =>
    rw [hmore, if_pos rfl] at hcall
    have hflag : (applyUpdates v.reals (ureals ++ more)).2 = true := by
      rw [happend, hmore]
      exact Bool.or_true _
    have hreals' : (applyUpdates w.reals more).1 = w'.reals := by rw [hframe]
    rw [hreals'] at hcall
    rcases calculateHashRing_eq_some hcall with
      ⟨hnil, -, hsame⟩ | ⟨-, ring', left, hring, hdiff, hw⟩
    · refine ⟨hw', ?_, fun hflag' ↦ absurd (hflag.symm.trans hflag') (by decide),
        fun _ hweight ↦ ?_⟩
      · rw [hsame]
        exact h.length
      · exact absurd hweight (sortEndpoints_weighted_eq_nil_iff.mp hnil)
    · obtain ⟨hleft, hlength⟩ := diffRings_ring hdiff
      have hring' : w'.chRing = ring'.take v.chRing.length := by
        rw [hw, ← h.length]
        exact hleft
      refine ⟨hw', ?_, fun hflag' ↦ absurd (hflag.symm.trans hflag') (by decide), fun _ _ ↦ ?_⟩
      · rw [hring', List.length_take, ← h.length]
        exact Nat.min_eq_left hlength
      · refine ⟨_, ring', isEndpoints_sortEndpoints walk w'.reals, ?_, hring'⟩
        rw [← hscheme.1, ← hscheme.2]
        exact hring

/-- However the updates are cut into calls, they lead to one table, and to one ring where the
endpoints determine it. -/
theorem Pieces.agree (h : Pieces chash v ureals w) (h' : Pieces chash v ureals w') :
    w'.reals = w.reals ∧
      (HasWeight w.reals → DistinctHashes w.reals → w'.chRing = w.chRing) := by
  have hreals : w'.reals = w.reals := by rw [h.reals, h'.reals]
  refine ⟨hreals, fun hweight hdistinct ↦ ?_⟩
  cases hflag : (applyUpdates v.reals ureals).2 with
  | false => rw [h.unchanged hflag, h'.unchanged hflag]
  | true =>
    obtain ⟨endpoints, ring, hendpoints, hring, hleft⟩ := h.changed hflag hweight
    obtain ⟨endpoints', ring', hendpoints', hring', hleft'⟩ :=
      h'.changed hflag (hreals.symm ▸ hweight)
    rw [hreals] at hendpoints'
    obtain rfl := hendpoints.unique hendpoints' hdistinct
    obtain rfl := Option.some.inj (hring.symm.trans hring')
    rw [hleft, hleft']

/-- The same updates again find nothing to change, in the table and in the ring. -/
theorem batchRealsUpdate_again {walk walk' : Walk ℕ VipReal} {delta : List RealPos}
    (h : v.batchRealsUpdate chash walk ureals = some (delta, w))
    (hwalk : walk'.order w.reals = walk.order w.reals) :
    w.batchRealsUpdate chash walk' ureals = some ([], w) := by
  obtain ⟨ring, rfl⟩ := batchRealsUpdate_frame h
  unfold batchRealsUpdate getEndpoints at h ⊢
  dsimp only at h ⊢
  rw [applyUpdates_again]
  dsimp only at hwalk
  cases hchanged : (applyUpdates (applyUpdates v.reals ureals).1 ureals).2 with
  | false => rfl
  | true =>
    have hfirst : (applyUpdates v.reals ureals).2 = true := by
      by_contra hnot
      rw [applyUpdates_again_unchanged (Bool.eq_false_of_not_eq_true hnot)] at hchanged
      cases hchanged
    rw [hfirst, if_pos rfl] at h
    rw [if_pos rfl, weightedEndpoints, hwalk]
    rw [weightedEndpoints] at h
    generalize sortEndpoints _ = endpoints at h ⊢
    rcases calculateHashRing_eq_some h with
      ⟨rfl, -, -⟩ | ⟨hne, ring', left, hring, hdiff, hw⟩
    · rfl
    · obtain ⟨rfl, hlength⟩ := diffRings_ring hdiff
      obtain rfl : ring = ring'.take v.chRing.length := congrArg Vip.chRing hw
      have hsize : endpoints.length ≠ 0 := by simpa using hne
      have hnothing : diffRings 0 (ring'.take v.chRing.length) ring' =
          some ([], ring'.take v.chRing.length) := diffRings_take 0 _ hlength
      dsimp only at hring
      simp [calculateHashRing, hsize, hring, hnothing]

end Vip

end Vsoshlb
