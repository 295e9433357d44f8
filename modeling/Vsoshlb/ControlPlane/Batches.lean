import Vsoshlb.HashRing.Pieces
import Vsoshlb.ControlPlane.IdPools
import Vsoshlb.ControlPlane.VipCounts

/-!
# A batch of reals and its elements

`modifyRealsForVip` reads the reals of the VIP once and consults that list for every element, while
`addRealForVip` and `delRealForVip` see the VIP as their predecessors left it. An `ADD` enters a
real that it counts into the list, but not one that it creates; a `DEL` takes nothing out. So the
two ways part where an element counts for a number that an earlier one has named already, and from
then on the counts stay apart.
-/

namespace Vsoshlb

open HashTable

variable {folly : Folly} {config : Config} {chash : HashFunction → ConsistentHash}

/-! ## The two ways -/

/-- The loop body of `modifyRealsForVip`. -/
def realStep (folly : Folly) (config : Config) (action : ModifyAction) :
    Batch × State → NewReal → Batch × State :=
  match action with
  | .add => addRealStep folly config
  | .del => delRealStep folly config

theorem realsLoop_eq (action : ModifyAction) (reals : List NewReal) (acc : Batch × State) :
    realsLoop folly config action reals acc =
      reals.foldl (realStep folly config action) acc := by
  cases action with
  | add => rfl
  | del => rfl

/-- One element by itself, with what its call leaves to the implementation. -/
def modifyRealForVip (folly : Folly) (config : Config) (chash : HashFunction → ConsistentHash)
    (action : ModifyAction) (vip : VipKey) (s : State) (call : NewReal × Unspecified) :
    Option State :=
  match action with
  | .add => (addRealForVip folly config chash call.2 call.1 vip s).map Prod.snd
  | .del => (delRealForVip folly config chash call.2 call.1 vip s).map Prod.snd

/-- The same reals with the same numbers, flags and counts, the same free numbers, and the same
reals of the VIP, with the same ring where the reals determine one. -/
structure SameOutcome (vip : VipKey) (t t' : Tables) : Prop where
  reals : t'.reals = t.reals
  realNums : t'.realNums = t.realNums
  vip : ∀ v, t.vips.lookup vip = some v → ∃ v', t'.vips.lookup vip = some v' ∧
    v'.reals = v.reals ∧ (HasWeight v.reals → DistinctHashes v.reals → v'.chRing = v.chRing)

/-- An `ADD` counts for a number that is not in the list, a `DEL` for one that is. -/
def Batch.Counts (action : ModifyAction) (batch : Batch) (num : ℕ) : Prop :=
  match action with
  | .add => num ∉ batch.curReals
  | .del => num ∈ batch.curReals

def Batch.Named (batch : Batch) (num : ℕ) : Prop :=
  ∃ ureal ∈ batch.ureals, ureal.updatedReal.num = num

/-- If the element counts for a number, no earlier one has named it. -/
def CountsUnnamed (folly : Folly) (action : ModifyAction) (acc : Batch × State) (real : NewReal) :
    Prop :=
  ∀ raddr rmeta, folly.parse real.address = some raddr →
    acc.2.tables.reals.lookup raddr = some rmeta → acc.1.Counts action rmeta.num →
    ¬ acc.1.Named rmeta.num

/-! ## One element -/

section Congr

variable {s s' : State}

theorem increaseRefCountForReal_congr (hreals : s'.tables.reals = s.tables.reals)
    (hnums : s'.tables.realNums = s.tables.realNums) (real : IPAddress) (flags : BitVec 8) :
    (increaseRefCountForReal config real flags s').1 =
        (increaseRefCountForReal config real flags s).1 ∧
      (increaseRefCountForReal config real flags s').2.tables.reals =
        (increaseRefCountForReal config real flags s).2.tables.reals ∧
      (increaseRefCountForReal config real flags s').2.tables.realNums =
        (increaseRefCountForReal config real flags s).2.tables.realNums := by
  unfold increaseRefCountForReal
  rw [hreals, hnums]
  cases s.tables.reals.lookup real with
  | some rmeta => exact ⟨rfl, rfl, hnums⟩
  | none =>
    cases s.tables.realNums with
    | nil => exact ⟨rfl, hreals, hnums⟩
    | cons rnum realNums =>
      dsimp only
      split_ifs
      · exact ⟨rfl, rfl, rfl⟩
      · rw [updateRealsMap_tables, updateRealsMap_tables]
        exact ⟨rfl, rfl, rfl⟩

theorem decreaseRefCountForReal_congr (hreals : s'.tables.reals = s.tables.reals)
    (hnums : s'.tables.realNums = s.tables.realNums) (real : IPAddress) :
    (decreaseRefCountForReal real s').tables.reals =
        (decreaseRefCountForReal real s).tables.reals ∧
      (decreaseRefCountForReal real s').tables.realNums =
        (decreaseRefCountForReal real s).tables.realNums := by
  unfold decreaseRefCountForReal
  rw [hreals]
  cases s.tables.reals.lookup real with
  | none => exact ⟨hreals, hnums⟩
  | some rmeta =>
    dsimp only
    split_ifs
    · exact ⟨rfl, by rw [hnums]⟩
    · exact ⟨rfl, hnums⟩

variable {batch batch' : Batch} {real : NewReal}

theorem addRealStep_congr (hreals : s'.tables.reals = s.tables.reals)
    (hnums : s'.tables.realNums = s.tables.realNums)
    (hcur : ∀ raddr rmeta, folly.parse real.address = some raddr →
      s.tables.reals.lookup raddr = some rmeta →
      (rmeta.num ∈ batch'.curReals ↔ rmeta.num ∈ batch.curReals)) :
    ∃ ureals, (addRealStep folly config (batch, s) real).1.ureals = batch.ureals ++ ureals ∧
      (addRealStep folly config (batch', s') real).1.ureals = batch'.ureals ++ ureals ∧
      (addRealStep folly config (batch', s') real).2.tables.reals =
        (addRealStep folly config (batch, s) real).2.tables.reals ∧
      (addRealStep folly config (batch', s') real).2.tables.realNums =
        (addRealStep folly config (batch, s) real).2.tables.realNums := by
  unfold addRealStep
  cases haddr : folly.parse real.address with
  | none =>
    simp only [validateHost_of_none haddr]
    exact ⟨[], (List.append_nil _).symm, (List.append_nil _).symm, hreals, hnums⟩
  | some raddr =>
    have hinc := @increaseRefCountForReal_congr config _ _ hreals hnums raddr real.flags
    simp only [validateHost_of_some haddr]
    rw [hreals]
    cases hreal : s.tables.reals.lookup raddr with
    | some rmeta =>
      dsimp only
      by_cases hmem : rmeta.num ∈ batch.curReals
      · rw [if_pos hmem, if_pos ((hcur raddr rmeta haddr hreal).mpr hmem)]
        exact ⟨_, rfl, rfl, hreals, hnums⟩
      · rw [if_neg hmem, if_neg fun hmem' ↦ hmem ((hcur raddr rmeta haddr hreal).mp hmem')]
        exact ⟨_, rfl, rfl, hinc.2.1, hinc.2.2⟩
    | none =>
      dsimp only
      rw [hinc.1]
      split_ifs
      · exact ⟨[], (List.append_nil _).symm, (List.append_nil _).symm, hinc.2.1, hinc.2.2⟩
      · exact ⟨_, rfl, rfl, hinc.2.1, hinc.2.2⟩

theorem delRealStep_congr (hreals : s'.tables.reals = s.tables.reals)
    (hnums : s'.tables.realNums = s.tables.realNums)
    (hcur : ∀ raddr rmeta, folly.parse real.address = some raddr →
      s.tables.reals.lookup raddr = some rmeta →
      (rmeta.num ∈ batch'.curReals ↔ rmeta.num ∈ batch.curReals)) :
    ∃ ureals, (delRealStep folly config (batch, s) real).1.ureals = batch.ureals ++ ureals ∧
      (delRealStep folly config (batch', s') real).1.ureals = batch'.ureals ++ ureals ∧
      (delRealStep folly config (batch', s') real).2.tables.reals =
        (delRealStep folly config (batch, s) real).2.tables.reals ∧
      (delRealStep folly config (batch', s') real).2.tables.realNums =
        (delRealStep folly config (batch, s) real).2.tables.realNums := by
  unfold delRealStep
  cases haddr : folly.parse real.address with
  | none =>
    simp only [validateHost_of_none haddr]
    exact ⟨[], (List.append_nil _).symm, (List.append_nil _).symm, hreals, hnums⟩
  | some raddr =>
    have hdec := decreaseRefCountForReal_congr hreals hnums raddr
    simp only [validateHost_of_some haddr]
    rw [hreals]
    cases hreal : s.tables.reals.lookup raddr with
    | none => exact ⟨[], (List.append_nil _).symm, (List.append_nil _).symm, hreals, hnums⟩
    | some rmeta =>
      dsimp only
      by_cases hmem : rmeta.num ∈ batch.curReals
      · rw [if_pos hmem, if_pos ((hcur raddr rmeta haddr hreal).mpr hmem)]
        exact ⟨_, rfl, rfl, hdec.1, hdec.2⟩
      · rw [if_neg hmem, if_neg fun hmem' ↦ hmem ((hcur raddr rmeta haddr hreal).mp hmem')]
        exact ⟨[], (List.append_nil _).symm, (List.append_nil _).symm, hreals, hnums⟩

/-- What an element does depends on the reals, the free numbers, and whether its number is in the
list. -/
theorem realStep_congr (action : ModifyAction) (hreals : s'.tables.reals = s.tables.reals)
    (hnums : s'.tables.realNums = s.tables.realNums)
    (hcur : ∀ raddr rmeta, folly.parse real.address = some raddr →
      s.tables.reals.lookup raddr = some rmeta →
      (rmeta.num ∈ batch'.curReals ↔ rmeta.num ∈ batch.curReals)) :
    ∃ ureals, (realStep folly config action (batch, s) real).1.ureals = batch.ureals ++ ureals ∧
      (realStep folly config action (batch', s') real).1.ureals = batch'.ureals ++ ureals ∧
      (realStep folly config action (batch', s') real).2.tables.reals =
        (realStep folly config action (batch, s) real).2.tables.reals ∧
      (realStep folly config action (batch', s') real).2.tables.realNums =
        (realStep folly config action (batch, s) real).2.tables.realNums := by
  cases action with
  | add => exact addRealStep_congr hreals hnums hcur
  | del => exact delRealStep_congr hreals hnums hcur

end Congr

/-! ## The list of a batch -/

/-- The list holds the reals that the VIP had, as far as no element has named them, and all updates
have the action of the batch. -/
structure Batch.OfVip (action : ModifyAction) (v : Vip) (batch : Batch) : Prop where
  unnamed : ∀ num, ¬ batch.Named num → (num ∈ batch.curReals ↔ (v.reals.lookup num).isSome)
  actions : ∀ ureal ∈ batch.ureals, ureal.action = action

theorem Batch.ofVip_getReals (action : ModifyAction) (walk : Walk ℕ VipReal) (v : Vip) :
    Batch.OfVip action v ⟨v.getReals walk, []⟩ where
  unnamed _ _ := Vip.mem_getReals
  actions _ hmem := absurd hmem List.not_mem_nil

theorem Batch.OfVip.append {action : ModifyAction} {v : Vip} {batch : Batch}
    (h : batch.OfVip action v) (curReals : List ℕ) (num : ℕ) (e : Endpoint) (hnum : e.num = num)
    (hcur : ∀ m, m ≠ num → (m ∈ curReals ↔ m ∈ batch.curReals)) :
    Batch.OfVip action v ⟨curReals, batch.ureals ++ [⟨action, e⟩]⟩ where
  unnamed m hnot := by
    have hne : m ≠ num := fun heq ↦ hnot ⟨⟨action, e⟩, by simp, by rw [heq, hnum]⟩
    rw [hcur m hne]
    refine h.unnamed m fun ⟨ureal, hmem, heq⟩ ↦ hnot ⟨ureal, ?_, heq⟩
    exact List.mem_append_left _ hmem
  actions ureal hmem := by
    rcases List.mem_append.mp hmem with hmem | hmem
    · exact h.actions ureal hmem
    · rw [List.mem_singleton.mp hmem]

theorem realStep_ofVip {action : ModifyAction} {v : Vip} {acc : Batch × State}
    (h : acc.1.OfVip action v) (real : NewReal) :
    (realStep folly config action acc real).1.OfVip action v := by
  obtain ⟨batch, s⟩ := acc
  cases action with
  | add =>
    unfold realStep addRealStep
    cases haddr : folly.parse real.address with
    | none => simpa only [validateHost_of_none haddr] using h
    | some raddr =>
      simp only [validateHost_of_some haddr]
      cases s.tables.reals.lookup raddr with
      | some rmeta =>
        dsimp only
        split_ifs
        · exact h.append batch.curReals rmeta.num _ rfl fun _ _ ↦ Iff.rfl
        · exact h.append _ rmeta.num _ rfl fun m hm ↦ by simp [hm]
      | none =>
        dsimp only
        split_ifs
        · exact h
        · exact h.append batch.curReals _ _ rfl fun _ _ ↦ Iff.rfl
  | del =>
    unfold realStep delRealStep
    cases haddr : folly.parse real.address with
    | none => simpa only [validateHost_of_none haddr] using h
    | some raddr =>
      simp only [validateHost_of_some haddr]
      cases s.tables.reals.lookup raddr with
      | none => exact h
      | some rmeta =>
        dsimp only
        split_ifs
        · exact h.append batch.curReals rmeta.num _ rfl fun _ _ ↦ Iff.rfl
        · exact h

theorem realsLoop_ofVip (action : ModifyAction) (walk : Walk ℕ VipReal) (v : Vip) (s : State)
    (reals : List NewReal) :
    (reals.foldl (realStep folly config action) (⟨v.getReals walk, []⟩, s)).1.OfVip action v :=
  Runs.foldl_invariant (fun acc : Batch × State ↦ acc.1.OfVip action v)
    (Batch.ofVip_getReals action walk v) reals fun _ real hacc ↦ realStep_ofVip hacc real

/-- After the updates of a batch the VIP has a number that they name, or has it not. -/
theorem Vip.after_isSome_of_named {action : ModifyAction} {v : Vip} {ureals : List UpdateReal}
    {num : ℕ} (hactions : ∀ ureal ∈ ureals, ureal.action = action)
    (hnamed : ∃ ureal ∈ ureals, ureal.updatedReal.num = num) :
    ((v.after ureals).reals.lookup num).isSome = decide (action = .add) := by
  induction ureals using List.reverseRecOn with
  | nil =>
    obtain ⟨ureal, hmem, -⟩ := hnamed
    cases hmem
  | append_singleton ureals ureal ih =>
    rw [after_append_isSome]
    split_ifs with hnum
    · rw [hactions ureal (by simp)]
    · refine ih (fun ureal' hmem ↦ hactions ureal' (List.mem_append_left _ hmem)) ?_
      obtain ⟨ureal', hmem, heq⟩ := hnamed
      rcases List.mem_append.mp hmem with hmem | hmem
      · exact ⟨ureal', hmem, heq⟩
      · rw [List.mem_singleton.mp hmem] at heq
        exact absurd heq.symm hnum

/-- Where the element counts for unnamed numbers only, the list agrees with the VIP as the updates
so far leave it. -/
theorem Batch.OfVip.mem_curReals_iff {action : ModifyAction} {v : Vip} {batch : Batch}
    (h : batch.OfVip action v) {num : ℕ} :
    (batch.Counts action num → ¬ batch.Named num) ↔
      (num ∈ batch.curReals ↔ ((v.after batch.ureals).reals.lookup num).isSome) := by
  by_cases hnamed : batch.Named num
  · rw [Vip.after_isSome_of_named h.actions hnamed]
    cases action with
    | add => simp [hnamed, Batch.Counts]
    | del => simp [hnamed, Batch.Counts]
  · have hsame : ((v.after batch.ureals).reals.lookup num).isSome =
        (v.reals.lookup num).isSome :=
      Vip.after_isSome_of_not_named fun ureal hmem heq ↦ hnamed ⟨ureal, hmem, heq⟩
    rw [hsame]
    exact ⟨fun _ ↦ h.unnamed num hnamed, fun _ _ ↦ hnamed⟩

/-! ## One element by itself -/

/-- A call for a VIP in the table runs the loop, and stores and programs a ring. -/
theorem modifyRealsForVip_of_lookup {u : Unspecified} {action : ModifyAction}
    {reals : List NewReal} {vip : VipKey} {s : State} {reply : Bool × State} {v : Vip}
    (hvip : s.tables.vips.lookup vip = some v)
    (h : modifyRealsForVip folly config chash u action reals vip s = some reply) :
    ∃ batch looped delta w,
      reals.foldl (realStep folly config action) (⟨v.getReals u.vipReals, []⟩, s) =
        (batch, looped) ∧
      v.batchRealsUpdate chash u.vipReals batch.ureals = some (delta, w) ∧
      reply = (true, programHashRing config u delta w.vipNum
        { looped with tables.vips := looped.tables.vips.insert vip w }) := by
  unfold modifyRealsForVip at h
  simp only [hvip, realsLoop_eq] at h
  obtain ⟨⟨delta, w⟩, hring, h⟩ := Option.bind_eq_some_iff.mp h
  exact ⟨_, _, delta, w, rfl, hring, (Option.some.inj h).symm⟩

theorem modifyRealForVip_cases {action : ModifyAction} {vip : VipKey} {s s' : State}
    {call : NewReal × Unspecified}
    (h : modifyRealForVip folly config chash action vip s call = some s') {w : Vip}
    (hvip : s.tables.vips.lookup vip = some w) :
    ∃ batch looped delta w', realStep folly config action
        (⟨w.getReals call.2.vipReals, []⟩, s) call.1 = (batch, looped) ∧
      w.batchRealsUpdate chash call.2.vipReals batch.ureals = some (delta, w') ∧
      s'.tables = { looped.tables with vips := looped.tables.vips.insert vip w' } := by
  have hcall : (modifyRealsForVip folly config chash call.2 action [call.1] vip s).map Prod.snd =
      some s' := by
    cases action with
    | add => exact h
    | del => exact h
  obtain ⟨reply, hreply, rfl⟩ := Option.map_eq_some_iff.mp hcall
  obtain ⟨batch, looped, delta, w', hloop, hring, rfl⟩ := modifyRealsForVip_of_lookup hvip hreply
  refine ⟨batch, looped, delta, w', hloop, hring, ?_⟩
  rw [programHashRing_tables]

/-- The elements so far, taken one by one from the same state, have led to `s`. -/
structure InStep (chash : HashFunction → ConsistentHash) (vip : VipKey) (v : Vip)
    (acc : Batch × State) (s : State) : Prop where
  reals : s.tables.reals = acc.2.tables.reals
  realNums : s.tables.realNums = acc.2.tables.realNums
  vip : ∃ w, s.tables.vips.lookup vip = some w ∧ v.Pieces chash acc.1.ureals w

/-- An element that counts for unnamed numbers only does the same both ways. -/
theorem InStep.step {action : ModifyAction} {vip : VipKey} {v : Vip} {acc : Batch × State}
    {s s' : State} (h : InStep chash vip v acc s) (hbatch : acc.1.OfVip action v)
    {call : NewReal × Unspecified} (hcounts : CountsUnnamed folly action acc call.1)
    (hcall : modifyRealForVip folly config chash action vip s call = some s') :
    InStep chash vip v (realStep folly config action acc call.1) s' := by
  obtain ⟨w, hvip, hpieces⟩ := h.vip
  obtain ⟨batch, looped, delta, w', hstep, hring, htables⟩ := modifyRealForVip_cases hcall hvip
  obtain ⟨ureals, happend, hsingle, hreals, hnums⟩ := @realStep_congr folly config acc.2 s acc.1
    ⟨w.getReals call.2.vipReals, []⟩ call.1 action h.reals h.realNums
    (fun raddr rmeta haddr hreal ↦ by
      rw [Vip.mem_getReals, hpieces.reals]
      exact (hbatch.mem_curReals_iff.mp (hcounts raddr rmeta haddr hreal)).symm)
  rw [hstep] at hsingle hreals hnums
  obtain rfl : batch.ureals = ureals := hsingle
  refine ⟨?_, ?_, w', ?_, ?_⟩
  · rw [htables]
    exact hreals
  · rw [htables]
    exact hnums
  · rw [htables]
    exact Finmap.lookup_insert _
  · rw [happend]
    exact hpieces.step hring

/-! ## Where the two ways part -/

/-- An entry that the batch counted once too often: too high for an `ADD`, where it stays, and too
low or gone for a `DEL`. `r` is the entry of the other way. -/
def Miscounted (action : ModifyAction) (raddr : IPAddress) (r : RealMeta) (acc : Batch × State) :
    Prop :=
  match action with
  | .add => r.num ∈ acc.1.curReals ∧ acc.2.tables.reals.lookup raddr =
      some { r with refCount := increment32 r.refCount }
  | .del => ∀ r', acc.2.tables.reals.lookup raddr = some r' →
      r'.refCount ≠ 0 ∧ (r.refCount = 0 ∨ r'.refCount < r.refCount)

/-- The entry is there, and the VIP has or lacks its number so that no call counts for it. -/
def Untouched (action : ModifyAction) (vip : VipKey) (raddr : IPAddress) (r : RealMeta)
    (s : State) : Prop :=
  s.tables.reals.lookup raddr = some r ∧ ∃ w, s.tables.vips.lookup vip = some w ∧
    (w.reals.lookup r.num).isSome = decide (action = .add)

/-- The two counts differ. -/
theorem Miscounted.reals_ne {action : ModifyAction} {vip : VipKey} {raddr : IPAddress}
    {r : RealMeta} {acc : Batch × State} {s : State} (h : Miscounted action raddr r acc)
    (h' : Untouched action vip raddr r s) : s.tables.reals ≠ acc.2.tables.reals := by
  intro heq
  have hlookup := h'.1
  rw [heq] at hlookup
  cases action with
  | add =>
    have hentry := congrArg RealMeta.refCount (Option.some.inj (hlookup.symm.trans h.2))
    exact increment32_ne r.refCount hentry.symm
  | del =>
    obtain ⟨hne, hless⟩ := h r hlookup
    rcases hless with hzero | hless
    · exact hne hzero
    · exact Nat.lt_irrefl _ hless

section Elements

variable {action : ModifyAction} {raddr : IPAddress} {r : RealMeta} {acc : Batch × State}
  {real : NewReal}

/-- An element that does not count leaves the reals alone. -/
theorem realStep_reals_of_not_counts (haddr : folly.parse real.address = some raddr)
    (hreal : acc.2.tables.reals.lookup raddr = some r) (hnot : ¬ acc.1.Counts action r.num) :
    (realStep folly config action acc real).2.tables.reals = acc.2.tables.reals := by
  obtain ⟨batch, s⟩ := acc
  cases action with
  | add =>
    have hmem : r.num ∈ batch.curReals := not_not.mp hnot
    simp only [realStep, addRealStep, validateHost_of_some haddr, hreal]
    rw [if_pos hmem]
  | del =>
    have hmem : r.num ∉ batch.curReals := hnot
    simp only [realStep, delRealStep, validateHost_of_some haddr, hreal]
    rw [if_neg hmem]

/-- An `ADD` that counts enters the number into the list. -/
theorem addRealStep_counts (haddr : folly.parse real.address = some raddr)
    (hreal : acc.2.tables.reals.lookup raddr = some r) (hcounts : r.num ∉ acc.1.curReals) :
    r.num ∈ (addRealStep folly config acc real).1.curReals ∧
      (addRealStep folly config acc real).2.tables.reals.lookup raddr =
        some { r with refCount := increment32 r.refCount } := by
  obtain ⟨batch, s⟩ := acc
  simp only [addRealStep, validateHost_of_some haddr, hreal]
  rw [if_neg hcounts]
  refine ⟨List.mem_append_right _ (List.mem_singleton_self _), ?_⟩
  rw [increaseRefCountForReal_of_lookup hreal]
  exact Finmap.lookup_insert _

theorem delRealStep_counts (haddr : folly.parse real.address = some raddr)
    (hreal : acc.2.tables.reals.lookup raddr = some r) (hcounts : r.num ∈ acc.1.curReals) :
    (delRealStep folly config acc real).2.tables.reals.lookup raddr =
      if decrement32 r.refCount = 0 then none
      else some { r with refCount := decrement32 r.refCount } := by
  obtain ⟨batch, s⟩ := acc
  simp only [delRealStep, validateHost_of_some haddr, hreal]
  rw [if_pos hcounts]
  exact decreaseRefCountForReal_lookup hreal

/-- An element leaves every other address alone, and no number out of the list. -/
theorem realStep_other (hne : folly.parse real.address ≠ some raddr) :
    (realStep folly config action acc real).2.tables.reals.lookup raddr =
      acc.2.tables.reals.lookup raddr := by
  obtain ⟨batch, s⟩ := acc
  cases haddr : folly.parse real.address with
  | none =>
    cases action with
    | add => simp only [realStep, addRealStep, validateHost_of_none haddr, State.rejected_tables]
    | del => simp only [realStep, delRealStep, validateHost_of_none haddr, State.rejected_tables]
  | some other =>
    have hother : raddr ≠ other := fun heq ↦ hne (heq ▸ haddr)
    cases action with
    | add =>
      simp only [realStep, addRealStep, validateHost_of_some haddr]
      cases s.tables.reals.lookup other with
      | some r' =>
        dsimp only
        split_ifs
        · rfl
        · exact increaseRefCountForReal_lookup_of_ne hother _
      | none =>
        dsimp only
        split_ifs
        · exact increaseRefCountForReal_lookup_of_ne hother _
        · exact increaseRefCountForReal_lookup_of_ne hother _
    | del =>
      simp only [realStep, delRealStep, validateHost_of_some haddr]
      cases s.tables.reals.lookup other with
      | none => rfl
      | some r' =>
        dsimp only
        split_ifs
        · exact decreaseRefCountForReal_lookup_of_ne hother
        · rfl

theorem realStep_curReals {num : ℕ} (hmem : num ∈ acc.1.curReals) :
    num ∈ (realStep folly config action acc real).1.curReals := by
  obtain ⟨batch, s⟩ := acc
  cases action with
  | add =>
    unfold realStep addRealStep
    cases haddr : folly.parse real.address with
    | none => simpa only [validateHost_of_none haddr] using hmem
    | some raddr =>
      simp only [validateHost_of_some haddr]
      cases s.tables.reals.lookup raddr with
      | some rmeta =>
        dsimp only
        split_ifs
        · exact hmem
        · exact List.mem_append_left _ hmem
      | none =>
        dsimp only
        split_ifs
        · exact hmem
        · exact hmem
  | del =>
    unfold realStep delRealStep
    cases haddr : folly.parse real.address with
    | none => simpa only [validateHost_of_none haddr] using hmem
    | some raddr =>
      simp only [validateHost_of_some haddr]
      cases s.tables.reals.lookup raddr with
      | none => exact hmem
      | some rmeta =>
        dsimp only
        split_ifs
        · exact hmem
        · exact hmem

/-- No later element of the batch makes up for the miscount. -/
theorem Miscounted.step (h : Miscounted action raddr r acc) (real : NewReal) :
    Miscounted action raddr r (realStep folly config action acc real) := by
  by_cases haddr : folly.parse real.address = some raddr
  · cases action with
    | add =>
      have hsame : (realStep folly config .add acc real).2.tables.reals = acc.2.tables.reals :=
        realStep_reals_of_not_counts haddr h.2 (not_not.mpr h.1)
      exact ⟨realStep_curReals h.1, by rw [hsame, h.2]⟩
    | del =>
      intro r' hlookup
      cases hreal : acc.2.tables.reals.lookup raddr with
      | none =>
        have hgone : (realStep folly config .del acc real).2.tables.reals.lookup raddr = none := by
          simp only [realStep, delRealStep, validateHost_of_some haddr, hreal]
        rw [hgone] at hlookup
        cases hlookup
      | some low =>
        obtain ⟨hlow, hless⟩ := h low hreal
        by_cases hcounts : low.num ∈ acc.1.curReals
        · have hstep := @delRealStep_counts folly config _ _ _ _ haddr hreal hcounts
          rw [show realStep folly config .del acc real = delRealStep folly config acc real from rfl,
            hstep, decrement32_of_pos (Nat.pos_of_ne_zero hlow)] at hlookup
          split_ifs at hlookup with hzero
          obtain rfl := Option.some.inj hlookup
          refine ⟨hzero, hless.imp_right fun hless ↦ ?_⟩
          exact lt_of_le_of_lt (Nat.sub_le _ _) hless
        · have hsame : (realStep folly config .del acc real).2.tables.reals = acc.2.tables.reals :=
            realStep_reals_of_not_counts haddr hreal hcounts
          rw [hsame] at hlookup
          exact h r' hlookup
  · have hsame : (realStep folly config action acc real).2.tables.reals.lookup raddr =
        acc.2.tables.reals.lookup raddr := realStep_other haddr
    cases action with
    | add => exact ⟨realStep_curReals h.1, hsame.trans h.2⟩
    | del =>
      intro r' hlookup
      rw [hsame] at hlookup
      exact h r' hlookup

end Elements

theorem modifyRealForVip_isSome {action : ModifyAction} {vip : VipKey} {s s' : State}
    {call : NewReal × Unspecified} {w : Vip} (hvip : s.tables.vips.lookup vip = some w) {num : ℕ}
    (hheld : (w.reals.lookup num).isSome = decide (action = .add))
    (h : modifyRealForVip folly config chash action vip s call = some s') :
    ∃ w', s'.tables.vips.lookup vip = some w' ∧
      (w'.reals.lookup num).isSome = decide (action = .add) := by
  obtain ⟨batch, looped, delta, w', hstep, hring, htables⟩ := modifyRealForVip_cases h hvip
  refine ⟨w', by rw [htables]; exact Finmap.lookup_insert _, ?_⟩
  obtain ⟨ring, rfl⟩ := Vip.batchRealsUpdate_frame hring
  have hbatch : batch.OfVip action w := by
    have hstart := Batch.ofVip_getReals action call.2.vipReals w
    have hone := @realStep_ofVip folly config action w (⟨w.getReals call.2.vipReals, []⟩, s)
      hstart call.1
    rw [hstep] at hone
    exact hone
  by_cases hnamed : batch.Named num
  · exact Vip.after_isSome_of_named hbatch.actions hnamed
  · rw [← hheld]
    exact Vip.after_isSome_of_not_named fun ureal hmem heq ↦ hnamed ⟨ureal, hmem, heq⟩

/-- No later call comes back to the entry. -/
theorem Untouched.step {action : ModifyAction} {vip : VipKey} {raddr : IPAddress} {r : RealMeta}
    {s s' : State} (h : Untouched action vip raddr r s) {call : NewReal × Unspecified}
    (hcall : modifyRealForVip folly config chash action vip s call = some s') :
    Untouched action vip raddr r s' := by
  obtain ⟨hreal, w, hvip, hheld⟩ := h
  refine ⟨?_, modifyRealForVip_isSome hvip hheld hcall⟩
  obtain ⟨batch, looped, delta, w', hstep, hring, htables⟩ := modifyRealForVip_cases hcall hvip
  have hlooped : s'.tables.reals = looped.tables.reals := by rw [htables]
  rw [hlooped, ← hreal]
  have hone : (realStep folly config action (⟨w.getReals call.2.vipReals, []⟩, s) call.1).2 =
      looped := congrArg Prod.snd hstep
  rw [← hone]
  by_cases haddr : folly.parse call.1.address = some raddr
  · have hnot : ¬ Batch.Counts action ⟨w.getReals call.2.vipReals, []⟩ r.num := by
      cases action with
      | add => exact not_not.mpr (Vip.mem_getReals.mpr hheld)
      | del =>
        intro hmem
        have hsome := Vip.mem_getReals.mp hmem
        rw [hheld] at hsome
        cases hsome
    rw [realStep_reals_of_not_counts haddr hreal hnot]
  · exact realStep_other haddr

/-- At an element that counts for a number named before, the two ways part. -/
theorem InStep.part {action : ModifyAction} {vip : VipKey} {v : Vip} {acc : Batch × State}
    {s s' : State} (h : InStep chash vip v acc s) (hbatch : acc.1.OfVip action v)
    {call : NewReal × Unspecified} (hcounts : ¬ CountsUnnamed folly action acc call.1)
    (hcall : modifyRealForVip folly config chash action vip s call = some s') :
    ∃ raddr r, Miscounted action raddr r (realStep folly config action acc call.1) ∧
      Untouched action vip raddr r s' := by
  unfold CountsUnnamed at hcounts
  push Not at hcounts
  obtain ⟨raddr, r, haddr, hreal, hcount, hnamed⟩ := hcounts
  refine ⟨raddr, r, ?_, ?_⟩
  · cases action with
    | add => exact addRealStep_counts haddr hreal hcount
    | del =>
      intro r' hlookup
      rw [show realStep folly config .del acc call.1 = delRealStep folly config acc call.1 from rfl,
        delRealStep_counts haddr hreal hcount] at hlookup
      split_ifs at hlookup with hzero
      obtain rfl := Option.some.inj hlookup
      refine ⟨hzero, ?_⟩
      rcases Nat.eq_zero_or_pos r.refCount with hnone | hpos
      · exact .inl hnone
      · right
        dsimp only
        rw [decrement32_of_pos hpos]
        exact Nat.sub_lt hpos Nat.one_pos
  · obtain ⟨w, hvip, hpieces⟩ := h.vip
    refine Untouched.step ⟨by rw [h.reals, hreal], w, hvip, ?_⟩ hcall
    rw [hpieces.reals]
    exact Vip.after_isSome_of_named hbatch.actions hnamed

/-! ## Whole lists -/

section Lists

variable {action : ModifyAction} {vip : VipKey} {v : Vip} {acc : Batch × State}
  {calls : List (NewReal × Unspecified)} {s t : State}

/-- Once the two ways have parted, they do not meet again. -/
theorem Miscounted.reals_ne_at_end {raddr : IPAddress} {r : RealMeta}
    (h : Miscounted action raddr r acc) (h' : Untouched action vip raddr r s)
    (hsingles : calls.foldlM (modifyRealForVip folly config chash action vip) s = some t) :
    t.tables.reals ≠
      ((calls.map Prod.fst).foldl (realStep folly config action) acc).2.tables.reals := by
  have hbatch : Miscounted action raddr r
      ((calls.map Prod.fst).foldl (realStep folly config action) acc) :=
    Runs.foldl_invariant (Miscounted action raddr r) h _ fun _ real h ↦ h.step real
  have huntouched : Untouched action vip raddr r t :=
    Runs.invariant (fun _ _ _ h hcall ↦ h.step hcall) h' hsingles
  exact hbatch.reals_ne huntouched

/-- The two ways end in step, or with different reals. -/
theorem InStep.singles (h : InStep chash vip v acc s) (hbatch : acc.1.OfVip action v)
    (hsingles : calls.foldlM (modifyRealForVip folly config chash action vip) s = some t) :
    (Runs.Along (fun acc real ↦ some (realStep folly config action acc real))
        (CountsUnnamed folly action) acc (calls.map Prod.fst) ∧
      InStep chash vip v
        ((calls.map Prod.fst).foldl (realStep folly config action) acc) t) ∨
    (¬ Runs.Along (fun acc real ↦ some (realStep folly config action acc real))
        (CountsUnnamed folly action) acc (calls.map Prod.fst) ∧
      t.tables.reals ≠
        ((calls.map Prod.fst).foldl (realStep folly config action) acc).2.tables.reals) := by
  induction calls generalizing acc s with
  | nil =>
    obtain rfl : s = t := Option.some.inj hsingles
    exact .inl ⟨trivial, h⟩
  | cons call calls ih =>
    rw [List.foldlM_cons] at hsingles
    obtain ⟨s', hcall, hsingles⟩ := Option.bind_eq_some_iff.mp hsingles
    have halong : Runs.Along (fun acc real ↦ some (realStep folly config action acc real))
          (CountsUnnamed folly action) acc ((call :: calls).map Prod.fst) ↔
        CountsUnnamed folly action acc call.1 ∧
          Runs.Along (fun acc real ↦ some (realStep folly config action acc real))
            (CountsUnnamed folly action) (realStep folly config action acc call.1)
            (calls.map Prod.fst) :=
      and_congr_right fun _ ↦ Runs.forall_eq_some_iff rfl
    rw [halong, List.map_cons, List.foldl_cons]
    by_cases hcounts : CountsUnnamed folly action acc call.1
    · rcases ih (h.step hbatch hcounts hcall) (realStep_ofVip hbatch call.1) hsingles with
        ⟨hrest, hend⟩ | ⟨hrest, hend⟩
      · exact .inl ⟨⟨hcounts, hrest⟩, hend⟩
      · exact .inr ⟨fun h ↦ hrest h.2, hend⟩
    · obtain ⟨raddr, r, hmiscounted, huntouched⟩ := h.part hbatch hcounts hcall
      refine .inr ⟨fun h ↦ hcounts h.1, ?_⟩
      exact hmiscounted.reals_ne_at_end huntouched hsingles

theorem modifyRealForVip_of_lookup_none (hvip : s.tables.vips.lookup vip = none)
    (hsingles : calls.foldlM (modifyRealForVip folly config chash action vip) s = some t) :
    t = s := by
  induction calls with
  | nil => exact (Option.some.inj hsingles).symm
  | cons call calls ih =>
    rw [List.foldlM_cons] at hsingles
    obtain ⟨s', hcall, hrest⟩ := Option.bind_eq_some_iff.mp hsingles
    have hsame : modifyRealForVip folly config chash action vip s call = some s := by
      cases action with
      | add => simp [modifyRealForVip, addRealForVip, modifyRealsForVip, hvip]
      | del => simp [modifyRealForVip, delRealForVip, modifyRealsForVip, hvip]
    obtain rfl := Option.some.inj (hsame.symm.trans hcall)
    exact ih hrest

end Lists

/-- A batch leaves what its elements leave one by one, precisely if no element of it counts for a
number that an earlier one has named. -/
theorem sameOutcome_iff_along {u : Unspecified} {action : ModifyAction} {vip : VipKey}
    {calls : List (NewReal × Unspecified)} {s t : State} {reply : Bool × State}
    (hbatch : modifyRealsForVip folly config chash u action (calls.map Prod.fst) vip s = some reply)
    (hsingles : calls.foldlM (modifyRealForVip folly config chash action vip) s = some t) :
    SameOutcome vip reply.2.tables t.tables ↔
      ∀ v, s.tables.vips.lookup vip = some v →
        Runs.Along (fun acc real ↦ some (realStep folly config action acc real))
          (CountsUnnamed folly action) (⟨v.getReals u.vipReals, []⟩, s) (calls.map Prod.fst) := by
  cases hvip : s.tables.vips.lookup vip with
  | none =>
    obtain rfl := modifyRealForVip_of_lookup_none hvip hsingles
    have hreply : modifyRealsForVip folly config chash u action (calls.map Prod.fst) vip t =
        some (false, t) := by
      simp [modifyRealsForVip, hvip]
    obtain rfl := Option.some.inj (hreply.symm.trans hbatch)
    constructor
    · intro _ v hv
      cases hv
    · exact fun _ ↦ ⟨rfl, rfl, fun v hv ↦ ⟨v, hv, rfl, fun _ _ ↦ rfl⟩⟩
  | some v =>
    rw [Runs.forall_eq_some_iff rfl]
    obtain ⟨batch, looped, delta, w, hloop, hring, rfl⟩ := modifyRealsForVip_of_lookup hvip hbatch
    have hstart : InStep chash vip v (⟨v.getReals u.vipReals, []⟩, s) s :=
      ⟨rfl, rfl, v, hvip, Vip.Pieces.refl v⟩
    have hends := hstart.singles (Batch.ofVip_getReals action u.vipReals v) hsingles
    rw [hloop] at hends
    rcases hends with ⟨halong, hend⟩ | ⟨halong, hparted⟩
    · refine iff_of_true ?_ halong
      obtain ⟨w', hvip', hpieces'⟩ := hend.vip
      have hpieces : v.Pieces chash batch.ureals w := (Vip.Pieces.refl v).step hring
      obtain ⟨hreals, hrings⟩ := hpieces.agree hpieces'
      refine ⟨?_, ?_, fun w₁ hw₁ ↦ ⟨w', hvip', ?_⟩⟩
      · rw [programHashRing_tables]
        exact hend.reals
      · rw [programHashRing_tables]
        exact hend.realNums
      · rw [programHashRing_tables] at hw₁
        obtain rfl : w = w₁ := Option.some.inj ((Finmap.lookup_insert _).symm.trans hw₁)
        exact ⟨hreals, hrings⟩
    · refine iff_of_false (fun h ↦ hparted ?_) halong
      have hreals := h.reals
      rw [programHashRing_tables] at hreals
      exact hreals

/-- The small balancer with one VIP and no reals. -/
def oneVip : State := (addVip .sample .sample ⟨"10.0.0.1", 80, 6⟩ 0 (.sample [])).2

end Vsoshlb
