import Vsoshlb.ControlPlane.RefCounts

/-!
# The kernel's map of server ids

An `ADD` of QUIC mappings collects the numbers of the reals and writes them to `server_id_map` at
the end of the call. A `DEL` takes the mapping out of `quicMapping_` and leaves the kernel's entry
where it is. As long as no `DEL` takes a mapping out, the map agrees with the mapping: the number
written for an id stays the number of its real, because the id keeps the real alive.
-/

namespace Vsoshlb

open HashTable RefCount

variable {folly : Folly} {config : Config} {chash : HashFunction → ConsistentHash}

/-- Every mapped id has the number of its real in the map, and every other id has zero. -/
structure ServerIdsAgree (s : State) : Prop where
  mapped : ∀ id a, s.tables.quicMapping.lookup id = some a →
    ∃ r, s.tables.reals.lookup a = some r ∧ s.maps.serverIdMap id = r.num
  unmapped : ∀ id, s.tables.quicMapping.lookup id = none → s.maps.serverIdMap id = 0

/-- An element of a `DEL` that takes no mapping out. -/
def QuicKeeps (folly : Folly) (config : Config) (s : State) (real : QuicReal) : Prop :=
  ∀ raddr, folly.parse real.address = some raddr →
    ¬ (config.enableCidV3 = false ∧ real.id > kMaxQuicIdV2) →
    s.tables.quicMapping.lookup real.id ≠ some raddr

/-- The condition under which a call keeps the map in agreement. The calls that rewrite the map by
themselves are left out. -/
def KeepsServerIds (folly : Folly) (config : Config) (s : State) (call : Call) : Prop :=
  CountsOnce folly config false s call ∧
  match call.op with
  | .modifyQuicRealsMapping .del reals =>
    Runs.Along (fun s real ↦ some (delQuicStep folly config s real)) (QuicKeeps folly config) s
      reals
  | .invalidateServerIds _ | .revalidateServerIds _ => False
  | _ => True

/-! ## The writes of a batch -/

theorem updateServerIdMap_of_nil {s : State} (hnil : s.outcomes = []) (mapping : ℕ × ℕ) :
    updateServerIdMap s mapping = { s with
      maps.serverIdMap := Function.update s.maps.serverIdMap mapping.1 mapping.2 } := by
  rw [updateServerIdMap, State.bpfCall_of_nil _ _ hnil]

theorem foldl_updateServerIdMap {mappings : List (ℕ × ℕ)} {s : State} (hnil : s.outcomes = []) :
    mappings.foldl updateServerIdMap s = { s with
      maps.serverIdMap := FlatArray.setAll s.maps.serverIdMap mappings } := by
  induction mappings generalizing s with
  | nil => rfl
  | cons mapping mappings ih =>
    rw [List.foldl_cons, updateServerIdMap_of_nil hnil]
    exact ih hnil

/-- Written in any order, the batch leaves the numbers it has collected. -/
theorem setAll_order (walk : Walk ℕ ℕ) (toUpdate : Finmap fun _ : ℕ ↦ ℕ) (serverIdMap : ℕ → ℕ) :
    FlatArray.setAll serverIdMap (walk.order toUpdate) = assign toUpdate serverIdMap := by
  funext id
  unfold assign
  cases hid : toUpdate.lookup id with
  | some rnum =>
    exact FlatArray.setAll_of_mem (walk.nodup_keys toUpdate) ((walk.mem_order toUpdate).mpr hid)
  | none =>
    refine FlatArray.setAll_of_not_mem fun hmem ↦ ?_
    obtain ⟨⟨id', rnum⟩, hpair, rfl⟩ := List.mem_map.mp hmem
    rw [(walk.mem_order toUpdate).mp hpair] at hid
    exact Option.some_ne_none rnum hid

/-- An id is unmapped only if it was unmapped before and the batch has no number for it. -/
theorem addQuicStep_unmapped {acc : (Finmap fun _ : ℕ ↦ ℕ) × State} {real : QuicReal} {id : ℕ}
    (h : (addQuicStep folly config acc real).2.tables.quicMapping.lookup id = none) :
    acc.2.tables.quicMapping.lookup id = none ∧
      (addQuicStep folly config acc real).1.lookup id = acc.1.lookup id := by
  obtain ⟨toUpdate, s⟩ := acc
  have hmap : ∀ {raddr : IPAddress} {s' : State},
      s'.tables.quicMapping = s.tables.quicMapping →
      (mapQuicReal config raddr real.id toUpdate s').2.tables.quicMapping.lookup id = none →
      s.tables.quicMapping.lookup id = none ∧
        (mapQuicReal config raddr real.id toUpdate s').1.lookup id = toUpdate.lookup id := by
    intro raddr s' hs' hnone
    have hquic := (@increaseRefCountForReal_within config raddr 0 s').same .quicMapping (by simp)
    have hsame : (increaseRefCountForReal config raddr 0 s').2.tables.quicMapping =
        s.tables.quicMapping := hquic.trans hs'
    unfold mapQuicReal at hnone ⊢
    dsimp only at hnone ⊢
    split_ifs at hnone ⊢
    · exact ⟨hsame ▸ hnone, rfl⟩
    · rw [lookup_insert_ite] at hnone
      split_ifs at hnone with heq
      exact ⟨hsame ▸ hnone, Finmap.lookup_insert_of_ne _ heq⟩
  unfold addQuicStep at h ⊢
  cases haddr : folly.parse real.address with
  | none =>
    simp only [validateHost_of_none haddr] at h ⊢
    exact ⟨h, trivial⟩
  | some raddr =>
    simp only [validateHost_of_some haddr] at h ⊢
    split_ifs at h ⊢
    · exact ⟨h, rfl⟩
    · cases hid : s.tables.quicMapping.lookup real.id with
      | none =>
        simp only [hid] at h ⊢
        exact hmap rfl h
      | some current =>
        simp only [hid] at h ⊢
        split_ifs at h ⊢
        · exact ⟨h, rfl⟩
        · exact hmap ((decreaseRefCountForReal_within current s).same .quicMapping (by simp)) h

theorem addQuicLoop_unmapped {reals : List QuicReal} {acc : (Finmap fun _ : ℕ ↦ ℕ) × State}
    {id : ℕ}
    (h : (reals.foldl (addQuicStep folly config) acc).2.tables.quicMapping.lookup id = none) :
    acc.2.tables.quicMapping.lookup id = none ∧
      (reals.foldl (addQuicStep folly config) acc).1.lookup id = acc.1.lookup id := by
  induction reals generalizing acc with
  | nil => exact ⟨h, rfl⟩
  | cons real reals ih =>
    rw [List.foldl_cons] at h ⊢
    obtain ⟨hstep, hrest⟩ := ih h
    obtain ⟨hstart, hfirst⟩ := addQuicStep_unmapped hstep
    exact ⟨hstart, hrest.trans hfirst⟩

/-! ## One call -/

/-- The numbers in the map are those that the ids have been given, and zero elsewhere. -/
structure IdsWritten (config : Config) (s : State) : Prop where
  balanced : Balanced false config s.maps.serverIdMap s.tables
  unmapped : ∀ id, s.tables.quicMapping.lookup id = none → s.maps.serverIdMap id = 0
  outcomes : s.outcomes = []

theorem IdsWritten.serverIdsAgree {s : State} (h : IdsWritten config s) : ServerIdsAgree s where
  mapped id a hid := by
    obtain ⟨-, hname⟩ := h.balanced.kept (s.maps.serverIdMap id) a ⟨id, hid, rfl⟩
    obtain ⟨r, hreal, hnum⟩ := (h.balanced.names _ a).mp hname
    exact ⟨r, hreal, hnum.symm⟩
  unmapped := h.unmapped

/-- An element that takes no mapping out changes no table. -/
theorem delQuicStep_of_keeps {s : State} {real : QuicReal} (h : QuicKeeps folly config s real) :
    delQuicStep folly config s real = s ∨ delQuicStep folly config s real = s.rejected := by
  unfold delQuicStep
  cases haddr : folly.parse real.address with
  | none => exact .inr (by simp only [validateHost_of_none haddr])
  | some raddr =>
    refine .inl ?_
    simp only [validateHost_of_some haddr]
    split_ifs with hrange
    · rfl
    · cases hid : s.tables.quicMapping.lookup real.id with
      | none => rfl
      | some current =>
        have hne : current ≠ raddr := fun heq ↦ h raddr haddr hrange (heq ▸ hid)
        exact if_pos hne

theorem delQuicLoop_written {reals : List QuicReal} {s : State} (h : IdsWritten config s)
    (hkeeps : Runs.Along (fun s real ↦ some (delQuicStep folly config s real))
      (QuicKeeps folly config) s reals) :
    IdsWritten config (reals.foldl (delQuicStep folly config) s) := by
  refine Runs.invariant_of_along (I := IdsWritten config) (fun s real s' hs hreal hstep ↦ ?_) h
    hkeeps List.foldlM_pure
  obtain rfl := Option.some.inj hstep
  rcases delQuicStep_of_keeps hreal with hsame | hsame
  · exact hsame.symm ▸ hs
  · exact hsame.symm ▸ ⟨hs.balanced, hs.unmapped, hs.outcomes⟩

theorem addQuicReals_written (htesting : config.testing = false) {u : Unspecified}
    {reals : List QuicReal} {s : State} (h : IdsWritten config s)
    (hcounts : QuicBatchCounts folly config reals s) :
    IdsWritten config (modifyQuicRealsMapping folly config u .add reals s) := by
  have hbalanced := addQuicReals_balanced (u := u) h.balanced hcounts
  have hwithin := Within.foldl_snd (@addQuicStep_within folly config) reals (∅, s)
  have hunmapped : ∀ id, (reals.foldl (addQuicStep folly config)
      (∅, s)).2.tables.quicMapping.lookup id = none → _ :=
    fun id hid ↦ @addQuicLoop_unmapped folly config reals (∅, s) id hid
  unfold modifyQuicRealsMapping at hbalanced ⊢
  generalize reals.foldl (addQuicStep folly config) (∅, s) = looped
    at hbalanced hwithin hunmapped ⊢
  obtain ⟨toUpdate, s'⟩ := looped
  have hids : s'.maps.serverIdMap = s.maps.serverIdMap := hwithin.same .serverIdMap (by simp)
  simp only [htesting, Bool.false_eq_true, if_false,
    foldl_updateServerIdMap (hwithin.outcomes_eq_nil h.outcomes), setAll_order, hids]
    at hbalanced ⊢
  refine ⟨hbalanced, fun id hid ↦ ?_, hwithin.outcomes_eq_nil h.outcomes⟩
  obtain ⟨hstart, hnew⟩ := hunmapped id hid
  dsimp only at hstart hnew
  simp only [assign, hnew, Finmap.lookup_empty, Option.getD_none]
  exact h.unmapped id hstart

theorem step_written (htesting : config.testing = false) {s s' : State} {call : Call}
    (h : IdsWritten config s)
    (hparses : ∀ vip v, s.tables.vips.lookup vip = some v → (folly.parse vip.address).isSome)
    (hkeeps : KeepsServerIds folly config s call)
    (hstep : step folly config chash s call = some s') : IdsWritten config s' := by
  obtain ⟨hcounts, hids⟩ := hkeeps
  have hwithin := step_within hstep
  have hbalanced := step_balanced h.balanced hparses hcounts hstep
  have hnil := hwithin.outcomes_eq_nil h.outcomes
  have hframe : .serverIdMap ∉ call.op.footprint → .quicMapping ∉ call.op.footprint →
      assignedIds folly config s call s.maps.serverIdMap = s.maps.serverIdMap →
      IdsWritten config s' := by
    intro hmap hquic hassigned
    have hm : s'.maps.serverIdMap = s.maps.serverIdMap := hwithin.same .serverIdMap hmap
    have hq : s'.tables.quicMapping = s.tables.quicMapping := hwithin.same .quicMapping hquic
    rw [hassigned] at hbalanced
    refine ⟨hm.symm ▸ hbalanced, fun id hid ↦ ?_, hnil⟩
    rw [hm]
    exact h.unmapped id (hq ▸ hid)
  obtain ⟨op, u⟩ := call
  cases op with
  | modifyQuicRealsMapping action reals =>
    rw [← Option.some.inj hstep]
    cases action with
    | add => exact addQuicReals_written htesting h hcounts
    | del => exact delQuicLoop_written h hids
  | invalidateServerIds serverIds => exact hids.elim
  | revalidateServerIds quicReals => exact hids.elim
  | _ => exact hframe (by simp [Op.footprint]) (by simp [Op.footprint]) rfl

/-! ## Every run -/

/-- Where no call of the adapter fails and the map starts with zeros, it agrees with the mapping in
every state of a run whose calls all keep it so. -/
theorem run_serverIdsAgree (htesting : config.testing = false) (mac : List (BitVec 8))
    (features : Features) (maps : BpfMaps) (hmaps : maps.serverIdMap = fun _ ↦ 0)
    (calls : List Call)
    (hkeeps : Runs.Along (step folly config chash) (KeepsServerIds folly config)
      (State.new config mac features maps []) calls) :
    Runs.Always (step folly config chash) ServerIdsAgree
      (State.new config mac features maps []) calls := by
  have hnew : IdsWritten config (State.new config mac features maps []) :=
    ⟨new_balanced _ mac features maps [], fun id _ ↦ congrFun hmaps id, rfl⟩
  have halways := Runs.always_of_along
    (I := fun s : State ↦ IdsWritten config s ∧ IdPools folly config s.tables)
    (fun s call s' ⟨h, hpools⟩ hcall hstep ↦
      ⟨step_written htesting h hpools.parses hcall hstep, step_idPools hpools hstep⟩)
    ⟨hnew, new_idPools mac features maps []⟩ hkeeps
  exact halways.mono fun s hs ↦ hs.1.serverIdsAgree

theorem sharedCalls_serverIdsAgree :
    ∃ s, runSample [] sharedCalls = some s ∧ ServerIdsAgree s ∧ s.maps.serverIdMap 7 = 1 := by
  have hcounts := sharedCalls_countsOnce false
  have hkeeps : Runs.Along (step .sample .sample fun _ ↦ .single) (KeepsServerIds .sample .sample)
      (State.new .sample [] ⟨true, true, true⟩ .empty []) sharedCalls :=
    ⟨⟨hcounts.1, trivial⟩, fun s₁ h₁ ↦ ⟨⟨(hcounts.2 s₁ h₁).1, trivial⟩, fun s₂ h₂ ↦
      ⟨⟨((hcounts.2 s₁ h₁).2 s₂ h₂).1, trivial⟩, fun _ _ ↦ trivial⟩⟩⟩
  have hid : (runSample [] sharedCalls).map (fun s ↦ s.maps.serverIdMap 7) = some 1 := by
    decide +kernel
  obtain ⟨s, hrun, hone⟩ := Option.map_eq_some_iff.mp hid
  exact ⟨s, hrun, run_serverIdsAgree rfl [] ⟨true, true, true⟩ .empty rfl sharedCalls hkeeps
    sharedCalls s (List.prefix_refl _) hrun, hone⟩

/-- A mapping that comes and goes. -/
def unmappedCalls : List Call :=
  [(Op.modifyQuicRealsMapping .add [⟨"10.0.0.2", 7⟩]).sorted id,
    (Op.modifyQuicRealsMapping .del [⟨"10.0.0.2", 7⟩]).sorted id]

/-- The kernel keeps the number of the real, which is free again. -/
theorem unmapped_id_keeps_number :
    ∃ s, runSample [] unmappedCalls = some s ∧ s.tables.quicMapping.lookup 7 = none ∧
      s.maps.serverIdMap 7 = 1 ∧ s.tables.realNums = [2, 1] ∧ ¬ ServerIdsAgree s := by
  have hstale : (runSample [] unmappedCalls).map (fun s ↦
      (s.tables.quicMapping.lookup 7, s.maps.serverIdMap 7, s.tables.realNums)) =
      some (none, 1, [2, 1]) := by decide +kernel
  obtain ⟨s, hrun, hstate⟩ := Option.map_eq_some_iff.mp hstale
  simp only [Prod.mk.injEq] at hstate
  obtain ⟨hid, hmap, hfree⟩ := hstate
  refine ⟨s, hrun, hid, hmap, hfree, fun hagree ↦ ?_⟩
  have hzero := hagree.unmapped 7 hid
  omega

end Vsoshlb
