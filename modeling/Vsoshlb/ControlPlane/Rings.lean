import Vsoshlb.ControlPlane.IdPools
import Vsoshlb.ControlPlane.VipCounts

/-!
# The kernel's copy of the rings

`ch_rings` is one flat array with a block of slots for each number of a VIP. A call sends it the
slots of one ring that have changed, so the copy is right as long as it was right before and the
changes arrive at the right places. Two things are in the way. `programHashRing` does not set the
keys of its batch. And nothing clears the block of a VIP that goes, so the next VIP with its number
starts over the old slots.
-/

namespace Vsoshlb

open HashTable FlatArray

variable {folly : Folly} {config : Config} {chash : HashFunction → ConsistentHash}

/-- What the kernel holds for a slot; zero is the reserved invalid real. -/
def kernelSlot (slot : ℤ) : ℕ := if slot = -1 then 0 else uint32 slot

/-- The block of a number holds the slots of a ring. -/
def BlockMirrors (ringSize : ℕ) (array : ℕ → ℕ) (num : ℕ) (ring : List ℤ) : Prop :=
  ∀ p, p < ringSize →
    ∃ slot, ring[p]? = some slot ∧ array (place ringSize num p) = kernelSlot slot

/-- Every VIP in the table has its ring in the kernel. -/
def RingsMirrored (config : Config) (s : State) : Prop :=
  ∀ vip v, s.tables.vips.lookup vip = some v →
    BlockMirrors config.chRingSize s.maps.chRings v.vipNum v.chRing

/-! ## One ring -/

/-- The changes of a ring, by place in its block. -/
def deltaOf (positions : List RealPos) : List (ℕ × ℕ) :=
  positions.map fun e ↦ (e.pos, e.real)

theorem blockMirrors_diffRings {ringSize num : ℕ} {array : ℕ → ℕ} {old new left : List ℤ}
    {positions : List RealPos} (hmirrors : BlockMirrors ringSize array num old)
    (hold : old.length = ringSize) (hnew : new.length = ringSize)
    (hslots : ∀ slot ∈ new, slot ≠ -1)
    (hdiff : diffRings 0 old new = some (positions, left)) :
    (∀ update ∈ deltaOf positions, update.1 < ringSize) ∧
    BlockMirrors ringSize (setAll array (blockUpdates ringSize num (deltaOf positions))) num
      left := by
  have hlength : new.length = old.length := hnew.trans hold.symm
  obtain ⟨_, hleft⟩ := diffRings_of_length_eq 0 hlength
  obtain ⟨-, rfl⟩ := Prod.mk.inj (Option.some.inj (hdiff.symm.trans hleft))
  have hdelta : ∀ p v, (p, v) ∈ deltaOf positions ↔
      ∃ a b, old[p]? = some a ∧ left[p]? = some b ∧ b ≠ a ∧ v = uint32 b := by
    intro p v
    simp only [deltaOf, List.mem_map, mem_diffRings hlength hdiff, Prod.mk.injEq]
    constructor
    · rintro ⟨e, ⟨q, a, b, ha, hb, hne, rfl⟩, rfl, rfl⟩
      exact ⟨a, b, by simpa using ha, by simpa using hb, hne, rfl⟩
    · rintro ⟨a, b, ha, hb, hne, rfl⟩
      exact ⟨⟨uint32 b, p⟩, ⟨p, a, b, ha, hb, hne, by simp⟩, rfl, rfl⟩
  have hbound : ∀ update ∈ deltaOf positions, update.1 < ringSize := by
    rintro ⟨p, v⟩ hmem
    obtain ⟨a, b, ha, -⟩ := (hdelta p v).mp hmem
    rw [← hold]
    exact (List.getElem?_eq_some_iff.mp ha).1
  have hnodup : ((deltaOf positions).map Prod.fst).Nodup := by
    rw [deltaOf, List.map_map]
    exact (diffRings_sorted hlength hdiff).imp ne_of_lt
  refine ⟨hbound, fun p hp ↦ ?_⟩
  obtain ⟨a, ha, harray⟩ := hmirrors p hp
  have hb : left[p]? = some left[p] := List.getElem?_eq_getElem (hnew.symm ▸ hp)
  refine ⟨left[p], hb, ?_⟩
  by_cases hsame : left[p] = a
  · -- a slot that stays is not written
    have hquiet : p ∉ (deltaOf positions).map Prod.fst := by
      intro hmem
      obtain ⟨⟨q, v⟩, hupdate, rfl⟩ := List.mem_map.mp hmem
      obtain ⟨a', b', ha', hb', hne, -⟩ := (hdelta q v).mp hupdate
      obtain rfl := Option.some.inj (ha.symm.trans ha')
      obtain rfl := Option.some.inj (hb.symm.trans hb')
      exact hne hsame
    rw [setAll_block_of_not_mem hbound hp fun _ ↦ hquiet, harray, hsame]
  · have hwritten := (hdelta p (uint32 left[p])).mpr ⟨a, _, ha, hb, hsame, rfl⟩
    rw [setAll_block_of_mem hbound hnodup hwritten, kernelSlot,
      if_neg (hslots _ (List.getElem_mem _))]

/-- Computing a ring keeps the block of the VIP in step with it. -/
theorem calculateHashRing_mirrors (hkeeps : ∀ func, (chash func).KeepsRing) {v w : Vip}
    {endpoints : List Endpoint} {positions : List RealPos} {array : ℕ → ℕ} {ringSize : ℕ}
    (hring : v.calculateHashRing chash endpoints = some (positions, w))
    (hsize : v.chRingSize = ringSize) (hlength : v.chRing.length = ringSize)
    (hnums : ∀ e ∈ endpoints, e.num < 2 ^ 32 - 1)
    (hmirrors : BlockMirrors ringSize array v.vipNum v.chRing) :
    w.chRing.length = ringSize ∧ (∀ update ∈ deltaOf positions, update.1 < ringSize) ∧
      BlockMirrors ringSize (setAll array (blockUpdates ringSize v.vipNum (deltaOf positions)))
        v.vipNum w.chRing := by
  rcases Vip.calculateHashRing_eq_some hring with
    ⟨-, rfl, rfl⟩ | ⟨hne, ring, left, hgenerate, hdiff, rfl⟩
  · exact ⟨hlength, by simp [deltaOf], hmirrors⟩
  · obtain ⟨hringLength, hfilled⟩ := hkeeps v.chash endpoints _ ring hne hgenerate
    rw [hsize] at hringLength
    have hslots : ∀ slot ∈ ring, slot ≠ -1 := by
      intro slot hslot
      obtain ⟨e, he, rfl⟩ := hfilled slot hslot
      exact int32_ne_neg_one (hnums e he)
    obtain ⟨hbound, hblock⟩ := blockMirrors_diffRings hmirrors hlength hringLength hslots hdiff
    obtain ⟨_, hleft⟩ := diffRings_of_length_eq 0 (hringLength.trans hlength.symm)
    obtain ⟨-, rfl⟩ := Prod.mk.inj (Option.some.inj (hdiff.symm.trans hleft))
    exact ⟨hringLength, hbound, hblock⟩

/-! ## The numbers that VIPs hold -/

theorem IdPools.num_lt {t : Tables} (h : IdPools folly config t)
    (hmax : config.maxReals < 2 ^ 32) {a : IPAddress} {r : RealMeta}
    (ha : t.reals.lookup a = some r) : r.num < 2 ^ 32 - 1 := by
  by_cases hzero : r.num = 0
  · omega
  · have htotal := h.reals r.num hzero
    have hused : 0 < count (fun _ w ↦ RealMeta.num w = r.num) t.reals :=
      (count_pos_iff _).mpr ⟨a, r, ha, rfl⟩
    unfold IdPool.total at htotal
    split_ifs at htotal
    · omega
    · omega

/-- The updates that the loop of `modifyRealsForVip` collects name numbers of the pool. -/
structure LoopNums (folly : Folly) (config : Config) (acc : Batch × State) : Prop where
  pools : IdPools folly config acc.2.tables
  nums : ∀ ureal ∈ acc.1.ureals, ureal.updatedReal.num < 2 ^ 32 - 1

theorem LoopNums.append {batch : Batch} {s s' : State} {ureal : UpdateReal}
    (h : LoopNums folly config (batch, s)) (hpools : IdPools folly config s'.tables)
    (hnum : ureal.updatedReal.num < 2 ^ 32 - 1) (curReals : List ℕ) :
    LoopNums folly config (⟨curReals, batch.ureals ++ [ureal]⟩, s') where
  pools := hpools
  nums ureal' hmem := by
    rcases List.mem_append.mp hmem with hmem | hmem
    · exact h.nums ureal' hmem
    · exact List.mem_singleton.mp hmem ▸ hnum

theorem addRealStep_nums (hmax : config.maxReals < 2 ^ 32) (acc : Batch × State) (real : NewReal)
    (h : LoopNums folly config acc) :
    LoopNums folly config (addRealStep folly config acc real) := by
  have hpools := addRealStep_idPools acc real h.pools
  obtain ⟨batch, s⟩ := acc
  unfold addRealStep at hpools ⊢
  cases haddr : folly.parse real.address with
  | none =>
    simp only [validateHost_of_none haddr] at hpools ⊢
    exact ⟨hpools, h.nums⟩
  | some raddr =>
    simp only [validateHost_of_some haddr] at hpools ⊢
    cases hreal : s.tables.reals.lookup raddr with
    | some rmeta =>
      have hnum := h.pools.num_lt hmax hreal
      simp only [hreal] at hpools ⊢
      split_ifs at hpools ⊢
      · exact h.append hpools hnum _
      · exact h.append hpools hnum _
    | none =>
      have hincreased := @increaseRefCountForReal_num config raddr real.flags s
      simp only [hreal] at hpools ⊢
      split_ifs at hpools ⊢ with hfull
      · exact ⟨hpools, h.nums⟩
      · obtain ⟨r, hr, hnum⟩ := hincreased.resolve_left hfull
        exact h.append hpools (hnum ▸ hpools.num_lt hmax hr) _

theorem delRealStep_nums (hmax : config.maxReals < 2 ^ 32) (acc : Batch × State) (real : NewReal)
    (h : LoopNums folly config acc) :
    LoopNums folly config (delRealStep folly config acc real) := by
  have hpools := delRealStep_idPools acc real h.pools
  obtain ⟨batch, s⟩ := acc
  unfold delRealStep at hpools ⊢
  cases haddr : folly.parse real.address with
  | none =>
    simp only [validateHost_of_none haddr] at hpools ⊢
    exact ⟨hpools, h.nums⟩
  | some raddr =>
    simp only [validateHost_of_some haddr] at hpools ⊢
    cases hreal : s.tables.reals.lookup raddr with
    | none => exact h
    | some rmeta =>
      have hnum := h.pools.num_lt hmax hreal
      simp only [hreal] at hpools ⊢
      split_ifs at hpools ⊢
      · exact h.append hpools hnum _
      · exact h

theorem realsLoop_nums (hmax : config.maxReals < 2 ^ 32) (action : ModifyAction)
    (reals : List NewReal) (curReals : List ℕ) {s : State} (h : IdPools folly config s.tables) :
    LoopNums folly config (realsLoop folly config action reals (⟨curReals, []⟩, s)) := by
  have hstart : LoopNums folly config (⟨curReals, []⟩, s) := ⟨h, by simp⟩
  cases action with
  | add => exact Runs.foldl_invariant (LoopNums folly config) hstart reals (addRealStep_nums hmax)
  | del => exact Runs.foldl_invariant (LoopNums folly config) hstart reals (delRealStep_nums hmax)

/-! ## One call -/

structure RingsKept (config : Config) (s : State) : Prop where
  mirrored : RingsMirrored config s
  size : ∀ vip v, s.tables.vips.lookup vip = some v →
    v.chRingSize = config.chRingSize ∧ v.chRing.length = config.chRingSize
  nums : ∀ vip v num, s.tables.vips.lookup vip = some v → (v.reals.lookup num).isSome →
    num < 2 ^ 32 - 1
  outcomes : s.outcomes = []

/-- The unset keys of a batch happen to be the places of its slots. -/
def KeysSet (config : Config) (u : Unspecified) (positions : List RealPos) (vipNum : ℕ) : Prop :=
  (List.range positions.length).map u.ringKeys =
    positions.map fun e ↦ place config.chRingSize vipNum e.pos

/-- The condition under which a call keeps the copy: `addVip` takes a number whose block is clear,
and a ring is programmed with the right keys. -/
def KeepsRings (folly : Folly) (config : Config) (chash : HashFunction → ConsistentHash)
    (s : State) (call : Call) : Prop :=
  let u := call.unspecified
  match call.op with
  | .addVip vip _ => AcceptsVip folly vip s → ∀ vipNum ∈ s.tables.vipNums.head?,
      ∀ p < config.chRingSize, s.maps.chRings (place config.chRingSize vipNum p) = 0
  | .changeHashFunctionForVip vip func => ∀ v positions w, s.tables.vips.lookup vip = some v →
      (v.setHashFunction func).recalculateHashRing chash u.vipReals = some (positions, w) →
      KeysSet config u positions v.vipNum
  | .modifyRealsForVip action reals vip => ∀ v positions w, s.tables.vips.lookup vip = some v →
      v.batchRealsUpdate chash u.vipReals (realsLoop folly config action reals
        (⟨v.getReals u.vipReals, []⟩, s)).1.ureals = some (positions, w) →
      KeysSet config u positions v.vipNum
  | _ => True

theorem programHashRing_chRings (htesting : config.testing = false) {u : Unspecified}
    {positions : List RealPos} {vipNum : ℕ} {s : State} (hnil : s.outcomes = [])
    (hkeys : KeysSet config u positions vipNum) :
    (programHashRing config u positions vipNum s).maps.chRings =
      setAll s.maps.chRings (blockUpdates config.chRingSize vipNum (deltaOf positions)) := by
  have hzip : (positions.map fun e ↦ place config.chRingSize vipNum e.pos).zip
      (positions.map RealPos.real) =
      blockUpdates config.chRingSize vipNum (deltaOf positions) := by
    rw [List.zip_map', blockUpdates, deltaOf, List.map_map]
    rfl
  unfold programHashRing
  split_ifs with hempty htest
  · rw [List.isEmpty_iff.mp hempty]
    rfl
  · rw [htesting] at htest
    exact absurd htest Bool.false_ne_true
  · unfold KeysSet at hkeys
    dsimp only
    rw [State.bpfCall_of_nil _ _ hnil, hkeys, hzip]

/-- A new ring for a VIP, written to its block. -/
theorem RingsKept.program (hkeeps : ∀ func, (chash func).KeepsRing)
    (htesting : config.testing = false) {s s₁ : State} (h : RingsKept config s)
    (hpools : IdPools folly config s.tables) (v₁ : Vip) {u : Unspecified} {vip : VipKey}
    {v w : Vip} {endpoints : List Endpoint} {positions : List RealPos}
    (hvip : s.tables.vips.lookup vip = some v)
    (hv₁ : v₁.vipNum = v.vipNum ∧ v₁.chRingSize = v.chRingSize ∧ v₁.chRing = v.chRing)
    (hring : v₁.calculateHashRing chash endpoints = some (positions, w))
    (hreals : ∀ num, (v₁.reals.lookup num).isSome → num < 2 ^ 32 - 1)
    (hendpoints : ∀ e ∈ endpoints, (v₁.reals.lookup e.num).isSome)
    (hkeys : KeysSet config u positions v.vipNum)
    (hvips : s₁.tables.vips = s.tables.vips.insert vip w)
    (hmaps : s₁.maps.chRings = s.maps.chRings) (hnil : s₁.outcomes = []) :
    RingsKept config (programHashRing config u positions w.vipNum s₁) := by
  obtain ⟨hnum, hsize₁, hring₁⟩ := hv₁
  obtain ⟨hsize, hlength⟩ := h.size vip v hvip
  obtain ⟨hwlength, hbound, hblock⟩ := calculateHashRing_mirrors hkeeps hring
    (hsize₁.trans hsize) (by rw [hring₁, hlength]) (fun e he ↦ hreals _ (hendpoints e he))
    (by rw [hnum, hring₁]; exact h.mirrored vip v hvip)
  obtain ⟨ring, rfl⟩ := Vip.calculateHashRing_frame hring
  have hwnum : v₁.vipNum = v.vipNum := hnum
  have hprogram : (programHashRing config u positions v₁.vipNum s₁).maps.chRings =
      setAll s.maps.chRings (blockUpdates config.chRingSize v₁.vipNum (deltaOf positions)) := by
    rw [programHashRing_chRings htesting hnil (hwnum.symm ▸ hkeys), hmaps]
  constructor
  · intro vip' v' hvip'
    rw [programHashRing_tables, hvips, lookup_insert_ite] at hvip'
    rw [hprogram]
    split_ifs at hvip' with heq
    · obtain rfl := Option.some.inj hvip'
      exact hblock
    · -- another VIP has another number, so its block is not written
      have hother : v'.vipNum ≠ v₁.vipNum := by
        intro hsame
        have hone : IdPool.total Vip.vipNum s.tables.vipNums s.tables.vips v.vipNum ≤ 1 := by
          rw [hpools.vips v.vipNum]
          split_ifs <;> omega
        exact heq (IdPool.key_unique hone hvip' hvip (hsame.trans hwnum) rfl)
      intro p hp
      obtain ⟨slot, hslot, harray⟩ := h.mirrored vip' v' hvip' p hp
      refine ⟨slot, hslot, ?_⟩
      rw [setAll_block_of_not_mem hbound hp fun hsame ↦ absurd hsame hother, harray]
  · intro vip' v' hvip'
    rw [programHashRing_tables, hvips, lookup_insert_ite] at hvip'
    split_ifs at hvip'
    · obtain rfl := Option.some.inj hvip'
      exact ⟨hsize₁.trans hsize, hwlength⟩
    · exact h.size vip' v' hvip'
  · intro vip' v' num hvip' hheld
    rw [programHashRing_tables, hvips, lookup_insert_ite] at hvip'
    split_ifs at hvip'
    · obtain rfl := Option.some.inj hvip'
      exact hreals num hheld
    · exact h.nums vip' v' num hvip' hheld
  · exact (programHashRing_within u positions v₁.vipNum s₁).outcomes_eq_nil hnil

theorem addVip_ringsKept (htesting : config.testing = false) {s : State}
    (h : RingsKept config s) {vip : VipKey} {flags : BitVec 32}
    (hclear : AcceptsVip folly vip s → ∀ vipNum ∈ s.tables.vipNums.head?,
      ∀ p < config.chRingSize, s.maps.chRings (place config.chRingSize vipNum p) = 0) :
    RingsKept config (addVip folly config vip flags s).2 := by
  rcases @addVip_cases folly config vip flags s with
    ⟨-, s', hcall, hs'⟩ |
    ⟨haccepts, vipNum, vipNums, vipDef, taken, hnums, -, htaken, hcall⟩
  · rw [hcall]
    rcases hs' with rfl | rfl
    · exact h
    · exact ⟨h.mirrored, h.size, h.nums, h.outcomes⟩
  · have hwithin := @addVip_within folly config vip flags s
    have hvips : (addVip folly config vip flags s).2.tables.vips = s.tables.vips.insert vip
        (Vip.new vipNum flags config.chRingSize config.hashFunction) := by
      rw [hcall, htesting, if_neg Bool.false_ne_true, State.bpfCall_tables, htaken]
    have hmaps : (addVip folly config vip flags s).2.maps.chRings = s.maps.chRings :=
      hwithin.same .chRings (by simp)
    refine ⟨fun vip' v' hvip' ↦ ?_, fun vip' v' hvip' ↦ ?_, fun vip' v' num hvip' hheld ↦ ?_,
      hwithin.outcomes_eq_nil h.outcomes⟩
    all_goals
      rw [hvips, lookup_insert_ite] at hvip'
      split_ifs at hvip'
    · obtain rfl := Option.some.inj hvip'
      intro p hp
      refine ⟨-1, by simp [Vip.new, hp], ?_⟩
      rw [hmaps]
      exact (hclear haccepts vipNum (by simp [hnums]) p hp).trans (if_pos rfl).symm
    · rw [hmaps]
      exact h.mirrored vip' v' hvip'
    · obtain rfl := Option.some.inj hvip'
      exact ⟨rfl, List.length_replicate⟩
    · exact h.size vip' v' hvip'
    · obtain rfl := Option.some.inj hvip'
      simp [Vip.new] at hheld
    · exact h.nums vip' v' num hvip' hheld

/-- Calls that leave the rings on both sides alone. -/
theorem RingsKept.of_within {footprint : List Component} {s s' : State} (h : RingsKept config s)
    (hwithin : Within footprint s s') (hvips : .vips ∉ footprint)
    (hchRings : .chRings ∉ footprint) : RingsKept config s' := by
  have hv : s'.tables.vips = s.tables.vips := hwithin.same .vips hvips
  have hc : s'.maps.chRings = s.maps.chRings := hwithin.same .chRings hchRings
  refine ⟨?_, hv.symm ▸ h.size, hv.symm ▸ h.nums, hwithin.outcomes_eq_nil h.outcomes⟩
  unfold RingsMirrored
  rw [hv, hc]
  exact h.mirrored

/-- VIPs go, or change without touching their reals and rings. -/
theorem RingsKept.of_vips {s s' : State} (h : RingsKept config s)
    (hvips : ∀ vip v', s'.tables.vips.lookup vip = some v' → ∃ v,
      s.tables.vips.lookup vip = some v ∧ v'.vipNum = v.vipNum ∧ v'.chRingSize = v.chRingSize ∧
      v'.chRing = v.chRing ∧ v'.reals = v.reals)
    (hmaps : s'.maps.chRings = s.maps.chRings) (hnil : s'.outcomes = []) :
    RingsKept config s' := by
  constructor
  · intro vip v' hvip
    obtain ⟨v, hv, hnum, -, hring, -⟩ := hvips vip v' hvip
    rw [hnum, hring, hmaps]
    exact h.mirrored vip v hv
  · intro vip v' hvip
    obtain ⟨v, hv, -, hsize, hring, -⟩ := hvips vip v' hvip
    rw [hsize, hring]
    exact h.size vip v hv
  · intro vip v' num hvip hheld
    obtain ⟨v, hv, -, -, -, hreals⟩ := hvips vip v' hvip
    rw [hreals] at hheld
    exact h.nums vip v num hv hheld
  · exact hnil

theorem delVip_ringsKept {s : State} (h : RingsKept config s) (u : Unspecified) (vip : VipKey) :
    RingsKept config (delVip folly config u vip s).2 := by
  have hwithin := @delVip_within folly config u vip s
  refine h.of_vips (fun vip' v' hvip' ↦ ⟨v', ?_, rfl, rfl, rfl, rfl⟩)
    (hwithin.same .chRings (by simp)) (hwithin.outcomes_eq_nil h.outcomes)
  have hreleased : ∀ v : Vip,
      (releaseVipReals (v.getReals u.vipReals) s).tables.vips = s.tables.vips :=
    fun v ↦ (releaseVipReals_within (v.getReals u.vipReals) s).same .vips (by simp)
  unfold delVip at hvip'
  cases hvip : s.tables.vips.lookup vip with
  | none => simpa only [hvip] using hvip'
  | some v =>
    simp only [hvip] at hvip'
    split_ifs at hvip'
    · simp only [hreleased, lookup_erase_ite] at hvip'
      split_ifs at hvip'
      exact hvip'
    · unfold updateVipMap at hvip'
      cases hdef : vipKeyToVipDefinition folly vip with
      | none => simpa only [hdef, hreleased] using hvip'
      | some vipDef =>
        simp only [hdef, State.bpfCall_tables, hreleased, lookup_erase_ite] at hvip'
        split_ifs at hvip'
        exact hvip'

theorem modifyVip_ringsKept {s : State} (h : RingsKept config s) (vip : VipKey)
    (flag : BitVec 32) (set : Bool) :
    RingsKept config (modifyVip folly config vip flag set s).2 := by
  have hwithin := @modifyVip_within folly config vip flag set s
  refine h.of_vips (fun vip' v' hvip' ↦ ?_) (hwithin.same .chRings (by simp))
    (hwithin.outcomes_eq_nil h.outcomes)
  cases hvip : s.tables.vips.lookup vip with
  | none =>
    simp only [modifyVip, hvip] at hvip'
    exact ⟨v', hvip', rfl, rfl, rfl, rfl⟩
  | some v =>
    rw [modifyVip_tables hvip, lookup_insert_ite] at hvip'
    by_cases heq : vip' = vip
    · rw [if_pos heq] at hvip'
      obtain rfl := Option.some.inj hvip'
      refine ⟨v, heq ▸ hvip, ?_⟩
      split_ifs <;> exact ⟨rfl, rfl, rfl, rfl⟩
    · rw [if_neg heq] at hvip'
      exact ⟨v', hvip', rfl, rfl, rfl, rfl⟩

theorem changeHashFunctionForVip_ringsKept (hkeeps : ∀ func, (chash func).KeepsRing)
    (htesting : config.testing = false) {s : State} (h : RingsKept config s)
    (hpools : IdPools folly config s.tables) {u : Unspecified} {vip : VipKey}
    {func : HashFunction} {reply : Bool × State}
    (hkeys : ∀ v positions w, s.tables.vips.lookup vip = some v →
      (v.setHashFunction func).recalculateHashRing chash u.vipReals = some (positions, w) →
      KeysSet config u positions v.vipNum)
    (hcall : changeHashFunctionForVip folly config chash u vip func s = some reply) :
    RingsKept config reply.2 := by
  rcases changeHashFunctionForVip_cases hcall with
    (rfl | rfl) | ⟨v, positions, w, hvip, hring, rfl⟩
  · exact h
  · exact ⟨h.mirrored, h.size, h.nums, h.outcomes⟩
  · exact h.program hkeeps htesting hpools (v.setHashFunction func) hvip ⟨rfl, rfl, rfl⟩ hring
      (fun num hheld ↦ h.nums vip v num hvip hheld)
      (fun e he ↦ Option.isSome_of_mem (Vip.mem_getRealsAndWeight.mp he))
      (hkeys v positions w hvip hring) rfl rfl
      h.outcomes

/-- The endpoints that a batch hands to the ring are reals that the VIP holds after it. -/
theorem Vip.mem_getEndpoints {walk : Walk ℕ VipReal} {v : Vip} {ureals : List UpdateReal}
    {e : Endpoint} (he : e ∈ (v.getEndpoints walk ureals).1) :
    ((v.after ureals).reals.lookup e.num).isSome := by
  unfold getEndpoints at he
  dsimp only at he
  split_ifs at he
  · rw [mem_sortEndpoints, mem_weightedEndpoints] at he
    exact Option.isSome_iff_exists.mpr ⟨_, he.1⟩
  · exact absurd he List.not_mem_nil

theorem modifyRealsForVip_ringsKept (hkeeps : ∀ func, (chash func).KeepsRing)
    (htesting : config.testing = false) (hmax : config.maxReals < 2 ^ 32) {s : State}
    (h : RingsKept config s) (hpools : IdPools folly config s.tables) {u : Unspecified}
    {action : ModifyAction} {reals : List NewReal} {vip : VipKey} {reply : Bool × State}
    (hkeys : ∀ v positions w, s.tables.vips.lookup vip = some v →
      v.batchRealsUpdate chash u.vipReals (realsLoop folly config action reals
        (⟨v.getReals u.vipReals, []⟩, s)).1.ureals = some (positions, w) →
      KeysSet config u positions v.vipNum)
    (hcall : modifyRealsForVip folly config chash u action reals vip s = some reply) :
    RingsKept config reply.2 := by
  rcases modifyRealsForVip_cases hcall with
    rfl | ⟨v, batch, looped, positions, w, hvip, hloop, hring, rfl⟩
  · exact h
  · have hwithin := @realsLoop_within folly config action reals (⟨v.getReals u.vipReals, []⟩, s)
    have hlooped := realsLoop_nums hmax action reals (v.getReals u.vipReals) hpools
    have hset := hkeys v positions w hvip (by rw [hloop]; exact hring)
    rw [hloop] at hwithin hlooped
    have hvips : looped.tables.vips = s.tables.vips := hwithin.same .vips (by simp)
    have hnums : ∀ num, ((v.after batch.ureals).reals.lookup num).isSome →
        num < 2 ^ 32 - 1 := by
      intro num hheld
      by_cases hnamed : ∀ ureal ∈ batch.ureals, ureal.updatedReal.num ≠ num
      · rw [Vip.after_isSome_of_not_named hnamed] at hheld
        exact h.nums vip v num hvip hheld
      · simp only [not_forall, not_not] at hnamed
        obtain ⟨ureal, hmem, rfl⟩ := hnamed
        exact hlooped.nums ureal hmem
    have hcalculate : (v.after batch.ureals).calculateHashRing chash
        (v.getEndpoints u.vipReals batch.ureals).1 = some (positions, w) := hring
    exact h.program hkeeps htesting hpools (v.after batch.ureals) hvip ⟨rfl, rfl, rfl⟩
      hcalculate hnums (fun e he ↦ Vip.mem_getEndpoints he) hset (by rw [← hvips])
      (hwithin.same .chRings (by simp)) (hwithin.outcomes_eq_nil h.outcomes)

theorem step_ringsKept (hkeeps : ∀ func, (chash func).KeepsRing)
    (htesting : config.testing = false) (hmax : config.maxReals < 2 ^ 32) {s s' : State}
    {call : Call} (h : RingsKept config s) (hpools : IdPools folly config s.tables)
    (hrings : KeepsRings folly config chash s call)
    (hstep : step folly config chash s call = some s') : RingsKept config s' := by
  have hwithin := step_within hstep
  obtain ⟨op, u⟩ := call
  cases op with
  | addVip vip flags => exact Option.some.inj hstep ▸ addVip_ringsKept htesting h hrings
  | delVip vip => exact Option.some.inj hstep ▸ delVip_ringsKept h u vip
  | modifyVip vip flag set => exact Option.some.inj hstep ▸ modifyVip_ringsKept h vip flag set
  | changeHashFunctionForVip vip func =>
    obtain ⟨reply, hcall, rfl⟩ := Option.map_eq_some_iff.mp hstep
    exact changeHashFunctionForVip_ringsKept hkeeps htesting h hpools hrings hcall
  | modifyRealsForVip action reals vip =>
    obtain ⟨reply, hcall, rfl⟩ := Option.map_eq_some_iff.mp hstep
    exact modifyRealsForVip_ringsKept hkeeps htesting hmax h hpools hrings hcall
  | _ => exact h.of_within hwithin (by simp [Op.footprint]) (by simp [Op.footprint])

/-! ## Every run -/

/-- Where no call of the adapter fails, the array mirrors the rings in every state of a run whose
calls keep it so. -/
theorem run_ringsMirrored (hkeeps : ∀ func, (chash func).KeepsRing)
    (htesting : config.testing = false) (hmax : config.maxReals < 2 ^ 32)
    (mac : List (BitVec 8)) (features : Features) (maps : BpfMaps) (calls : List Call)
    (hrings : Runs.Along (step folly config chash) (KeepsRings folly config chash)
      (State.new config mac features maps []) calls) :
    Runs.Always (step folly config chash) (RingsMirrored config)
      (State.new config mac features maps []) calls := by
  have hnew : RingsKept config (State.new config mac features maps []) :=
    ⟨fun vip v hvip ↦ by simp [State.new] at hvip, by simp [State.new], by simp [State.new], rfl⟩
  have halways := Runs.always_of_along
    (I := fun s : State ↦ RingsKept config s ∧ IdPools folly config s.tables)
    (fun s call s' h hcall hstep ↦
      ⟨step_ringsKept hkeeps htesting hmax h.1 h.2 hcall hstep, step_idPools h.2 hstep⟩)
    ⟨hnew, new_idPools mac features maps []⟩ hrings
  exact halways.mono fun s hs ↦ hs.1.mirrored

/-- A VIP with one real; the keys of the batch are the places of block zero. -/
def ringCalls : List Call :=
  [(Op.addVip ⟨"10.0.0.1", 80, 6⟩ 0).sorted id,
    (Op.modifyRealsForVip .add [⟨"10.0.0.2", 1, 0⟩] ⟨"10.0.0.1", 80, 6⟩).sorted id]

theorem ringCalls_ringsMirrored :
    ∃ s, runSample [] ringCalls = some s ∧ RingsMirrored .sample s ∧
      [s.maps.chRings 0, s.maps.chRings 1] = [1, 1] := by
  have hkeeps : ∀ func : HashFunction, ((fun _ ↦ ConsistentHash.single) func).KeepsRing :=
    fun _ ↦ ConsistentHash.single_fillsRing.keepsRing
  have hrings : Runs.Along (step .sample .sample fun _ ↦ .single)
      (KeepsRings .sample .sample fun _ ↦ .single)
      (State.new .sample [] ⟨true, true, true⟩ .empty []) ringCalls := by
    refine ⟨fun _ _ _ _ _ ↦ rfl, fun s₁ h₁ ↦ ⟨fun v positions w hvip hring ↦ ?_,
      fun _ _ ↦ trivial⟩⟩
    have hplaces : (runSample [] (ringCalls.take 1)).map (fun s ↦
        (s.tables.vips.lookup ⟨"10.0.0.1", 80, 6⟩).map fun v ↦
          (v.vipNum, (v.batchRealsUpdate (fun _ ↦ .single) (Unspecified.sorted id).vipReals
            (realsLoop .sample .sample .add [⟨"10.0.0.2", 1, 0⟩]
              (⟨v.getReals (Unspecified.sorted id).vipReals, []⟩, s)).1.ureals).map
            fun reply ↦ reply.1.map RealPos.pos)) = some (some (0, some [0, 1])) := by
      decide +kernel
    have hrun : runSample [] (ringCalls.take 1) = some s₁ :=
      Option.bind_eq_some_iff.mpr ⟨s₁, h₁, rfl⟩
    dsimp only [Op.sorted] at hvip hring
    rw [hrun, Option.map_some, hvip, Option.map_some, hring] at hplaces
    simp only [Option.map_some, Option.some.injEq, Prod.mk.injEq] at hplaces
    obtain ⟨hnum, hpos⟩ := hplaces
    have hlength : positions.length = 2 := by simpa using congrArg List.length hpos
    have hshift : positions.map (fun e ↦ place Config.sample.chRingSize v.vipNum e.pos) =
        (positions.map RealPos.pos).map (place Config.sample.chRingSize 0) := by
      rw [List.map_map, hnum]
      rfl
    unfold KeysSet
    rw [hshift, hpos, hlength]
    rfl
  have hslots : (runSample [] ringCalls).map (fun s ↦ [s.maps.chRings 0, s.maps.chRings 1]) =
      some [1, 1] := by decide +kernel
  obtain ⟨s, hrun, hmaps⟩ := Option.map_eq_some_iff.mp hslots
  exact ⟨s, hrun, run_ringsMirrored hkeeps rfl (by decide) [] ⟨true, true, true⟩ .empty ringCalls
    hrings ringCalls s (List.prefix_refl _) hrun, hmaps⟩

/-- The VIP goes, and its number goes round to another one without reals. -/
def reuseCalls : List Call :=
  ringCalls ++
    [(Op.delVip ⟨"10.0.0.1", 80, 6⟩).sorted id, (Op.addVip ⟨"fc00::1", 80, 6⟩ 0).sorted id,
      (Op.addVip ⟨"10.0.0.1", 81, 6⟩ 0).sorted id]

/-- The same VIP with other contents in the unset keys. -/
def strayCalls : List Call :=
  [(Op.addVip ⟨"10.0.0.1", 80, 6⟩ 0).sorted id,
    (Op.modifyRealsForVip .add [⟨"10.0.0.2", 1, 0⟩] ⟨"10.0.0.1", 80, 6⟩).sorted fun _ ↦ 5]

/-- The slot in which ring and array differ, for the VIP under a key. -/
theorem not_ringsMirrored {s : State} {vip : VipKey} {slot : ℤ} {num held : ℕ}
    (hstate : ((s.tables.vips.lookup vip).map fun v ↦ (v.vipNum, v.chRing[0]?),
      s.maps.chRings (place Config.sample.chRingSize num 0)) = (some (num, some slot), held))
    (hne : held ≠ kernelSlot slot) : ¬ RingsMirrored .sample s := by
  obtain ⟨hvip, hheld⟩ := Prod.mk.inj hstate
  obtain ⟨v, hv, heq⟩ := Option.map_eq_some_iff.mp hvip
  obtain ⟨rfl, hslot⟩ := Prod.mk.inj heq
  intro hmirrored
  obtain ⟨slot', hslot', harray⟩ := hmirrored vip v hv 0 (by decide)
  obtain rfl := Option.some.inj (hslot.symm.trans hslot')
  exact hne (hheld.symm.trans harray)

/-- A number that is used again brings the slots of its last VIP along, even when every key is
right; and the first ring goes astray when the keys are not. -/
theorem rings_drift_apart :
    (∃ s, runSample [] reuseCalls = some s ∧ ¬ RingsMirrored .sample s) ∧
    ∃ s, runSample [] strayCalls = some s ∧ ¬ RingsMirrored .sample s := by
  have hreuse : (runSample [] reuseCalls).map (fun s ↦
      ((s.tables.vips.lookup ⟨"10.0.0.1", 81, 6⟩).map fun v ↦ (v.vipNum, v.chRing[0]?),
        s.maps.chRings (place Config.sample.chRingSize 0 0))) =
      some (some (0, some (-1)), 1) := by decide +kernel
  have hstray : (runSample [] strayCalls).map (fun s ↦
      ((s.tables.vips.lookup ⟨"10.0.0.1", 80, 6⟩).map fun v ↦ (v.vipNum, v.chRing[0]?),
        s.maps.chRings (place Config.sample.chRingSize 0 0))) =
      some (some (0, some 1), 0) := by decide +kernel
  obtain ⟨s, hrun, hstate⟩ := Option.map_eq_some_iff.mp hreuse
  obtain ⟨s', hrun', hstate'⟩ := Option.map_eq_some_iff.mp hstray
  exact ⟨⟨s, hrun, not_ringsMirrored hstate (by decide +kernel)⟩,
    ⟨s', hrun', not_ringsMirrored hstate' (by decide +kernel)⟩⟩

end Vsoshlb
