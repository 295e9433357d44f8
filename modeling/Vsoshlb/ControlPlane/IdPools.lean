import Vsoshlb.Library.IdPool
import Vsoshlb.ControlPlane.Footprint

/-!
# The three pools of numbers

Reals, VIPs and healthcheck keys draw their numbers from queues and give them back. Whatever the
calls, their order, the outcomes of the map calls and the reference counts, every number occurs
exactly once in its queue and its table together. Number zero is not a real: a lookup of an address
without a name can leave such an entry behind.
-/

namespace Vsoshlb

open HashTable

structure IdPools (folly : Folly) (config : Config) (t : Tables) : Prop where
  reals : ∀ n, n ≠ 0 →
    IdPool.total RealMeta.num t.realNums t.reals n = if n < config.maxReals then 1 else 0
  vips : ∀ n, IdPool.total Vip.vipNum t.vipNums t.vips n = if n < config.maxVips then 1 else 0
  hcKeys : ∀ n, IdPool.total id t.hcKeyNums t.hckeys n =
    if config.enableHc ∧ n < config.maxVips then 1 else 0
  /-- A VIP in the table has an address that parses, so deleting it does not stop half-way. -/
  parses : ∀ vip v, t.vips.lookup vip = some v → (folly.parse vip.address).isSome

variable {folly : Folly} {config : Config} {chash : HashFunction → ConsistentHash}

theorem new_idPools (mac : List (BitVec 8)) (features : Features) (maps : BpfMaps)
    (outcomes : List Bool) :
    IdPools folly config (State.new config mac features maps outcomes).tables where
  reals n hn := by
    rw [State.new, IdPool.total_empty, List.count_range_1']
    exact if_congr (by omega) rfl rfl
  vips n := by
    rw [State.new, IdPool.total_empty, List.count_range]
  hcKeys n := by
    rw [State.new, IdPool.total_empty]
    cases config.enableHc
    · simp
    · simp [List.count_range]
  parses := by simp [State.new]

/-- Calls that leave the queues and their tables alone. -/
theorem IdPools.of_within {footprint : List Component} {s s' : State}
    (h : IdPools folly config s.tables) (hwithin : Within footprint s s')
    (hreals : .reals ∉ footprint) (hvips : .vips ∉ footprint) (hvipNums : .vipNums ∉ footprint)
    (hhckeys : .hckeys ∉ footprint) : IdPools folly config s'.tables := by
  obtain ⟨hr, hrn⟩ := hwithin.same .reals hreals
  obtain ⟨hk, hkn⟩ := hwithin.same .hckeys hhckeys
  have hv : s'.tables.vips = s.tables.vips := hwithin.same .vips hvips
  have hvn : s'.tables.vipNums = s.tables.vipNums := hwithin.same .vipNums hvipNums
  constructor
  · rw [hr, hrn]
    exact h.reals
  · rw [hv, hvn]
    exact h.vips
  · rw [hk, hkn]
    exact h.hcKeys
  · rw [hv]
    exact h.parses

/-! ## Reals -/

/-- Replacing the entry of a real by one with the same number. -/
theorem IdPools.updateReal {t : Tables} (h : IdPools folly config t) {real : IPAddress}
    {r w : RealMeta} (hreal : t.reals.lookup real = some r) (hnum : w.num = r.num) :
    IdPools folly config { t with reals := t.reals.insert real w } where
  reals n hn := (IdPool.total_update RealMeta.num hreal hnum n).trans (h.reals n hn)
  vips := h.vips
  hcKeys := h.hcKeys
  parses := h.parses

theorem decreaseRefCountForReal_idPools (real : IPAddress) {s : State}
    (h : IdPools folly config s.tables) :
    IdPools folly config (decreaseRefCountForReal real s).tables := by
  unfold decreaseRefCountForReal
  cases hreal : s.tables.reals.lookup real with
  | none => exact h
  | some rmeta =>
    dsimp only
    split_ifs
    · exact ⟨fun n hn ↦ (IdPool.total_give RealMeta.num hreal n).trans (h.reals n hn), h.vips,
        h.hcKeys, h.parses⟩
    · exact h.updateReal hreal rfl

/-- The number that is given out is `maxReals`, or the one that the address then has. -/
theorem increaseRefCountForReal_num (real : IPAddress) (flags : BitVec 8) (s : State) :
    (increaseRefCountForReal config real flags s).1 = config.maxReals ∨
    ∃ r, (increaseRefCountForReal config real flags s).2.tables.reals.lookup real = some r ∧
      r.num = (increaseRefCountForReal config real flags s).1 := by
  cases hreal : s.tables.reals.lookup real with
  | some r =>
    rw [increaseRefCountForReal_of_lookup hreal]
    exact .inr ⟨_, Finmap.lookup_insert s.tables.reals, rfl⟩
  | none =>
    cases hnums : s.tables.realNums with
    | nil =>
      rw [increaseRefCountForReal_of_nil hreal hnums]
      exact .inl rfl
    | cons rnum realNums =>
      obtain ⟨hnum, htables⟩ := @increaseRefCountForReal_of_cons config real s rnum realNums
        hreal hnums flags
      rw [hnum, htables]
      exact .inr ⟨⟨rnum, 1, flags &&& ~~~V6DADDR⟩, Finmap.lookup_insert s.tables.reals, rfl⟩

theorem increaseRefCountForReal_idPools (real : IPAddress) (flags : BitVec 8) {s : State}
    (h : IdPools folly config s.tables) :
    IdPools folly config (increaseRefCountForReal config real flags s).2.tables := by
  cases hreal : s.tables.reals.lookup real with
  | some r =>
    rw [increaseRefCountForReal_of_lookup hreal]
    exact h.updateReal hreal rfl
  | none =>
    cases hnums : s.tables.realNums with
    | nil =>
      rw [increaseRefCountForReal_of_nil hreal hnums]
      exact h
    | cons rnum realNums =>
      rw [(increaseRefCountForReal_of_cons hreal hnums flags).2]
      refine ⟨fun n hn ↦ ?_, h.vips, h.hcKeys, h.parses⟩
      rw [IdPool.total_take RealMeta.num hreal, ← h.reals n hn, hnums]

theorem numToRealsAt_idPools (num : ℕ) {s : State} (h : IdPools folly config s.tables) :
    IdPools folly config (numToRealsAt num s).2.tables := by
  unfold numToRealsAt
  split
  · exact h
  · exact ⟨h.reals, h.vips, h.hcKeys, h.parses⟩

/-! ## VIPs -/

/-- Replacing a VIP by one with the same number. -/
theorem IdPools.updateVip {t : Tables} (h : IdPools folly config t) {vip : VipKey} {v w : Vip}
    (hvip : t.vips.lookup vip = some v) (hnum : w.vipNum = v.vipNum) :
    IdPools folly config { t with vips := t.vips.insert vip w } where
  reals := h.reals
  vips n := (IdPool.total_update Vip.vipNum hvip hnum n).trans (h.vips n)
  hcKeys := h.hcKeys
  parses vip' v' hlookup := by
    rw [lookup_insert_ite] at hlookup
    split_ifs at hlookup with heq
    · exact heq ▸ h.parses vip v hvip
    · exact h.parses vip' v' hlookup

theorem addVip_idPools (vip : VipKey) (flags : BitVec 32) {s : State}
    (h : IdPools folly config s.tables) :
    IdPools folly config (addVip folly config vip flags s).2.tables := by
  rcases @addVip_tables_cases folly config vip flags s with
    hsame | ⟨haccepts, vipNum, vipNums, hnums, htables⟩
  · rwa [hsame]
  · rw [htables]
    refine ⟨h.reals, fun n ↦ ?_, h.hcKeys, fun vip' v' hlookup ↦ ?_⟩
    · rw [IdPool.total_take Vip.vipNum haccepts.new, ← h.vips n, hnums]
      rfl
    · rw [lookup_insert_ite] at hlookup
      split_ifs at hlookup with heq
      · exact heq ▸ haccepts.address
      · exact h.parses vip' v' hlookup

theorem releaseVipReals_idPools (nums : List ℕ) {s : State} (h : IdPools folly config s.tables) :
    IdPools folly config (releaseVipReals nums s).tables := by
  induction nums generalizing s with
  | nil => exact h
  | cons num nums ih =>
    exact ih (decreaseRefCountForReal_idPools _ (numToRealsAt_idPools num h))

theorem delVip_idPools (u : Unspecified) (vip : VipKey) {s : State}
    (h : IdPools folly config s.tables) :
    IdPools folly config (delVip folly config u vip s).2.tables := by
  unfold delVip
  cases hvip : s.tables.vips.lookup vip with
  | none => exact h
  | some v =>
    have hreleased := releaseVipReals_idPools (v.getReals u.vipReals) h
    have hvip' : (releaseVipReals (v.getReals u.vipReals) s).tables.vips.lookup vip = some v := by
      have hvips := (releaseVipReals_within (v.getReals u.vipReals) s).same .vips (by simp)
      exact (congrArg (Finmap.lookup vip) hvips).trans hvip
    dsimp only
    generalize releaseVipReals (v.getReals u.vipReals) s = released at hreleased hvip' ⊢
    have hgive : IdPools folly config { released.tables with
        vipNums := released.tables.vipNums ++ [v.vipNum]
        vips := released.tables.vips.erase vip } := by
      refine ⟨hreleased.reals, fun n ↦ ?_, hreleased.hcKeys, fun vip' v' hlookup ↦ ?_⟩
      · exact (IdPool.total_give Vip.vipNum hvip' n).trans (hreleased.vips n)
      · rw [lookup_erase_ite] at hlookup
        split_ifs at hlookup
        exact hreleased.parses vip' v' hlookup
    have hparses : (vipKeyToVipDefinition folly vip).isSome :=
      vipKeyToVipDefinition_isSome.mpr (h.parses vip v hvip)
    obtain ⟨vipDef, hdef⟩ := Option.isSome_iff_exists.mp hparses
    split_ifs
    · exact hgive
    · simp only [updateVipMap, hdef, State.bpfCall_tables]
      exact hgive

theorem modifyVip_idPools (vip : VipKey) (flag : BitVec 32) (set : Bool) {s : State}
    (h : IdPools folly config s.tables) :
    IdPools folly config (modifyVip folly config vip flag set s).2.tables := by
  cases hvip : s.tables.vips.lookup vip with
  | none => simpa [modifyVip, hvip] using h
  | some v =>
    rw [modifyVip_tables hvip]
    apply h.updateVip hvip
    split_ifs <;> rfl

/-! ## The reals of a VIP -/

theorem addRealStep_idPools (acc : Batch × State) (real : NewReal)
    (h : IdPools folly config acc.2.tables) :
    IdPools folly config (addRealStep folly config acc real).2.tables := by
  rcases @addRealStep_state folly config acc real with hstep | hstep | ⟨raddr, -, hstep⟩
  · rw [hstep]
    exact h
  · rw [hstep]
    exact h
  · rw [hstep]
    exact increaseRefCountForReal_idPools raddr real.flags h

theorem delRealStep_idPools (acc : Batch × State) (real : NewReal)
    (h : IdPools folly config acc.2.tables) :
    IdPools folly config (delRealStep folly config acc real).2.tables := by
  rcases @delRealStep_state folly config acc real with hstep | hstep | ⟨raddr, hstep⟩
  · rw [hstep]
    exact h
  · rw [hstep]
    exact h
  · rw [hstep]
    exact decreaseRefCountForReal_idPools raddr h

theorem realsLoop_idPools (action : ModifyAction) (reals : List NewReal) (acc : Batch × State)
    (h : IdPools folly config acc.2.tables) :
    IdPools folly config (realsLoop folly config action reals acc).2.tables :=
  realsLoop_invariant (I := fun s ↦ IdPools folly config s.tables) (fun _ hs ↦ hs)
    (fun raddr flags _ _ hs ↦ increaseRefCountForReal_idPools raddr flags hs)
    (fun raddr _ hs ↦ decreaseRefCountForReal_idPools raddr hs) action reals h

theorem modifyRealsForVip_idPools {u : Unspecified} {action : ModifyAction}
    {reals : List NewReal} {vip : VipKey} {s : State} {reply : Bool × State}
    (h : IdPools folly config s.tables)
    (hcall : modifyRealsForVip folly config chash u action reals vip s = some reply) :
    IdPools folly config reply.2.tables := by
  rcases modifyRealsForVip_cases hcall with
    rfl | ⟨v, batch, looped, positions, w, hvip, hloop, hring, rfl⟩
  · exact h
  · have hlooped := realsLoop_idPools action reals (⟨v.getReals u.vipReals, []⟩, s) h
    have hvips := (@realsLoop_within folly config action reals
      (⟨v.getReals u.vipReals, []⟩, s)).same .vips (by simp)
    rw [hloop] at hlooped hvips
    obtain ⟨ring, rfl⟩ := Vip.batchRealsUpdate_frame hring
    rw [programHashRing_tables]
    exact hlooped.updateVip ((congrArg (Finmap.lookup vip) hvips).trans hvip) rfl

theorem changeHashFunctionForVip_idPools {u : Unspecified} {vip : VipKey} {func : HashFunction}
    {s : State} {reply : Bool × State} (h : IdPools folly config s.tables)
    (hcall : changeHashFunctionForVip folly config chash u vip func s = some reply) :
    IdPools folly config reply.2.tables := by
  rcases changeHashFunctionForVip_cases hcall with
    (rfl | rfl) | ⟨v, positions, w, hvip, hring, rfl⟩
  · exact h
  · exact h
  · obtain ⟨ring, rfl⟩ := Vip.calculateHashRing_frame hring
    rw [programHashRing_tables]
    exact h.updateVip hvip rfl

theorem modifyReal_idPools (real : String) (flags : BitVec 8) (set : Bool) {s : State}
    (h : IdPools folly config s.tables) :
    IdPools folly config (modifyReal folly config real flags set s).2.tables := by
  unfold modifyReal
  cases haddr : folly.parse real with
  | none => simpa [validateHost_of_none haddr] using h
  | some raddr =>
    simp only [validateHost_of_some haddr]
    split
    · exact h
    · rename_i rmeta hreal
      generalize (if set = true then _ else _) = newFlags
      have hupdate := h.updateReal (w := { rmeta with flags := newFlags }) hreal rfl
      split_ifs
      · exact hupdate
      · rw [updateRealsMap_tables]
        exact hupdate

/-- The entry that reading a missing name creates has number zero. -/
theorem getRealsForVip_idPools (u : Unspecified) (vip : VipKey) {s : State}
    (h : IdPools folly config s.tables) :
    IdPools folly config (getRealsForVip u vip s).2.tables := by
  unfold getRealsForVip
  split
  · exact h
  · refine Runs.foldl_invariant
      (fun acc : List (IPAddress × ℕ × BitVec 8) × State ↦ IdPools folly config acc.2.tables) h _
      fun acc realId hacc ↦ ?_
    obtain ⟨names, s⟩ := acc
    have hread := numToRealsAt_idPools realId.num hacc
    dsimp only
    split
    · exact hread
    · rename_i hnone
      refine ⟨fun n hn ↦ ?_, hread.vips, hread.hcKeys, hread.parses⟩
      rw [IdPool.total_insert_of_ne RealMeta.num hnone (Ne.symm hn)]
      exact hread.reals n hn

/-! ## Healthcheck keys -/

theorem updateHcKeyMap_tables (action : ModifyAction) (hcKey : VipKey) (hcKeyId : ℕ) (s : State) :
    (updateHcKeyMap folly action hcKey hcKeyId s).2.tables = s.tables := by
  unfold updateHcKeyMap
  split
  · rfl
  · exact State.bpfCall_tables _ s

theorem addHcKey_idPools (hcKey : VipKey) {s : State} (h : IdPools folly config s.tables) :
    IdPools folly config (addHcKey folly config hcKey s).2.tables := by
  unfold addHcKey
  by_cases henabled : config.enableHc = false
  · rw [if_pos henabled]
    exact h
  · rw [if_neg henabled]
    cases hnums : s.tables.hcKeyNums with
    | nil => exact h
    | cons hcKeyNum hcKeyNums =>
      dsimp only
      split_ifs with hold
      · exact h
      all_goals
        have hnone : s.tables.hckeys.lookup hcKey = none := by simpa using hold
        have htake : IdPools folly config { s.tables with
            hcKeyNums := hcKeyNums
            hckeys := s.tables.hckeys.insert hcKey hcKeyNum } := by
          refine ⟨h.reals, h.vips, fun n ↦ ?_, h.parses⟩
          rw [IdPool.total_take id hnone, ← h.hcKeys n, hnums]
          rfl
      · exact htake
      · rw [updateHcKeyMap_tables]
        exact htake

theorem delHcKey_idPools (hcKey : VipKey) {s : State} (h : IdPools folly config s.tables) :
    IdPools folly config (delHcKey folly config hcKey s).2.tables := by
  unfold delHcKey
  by_cases henabled : config.enableHc = false
  · rw [if_pos henabled]
    exact h
  · rw [if_neg henabled]
    cases hkey : s.tables.hckeys.lookup hcKey with
    | none => exact h
    | some hcKeyNum =>
      have hgive : IdPools folly config { s.tables with
          hcKeyNums := s.tables.hcKeyNums ++ [hcKeyNum]
          hckeys := s.tables.hckeys.erase hcKey } :=
        ⟨h.reals, h.vips, fun n ↦ (IdPool.total_give id hkey n).trans (h.hcKeys n), h.parses⟩
      dsimp only
      split_ifs
      · exact hgive
      · rw [updateHcKeyMap_tables]
        exact hgive

/-! ## Routing tables -/

theorem addSrcNetworks_idPools (dst : IPAddress) (srcs : List CIDRNetwork) {s : State}
    (h : IdPools folly config s.tables) :
    IdPools folly config (addSrcNetworks config dst srcs s).2.tables := by
  induction srcs generalizing s with
  | nil => exact h
  | cons src srcs ih =>
    unfold addSrcNetworks
    have hinc := increaseRefCountForReal_idPools dst 0 h
    generalize increaseRefCountForReal config dst 0 s = increased at hinc ⊢
    have hmapped : IdPools folly config { increased.2.tables with
        lpmSrcMapping := increased.2.tables.lpmSrcMapping.insert src increased.1 } :=
      ⟨hinc.reals, hinc.vips, hinc.hcKeys, hinc.parses⟩
    dsimp only
    split_ifs
    · exact h
    · exact hinc
    · exact ih hmapped
    · exact ih (by simpa only [modifyLpmSrcRule, State.bpfCall_tables] using hmapped)

theorem addSrcRoutingRule_idPools (srcs : List CIDRNetwork) (dst : String) {s : State}
    (h : IdPools folly config s.tables) :
    IdPools folly config (addSrcRoutingRule folly config srcs dst s).2.tables := by
  unfold addSrcRoutingRule
  split_ifs
  · exact h
  · cases haddr : folly.parse dst with
    | none => simpa [validateHost_of_none haddr] using h
    | some raddr =>
      rw [validateHost_of_some haddr]
      exact addSrcNetworks_idPools raddr srcs h

theorem addSrcRoutingRuleText_idPools (srcs : List String) (dst : String) {s : State}
    (h : IdPools folly config s.tables) :
    IdPools folly config (addSrcRoutingRuleText folly config srcs dst s).2.tables := by
  unfold addSrcRoutingRuleText
  split_ifs
  · exact h
  · cases haddr : folly.parse dst with
    | none => simpa [validateHost_of_none haddr] using h
    | some raddr =>
      rw [validateHost_of_some haddr]
      exact addSrcRoutingRule_idPools _ _ (h.of_within (collectNetworks_within _ _ _ _ _)
        (by simp) (by simp) (by simp) (by simp))

theorem delSrcNetwork_idPools (s : State) (src : CIDRNetwork)
    (h : IdPools folly config s.tables) :
    IdPools folly config (delSrcNetwork config s src).tables := by
  unfold delSrcNetwork
  split
  · exact h
  · rename_i rnum hrule
    have hdec := decreaseRefCountForReal_idPools (numToRealsAt rnum s).1
      (numToRealsAt_idPools rnum h)
    dsimp only
    split_ifs
    · exact ⟨hdec.reals, hdec.vips, hdec.hcKeys, hdec.parses⟩
    · simp only [modifyLpmSrcRule, State.bpfCall_tables]
      exact ⟨hdec.reals, hdec.vips, hdec.hcKeys, hdec.parses⟩

theorem delSrcRoutingRule_idPools (srcs : List CIDRNetwork) {s : State}
    (h : IdPools folly config s.tables) :
    IdPools folly config (delSrcRoutingRule config srcs s).2.tables := by
  unfold delSrcRoutingRule
  split_ifs
  · exact h
  · exact Runs.foldl_invariant (fun s : State ↦ IdPools folly config s.tables) h srcs
      delSrcNetwork_idPools

theorem delSrcRoutingRuleText_idPools (srcs : List String) {s : State}
    (h : IdPools folly config s.tables) :
    IdPools folly config (delSrcRoutingRuleText folly config srcs s).2.tables := by
  unfold delSrcRoutingRuleText
  split_ifs
  · exact h
  · exact delSrcRoutingRule_idPools _ h

theorem clearAllSrcRoutingRules_idPools (u : Unspecified) {s : State} {reply : Bool × State}
    (h : IdPools folly config s.tables)
    (hcall : clearAllSrcRoutingRules config u s = some reply) :
    IdPools folly config reply.2.tables := by
  unfold clearAllSrcRoutingRules at hcall
  split_ifs at hcall
  · obtain rfl := Option.some.inj hcall
    exact h
  · obtain ⟨s', hloop, hcall⟩ := Option.bind_eq_some_iff.mp hcall
    obtain rfl := Option.some.inj hcall
    have hcleared : IdPools folly config s'.tables := by
      refine Runs.invariant (I := fun s : State ↦ IdPools folly config s.tables) ?_ h hloop
      intro s rule s' hs hrule
      obtain ⟨dst, -, hrule⟩ := Option.bind_eq_some_iff.mp hrule
      obtain rfl := Option.some.inj hrule
      have hdec := decreaseRefCountForReal_idPools dst hs
      split_ifs
      · exact hdec
      · simpa only [modifyLpmSrcRule, State.bpfCall_tables] using hdec
    exact ⟨hcleared.reals, hcleared.vips, hcleared.hcKeys, hcleared.parses⟩

theorem delQuicStep_idPools (s : State) (real : QuicReal) (h : IdPools folly config s.tables) :
    IdPools folly config (delQuicStep folly config s real).tables := by
  unfold delQuicStep
  cases haddr : folly.parse real.address with
  | none => simpa [validateHost_of_none haddr] using h
  | some raddr =>
    simp only [validateHost_of_some haddr]
    split_ifs
    · exact h
    · split
      · exact h
      · split_ifs
        · exact h
        · have hdec := decreaseRefCountForReal_idPools raddr h
          exact ⟨hdec.reals, hdec.vips, hdec.hcKeys, hdec.parses⟩

theorem mapQuicReal_idPools (raddr : IPAddress) (id : ℕ) (toUpdate : Finmap fun _ : ℕ ↦ ℕ)
    {s : State} (h : IdPools folly config s.tables) :
    IdPools folly config (mapQuicReal config raddr id toUpdate s).2.tables := by
  have hinc := increaseRefCountForReal_idPools raddr 0 h
  unfold mapQuicReal
  dsimp only
  split_ifs
  · exact hinc
  · exact ⟨hinc.reals, hinc.vips, hinc.hcKeys, hinc.parses⟩

theorem addQuicStep_idPools (acc : (Finmap fun _ : ℕ ↦ ℕ) × State) (real : QuicReal)
    (h : IdPools folly config acc.2.tables) :
    IdPools folly config (addQuicStep folly config acc real).2.tables := by
  obtain ⟨toUpdate, s⟩ := acc
  unfold addQuicStep
  cases haddr : folly.parse real.address with
  | none => simpa [validateHost_of_none haddr] using h
  | some raddr =>
    simp only [validateHost_of_some haddr]
    split_ifs
    · exact h
    · split
      · exact mapQuicReal_idPools raddr real.id toUpdate h
      · split_ifs
        · exact h
        · exact mapQuicReal_idPools raddr real.id toUpdate (decreaseRefCountForReal_idPools _ h)

theorem modifyQuicRealsMapping_idPools (u : Unspecified) (action : ModifyAction)
    (reals : List QuicReal) {s : State} (h : IdPools folly config s.tables) :
    IdPools folly config (modifyQuicRealsMapping folly config u action reals s).tables := by
  cases action with
  | del =>
    exact Runs.foldl_invariant (fun s : State ↦ IdPools folly config s.tables) h reals
      delQuicStep_idPools
  | add =>
    have hadd := Runs.foldl_invariant
      (fun acc : (Finmap fun _ : ℕ ↦ ℕ) × State ↦ IdPools folly config acc.2.tables)
      (s := (∅, s)) h reals addQuicStep_idPools
    unfold modifyQuicRealsMapping
    dsimp only
    split_ifs
    · exact hadd
    · exact IdPools.of_within hadd (Within.foldl updateServerIdMap_within _ _) (by simp) (by simp)
        (by simp) (by simp)

/-! ## Every run -/

theorem step_idPools {s s' : State} {call : Call} (h : IdPools folly config s.tables)
    (hstep : step folly config chash s call = some s') : IdPools folly config s'.tables := by
  have hwithin := step_within hstep
  obtain ⟨op, u⟩ := call
  cases op with
  | addVip vip flags => exact Option.some.inj hstep ▸ addVip_idPools vip flags h
  | delVip vip => exact Option.some.inj hstep ▸ delVip_idPools u vip h
  | modifyVip vip flag set => exact Option.some.inj hstep ▸ modifyVip_idPools vip flag set h
  | changeHashFunctionForVip vip func =>
    obtain ⟨reply, hcall, rfl⟩ := Option.map_eq_some_iff.mp hstep
    exact changeHashFunctionForVip_idPools h hcall
  | addHcKey hcKey => exact Option.some.inj hstep ▸ addHcKey_idPools hcKey h
  | delHcKey hcKey => exact Option.some.inj hstep ▸ delHcKey_idPools hcKey h
  | modifyReal real flags set => exact Option.some.inj hstep ▸ modifyReal_idPools real flags set h
  | modifyRealsForVip action reals vip =>
    obtain ⟨reply, hcall, rfl⟩ := Option.map_eq_some_iff.mp hstep
    exact modifyRealsForVip_idPools h hcall
  | getRealsForVip vip => exact Option.some.inj hstep ▸ getRealsForVip_idPools u vip h
  | addSrcRoutingRule srcs dst =>
    exact Option.some.inj hstep ▸ addSrcRoutingRule_idPools srcs dst h
  | addSrcRoutingRuleText srcs dst =>
    exact Option.some.inj hstep ▸ addSrcRoutingRuleText_idPools srcs dst h
  | delSrcRoutingRule srcs => exact Option.some.inj hstep ▸ delSrcRoutingRule_idPools srcs h
  | delSrcRoutingRuleText srcs =>
    exact Option.some.inj hstep ▸ delSrcRoutingRuleText_idPools srcs h
  | clearAllSrcRoutingRules =>
    obtain ⟨reply, hcall, rfl⟩ := Option.map_eq_some_iff.mp hstep
    exact clearAllSrcRoutingRules_idPools u h hcall
  | modifyQuicRealsMapping action reals =>
    exact Option.some.inj hstep ▸ modifyQuicRealsMapping_idPools u action reals h
  | _ =>
    exact h.of_within hwithin (by simp [Op.footprint]) (by simp [Op.footprint])
      (by simp [Op.footprint]) (by simp [Op.footprint])

/-- In every reachable state each number of a real, a VIP or a healthcheck key occurs exactly once
in its queue and its table together, so no two users share one. -/
theorem run_idPools (mac : List (BitVec 8)) (features : Features) (maps : BpfMaps)
    (outcomes : List Bool) (calls : List Call) (s : State)
    (hrun : run folly config chash mac features maps outcomes calls = some s) :
    (∀ n, (1 ≤ n → n < config.maxReals →
        s.tables.realNums.count n + count (fun _ r ↦ r.num = n) s.tables.reals = 1) ∧
      (n < config.maxVips →
        s.tables.vipNums.count n + count (fun _ v ↦ v.vipNum = n) s.tables.vips = 1) ∧
      (config.enableHc → n < config.maxVips →
        s.tables.hcKeyNums.count n + count (fun _ num ↦ num = n) s.tables.hckeys = 1)) ∧
    (∀ a b r r', s.tables.reals.lookup a = some r → s.tables.reals.lookup b = some r' →
      r.num = r'.num → r.num ≠ 0 → a = b) ∧
    (∀ a b v v', s.tables.vips.lookup a = some v → s.tables.vips.lookup b = some v' →
      v.vipNum = v'.vipNum → a = b) ∧
    (∀ a b n, s.tables.hckeys.lookup a = some n → s.tables.hckeys.lookup b = some n → a = b) := by
  have h : IdPools folly config s.tables :=
    Runs.invariant (I := fun s : State ↦ IdPools folly config s.tables)
      (fun _ _ _ ↦ step_idPools) (new_idPools mac features maps outcomes) hrun
  refine ⟨fun n ↦ ⟨fun hpos hlt ↦ ?_, fun hlt ↦ ?_, fun henabled hlt ↦ ?_⟩, ?_, ?_, ?_⟩
  · exact (h.reals n (Nat.pos_iff_ne_zero.mp hpos)).trans (if_pos hlt)
  · exact (h.vips n).trans (if_pos hlt)
  · exact (h.hcKeys n).trans (if_pos ⟨henabled, hlt⟩)
  · intro a b r r' ha hb hnum hne
    have hone : IdPool.total RealMeta.num s.tables.realNums s.tables.reals r.num ≤ 1 := by
      rw [h.reals r.num hne]
      split_ifs <;> omega
    exact IdPool.key_unique hone ha hb rfl hnum.symm
  · intro a b v v' ha hb hnum
    have hone : IdPool.total Vip.vipNum s.tables.vipNums s.tables.vips v.vipNum ≤ 1 := by
      rw [h.vips v.vipNum]
      split_ifs <;> omega
    exact IdPool.key_unique hone ha hb rfl hnum.symm
  · intro a b n ha hb
    have hone : IdPool.total id s.tables.hcKeyNums s.tables.hckeys n ≤ 1 := by
      rw [h.hcKeys n]
      split_ifs <;> omega
    exact IdPool.key_unique hone ha hb rfl rfl

/-- A real and a VIP that take their numbers and give them back. -/
def poolCalls : List Call :=
  [(Op.addVip ⟨"10.0.0.1", 80, 6⟩ 0).sorted id,
    (Op.modifyRealsForVip .add [⟨"10.0.0.2", 1, 0⟩] ⟨"10.0.0.1", 80, 6⟩).sorted id,
    (Op.addHcKey ⟨"10.0.0.1", 80, 6⟩).sorted id,
    (Op.delVip ⟨"10.0.0.1", 80, 6⟩).sorted id]

theorem runSample_idPools :
    ∃ s, runSample [true, false] poolCalls = some s ∧
      (s.tables.realNums, s.tables.vipNums, s.tables.hcKeyNums) = ([2, 1], [1, 0], [1]) ∧
      s.tables.realNums.count 1 + count (fun _ r ↦ r.num = 1) s.tables.reals = 1 := by
  have hpools : (runSample [true, false] poolCalls).map (fun s ↦
      (s.tables.realNums, s.tables.vipNums, s.tables.hcKeyNums)) =
      some ([2, 1], [1, 0], [1]) := by decide +kernel
  obtain ⟨s, hrun, htables⟩ := Option.map_eq_some_iff.mp hpools
  exact ⟨s, hrun, htables, ((run_idPools [] ⟨true, true, true⟩ .empty [true, false] _ s hrun).1
    1).1 (by decide) (by decide)⟩

end Vsoshlb
