import Vsoshlb.HashRing.VipRing
import Vsoshlb.ControlPlane.Calls

/-!
# What a call can touch

The tables and maps that the results are about, as components of the state, and for every call
the list of those that it may change. Everything outside that list is as it was before the call,
and the script of outcomes has only been read from the front.
-/

namespace Vsoshlb

open HashTable (Walk)

inductive Component where
  | vips
  | vipNums
  | reals
  | numToReals
  | quicMapping
  | lpmSrcMapping
  | hckeys
  | vipMap
  | chRings
  | serverIdMap
deriving DecidableEq, Repr

/-- The component has the same contents in both states. -/
def Component.Same (s s' : State) : Component → Prop
  | .vips => s'.tables.vips = s.tables.vips
  | .vipNums => s'.tables.vipNums = s.tables.vipNums
  | .reals => s'.tables.reals = s.tables.reals ∧ s'.tables.realNums = s.tables.realNums
  | .numToReals => s'.tables.numToReals = s.tables.numToReals
  | .quicMapping => s'.tables.quicMapping = s.tables.quicMapping
  | .lpmSrcMapping => s'.tables.lpmSrcMapping = s.tables.lpmSrcMapping
  | .hckeys => s'.tables.hckeys = s.tables.hckeys ∧ s'.tables.hcKeyNums = s.tables.hcKeyNums
  | .vipMap => s'.maps.vipMap = s.maps.vipMap
  | .chRings => s'.maps.chRings = s.maps.chRings
  | .serverIdMap => s'.maps.serverIdMap = s.maps.serverIdMap

structure Within (footprint : List Component) (s s' : State) : Prop where
  same : ∀ c ∉ footprint, c.Same s s'
  outcomes : s'.outcomes <:+ s.outcomes

namespace Within

variable {footprint : List Component} {s s' s'' : State}

theorem refl (footprint : List Component) (s : State) : Within footprint s s where
  same c _ := by cases c <;> simp [Component.Same]
  outcomes := List.suffix_refl _

theorem trans (h : Within footprint s s') (h' : Within footprint s' s'') :
    Within footprint s s'' where
  same c hc := by
    have hsame := h.same c hc
    have hsame' := h'.same c hc
    cases c <;> simp_all [Component.Same]
  outcomes := h'.outcomes.trans h.outcomes

theorem mono {wider : List Component} (h : Within footprint s s') (hsub : footprint ⊆ wider) :
    Within wider s s' where
  same c hc := h.same c fun hmem ↦ hc (hsub hmem)
  outcomes := h.outcomes

/-- Calls that all succeed stay so. -/
theorem outcomes_eq_nil (h : Within footprint s s') (hs : s.outcomes = []) : s'.outcomes = [] :=
  List.suffix_nil.mp (hs ▸ h.outcomes)

/-- A loop stays within the footprint of its body. -/
theorem foldl {α : Type} {body : State → α → State}
    (hbody : ∀ s a, Within footprint s (body s a)) (as : List α) (s : State) :
    Within footprint s (as.foldl body s) :=
  Runs.foldl_invariant (Within footprint s) (refl footprint s) as
    fun s' a hs' ↦ hs'.trans (hbody s' a)

/-- The same for a loop that carries something along. -/
theorem foldl_snd {α β : Type} {body : β × State → α → β × State}
    (hbody : ∀ acc a, Within footprint acc.2 (body acc a).2) (as : List α) (acc : β × State) :
    Within footprint acc.2 (as.foldl body acc).2 :=
  Runs.foldl_invariant (fun acc' : β × State ↦ Within footprint acc.2 acc'.2)
    (refl footprint acc.2) as fun acc' a hacc ↦ hacc.trans (hbody acc' a)

end Within

variable {folly : Folly} {config : Config} {chash : HashFunction → ConsistentHash}

/-! ## Steps that calls share -/

theorem bpfCall_within {footprint : List Component} {write : BpfMaps → BpfMaps} {s : State}
    (hvipMap : .vipMap ∉ footprint → (write s.maps).vipMap = s.maps.vipMap)
    (hchRings : .chRings ∉ footprint → (write s.maps).chRings = s.maps.chRings)
    (hserverIdMap : .serverIdMap ∉ footprint → (write s.maps).serverIdMap = s.maps.serverIdMap) :
    Within footprint s (s.bpfCall write).2 where
  same c hc := by
    cases c <;> simp only [Component.Same, State.bpfCall_tables, State.bpfCall_maps, and_self]
    all_goals split_ifs
    · exact hvipMap hc
    · rfl
    · exact hchRings hc
    · rfl
    · exact hserverIdMap hc
    · rfl
  outcomes := by
    rw [State.bpfCall_outcomes]
    exact List.tail_suffix _

/-- A call on a map that is no component. -/
theorem bpfCall_within_nil {write : BpfMaps → BpfMaps} {s : State}
    (hvipMap : (write s.maps).vipMap = s.maps.vipMap)
    (hchRings : (write s.maps).chRings = s.maps.chRings)
    (hserverIdMap : (write s.maps).serverIdMap = s.maps.serverIdMap) :
    Within [] s (s.bpfCall write).2 :=
  bpfCall_within (fun _ ↦ hvipMap) (fun _ ↦ hchRings) fun _ ↦ hserverIdMap

/-- A change of the user-space tables. -/
theorem tables_within {footprint : List Component} {s : State} {t : Tables}
    (h : ∀ c ∉ footprint, c.Same s { s with tables := t }) :
    Within footprint s { s with tables := t } where
  same := h
  outcomes := List.suffix_refl _

theorem rejected_within (s : State) : Within [] s s.rejected where
  same c _ := by cases c <;> simp [Component.Same]
  outcomes := List.suffix_refl _

theorem updateRealsMap_within (real : IPAddress) (num : ℕ) (flags : BitVec 8) (s : State) :
    Within [] s (updateRealsMap real num flags s).2 :=
  bpfCall_within_nil rfl rfl rfl

theorem decreaseRefCountForReal_within (real : IPAddress) (s : State) :
    Within [.reals, .numToReals] s (decreaseRefCountForReal real s) := by
  unfold decreaseRefCountForReal
  split
  · exact Within.refl _ s
  · dsimp only
    split_ifs
    all_goals exact tables_within fun c hc ↦ by cases c <;> simp_all [Component.Same]

theorem increaseRefCountForReal_within (real : IPAddress) (flags : BitVec 8) (s : State) :
    Within [.reals, .numToReals] s (increaseRefCountForReal config real flags s).2 := by
  unfold increaseRefCountForReal
  dsimp only
  split
  · exact tables_within fun c hc ↦ by cases c <;> simp_all [Component.Same]
  · split
    · exact Within.refl _ s
    · rename_i rnum realNums _
      have htaken : Within [.reals, .numToReals] s { s with
          tables.realNums := realNums
          tables.numToReals := s.tables.numToReals.insert rnum real
          tables.reals := s.tables.reals.insert real ⟨rnum, 1, flags &&& ~~~V6DADDR⟩ } :=
        tables_within fun c hc ↦ by cases c <;> simp_all [Component.Same]
      dsimp only
      split_ifs
      · exact htaken
      · exact htaken.trans ((updateRealsMap_within _ _ _ _).mono (by simp))

theorem numToRealsAt_within (num : ℕ) (s : State) :
    Within [.numToReals] s (numToRealsAt num s).2 := by
  unfold numToRealsAt
  split
  · exact Within.refl _ s
  · exact tables_within fun c hc ↦ by cases c <;> simp_all [Component.Same]

/-! ## VIPs -/

theorem updateVipMap_within (action : ModifyAction) (vip : VipKey) (vmeta : VipMeta) (s : State) :
    Within [.vipMap] s (updateVipMap folly action vip vmeta s).2 := by
  unfold updateVipMap
  split
  · exact Within.refl _ s
  · exact bpfCall_within (by simp) (fun _ ↦ rfl) fun _ ↦ rfl

theorem addVip_within (vip : VipKey) (flags : BitVec 32) (s : State) :
    Within [.vips, .vipNums, .vipMap] s (addVip folly config vip flags s).2 := by
  rcases @addVip_cases folly config vip flags s with
    ⟨-, s', hcall, hs'⟩ | ⟨-, vipNum, vipNums, vipDef, taken, -, -, htaken, hcall⟩
  · rw [hcall]
    rcases hs' with rfl | rfl
    · exact Within.refl _ _
    · exact (rejected_within s).mono (by simp)
  · have hnew : Within [.vips, .vipNums, .vipMap] s taken :=
      htaken ▸ tables_within fun c hc ↦ by cases c <;> simp_all [Component.Same]
    rw [hcall]
    split_ifs
    · exact hnew
    · exact hnew.trans (bpfCall_within (by simp) (fun _ ↦ rfl) fun _ ↦ rfl)

theorem releaseVipReals_within (nums : List ℕ) (s : State) :
    Within [.reals, .numToReals] s (releaseVipReals nums s) :=
  Within.foldl (fun s num ↦ ((numToRealsAt_within num s).mono (by simp)).trans
    (decreaseRefCountForReal_within _ _)) nums s

theorem delVip_within (u : Unspecified) (vip : VipKey) (s : State) :
    Within [.vips, .vipNums, .vipMap, .reals, .numToReals] s (delVip folly config u vip s).2 := by
  unfold delVip
  split
  · exact Within.refl _ s
  · rename_i v _
    have hrelease : Within [.vips, .vipNums, .vipMap, .reals, .numToReals] s
        (releaseVipReals (v.getReals u.vipReals) s) :=
      (releaseVipReals_within _ s).mono (by simp)
    dsimp only
    generalize releaseVipReals (v.getReals u.vipReals) s = released at hrelease ⊢
    have hnum : Within [.vips, .vipNums, .vipMap, .reals, .numToReals] s { released with
        tables.vipNums := released.tables.vipNums ++ [v.vipNum] } :=
      hrelease.trans (tables_within fun c hc ↦ by cases c <;> simp_all [Component.Same])
    split_ifs
    · exact hnum.trans (tables_within fun c hc ↦ by cases c <;> simp_all [Component.Same])
    · have hmap := hnum.trans ((@updateVipMap_within folly .del vip ⟨0, 0⟩ _).mono (by simp))
      split <;> rename_i hupdate <;> simp only [hupdate] at hmap
      · exact hmap
      · exact hmap.trans (tables_within fun c hc ↦ by cases c <;> simp_all [Component.Same])

theorem modifyVip_within (vip : VipKey) (flag : BitVec 32) (set : Bool) (s : State) :
    Within [.vips, .vipMap] s (modifyVip folly config vip flag set s).2 := by
  unfold modifyVip
  split
  · exact Within.refl _ s
  · dsimp only
    generalize (if set = true then _ else _) = w
    have hvips : Within [.vips, .vipMap] s { s with
        tables.vips := s.tables.vips.insert vip w } :=
      tables_within fun c hc ↦ by cases c <;> simp_all [Component.Same]
    split_ifs
    · exact hvips
    · exact hvips.trans ((updateVipMap_within _ _ _ _).mono (by simp))

/-! ## Healthcheck keys -/

theorem updateHcKeyMap_within (action : ModifyAction) (hcKey : VipKey) (hcKeyId : ℕ) (s : State) :
    Within [] s (updateHcKeyMap folly action hcKey hcKeyId s).2 := by
  unfold updateHcKeyMap
  split
  · exact Within.refl _ s
  · exact bpfCall_within_nil rfl rfl rfl

theorem addHcKey_within (hcKey : VipKey) (s : State) :
    Within [.hckeys] s (addHcKey folly config hcKey s).2 := by
  unfold addHcKey
  by_cases henabled : config.enableHc = false
  · rw [if_pos henabled]
    exact Within.refl _ s
  · rw [if_neg henabled]
    split
    · exact Within.refl _ s
    · rename_i hcKeyNum hcKeyNums _
      have hnew : Within [.hckeys] s { s with
          tables.hcKeyNums := hcKeyNums
          tables.hckeys := s.tables.hckeys.insert hcKey hcKeyNum } :=
        tables_within fun c hc ↦ by cases c <;> simp_all [Component.Same]
      dsimp only
      split_ifs
      · exact Within.refl _ s
      · exact hnew
      · exact hnew.trans ((updateHcKeyMap_within _ _ _ _).mono (by simp))

theorem delHcKey_within (hcKey : VipKey) (s : State) :
    Within [.hckeys] s (delHcKey folly config hcKey s).2 := by
  unfold delHcKey
  by_cases henabled : config.enableHc = false
  · rw [if_pos henabled]
    exact Within.refl _ s
  · rw [if_neg henabled]
    split
    · exact Within.refl _ s
    · rename_i hcKeyNum _
      have hgone : Within [.hckeys] s { s with
          tables.hcKeyNums := s.tables.hcKeyNums ++ [hcKeyNum]
          tables.hckeys := s.tables.hckeys.erase hcKey } :=
        tables_within fun c hc ↦ by cases c <;> simp_all [Component.Same]
      dsimp only
      split_ifs
      · exact hgone
      · exact hgone.trans ((updateHcKeyMap_within _ _ _ _).mono (by simp))

/-! ## The reals of a VIP -/

theorem programHashRing_within (u : Unspecified) (chPositions : List RealPos) (vipNum : ℕ)
    (s : State) : Within [.chRings] s (programHashRing config u chPositions vipNum s) := by
  unfold programHashRing
  split_ifs
  · exact Within.refl _ s
  · exact Within.refl _ s
  · exact bpfCall_within (fun _ ↦ rfl) (by simp) fun _ ↦ rfl

theorem changeHashFunctionForVip_within {u : Unspecified} {vip : VipKey} {func : HashFunction}
    {s : State} {reply : Bool × State}
    (hcall : changeHashFunctionForVip folly config chash u vip func s = some reply) :
    Within [.vips, .chRings] s reply.2 := by
  rcases changeHashFunctionForVip_cases hcall with
    (rfl | rfl) | ⟨v, positions, w, -, -, rfl⟩
  · exact Within.refl _ _
  · exact (rejected_within s).mono (by simp)
  · have hvips : Within [.vips, .chRings] s { s with
        tables.vips := s.tables.vips.insert vip w } :=
      tables_within fun c hc ↦ by cases c <;> simp_all [Component.Same]
    exact hvips.trans ((programHashRing_within u positions w.vipNum _).mono (by simp))

theorem realsLoop_within (action : ModifyAction) (reals : List NewReal) (acc : Batch × State) :
    Within [.reals, .numToReals] acc.2 (realsLoop folly config action reals acc).2 :=
  realsLoop_invariant (fun s hs ↦ hs.trans ((rejected_within s).mono (by simp)))
    (fun raddr flags s _ hs ↦ hs.trans (increaseRefCountForReal_within raddr flags s))
    (fun raddr s hs ↦ hs.trans (decreaseRefCountForReal_within raddr s)) action reals
    (Within.refl _ acc.2)

theorem modifyRealsForVip_within {u : Unspecified} {action : ModifyAction} {reals : List NewReal}
    {vip : VipKey} {s : State} {reply : Bool × State}
    (hcall : modifyRealsForVip folly config chash u action reals vip s = some reply) :
    Within [.vips, .reals, .numToReals, .chRings] s reply.2 := by
  rcases modifyRealsForVip_cases hcall with
    rfl | ⟨v, batch, looped, positions, w, -, hloop, -, rfl⟩
  · exact Within.refl _ _
  · have hlooped := @realsLoop_within folly config action reals (⟨v.getReals u.vipReals, []⟩, s)
    rw [hloop] at hlooped
    have hvips : Within [.vips, .reals, .numToReals, .chRings] s { looped with
        tables.vips := looped.tables.vips.insert vip w } :=
      (hlooped.mono (by simp)).trans
        (tables_within fun c hc ↦ by cases c <;> simp_all [Component.Same])
    exact hvips.trans ((programHashRing_within u positions w.vipNum _).mono (by simp))

theorem modifyReal_within (real : String) (flags : BitVec 8) (set : Bool) (s : State) :
    Within [.reals] s (modifyReal folly config real flags set s).2 := by
  unfold modifyReal
  cases haddr : folly.parse real with
  | none =>
    rw [validateHost_of_none haddr]
    exact (rejected_within s).mono (by simp)
  | some raddr =>
    simp only [validateHost_of_some haddr]
    split
    · exact Within.refl _ s
    · rename_i rmeta _
      generalize (if set = true then _ else _) = newFlags
      have hflags : Within [.reals] s { s with
          tables.reals := s.tables.reals.insert raddr { rmeta with flags := newFlags } } :=
        tables_within fun c hc ↦ by cases c <;> simp_all [Component.Same]
      split_ifs
      · exact hflags
      · exact hflags.trans ((updateRealsMap_within _ _ _ _).mono (by simp))

theorem getRealsForVip_within (u : Unspecified) (vip : VipKey) (s : State) :
    Within [.reals, .numToReals] s (getRealsForVip u vip s).2 := by
  unfold getRealsForVip
  split
  · exact Within.refl _ s
  · refine Within.foldl_snd (fun acc realId ↦ ?_) _ ([], s)
    have hread : Within [.reals, .numToReals] acc.2 (numToRealsAt realId.num acc.2).2 :=
      (numToRealsAt_within _ _).mono (by simp)
    dsimp only
    split
    · exact hread
    · exact hread.trans (tables_within fun c hc ↦ by cases c <;> simp_all [Component.Same])

theorem getIndexForReal_within (real : String) (s : State) :
    Within [] s (getIndexForReal folly config real s).2 := by
  unfold getIndexForReal
  cases haddr : folly.parse real with
  | none =>
    rw [validateHost_of_none haddr]
    exact rejected_within s
  | some raddr =>
    rw [validateHost_of_some haddr]
    exact Within.refl _ s

/-! ## Source routing -/

theorem modifyLpmSrcRule_within (action : ModifyAction) (src : CIDRNetwork) (rnum : ℕ)
    (s : State) : Within [] s (modifyLpmSrcRule action src rnum s).2 :=
  bpfCall_within_nil rfl rfl rfl

theorem addSrcNetworks_within (dst : IPAddress) (srcs : List CIDRNetwork) (s : State) :
    Within [.reals, .numToReals, .lpmSrcMapping] s (addSrcNetworks config dst srcs s).2 := by
  induction srcs generalizing s with
  | nil => exact Within.refl _ s
  | cons src srcs ih =>
    unfold addSrcNetworks
    have hinc : Within [.reals, .numToReals, .lpmSrcMapping] s
        (increaseRefCountForReal config dst 0 s).2 :=
      (increaseRefCountForReal_within dst 0 s).mono (by simp)
    generalize increaseRefCountForReal config dst 0 s = increased at hinc ⊢
    have hmapped : Within [.reals, .numToReals, .lpmSrcMapping] s { increased.2 with
        tables.lpmSrcMapping := increased.2.tables.lpmSrcMapping.insert src increased.1 } :=
      hinc.trans (tables_within fun c hc ↦ by cases c <;> simp_all [Component.Same])
    dsimp only
    split_ifs
    · exact Within.refl _ s
    · exact hinc
    · exact hmapped.trans (ih _)
    · exact (hmapped.trans ((modifyLpmSrcRule_within _ _ _ _).mono (by simp))).trans (ih _)

theorem addSrcRoutingRule_within (srcs : List CIDRNetwork) (dst : String) (s : State) :
    Within [.reals, .numToReals, .lpmSrcMapping] s
      (addSrcRoutingRule folly config srcs dst s).2 := by
  unfold addSrcRoutingRule
  split_ifs
  · exact Within.refl _ s
  · cases haddr : folly.parse dst with
    | none =>
      rw [validateHost_of_none haddr]
      exact (rejected_within s).mono (by simp)
    | some raddr =>
      rw [validateHost_of_some haddr]
      exact addSrcNetworks_within raddr srcs s

theorem validateAddress_within (addr : String) (allowNetAddr : Bool) (s : State) :
    Within [] s (validateAddress folly config addr allowNetAddr s).2 := by
  unfold validateAddress
  split_ifs
  · exact Within.refl _ s
  · exact Within.refl _ s
  · exact rejected_within s

theorem collectNetworks_within (total : ℕ) (srcs : List String) (networks : List CIDRNetwork)
    (numErrors : ℤ) (s : State) :
    Within [] s (collectNetworks folly config total srcs networks numErrors s).2.2 := by
  induction srcs generalizing networks numErrors s with
  | nil => exact Within.refl _ s
  | cons src srcs ih =>
    have hvalidated : Within [] s (validateAddress folly config src true s).2 :=
      validateAddress_within src true s
    unfold collectNetworks
    generalize validateAddress folly config src true s = validated at hvalidated ⊢
    obtain ⟨kind, s'⟩ := validated
    cases kind with
    | network =>
      dsimp only
      split_ifs
      · exact hvalidated
      · exact hvalidated.trans (ih _ _ _)
    | invalid => exact hvalidated.trans (ih _ _ _)
    | host => exact hvalidated.trans (ih _ _ _)

theorem addSrcRoutingRuleText_within (srcs : List String) (dst : String) (s : State) :
    Within [.reals, .numToReals, .lpmSrcMapping] s
      (addSrcRoutingRuleText folly config srcs dst s).2 := by
  unfold addSrcRoutingRuleText
  split_ifs
  · exact Within.refl _ s
  · cases haddr : folly.parse dst with
    | none =>
      rw [validateHost_of_none haddr]
      exact (rejected_within s).mono (by simp)
    | some raddr =>
      rw [validateHost_of_some haddr]
      exact ((collectNetworks_within _ _ _ _ _).mono (by simp)).trans
        (addSrcRoutingRule_within _ _ _)

theorem delSrcNetwork_within (s : State) (src : CIDRNetwork) :
    Within [.reals, .numToReals, .lpmSrcMapping] s (delSrcNetwork config s src) := by
  unfold delSrcNetwork
  split
  · exact Within.refl _ s
  · rename_i rnum _
    have hdec : Within [.reals, .numToReals, .lpmSrcMapping] s
        (decreaseRefCountForReal (numToRealsAt rnum s).1 (numToRealsAt rnum s).2) :=
      ((numToRealsAt_within rnum s).mono (by simp)).trans
        ((decreaseRefCountForReal_within _ _).mono (by simp))
    dsimp only
    generalize decreaseRefCountForReal (numToRealsAt rnum s).1 (numToRealsAt rnum s).2 =
      released at hdec ⊢
    split_ifs
    · exact hdec.trans (tables_within fun c hc ↦ by cases c <;> simp_all [Component.Same])
    · exact (hdec.trans ((modifyLpmSrcRule_within _ _ _ _).mono (by simp))).trans
        (tables_within fun c hc ↦ by cases c <;> simp_all [Component.Same])

theorem delSrcRoutingRule_within (srcs : List CIDRNetwork) (s : State) :
    Within [.reals, .numToReals, .lpmSrcMapping] s (delSrcRoutingRule config srcs s).2 := by
  unfold delSrcRoutingRule
  split_ifs
  · exact Within.refl _ s
  · exact Within.foldl delSrcNetwork_within srcs s

theorem delSrcRoutingRuleText_within (srcs : List String) (s : State) :
    Within [.reals, .numToReals, .lpmSrcMapping] s
      (delSrcRoutingRuleText folly config srcs s).2 := by
  unfold delSrcRoutingRuleText
  split_ifs
  · exact Within.refl _ s
  · exact delSrcRoutingRule_within _ s

theorem clearSrcRule_within {s s' : State} {rule : CIDRNetwork × ℕ}
    (h : clearSrcRule config s rule = some s') : Within [.reals, .numToReals] s s' := by
  obtain ⟨dst, -, h⟩ := Option.bind_eq_some_iff.mp h
  obtain rfl := Option.some.inj h
  have hdec := decreaseRefCountForReal_within dst s
  split_ifs
  · exact hdec
  · exact hdec.trans ((modifyLpmSrcRule_within _ _ _ _).mono (by simp))

theorem clearAllSrcRoutingRules_within (u : Unspecified) {s : State} {reply : Bool × State}
    (hcall : clearAllSrcRoutingRules config u s = some reply) :
    Within [.reals, .numToReals, .lpmSrcMapping] s reply.2 := by
  unfold clearAllSrcRoutingRules at hcall
  split_ifs at hcall
  · obtain rfl := Option.some.inj hcall
    exact Within.refl _ s
  · obtain ⟨s', hloop, hcall⟩ := Option.bind_eq_some_iff.mp hcall
    obtain rfl := Option.some.inj hcall
    have hcleared : Within [.reals, .numToReals] s s' :=
      Runs.invariant (I := fun s' ↦ Within [.reals, .numToReals] s s')
        (fun _ _ _ h hrule ↦ h.trans (clearSrcRule_within hrule)) (Within.refl _ s) hloop
    exact (hcleared.mono (by simp)).trans
      (tables_within fun c hc ↦ by cases c <;> simp_all [Component.Same])

theorem getSrcRoutingRuleCidr_within (u : Unspecified) (s : State) :
    Within [.numToReals] s (getSrcRoutingRuleCidr config u s).2 := by
  unfold getSrcRoutingRuleCidr
  split_ifs
  · exact Within.refl _ s
  · exact Within.foldl_snd (β := List (CIDRNetwork × IPAddress))
      (fun acc src ↦ numToRealsAt_within src.2 acc.2) _ ([], s)

/-! ## QUIC server ids -/

theorem delQuicStep_within (s : State) (real : QuicReal) :
    Within [.reals, .numToReals, .quicMapping] s (delQuicStep folly config s real) := by
  unfold delQuicStep
  cases haddr : folly.parse real.address with
  | none =>
    rw [validateHost_of_none haddr]
    exact (rejected_within s).mono (by simp)
  | some raddr =>
    simp only [validateHost_of_some haddr]
    split_ifs
    · exact Within.refl _ s
    · split
      · exact Within.refl _ s
      · split_ifs
        · exact Within.refl _ s
        · exact ((decreaseRefCountForReal_within raddr s).mono (by simp)).trans
            (tables_within fun c hc ↦ by cases c <;> simp_all [Component.Same])

theorem mapQuicReal_within (raddr : IPAddress) (id : ℕ) (toUpdate : Finmap fun _ : ℕ ↦ ℕ)
    (s : State) :
    Within [.reals, .numToReals, .quicMapping] s (mapQuicReal config raddr id toUpdate s).2 := by
  have hinc : Within [.reals, .numToReals, .quicMapping] s
      (increaseRefCountForReal config raddr 0 s).2 :=
    (increaseRefCountForReal_within raddr 0 s).mono (by simp)
  unfold mapQuicReal
  dsimp only
  split_ifs
  · exact hinc
  · exact hinc.trans (tables_within fun c hc ↦ by cases c <;> simp_all [Component.Same])

theorem addQuicStep_within (acc : (Finmap fun _ : ℕ ↦ ℕ) × State) (real : QuicReal) :
    Within [.reals, .numToReals, .quicMapping] acc.2 (addQuicStep folly config acc real).2 := by
  obtain ⟨toUpdate, s⟩ := acc
  unfold addQuicStep
  cases haddr : folly.parse real.address with
  | none =>
    simp only [validateHost_of_none haddr]
    exact (rejected_within s).mono (by simp)
  | some raddr =>
    simp only [validateHost_of_some haddr]
    split_ifs
    · exact Within.refl _ s
    · split
      · exact mapQuicReal_within _ _ _ s
      · split_ifs
        · exact Within.refl _ s
        · exact ((decreaseRefCountForReal_within _ s).mono (by simp)).trans
            (mapQuicReal_within _ _ _ _)

theorem updateServerIdMap_within (s : State) (mapping : ℕ × ℕ) :
    Within [.serverIdMap] s (updateServerIdMap s mapping) :=
  bpfCall_within (fun _ ↦ rfl) (fun _ ↦ rfl) (by simp)

theorem modifyQuicRealsMapping_within (u : Unspecified) (action : ModifyAction)
    (reals : List QuicReal) (s : State) :
    Within [.reals, .numToReals, .quicMapping, .serverIdMap] s
      (modifyQuicRealsMapping folly config u action reals s) := by
  cases action with
  | del => exact (Within.foldl delQuicStep_within reals s).mono (by simp)
  | add =>
    have hadd : Within [.reals, .numToReals, .quicMapping, .serverIdMap] s
        (reals.foldl (addQuicStep folly config) (∅, s)).2 :=
      (Within.foldl_snd addQuicStep_within reals (∅, s)).mono (by simp)
    unfold modifyQuicRealsMapping
    dsimp only
    split_ifs
    · exact hadd
    · exact hadd.trans ((Within.foldl updateServerIdMap_within _ _).mono (by simp))

theorem invalidateServerIds_within (serverIds : List ℤ) (s : State) :
    Within [.serverIdMap] s (invalidateServerIds serverIds s) :=
  Within.foldl (fun s _ ↦ updateServerIdMap_within s _) serverIds s

theorem revalidateServerIds_within (quicReals : List QuicReal) (s : State) :
    Within [.serverIdMap] s (revalidateServerIds folly config quicReals s) := by
  refine Within.foldl (fun s real ↦ ?_) quicReals s
  have hindex : Within [] s (getIndexForReal folly config real.address s).2 :=
    getIndexForReal_within real.address s
  generalize getIndexForReal folly config real.address s = found at hindex ⊢
  obtain ⟨index, s'⟩ := found
  cases index with
  | none => exact hindex.mono (by simp)
  | some realIndex => exact (hindex.mono (by simp)).trans (updateServerIdMap_within _ _)

/-! ## Settings -/

theorem addInlineDecapDst_within (dst : String) (s : State) :
    Within [] s (addInlineDecapDst folly config dst s).2 := by
  unfold addInlineDecapDst
  split
  · exact Within.refl _ s
  · cases haddr : folly.parse dst with
    | none =>
      rw [validateHost_of_none haddr]
      exact rejected_within s
    | some daddr =>
      have hnew : Within [] s { s with
          tables.decapDsts := insert daddr s.tables.decapDsts } :=
        tables_within fun c _ ↦ by cases c <;> simp [Component.Same]
      simp only [validateHost_of_some haddr]
      split_ifs
      · exact Within.refl _ s
      · exact Within.refl _ s
      · exact hnew
      · exact hnew.trans (bpfCall_within_nil rfl rfl rfl)

theorem delInlineDecapDst_within (dst : String) (s : State) :
    Within [] s (delInlineDecapDst folly config dst s).2 := by
  unfold delInlineDecapDst
  split
  · exact Within.refl _ s
  · cases haddr : folly.parse dst with
    | none =>
      rw [validateHost_of_none haddr]
      exact rejected_within s
    | some daddr =>
      have hgone : Within [] s { s with
          tables.decapDsts := s.tables.decapDsts.erase daddr } :=
        tables_within fun c _ ↦ by cases c <;> simp [Component.Same]
      simp only [validateHost_of_some haddr]
      split_ifs
      · exact hgone
      · exact hgone.trans (bpfCall_within_nil rfl rfl rfl)
      · exact Within.refl _ s

theorem setHcReal_within (somark : ℕ) (addr : Option BeAddr) (s : State) :
    Within [] s (setHcReal config somark addr s).2 := by
  unfold setHcReal
  split_ifs
  · exact Within.refl _ s
  · exact bpfCall_within_nil rfl rfl rfl

theorem addHealthcheckerDst_within (somark : ℕ) (dst : String) (s : State) :
    Within [] s (addHealthcheckerDst folly config somark dst s).2 := by
  unfold addHealthcheckerDst
  split
  · exact Within.refl _ s
  · cases haddr : folly.parse dst with
    | none =>
      rw [validateHost_of_none haddr]
      exact rejected_within s
    | some hcaddr =>
      simp only [validateHost_of_some haddr]
      split
      · exact Within.refl _ s
      · have hset := @setHcReal_within config somark
          (some (hcRealAddr s.features.directHealthchecking hcaddr)) s
        split
        · exact hset.trans (tables_within fun c _ ↦ by cases c <;> simp [Component.Same])
        · exact hset

theorem delHealthcheckerDst_within (somark : ℕ) (s : State) :
    Within [] s (delHealthcheckerDst config somark s).2 := by
  unfold delHealthcheckerDst
  split
  · exact Within.refl _ s
  · split
    · exact Within.refl _ s
    · have hset := @setHcReal_within config somark none s
      dsimp only
      split
      · exact hset.trans (tables_within fun c _ ↦ by cases c <;> simp [Component.Same])
      · exact hset

theorem changeMac_within (newMac : List (BitVec 8)) (s : State) :
    Within [] s (changeMac config newMac s).2 := by
  unfold changeMac
  have hmac : Within [] s { s with tables.ctlMac := newMac } :=
    tables_within fun c _ ↦ by cases c <;> simp [Component.Same]
  split_ifs
  · exact Within.refl _ s
  · exact hmac
  · have hctl : Within [] s (State.bpfCall (fun maps ↦ { maps with
        ctlArray := Function.update maps.ctlArray kMacAddrPos newMac })
        { s with tables.ctlMac := newMac }).2 :=
      hmac.trans (bpfCall_within_nil rfl rfl rfl)
    dsimp only
    split_ifs
    · exact hctl
    · exact hctl.trans (bpfCall_within_nil rfl rfl rfl)
    · exact hctl

theorem logVipLruMissStats_within (vip : VipKey) (s : State) :
    Within [] s (logVipLruMissStats folly config vip s).2 := by
  unfold logVipLruMissStats
  cases haddr : folly.parse vip.address with
  | none =>
    rw [validateHost_of_none haddr]
    exact rejected_within s
  | some address =>
    simp only [validateHost_of_some haddr]
    generalize ({ vip with address := folly.str address } : VipKey) = canonical
    have hsampled : Within [] s { s with tables.lruMissStatsVip := some canonical } :=
      tables_within fun c _ ↦ by cases c <;> simp [Component.Same]
    split
    · exact hsampled
    · exact hsampled.trans (bpfCall_within_nil rfl rfl rfl)

theorem readLruMissStats_within (nums : List ℕ) (s : State) :
    Within [.numToReals] s (readLruMissStats nums s).2 := by
  induction nums generalizing s with
  | nil => exact Within.refl _ s
  | cons num nums ih =>
    have hread : Within [.numToReals] s (s.bpfCall id).2 :=
      (bpfCall_within_nil rfl rfl rfl).mono (by simp)
    unfold readLruMissStats
    dsimp only
    split_ifs
    · exact hread
    · exact (hread.trans (numToRealsAt_within num _)).trans (ih _)

theorem getVipLruMissStats_within (u : Unspecified) (vip : VipKey) (s : State) :
    Within [.numToReals] s (getVipLruMissStats folly config u vip s).2 := by
  unfold getVipLruMissStats
  cases haddr : folly.parse vip.address with
  | none =>
    rw [validateHost_of_none haddr]
    exact (rejected_within s).mono (by simp)
  | some address =>
    simp only [validateHost_of_some haddr]
    split_ifs
    · exact Within.refl _ s
    · split
      · exact Within.refl _ s
      · exact readLruMissStats_within _ s

/-! ## Every call -/

def Op.footprint : Op → List Component
  | .addVip .. => [.vips, .vipNums, .vipMap]
  | .delVip .. => [.vips, .vipNums, .vipMap, .reals, .numToReals]
  | .modifyVip .. => [.vips, .vipMap]
  | .changeHashFunctionForVip .. => [.vips, .chRings]
  | .addHcKey .. | .delHcKey .. => [.hckeys]
  | .modifyReal .. => [.reals]
  | .modifyRealsForVip .. => [.vips, .reals, .numToReals, .chRings]
  | .getRealsForVip .. => [.reals, .numToReals]
  | .addSrcRoutingRule .. | .addSrcRoutingRuleText .. | .delSrcRoutingRule ..
  | .delSrcRoutingRuleText .. | .clearAllSrcRoutingRules =>
    [.reals, .numToReals, .lpmSrcMapping]
  | .getSrcRoutingRule | .getVipLruMissStats .. => [.numToReals]
  | .modifyQuicRealsMapping .. => [.reals, .numToReals, .quicMapping, .serverIdMap]
  | .invalidateServerIds .. | .revalidateServerIds .. => [.serverIdMap]
  | .getIndexForReal .. | .addInlineDecapDst .. | .delInlineDecapDst ..
  | .addHealthcheckerDst .. | .delHealthcheckerDst .. | .changeMac ..
  | .logVipLruMissStats .. | .featureDiscovering .. => []

theorem step_within {s s' : State} {call : Call} (h : step folly config chash s call = some s') :
    Within call.op.footprint s s' := by
  obtain ⟨op, u⟩ := call
  cases op with
  | addVip vip flags => exact Option.some.inj h ▸ addVip_within vip flags s
  | delVip vip => exact Option.some.inj h ▸ delVip_within u vip s
  | modifyVip vip flag set => exact Option.some.inj h ▸ modifyVip_within vip flag set s
  | changeHashFunctionForVip vip func =>
    obtain ⟨reply, hcall, rfl⟩ := Option.map_eq_some_iff.mp h
    exact changeHashFunctionForVip_within hcall
  | addHcKey hcKey => exact Option.some.inj h ▸ addHcKey_within hcKey s
  | delHcKey hcKey => exact Option.some.inj h ▸ delHcKey_within hcKey s
  | modifyReal real flags set => exact Option.some.inj h ▸ modifyReal_within real flags set s
  | modifyRealsForVip action reals vip =>
    obtain ⟨reply, hcall, rfl⟩ := Option.map_eq_some_iff.mp h
    exact modifyRealsForVip_within hcall
  | getRealsForVip vip => exact Option.some.inj h ▸ getRealsForVip_within u vip s
  | getIndexForReal real => exact Option.some.inj h ▸ getIndexForReal_within real s
  | addSrcRoutingRule srcs dst => exact Option.some.inj h ▸ addSrcRoutingRule_within srcs dst s
  | addSrcRoutingRuleText srcs dst =>
    exact Option.some.inj h ▸ addSrcRoutingRuleText_within srcs dst s
  | delSrcRoutingRule srcs => exact Option.some.inj h ▸ delSrcRoutingRule_within srcs s
  | delSrcRoutingRuleText srcs => exact Option.some.inj h ▸ delSrcRoutingRuleText_within srcs s
  | clearAllSrcRoutingRules =>
    obtain ⟨reply, hcall, rfl⟩ := Option.map_eq_some_iff.mp h
    exact clearAllSrcRoutingRules_within u hcall
  | getSrcRoutingRule => exact Option.some.inj h ▸ getSrcRoutingRuleCidr_within u s
  | modifyQuicRealsMapping action reals =>
    exact Option.some.inj h ▸ modifyQuicRealsMapping_within u action reals s
  | invalidateServerIds serverIds =>
    exact Option.some.inj h ▸ invalidateServerIds_within serverIds s
  | revalidateServerIds quicReals =>
    exact Option.some.inj h ▸ revalidateServerIds_within quicReals s
  | addInlineDecapDst dst => exact Option.some.inj h ▸ addInlineDecapDst_within dst s
  | delInlineDecapDst dst => exact Option.some.inj h ▸ delInlineDecapDst_within dst s
  | addHealthcheckerDst somark dst =>
    exact Option.some.inj h ▸ addHealthcheckerDst_within somark dst s
  | delHealthcheckerDst somark => exact Option.some.inj h ▸ delHealthcheckerDst_within somark s
  | changeMac newMac => exact Option.some.inj h ▸ changeMac_within newMac s
  | logVipLruMissStats vip => exact Option.some.inj h ▸ logVipLruMissStats_within vip s
  | getVipLruMissStats vip =>
    exact (Option.some.inj h ▸ getVipLruMissStats_within u vip s : Within [.numToReals] s s')
  | featureDiscovering features =>
    obtain rfl := Option.some.inj h
    refine ⟨fun c _ ↦ ?_, List.suffix_refl _⟩
    cases c <;> simp [Component.Same]

end Vsoshlb
