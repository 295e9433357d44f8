import Vsoshlb.Library.Image
import Vsoshlb.ControlPlane.Footprint
import Vsoshlb.DataPlane.HealthcheckFrames

/-!
# The destinations of health checks

`addHealthcheckerDst` and `delHealthcheckerDst` write `hc_reals_map` before `hcReals_`, and leave
the table alone when the write fails. So the map has the address of every destination, and of
nothing else, whichever of the calls of the adapter fail. No other call touches the two.
-/

namespace Vsoshlb

open HashTable

variable {folly : Folly} {config : Config} {chash : HashFunction → ConsistentHash} {s s' : State}

/-! ## Calls that are not about health checks -/

/-- The table, its map, and the way an address is written. -/
def State.health (s : State) : (Finmap fun _ : ℕ ↦ IPAddress) × (ℕ → Option BeAddr) × Features :=
  (s.tables.hcReals, s.maps.hcRealsMap, s.features)

/-- A write to another map. -/
theorem bpfCall_health {write : BpfMaps → BpfMaps}
    (hwrite : (write s.maps).hcRealsMap = s.maps.hcRealsMap) :
    (s.bpfCall write).2.health = s.health := by
  rw [State.health, State.bpfCall_tables, State.bpfCall_maps, State.bpfCall_features]
  split_ifs
  · rw [hwrite]
    rfl
  · rfl

theorem validateAddress_health (addr : String) (allowNetAddr : Bool) (s : State) :
    (validateAddress folly config addr allowNetAddr s).2.health = s.health := by
  unfold validateAddress
  split_ifs
  · rfl
  · rfl
  · rfl

theorem numToRealsAt_health (num : ℕ) (s : State) : (numToRealsAt num s).2.health = s.health := by
  unfold numToRealsAt
  cases s.tables.numToReals.lookup num with
  | some real => rfl
  | none => rfl

theorem decreaseRefCountForReal_health (real : IPAddress) (s : State) :
    (decreaseRefCountForReal real s).health = s.health := by
  unfold decreaseRefCountForReal
  cases s.tables.reals.lookup real with
  | none => rfl
  | some r =>
    dsimp only
    split_ifs
    · rfl
    · rfl

theorem increaseRefCountForReal_health (real : IPAddress) (flags : BitVec 8) (s : State) :
    (increaseRefCountForReal config real flags s).2.health = s.health := by
  unfold increaseRefCountForReal
  dsimp only
  cases s.tables.reals.lookup real with
  | some r => rfl
  | none =>
    cases s.tables.realNums with
    | nil => rfl
    | cons rnum realNums =>
      dsimp only
      split_ifs
      · rfl
      · exact bpfCall_health rfl

theorem programHashRing_health (u : Unspecified) (chPositions : List RealPos) (vipNum : ℕ)
    (s : State) : (programHashRing config u chPositions vipNum s).health = s.health := by
  unfold programHashRing
  split_ifs
  · rfl
  · rfl
  · exact bpfCall_health rfl

theorem updateVipMap_health (action : ModifyAction) (vip : VipKey) (vmeta : VipMeta) (s : State) :
    (updateVipMap folly action vip vmeta s).2.health = s.health := by
  unfold updateVipMap
  cases vipKeyToVipDefinition folly vip with
  | none => rfl
  | some vipDef => exact bpfCall_health rfl

theorem addVip_health (vip : VipKey) (flags : BitVec 32) (s : State) :
    (addVip folly config vip flags s).2.health = s.health := by
  rcases @addVip_cases folly config vip flags s with
    ⟨-, s', hcall, rfl | rfl⟩ | ⟨-, vipNum, vipNums, vipDef, taken, -, -, rfl, hcall⟩
  · rw [hcall]
  · rw [hcall]
    rfl
  · rw [hcall]
    dsimp only
    split_ifs
    · rfl
    · exact bpfCall_health rfl

theorem delVip_health (u : Unspecified) (vip : VipKey) (s : State) :
    (delVip folly config u vip s).2.health = s.health := by
  unfold delVip
  cases s.tables.vips.lookup vip with
  | none => rfl
  | some v =>
    have hreleased : (releaseVipReals (v.getReals u.vipReals) s).health = s.health :=
      Runs.foldl_invariant (fun t ↦ t.health = s.health) rfl (v.getReals u.vipReals)
        fun t num ht ↦ (decreaseRefCountForReal_health _ _).trans
          ((numToRealsAt_health num t).trans ht)
    dsimp only
    generalize releaseVipReals (v.getReals u.vipReals) s = released at hreleased ⊢
    split_ifs
    · exact hreleased
    · have hupdated := @updateVipMap_health folly .del vip ⟨0, 0⟩
        { released with tables.vipNums := released.tables.vipNums ++ [v.vipNum] }
      generalize updateVipMap folly .del vip ⟨0, 0⟩ _ = updated at hupdated ⊢
      obtain ⟨reply, updated⟩ := updated
      cases reply with
      | none => exact hupdated.trans hreleased
      | some ok => exact hupdated.trans hreleased

theorem modifyVip_health (vip : VipKey) (flag : BitVec 32) (set : Bool) (s : State) :
    (modifyVip folly config vip flag set s).2.health = s.health := by
  unfold modifyVip
  cases s.tables.vips.lookup vip with
  | none => rfl
  | some v =>
    dsimp only
    generalize (if set = true then v.setVipFlags flag else v.unsetVipFlags flag) = w
    split_ifs
    · rfl
    · exact updateVipMap_health _ _ _ _

theorem changeHashFunctionForVip_health {u : Unspecified} {vip : VipKey} {func : HashFunction}
    {reply : Bool × State}
    (hcall : changeHashFunctionForVip folly config chash u vip func s = some reply) :
    reply.2.health = s.health := by
  rcases changeHashFunctionForVip_cases hcall with
    (rfl | rfl) | ⟨v, positions, w, -, -, rfl⟩
  · rfl
  · rfl
  · exact programHashRing_health u positions w.vipNum _

theorem updateHcKeyMap_health (action : ModifyAction) (hcKey : VipKey) (hcKeyId : ℕ) (s : State) :
    (updateHcKeyMap folly action hcKey hcKeyId s).2.health = s.health := by
  unfold updateHcKeyMap
  cases vipKeyToVipDefinition folly hcKey with
  | none => rfl
  | some vipDef => exact bpfCall_health rfl

theorem addHcKey_health (hcKey : VipKey) (s : State) :
    (addHcKey folly config hcKey s).2.health = s.health := by
  unfold addHcKey
  by_cases henabled : config.enableHc = false
  · rw [if_pos henabled]
  · rw [if_neg henabled]
    cases s.tables.hcKeyNums with
    | nil => rfl
    | cons hcKeyNum hcKeyNums =>
      dsimp only
      split_ifs
      · rfl
      · rfl
      · exact updateHcKeyMap_health _ _ _ _

theorem delHcKey_health (hcKey : VipKey) (s : State) :
    (delHcKey folly config hcKey s).2.health = s.health := by
  unfold delHcKey
  by_cases henabled : config.enableHc = false
  · rw [if_pos henabled]
  · rw [if_neg henabled]
    cases s.tables.hckeys.lookup hcKey with
    | none => rfl
    | some hcKeyNum =>
      dsimp only
      split_ifs
      · rfl
      · exact updateHcKeyMap_health _ _ _ _

theorem modifyReal_health (real : String) (flags : BitVec 8) (set : Bool) (s : State) :
    (modifyReal folly config real flags set s).2.health = s.health := by
  unfold modifyReal
  cases haddr : folly.parse real with
  | none =>
    simp only [validateHost_of_none haddr]
    rfl
  | some raddr =>
    simp only [validateHost_of_some haddr]
    cases s.tables.reals.lookup raddr with
    | none => rfl
    | some r =>
      dsimp only
      split_ifs
      · rfl
      · rfl
      · exact bpfCall_health rfl
      · exact bpfCall_health rfl

theorem modifyRealsForVip_health {u : Unspecified} {action : ModifyAction} {reals : List NewReal}
    {vip : VipKey} {reply : Bool × State}
    (hcall : modifyRealsForVip folly config chash u action reals vip s = some reply) :
    reply.2.health = s.health := by
  rcases modifyRealsForVip_cases hcall with
    rfl | ⟨v, batch, looped, positions, w, -, hloop, -, rfl⟩
  · rfl
  · have hlooped : (realsLoop folly config action reals
        (⟨v.getReals u.vipReals, []⟩, s)).2.health = s.health :=
      realsLoop_invariant (I := fun t ↦ t.health = s.health) (fun _ ht ↦ ht)
        (fun raddr flags t _ ht ↦ (increaseRefCountForReal_health raddr flags t).trans ht)
        (fun raddr t ht ↦ (decreaseRefCountForReal_health raddr t).trans ht) action reals rfl
    rw [hloop] at hlooped
    exact (programHashRing_health u positions w.vipNum _).trans hlooped

theorem getRealsForVip_health (u : Unspecified) (vip : VipKey) (s : State) :
    (getRealsForVip u vip s).2.health = s.health := by
  unfold getRealsForVip
  cases s.tables.vips.lookup vip with
  | none => rfl
  | some v =>
    refine Runs.foldl_invariant
      (fun acc : List (IPAddress × ℕ × BitVec 8) × State ↦ acc.2.health = s.health) rfl
      (v.getRealsAndWeight u.vipReals) fun acc realId hacc ↦ ?_
    have hread := (numToRealsAt_health realId.num acc.2).trans hacc
    dsimp only
    split
    · exact hread
    · exact hread

theorem getIndexForReal_health (real : String) (s : State) :
    (getIndexForReal folly config real s).2.health = s.health := by
  unfold getIndexForReal
  cases haddr : folly.parse real with
  | none =>
    rw [validateHost_of_none haddr]
    rfl
  | some raddr => rw [validateHost_of_some haddr]

theorem modifyLpmSrcRule_health (action : ModifyAction) (src : CIDRNetwork) (rnum : ℕ)
    (s : State) : (modifyLpmSrcRule action src rnum s).2.health = s.health :=
  bpfCall_health rfl

theorem addSrcNetworks_health (dst : IPAddress) (srcs : List CIDRNetwork) (s : State) :
    (addSrcNetworks config dst srcs s).2.health = s.health := by
  induction srcs generalizing s with
  | nil => rfl
  | cons src srcs ih =>
    have hincreased := @increaseRefCountForReal_health config dst 0 s
    rw [addSrcNetworks]
    generalize increaseRefCountForReal config dst 0 s = increased at hincreased ⊢
    dsimp only
    split_ifs
    · rfl
    · exact hincreased
    · exact (ih _).trans hincreased
    · exact (ih _).trans ((modifyLpmSrcRule_health _ _ _ _).trans hincreased)

theorem addSrcRoutingRule_health (srcs : List CIDRNetwork) (dst : String) (s : State) :
    (addSrcRoutingRule folly config srcs dst s).2.health = s.health := by
  unfold addSrcRoutingRule
  split_ifs
  · rfl
  · cases haddr : folly.parse dst with
    | none =>
      rw [validateHost_of_none haddr]
      rfl
    | some raddr =>
      rw [validateHost_of_some haddr]
      exact addSrcNetworks_health raddr srcs s

theorem collectNetworks_health (total : ℕ) (srcs : List String) (networks : List CIDRNetwork)
    (numErrors : ℤ) (s : State) :
    (collectNetworks folly config total srcs networks numErrors s).2.2.health = s.health := by
  induction srcs generalizing networks numErrors s with
  | nil => rfl
  | cons src srcs ih =>
    have hvalidated := @validateAddress_health folly config src true s
    rw [collectNetworks]
    generalize validateAddress folly config src true s = validated at hvalidated ⊢
    obtain ⟨kind, s'⟩ := validated
    cases kind with
    | network =>
      dsimp only
      split_ifs
      · exact hvalidated
      · exact (ih _ _ _).trans hvalidated
    | invalid => exact (ih _ _ _).trans hvalidated
    | host => exact (ih _ _ _).trans hvalidated

theorem addSrcRoutingRuleText_health (srcs : List String) (dst : String) (s : State) :
    (addSrcRoutingRuleText folly config srcs dst s).2.health = s.health := by
  unfold addSrcRoutingRuleText
  split_ifs
  · rfl
  · cases haddr : folly.parse dst with
    | none =>
      simp only [validateHost_of_none haddr]
      rfl
    | some raddr =>
      simp only [validateHost_of_some haddr]
      exact (addSrcRoutingRule_health _ _ _).trans (collectNetworks_health _ _ _ _ s)

theorem delSrcNetwork_health (src : CIDRNetwork) (s : State) :
    (delSrcNetwork config s src).health = s.health := by
  unfold delSrcNetwork
  cases s.tables.lpmSrcMapping.lookup src with
  | none => rfl
  | some rnum =>
    have hdecreased := (decreaseRefCountForReal_health (numToRealsAt rnum s).1 _).trans
      (numToRealsAt_health rnum s)
    dsimp only
    split_ifs
    · exact hdecreased
    · exact (modifyLpmSrcRule_health _ _ _ _).trans hdecreased

theorem delSrcRoutingRule_health (srcs : List CIDRNetwork) (s : State) :
    (delSrcRoutingRule config srcs s).2.health = s.health := by
  unfold delSrcRoutingRule
  split_ifs
  · rfl
  · exact Runs.foldl_invariant (fun t ↦ t.health = s.health) rfl srcs
      fun t src ht ↦ (delSrcNetwork_health src t).trans ht

theorem delSrcRoutingRuleText_health (srcs : List String) (s : State) :
    (delSrcRoutingRuleText folly config srcs s).2.health = s.health := by
  unfold delSrcRoutingRuleText
  split_ifs
  · rfl
  · exact delSrcRoutingRule_health _ s

theorem clearSrcRule_health {rule : CIDRNetwork × ℕ}
    (hrule : clearSrcRule config s rule = some s') : s'.health = s.health := by
  obtain ⟨dst, -, hrule⟩ := Option.bind_eq_some_iff.mp hrule
  rw [← Option.some.inj hrule]
  split_ifs
  · exact decreaseRefCountForReal_health dst s
  · exact (modifyLpmSrcRule_health _ _ _ _).trans (decreaseRefCountForReal_health dst s)

theorem clearAllSrcRoutingRules_health {u : Unspecified} {reply : Bool × State}
    (hcall : clearAllSrcRoutingRules config u s = some reply) : reply.2.health = s.health := by
  unfold clearAllSrcRoutingRules at hcall
  split_ifs at hcall
  · obtain rfl := Option.some.inj hcall
    rfl
  · obtain ⟨looped, hloop, hcall⟩ := Option.bind_eq_some_iff.mp hcall
    obtain rfl := Option.some.inj hcall
    exact Runs.invariant (I := fun t ↦ t.health = s.health)
      (fun _ _ _ ht hrule ↦ (clearSrcRule_health hrule).trans ht) rfl hloop

theorem getSrcRoutingRuleCidr_health (u : Unspecified) (s : State) :
    (getSrcRoutingRuleCidr config u s).2.health = s.health := by
  unfold getSrcRoutingRuleCidr
  split_ifs
  · rfl
  · exact Runs.foldl_invariant
      (fun acc : List (CIDRNetwork × IPAddress) × State ↦ acc.2.health = s.health) rfl _
      fun acc src hacc ↦ (numToRealsAt_health src.2 acc.2).trans hacc

theorem delQuicStep_health (real : QuicReal) (s : State) :
    (delQuicStep folly config s real).health = s.health := by
  unfold delQuicStep
  cases haddr : folly.parse real.address with
  | none =>
    simp only [validateHost_of_none haddr]
    rfl
  | some raddr =>
    simp only [validateHost_of_some haddr]
    split_ifs
    · rfl
    · cases s.tables.quicMapping.lookup real.id with
      | none => rfl
      | some current =>
        dsimp only
        split_ifs
        · rfl
        · exact decreaseRefCountForReal_health raddr s

theorem mapQuicReal_health (raddr : IPAddress) (id : ℕ) (toUpdate : Finmap fun _ : ℕ ↦ ℕ)
    (s : State) : (mapQuicReal config raddr id toUpdate s).2.health = s.health := by
  have hincreased := @increaseRefCountForReal_health config raddr 0 s
  unfold mapQuicReal
  dsimp only
  split_ifs
  · exact hincreased
  · exact hincreased

theorem addQuicStep_health (acc : (Finmap fun _ : ℕ ↦ ℕ) × State) (real : QuicReal) :
    (addQuicStep folly config acc real).2.health = acc.2.health := by
  obtain ⟨toUpdate, s⟩ := acc
  unfold addQuicStep
  cases haddr : folly.parse real.address with
  | none =>
    simp only [validateHost_of_none haddr]
    rfl
  | some raddr =>
    simp only [validateHost_of_some haddr]
    split_ifs
    · rfl
    · cases s.tables.quicMapping.lookup real.id with
      | none => exact mapQuicReal_health raddr real.id toUpdate s
      | some current =>
        dsimp only
        split_ifs
        · rfl
        · exact (mapQuicReal_health _ _ _ _).trans (decreaseRefCountForReal_health current s)

theorem updateServerIdMap_health (s : State) (mapping : ℕ × ℕ) :
    (updateServerIdMap s mapping).health = s.health :=
  bpfCall_health rfl

theorem modifyQuicRealsMapping_health (u : Unspecified) (action : ModifyAction)
    (reals : List QuicReal) (s : State) :
    (modifyQuicRealsMapping folly config u action reals s).health = s.health := by
  cases action with
  | del =>
    exact Runs.foldl_invariant (fun t ↦ t.health = s.health) rfl reals
      fun t real ht ↦ (delQuicStep_health real t).trans ht
  | add =>
    have hlooped : (reals.foldl (addQuicStep folly config) (∅, s)).2.health = s.health :=
      Runs.foldl_invariant
        (fun acc : (Finmap fun _ : ℕ ↦ ℕ) × State ↦ acc.2.health = s.health) rfl reals
        fun acc real hacc ↦ (addQuicStep_health acc real).trans hacc
    unfold modifyQuicRealsMapping
    dsimp only
    split_ifs
    · exact hlooped
    · exact Runs.foldl_invariant (fun t ↦ t.health = s.health) hlooped _
        fun t mapping ht ↦ (updateServerIdMap_health t mapping).trans ht

theorem invalidateServerIds_health (serverIds : List ℤ) (s : State) :
    (invalidateServerIds serverIds s).health = s.health :=
  Runs.foldl_invariant (fun t : State ↦ t.health = s.health) rfl serverIds
    fun t _ ht ↦ (updateServerIdMap_health t _).trans ht

theorem revalidateServerIds_health (quicReals : List QuicReal) (s : State) :
    (revalidateServerIds folly config quicReals s).health = s.health := by
  refine Runs.foldl_invariant (fun t : State ↦ t.health = s.health) rfl quicReals
    fun t real ht ↦ ?_
  have hindex := @getIndexForReal_health folly config real.address t
  generalize getIndexForReal folly config real.address t = found at hindex ⊢
  obtain ⟨index, t'⟩ := found
  cases index with
  | none => exact hindex.trans ht
  | some realIndex => exact (updateServerIdMap_health t' _).trans (hindex.trans ht)

theorem addInlineDecapDst_health (dst : String) (s : State) :
    (addInlineDecapDst folly config dst s).2.health = s.health := by
  unfold addInlineDecapDst
  split
  · rfl
  · cases haddr : folly.parse dst with
    | none =>
      simp only [validateHost_of_none haddr]
      rfl
    | some daddr =>
      simp only [validateHost_of_some haddr]
      split_ifs
      · rfl
      · rfl
      · rfl
      · exact bpfCall_health rfl

theorem delInlineDecapDst_health (dst : String) (s : State) :
    (delInlineDecapDst folly config dst s).2.health = s.health := by
  unfold delInlineDecapDst
  split
  · rfl
  · cases haddr : folly.parse dst with
    | none =>
      simp only [validateHost_of_none haddr]
      rfl
    | some daddr =>
      simp only [validateHost_of_some haddr]
      split_ifs
      · rfl
      · exact bpfCall_health rfl
      · rfl

theorem changeMac_health (newMac : List (BitVec 8)) (s : State) :
    (changeMac config newMac s).2.health = s.health := by
  unfold changeMac
  split_ifs
  · rfl
  · rfl
  · have hctl : (State.bpfCall (fun maps ↦ { maps with
        ctlArray := Function.update maps.ctlArray kMacAddrPos newMac })
        { s with tables.ctlMac := newMac }).2.health = s.health := bpfCall_health rfl
    dsimp only
    split_ifs
    · exact hctl
    · exact (bpfCall_health rfl).trans hctl
    · exact hctl

theorem logVipLruMissStats_health (vip : VipKey) (s : State) :
    (logVipLruMissStats folly config vip s).2.health = s.health := by
  unfold logVipLruMissStats
  cases haddr : folly.parse vip.address with
  | none =>
    rw [validateHost_of_none haddr]
    rfl
  | some address =>
    simp only [validateHost_of_some haddr]
    generalize ({ vip with address := folly.str address } : VipKey) = canonical
    cases vipKeyToVipDefinition folly canonical with
    | none => rfl
    | some vipDef => exact bpfCall_health rfl

theorem readLruMissStats_health (nums : List ℕ) (s : State) :
    (readLruMissStats nums s).2.health = s.health := by
  induction nums generalizing s with
  | nil => rfl
  | cons num nums ih =>
    have hread : (s.bpfCall id).2.health = s.health := bpfCall_health rfl
    unfold readLruMissStats
    dsimp only
    split_ifs
    · exact hread
    · exact (ih _).trans ((numToRealsAt_health num _).trans hread)

theorem getVipLruMissStats_health (u : Unspecified) (vip : VipKey) (s : State) :
    (getVipLruMissStats folly config u vip s).2.health = s.health := by
  unfold getVipLruMissStats
  cases haddr : folly.parse vip.address with
  | none =>
    rw [validateHost_of_none haddr]
    rfl
  | some address =>
    simp only [validateHost_of_some haddr]
    split_ifs
    · rfl
    · split
      · rfl
      · exact readLruMissStats_health _ s

/-- The calls that change the destinations or how they are written. -/
def Op.ChangesHealth : Op → Prop
  | .addHealthcheckerDst .. | .delHealthcheckerDst .. | .featureDiscovering .. => True
  | _ => False

theorem step_health {call : Call} (hop : ¬ call.op.ChangesHealth)
    (hstep : step folly config chash s call = some s') : s'.health = s.health := by
  obtain ⟨op, u⟩ := call
  cases op with
  | addVip vip flags => exact Option.some.inj hstep ▸ addVip_health vip flags s
  | delVip vip => exact Option.some.inj hstep ▸ delVip_health u vip s
  | modifyVip vip flag set => exact Option.some.inj hstep ▸ modifyVip_health vip flag set s
  | changeHashFunctionForVip vip func =>
    obtain ⟨reply, hcall, rfl⟩ := Option.map_eq_some_iff.mp hstep
    exact changeHashFunctionForVip_health hcall
  | addHcKey hcKey => exact Option.some.inj hstep ▸ addHcKey_health hcKey s
  | delHcKey hcKey => exact Option.some.inj hstep ▸ delHcKey_health hcKey s
  | modifyReal real flags set => exact Option.some.inj hstep ▸ modifyReal_health real flags set s
  | modifyRealsForVip action reals vip =>
    obtain ⟨reply, hcall, rfl⟩ := Option.map_eq_some_iff.mp hstep
    exact modifyRealsForVip_health hcall
  | getRealsForVip vip => exact Option.some.inj hstep ▸ getRealsForVip_health u vip s
  | getIndexForReal real => exact Option.some.inj hstep ▸ getIndexForReal_health real s
  | addSrcRoutingRule srcs dst =>
    exact Option.some.inj hstep ▸ addSrcRoutingRule_health srcs dst s
  | addSrcRoutingRuleText srcs dst =>
    exact Option.some.inj hstep ▸ addSrcRoutingRuleText_health srcs dst s
  | delSrcRoutingRule srcs => exact Option.some.inj hstep ▸ delSrcRoutingRule_health srcs s
  | delSrcRoutingRuleText srcs =>
    exact Option.some.inj hstep ▸ delSrcRoutingRuleText_health srcs s
  | clearAllSrcRoutingRules =>
    obtain ⟨reply, hcall, rfl⟩ := Option.map_eq_some_iff.mp hstep
    exact clearAllSrcRoutingRules_health hcall
  | getSrcRoutingRule => exact Option.some.inj hstep ▸ getSrcRoutingRuleCidr_health u s
  | modifyQuicRealsMapping action reals =>
    exact Option.some.inj hstep ▸ modifyQuicRealsMapping_health u action reals s
  | invalidateServerIds serverIds =>
    exact Option.some.inj hstep ▸ invalidateServerIds_health serverIds s
  | revalidateServerIds quicReals =>
    exact Option.some.inj hstep ▸ revalidateServerIds_health quicReals s
  | addInlineDecapDst dst => exact Option.some.inj hstep ▸ addInlineDecapDst_health dst s
  | delInlineDecapDst dst => exact Option.some.inj hstep ▸ delInlineDecapDst_health dst s
  | addHealthcheckerDst somark dst => exact absurd trivial hop
  | delHealthcheckerDst somark => exact absurd trivial hop
  | changeMac newMac => exact Option.some.inj hstep ▸ changeMac_health newMac s
  | logVipLruMissStats vip => exact Option.some.inj hstep ▸ logVipLruMissStats_health vip s
  | getVipLruMissStats vip => exact Option.some.inj hstep ▸ getVipLruMissStats_health u vip s
  | featureDiscovering features => exact absurd trivial hop

/-! ## The map of the destinations -/

/-- `hc_reals_map` has the destinations, as the given way of writing addresses has them. -/
def HcRealsShown (direct : Bool) (s : State) : Prop :=
  ∀ somark, s.maps.hcRealsMap somark =
    (s.tables.hcReals.lookup somark).map (hcRealAddr direct)

theorem HcRealsShown.of_health {direct : Bool} (h : HcRealsShown direct s)
    (hsame : s'.health = s.health) : HcRealsShown direct s' := by
  intro somark
  have htable : s'.tables.hcReals = s.tables.hcReals := congrArg Prod.fst hsame
  have hmap : s'.maps.hcRealsMap = s.maps.hcRealsMap := congrArg (fun health ↦ health.2.1) hsame
  calc s'.maps.hcRealsMap somark = s.maps.hcRealsMap somark := congrFun hmap somark
    _ = (s.tables.hcReals.lookup somark).map (hcRealAddr direct) := h somark
    _ = (s'.tables.hcReals.lookup somark).map (hcRealAddr direct) := by rw [htable]

section Writes

variable {direct : Bool} {somark : ℕ} {addr : Option BeAddr}

theorem setHcReal_tables (addr : Option BeAddr) (s : State) :
    (setHcReal config somark addr s).2.tables = s.tables := by
  unfold setHcReal
  split_ifs
  · rfl
  · exact State.bpfCall_tables _ _

theorem setHcReal_features (addr : Option BeAddr) (s : State) :
    (setHcReal config somark addr s).2.features = s.features := by
  unfold setHcReal
  split_ifs
  · rfl
  · exact State.bpfCall_features _ _

/-- The map after a call of the adapter that succeeds. -/
theorem setHcReal_map (htesting : config.testing = false)
    (hok : (setHcReal config somark addr s).1 = true) :
    (setHcReal config somark addr s).2.maps.hcRealsMap =
      Function.update s.maps.hcRealsMap somark addr := by
  have hnot : ¬ config.testing = true := by
    rw [htesting]
    exact Bool.false_ne_true
  unfold setHcReal at hok ⊢
  rw [if_neg hnot] at hok ⊢
  rw [State.bpfCall_fst] at hok
  rw [State.bpfCall_maps, if_pos hok]

/-- A call of the adapter that fails. -/
theorem setHcReal_failed (hfailed : ¬ (setHcReal config somark addr s).1 = true) :
    (setHcReal config somark addr s).2.health = s.health := by
  unfold setHcReal at hfailed ⊢
  split_ifs at hfailed ⊢
  · exact absurd rfl hfailed
  · rw [State.bpfCall_fst] at hfailed
    rw [State.health, State.bpfCall_tables, State.bpfCall_maps, State.bpfCall_features,
      if_neg hfailed]
    rfl

/-- An entry that is written to the map and then to the table. -/
theorem HcRealsShown.write (h : HcRealsShown direct s) (entry : Option IPAddress)
    (hmap : s'.maps.hcRealsMap =
      Function.update s.maps.hcRealsMap somark (entry.map (hcRealAddr direct)))
    (htable : ∀ mark, s'.tables.hcReals.lookup mark =
      if mark = somark then entry else s.tables.hcReals.lookup mark) :
    HcRealsShown direct s' := by
  intro mark
  rw [hmap, htable]
  by_cases hmark : mark = somark
  · rw [if_pos hmark, hmark, Function.update_self]
  · rw [if_neg hmark, Function.update_of_ne hmark]
    exact h mark

theorem addHealthcheckerDst_shown (h : HcRealsShown direct s) (htesting : config.testing = false)
    (hdirect : s.features.directHealthchecking = direct) (dst : String) :
    HcRealsShown direct (addHealthcheckerDst folly config somark dst s).2 := by
  unfold addHealthcheckerDst
  split_ifs
  · exact h
  · cases haddr : folly.parse dst with
    | none =>
      simp only [validateHost_of_none haddr]
      exact h
    | some hcaddr =>
      simp only [validateHost_of_some haddr, hdirect]
      split_ifs with hfull hok
      · exact h
      · have hmap := setHcReal_map htesting hok
        refine h.write (some hcaddr) hmap fun mark ↦ ?_
        rw [setHcReal_tables, lookup_insert_ite]
      · exact h.of_health (setHcReal_failed hok)

theorem delHealthcheckerDst_shown (h : HcRealsShown direct s)
    (htesting : config.testing = false) :
    HcRealsShown direct (delHealthcheckerDst config somark s).2 := by
  unfold delHealthcheckerDst
  split_ifs
  · exact h
  · cases s.tables.hcReals.lookup somark with
    | none => exact h
    | some old =>
      dsimp only
      split_ifs with hok
      · have hmap := setHcReal_map htesting hok
        refine h.write none hmap fun mark ↦ ?_
        rw [setHcReal_tables, lookup_erase_ite]
      · exact h.of_health (setHcReal_failed hok)

theorem addHealthcheckerDst_features (dst : String) (s : State) :
    (addHealthcheckerDst folly config somark dst s).2.features = s.features := by
  unfold addHealthcheckerDst
  split_ifs
  · rfl
  · cases haddr : folly.parse dst with
    | none =>
      simp only [validateHost_of_none haddr]
      rfl
    | some hcaddr =>
      simp only [validateHost_of_some haddr]
      split_ifs
      · rfl
      · exact setHcReal_features _ _
      · exact setHcReal_features _ _

theorem delHealthcheckerDst_features (s : State) :
    (delHealthcheckerDst config somark s).2.features = s.features := by
  unfold delHealthcheckerDst
  split_ifs
  · rfl
  · cases s.tables.hcReals.lookup somark with
    | none => rfl
    | some old =>
      dsimp only
      split_ifs
      · exact setHcReal_features _ _
      · exact setHcReal_features _ _

end Writes

/-! ## Runs -/

/-- The call leaves the way addresses are written as it is. -/
def Op.KeepsDirect (direct : Bool) : Op → Prop
  | .featureDiscovering features => features.directHealthchecking = direct
  | _ => True

/-- The map and the way it is written. -/
def HcShown (direct : Bool) (s : State) : Prop :=
  HcRealsShown direct s ∧ s.features.directHealthchecking = direct

theorem step_hcShown {direct : Bool} (htesting : config.testing = false) {call : Call}
    (hcall : call.op.KeepsDirect direct) (h : HcShown direct s)
    (hstep : step folly config chash s call = some s') : HcShown direct s' := by
  by_cases hop : call.op.ChangesHealth
  · obtain ⟨op, u⟩ := call
    cases op with
    | addHealthcheckerDst somark dst =>
      obtain rfl := Option.some.inj hstep
      refine ⟨addHealthcheckerDst_shown h.1 htesting h.2 dst, ?_⟩
      rw [addHealthcheckerDst_features]
      exact h.2
    | delHealthcheckerDst somark =>
      obtain rfl := Option.some.inj hstep
      refine ⟨delHealthcheckerDst_shown h.1 htesting, ?_⟩
      rw [delHealthcheckerDst_features]
      exact h.2
    | featureDiscovering features =>
      obtain rfl := Option.some.inj hstep
      exact ⟨h.1, hcall⟩
    | _ => exact absurd hop not_false
  · have hsame := step_health hop hstep
    have hfeatures : s'.features = s.features := congrArg (fun health ↦ health.2.2) hsame
    exact ⟨h.1.of_health hsame, hfeatures ▸ h.2⟩

variable {mac : List (BitVec 8)} {features : Features} {maps : BpfMaps} {outcomes : List Bool}
variable {calls : List Call}

theorem run_hcShown (htesting : config.testing = false) (hmaps : maps.hcRealsMap = fun _ ↦ none)
    (hcalls : ∀ call ∈ calls, call.op.KeepsDirect features.directHealthchecking)
    (hrun : run folly config chash mac features maps outcomes calls = some s) :
    HcShown features.directHealthchecking s := by
  have hnew : HcShown features.directHealthchecking
      (State.new config mac features maps outcomes) := by
    refine ⟨fun somark ↦ ?_, rfl⟩
    change maps.hcRealsMap somark = _
    rw [hmaps]
    rfl
  have halong := @Runs.along_of_forall _ _ (step folly config chash) _ _ hcalls
    (State.new config mac features maps outcomes)
  exact Runs.invariant_of_along (fun s call s' h hcall hstep ↦ step_hcShown htesting hcall h hstep)
    hnew halong hrun

end Vsoshlb
