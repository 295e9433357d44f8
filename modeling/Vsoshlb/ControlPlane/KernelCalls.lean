import Vsoshlb.ControlPlane.KernelTables
import Vsoshlb.ControlPlane.SrcRuleCounts

/-!
# Calls and the kernel's tables

Every call, with one exception, keeps the kernel's reals, source rules and decapsulation addresses
in step with the tables. Most of them do not touch the three maps; the others write an entry with
each change of a table, except that `clearAllSrcRoutingRules` empties its table in the end.
-/

namespace Vsoshlb

open HashTable

variable {folly : Folly} {config : Config} {chash : HashFunction → ConsistentHash} {s s' : State}

/-! ## Calls on services -/

theorem programHashRing_apart (u : Unspecified) (chPositions : List RealPos) (vipNum : ℕ)
    (s : State) : Apart s (programHashRing config u chPositions vipNum s) := by
  unfold programHashRing
  split_ifs
  · exact Apart.refl s
  · exact Apart.refl s
  · exact bpfCall_apart rfl rfl rfl

theorem updateVipMap_apart (action : ModifyAction) (vip : VipKey) (vmeta : VipMeta) (s : State) :
    Apart s (updateVipMap folly action vip vmeta s).2 := by
  unfold updateVipMap
  cases vipKeyToVipDefinition folly vip with
  | none => exact Apart.refl s
  | some vipDef => exact bpfCall_apart rfl rfl rfl

theorem addVip_apart (vip : VipKey) (flags : BitVec 32) (s : State) :
    Apart s (addVip folly config vip flags s).2 := by
  rcases @addVip_cases folly config vip flags s with
    ⟨-, s', hcall, rfl | rfl⟩ | ⟨-, vipNum, vipNums, vipDef, taken, -, -, rfl, hcall⟩
  · rw [hcall]
    exact Apart.refl _
  · rw [hcall]
    exact rejected_apart s
  · have htaken : Apart s { s with
        tables.vipNums := vipNums
        tables.vips := s.tables.vips.insert vip
          (Vip.new vipNum flags config.chRingSize config.hashFunction) } := ⟨rfl, rfl, rfl, id⟩
    rw [hcall]
    dsimp only
    split_ifs
    · exact htaken
    · exact htaken.trans (bpfCall_apart rfl rfl rfl)

theorem modifyVip_apart (vip : VipKey) (flag : BitVec 32) (set : Bool) (s : State) :
    Apart s (modifyVip folly config vip flag set s).2 := by
  unfold modifyVip
  cases s.tables.vips.lookup vip with
  | none => exact Apart.refl s
  | some v =>
    dsimp only
    generalize (if set = true then v.setVipFlags flag else v.unsetVipFlags flag) = w
    have hstored : Apart s { s with tables.vips := s.tables.vips.insert vip w } :=
      ⟨rfl, rfl, rfl, id⟩
    split_ifs
    · exact hstored
    · exact hstored.trans (updateVipMap_apart _ _ _ _)

theorem changeHashFunctionForVip_apart {u : Unspecified} {vip : VipKey} {func : HashFunction}
    {reply : Bool × State}
    (hcall : changeHashFunctionForVip folly config chash u vip func s = some reply) :
    Apart s reply.2 := by
  rcases changeHashFunctionForVip_cases hcall with
    (rfl | rfl) | ⟨v, positions, w, -, -, rfl⟩
  · exact Apart.refl s
  · exact rejected_apart s
  · have hstored : Apart s { s with tables.vips := s.tables.vips.insert vip w } :=
      ⟨rfl, rfl, rfl, id⟩
    exact hstored.trans (programHashRing_apart u positions w.vipNum _)

theorem validateAddress_apart (addr : String) (allowNetAddr : Bool) (s : State) :
    Apart s (validateAddress folly config addr allowNetAddr s).2 := by
  unfold validateAddress
  split_ifs
  · exact Apart.refl s
  · exact Apart.refl s
  · exact rejected_apart s

theorem collectNetworks_apart (total : ℕ) (srcs : List String) (networks : List CIDRNetwork)
    (numErrors : ℤ) (s : State) :
    Apart s (collectNetworks folly config total srcs networks numErrors s).2.2 := by
  induction srcs generalizing networks numErrors s with
  | nil => exact Apart.refl s
  | cons src srcs ih =>
    have hvalidated := @validateAddress_apart folly config src true s
    rw [collectNetworks]
    generalize validateAddress folly config src true s = validated at hvalidated ⊢
    obtain ⟨kind, s'⟩ := validated
    cases kind with
    | network =>
      dsimp only
      split_ifs
      · exact hvalidated
      · exact hvalidated.trans (ih _ _ _)
    | invalid => exact hvalidated.trans (ih _ _ _)
    | host => exact hvalidated.trans (ih _ _ _)

theorem updateServerIdMap_apart (s : State) (mapping : ℕ × ℕ) :
    Apart s (updateServerIdMap s mapping) :=
  bpfCall_apart rfl rfl rfl

theorem getIndexForReal_apart (real : String) (s : State) :
    Apart s (getIndexForReal folly config real s).2 := by
  unfold getIndexForReal
  cases haddr : folly.parse real with
  | none =>
    rw [validateHost_of_none haddr]
    exact rejected_apart s
  | some raddr =>
    rw [validateHost_of_some haddr]
    exact Apart.refl s

theorem invalidateServerIds_apart (serverIds : List ℤ) (s : State) :
    Apart s (invalidateServerIds serverIds s) :=
  Runs.foldl_invariant (Apart s) (Apart.refl s) serverIds
    fun s' _ hs' ↦ hs'.trans (updateServerIdMap_apart s' _)

theorem revalidateServerIds_apart (quicReals : List QuicReal) (s : State) :
    Apart s (revalidateServerIds folly config quicReals s) := by
  refine Runs.foldl_invariant (Apart s) (Apart.refl s) quicReals fun s' real hs' ↦ hs'.trans ?_
  have hindex := @getIndexForReal_apart folly config real.address s'
  generalize getIndexForReal folly config real.address s' = found at hindex ⊢
  obtain ⟨index, s''⟩ := found
  cases index with
  | none => exact hindex
  | some realIndex => exact hindex.trans (updateServerIdMap_apart _ _)

/-! ## Settings -/

theorem updateHcKeyMap_apart (action : ModifyAction) (hcKey : VipKey) (hcKeyId : ℕ)
    (s : State) : Apart s (updateHcKeyMap folly action hcKey hcKeyId s).2 := by
  unfold updateHcKeyMap
  cases vipKeyToVipDefinition folly hcKey with
  | none => exact Apart.refl s
  | some vipDef => exact bpfCall_apart rfl rfl rfl

theorem addHcKey_apart (hcKey : VipKey) (s : State) :
    Apart s (addHcKey folly config hcKey s).2 := by
  unfold addHcKey
  by_cases henabled : config.enableHc = false
  · rw [if_pos henabled]
    exact Apart.refl s
  · rw [if_neg henabled]
    cases s.tables.hcKeyNums with
    | nil => exact Apart.refl s
    | cons hcKeyNum hcKeyNums =>
      have hnew : Apart s { s with
          tables.hcKeyNums := hcKeyNums
          tables.hckeys := s.tables.hckeys.insert hcKey hcKeyNum } := ⟨rfl, rfl, rfl, id⟩
      dsimp only
      split_ifs
      · exact Apart.refl s
      · exact hnew
      · exact hnew.trans (updateHcKeyMap_apart _ _ _ _)

theorem delHcKey_apart (hcKey : VipKey) (s : State) :
    Apart s (delHcKey folly config hcKey s).2 := by
  unfold delHcKey
  by_cases henabled : config.enableHc = false
  · rw [if_pos henabled]
    exact Apart.refl s
  · rw [if_neg henabled]
    cases s.tables.hckeys.lookup hcKey with
    | none => exact Apart.refl s
    | some hcKeyNum =>
      have hgone : Apart s { s with
          tables.hcKeyNums := s.tables.hcKeyNums ++ [hcKeyNum]
          tables.hckeys := s.tables.hckeys.erase hcKey } := ⟨rfl, rfl, rfl, id⟩
      dsimp only
      split_ifs
      · exact hgone
      · exact hgone.trans (updateHcKeyMap_apart _ _ _ _)

theorem setHcReal_apart (somark : ℕ) (addr : Option BeAddr) (s : State) :
    Apart s (setHcReal config somark addr s).2 := by
  unfold setHcReal
  split_ifs
  · exact Apart.refl s
  · exact bpfCall_apart rfl rfl rfl

theorem addHealthcheckerDst_apart (somark : ℕ) (dst : String) (s : State) :
    Apart s (addHealthcheckerDst folly config somark dst s).2 := by
  unfold addHealthcheckerDst
  split
  · exact Apart.refl s
  · cases haddr : folly.parse dst with
    | none =>
      rw [validateHost_of_none haddr]
      exact rejected_apart s
    | some hcaddr =>
      have hset := @setHcReal_apart config somark
        (some (hcRealAddr s.features.directHealthchecking hcaddr)) s
      simp only [validateHost_of_some haddr]
      split
      · exact Apart.refl s
      · split
        · exact hset.trans ⟨rfl, rfl, rfl, id⟩
        · exact hset

theorem delHealthcheckerDst_apart (somark : ℕ) (s : State) :
    Apart s (delHealthcheckerDst config somark s).2 := by
  have hset := @setHcReal_apart config somark none s
  unfold delHealthcheckerDst
  split
  · exact Apart.refl s
  · split
    · exact Apart.refl s
    · dsimp only
      split
      · exact hset.trans ⟨rfl, rfl, rfl, id⟩
      · exact hset

theorem changeMac_apart (newMac : List (BitVec 8)) (s : State) :
    Apart s (changeMac config newMac s).2 := by
  have hmac : Apart s { s with tables.ctlMac := newMac } := ⟨rfl, rfl, rfl, id⟩
  unfold changeMac
  split_ifs
  · exact Apart.refl s
  · exact hmac
  · have hctl : Apart s (State.bpfCall (fun maps ↦ { maps with
        ctlArray := Function.update maps.ctlArray kMacAddrPos newMac })
        { s with tables.ctlMac := newMac }).2 := hmac.trans (bpfCall_apart rfl rfl rfl)
    dsimp only
    split_ifs
    · exact hctl
    · exact hctl.trans (bpfCall_apart rfl rfl rfl)
    · exact hctl

theorem logVipLruMissStats_apart (vip : VipKey) (s : State) :
    Apart s (logVipLruMissStats folly config vip s).2 := by
  unfold logVipLruMissStats
  cases haddr : folly.parse vip.address with
  | none =>
    rw [validateHost_of_none haddr]
    exact rejected_apart s
  | some address =>
    simp only [validateHost_of_some haddr]
    generalize ({ vip with address := folly.str address } : VipKey) = canonical
    have hsampled : Apart s { s with tables.lruMissStatsVip := some canonical } :=
      ⟨rfl, rfl, rfl, id⟩
    cases vipKeyToVipDefinition folly canonical with
    | none => exact hsampled
    | some vipDef => exact hsampled.trans (bpfCall_apart rfl rfl rfl)

end Vsoshlb
