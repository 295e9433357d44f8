import Vsoshlb.ControlPlane.KernelCalls
import Vsoshlb.ControlPlane.RealFamilies

/-!
# Where the entries of the kernel's maps come from

Whatever the calls are and whichever calls of the adapter fail, `reals` has addresses that a call
named as those of reals, and `vip_map` has VIPs that a call added. Entries can stay behind when a
real or a VIP goes, but none of them is made up.
-/

namespace Vsoshlb

open HashTable

/-- The calls that name a real by its address. -/
def Op.NamesReal (folly : Folly) (real : IPAddress) : Op → Prop
  | .modifyRealsForVip .add reals _ => ∃ named ∈ reals, folly.parse named.address = some real
  | .addSrcRoutingRule _ dst | .addSrcRoutingRuleText _ dst => folly.parse dst = some real
  | .modifyQuicRealsMapping .add reals => ∃ named ∈ reals, folly.parse named.address = some real
  | _ => False

/-- The call that adds a VIP. -/
def Op.NamesVip (folly : Folly) (vipDef : VipDefinition) : Op → Prop
  | .addVip vip _ => vipKeyToVipDefinition folly vip = some vipDef
  | _ => False

/-- No text is that of an address without a family. -/
theorem Op.NamesReal.specified {folly : Folly} {real : IPAddress} {op : Op}
    (h : op.NamesReal folly real) : real ≠ .unspec := by
  rintro rfl
  unfold NamesReal at h
  split at h
  · obtain ⟨named, -, hparse⟩ := h
    exact folly.parse_specified _ hparse
  · exact folly.parse_specified _ h
  · exact folly.parse_specified _ h
  · obtain ⟨named, -, hparse⟩ := h
    exact folly.parse_specified _ hparse
  · exact h

/-- The tables have reals of `p` only, and an address without a family for a number that is not
used. The array has entries that were written for reals of `p`. -/
structure RealsFrom (p : IPAddress → Prop) (s : State) : Prop where
  registered : ∀ real r, s.tables.reals.lookup real = some r → real = .unspec ∨ p real
  numbered : ∀ num real, s.tables.numToReals.lookup num = some real → real = .unspec ∨ p real
  entry : ∀ num, s.maps.reals num = ⟨0, 0⟩ ∨
    ∃ real flags, p real ∧ s.maps.reals num = realDefinition real flags

variable {folly : Folly} {config : Config} {chash : HashFunction → ConsistentHash} {s s' : State}
variable {p : IPAddress → Prop}

namespace RealsFrom

theorem congr (h : RealsFrom p s) (hreals : s'.tables.reals = s.tables.reals)
    (hnumbers : s'.tables.numToReals = s.tables.numToReals)
    (hentries : s'.maps.reals = s.maps.reals) : RealsFrom p s' where
  registered := by
    rw [hreals]
    exact h.registered
  numbered := by
    rw [hnumbers]
    exact h.numbered
  entry := by
    rw [hentries]
    exact h.entry

/-- A call that changes neither the reals nor their numbers. -/
theorem apart (h : RealsFrom p s) (hapart : Apart s s') {footprint : List Component}
    (hwithin : Within footprint s s') (hnumbers : .numToReals ∉ footprint) : RealsFrom p s' := by
  have hregistry := hapart.registry
  simp only [State.registry, Prod.mk.injEq] at hregistry
  exact h.congr hregistry.1 (hwithin.same .numToReals hnumbers) hregistry.2.2

theorem insert (h : RealsFrom p s) {real : IPAddress} (hreal : real = .unspec ∨ p real)
    (r : RealMeta) :
    RealsFrom p { s with tables.reals := s.tables.reals.insert real r } where
  registered real' r' hlookup := by
    rw [lookup_insert_ite] at hlookup
    split_ifs at hlookup with heq
    · exact heq ▸ hreal
    · exact h.registered real' r' hlookup
  numbered := h.numbered
  entry := h.entry

theorem numToRealsAt (h : RealsFrom p s) (num : ℕ) : RealsFrom p (numToRealsAt num s).2 := by
  unfold Vsoshlb.numToRealsAt
  cases s.tables.numToReals.lookup num with
  | some real => exact h
  | none =>
    refine ⟨h.registered, fun num' real hlookup ↦ ?_, h.entry⟩
    rw [lookup_insert_ite] at hlookup
    split_ifs at hlookup
    · exact Or.inl (Option.some.inj hlookup).symm
    · exact h.numbered num' real hlookup

theorem numToRealsAt_fst (h : RealsFrom p s) (num : ℕ) :
    (Vsoshlb.numToRealsAt num s).1 = .unspec ∨ p (Vsoshlb.numToRealsAt num s).1 := by
  unfold Vsoshlb.numToRealsAt
  cases hnum : s.tables.numToReals.lookup num with
  | some real => exact h.numbered num real hnum
  | none => exact Or.inl rfl

theorem decreaseRefCountForReal (h : RealsFrom p s) (real : IPAddress) :
    RealsFrom p (decreaseRefCountForReal real s) := by
  unfold Vsoshlb.decreaseRefCountForReal
  cases hreal : s.tables.reals.lookup real with
  | none => exact h
  | some r =>
    dsimp only
    split_ifs
    · refine ⟨fun real' r' hlookup ↦ ?_, fun num real' hlookup ↦ ?_, h.entry⟩
      · rw [lookup_erase_ite] at hlookup
        split_ifs at hlookup
        exact h.registered real' r' hlookup
      · rw [lookup_erase_ite] at hlookup
        split_ifs at hlookup
        exact h.numbered num real' hlookup
    · exact h.insert (h.registered real r hreal) _

theorem updateRealsMap (h : RealsFrom p s) {real : IPAddress} (hreal : p real) (num : ℕ)
    (flags : BitVec 8) : RealsFrom p (updateRealsMap real num flags s).2 where
  registered := by
    rw [updateRealsMap_tables]
    exact h.registered
  numbered := by
    rw [updateRealsMap_tables]
    exact h.numbered
  entry num' := by
    rw [Vsoshlb.updateRealsMap, State.bpfCall_maps]
    split_ifs
    · dsimp only
      rw [Function.update_apply]
      split_ifs
      · exact Or.inr ⟨real, flags, hreal, rfl⟩
      · exact h.entry num'
    · exact h.entry num'

theorem increaseRefCountForReal (h : RealsFrom p s) {real : IPAddress} (hreal : p real)
    (flags : BitVec 8) : RealsFrom p (increaseRefCountForReal config real flags s).2 := by
  unfold Vsoshlb.increaseRefCountForReal
  cases s.tables.reals.lookup real with
  | some r => exact h.insert (Or.inr hreal) _
  | none =>
    cases s.tables.realNums with
    | nil => exact h
    | cons rnum realNums =>
      have hinserted := h.insert (Or.inr hreal) ⟨rnum, 1, flags &&& ~~~V6DADDR⟩
      have hnumbered : RealsFrom p { s with
          tables.realNums := realNums
          tables.numToReals := s.tables.numToReals.insert rnum real
          tables.reals := s.tables.reals.insert real ⟨rnum, 1, flags &&& ~~~V6DADDR⟩ } := by
        refine ⟨hinserted.registered, fun num real' hlookup ↦ ?_, h.entry⟩
        rw [lookup_insert_ite] at hlookup
        split_ifs at hlookup
        · obtain rfl := Option.some.inj hlookup
          exact Or.inr hreal
        · exact h.numbered num real' hlookup
      dsimp only
      split_ifs
      · exact hnumbered
      · exact hnumbered.updateRealsMap hreal _ _

end RealsFrom

/-! ## Calls on reals -/

theorem realsLoop_realsFrom (h : RealsFrom p s) (action : ModifyAction) {reals : List NewReal}
    (hreals : action = .add →
      ∀ named ∈ reals, ∀ real, folly.parse named.address = some real → p real)
    (batch : Batch) : RealsFrom p (realsLoop folly config action reals (batch, s)).2 := by
  cases action with
  | add =>
    refine Runs.foldl_invariant_of_mem (fun acc : Batch × State ↦ RealsFrom p acc.2) h
      fun acc named hnamed hacc ↦ ?_
    rcases addRealStep_state acc named with hstep | hstep | ⟨real, hreal, hstep⟩
    · rw [hstep]
      exact hacc
    · rw [hstep]
      exact hacc.congr rfl rfl rfl
    · rw [hstep]
      exact hacc.increaseRefCountForReal (hreals rfl named hnamed real hreal) _
  | del =>
    refine Runs.foldl_invariant (fun acc : Batch × State ↦ RealsFrom p acc.2) h reals
      fun acc named hacc ↦ ?_
    rcases delRealStep_state acc named with hstep | hstep | ⟨real, hstep⟩
    · rw [hstep]
      exact hacc
    · rw [hstep]
      exact hacc.congr rfl rfl rfl
    · rw [hstep]
      exact hacc.decreaseRefCountForReal real

theorem programHashRing_realsFrom (h : RealsFrom p s) (u : Unspecified)
    (chPositions : List RealPos) (vipNum : ℕ) :
    RealsFrom p (programHashRing config u chPositions vipNum s) :=
  h.apart (programHashRing_apart u chPositions vipNum s)
    (programHashRing_within u chPositions vipNum s) (by simp)

theorem modifyRealsForVip_realsFrom (h : RealsFrom p s) {u : Unspecified} {action : ModifyAction}
    {reals : List NewReal} {vip : VipKey} {reply : Bool × State}
    (hreals : action = .add →
      ∀ named ∈ reals, ∀ real, folly.parse named.address = some real → p real)
    (hcall : modifyRealsForVip folly config chash u action reals vip s = some reply) :
    RealsFrom p reply.2 := by
  rcases modifyRealsForVip_cases hcall with
    rfl | ⟨v, batch, looped, positions, w, -, hloop, -, rfl⟩
  · exact h
  · have hlooped := @realsLoop_realsFrom folly config s p h action reals hreals
      ⟨v.getReals u.vipReals, []⟩
    rw [hloop] at hlooped
    have hstored : RealsFrom p { looped with tables.vips := looped.tables.vips.insert vip w } :=
      hlooped.congr rfl rfl rfl
    exact programHashRing_realsFrom hstored u positions w.vipNum

theorem releaseVipReals_realsFrom (h : RealsFrom p s) (nums : List ℕ) :
    RealsFrom p (releaseVipReals nums s) :=
  Runs.foldl_invariant (RealsFrom p) h nums
    fun _ num hs ↦ (hs.numToRealsAt num).decreaseRefCountForReal _

theorem updateVipMap_realsFrom (h : RealsFrom p s) (action : ModifyAction) (vip : VipKey)
    (vmeta : VipMeta) : RealsFrom p (updateVipMap folly action vip vmeta s).2 :=
  h.apart (updateVipMap_apart action vip vmeta s) (updateVipMap_within action vip vmeta s) (by simp)

theorem delVip_realsFrom (h : RealsFrom p s) (u : Unspecified) (vip : VipKey) :
    RealsFrom p (delVip folly config u vip s).2 := by
  unfold delVip
  cases s.tables.vips.lookup vip with
  | none => exact h
  | some v =>
    have hreleased := releaseVipReals_realsFrom h (v.getReals u.vipReals)
    dsimp only
    generalize releaseVipReals (v.getReals u.vipReals) s = released at hreleased ⊢
    have hgiven : RealsFrom p
        { released with tables.vipNums := released.tables.vipNums ++ [v.vipNum] } :=
      hreleased.congr rfl rfl rfl
    split_ifs
    · exact hgiven.congr rfl rfl rfl
    · have hdeleted := @updateVipMap_realsFrom folly _ p hgiven .del vip ⟨0, 0⟩
      generalize updateVipMap folly .del vip ⟨0, 0⟩ _ = updated at hdeleted ⊢
      obtain ⟨reply, updated⟩ := updated
      cases reply with
      | none => exact hdeleted
      | some ok => exact hdeleted.congr rfl rfl rfl

theorem modifyReal_realsFrom (h : RealsFrom p s) (real : String) (flags : BitVec 8) (set : Bool) :
    RealsFrom p (modifyReal folly config real flags set s).2 := by
  unfold modifyReal
  cases haddr : folly.parse real with
  | none =>
    simp only [validateHost_of_none haddr]
    exact h.congr rfl rfl rfl
  | some raddr =>
    have hspecified : raddr ≠ .unspec := fun heq ↦ folly.parse_specified _ (heq ▸ haddr)
    simp only [validateHost_of_some haddr]
    cases hreal : s.tables.reals.lookup raddr with
    | none => exact h
    | some r =>
      have hknown : p raddr := (h.registered raddr r hreal).resolve_left hspecified
      dsimp only
      generalize (if set = true then r.flags ||| flags &&& ~~~V6DADDR
        else r.flags &&& ~~~(flags &&& ~~~V6DADDR)) = newFlags
      have hstored := h.insert (Or.inr hknown) { r with flags := newFlags }
      split_ifs
      · exact hstored
      · exact hstored.updateRealsMap hknown _ _

theorem getRealsForVip_realsFrom (h : RealsFrom p s) (u : Unspecified) (vip : VipKey) :
    RealsFrom p (getRealsForVip u vip s).2 := by
  unfold getRealsForVip
  cases s.tables.vips.lookup vip with
  | none => exact h
  | some v =>
    refine Runs.foldl_invariant
      (fun acc : List (IPAddress × ℕ × BitVec 8) × State ↦ RealsFrom p acc.2) h _
      fun acc real hacc ↦ ?_
    have hread := hacc.numToRealsAt real.num
    have hname := hacc.numToRealsAt_fst real.num
    dsimp only
    split
    · exact hread
    · exact hread.insert hname _

/-! ## Calls on routes -/

theorem modifyLpmSrcRule_realsFrom (h : RealsFrom p s) (action : ModifyAction) (src : CIDRNetwork)
    (rnum : ℕ) : RealsFrom p (modifyLpmSrcRule action src rnum s).2 := by
  unfold modifyLpmSrcRule
  apply h.congr
  · rw [State.bpfCall_tables]
  · rw [State.bpfCall_tables]
  · rw [State.bpfCall_maps]
    split_ifs
    · rfl
    · rfl

theorem addSrcNetworks_realsFrom {dst : IPAddress} (hdst : p dst) (srcs : List CIDRNetwork)
    (h : RealsFrom p s) : RealsFrom p (addSrcNetworks config dst srcs s).2 := by
  induction srcs generalizing s with
  | nil => exact h
  | cons src srcs ih =>
    have hincreased : RealsFrom p (increaseRefCountForReal config dst 0 s).2 :=
      h.increaseRefCountForReal hdst 0
    rw [addSrcNetworks]
    generalize increaseRefCountForReal config dst 0 s = increased at hincreased ⊢
    dsimp only
    have hmapped : RealsFrom p { increased.2 with
        tables.lpmSrcMapping := increased.2.tables.lpmSrcMapping.insert src increased.1 } :=
      hincreased.congr rfl rfl rfl
    split_ifs
    · exact h
    · exact hincreased
    · exact ih hmapped
    · exact ih (modifyLpmSrcRule_realsFrom hmapped _ _ _)

theorem addSrcRoutingRule_realsFrom (h : RealsFrom p s) (srcs : List CIDRNetwork) {dst : String}
    (hdst : ∀ real, folly.parse dst = some real → p real) :
    RealsFrom p (addSrcRoutingRule folly config srcs dst s).2 := by
  unfold addSrcRoutingRule
  split_ifs
  · exact h
  · cases haddr : folly.parse dst with
    | none =>
      simp only [validateHost_of_none haddr]
      exact h.congr rfl rfl rfl
    | some raddr =>
      simp only [validateHost_of_some haddr]
      exact addSrcNetworks_realsFrom (hdst raddr haddr) srcs h

theorem addSrcRoutingRuleText_realsFrom (h : RealsFrom p s) (srcs : List String) {dst : String}
    (hdst : ∀ real, folly.parse dst = some real → p real) :
    RealsFrom p (addSrcRoutingRuleText folly config srcs dst s).2 := by
  unfold addSrcRoutingRuleText
  split_ifs
  · exact h
  · cases haddr : folly.parse dst with
    | none =>
      simp only [validateHost_of_none haddr]
      exact h.congr rfl rfl rfl
    | some raddr =>
      simp only [validateHost_of_some haddr]
      have hcollected : RealsFrom p (collectNetworks folly config srcs.length srcs [] 0 s).2.2 :=
        h.apart (collectNetworks_apart srcs.length srcs [] 0 s)
          (collectNetworks_within srcs.length srcs [] 0 s) (by simp)
      exact addSrcRoutingRule_realsFrom hcollected _ hdst

theorem delSrcNetwork_realsFrom (h : RealsFrom p s) (src : CIDRNetwork) :
    RealsFrom p (delSrcNetwork config s src) := by
  unfold delSrcNetwork
  cases s.tables.lpmSrcMapping.lookup src with
  | none => exact h
  | some rnum =>
    have hdecreased := (h.numToRealsAt rnum).decreaseRefCountForReal (numToRealsAt rnum s).1
    dsimp only
    split_ifs
    · exact hdecreased.congr rfl rfl rfl
    · exact (modifyLpmSrcRule_realsFrom hdecreased _ _ _).congr rfl rfl rfl

theorem delSrcRoutingRule_realsFrom (h : RealsFrom p s) (srcs : List CIDRNetwork) :
    RealsFrom p (delSrcRoutingRule config srcs s).2 := by
  unfold delSrcRoutingRule
  split_ifs
  · exact h
  · exact Runs.foldl_invariant (RealsFrom p) h srcs fun _ src hs ↦ delSrcNetwork_realsFrom hs src

theorem delSrcRoutingRuleText_realsFrom (h : RealsFrom p s) (srcs : List String) :
    RealsFrom p (delSrcRoutingRuleText folly config srcs s).2 := by
  unfold delSrcRoutingRuleText
  split_ifs
  · exact h
  · exact delSrcRoutingRule_realsFrom h _

theorem clearSrcRule_realsFrom (h : RealsFrom p s) {rule : CIDRNetwork × ℕ}
    (hrule : clearSrcRule config s rule = some s') : RealsFrom p s' := by
  obtain ⟨dst, -, hcleared⟩ := Option.bind_eq_some_iff.mp hrule
  have hdecreased := h.decreaseRefCountForReal dst
  rw [← Option.some.inj hcleared]
  split_ifs
  · exact hdecreased
  · exact modifyLpmSrcRule_realsFrom hdecreased _ _ _

theorem clearAllSrcRoutingRules_realsFrom (h : RealsFrom p s) {u : Unspecified}
    {reply : Bool × State} (hcall : clearAllSrcRoutingRules config u s = some reply) :
    RealsFrom p reply.2 := by
  unfold clearAllSrcRoutingRules at hcall
  split_ifs at hcall
  · obtain rfl := Option.some.inj hcall
    exact h
  · obtain ⟨s', hloop, hcall⟩ := Option.bind_eq_some_iff.mp hcall
    obtain rfl := Option.some.inj hcall
    have hcleared : RealsFrom p s' := Runs.invariant
      (fun s rule s' hs hrule ↦ clearSrcRule_realsFrom hs hrule) h hloop
    exact hcleared.congr rfl rfl rfl

theorem getSrcRoutingRuleCidr_realsFrom (h : RealsFrom p s) (u : Unspecified) :
    RealsFrom p (getSrcRoutingRuleCidr config u s).2 := by
  unfold getSrcRoutingRuleCidr
  split_ifs
  · exact h
  · exact Runs.foldl_invariant
      (fun acc : List (CIDRNetwork × IPAddress) × State ↦ RealsFrom p acc.2) h _
      fun _ src hacc ↦ hacc.numToRealsAt src.2

/-! ## Calls on QUIC ids -/

theorem delQuicStep_realsFrom (h : RealsFrom p s) (real : QuicReal) :
    RealsFrom p (delQuicStep folly config s real) := by
  unfold delQuicStep
  cases haddr : folly.parse real.address with
  | none =>
    simp only [validateHost_of_none haddr]
    exact h.congr rfl rfl rfl
  | some raddr =>
    simp only [validateHost_of_some haddr]
    split_ifs
    · exact h
    · cases s.tables.quicMapping.lookup real.id with
      | none => exact h
      | some current =>
        dsimp only
        split_ifs
        · exact h
        · exact (h.decreaseRefCountForReal raddr).congr rfl rfl rfl

theorem mapQuicReal_realsFrom (h : RealsFrom p s) {raddr : IPAddress} (hraddr : p raddr) (id : ℕ)
    (toUpdate : Finmap fun _ : ℕ ↦ ℕ) :
    RealsFrom p (mapQuicReal config raddr id toUpdate s).2 := by
  have hincreased : RealsFrom p (increaseRefCountForReal config raddr 0 s).2 :=
    h.increaseRefCountForReal hraddr 0
  unfold mapQuicReal
  dsimp only
  split_ifs
  · exact hincreased
  · exact hincreased.congr rfl rfl rfl

theorem addQuicStep_realsFrom {acc : (Finmap fun _ : ℕ ↦ ℕ) × State} (h : RealsFrom p acc.2)
    {real : QuicReal} (hreal : ∀ raddr, folly.parse real.address = some raddr → p raddr) :
    RealsFrom p (addQuicStep folly config acc real).2 := by
  obtain ⟨toUpdate, s⟩ := acc
  unfold addQuicStep
  cases haddr : folly.parse real.address with
  | none =>
    simp only [validateHost_of_none haddr]
    exact h.congr rfl rfl rfl
  | some raddr =>
    simp only [validateHost_of_some haddr]
    split_ifs
    · exact h
    · cases s.tables.quicMapping.lookup real.id with
      | none => exact mapQuicReal_realsFrom h (hreal raddr haddr) real.id toUpdate
      | some current =>
        dsimp only
        split_ifs
        · exact h
        · exact mapQuicReal_realsFrom (h.decreaseRefCountForReal current) (hreal raddr haddr) _ _

theorem updateServerIdMap_realsFrom (h : RealsFrom p s) (mapping : ℕ × ℕ) :
    RealsFrom p (updateServerIdMap s mapping) :=
  h.apart (updateServerIdMap_apart s mapping) (updateServerIdMap_within s mapping) (by simp)

theorem modifyQuicRealsMapping_realsFrom (h : RealsFrom p s) (u : Unspecified)
    (action : ModifyAction) {reals : List QuicReal}
    (hreals : action = .add →
      ∀ named ∈ reals, ∀ real, folly.parse named.address = some real → p real) :
    RealsFrom p (modifyQuicRealsMapping folly config u action reals s) := by
  cases action with
  | del =>
    exact Runs.foldl_invariant (RealsFrom p) h reals fun _ real hs ↦ delQuicStep_realsFrom hs real
  | add =>
    have hlooped : RealsFrom p (reals.foldl (addQuicStep folly config) (∅, s)).2 :=
      Runs.foldl_invariant_of_mem
        (fun acc : (Finmap fun _ : ℕ ↦ ℕ) × State ↦ RealsFrom p acc.2) h
        fun acc real hreal hacc ↦ addQuicStep_realsFrom hacc (hreals rfl real hreal)
    unfold modifyQuicRealsMapping
    dsimp only
    split_ifs
    · exact hlooped
    · exact Runs.foldl_invariant (RealsFrom p) hlooped _
        fun _ mapping hs ↦ updateServerIdMap_realsFrom hs mapping

/-! ## Settings -/

theorem modifyDecapDst_realsFrom (h : RealsFrom p s) (action : ModifyAction) (dst : IPAddress)
    (flags : ℕ) : RealsFrom p (modifyDecapDst action dst flags s).2 := by
  unfold modifyDecapDst
  apply h.congr
  · rw [State.bpfCall_tables]
  · rw [State.bpfCall_tables]
  · rw [State.bpfCall_maps]
    split_ifs
    · rfl
    · rfl

theorem addInlineDecapDst_realsFrom (h : RealsFrom p s) (dst : String) :
    RealsFrom p (addInlineDecapDst folly config dst s).2 := by
  unfold addInlineDecapDst
  split
  · exact h
  · cases haddr : folly.parse dst with
    | none =>
      simp only [validateHost_of_none haddr]
      exact h.congr rfl rfl rfl
    | some daddr =>
      have hstored : RealsFrom p
          { s with tables.decapDsts := insert daddr s.tables.decapDsts } := h.congr rfl rfl rfl
      simp only [validateHost_of_some haddr]
      split_ifs
      · exact h
      · exact h
      · exact hstored
      · exact modifyDecapDst_realsFrom hstored _ _ _

theorem delInlineDecapDst_realsFrom (h : RealsFrom p s) (dst : String) :
    RealsFrom p (delInlineDecapDst folly config dst s).2 := by
  unfold delInlineDecapDst
  split
  · exact h
  · cases haddr : folly.parse dst with
    | none =>
      simp only [validateHost_of_none haddr]
      exact h.congr rfl rfl rfl
    | some daddr =>
      have hstored : RealsFrom p
          { s with tables.decapDsts := s.tables.decapDsts.erase daddr } := h.congr rfl rfl rfl
      simp only [validateHost_of_some haddr]
      split_ifs
      · exact hstored
      · exact modifyDecapDst_realsFrom hstored _ _ _
      · exact h

theorem readLruMissStats_realsFrom (h : RealsFrom p s) (nums : List ℕ) :
    RealsFrom p (readLruMissStats nums s).2 := by
  induction nums generalizing s with
  | nil => exact h
  | cons num nums ih =>
    have hread : RealsFrom p (s.bpfCall id).2 :=
      h.apart (bpfCall_apart rfl rfl rfl)
        (bpfCall_within_nil rfl rfl rfl : Within [] s (s.bpfCall id).2) (by simp)
    unfold readLruMissStats
    dsimp only
    split_ifs
    · exact hread
    · exact ih (hread.numToRealsAt num)

theorem getVipLruMissStats_realsFrom (h : RealsFrom p s) (u : Unspecified) (vip : VipKey) :
    RealsFrom p (getVipLruMissStats folly config u vip s).2 := by
  unfold getVipLruMissStats
  cases haddr : folly.parse vip.address with
  | none =>
    rw [validateHost_of_none haddr]
    exact h.congr rfl rfl rfl
  | some address =>
    simp only [validateHost_of_some haddr]
    split_ifs
    · exact h
    · split
      · exact h
      · exact readLruMissStats_realsFrom h _

/-! ## VIPs -/

/-- The VIPs of the map are among those of `q`, and the numbers are below their limit. -/
structure VipsFrom (folly : Folly) (config : Config) (q : VipDefinition → Prop) (s : State) :
    Prop where
  pool : ∀ num ∈ s.tables.vipNums, num < config.maxVips
  registered : ∀ vip v, s.tables.vips.lookup vip = some v → v.vipNum < config.maxVips ∧
    ∀ vipDef, vipKeyToVipDefinition folly vip = some vipDef → q vipDef
  entry : ∀ vipDef vmeta, s.maps.vipMap vipDef = some vmeta →
    vmeta.vipNum < config.maxVips ∧ q vipDef

variable {q : VipDefinition → Prop}

namespace VipsFrom

theorem of_within (h : VipsFrom folly config q s) {footprint : List Component}
    (hwithin : Within footprint s s') (hvips : .vips ∉ footprint) (hnums : .vipNums ∉ footprint)
    (hvipMap : .vipMap ∉ footprint) : VipsFrom folly config q s' where
  pool := by
    rw [(hwithin.same .vipNums hnums : s'.tables.vipNums = _)]
    exact h.pool
  registered := by
    rw [(hwithin.same .vips hvips : s'.tables.vips = _)]
    exact h.registered
  entry := by
    rw [(hwithin.same .vipMap hvipMap : s'.maps.vipMap = _)]
    exact h.entry

/-- A VIP that keeps its number. -/
theorem update (h : VipsFrom folly config q s) {vip : VipKey} {v w : Vip}
    (hvip : s.tables.vips.lookup vip = some v) (hnum : w.vipNum = v.vipNum) :
    VipsFrom folly config q { s with tables.vips := s.tables.vips.insert vip w } where
  pool := h.pool
  registered vip' v' hlookup := by
    rw [lookup_insert_ite] at hlookup
    split_ifs at hlookup with heq
    · obtain rfl := Option.some.inj hlookup
      rw [heq, hnum]
      exact h.registered vip v hvip
    · exact h.registered vip' v' hlookup
  entry := h.entry

theorem updateVipMap (h : VipsFrom folly config q s) (action : ModifyAction) {vip : VipKey}
    {vmeta : VipMeta} (hnum : action = .add → vmeta.vipNum < config.maxVips)
    (hvip : ∀ vipDef, vipKeyToVipDefinition folly vip = some vipDef → q vipDef) :
    VipsFrom folly config q (updateVipMap folly action vip vmeta s).2 := by
  refine ⟨by simpa using h.pool, by simpa using h.registered, ?_⟩
  cases hdef : vipKeyToVipDefinition folly vip with
  | none =>
    simp only [Vsoshlb.updateVipMap, hdef]
    exact h.entry
  | some vipDef =>
    rw [updateVipMap_of_some hdef, State.bpfCall_maps]
    split_ifs
    · intro vipDef' vmeta' hentry
      simp only [Function.update_apply] at hentry
      split_ifs at hentry with heq
      · cases action with
        | add =>
          obtain rfl := Option.some.inj hentry
          exact ⟨hnum rfl, heq ▸ hvip vipDef hdef⟩
        | del => cases hentry
      · exact h.entry vipDef' vmeta' hentry
    · exact h.entry

end VipsFrom

theorem addVip_vipsFrom (h : VipsFrom folly config q s) (vip : VipKey) (flags : BitVec 32)
    (hvip : ∀ vipDef, vipKeyToVipDefinition folly vip = some vipDef → q vipDef) :
    VipsFrom folly config q (addVip folly config vip flags s).2 := by
  rcases @addVip_cases folly config vip flags s with
    ⟨-, s', hcall, rfl | rfl⟩ | ⟨-, vipNum, vipNums, vipDef, taken, hnums, hdef, rfl, hcall⟩
  · rw [hcall]
    exact h
  · rw [hcall]
    exact ⟨h.pool, h.registered, h.entry⟩
  · have hnum : vipNum < config.maxVips := h.pool vipNum (hnums ▸ List.mem_cons_self)
    have htaken : VipsFrom folly config q { s with
        tables.vipNums := vipNums
        tables.vips := s.tables.vips.insert vip
          (Vip.new vipNum flags config.chRingSize config.hashFunction) } := by
      refine ⟨fun num hmem ↦ h.pool num (hnums ▸ List.mem_cons_of_mem _ hmem),
        fun vip' v' hlookup ↦ ?_, h.entry⟩
      rw [lookup_insert_ite] at hlookup
      split_ifs at hlookup with heq
      · obtain rfl := Option.some.inj hlookup
        exact ⟨hnum, heq ▸ hvip⟩
      · exact h.registered vip' v' hlookup
    have hwritten := @VipsFrom.updateVipMap _ _ _ _ htaken .add vip ⟨flags, vipNum⟩ (fun _ ↦ hnum)
      hvip
    rw [updateVipMap_of_some hdef] at hwritten
    rw [hcall]
    dsimp only
    split_ifs
    · exact htaken
    · exact hwritten

theorem delVip_vipsFrom (h : VipsFrom folly config q s) (u : Unspecified) (vip : VipKey) :
    VipsFrom folly config q (delVip folly config u vip s).2 := by
  unfold delVip
  cases hvip : s.tables.vips.lookup vip with
  | none => exact h
  | some v =>
    obtain ⟨hnum, hnamed⟩ := h.registered vip v hvip
    have hreleased := h.of_within (releaseVipReals_within (v.getReals u.vipReals) s)
      (by simp) (by simp) (by simp)
    dsimp only
    generalize releaseVipReals (v.getReals u.vipReals) s = released at hreleased ⊢
    have hgiven : VipsFrom folly config q
        { released with tables.vipNums := released.tables.vipNums ++ [v.vipNum] } := by
      refine ⟨fun num hmem ↦ ?_, hreleased.registered, hreleased.entry⟩
      rcases List.mem_append.mp hmem with hold | hnew
      · exact hreleased.pool num hold
      · rw [List.mem_singleton.mp hnew]
        exact hnum
    have herase {t : State} (ht : VipsFrom folly config q t) :
        VipsFrom folly config q { t with tables.vips := t.tables.vips.erase vip } := by
      refine ⟨ht.pool, fun vip' v' hlookup ↦ ?_, ht.entry⟩
      rw [lookup_erase_ite] at hlookup
      split_ifs at hlookup
      exact ht.registered vip' v' hlookup
    split_ifs
    · exact herase hgiven
    · have hdeleted := @VipsFrom.updateVipMap _ _ _ _ hgiven .del vip ⟨0, 0⟩ (fun h ↦ by cases h)
        hnamed
      generalize updateVipMap folly .del vip ⟨0, 0⟩ _ = updated at hdeleted ⊢
      obtain ⟨reply, updated⟩ := updated
      cases reply with
      | none => exact hdeleted
      | some ok => exact herase hdeleted

theorem decreaseRefCountForReal_outcomes (real : IPAddress) (s : State) :
    (decreaseRefCountForReal real s).outcomes = s.outcomes := by
  unfold decreaseRefCountForReal
  cases s.tables.reals.lookup real with
  | none => rfl
  | some rmeta =>
    dsimp only
    split_ifs
    · rfl
    · rfl

theorem numToRealsAt_outcomes (num : ℕ) (s : State) :
    (numToRealsAt num s).2.outcomes = s.outcomes := by
  unfold numToRealsAt
  cases s.tables.numToReals.lookup num with
  | none => rfl
  | some real => rfl

theorem releaseVipReals_outcomes (nums : List ℕ) (s : State) :
    (releaseVipReals nums s).outcomes = s.outcomes :=
  Runs.foldl_invariant (fun t : State ↦ t.outcomes = s.outcomes) rfl nums fun t num ht ↦
    ((decreaseRefCountForReal_outcomes _ _).trans (numToRealsAt_outcomes num t)).trans ht

/-- Where the write goes through, the entry of a deleted VIP is gone. -/
theorem delVip_gone (h : VipsFrom folly config q s) (htesting : config.testing = false)
    (hok : s.nextOutcome = true) {vip : VipKey} {v : Vip}
    (hvip : s.tables.vips.lookup vip = some v) {vipDef : VipDefinition}
    (hdef : vipKeyToVipDefinition folly vip = some vipDef)
    (hown : ∀ vip' v', s.tables.vips.lookup vip' = some v' →
      vipKeyToVipDefinition folly vip' = some vipDef → vip' = vip) (u : Unspecified) :
    VipsFrom folly config (fun vipDef' ↦ vipDef' ≠ vipDef) (delVip folly config u vip s).2 := by
  obtain ⟨hnum, -⟩ := h.registered vip v hvip
  have hwithin := releaseVipReals_within (v.getReals u.vipReals) s
  have hreleased := h.of_within hwithin (by simp) (by simp) (by simp)
  have hsame : (releaseVipReals (v.getReals u.vipReals) s).tables.vips = s.tables.vips :=
    hwithin.same .vips (by simp)
  have hnext : (releaseVipReals (v.getReals u.vipReals) s).nextOutcome = true := by
    rw [State.nextOutcome, releaseVipReals_outcomes]
    exact hok
  have hmaps : ∀ nums, State.nextOutcome
      { releaseVipReals (v.getReals u.vipReals) s with tables.vipNums := nums } = true :=
    fun _ ↦ hnext
  simp only [delVip, hvip, htesting, Bool.false_eq_true, if_false, updateVipMap_of_some hdef]
  refine ⟨fun num hmem ↦ ?_, fun vip' v' hlookup ↦ ?_, fun vipDef' vmeta hentry ↦ ?_⟩
  · simp only [State.bpfCall_tables] at hmem
    rcases List.mem_append.mp hmem with hold | hnew
    · exact hreleased.pool num hold
    · rw [List.mem_singleton.mp hnew]
      exact hnum
  · simp only [State.bpfCall_tables, hsame, lookup_erase_ite] at hlookup
    split_ifs at hlookup with heq
    refine ⟨(h.registered vip' v' hlookup).1, fun vipDef' hdef' hgone ↦ ?_⟩
    exact heq (hown vip' v' hlookup (hgone ▸ hdef'))
  · simp only [State.bpfCall_maps, hmaps, if_true, Function.update_apply] at hentry
    split_ifs at hentry with heq
    exact ⟨(hreleased.entry vipDef' vmeta hentry).1, heq⟩

theorem modifyVip_vipsFrom (h : VipsFrom folly config q s) (vip : VipKey) (flag : BitVec 32)
    (set : Bool) : VipsFrom folly config q (modifyVip folly config vip flag set s).2 := by
  unfold modifyVip
  cases hvip : s.tables.vips.lookup vip with
  | none => exact h
  | some v =>
    obtain ⟨hnum, hnamed⟩ := h.registered vip v hvip
    have hsame : (if set then v.setVipFlags flag else v.unsetVipFlags flag).vipNum = v.vipNum := by
      split_ifs
      · rfl
      · rfl
    have hstored := h.update hvip hsame
    dsimp only
    generalize (if set = true then v.setVipFlags flag else v.unsetVipFlags flag) = w
      at hsame hstored ⊢
    have hfits : w.vipNum < config.maxVips := hsame ▸ hnum
    split_ifs
    · exact hstored
    · exact hstored.updateVipMap .add (fun _ ↦ hfits) hnamed

theorem changeHashFunctionForVip_vipsFrom (h : VipsFrom folly config q s) {u : Unspecified}
    {vip : VipKey} {func : HashFunction} {reply : Bool × State}
    (hcall : changeHashFunctionForVip folly config chash u vip func s = some reply) :
    VipsFrom folly config q reply.2 := by
  rcases changeHashFunctionForVip_cases hcall with
    (rfl | rfl) | ⟨v, positions, w, hvip, hring, rfl⟩
  · exact h
  · exact ⟨h.pool, h.registered, h.entry⟩
  · have hnum : w.vipNum = v.vipNum := by
      obtain ⟨ring, rfl⟩ := Vip.calculateHashRing_frame hring
      rfl
    have hstored := h.update hvip hnum
    exact hstored.of_within (programHashRing_within u positions w.vipNum _) (by simp) (by simp)
      (by simp)

theorem modifyRealsForVip_vipsFrom (h : VipsFrom folly config q s) {u : Unspecified}
    {action : ModifyAction} {reals : List NewReal} {vip : VipKey} {reply : Bool × State}
    (hcall : modifyRealsForVip folly config chash u action reals vip s = some reply) :
    VipsFrom folly config q reply.2 := by
  rcases modifyRealsForVip_cases hcall with
    rfl | ⟨v, batch, looped, positions, w, hvip, hloop, hring, rfl⟩
  · exact h
  · have hwithin := @realsLoop_within folly config action reals (⟨v.getReals u.vipReals, []⟩, s)
    rw [hloop] at hwithin
    have hlooped := h.of_within hwithin (by simp) (by simp) (by simp)
    have hvips : looped.tables.vips = s.tables.vips := hwithin.same .vips (by simp)
    have hnum : w.vipNum = v.vipNum := by
      obtain ⟨ring, rfl⟩ := Vip.batchRealsUpdate_frame hring
      rfl
    have hstored := hlooped.update (hvips ▸ hvip) hnum
    exact hstored.of_within (programHashRing_within u positions w.vipNum _) (by simp) (by simp)
      (by simp)

/-! ## Every call -/

theorem step_vipsFrom (h : VipsFrom folly config q s) {call : Call}
    (hnames : ∀ vipDef, call.op.NamesVip folly vipDef → q vipDef)
    (hstep : step folly config chash s call = some s') : VipsFrom folly config q s' := by
  obtain ⟨op, u⟩ := call
  cases op with
  | addVip vip flags => exact Option.some.inj hstep ▸ addVip_vipsFrom h vip flags hnames
  | delVip vip => exact Option.some.inj hstep ▸ delVip_vipsFrom h u vip
  | modifyVip vip flag set => exact Option.some.inj hstep ▸ modifyVip_vipsFrom h vip flag set
  | changeHashFunctionForVip vip func =>
    obtain ⟨reply, hcall, rfl⟩ := Option.map_eq_some_iff.mp hstep
    exact changeHashFunctionForVip_vipsFrom h hcall
  | modifyRealsForVip action reals vip =>
    obtain ⟨reply, hcall, rfl⟩ := Option.map_eq_some_iff.mp hstep
    exact modifyRealsForVip_vipsFrom h hcall
  | _ =>
    exact h.of_within (step_within hstep) (by simp [Op.footprint]) (by simp [Op.footprint])
      (by simp [Op.footprint])

theorem step_realsFrom (h : RealsFrom p s) {call : Call}
    (hnames : ∀ real, call.op.NamesReal folly real → p real)
    (hstep : step folly config chash s call = some s') : RealsFrom p s' := by
  obtain ⟨op, u⟩ := call
  cases op with
  | addVip vip flags =>
    exact Option.some.inj hstep ▸
      h.apart (addVip_apart vip flags s) (addVip_within vip flags s) (by simp)
  | delVip vip => exact Option.some.inj hstep ▸ delVip_realsFrom h u vip
  | modifyVip vip flag set =>
    exact Option.some.inj hstep ▸
      h.apart (modifyVip_apart vip flag set s) (modifyVip_within vip flag set s) (by simp)
  | changeHashFunctionForVip vip func =>
    obtain ⟨reply, hcall, rfl⟩ := Option.map_eq_some_iff.mp hstep
    exact h.apart (changeHashFunctionForVip_apart hcall) (changeHashFunctionForVip_within hcall)
      (by simp)
  | addHcKey hcKey =>
    exact Option.some.inj hstep ▸
      h.apart (addHcKey_apart hcKey s) (addHcKey_within hcKey s) (by simp)
  | delHcKey hcKey =>
    exact Option.some.inj hstep ▸
      h.apart (delHcKey_apart hcKey s) (delHcKey_within hcKey s) (by simp)
  | modifyReal real flags set => exact Option.some.inj hstep ▸ modifyReal_realsFrom h real flags set
  | modifyRealsForVip action reals vip =>
    obtain ⟨reply, hcall, rfl⟩ := Option.map_eq_some_iff.mp hstep
    refine modifyRealsForVip_realsFrom h ?_ hcall
    rintro rfl named hnamed real hreal
    exact hnames real ⟨named, hnamed, hreal⟩
  | getRealsForVip vip => exact Option.some.inj hstep ▸ getRealsForVip_realsFrom h u vip
  | getIndexForReal real =>
    exact Option.some.inj hstep ▸
      h.apart (getIndexForReal_apart real s) (getIndexForReal_within real s) (by simp)
  | addSrcRoutingRule srcs dst =>
    exact Option.some.inj hstep ▸ addSrcRoutingRule_realsFrom h srcs hnames
  | addSrcRoutingRuleText srcs dst =>
    exact Option.some.inj hstep ▸ addSrcRoutingRuleText_realsFrom h srcs hnames
  | delSrcRoutingRule srcs => exact Option.some.inj hstep ▸ delSrcRoutingRule_realsFrom h srcs
  | delSrcRoutingRuleText srcs =>
    exact Option.some.inj hstep ▸ delSrcRoutingRuleText_realsFrom h srcs
  | clearAllSrcRoutingRules =>
    obtain ⟨reply, hcall, rfl⟩ := Option.map_eq_some_iff.mp hstep
    exact clearAllSrcRoutingRules_realsFrom h hcall
  | getSrcRoutingRule => exact Option.some.inj hstep ▸ getSrcRoutingRuleCidr_realsFrom h u
  | modifyQuicRealsMapping action reals =>
    obtain rfl := Option.some.inj hstep
    refine modifyQuicRealsMapping_realsFrom h u action ?_
    rintro rfl named hnamed real hreal
    exact hnames real ⟨named, hnamed, hreal⟩
  | invalidateServerIds serverIds =>
    exact Option.some.inj hstep ▸
      h.apart (invalidateServerIds_apart serverIds s) (invalidateServerIds_within serverIds s)
        (by simp)
  | revalidateServerIds quicReals =>
    exact Option.some.inj hstep ▸
      h.apart (revalidateServerIds_apart quicReals s) (revalidateServerIds_within quicReals s)
        (by simp)
  | addInlineDecapDst dst => exact Option.some.inj hstep ▸ addInlineDecapDst_realsFrom h dst
  | delInlineDecapDst dst => exact Option.some.inj hstep ▸ delInlineDecapDst_realsFrom h dst
  | addHealthcheckerDst somark dst =>
    exact Option.some.inj hstep ▸
      h.apart (addHealthcheckerDst_apart somark dst s) (addHealthcheckerDst_within somark dst s)
        (by simp)
  | delHealthcheckerDst somark =>
    exact Option.some.inj hstep ▸
      h.apart (delHealthcheckerDst_apart somark s) (delHealthcheckerDst_within somark s) (by simp)
  | changeMac newMac =>
    exact Option.some.inj hstep ▸
      h.apart (changeMac_apart newMac s) (changeMac_within newMac s) (by simp)
  | logVipLruMissStats vip =>
    exact Option.some.inj hstep ▸
      h.apart (logVipLruMissStats_apart vip s) (logVipLruMissStats_within vip s) (by simp)
  | getVipLruMissStats vip => exact Option.some.inj hstep ▸ getVipLruMissStats_realsFrom h u vip
  | featureDiscovering features =>
    obtain rfl := Option.some.inj hstep
    exact h.congr rfl rfl rfl

theorem new_realsFrom (mac : List (BitVec 8)) (features : Features) {maps : BpfMaps}
    (hreals : ∀ num, maps.reals num = ⟨0, 0⟩) (outcomes : List Bool) :
    RealsFrom p (State.new config mac features maps outcomes) where
  registered real r hlookup := by
    rw [State.new, Finmap.lookup_empty] at hlookup
    cases hlookup
  numbered num real hlookup := by
    rw [State.new, Finmap.lookup_empty] at hlookup
    cases hlookup
  entry num := Or.inl (hreals num)

theorem new_vipsFrom (mac : List (BitVec 8)) (features : Features) {maps : BpfMaps}
    (hvipMap : ∀ vipDef, maps.vipMap vipDef = none) (outcomes : List Bool) :
    VipsFrom folly config q (State.new config mac features maps outcomes) where
  pool num hmem := List.mem_range.mp hmem
  registered vip v hlookup := by
    rw [State.new, Finmap.lookup_empty] at hlookup
    cases hlookup
  entry vipDef vmeta hentry := by
    rw [State.new, hvipMap] at hentry
    cases hentry

end Vsoshlb
