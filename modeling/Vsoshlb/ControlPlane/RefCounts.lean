import Vsoshlb.ControlPlane.IdPools
import Vsoshlb.ControlPlane.RouteCounts

/-!
# Reference counts over a run

From the loops to whole calls and runs. As long as every call counts each holder once, the count of
a real is the number of its holders in every state, no real without a holder is left, and no holder
refers to a real that is gone.
-/

namespace Vsoshlb

open HashTable RefCount

variable {folly : Folly} {config : Config} {chash : HashFunction → ConsistentHash}
  {exact : Bool} {ids : ℕ → ℕ}

/-- The condition under which a call keeps the books balanced. -/
def CountsOnce (folly : Folly) (config : Config) (exact : Bool) (s : State) (call : Call) : Prop :=
  match call.op with
  | .modifyRealsForVip action reals vip => ∀ v, s.tables.vips.lookup vip = some v →
      BatchCounts folly config exact action reals
        (⟨v.getReals call.unspecified.vipReals, []⟩, s)
  | .addSrcRoutingRule srcs dst => srcRoutingEnabled config s → ∀ raddr,
      folly.parse dst = some raddr → SrcCounts config exact raddr srcs s
  | .addSrcRoutingRuleText srcs dst => srcRoutingEnabled config s → ∀ raddr,
      folly.parse dst = some raddr →
      SrcCounts config exact raddr (collectNetworks folly config srcs.length srcs [] 0 s).1
        (collectNetworks folly config srcs.length srcs [] 0 s).2.2
  | .modifyQuicRealsMapping .add reals => QuicBatchCounts folly config reals s
  | _ => True

/-- The numbers given to QUIC ids after a call. -/
def assignedIds (folly : Folly) (config : Config) (s : State) (call : Call) (ids : ℕ → ℕ) :
    ℕ → ℕ :=
  match call.op with
  | .modifyQuicRealsMapping .add reals =>
    assign (reals.foldl (addQuicStep folly config) (∅, s)).1 ids
  | _ => ids

theorem addSrcRoutingRule_balanced {srcs : List CIDRNetwork} {dst : String} {s : State}
    (h : Balanced exact config ids s.tables)
    (hcounts : srcRoutingEnabled config s → ∀ raddr, folly.parse dst = some raddr →
      SrcCounts config exact raddr srcs s) :
    Balanced exact config ids (addSrcRoutingRule folly config srcs dst s).2.tables := by
  unfold addSrcRoutingRule
  split_ifs with henabled
  · exact h
  · cases haddr : folly.parse dst with
    | none => simpa [validateHost_of_none haddr] using h
    | some raddr =>
      rw [validateHost_of_some haddr]
      exact addSrcNetworks_balanced h
        (hcounts (Bool.eq_true_of_not_eq_false henabled) raddr haddr)

theorem addSrcRoutingRuleText_balanced {srcs : List String} {dst : String} {s : State}
    (h : Balanced exact config ids s.tables)
    (hcounts : srcRoutingEnabled config s → ∀ raddr, folly.parse dst = some raddr →
      SrcCounts config exact raddr (collectNetworks folly config srcs.length srcs [] 0 s).1
        (collectNetworks folly config srcs.length srcs [] 0 s).2.2) :
    Balanced exact config ids (addSrcRoutingRuleText folly config srcs dst s).2.tables := by
  unfold addSrcRoutingRuleText
  split_ifs with henabled
  · exact h
  · cases haddr : folly.parse dst with
    | none => simpa [validateHost_of_none haddr] using h
    | some raddr =>
      rw [validateHost_of_some haddr]
      refine addSrcRoutingRule_balanced ?_
        fun _ ↦ hcounts (Bool.eq_true_of_not_eq_false henabled)
      exact h.of_within (collectNetworks_within _ _ _ _ _) (by simp) (by simp) (by simp) (by simp)
        (by simp)

theorem delSrcRoutingRule_balanced (srcs : List CIDRNetwork) {s : State}
    (h : Balanced exact config ids s.tables) :
    Balanced exact config ids (delSrcRoutingRule config srcs s).2.tables := by
  unfold delSrcRoutingRule
  split_ifs
  · exact h
  · exact Runs.foldl_invariant (fun s : State ↦ Balanced exact config ids s.tables) h srcs
      delSrcNetwork_balanced

theorem delSrcRoutingRuleText_balanced (srcs : List String) {s : State}
    (h : Balanced exact config ids s.tables) :
    Balanced exact config ids (delSrcRoutingRuleText folly config srcs s).2.tables := by
  unfold delSrcRoutingRuleText
  split_ifs
  · exact h
  · exact delSrcRoutingRule_balanced _ h

theorem addQuicReals_balanced {u : Unspecified} {reals : List QuicReal} {s : State}
    (h : Balanced exact config ids s.tables) (hcounts : QuicBatchCounts folly config reals s) :
    Balanced exact config (assign (reals.foldl (addQuicStep folly config) (∅, s)).1 ids)
      (modifyQuicRealsMapping folly config u .add reals s).tables := by
  have hloop := addQuicLoop_balanced h hcounts
  unfold modifyQuicRealsMapping
  dsimp only
  split_ifs
  · exact hloop
  · exact hloop.of_within (Within.foldl updateServerIdMap_within _ _) (by simp) (by simp) (by simp)
      (by simp) (by simp)

/-- One call, given that a VIP in the table can be deleted. -/
theorem step_balanced {s s' : State} {call : Call} (h : Balanced exact config ids s.tables)
    (hparses : ∀ vip v, s.tables.vips.lookup vip = some v → (folly.parse vip.address).isSome)
    (hcounts : CountsOnce folly config exact s call)
    (hstep : step folly config chash s call = some s') :
    Balanced exact config (assignedIds folly config s call ids) s'.tables := by
  have hwithin := step_within hstep
  obtain ⟨op, u⟩ := call
  cases op with
  | addVip vip flags => exact Option.some.inj hstep ▸ addVip_balanced vip flags h
  | delVip vip => exact Option.some.inj hstep ▸ delVip_balanced u vip h (hparses vip)
  | modifyVip vip flag set => exact Option.some.inj hstep ▸ modifyVip_balanced vip flag set h
  | changeHashFunctionForVip vip func =>
    obtain ⟨reply, hcall, rfl⟩ := Option.map_eq_some_iff.mp hstep
    exact changeHashFunctionForVip_balanced h hcall
  | modifyReal real flags set =>
    exact Option.some.inj hstep ▸ modifyReal_balanced real flags set h
  | modifyRealsForVip action reals vip =>
    obtain ⟨reply, hcall, rfl⟩ := Option.map_eq_some_iff.mp hstep
    exact modifyRealsForVip_balanced h hcounts hcall
  | getRealsForVip vip =>
    have hsame : s = s' := (getRealsForVip_state u vip h).symm.trans (Option.some.inj hstep)
    exact hsame ▸ h
  | getSrcRoutingRule =>
    have hsame : s = s' := (getSrcRoutingRuleCidr_state u h).symm.trans (Option.some.inj hstep)
    exact hsame ▸ h
  | getVipLruMissStats vip =>
    have htables := @getVipLruMissStats_tables folly config exact ids u vip s h
    rw [← Option.some.inj hstep]
    dsimp only
    rw [htables]
    exact h
  | addSrcRoutingRule srcs dst =>
    exact Option.some.inj hstep ▸ addSrcRoutingRule_balanced h hcounts
  | addSrcRoutingRuleText srcs dst =>
    exact Option.some.inj hstep ▸ addSrcRoutingRuleText_balanced h hcounts
  | delSrcRoutingRule srcs => exact Option.some.inj hstep ▸ delSrcRoutingRule_balanced srcs h
  | delSrcRoutingRuleText srcs =>
    exact Option.some.inj hstep ▸ delSrcRoutingRuleText_balanced srcs h
  | clearAllSrcRoutingRules =>
    obtain ⟨reply, hcall, rfl⟩ := Option.map_eq_some_iff.mp hstep
    exact clearAllSrcRoutingRules_balanced h hcall
  | modifyQuicRealsMapping action reals =>
    rw [← Option.some.inj hstep]
    cases action with
    | add => exact addQuicReals_balanced h hcounts
    | del =>
      exact Runs.foldl_invariant (fun s : State ↦ Balanced exact config ids s.tables) h reals
        delQuicStep_balanced
  | _ =>
    exact h.of_within hwithin (by simp [Op.footprint]) (by simp [Op.footprint])
      (by simp [Op.footprint]) (by simp [Op.footprint]) (by simp [Op.footprint])

/-! ## Exact counts -/

/-- A QUIC id is mapped to the address, or a VIP or a rule holds the number it goes by. -/
def Referred (t : Tables) (address : IPAddress) : Prop :=
  (∃ id, t.quicMapping.lookup id = some address) ∨
  ∃ num, t.numToReals.lookup num = some address ∧ 0 < numRefs t.vips t.lpmSrcMapping num

structure RefsExact (t : Tables) : Prop where
  refCount : ∀ a r, t.reals.lookup a = some r →
    r.refCount = numRefs t.vips t.lpmSrcMapping r.num + quicRefs t.quicMapping a
  contains : ∀ a, (t.reals.lookup a).isSome ↔ Referred t a
  num_live : ∀ num, 0 < numRefs t.vips t.lpmSrcMapping num →
    ∃ a r, t.numToReals.lookup num = some a ∧ t.reals.lookup a = some r ∧ r.num = num

theorem Balanced.refsExact {t : Tables} (h : Balanced true config ids t) : RefsExact t where
  refCount a r ha := Eq.symm (h.counted a r ha)
  contains a := by
    constructor
    · intro ha
      obtain ⟨r, hr⟩ := Option.isSome_iff_exists.mp ha
      have hsum : numRefs t.vips t.lpmSrcMapping r.num + quicRefs t.quicMapping a = r.refCount :=
        h.counted a r hr
      have hpos : 0 < r.refCount := h.positive a r hr
      rw [← hsum] at hpos
      rcases Nat.add_pos_iff_pos_or_pos.mp hpos with hnum | hquic
      · exact .inr ⟨r.num, h.name hr, hnum⟩
      · exact .inl (quicRefs_pos_iff.mp hquic)
    · rintro (hquic | ⟨num, hname, -⟩)
      · exact Option.isSome_iff_exists.mpr (h.key_live a (quicRefs_pos_iff.mpr hquic))
      · obtain ⟨r, hr, -⟩ := (h.names num a).mp hname
        exact Option.isSome_iff_exists.mpr ⟨r, hr⟩
  num_live num hnum := Books.live h hnum

/-- If every call along the run counts each holder once, then in every state of the run the count
of a real is the number of VIPs, rules and QUIC ids that refer to it. -/
theorem run_refsExact (mac : List (BitVec 8)) (features : Features) (maps : BpfMaps)
    (outcomes : List Bool) (calls : List Call)
    (hcounts : Runs.Along (step folly config chash) (CountsOnce folly config true)
      (State.new config mac features maps outcomes) calls) :
    Runs.Always (step folly config chash) (fun s ↦ RefsExact s.tables)
      (State.new config mac features maps outcomes) calls := by
  have halways := Runs.always_of_along
    (I := fun s : State ↦ (∃ ids, Balanced true config ids s.tables) ∧
      IdPools folly config s.tables)
    (fun s call s' ⟨⟨ids, h⟩, hpools⟩ hcall hstep ↦
      ⟨⟨_, step_balanced h hpools.parses hcall hstep⟩, step_idPools hpools hstep⟩)
    ⟨⟨fun _ ↦ 0, new_balanced _ mac features maps outcomes⟩,
      new_idPools mac features maps outcomes⟩ hcounts
  exact halways.mono fun s ⟨⟨_, h⟩, _⟩ ↦ h.refsExact

/-- A VIP and a QUIC id that share a real. -/
def sharedCalls : List Call :=
  [(Op.addVip ⟨"10.0.0.1", 80, 6⟩ 0).sorted id,
    (Op.modifyRealsForVip .add [⟨"10.0.0.2", 1, 0⟩] ⟨"10.0.0.1", 80, 6⟩).sorted id,
    (Op.modifyQuicRealsMapping .add [⟨"10.0.0.2", 7⟩]).sorted id]

theorem sharedCalls_countsOnce (exact : Bool) :
    Runs.Along (step .sample .sample fun _ ↦ .single) (CountsOnce .sample .sample exact)
      (State.new .sample [] ⟨true, true, true⟩ .empty []) sharedCalls := by
  refine ⟨trivial, fun s₁ h₁ ↦ ⟨fun v _ ↦ ⟨fun raddr rmeta _ hreal ↦ ?_, fun _ _ ↦ trivial⟩,
    fun s₂ h₂ ↦ ⟨⟨fun raddr haddr _ _ ↦ ?_, fun _ _ ↦ trivial⟩, fun _ _ ↦ trivial⟩⟩⟩
  · -- the real is new to the balancer
    have hreals := ((step_within h₁).same .reals (by simp [Op.footprint, Op.sorted])).1
    simp only [State.new] at hreals
    simp [hreals] at hreal
  · -- the real has its VIP as the only holder, and the id is not mapped
    have hrun : runSample [] (sharedCalls.take 2) = some s₂ := by
      have hcons : runSample [] (sharedCalls.take 2) =
          (step .sample .sample (fun _ ↦ .single) (.sample []) sharedCalls[0]).bind fun s ↦
            (step .sample .sample (fun _ ↦ .single) s sharedCalls[1]).bind some := rfl
      rw [hcons]
      exact Option.bind_eq_some_iff.mpr ⟨s₁, h₁, Option.bind_eq_some_iff.mpr ⟨s₂, h₂, rfl⟩⟩
    have htables : (runSample [] (sharedCalls.take 2)).map (fun s ↦
        ((s.tables.reals.lookup (.v4 0x0a000002)).map RealMeta.refCount,
          s.tables.quicMapping.lookup 7)) = some (some 1, none) := by decide +kernel
    rw [hrun, Option.map_some, Option.some.injEq, Prod.mk.injEq] at htables
    obtain ⟨hcount, hid⟩ := htables
    obtain rfl : (.v4 0x0a000002 : IPAddress) = raddr :=
      Option.some.inj ((by decide : Folly.sample.parse "10.0.0.2" = _).symm.trans haddr)
    refine ⟨fun r hr ↦ ?_, fun current r hcurrent ↦ ?_⟩
    · dsimp only at hr
      rw [hr] at hcount
      have hone : r.refCount = 1 := Option.some.inj hcount
      omega
    · simp [hid] at hcurrent

theorem sharedCalls_refsExact :
    ∃ s, runSample [] sharedCalls = some s ∧ RefsExact s.tables ∧
      (s.tables.reals.lookup (.v4 0x0a000002)).map RealMeta.refCount = some 2 := by
  have hcount : (runSample [] sharedCalls).map (fun s ↦
      (s.tables.reals.lookup (.v4 0x0a000002)).map RealMeta.refCount) = some (some 2) := by
    decide +kernel
  obtain ⟨s, hrun, htwo⟩ := Option.map_eq_some_iff.mp hcount
  exact ⟨s, hrun, run_refsExact [] ⟨true, true, true⟩ .empty [] sharedCalls
    (sharedCalls_countsOnce true) sharedCalls s (List.prefix_refl _) hrun, htwo⟩

/-- Two VIPs share a real. One of them deletes it twice in a batch. -/
def doubleDelete : List Call :=
  [(Op.addVip ⟨"10.0.0.1", 80, 6⟩ 0).sorted id, (Op.addVip ⟨"fc00::1", 80, 6⟩ 0).sorted id,
    (Op.modifyRealsForVip .add [⟨"10.0.0.2", 1, 0⟩] ⟨"10.0.0.1", 80, 6⟩).sorted id,
    (Op.modifyRealsForVip .add [⟨"10.0.0.2", 1, 0⟩] ⟨"fc00::1", 80, 6⟩).sorted id,
    (Op.modifyRealsForVip .del [⟨"10.0.0.2", 0, 0⟩, ⟨"10.0.0.2", 0, 0⟩]
      ⟨"10.0.0.1", 80, 6⟩).sorted id]

/-- The other VIP then refers to a real that is gone. -/
theorem doubleDelete_frees_real :
    ∃ s, runSample [] doubleDelete = some s ∧ s.tables.numToReals.lookup 1 = none ∧
      ((s.tables.vips.lookup ⟨"fc00::1", 80, 6⟩).bind fun v ↦ v.reals.lookup 1).isSome ∧
      ¬ RefsExact s.tables := by
  have hfreed : (runSample [] doubleDelete).map (fun s ↦
      (s.tables.numToReals.lookup 1,
        ((s.tables.vips.lookup ⟨"fc00::1", 80, 6⟩).bind fun v ↦ v.reals.lookup 1).isSome)) =
      some (none, true) := by decide +kernel
  obtain ⟨s, hrun, hstate⟩ := Option.map_eq_some_iff.mp hfreed
  obtain ⟨hname, hheld⟩ := Prod.mk.inj hstate
  refine ⟨s, hrun, hname, hheld, fun hexact ↦ ?_⟩
  obtain ⟨r, hr⟩ := Option.isSome_iff_exists.mp hheld
  obtain ⟨v, hvip, hreal⟩ := Option.bind_eq_some_iff.mp hr
  have hrefs : 0 < numRefs s.tables.vips s.tables.lpmSrcMapping 1 :=
    numRefs_pos_iff.mpr (.inl ⟨_, v, hvip, by simp [hreal]⟩)
  obtain ⟨a, r', hlive, -, -⟩ := hexact.num_live 1 hrefs
  rw [hname] at hlive
  exact Option.some_ne_none a hlive.symm

end Vsoshlb
