import Vsoshlb.ControlPlane.Calls

/-!
# What the reply of a call promises

A caller takes `false` to mean that nothing happened and `true` to mean that the kernel knows. Eight
calls change a table of their own and write one entry of a map, or two. Each changes its table
first and never takes the change back, so a map call that fails leaves one half of the work: some
calls report it and keep the change, the others hide it.
-/

namespace Vsoshlb

/-- The calls that pair a table with entries of a map. -/
inductive Request where
  | addVip (vip : VipKey) (flags : BitVec 32)
  | addHcKey (hcKey : VipKey)
  | delHcKey (hcKey : VipKey)
  | modifyVip (vip : VipKey) (flag : BitVec 32) (set : Bool)
  | modifyReal (real : String) (flags : BitVec 8) (set : Bool)
  | changeMac (newMac : List (BitVec 8))
  | addInlineDecapDst (dst : String)
  | delInlineDecapDst (dst : String)

namespace Request

variable (folly : Folly) (config : Config)

def op : Request → Op
  | addVip vip flags => .addVip vip flags
  | addHcKey hcKey => .addHcKey hcKey
  | delHcKey hcKey => .delHcKey hcKey
  | modifyVip vip flag set => .modifyVip vip flag set
  | modifyReal real flags set => .modifyReal real flags set
  | changeMac newMac => .changeMac newMac
  | addInlineDecapDst dst => .addInlineDecapDst dst
  | delInlineDecapDst dst => .delInlineDecapDst dst

/-- The reply, `none` where the call throws, and the state it leaves. -/
def answer (s : State) : Request → Option Bool × State
  | addVip vip flags => Vsoshlb.addVip folly config vip flags s
  | addHcKey hcKey => Vsoshlb.addHcKey folly config hcKey s
  | delHcKey hcKey => Vsoshlb.delHcKey folly config hcKey s
  | modifyVip vip flag set => Vsoshlb.modifyVip folly config vip flag set s
  | modifyReal real flags set =>
    (Vsoshlb.modifyReal folly config real flags set s).map some id
  | changeMac newMac => (Vsoshlb.changeMac config newMac s).map some id
  | addInlineDecapDst dst => (Vsoshlb.addInlineDecapDst folly config dst s).map some id
  | delInlineDecapDst dst => (Vsoshlb.delInlineDecapDst folly config dst s).map some id

theorem step_op (chash : HashFunction → ConsistentHash) (u : Unspecified) (r : Request)
    (s : State) : step folly config chash s ⟨r.op, u⟩ = some (r.answer folly config s).2 := by
  cases r <;> rfl

theorem op_injective : Function.Injective op := by
  intro r r' h
  cases r <;> cases r' <;> cases h <;> rfl

/-- What `updateRealsMap` makes of an address and its flags. -/
def realEntry (real : IPAddress) (flags : BitVec 8) : BeAddr :=
  { parseAddrToBe real with flags := (parseAddrToBe real).flags ||| (flags &&& ~~~V6DADDR) }

/-- In the map of VIPs stands what the table says of the VIP. -/
def VipWritten (vip : VipKey) (s : State) : Prop :=
  ∃ v vipDef, s.tables.vips.lookup vip = some v ∧ vipKeyToVipDefinition folly vip = some vipDef ∧
    s.maps.vipMap vipDef = some ⟨v.vipFlags, v.vipNum⟩

/-- Every map entry the call is responsible for is written or gone. -/
def Written (s : State) : Request → Prop
  | addVip vip _ => VipWritten folly vip s
  | addHcKey hcKey => ∃ num hcKeyDef, s.tables.hckeys.lookup hcKey = some num ∧
      vipKeyToVipDefinition folly hcKey = some hcKeyDef ∧ s.maps.hcKeyMap hcKeyDef = some num
  | delHcKey hcKey => ∃ hcKeyDef, vipKeyToVipDefinition folly hcKey = some hcKeyDef ∧
      s.maps.hcKeyMap hcKeyDef = none
  | modifyVip vip _ _ => VipWritten folly vip s
  | modifyReal real _ _ => ∃ raddr rmeta, folly.parse real = some raddr ∧
      s.tables.reals.lookup raddr = some rmeta ∧
      s.maps.reals rmeta.num = realEntry raddr rmeta.flags
  | changeMac newMac => s.maps.ctlArray kMacAddrPos = newMac ∧
      (s.features.directHealthchecking → s.maps.hcPcktMacs kHcDstMacPos = newMac)
  | addInlineDecapDst dst => ∃ daddr, folly.parse dst = some daddr ∧
      s.maps.decapDst (parseAddrToBe daddr) = some 0
  | delInlineDecapDst dst => ∃ daddr, folly.parse dst = some daddr ∧
      s.maps.decapDst (parseAddrToBe daddr) = none

/-- All or nothing, and the reply says which. A call that throws gives no reply. -/
def AllOrNothing (s : State) (r : Request) : Prop :=
  ((r.answer folly config s).1 = some false → (r.answer folly config s).2.tables = s.tables) ∧
  ((r.answer folly config s).1 = some true → r.Written folly (r.answer folly config s).2)

/-! ## When the map calls matter -/

/-- Before the call: either it will be refused, or the map calls it makes will succeed, or the
state already has what they would have written. -/
def WritesThrough (s : State) : Request → Prop
  | addVip vip flags => ∀ vipNum vipNums vipDef, AcceptsVip folly vip s →
      s.tables.vipNums = vipNum :: vipNums → vipKeyToVipDefinition folly vip = some vipDef →
      s.nextOutcome ∨ s.maps.vipMap vipDef = some ⟨flags, vipNum⟩
  | addHcKey hcKey => config.enableHc → s.tables.hcKeyNums ≠ [] →
      s.tables.hckeys.lookup hcKey = none → (folly.parse hcKey.address).isSome → s.nextOutcome
  | delHcKey hcKey => config.enableHc → (s.tables.hckeys.lookup hcKey).isSome →
      (folly.parse hcKey.address).isSome → s.nextOutcome
  | modifyVip vip flag set => ∀ v, s.tables.vips.lookup vip = some v →
      (folly.parse vip.address).isSome →
      s.nextOutcome ∨ (if set then v.setVipFlags flag else v.unsetVipFlags flag) = v
  | modifyReal real flags set => ∀ raddr rmeta, folly.parse real = some raddr →
      s.tables.reals.lookup raddr = some rmeta →
      s.nextOutcome ∨ s.maps.reals rmeta.num = realEntry raddr
        (if set then rmeta.flags ||| (flags &&& ~~~V6DADDR)
          else rmeta.flags &&& ~~~(flags &&& ~~~V6DADDR))
  | changeMac newMac => newMac.length = kMacBytes →
      s.nextOutcome ∧ (s.features.directHealthchecking → s.outcomes.tail.headD true) ∨
        newMac = s.tables.ctlMac
  | addInlineDecapDst dst => ∀ daddr, s.features.inlineDecap → folly.parse dst = some daddr →
      daddr ∉ s.tables.decapDsts → s.tables.decapDsts.card + 1 ≤ config.maxDecapDst →
      s.nextOutcome ∨ s.maps.decapDst (parseAddrToBe daddr) = some 0
  | delInlineDecapDst dst => ∀ daddr, s.features.inlineDecap → folly.parse dst = some daddr →
      daddr ∈ s.tables.decapDsts →
      s.nextOutcome ∨ s.maps.decapDst (parseAddrToBe daddr) = none

variable {folly config} {s s' : State} {r : Request}

theorem allOrNothing_of_refused (h : r.answer folly config s = (some false, s'))
    (htables : s'.tables = s.tables) : r.AllOrNothing folly config s := by
  rw [AllOrNothing, h]
  exact ⟨fun _ ↦ htables, fun htrue ↦ by simp at htrue⟩

theorem allOrNothing_of_thrown (h : (r.answer folly config s).1 = none) :
    r.AllOrNothing folly config s := by
  simp [AllOrNothing, h]

/-- A call that hides the outcome of its map call. -/
theorem allOrNothing_of_hidden (h : r.answer folly config s = (some true, s')) :
    r.AllOrNothing folly config s ↔ r.Written folly s' := by
  simp [AllOrNothing, h]

/-- A call that reports the outcome of its map call and keeps its change. -/
theorem allOrNothing_of_reported {ok : Bool} (h : r.answer folly config s = (some ok, s'))
    (hwritten : ok = true → r.Written folly s') :
    r.AllOrNothing folly config s ↔ ok = true ∨ s'.tables = s.tables := by
  cases ok with
  | false => simp [AllOrNothing, h]
  | true => simpa [AllOrNothing, h] using hwritten rfl

/-- What a map holds after a call of the adapter that would write `value`. -/
theorem holds_after_bpfCall_iff {β : Type} {write : BpfMaps → BpfMaps} {value : β}
    (entry : BpfMaps → β) (hwrite : entry (write s.maps) = value) :
    entry (s.bpfCall write).2.maps = value ↔ s.nextOutcome = true ∨ entry s.maps = value := by
  rw [State.bpfCall_maps]
  by_cases hok : s.nextOutcome = true
  · rw [if_pos hok]
    exact iff_of_true hwrite (.inl hok)
  · rw [if_neg hok]
    exact ⟨.inr, fun h ↦ h.resolve_left hok⟩

theorem vipKeyToVipDefinition_eq_none {vip : VipKey}
    (h : vipKeyToVipDefinition folly vip = none) : (folly.parse vip.address).isSome = false := by
  rw [← Bool.not_eq_true, ← vipKeyToVipDefinition_isSome, h]
  simp

@[simp]
theorem updateHcKeyMap_tables (action : ModifyAction) (hcKey : VipKey) (num : ℕ) (s : State) :
    (updateHcKeyMap folly action hcKey num s).2.tables = s.tables := by
  unfold updateHcKeyMap
  split
  · rfl
  · exact State.bpfCall_tables _ s

theorem vipWritten_iff {vip : VipKey} {v : Vip} {vipDef : VipDefinition}
    (hvip : s.tables.vips.lookup vip = some v)
    (hdef : vipKeyToVipDefinition folly vip = some vipDef) :
    VipWritten folly vip s ↔ s.maps.vipMap vipDef = some ⟨v.vipFlags, v.vipNum⟩ := by
  constructor
  · rintro ⟨w, def', hw, hdef', hentry⟩
    obtain rfl : v = w := Option.some.inj (hvip.symm.trans hw)
    obtain rfl : vipDef = def' := Option.some.inj (hdef.symm.trans hdef')
    exact hentry
  · exact fun hentry ↦ ⟨v, vipDef, hvip, hdef, hentry⟩

/-- A call on a healthcheck key that always changes the tables. -/
theorem hcKey_allOrNothing_iff {action : ModifyAction} {hcKey : VipKey} {num : ℕ} {changed : State}
    (hanswer : r.answer folly config s = updateHcKeyMap folly action hcKey num changed)
    (htables : changed.tables ≠ s.tables) (hnext : changed.nextOutcome = s.nextOutcome)
    (hwritten : ∀ hcKeyDef, vipKeyToVipDefinition folly hcKey = some hcKeyDef →
      s.nextOutcome = true → r.Written folly (updateHcKeyMap folly action hcKey num changed).2) :
    r.AllOrNothing folly config s ↔
      ((folly.parse hcKey.address).isSome → s.nextOutcome = true) := by
  cases hdef : vipKeyToVipDefinition folly hcKey with
  | none =>
    have hparse := vipKeyToVipDefinition_eq_none hdef
    refine iff_of_true (allOrNothing_of_thrown ?_) (by simp [hparse])
    simp [hanswer, updateHcKeyMap, hdef]
  | some hcKeyDef =>
    have hparse : (folly.parse hcKey.address).isSome := by
      rw [← vipKeyToVipDefinition_isSome, hdef]
      rfl
    have hreply : r.answer folly config s =
        (some s.nextOutcome, (updateHcKeyMap folly action hcKey num changed).2) := by
      rw [hanswer, ← hnext]
      simp [updateHcKeyMap, hdef]
    rw [allOrNothing_of_reported hreply (hwritten hcKeyDef hdef)]
    rw [updateHcKeyMap_tables]
    simp [htables, hparse]

/-! ## The eight calls -/

theorem addVip_allOrNothing_iff (htesting : config.testing = false) (vip : VipKey)
    (flags : BitVec 32) :
    (addVip vip flags).AllOrNothing folly config s ↔
      (addVip vip flags).WritesThrough folly config s := by
  rcases @addVip_cases folly config vip flags s with
    ⟨hrefused, s', hcall, hs'⟩ |
    ⟨haccepts, vipNum, vipNums, vipDef, taken, hnums, hdef, htaken, hcall⟩
  · have htables : s'.tables = s.tables := by
      rcases hs' with rfl | rfl
      · rfl
      · exact s.rejected_tables
    have hanswer : (addVip vip flags).answer folly config s = (some false, s') := hcall
    exact iff_of_true (allOrNothing_of_refused hanswer htables)
      fun _ _ _ haccepts ↦ absurd haccepts hrefused
  · rw [if_neg (by simp [htesting])] at hcall
    have hanswer : (addVip vip flags).answer folly config s = _ := hcall
    have hlookup : taken.tables.vips.lookup vip =
        some (Vip.new vipNum flags config.chRingSize config.hashFunction) := by
      rw [htaken]
      exact Finmap.lookup_insert _
    have hmaps : taken.maps = s.maps := by rw [htaken]
    have hnext : taken.nextOutcome = s.nextOutcome := by rw [htaken]; rfl
    rw [allOrNothing_of_hidden hanswer, Written, vipWritten_iff (by simpa using hlookup) hdef,
      holds_after_bpfCall_iff (fun maps ↦ maps.vipMap vipDef)
        (Function.update_self vipDef _ _), hmaps, hnext]
    constructor
    · intro h num nums def' _ hnums' hdef'
      obtain ⟨rfl, rfl⟩ := List.cons.inj (hnums.symm.trans hnums')
      obtain rfl := Option.some.inj (hdef.symm.trans hdef')
      exact h
    · exact fun h ↦ h vipNum vipNums vipDef haccepts hnums hdef

theorem modifyVip_allOrNothing_iff (htesting : config.testing = false) (vip : VipKey)
    (flag : BitVec 32) (set : Bool) :
    (modifyVip vip flag set).AllOrNothing folly config s ↔
      (modifyVip vip flag set).WritesThrough folly config s := by
  cases hvip : s.tables.vips.lookup vip with
  | none =>
    have hanswer : (modifyVip vip flag set).answer folly config s = (some false, s) := by
      simp [answer, Vsoshlb.modifyVip, hvip]
    exact iff_of_true (allOrNothing_of_refused hanswer rfl)
      fun v hv ↦ by simp [hvip] at hv
  | some v =>
    have hwrites : (modifyVip vip flag set).WritesThrough folly config s ↔
        ((folly.parse vip.address).isSome → s.nextOutcome = true ∨
          (if set then v.setVipFlags flag else v.unsetVipFlags flag) = v) := by
      simp [WritesThrough, hvip]
    rw [hwrites]
    generalize hw : (if set then v.setVipFlags flag else v.unsetVipFlags flag) = w
    let changed := { s with tables.vips := s.tables.vips.insert vip w }
    have hanswer : (modifyVip vip flag set).answer folly config s =
        updateVipMap folly .add vip ⟨w.vipFlags, w.vipNum⟩ changed := by
      simp only [answer, Vsoshlb.modifyVip, hvip, hw, htesting]
      rfl
    cases hdef : vipKeyToVipDefinition folly vip with
    | none =>
      have hparse := vipKeyToVipDefinition_eq_none hdef
      refine iff_of_true (allOrNothing_of_thrown ?_) (by simp [hparse])
      simp [hanswer, updateVipMap, hdef]
    | some vipDef =>
      have hparse : (folly.parse vip.address).isSome := by
        rw [← vipKeyToVipDefinition_isSome, hdef]
        rfl
      rw [updateVipMap_of_some hdef] at hanswer
      have hlookup : changed.tables.vips.lookup vip = some w := Finmap.lookup_insert _
      have htables : changed.tables = s.tables ↔ w = v := by
        constructor
        · intro h
          rw [h, hvip] at hlookup
          exact (Option.some.inj hlookup).symm
        · rintro rfl
          have hsame : s.tables.vips.insert vip w = s.tables.vips :=
            Finmap.ext_lookup fun other ↦ by
              by_cases hother : other = vip
              · rw [hother, Finmap.lookup_insert, hvip]
              · rw [Finmap.lookup_insert_of_ne _ hother]
          simp only [changed, hsame]
      have hwritten : changed.nextOutcome = true → (modifyVip vip flag set).Written folly
          (changed.bpfCall fun maps ↦
            { maps with
              vipMap := Function.update maps.vipMap vipDef (some ⟨w.vipFlags, w.vipNum⟩) }).2 := by
        intro hok
        apply (vipWritten_iff (by simpa using hlookup) hdef).mpr
        simp [hok]
      rw [allOrNothing_of_reported hanswer hwritten, State.bpfCall_tables, htables]
      simp only [hparse, forall_const]
      rfl

theorem addHcKey_allOrNothing_iff (htesting : config.testing = false) (hcKey : VipKey) :
    (addHcKey hcKey).AllOrNothing folly config s ↔
      (addHcKey hcKey).WritesThrough folly config s := by
  by_cases haccepts : config.enableHc = true ∧ s.tables.hcKeyNums ≠ [] ∧
      s.tables.hckeys.lookup hcKey = none
  · obtain ⟨henable, hnums, hnew⟩ := haccepts
    have hwrites : (addHcKey hcKey).WritesThrough folly config s ↔
        ((folly.parse hcKey.address).isSome → s.nextOutcome = true) := by
      simp [WritesThrough, henable, hnums, hnew]
    obtain ⟨num, nums, hnums⟩ := List.exists_cons_of_ne_nil hnums
    let changed := { s with
      tables.hcKeyNums := nums
      tables.hckeys := s.tables.hckeys.insert hcKey num }
    have hanswer : (addHcKey hcKey).answer folly config s =
        updateHcKeyMap folly .add hcKey num changed := by
      simp [answer, Vsoshlb.addHcKey, henable, hnums, hnew, htesting, changed]
    have hlookup : changed.tables.hckeys.lookup hcKey = some num := Finmap.lookup_insert _
    have htables : changed.tables ≠ s.tables := by
      intro h
      rw [h, hnew] at hlookup
      cases hlookup
    rw [hwrites]
    refine hcKey_allOrNothing_iff hanswer htables rfl fun hcKeyDef hdef hok ↦ ?_
    have hok' : changed.nextOutcome = true := hok
    refine ⟨num, hcKeyDef, ?_, hdef, ?_⟩
    · rw [updateHcKeyMap_tables]
      exact hlookup
    · simp [updateHcKeyMap, hdef, hok']
  · have hanswer : (addHcKey hcKey).answer folly config s = (some false, s) := by
      simp only [answer, Vsoshlb.addHcKey]
      by_cases henable : config.enableHc = false
      · rw [if_pos henable]
      · rw [if_neg henable]
        cases hnums : s.tables.hcKeyNums with
        | nil => rfl
        | cons num nums =>
          have hold : (s.tables.hckeys.lookup hcKey).isSome := by
            rw [Option.isSome_iff_ne_none]
            exact fun hnew ↦ haccepts ⟨by simpa using henable, by simp [hnums], hnew⟩
          simp [hold]
    exact iff_of_true (allOrNothing_of_refused hanswer rfl)
      fun henable hnums hnew ↦ absurd ⟨henable, hnums, hnew⟩ haccepts

theorem delHcKey_allOrNothing_iff (htesting : config.testing = false) (hcKey : VipKey) :
    (delHcKey hcKey).AllOrNothing folly config s ↔
      (delHcKey hcKey).WritesThrough folly config s := by
  by_cases henable : config.enableHc = true
  · cases hold : s.tables.hckeys.lookup hcKey with
    | none =>
      have hanswer : (delHcKey hcKey).answer folly config s = (some false, s) := by
        simp [answer, Vsoshlb.delHcKey, henable, hold]
      exact iff_of_true (allOrNothing_of_refused hanswer rfl)
        fun _ hold' ↦ by simp [hold] at hold'
    | some num =>
      have hwrites : (delHcKey hcKey).WritesThrough folly config s ↔
          ((folly.parse hcKey.address).isSome → s.nextOutcome = true) := by
        simp [WritesThrough, henable, hold]
      let changed := { s with
        tables.hcKeyNums := s.tables.hcKeyNums ++ [num]
        tables.hckeys := s.tables.hckeys.erase hcKey }
      have hanswer : (delHcKey hcKey).answer folly config s =
          updateHcKeyMap folly .del hcKey 0 changed := by
        simp [answer, Vsoshlb.delHcKey, henable, hold, htesting, changed]
      have hlookup : changed.tables.hckeys.lookup hcKey = none := Finmap.lookup_erase _ _
      have htables : changed.tables ≠ s.tables := by
        intro h
        rw [h, hold] at hlookup
        cases hlookup
      rw [hwrites]
      refine hcKey_allOrNothing_iff hanswer htables rfl fun hcKeyDef hdef hok ↦ ⟨hcKeyDef, hdef, ?_⟩
      have hok' : changed.nextOutcome = true := hok
      simp [updateHcKeyMap, hdef, hok']
  · have hanswer : (delHcKey hcKey).answer folly config s = (some false, s) := by
      simp [answer, Vsoshlb.delHcKey, henable]
    exact iff_of_true (allOrNothing_of_refused hanswer rfl) fun henable' ↦ absurd henable' henable

theorem modifyReal_allOrNothing_iff (htesting : config.testing = false) (real : String)
    (flags : BitVec 8) (set : Bool) :
    (modifyReal real flags set).AllOrNothing folly config s ↔
      (modifyReal real flags set).WritesThrough folly config s := by
  cases haddr : folly.parse real with
  | none =>
    have hanswer : (modifyReal real flags set).answer folly config s =
        (some false, s.rejected) := by
      simp [answer, Vsoshlb.modifyReal, validateHost_of_none haddr]
    exact iff_of_true (allOrNothing_of_refused hanswer s.rejected_tables)
      fun raddr _ haddr' ↦ by simp [haddr] at haddr'
  | some raddr =>
    cases hreal : s.tables.reals.lookup raddr with
    | none =>
      have hanswer : (modifyReal real flags set).answer folly config s = (some false, s) := by
        simp [answer, Vsoshlb.modifyReal, validateHost_of_some haddr, hreal]
      refine iff_of_true (allOrNothing_of_refused hanswer rfl) fun raddr' _ haddr' hreal' ↦ ?_
      obtain rfl : raddr = raddr' := Option.some.inj (haddr.symm.trans haddr')
      rw [hreal] at hreal'
      cases hreal'
    | some rmeta =>
      have hwrites : (modifyReal real flags set).WritesThrough folly config s ↔
          (s.nextOutcome = true ∨ s.maps.reals rmeta.num = realEntry raddr
            (if set then rmeta.flags ||| (flags &&& ~~~V6DADDR)
              else rmeta.flags &&& ~~~(flags &&& ~~~V6DADDR))) := by
        constructor
        · exact fun h ↦ h raddr rmeta haddr hreal
        · intro h raddr' rmeta' haddr' hreal'
          obtain rfl : raddr = raddr' := Option.some.inj (haddr.symm.trans haddr')
          obtain rfl : rmeta = rmeta' := Option.some.inj (hreal.symm.trans hreal')
          exact h
      rw [hwrites]
      generalize hflags : (if set then rmeta.flags ||| (flags &&& ~~~V6DADDR)
        else rmeta.flags &&& ~~~(flags &&& ~~~V6DADDR)) = newFlags
      let changed := { s with
        tables.reals := s.tables.reals.insert raddr { rmeta with flags := newFlags } }
      have hanswer : (modifyReal real flags set).answer folly config s =
          (some true, (updateRealsMap raddr rmeta.num newFlags changed).2) := by
        simp only [answer, Vsoshlb.modifyReal, validateHost_of_some haddr, hreal, hflags, htesting]
        rfl
      have hlookup : (updateRealsMap raddr rmeta.num newFlags changed).2.tables.reals.lookup raddr =
          some { rmeta with flags := newFlags } := by
        rw [updateRealsMap, State.bpfCall_tables]
        exact Finmap.lookup_insert _
      have hwritten : (modifyReal real flags set).Written folly
            (updateRealsMap raddr rmeta.num newFlags changed).2 ↔
          (updateRealsMap raddr rmeta.num newFlags changed).2.maps.reals rmeta.num =
            realEntry raddr newFlags := by
        constructor
        · rintro ⟨raddr', rmeta', haddr', hreal', hentry⟩
          obtain rfl : raddr = raddr' := Option.some.inj (haddr.symm.trans haddr')
          obtain rfl := Option.some.inj (hlookup.symm.trans hreal')
          exact hentry
        · exact fun hentry ↦ ⟨raddr, _, haddr, hlookup, hentry⟩
      rw [allOrNothing_of_hidden hanswer, hwritten, updateRealsMap,
        holds_after_bpfCall_iff (fun maps ↦ maps.reals rmeta.num)
          (Function.update_self rmeta.num _ _)]
      rfl

theorem changeMac_allOrNothing_iff (htesting : config.testing = false)
    (newMac : List (BitVec 8)) :
    (changeMac newMac).AllOrNothing folly config s ↔
      (changeMac newMac).WritesThrough folly config s := by
  by_cases hlength : newMac.length = kMacBytes
  · have hwrites : (changeMac newMac).WritesThrough folly config s ↔
        (s.nextOutcome = true ∧
          (s.features.directHealthchecking = true → s.outcomes.tail.headD true = true)) ∨
          newMac = s.tables.ctlMac := by
      simp [WritesThrough, hlength]
    let changed := { s with tables.ctlMac := newMac }
    let written := (changed.bpfCall fun maps ↦
      { maps with ctlArray := Function.update maps.ctlArray kMacAddrPos newMac }).2
    have htables : changed.tables = s.tables ↔ newMac = s.tables.ctlMac := by
      constructor
      · exact fun h ↦ congrArg Tables.ctlMac h
      · rintro rfl
        rfl
    have hnext : changed.nextOutcome = s.nextOutcome := rfl
    have hkept : written.tables = changed.tables := State.bpfCall_tables _ _
    have hctl : s.nextOutcome = true → written.maps.ctlArray kMacAddrPos = newMac := by
      intro hfirst
      simp [written, hnext, hfirst]
    have hanswer : (changeMac newMac).answer folly config s =
        if s.nextOutcome = false then (some false, written)
        else if s.features.directHealthchecking then
          ((written.bpfCall fun maps ↦
            { maps with
              hcPcktMacs := Function.update maps.hcPcktMacs kHcDstMacPos newMac }).map some id)
        else (some true, written) := by
      simp only [answer, Vsoshlb.changeMac, hlength, htesting, State.bpfCall_fst,
        State.bpfCall_features, ne_eq, not_true_eq_false, if_false, Bool.false_eq_true]
      rw [apply_ite (Prod.map some id), apply_ite (Prod.map some id)]
      rfl
    rw [hwrites]
    by_cases hfirst : s.nextOutcome = true
    · rw [if_neg (by simp [hfirst])] at hanswer
      by_cases hdirect : s.features.directHealthchecking = true
      · rw [if_pos hdirect] at hanswer
        have hsecond : written.nextOutcome = s.outcomes.tail.headD true := by
          simp only [State.nextOutcome, written, State.bpfCall_outcomes, changed]
        have hreply : (changeMac newMac).answer folly config s =
            (some (s.outcomes.tail.headD true), (written.bpfCall fun maps ↦
              { maps with
                hcPcktMacs := Function.update maps.hcPcktMacs kHcDstMacPos newMac }).2) := by
          rw [hanswer]
          refine Prod.ext ?_ rfl
          simp [hsecond]
        rw [allOrNothing_of_reported hreply, State.bpfCall_tables, hkept, htables]
        · simp [hfirst, hdirect]
        · intro hok
          rw [← hsecond] at hok
          constructor
          · simpa [hok] using hctl hfirst
          · simp [hok]
      · rw [if_neg hdirect] at hanswer
        have hfeatures : written.features = s.features := State.bpfCall_features _ _
        rw [allOrNothing_of_hidden hanswer]
        refine iff_of_true ⟨hctl hfirst, fun h ↦ ?_⟩ (.inl ⟨hfirst, fun h ↦ absurd h hdirect⟩)
        exact absurd (hfeatures ▸ h) hdirect
    · rw [if_pos (by simpa using hfirst)] at hanswer
      rw [allOrNothing_of_reported hanswer (by simp), hkept, htables]
      simp [hfirst]
  · have hanswer : (changeMac newMac).answer folly config s = (some false, s) := by
      simp [answer, Vsoshlb.changeMac, hlength]
    exact iff_of_true (allOrNothing_of_refused hanswer rfl) fun hlength' ↦ absurd hlength' hlength

theorem addInlineDecapDst_allOrNothing_iff (htesting : config.testing = false) (dst : String) :
    (addInlineDecapDst dst).AllOrNothing folly config s ↔
      (addInlineDecapDst dst).WritesThrough folly config s := by
  by_cases haccepts : ∃ daddr, s.features.inlineDecap = true ∧ folly.parse dst = some daddr ∧
      daddr ∉ s.tables.decapDsts ∧ s.tables.decapDsts.card + 1 ≤ config.maxDecapDst
  · obtain ⟨daddr, hfeature, haddr, hnew, hroom⟩ := haccepts
    let changed := { s with tables.decapDsts := insert daddr s.tables.decapDsts }
    have hanswer : (addInlineDecapDst dst).answer folly config s =
        (some true, (modifyDecapDst .add daddr 0 changed).2) := by
      simp [answer, Vsoshlb.addInlineDecapDst, hfeature, htesting, validateHost_of_some haddr, hnew,
        Nat.not_lt.mpr hroom, changed]
    have hwrites : (addInlineDecapDst dst).WritesThrough folly config s ↔
        (s.nextOutcome = true ∨ s.maps.decapDst (parseAddrToBe daddr) = some 0) := by
      simp [WritesThrough, hfeature, haddr, hnew, hroom]
    rw [hwrites, allOrNothing_of_hidden hanswer, Written, modifyDecapDst]
    simp only [haddr, Option.some.injEq, exists_eq_left']
    rw [holds_after_bpfCall_iff (fun maps ↦ maps.decapDst (parseAddrToBe daddr))
      (Function.update_self _ _ _)]
    rfl
  · have hanswer : ∃ s', (addInlineDecapDst dst).answer folly config s = (some false, s') ∧
        s'.tables = s.tables := by
      simp only [answer, Vsoshlb.addInlineDecapDst]
      by_cases hfeature : s.features.inlineDecap = true
      · cases haddr : folly.parse dst with
        | none => exact ⟨s.rejected, by simp [hfeature, validateHost_of_none haddr], rfl⟩
        | some daddr =>
          refine ⟨s, ?_, rfl⟩
          by_cases hold : daddr ∈ s.tables.decapDsts
          · simp [hfeature, validateHost_of_some haddr, hold]
          · have hroom : config.maxDecapDst < s.tables.decapDsts.card + 1 :=
              lt_of_not_ge fun h ↦ haccepts ⟨daddr, hfeature, haddr, hold, h⟩
            simp [hfeature, validateHost_of_some haddr, hold, hroom]
      · exact ⟨s, by simp [hfeature, htesting], rfl⟩
    obtain ⟨s', hanswer, htables⟩ := hanswer
    exact iff_of_true (allOrNothing_of_refused hanswer htables)
      fun daddr hfeature haddr hnew hroom ↦
        absurd ⟨daddr, hfeature, haddr, hnew, hroom⟩ haccepts

theorem delInlineDecapDst_allOrNothing_iff (htesting : config.testing = false) (dst : String) :
    (delInlineDecapDst dst).AllOrNothing folly config s ↔
      (delInlineDecapDst dst).WritesThrough folly config s := by
  by_cases haccepts : ∃ daddr, s.features.inlineDecap = true ∧ folly.parse dst = some daddr ∧
      daddr ∈ s.tables.decapDsts
  · obtain ⟨daddr, hfeature, haddr, hold⟩ := haccepts
    let changed := { s with tables.decapDsts := s.tables.decapDsts.erase daddr }
    have hanswer : (delInlineDecapDst dst).answer folly config s =
        (some true, (modifyDecapDst .del daddr 0 changed).2) := by
      simp [answer, Vsoshlb.delInlineDecapDst, hfeature, htesting, validateHost_of_some haddr, hold,
        changed]
    have hwrites : (delInlineDecapDst dst).WritesThrough folly config s ↔
        (s.nextOutcome = true ∨ s.maps.decapDst (parseAddrToBe daddr) = none) := by
      simp [WritesThrough, hfeature, haddr, hold]
    rw [hwrites, allOrNothing_of_hidden hanswer, Written, modifyDecapDst]
    simp only [haddr, Option.some.injEq, exists_eq_left']
    rw [holds_after_bpfCall_iff (fun maps ↦ maps.decapDst (parseAddrToBe daddr))
      (Function.update_self _ _ _)]
    rfl
  · have hanswer : ∃ s', (delInlineDecapDst dst).answer folly config s = (some false, s') ∧
        s'.tables = s.tables := by
      simp only [answer, Vsoshlb.delInlineDecapDst]
      by_cases hfeature : s.features.inlineDecap = true
      · cases haddr : folly.parse dst with
        | none => exact ⟨s.rejected, by simp [hfeature, validateHost_of_none haddr], rfl⟩
        | some daddr =>
          have hnew : daddr ∉ s.tables.decapDsts := fun h ↦ haccepts ⟨daddr, hfeature, haddr, h⟩
          exact ⟨s, by simp [hfeature, validateHost_of_some haddr, hnew], rfl⟩
      · exact ⟨s, by simp [hfeature, htesting], rfl⟩
    obtain ⟨s', hanswer, htables⟩ := hanswer
    exact iff_of_true (allOrNothing_of_refused hanswer htables) fun daddr hfeature haddr hold ↦
      absurd ⟨daddr, hfeature, haddr, hold⟩ haccepts

theorem allOrNothing_iff (htesting : config.testing = false) (s : State) (r : Request) :
    r.AllOrNothing folly config s ↔ r.WritesThrough folly config s := by
  cases r with
  | addVip vip flags => exact addVip_allOrNothing_iff htesting vip flags
  | addHcKey hcKey => exact addHcKey_allOrNothing_iff htesting hcKey
  | delHcKey hcKey => exact delHcKey_allOrNothing_iff htesting hcKey
  | modifyVip vip flag set => exact modifyVip_allOrNothing_iff htesting vip flag set
  | modifyReal real flags set => exact modifyReal_allOrNothing_iff htesting real flags set
  | changeMac newMac => exact changeMac_allOrNothing_iff htesting newMac
  | addInlineDecapDst dst => exact addInlineDecapDst_allOrNothing_iff htesting dst
  | delInlineDecapDst dst => exact delInlineDecapDst_allOrNothing_iff htesting dst

end Request

/-! ## Every run -/

section Calls

variable (folly : Folly) (config : Config)

/-- Of a call among the eight: it is all or nothing. -/
def CallAllOrNothing (s : State) (call : Call) : Prop :=
  ∀ r : Request, call.op = r.op → r.AllOrNothing folly config s

/-- Of a call among the eight: no map call that matters to it fails. -/
def CallWritesThrough (s : State) (call : Call) : Prop :=
  ∀ r : Request, call.op = r.op → r.WritesThrough folly config s

end Calls

/-- The calls of a run are all or nothing precisely when no map call that matters to one of them
fails. -/
theorem run_allOrNothing_iff {folly : Folly} {config : Config}
    {chash : HashFunction → ConsistentHash} (htesting : config.testing = false)
    (mac : List (BitVec 8)) (features : Features) (maps : BpfMaps) (outcomes : List Bool)
    (calls : List Call) :
    Runs.Along (step folly config chash) (CallAllOrNothing folly config)
        (State.new config mac features maps outcomes) calls ↔
      Runs.Along (step folly config chash) (CallWritesThrough folly config)
        (State.new config mac features maps outcomes) calls := by
  constructor
  · exact Runs.Along.mono fun s call h r hop ↦
      (Request.allOrNothing_iff htesting s r).mp (h r hop)
  · exact Runs.Along.mono fun s call h r hop ↦
      (Request.allOrNothing_iff htesting s r).mpr (h r hop)

/-- Two calls on a kernel that takes both updates. -/
def committedCalls : List Call :=
  [(Op.addVip ⟨"10.0.0.1", 80, 6⟩ 0).sorted id, (Op.addHcKey ⟨"10.0.0.1", 80, 6⟩).sorted id]

theorem committedCalls_allOrNothing :
    Runs.Along (step .sample .sample fun _ ↦ .single) (CallAllOrNothing .sample .sample)
      (State.new .sample [] ⟨true, true, true⟩ .empty [true, true]) committedCalls := by
  refine (run_allOrNothing_iff rfl [] ⟨true, true, true⟩ .empty [true, true] committedCalls).mpr
    ⟨fun r hop ↦ ?_, fun s hs ↦ ⟨fun r hop ↦ ?_, fun _ _ ↦ trivial⟩⟩
  · obtain rfl : Request.addVip ⟨"10.0.0.1", 80, 6⟩ 0 = r := Request.op_injective hop
    exact fun _ _ _ _ _ _ ↦ .inl rfl
  · obtain rfl : Request.addHcKey ⟨"10.0.0.1", 80, 6⟩ = r := Request.op_injective hop
    obtain rfl := Option.some.inj hs
    exact fun _ _ _ _ ↦ by decide +kernel

/-- One failing update: `addVip` hides it, and `addHcKey` reports it and keeps the key, so that the
next attempt is refused as well. -/
theorem failed_update_halves_calls :
    (∃ s, (Request.addVip ⟨"10.0.0.1", 80, 6⟩ 0).answer .sample .sample (.sample [false]) =
        (some true, s) ∧
      ¬ (Request.addVip ⟨"10.0.0.1", 80, 6⟩ 0).Written .sample s) ∧
    (∃ s, (Request.addHcKey ⟨"10.0.0.1", 80, 6⟩).answer .sample .sample (.sample [false]) =
        (some false, s) ∧
      s.tables.hckeys.lookup ⟨"10.0.0.1", 80, 6⟩ = some 0 ∧
      ((Request.addHcKey ⟨"10.0.0.1", 80, 6⟩).answer .sample .sample s).1 = some false) ∧
    ¬ Runs.Along (step .sample .sample fun _ ↦ .single) (CallAllOrNothing .sample .sample)
      (.sample [false]) [(Op.addVip ⟨"10.0.0.1", 80, 6⟩ 0).sorted id] := by
  have hnotWritten : ¬ (Request.addVip ⟨"10.0.0.1", 80, 6⟩ 0).Written .sample
      ((Request.addVip ⟨"10.0.0.1", 80, 6⟩ 0).answer .sample .sample (.sample [false])).2 := by
    rintro ⟨v, vipDef, -, hdef, hentry⟩
    have hempty : (vipKeyToVipDefinition .sample ⟨"10.0.0.1", 80, 6⟩).map
        ((Request.addVip ⟨"10.0.0.1", 80, 6⟩ 0).answer .sample .sample
          (.sample [false])).2.maps.vipMap = some none := by decide +kernel
    rw [hdef, Option.map_some, hentry] at hempty
    simp at hempty
  have hreply : ((Request.addVip ⟨"10.0.0.1", 80, 6⟩ 0).answer .sample .sample
      (.sample [false])).1 = some true := by decide +kernel
  refine ⟨⟨_, Prod.ext hreply rfl, hnotWritten⟩, ⟨_, Prod.ext (by decide +kernel) rfl, ?_, ?_⟩, ?_⟩
  · decide +kernel
  · decide +kernel
  · intro halong
    exact hnotWritten ((halong.1 (.addVip ⟨"10.0.0.1", 80, 6⟩ 0) rfl).2 hreply)

end Vsoshlb
