import Vsoshlb.Library.FlatArray
import Vsoshlb.Library.Runs
import Vsoshlb.ControlPlane.Reals

/-!
# Calls on VIPs, healthcheck keys and the reals of a VIP

Calls answer with `some` of their return value, or with `none` where they throw; either way the
state is the one they leave behind. A call that computes a ring may not return at all, and so may
one that follows an iterator to the end of a table: such a call has no result.
-/

namespace Vsoshlb

structure NewReal where
  address : String
  weight : ℕ
  flags : BitVec 8
deriving DecidableEq, Repr

variable (folly : Folly) (config : Config) (chash : HashFunction → ConsistentHash)

/-! ## VIPs -/

def updateVipMap (action : ModifyAction) (vip : VipKey) (vmeta : VipMeta) (s : State) :
    Option Bool × State :=
  match vipKeyToVipDefinition folly vip with
  | none => (none, s)
  | some vipDef =>
    let (ok, s) := s.bpfCall fun maps ↦
      { maps with
        vipMap := Function.update maps.vipMap vipDef
          (match action with
          | .add => some vmeta
          | .del => none) }
    (some ok, s)

def addVip (vip : VipKey) (flags : BitVec 32) (s : State) : Option Bool × State :=
  match validateHost folly config vip.address s with
  | (none, s) => (some false, s)
  | (some _, s) =>
    match s.tables.vipNums with
    | [] => (some false, s)
    | vipNum :: vipNums =>
      if (s.tables.vips.lookup vip).isSome then
        (some false, s)
      else
        let s := { s with
          tables.vipNums := vipNums
          tables.vips := s.tables.vips.insert vip
            (Vip.new vipNum flags config.chRingSize config.hashFunction) }
        if config.testing then
          (some true, s)
        else
          match updateVipMap folly .add vip ⟨flags, vipNum⟩ s with
          | (none, s) => (none, s)
          | (some _, s) => (some true, s)

section VipCalls

variable {folly config}

theorem updateVipMap_of_some {vip : VipKey} {vipDef : VipDefinition}
    (hdef : vipKeyToVipDefinition folly vip = some vipDef) (action : ModifyAction)
    (vmeta : VipMeta) (s : State) :
    updateVipMap folly action vip vmeta s =
      (some s.nextOutcome, (s.bpfCall fun maps ↦
        { maps with
          vipMap := Function.update maps.vipMap vipDef
            (match action with
            | .add => some vmeta
            | .del => none) }).2) := by
  simp [updateVipMap, hdef]

@[simp]
theorem updateVipMap_tables (action : ModifyAction) (vip : VipKey) (vmeta : VipMeta) (s : State) :
    (updateVipMap folly action vip vmeta s).2.tables = s.tables := by
  unfold updateVipMap
  split
  · rfl
  · exact State.bpfCall_tables _ s

/-- What `addVip` checks before it changes anything. -/
structure AcceptsVip (folly : Folly) (vip : VipKey) (s : State) : Prop where
  address : (folly.parse vip.address).isSome
  vipNums : s.tables.vipNums ≠ []
  new : s.tables.vips.lookup vip = none

/-- `addVip` refuses and leaves the tables alone, or it takes the number at the front. -/
theorem addVip_cases (vip : VipKey) (flags : BitVec 32) (s : State) :
    (¬ AcceptsVip folly vip s ∧
      ∃ s', addVip folly config vip flags s = (some false, s') ∧ (s' = s ∨ s' = s.rejected)) ∨
    (AcceptsVip folly vip s ∧ ∃ vipNum vipNums vipDef taken,
      s.tables.vipNums = vipNum :: vipNums ∧ vipKeyToVipDefinition folly vip = some vipDef ∧
      taken = { s with
        tables.vipNums := vipNums
        tables.vips := s.tables.vips.insert vip
          (Vip.new vipNum flags config.chRingSize config.hashFunction) } ∧
      addVip folly config vip flags s =
        (some true, if config.testing then taken else (taken.bpfCall fun maps ↦
          { maps with
            vipMap := Function.update maps.vipMap vipDef (some ⟨flags, vipNum⟩) }).2)) := by
  cases haddr : folly.parse vip.address with
  | none =>
    refine .inl ⟨fun h ↦ by simpa [haddr] using h.address, s.rejected, ?_, .inr rfl⟩
    simp [addVip, validateHost_of_none haddr]
  | some address =>
    cases hnums : s.tables.vipNums with
    | nil =>
      refine .inl ⟨fun h ↦ h.vipNums hnums, s, ?_, .inl rfl⟩
      simp [addVip, validateHost_of_some haddr, hnums]
    | cons vipNum vipNums =>
      cases hold : s.tables.vips.lookup vip with
      | some v =>
        refine .inl ⟨fun h ↦ by simpa [hold] using h.new, s, ?_, .inl rfl⟩
        simp [addVip, validateHost_of_some haddr, hnums, hold]
      | none =>
        have hdef : vipKeyToVipDefinition folly vip =
            some ⟨(parseAddrToBe address).addr, bigEndian vip.port, vip.proto⟩ := by
          simp [vipKeyToVipDefinition, haddr]
        refine .inr ⟨⟨by simp [haddr], by simp [hnums], hold⟩, vipNum, vipNums, _, _, rfl, hdef,
          rfl, ?_⟩
        simp only [addVip, validateHost_of_some haddr, hnums, hold, Option.isSome_none,
          Bool.false_eq_true, if_false, updateVipMap_of_some hdef]
        split_ifs <;> rfl

/-- The tables after `addVip`: those before, or those with the VIP and without its number. -/
theorem addVip_tables_cases (vip : VipKey) (flags : BitVec 32) (s : State) :
    (addVip folly config vip flags s).2.tables = s.tables ∨
    (AcceptsVip folly vip s ∧ ∃ vipNum vipNums, s.tables.vipNums = vipNum :: vipNums ∧
      (addVip folly config vip flags s).2.tables = { s.tables with
        vipNums := vipNums
        vips := s.tables.vips.insert vip
          (Vip.new vipNum flags config.chRingSize config.hashFunction) }) := by
  rcases @addVip_cases folly config vip flags s with
    ⟨-, s', hcall, hs'⟩ | ⟨haccepts, vipNum, vipNums, vipDef, taken, hnums, -, htaken, hcall⟩
  · left
    rw [hcall]
    rcases hs' with rfl | rfl <;> rfl
  · refine .inr ⟨haccepts, vipNum, vipNums, hnums, ?_⟩
    rw [hcall]
    split_ifs
    · rw [htaken]
    · rw [State.bpfCall_tables, htaken]

end VipCalls

/-- The loop of `delVip` over the reals of the VIP. -/
def releaseVipReals (nums : List ℕ) (s : State) : State :=
  nums.foldl (fun s num ↦
    let (realName, s) := numToRealsAt num s
    decreaseRefCountForReal realName s) s

def delVip (u : Unspecified) (vip : VipKey) (s : State) : Option Bool × State :=
  match s.tables.vips.lookup vip with
  | none => (some false, s)
  | some v =>
    let s := releaseVipReals (v.getReals u.vipReals) s
    let s := { s with tables.vipNums := s.tables.vipNums ++ [v.vipNum] }
    if config.testing then
      (some true, { s with tables.vips := s.tables.vips.erase vip })
    else
      match updateVipMap folly .del vip ⟨0, 0⟩ s with
      | (none, s) => (none, s)
      | (some _, s) => (some true, { s with tables.vips := s.tables.vips.erase vip })

def modifyVip (vip : VipKey) (flag : BitVec 32) (set : Bool) (s : State) : Option Bool × State :=
  match s.tables.vips.lookup vip with
  | none => (some false, s)
  | some v =>
    let v := if set then v.setVipFlags flag else v.unsetVipFlags flag
    let s := { s with tables.vips := s.tables.vips.insert vip v }
    if config.testing then
      (some true, s)
    else
      updateVipMap folly .add vip ⟨v.vipFlags, v.vipNum⟩ s

theorem modifyVip_tables {folly : Folly} {config : Config} {vip : VipKey} {v : Vip} {s : State}
    (hvip : s.tables.vips.lookup vip = some v) {flag : BitVec 32} {set : Bool} :
    (modifyVip folly config vip flag set s).2.tables =
      { s.tables with
        vips := s.tables.vips.insert vip
          (if set then v.setVipFlags flag else v.unsetVipFlags flag) } := by
  unfold modifyVip
  simp only [hvip]
  by_cases htesting : config.testing
  · rw [if_pos htesting]
  · rw [if_neg htesting, updateVipMap_tables]

/-! ## Healthcheck keys -/

def updateHcKeyMap (action : ModifyAction) (hcKey : VipKey) (hcKeyId : ℕ) (s : State) :
    Option Bool × State :=
  match vipKeyToVipDefinition folly hcKey with
  | none => (none, s)
  | some hcKeyDef =>
    let (ok, s) := s.bpfCall fun maps ↦
      { maps with
        hcKeyMap := Function.update maps.hcKeyMap hcKeyDef
          (match action with
          | .add => some hcKeyId
          | .del => none) }
    (some ok, s)

def addHcKey (hcKey : VipKey) (s : State) : Option Bool × State :=
  if config.enableHc = false then
    (some false, s)
  else
    match s.tables.hcKeyNums with
    | [] => (some false, s)
    | hcKeyNum :: hcKeyNums =>
      if (s.tables.hckeys.lookup hcKey).isSome then
        (some false, s)
      else
        let s := { s with
          tables.hcKeyNums := hcKeyNums
          tables.hckeys := s.tables.hckeys.insert hcKey hcKeyNum }
        if config.testing then
          (some true, s)
        else
          updateHcKeyMap folly .add hcKey hcKeyNum s

def delHcKey (hcKey : VipKey) (s : State) : Option Bool × State :=
  if config.enableHc = false then
    (some false, s)
  else
    match s.tables.hckeys.lookup hcKey with
    | none => (some false, s)
    | some hcKeyNum =>
      let s := { s with
        tables.hcKeyNums := s.tables.hcKeyNums ++ [hcKeyNum]
        tables.hckeys := s.tables.hckeys.erase hcKey }
      if config.testing then
        (some true, s)
      else
        updateHcKeyMap folly .del hcKey 0 s

/-! ## The reals of a VIP -/

/-- The source sets the values of the batch but not its keys, so these come from `u` and nothing
uses the number of the VIP. -/
def programHashRing (u : Unspecified) (chPositions : List RealPos) (_vipNum : ℕ) (s : State) :
    State :=
  if chPositions.isEmpty then
    s
  else if config.testing then
    s
  else
    let keys := (List.range chPositions.length).map u.ringKeys
    let values := chPositions.map RealPos.real
    (s.bpfCall fun maps ↦
      { maps with chRings := FlatArray.setAll maps.chRings (keys.zip values) }).2

def changeHashFunctionForVip (u : Unspecified) (vip : VipKey) (func : HashFunction) (s : State) :
    Option (Bool × State) :=
  match validateHost folly config vip.address s with
  | (none, s) => some (false, s)
  | (some _, s) =>
    match s.tables.vips.lookup vip with
    | none => some (false, s)
    | some v => do
      let (positions, v) ← (v.setHashFunction func).recalculateHashRing chash u.vipReals
      let s := { s with tables.vips := s.tables.vips.insert vip v }
      return (true, programHashRing config u positions v.vipNum s)

section RingPrograms

variable {folly config chash}

@[simp]
theorem programHashRing_tables (u : Unspecified) (chPositions : List RealPos) (vipNum : ℕ)
    (s : State) : (programHashRing config u chPositions vipNum s).tables = s.tables := by
  unfold programHashRing
  split_ifs
  · rfl
  · rfl
  · exact State.bpfCall_tables _ s

/-- `changeHashFunctionForVip` leaves the tables alone, or it stores and programs a new ring. -/
theorem changeHashFunctionForVip_cases {u : Unspecified} {vip : VipKey} {func : HashFunction}
    {s : State} {reply : Bool × State}
    (h : changeHashFunctionForVip folly config chash u vip func s = some reply) :
    (reply = (false, s) ∨ reply = (false, s.rejected)) ∨
    ∃ v positions w, s.tables.vips.lookup vip = some v ∧
      (v.setHashFunction func).recalculateHashRing chash u.vipReals = some (positions, w) ∧
      reply = (true,
        programHashRing config u positions w.vipNum
          { s with tables.vips := s.tables.vips.insert vip w }) := by
  unfold changeHashFunctionForVip at h
  cases haddr : folly.parse vip.address with
  | none =>
    simp only [validateHost_of_none haddr, Option.some.injEq] at h
    exact .inl (.inr h.symm)
  | some address =>
    simp only [validateHost_of_some haddr] at h
    cases hvip : s.tables.vips.lookup vip with
    | none =>
      simp only [hvip, Option.some.injEq] at h
      exact .inl (.inl h.symm)
    | some v =>
      simp only [hvip] at h
      obtain ⟨⟨positions, w⟩, hring, h⟩ := Option.bind_eq_some_iff.mp h
      exact .inr ⟨v, positions, w, rfl, hring, (Option.some.inj h).symm⟩

end RingPrograms

/-- What the loop of `modifyRealsForVip` carries along: the numbers it takes for those of the VIP,
and the updates to make. -/
structure Batch where
  curReals : List ℕ
  ureals : List UpdateReal

/-- The loop body of `modifyRealsForVip` for `DEL`. -/
def delRealStep (acc : Batch × State) (real : NewReal) : Batch × State :=
  let (batch, s) := acc
  match validateHost folly config real.address s with
  | (none, s) => (batch, s)
  | (some raddr, s) =>
    match s.tables.reals.lookup raddr with
    | none => (batch, s)
    | some rmeta =>
      if rmeta.num ∈ batch.curReals then
        ({ batch with ureals := batch.ureals ++ [⟨.del, ⟨rmeta.num, 0, 0⟩⟩] },
          decreaseRefCountForReal raddr s)
      else
        (batch, s)

/-- The loop body of `modifyRealsForVip` for `ADD`. -/
def addRealStep (acc : Batch × State) (real : NewReal) : Batch × State :=
  let (batch, s) := acc
  match validateHost folly config real.address s with
  | (none, s) => (batch, s)
  | (some raddr, s) =>
    let ureal (num : ℕ) : UpdateReal := ⟨.add, ⟨num, real.weight, folly.hash raddr⟩⟩
    match s.tables.reals.lookup raddr with
    | some rmeta =>
      if rmeta.num ∈ batch.curReals then
        ({ batch with ureals := batch.ureals ++ [ureal rmeta.num] }, s)
      else
        (⟨batch.curReals ++ [rmeta.num], batch.ureals ++ [ureal rmeta.num]⟩,
          (increaseRefCountForReal config raddr real.flags s).2)
    | none =>
      let (rnum, s) := increaseRefCountForReal config raddr real.flags s
      if rnum = config.maxReals then
        (batch, s)
      else
        ({ batch with ureals := batch.ureals ++ [ureal rnum] }, s)

def realsLoop (action : ModifyAction) (reals : List NewReal) (acc : Batch × State) :
    Batch × State :=
  match action with
  | .add => reals.foldl (addRealStep folly config) acc
  | .del => reals.foldl (delRealStep folly config) acc

section RealsLoop

variable {folly config}

/-- What an element of an `ADD` does to the state: nothing, or it counts a failed validation, or
its real. -/
theorem addRealStep_state (acc : Batch × State) (real : NewReal) :
    (addRealStep folly config acc real).2 = acc.2 ∨
    (addRealStep folly config acc real).2 = acc.2.rejected ∨
    ∃ raddr, folly.parse real.address = some raddr ∧ (addRealStep folly config acc real).2 =
      (increaseRefCountForReal config raddr real.flags acc.2).2 := by
  obtain ⟨batch, s⟩ := acc
  unfold addRealStep
  cases haddr : folly.parse real.address with
  | none =>
    simp only [validateHost_of_none haddr]
    exact .inr (.inl trivial)
  | some raddr =>
    simp only [validateHost_of_some haddr]
    cases s.tables.reals.lookup raddr with
    | some r =>
      dsimp only
      split_ifs
      · exact .inl rfl
      · exact .inr (.inr ⟨raddr, rfl, rfl⟩)
    | none =>
      dsimp only
      split_ifs
      · exact .inr (.inr ⟨raddr, rfl, rfl⟩)
      · exact .inr (.inr ⟨raddr, rfl, rfl⟩)

theorem delRealStep_state (acc : Batch × State) (real : NewReal) :
    (delRealStep folly config acc real).2 = acc.2 ∨
    (delRealStep folly config acc real).2 = acc.2.rejected ∨
    ∃ raddr, (delRealStep folly config acc real).2 = decreaseRefCountForReal raddr acc.2 := by
  obtain ⟨batch, s⟩ := acc
  unfold delRealStep
  cases haddr : folly.parse real.address with
  | none =>
    simp only [validateHost_of_none haddr]
    exact .inr (.inl trivial)
  | some raddr =>
    simp only [validateHost_of_some haddr]
    cases s.tables.reals.lookup raddr with
    | none => exact .inl rfl
    | some r =>
      dsimp only
      split_ifs
      · exact .inr (.inr ⟨raddr, rfl⟩)
      · exact .inl rfl

/-- What failed validations and counting keep, the loop keeps. -/
theorem realsLoop_invariant {I : State → Prop} (hrejected : ∀ s, I s → I s.rejected)
    (hincrease : ∀ raddr flags s, raddr ≠ .unspec → I s →
      I (increaseRefCountForReal config raddr flags s).2)
    (hdecrease : ∀ raddr s, I s → I (decreaseRefCountForReal raddr s)) (action : ModifyAction)
    (reals : List NewReal) {acc : Batch × State} (h : I acc.2) :
    I (realsLoop folly config action reals acc).2 := by
  cases action with
  | add =>
    refine Runs.foldl_invariant (fun acc : Batch × State ↦ I acc.2) h reals fun acc real hacc ↦ ?_
    rcases addRealStep_state acc real with hstep | hstep | ⟨raddr, haddr, hstep⟩
    · rw [hstep]
      exact hacc
    · rw [hstep]
      exact hrejected acc.2 hacc
    · rw [hstep]
      exact hincrease raddr real.flags acc.2 (fun heq ↦ folly.parse_specified _ (heq ▸ haddr)) hacc
  | del =>
    refine Runs.foldl_invariant (fun acc : Batch × State ↦ I acc.2) h reals fun acc real hacc ↦ ?_
    rcases delRealStep_state acc real with hstep | hstep | ⟨raddr, hstep⟩
    · rw [hstep]
      exact hacc
    · rw [hstep]
      exact hrejected acc.2 hacc
    · rw [hstep]
      exact hdecrease raddr acc.2 hacc

end RealsLoop

def modifyRealsForVip (u : Unspecified) (action : ModifyAction) (reals : List NewReal)
    (vip : VipKey) (s : State) : Option (Bool × State) :=
  match s.tables.vips.lookup vip with
  | none => some (false, s)
  | some v => do
    let (batch, s) := realsLoop folly config action reals (⟨v.getReals u.vipReals, []⟩, s)
    let (chPositions, v) ← v.batchRealsUpdate chash u.vipReals batch.ureals
    let s := { s with tables.vips := s.tables.vips.insert vip v }
    return (true, programHashRing config u chPositions v.vipNum s)

/-- `modifyRealsForVip` knows no such VIP, or it runs the loop and stores and programs a new
ring. -/
theorem modifyRealsForVip_cases {folly : Folly} {config : Config}
    {chash : HashFunction → ConsistentHash} {u : Unspecified} {action : ModifyAction}
    {reals : List NewReal} {vip : VipKey} {s : State} {reply : Bool × State}
    (h : modifyRealsForVip folly config chash u action reals vip s = some reply) :
    reply = (false, s) ∨
    ∃ v batch looped positions w, s.tables.vips.lookup vip = some v ∧
      realsLoop folly config action reals (⟨v.getReals u.vipReals, []⟩, s) = (batch, looped) ∧
      v.batchRealsUpdate chash u.vipReals batch.ureals = some (positions, w) ∧
      reply = (true,
        programHashRing config u positions w.vipNum
          { looped with tables.vips := looped.tables.vips.insert vip w }) := by
  unfold modifyRealsForVip at h
  cases hvip : s.tables.vips.lookup vip with
  | none =>
    simp only [hvip, Option.some.injEq] at h
    exact .inl h.symm
  | some v =>
    simp only [hvip] at h
    obtain ⟨⟨positions, w⟩, hring, h⟩ := Option.bind_eq_some_iff.mp h
    exact .inr ⟨v, _, _, positions, w, rfl, rfl, hring, (Option.some.inj h).symm⟩

def addRealForVip (u : Unspecified) (real : NewReal) (vip : VipKey) (s : State) :
    Option (Bool × State) :=
  modifyRealsForVip folly config chash u .add [real] vip s

def delRealForVip (u : Unspecified) (real : NewReal) (vip : VipKey) (s : State) :
    Option (Bool × State) :=
  modifyRealsForVip folly config chash u .del [real] vip s

def modifyReal (real : String) (flags : BitVec 8) (set : Bool) (s : State) : Bool × State :=
  match validateHost folly config real s with
  | (none, s) => (false, s)
  | (some raddr, s) =>
    match s.tables.reals.lookup raddr with
    | none => (false, s)
    | some rmeta =>
      let flags := flags &&& ~~~V6DADDR
      let newFlags := if set then rmeta.flags ||| flags else rmeta.flags &&& ~~~flags
      let s := { s with
        tables.reals := s.tables.reals.insert raddr { rmeta with flags := newFlags } }
      (true, if config.testing then s else (updateRealsMap raddr rmeta.num newFlags s).2)

/-- `getRealsForVip`. Reading the names and flags creates entries for what is missing. -/
def getRealsForVip (u : Unspecified) (vip : VipKey) (s : State) :
    Option (List (IPAddress × ℕ × BitVec 8)) × State :=
  match s.tables.vips.lookup vip with
  | none => (none, s)
  | some v =>
    let (reals, s) := (v.getRealsAndWeight u.vipReals).foldl (fun (acc : _ × State) realId ↦
      let (reals, s) := acc
      let (address, s) := numToRealsAt realId.num s
      match s.tables.reals.lookup address with
      | some rmeta => (reals ++ [(address, realId.weight, rmeta.flags)], s)
      | none => (reals ++ [(address, realId.weight, 0)], { s with
          tables.reals := s.tables.reals.insert address ⟨0, 0, 0⟩ })) ([], s)
    (some reals, s)

def getIndexForReal (real : String) (s : State) : Option ℕ × State :=
  match validateHost folly config real s with
  | (none, s) => (none, s)
  | (some raddr, s) => ((s.tables.reals.lookup raddr).map RealMeta.num, s)

end Vsoshlb
