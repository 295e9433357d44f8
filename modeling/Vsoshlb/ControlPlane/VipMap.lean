import Vsoshlb.Library.Image
import Vsoshlb.ControlPlane.IdPools

/-!
# The kernel's map of VIPs

`vips_` is keyed by the text of an address, `vip_map` by its bytes. Two texts of one address, and an
IPv4 address and the IPv6 address that starts with its four bytes, share an entry. As long as
`addVip` never accepts a VIP whose entry another VIP has, the map is the image of the table; the
first call that does makes two VIPs share one entry.
-/

namespace Vsoshlb

open HashTable

variable {folly : Folly} {config : Config} {chash : HashFunction → ConsistentHash}

/-! ## Entries that coincide -/

/-- Two addresses that fill the sixteen bytes in the same way. -/
def SameBytes : IPAddress → IPAddress → Prop
  | .v4 addr, .v6 addr' | .v6 addr', .v4 addr => addr' = addr ++ (0 : BitVec 96)
  | address, address' => address = address'

theorem append_left_injective :
    Function.Injective fun addr : BitVec 32 ↦ addr ++ (0 : BitVec 96) := by
  intro a b h
  apply BitVec.eq_of_toNat_eq
  have htoNat := congrArg BitVec.toNat h
  simp only [BitVec.toNat_append, BitVec.ofNat_eq_ofNat, BitVec.toNat_ofNat] at htoNat
  simpa [Nat.shiftLeft_eq] using htoNat

theorem parseAddrToBe_addr_eq_iff {address address' : IPAddress} (h : address ≠ .unspec)
    (h' : address' ≠ .unspec) :
    (parseAddrToBe address).addr = (parseAddrToBe address').addr ↔ SameBytes address address' := by
  cases address <;> cases address' <;> simp only [SameBytes, parseAddrToBe] at h h' ⊢
  case v4.v4 a b => exact ⟨fun heq ↦ congrArg _ (append_left_injective heq), fun heq ↦ by simp_all⟩
  case v4.v6 a b => exact eq_comm
  case v6.v6 a b => simp
  all_goals simp_all

/-- Two VIPs share an entry exactly when they have the port, the protocol and the bytes of the
address in common. -/
theorem vipKeyToVipDefinition_eq_iff {vip vip' : VipKey} {address address' : IPAddress}
    (h : folly.parse vip.address = some address)
    (h' : folly.parse vip'.address = some address') :
    vipKeyToVipDefinition folly vip = vipKeyToVipDefinition folly vip' ↔
      SameBytes address address' ∧ vip.port = vip'.port ∧ vip.proto = vip'.proto := by
  have hspec : address ≠ .unspec := fun heq ↦ folly.parse_specified _ (heq ▸ h)
  have hspec' : address' ≠ .unspec := fun heq ↦ folly.parse_specified _ (heq ▸ h')
  simp [vipKeyToVipDefinition, h, h', parseAddrToBe_addr_eq_iff hspec hspec',
    bigEndian_injective.eq_iff]

/-! ## One call -/

/-- What the map holds for a VIP. -/
def vipEntry (v : Vip) : VipMeta := ⟨v.vipFlags, v.vipNum⟩

/-- `vip_map` is the image of `vips_`. -/
abbrev VipMapAgrees (folly : Folly) (s : State) : Prop :=
  Image.IsImage (vipKeyToVipDefinition folly) vipEntry s.tables.vips s.maps.vipMap

/-- A call of `addVip` that goes through finds no VIP with the entry of the new one. -/
def OwnEntry (folly : Folly) (s : State) (call : Call) : Prop :=
  match call.op with
  | .addVip vip _ => AcceptsVip folly vip s → ∀ vip' v', s.tables.vips.lookup vip' = some v' →
      vipKeyToVipDefinition folly vip' ≠ vipKeyToVipDefinition folly vip
  | _ => True

theorem VipMapAgrees.of_within {footprint : List Component} {s s' : State}
    (h : VipMapAgrees folly s) (hwithin : Within footprint s s') (hvips : .vips ∉ footprint)
    (hvipMap : .vipMap ∉ footprint) : VipMapAgrees folly s' := by
  have hv : s'.tables.vips = s.tables.vips := hwithin.same .vips hvips
  have hm : s'.maps.vipMap = s.maps.vipMap := hwithin.same .vipMap hvipMap
  rw [VipMapAgrees, hv, hm]
  exact h

/-- A new ring for a VIP, or new reals, do not show in its entry. -/
theorem VipMapAgrees.updateVip {s s' : State} (h : VipMapAgrees folly s) {vip : VipKey}
    {v w : Vip} (hvip : s.tables.vips.lookup vip = some v)
    (hvips : s'.tables.vips = s.tables.vips.insert vip w) (hentry : vipEntry w = vipEntry v)
    (hvipMap : s'.maps.vipMap = s.maps.vipMap) : VipMapAgrees folly s' := by
  rw [VipMapAgrees, hvips, hvipMap]
  exact h.congr_value hvip hentry

section Calls

variable {s : State}

theorem addVip_vipMapAgrees_iff (htesting : config.testing = false) (hnil : s.outcomes = [])
    (h : VipMapAgrees folly s) (vip : VipKey) (flags : BitVec 32) (u : Unspecified) :
    OwnEntry folly s ⟨.addVip vip flags, u⟩ ↔
      VipMapAgrees folly (addVip folly config vip flags s).2 := by
  rcases @addVip_cases folly config vip flags s with
    ⟨hrefused, s', hcall, hs'⟩ | ⟨haccepts, vipNum, vipNums, vipDef, taken, -, hdef, htaken, hcall⟩
  · rw [hcall]
    refine iff_of_true (fun haccepts ↦ absurd haccepts hrefused) ?_
    rcases hs' with rfl | rfl <;> exact h
  · have hnil' : taken.outcomes = [] := by rw [htaken, hnil]
    rw [hcall, htesting, State.bpfCall_of_nil _ _ hnil', htaken]
    constructor
    · intro hown
      exact h.insert hdef (fun vip' v' hvip' ↦ hdef ▸ hown haccepts vip' v' hvip')
        (Vip.new vipNum flags config.chRingSize config.hashFunction)
    · intro hagrees _ vip' v' hvip' heq
      -- the new VIP and the old one are two keys with one entry
      have hne : vip' ≠ vip := by
        rintro rfl
        rw [haccepts.new] at hvip'
        exact Option.some_ne_none _ hvip'.symm
      refine hne (hagrees.distinct vip' vip v' _ ?_ (Finmap.lookup_insert s.tables.vips) heq)
      exact (Finmap.lookup_insert_of_ne _ hne).trans hvip'

theorem delVip_vipMapAgrees (htesting : config.testing = false) (hnil : s.outcomes = [])
    (h : VipMapAgrees folly s) (vip : VipKey) (u : Unspecified) :
    VipMapAgrees folly (delVip folly config u vip s).2 := by
  cases hvip : s.tables.vips.lookup vip with
  | none => simpa [delVip, hvip] using h
  | some v =>
    obtain ⟨vipDef, hdef, -⟩ := h.entry vip v hvip
    have hwithin := releaseVipReals_within (v.getReals u.vipReals) s
    have hreleased := h.of_within hwithin (by simp) (by simp)
    have hnil' := hwithin.outcomes_eq_nil hnil
    have hvips : (releaseVipReals (v.getReals u.vipReals) s).tables.vips = s.tables.vips :=
      hwithin.same .vips (by simp)
    simp only [delVip, hvip, htesting, Bool.false_eq_true, if_false, updateVipMap_of_some hdef]
    rw [State.bpfCall_of_nil]
    · exact hreleased.erase (hvips ▸ hvip) hdef
    · exact hnil'

theorem modifyVip_vipMapAgrees (htesting : config.testing = false) (hnil : s.outcomes = [])
    (h : VipMapAgrees folly s) (vip : VipKey) (flag : BitVec 32) (set : Bool) :
    VipMapAgrees folly (modifyVip folly config vip flag set s).2 := by
  cases hvip : s.tables.vips.lookup vip with
  | none => simpa [modifyVip, hvip] using h
  | some v =>
    obtain ⟨vipDef, hdef, -⟩ := h.entry vip v hvip
    simp only [modifyVip, hvip, htesting, Bool.false_eq_true, if_false, updateVipMap_of_some hdef]
    rw [State.bpfCall_of_nil]
    · exact h.update hvip hdef _
    · exact hnil

theorem programHashRing_vipMap (u : Unspecified) (chPositions : List RealPos) (vipNum : ℕ)
    (s : State) : (programHashRing config u chPositions vipNum s).maps.vipMap = s.maps.vipMap :=
  (programHashRing_within u chPositions vipNum s).same .vipMap (by simp)

theorem changeHashFunctionForVip_vipMapAgrees (h : VipMapAgrees folly s) {u : Unspecified}
    {vip : VipKey} {func : HashFunction} {reply : Bool × State}
    (hcall : changeHashFunctionForVip folly config chash u vip func s = some reply) :
    VipMapAgrees folly reply.2 := by
  rcases changeHashFunctionForVip_cases hcall with
    (rfl | rfl) | ⟨v, positions, w, hvip, hring, rfl⟩
  · exact h
  · exact h
  · obtain ⟨ring, rfl⟩ := Vip.calculateHashRing_frame hring
    exact h.updateVip hvip (congrArg Tables.vips (programHashRing_tables u positions v.vipNum _))
      rfl (programHashRing_vipMap u positions v.vipNum _)

theorem modifyRealsForVip_vipMapAgrees (h : VipMapAgrees folly s) {u : Unspecified}
    {action : ModifyAction} {reals : List NewReal} {vip : VipKey} {reply : Bool × State}
    (hcall : modifyRealsForVip folly config chash u action reals vip s = some reply) :
    VipMapAgrees folly reply.2 := by
  rcases modifyRealsForVip_cases hcall with
    rfl | ⟨v, batch, looped, positions, w, hvip, hloop, hring, rfl⟩
  · exact h
  · have hwithin := @realsLoop_within folly config action reals (⟨v.getReals u.vipReals, []⟩, s)
    rw [hloop] at hwithin
    have hvips := hwithin.same .vips (by simp)
    obtain ⟨ring, rfl⟩ := Vip.batchRealsUpdate_frame hring
    exact (h.of_within hwithin (by simp) (by simp)).updateVip
      ((congrArg (Finmap.lookup vip) hvips).trans hvip)
      (congrArg Tables.vips (programHashRing_tables u positions v.vipNum _)) rfl
      (programHashRing_vipMap u positions v.vipNum _)

end Calls

/-! ## Every run -/

/-- Where no call of the adapter fails, a call keeps the agreement exactly under `OwnEntry`. -/
theorem step_vipMapAgrees_iff (htesting : config.testing = false) (s : State) (call : Call)
    (hnil : s.outcomes = []) (h : VipMapAgrees folly s) :
    OwnEntry folly s call ↔
      ∀ s', step folly config chash s call = some s' → VipMapAgrees folly s' := by
  obtain ⟨op, u⟩ := call
  cases op with
  | addVip vip flags =>
    simpa [step] using addVip_vipMapAgrees_iff htesting hnil h vip flags u
  | delVip vip =>
    exact iff_of_true trivial fun s' hstep ↦
      Option.some.inj hstep ▸ delVip_vipMapAgrees htesting hnil h vip u
  | modifyVip vip flag set =>
    exact iff_of_true trivial fun s' hstep ↦
      Option.some.inj hstep ▸ modifyVip_vipMapAgrees htesting hnil h vip flag set
  | changeHashFunctionForVip vip func =>
    refine iff_of_true trivial fun s' hstep ↦ ?_
    obtain ⟨reply, hcall, rfl⟩ := Option.map_eq_some_iff.mp hstep
    exact changeHashFunctionForVip_vipMapAgrees h hcall
  | modifyRealsForVip action reals vip =>
    refine iff_of_true trivial fun s' hstep ↦ ?_
    obtain ⟨reply, hcall, rfl⟩ := Option.map_eq_some_iff.mp hstep
    exact modifyRealsForVip_vipMapAgrees h hcall
  | _ =>
    exact iff_of_true trivial fun s' hstep ↦
      h.of_within (step_within hstep) (by simp [Op.footprint]) (by simp [Op.footprint])

/-- Where no call of the adapter fails, `vip_map` is the image of `vips_` in every state of a run
if and only if no `addVip` accepts a VIP whose entry is taken. -/
theorem run_vipMapAgrees_iff (htesting : config.testing = false) (mac : List (BitVec 8))
    (features : Features) (maps : BpfMaps) (hmaps : maps.vipMap = fun _ ↦ none)
    (calls : List Call) :
    Runs.Always (step folly config chash) (VipMapAgrees folly)
        (State.new config mac features maps []) calls ↔
      Runs.Along (step folly config chash) (OwnEntry folly)
        (State.new config mac features maps []) calls := by
  have hnew : VipMapAgrees folly (State.new config mac features maps []) := by
    simp only [VipMapAgrees, State.new, hmaps]
    exact Image.isImage_empty
  exact Runs.always_iff_along (J := fun s ↦ s.outcomes = [])
    (fun s call s' hnil hstep ↦ (step_within hstep).outcomes_eq_nil hnil)
    (fun s call hnil h ↦ step_vipMapAgrees_iff htesting s call hnil h) hnew rfl

/-- Two VIPs of different families. -/
def familyCalls : List Call :=
  [(Op.addVip ⟨"10.0.0.1", 80, 6⟩ 0).sorted id, (Op.addVip ⟨"fc00::1", 80, 6⟩ 4).sorted id,
    (Op.delVip ⟨"10.0.0.1", 80, 6⟩).sorted id]

theorem run_vipMapAgrees_iff_families :
    Config.sample.testing = false ∧ (BpfMaps.empty.vipMap = fun _ ↦ none) ∧
    (Runs.Always (step .sample .sample fun _ ↦ .single) (VipMapAgrees .sample)
        (State.new .sample [] ⟨true, true, true⟩ .empty []) familyCalls ↔
      Runs.Along (step .sample .sample fun _ ↦ .single) (OwnEntry .sample)
        (State.new .sample [] ⟨true, true, true⟩ .empty []) familyCalls) :=
  ⟨rfl, rfl, run_vipMapAgrees_iff rfl [] ⟨true, true, true⟩ .empty rfl familyCalls⟩

/-- One VIP under two spellings of its address; then one of the two goes. -/
def aliasCalls : List Call :=
  [(Op.addVip ⟨"fc00::1", 80, 6⟩ 0).sorted id, (Op.addVip ⟨"FC00::1", 80, 6⟩ 0).sorted id,
    (Op.delVip ⟨"FC00::1", 80, 6⟩).sorted id]

/-- The VIP that stays is in the table and has lost its entry in the map. -/
theorem deleted_alias_takes_entry :
    ∃ s, runSample [] aliasCalls = some s ∧
      (s.tables.vips.lookup ⟨"fc00::1", 80, 6⟩).isSome ∧
      (vipKeyToVipDefinition .sample ⟨"fc00::1", 80, 6⟩).map s.maps.vipMap = some none ∧
      ¬ VipMapAgrees .sample s := by
  have hlost : (runSample [] aliasCalls).map (fun s ↦
      ((s.tables.vips.lookup ⟨"fc00::1", 80, 6⟩).isSome,
        (vipKeyToVipDefinition .sample ⟨"fc00::1", 80, 6⟩).map s.maps.vipMap)) =
      some (true, some none) := by decide +kernel
  obtain ⟨s, hrun, hstate⟩ := Option.map_eq_some_iff.mp hlost
  obtain ⟨hvip, hentry⟩ := Prod.mk.inj hstate
  refine ⟨s, hrun, hvip, hentry, fun hagrees ↦ ?_⟩
  obtain ⟨v, hv⟩ := Option.isSome_iff_exists.mp hvip
  obtain ⟨vipDef, hdef, hmap⟩ := hagrees.entry _ v hv
  rw [hdef] at hentry
  simp [hmap] at hentry

end Vsoshlb
