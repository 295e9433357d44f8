import Vsoshlb.Library.Runs
import Vsoshlb.ControlPlane.Calls
import Vsoshlb.DataPlane.ProcessPacket

/-!
# The LRU misses of one VIP

An operator chooses a VIP, and the forwarding program should count the misses of its packets for
every real. The program compares the VIP of each miss with the chosen one, but the comparison of
the protocols is an assignment to the map, and where the VIPs agree it only looks the counter up.
-/

namespace Vsoshlb

open DataPlane EarlyExit

variable (folly : Folly) (config : Config)

/-! ## Choosing the VIP -/

/-- The loop at the end of `logVipLruMissStats`. A failure stops it and is not counted. -/
def resetLruMissStats : List (BitVec 32) → State → Machine → Bool × State × Machine
  | [], s, m => (true, s, m)
  | key :: keys, s, m =>
    let ok := s.nextOutcome
    let s := { s with outcomes := s.outcomes.tail }
    if ok = false ∨ m.lruMissStats key = none then
      (false, s, m)
    else
      resetLruMissStats keys s
        { m with lruMissStats := Function.update m.lruMissStats key (some 0) }

/-- `logVipLruMissStats` with the maps of the forwarding program. The descriptor of `lru_miss_stats`
is an input. -/
def logVipLruMissStatsMaps (fd : ℤ) (vip : VipKey) (s : State) (m : Machine) :
    Option Bool × State × Machine :=
  match logVipLruMissStats folly config vip s with
  | (some true, s) =>
    let m := { m with vipMissStats := s.maps.vipMissStats }
    if fd < 0 then
      (some false, s, m)
    else
      let (ok, s, m) := resetLruMissStats ((List.range config.maxReals).map (BitVec.ofNat 32)) s m
      (some ok, s, m)
  | (ok, s) => (ok, s, m)

theorem resetLruMissStats_spec {keys : List (BitVec 32)} {s s' : State} {m m' : Machine}
    (h : resetLruMissStats keys s m = (true, s', m')) :
    m'.vipMissStats = m.vipMissStats ∧
      ∀ key, m'.lruMissStats key = if key ∈ keys then some 0 else m.lruMissStats key := by
  induction keys generalizing s m with
  | nil =>
    cases h
    simp
  | cons first keys ih =>
    unfold resetLruMissStats at h
    dsimp only at h
    split_ifs at h with hfails
    · cases h
    · obtain ⟨hvip, hcounts⟩ := ih h
      refine ⟨hvip, fun key ↦ ?_⟩
      rw [hcounts key]
      by_cases hkeys : key ∈ keys
      · simp [hkeys]
      · simp [hkeys, Function.update_apply]

variable {folly config}

/-- What the maps hold when the VIP has been chosen. -/
structure Chosen (config : Config) (vipDef : VipDefinition) (m : Machine) : Prop where
  vip : m.vipMissStats = some vipDef
  zero : ∀ real : BitVec 32, real.toNat < config.maxReals → m.lruMissStats real = some 0

theorem logVipLruMissStats_vipMissStats {vip : VipKey} {address : IPAddress} {s s' : State}
    (haddress : folly.parse vip.address = some address)
    (hstr : folly.parse (folly.str address) = some address)
    (h : logVipLruMissStats folly config vip s = (some true, s')) :
    s'.maps.vipMissStats = some ⟨(parseAddrToBe address).addr, bigEndian vip.port, vip.proto⟩ := by
  have hdef : vipKeyToVipDefinition folly { vip with address := folly.str address } =
      some ⟨(parseAddrToBe address).addr, bigEndian vip.port, vip.proto⟩ := by
    simp [vipKeyToVipDefinition, hstr]
  unfold logVipLruMissStats at h
  simp only [validateHost_of_some haddress, hdef] at h
  obtain ⟨hok, rfl⟩ := Prod.mk.inj h
  rw [State.bpfCall_fst, Option.some.injEq] at hok
  rw [State.bpfCall_maps, if_pos hok]

theorem logVipLruMissStatsMaps_chosen {fd : ℤ} {vip : VipKey} {address : IPAddress} {s s' : State}
    {m m' : Machine} (haddress : folly.parse vip.address = some address)
    (hstr : folly.parse (folly.str address) = some address)
    (h : logVipLruMissStatsMaps folly config fd vip s m = (some true, s', m')) :
    Chosen config ⟨(parseAddrToBe address).addr, bigEndian vip.port, vip.proto⟩ m' := by
  unfold logVipLruMissStatsMaps at h
  cases hlog : logVipLruMissStats folly config vip s with
  | mk ok t =>
    rw [hlog] at h
    match ok with
    | none => cases h
    | some false => cases h
    | some true =>
      have hvip := logVipLruMissStats_vipMissStats haddress hstr hlog
      dsimp only at h
      split_ifs at h with hfd
      · cases h
      · generalize hreset : resetLruMissStats _ t _ = outcome at h
        obtain ⟨ok, t', m'⟩ := outcome
        simp only [Prod.mk.injEq, Option.some.injEq] at h
        obtain ⟨rfl, rfl, rfl⟩ := h
        obtain ⟨hkept, hzero⟩ := resetLruMissStats_spec hreset
        refine ⟨hkept.trans hvip, fun real hreal ↦ ?_⟩
        rw [hzero real, if_pos]
        exact List.mem_map.mpr ⟨real.toNat, List.mem_range.mpr hreal, BitVec.ofNat_toNat _ _⟩

/-! ## The misses -/

/-- A call of `update_vip_lru_miss_stats`: the VIP of the packet, its family, and the index of its
real. -/
structure MissCall where
  vip : VipDefinition
  isIpv6 : Bool
  realIndex : BitVec 32
deriving DecidableEq, Repr

namespace MissCall

/-- The state after the call. -/
def after (m : Machine) (call : MissCall) : Machine :=
  (updateVipLruMissStats call.vip call.isIpv6 { m with pckt.realIndex := call.realIndex }).2

def address (call : MissCall) : IPAddress :=
  if call.isIpv6 then .v6 call.vip.addr else .v4 (ipv4Part call.vip.addr)

/-- The call is for a packet of the VIP. -/
def IsFor (vip : VipKey) (address : IPAddress) (call : MissCall) : Prop :=
  call.address = address ∧ call.vip.port = bigEndian vip.port ∧ call.vip.proto = vip.proto

instance (vip : VipKey) (address : IPAddress) : DecidablePred (IsFor vip address) := fun _ ↦
  inferInstanceAs (Decidable (_ ∧ _))

/-- The protocol of the chosen VIP becomes that of the call. Nothing else of it changes, and no
counter does. -/
theorem after_eq (m : Machine) (call : MissCall) :
    after m call = { m with
      pckt.realIndex := call.realIndex
      vipMissStats := m.vipMissStats.map fun chosen ↦
        { chosen with proto := call.vip.proto } } := by
  cases hchosen : m.vipMissStats with
  | none =>
    simp only [after, updateVipLruMissStats, Prog.bind_apply, Prog.read, hchosen, Prog.orExit,
      Prog.exit, Option.map_none]
  | some chosen =>
    simp only [after, updateVipLruMissStats, Prog.bind_apply, Prog.read, hchosen, Prog.orExit,
      Prog.pure_apply, Prog.modify, Prog.exitIf, Option.map_some]
    split_ifs <;> rfl

end MissCall

/-- The state after a sequence of calls. -/
def afterMisses (calls : List MissCall) (m : Machine) : Machine := calls.foldl MissCall.after m

theorem afterMisses_append (front back : List MissCall) (m : Machine) :
    afterMisses (front ++ back) m = afterMisses back (afterMisses front m) :=
  List.foldl_append

theorem afterMisses_lruMissStats (calls : List MissCall) (m : Machine) :
    (afterMisses calls m).lruMissStats = m.lruMissStats := by
  apply Runs.foldl_invariant (fun t : Machine ↦ t.lruMissStats = m.lruMissStats) rfl
  intro t call ht
  rw [MissCall.after_eq]
  exact ht

/-- Calls with the protocol of the chosen VIP leave it alone. -/
theorem afterMisses_vipMissStats {vipDef : VipDefinition} {calls : List MissCall} {m : Machine}
    (hm : m.vipMissStats = some vipDef) (hproto : ∀ call ∈ calls, call.vip.proto = vipDef.proto) :
    (afterMisses calls m).vipMissStats = some vipDef := by
  apply Runs.foldl_invariant_of_mem (fun t : Machine ↦ t.vipMissStats = some vipDef) hm
  intro t call hcall ht
  rw [MissCall.after_eq, ht, Option.map_some, hproto call hcall]

/-- What the statistics of a chosen VIP should be after the calls. -/
structure Observed (config : Config) (vip : VipKey) (address : IPAddress) (calls : List MissCall)
    (m : Machine) : Prop where
  kept : m.vipMissStats = some ⟨(parseAddrToBe address).addr, bigEndian vip.port, vip.proto⟩
  counts : ∀ real : BitVec 32, real.toNat < config.maxReals → ∃ misses,
    m.lruMissStats real = some misses ∧
      misses.toNat = calls.countP fun call ↦ call.IsFor vip address ∧ call.realIndex = real

/-- A sequence of calls disturbs nothing and counts what it should if and only if all calls have the
protocol of the chosen VIP, and none of them is for the chosen VIP. -/
theorem observed_iff {vip : VipKey} {address : IPAddress} {m : Machine}
    (hm : Chosen config ⟨(parseAddrToBe address).addr, bigEndian vip.port, vip.proto⟩ m)
    {calls : List MissCall} :
    (∀ pre, pre <+: calls → Observed config vip address pre (afterMisses pre m)) ↔
      ∀ call ∈ calls, call.vip.proto = vip.proto ∧
        ¬ (call.IsFor vip address ∧ call.realIndex.toNat < config.maxReals) := by
  constructor
  · intro hobserved call hcall
    obtain ⟨front, back, rfl⟩ := List.append_of_mem hcall
    have hafter := hobserved (front ++ [call]) ⟨back, by simp⟩
    constructor
    · have hvip := hafter.kept
      rw [afterMisses_append, show afterMisses [call] (afterMisses front m) =
        MissCall.after (afterMisses front m) call from rfl, MissCall.after_eq] at hvip
      obtain ⟨chosen, -, hchosen⟩ := Option.map_eq_some_iff.mp hvip
      exact congrArg VipDefinition.proto hchosen
    · rintro ⟨hfor, hreal⟩
      obtain ⟨misses, hmisses, hcount⟩ := hafter.counts call.realIndex hreal
      rw [afterMisses_lruMissStats, hm.zero _ hreal] at hmisses
      obtain rfl : 0 = misses := Option.some.inj hmisses
      have hzero := List.countP_eq_zero.mp hcount.symm call (by simp)
      exact hzero (by simp [hfor])
  · intro hcalls pre hpre
    have hmem : ∀ call ∈ pre, call ∈ calls := fun call hcall ↦ hpre.subset hcall
    constructor
    · exact afterMisses_vipMissStats hm.vip fun call hcall ↦ (hcalls call (hmem call hcall)).1
    · intro real hreal
      refine ⟨0, ?_, ?_⟩
      · rw [afterMisses_lruMissStats, hm.zero real hreal]
      · symm
        refine List.countP_eq_zero.mpr fun call hcall hcounted ↦ ?_
        obtain ⟨hfor, rfl⟩ := of_decide_eq_true hcounted
        exact (hcalls call (hmem call hcall)).2 ⟨hfor, hreal⟩

/-- The statistics of a VIP that `logVipLruMissStats` chose. -/
theorem logVipLruMissStats_observed_iff {fd : ℤ} {vip : VipKey} {address : IPAddress}
    {s s' : State} {m m' : Machine} (haddress : folly.parse vip.address = some address)
    (hstr : folly.parse (folly.str address) = some address)
    (h : logVipLruMissStatsMaps folly config fd vip s m = (some true, s', m'))
    (calls : List MissCall) :
    (∀ pre, pre <+: calls → Observed config vip address pre (afterMisses pre m')) ↔
      ∀ call ∈ calls, call.vip.proto = vip.proto ∧
        ¬ (call.IsFor vip address ∧ call.realIndex.toNat < config.maxReals) :=
  observed_iff (logVipLruMissStatsMaps_chosen haddress hstr h)

/-! ## Two misses -/

def chosenVip : VipKey := ⟨"10.0.0.1", 80, 6⟩

def chosenMachine : Machine :=
  (logVipLruMissStatsMaps .sample .sample 7 chosenVip (.sample []) .sample).2.2

/-- A miss of the chosen service, on the real 2, and then one of the service 10.0.0.9:53/UDP. -/
def twoMisses : List MissCall :=
  [⟨⟨(parseAddrToBe (.v4 0x0a000001)).addr, bigEndian 80, 6⟩, false, 2⟩,
    ⟨⟨(parseAddrToBe (.v4 0x0a000009)).addr, bigEndian 53, 17⟩, false, 1⟩]

/-- The first miss is not counted, and after the second one the chosen service is
10.0.0.1:80/UDP. -/
theorem twoMisses_not_observed :
    (logVipLruMissStatsMaps .sample .sample 7 chosenVip (.sample []) .sample).1 = some true ∧
      chosenMachine.vipMissStats = some ⟨(parseAddrToBe (.v4 0x0a000001)).addr, bigEndian 80, 6⟩ ∧
      (afterMisses twoMisses chosenMachine).vipMissStats =
        some ⟨(parseAddrToBe (.v4 0x0a000001)).addr, bigEndian 80, 17⟩ ∧
      (afterMisses twoMisses chosenMachine).lruMissStats 2 = some 0 ∧
      ¬ Observed .sample chosenVip (.v4 0x0a000001) twoMisses
        (afterMisses twoMisses chosenMachine) := by
  have hvip : (afterMisses twoMisses chosenMachine).vipMissStats =
      some ⟨(parseAddrToBe (.v4 0x0a000001)).addr, bigEndian 80, 17⟩ := by decide +kernel
  refine ⟨by decide +kernel, by decide +kernel, hvip, by decide +kernel, fun h ↦ ?_⟩
  have hkept := h.kept
  rw [hvip] at hkept
  exact absurd hkept (by decide)

theorem twoMisses_observed_iff :
    (∀ pre, pre <+: twoMisses →
        Observed .sample chosenVip (.v4 0x0a000001) pre (afterMisses pre chosenMachine)) ↔
      ∀ call ∈ twoMisses, call.vip.proto = chosenVip.proto ∧
        ¬ (call.IsFor chosenVip (.v4 0x0a000001) ∧
          call.realIndex.toNat < Config.sample.maxReals) :=
  logVipLruMissStats_observed_iff (by decide) (by decide)
    (Prod.ext (by decide +kernel) rfl :
      logVipLruMissStatsMaps .sample .sample 7 chosenVip (.sample []) .sample =
        (some true, _, chosenMachine)) twoMisses

end Vsoshlb
