import Mathlib.Data.Finset.Basic
import Mathlib.Data.Nat.Pairing
import Mathlib.Logic.Function.Basic
import Vsoshlb.HashRing.Vip
import Vsoshlb.ControlPlane.Address

/-!
# The state of the balancer

`VsoshlbLb` keeps its own tables and writes what the forwarding plane needs into BPF maps. The
outcome of every map call is an input: the adapter carries a script of outcomes, and calls beyond
its end succeed. A successful call changes its map; a failed one changes nothing but the counter of
failed calls.
-/

namespace Vsoshlb

open HashTable (Walk)

/-- The entries of `VsoshlbConfig` that the modelled calls read. -/
structure Config where
  enableHc : Bool
  testing : Bool
  enableCidV3 : Bool
  maxVips : ℕ
  maxReals : ℕ
  chRingSize : ℕ
  maxLpmSrcSize : ℕ
  maxDecapDst : ℕ
  hashFunction : HashFunction

structure Features where
  srcRouting : Bool
  inlineDecap : Bool
  directHealthchecking : Bool
deriving DecidableEq, Repr

/-- An entry of `reals_`. -/
structure RealMeta where
  num : ℕ
  refCount : ℕ
  flags : BitVec 8
deriving DecidableEq, Repr

structure LbStats where
  bpfFailedCalls : ℕ
  addrValidationFailed : ℕ
deriving DecidableEq, Repr

/-- The user-space tables of `VsoshlbLb`. Of `ctlValues_` the calls use the mac address. -/
structure Tables where
  vipNums : List ℕ
  realNums : List ℕ
  hcKeyNums : List ℕ
  ctlMac : List (BitVec 8)
  hcReals : Finmap fun _ : ℕ ↦ IPAddress
  quicMapping : Finmap fun _ : ℕ ↦ IPAddress
  numToReals : Finmap fun _ : ℕ ↦ IPAddress
  reals : Finmap fun _ : IPAddress ↦ RealMeta
  vips : Finmap fun _ : VipKey ↦ Vip
  lruMissStatsVip : Option VipKey
  hckeys : Finmap fun _ : VipKey ↦ ℕ
  lpmSrcMapping : Finmap fun _ : CIDRNetwork ↦ ℕ
  decapDsts : Finset IPAddress

/-- The BPF maps. Arrays start with zeros; `serverIdMap` is an array or, with `enableCidV3`, a hash
table, whose missing entries read as zero as well. -/
structure BpfMaps where
  ctlArray : ℕ → List (BitVec 8)
  hcPcktMacs : ℕ → List (BitVec 8)
  vipMap : VipDefinition → Option VipMeta
  chRings : ℕ → ℕ
  reals : ℕ → BeAddr
  serverIdMap : ℕ → ℕ
  lpmSrc : LpmKey → Option ℕ
  decapDst : BeAddr → Option ℕ
  hcKeyMap : VipDefinition → Option ℕ
  hcRealsMap : ℕ → Option BeAddr
  vipMissStats : Option VipDefinition

structure State where
  tables : Tables
  features : Features
  lbStats : LbStats
  maps : BpfMaps
  outcomes : List Bool

/-- What one call leaves to the implementation: the order of its iterations, and the contents of
the array of keys that `programHashRing` does not set. -/
structure Unspecified where
  vipReals : Walk ℕ VipReal
  srcRules : Walk CIDRNetwork ℕ
  quicUpdates : Walk ℕ ℕ
  ringKeys : ℕ → ℕ

theorem cidrCode_injective :
    Function.Injective fun network : CIDRNetwork ↦ Nat.pair network.1.code network.2 := by
  rintro a b h
  obtain ⟨hcode, hlength⟩ := Nat.pair_eq_pair.mp h
  exact Prod.ext (IPAddress.code_injective hcode) hlength

/-- Iterations in the order of the keys, and the given array of keys. -/
def Unspecified.sorted (ringKeys : ℕ → ℕ) : Unspecified where
  vipReals := Walk.sorted
  srcRules := Walk.sortedBy _ cidrCode_injective
  quicUpdates := Walk.sorted
  ringKeys := ringKeys

def BpfMaps.empty : BpfMaps where
  ctlArray _ := []
  hcPcktMacs _ := []
  vipMap _ := none
  chRings _ := 0
  reals _ := ⟨0, 0⟩
  serverIdMap _ := 0
  lpmSrc _ := none
  decapDst _ := none
  hcKeyMap _ := none
  hcRealsMap _ := none
  vipMissStats := none

namespace State

/-- The tables a new balancer starts with, over maps that may have any contents. -/
def new (config : Config) (mac : List (BitVec 8)) (features : Features) (maps : BpfMaps)
    (outcomes : List Bool) : State where
  tables :=
    { vipNums := List.range config.maxVips
      realNums := List.range' 1 (config.maxReals - 1)
      hcKeyNums := if config.enableHc then List.range config.maxVips else []
      ctlMac := mac
      hcReals := ∅
      quicMapping := ∅
      numToReals := ∅
      reals := ∅
      vips := ∅
      lruMissStatsVip := none
      hckeys := ∅
      lpmSrcMapping := ∅
      decapDsts := ∅ }
  features := features
  lbStats := ⟨0, 0⟩
  maps := maps
  outcomes := outcomes

/-- One call of the adapter. A failure is counted in `bpfFailedCalls`. -/
def bpfCall (write : BpfMaps → BpfMaps) (s : State) : Bool × State :=
  match s.outcomes with
  | [] => (true, { s with maps := write s.maps })
  | true :: outcomes => (true, { s with maps := write s.maps, outcomes := outcomes })
  | false :: outcomes =>
    (false, { s with
      lbStats.bpfFailedCalls := s.lbStats.bpfFailedCalls + 1
      outcomes := outcomes })

/-- The outcome of the next call of the adapter. -/
def nextOutcome (s : State) : Bool := s.outcomes.headD true

section BpfCall

variable (write : BpfMaps → BpfMaps) (s : State)

@[simp]
theorem bpfCall_fst : (bpfCall write s).1 = s.nextOutcome := by
  unfold bpfCall nextOutcome
  split <;> simp_all

@[simp]
theorem bpfCall_tables : (bpfCall write s).2.tables = s.tables := by
  unfold bpfCall
  split <;> rfl

@[simp]
theorem bpfCall_features : (bpfCall write s).2.features = s.features := by
  unfold bpfCall
  split <;> rfl

@[simp]
theorem bpfCall_maps :
    (bpfCall write s).2.maps = if s.nextOutcome then write s.maps else s.maps := by
  unfold bpfCall nextOutcome
  split <;> simp_all

@[simp]
theorem bpfCall_outcomes : (bpfCall write s).2.outcomes = s.outcomes.tail := by
  unfold bpfCall
  split <;> simp_all

/-- A call that no outcome stops. -/
theorem bpfCall_of_nil (h : s.outcomes = []) :
    bpfCall write s = (true, { s with maps := write s.maps }) := by
  simp [bpfCall, h]

end BpfCall

end State

/-! ## Address validation -/

inductive AddressType where
  | invalid
  | host
  | network
deriving DecidableEq, Repr

/-- `validateAddress`. A failure is counted in `addrValidationFailed`. -/
def validateAddress (folly : Folly) (config : Config) (addr : String) (allowNetAddr : Bool)
    (s : State) : AddressType × State :=
  if (folly.parse addr).isSome then
    (.host, s)
  else if allowNetAddr ∧ (s.features.srcRouting ∨ config.testing) ∧
      (folly.createNetwork addr).isSome then
    (.network, s)
  else
    (.invalid, { s with
      lbStats.addrValidationFailed := s.lbStats.addrValidationFailed + 1 })

/-- The same, for the calls that go on with the parsed address of a host. -/
def validateHost (folly : Folly) (config : Config) (addr : String) (s : State) :
    Option IPAddress × State :=
  match validateAddress folly config addr false s with
  | (.invalid, s) => (none, s)
  | (_, s) => (folly.parse addr, s)

section Validation

variable {folly : Folly} {config : Config} {addr : String}

@[simp]
theorem validateAddress_tables (allowNetAddr : Bool) (s : State) :
    (validateAddress folly config addr allowNetAddr s).2.tables = s.tables := by
  unfold validateAddress
  split_ifs <;> rfl

theorem validateHost_of_some {address : IPAddress} (h : folly.parse addr = some address)
    (s : State) : validateHost folly config addr s = (some address, s) := by
  simp [validateHost, validateAddress, h]

/-- The state after a failed validation: only the statistics change. -/
def State.rejected (s : State) : State :=
  { s with lbStats.addrValidationFailed := s.lbStats.addrValidationFailed + 1 }

theorem validateHost_of_none (h : folly.parse addr = none) (s : State) :
    validateHost folly config addr s = (none, s.rejected) := by
  simp [validateHost, validateAddress, h, State.rejected]

@[simp]
theorem State.rejected_tables (s : State) : s.rejected.tables = s.tables := rfl

@[simp]
theorem State.rejected_maps (s : State) : s.rejected.maps = s.maps := rfl

@[simp]
theorem State.rejected_outcomes (s : State) : s.rejected.outcomes = s.outcomes := rfl

end Validation

end Vsoshlb
