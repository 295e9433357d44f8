import Mathlib.Data.BitVec

/-!
# Addresses

The control plane names services and servers by the text of an address and the kernel by its
bytes. `IpHelpers.cpp` and `vipKeyToVipDefinition` go from the one to the other. What the text of
an address means is a parameter: the parser is not part of the balancer.

The bytes of an IPv4 address and of an IPv6 address share a union, so an IPv4 address fills the
first four of sixteen bytes.
-/

namespace Vsoshlb

/-- `folly::IPAddress`. A default-constructed address has no family. -/
inductive IPAddress where
  | unspec
  | v4 (addr : BitVec 32)
  | v6 (addr : BitVec 128)
deriving DecidableEq, Repr

/-- `folly::CIDRNetwork`: an address and the length of its network part. -/
abbrev CIDRNetwork := IPAddress × ℕ

/-- What the balancer uses of the address library. `parse` is the constructor from text, with
`none` where it throws, and agrees with `IPAddress::validate`. -/
structure Folly where
  parse : String → Option IPAddress
  parse_specified : ∀ text, parse text ≠ some .unspec
  createNetwork : String → Option CIDRNetwork
  str : IPAddress → String
  hash : IPAddress → ℕ

/-- A number for every address. -/
def IPAddress.code : IPAddress → ℕ
  | .unspec => 0
  | .v4 addr => 2 * addr.toNat + 1
  | .v6 addr => 2 * addr.toNat + 2

theorem IPAddress.code_injective : Function.Injective IPAddress.code := by
  intro a b h
  cases a <;> cases b <;> simp only [code] at h
  · rfl
  · omega
  · omega
  · omega
  · exact congrArg IPAddress.v4 (BitVec.eq_of_toNat_eq (by omega))
  · omega
  · omega
  · omega
  · exact congrArg IPAddress.v6 (BitVec.eq_of_toNat_eq (by omega))

/-- A parser that knows the listed texts only. -/
def Folly.ofTexts (texts : List (String × IPAddress)) : Folly where
  parse text := (texts.lookup text).filter fun address ↦ address ≠ .unspec
  parse_specified text := by simp
  createNetwork _ := none
  str address := ((texts.find? fun entry ↦ entry.2 = address).map Prod.fst).getD ""
  hash := IPAddress.code

/-- `struct beaddr`. -/
structure BeAddr where
  addr : BitVec 128
  flags : BitVec 8
deriving DecidableEq, Repr

def V6DADDR : BitVec 8 := 1

/-- The bytes of a 32-bit word in the opposite order. -/
def reverseBytes (word : BitVec 32) : BitVec 32 :=
  word.extractLsb' 0 8 ++ word.extractLsb' 8 8 ++ word.extractLsb' 16 8 ++ word.extractLsb' 24 8

/-- `IpHelpers::parseAddrToBe`. The balancer never passes an address without a family. -/
def parseAddrToBe : IPAddress → BeAddr
  | .unspec => ⟨0, V6DADDR⟩
  | .v4 addr => ⟨addr ++ (0 : BitVec 96), 0⟩
  | .v6 addr => ⟨addr, V6DADDR⟩

/-- `IpHelpers::parseAddrToInt`: every 32-bit part in host order. -/
def parseAddrToInt : IPAddress → BeAddr
  | .unspec => ⟨0, V6DADDR⟩
  | .v4 addr => ⟨reverseBytes addr ++ (0 : BitVec 96), 0⟩
  | .v6 addr =>
    ⟨reverseBytes (addr.extractLsb' 96 32) ++ reverseBytes (addr.extractLsb' 64 32) ++
      reverseBytes (addr.extractLsb' 32 32) ++ reverseBytes (addr.extractLsb' 0 32), V6DADDR⟩

structure VipKey where
  address : String
  port : BitVec 16
  proto : BitVec 8
deriving DecidableEq, Repr

/-- `struct vip_definition`; `addr` is the union of `vip` and `vipv6`. -/
structure VipDefinition where
  addr : BitVec 128
  port : BitVec 16
  proto : BitVec 8
deriving DecidableEq, Repr

/-- `folly::Endian::big`. -/
def bigEndian (port : BitVec 16) : BitVec 16 :=
  port.extractLsb' 0 8 ++ port.extractLsb' 8 8

structure VipMeta where
  flags : BitVec 32
  vipNum : ℕ
deriving DecidableEq, Repr

/-- The key of a source routing rule in one of the two kernel tries. -/
inductive LpmKey where
  | v4 (prefixlen : ℕ) (addr : BitVec 32)
  | v6 (prefixlen : ℕ) (addr : BitVec 128)
deriving DecidableEq, Repr

/-- The map and key that `modifyLpmMap` chooses for a network. -/
def lpmKey : CIDRNetwork → LpmKey
  | (.v4 addr, prefixlen) => .v4 prefixlen addr
  | (.v6 addr, prefixlen) => .v6 prefixlen addr
  | (.unspec, prefixlen) => .v6 prefixlen 0

/-- `vipKeyToVipDefinition`, with `none` where parsing the address throws. -/
def vipKeyToVipDefinition (folly : Folly) (vipKey : VipKey) : Option VipDefinition :=
  (folly.parse vipKey.address).map fun address ↦
    ⟨(parseAddrToBe address).addr, bigEndian vipKey.port, vipKey.proto⟩

theorem bigEndian_getLsbD (port : BitVec 16) (i : ℕ) :
    (bigEndian port).getLsbD i =
      if i < 8 then port.getLsbD (8 + i) else decide (i - 8 < 8) && port.getLsbD (i - 8) := by
  apply (BitVec.getLsbD_append (x := port.extractLsb' 0 8) (y := port.extractLsb' 8 8)).trans
  by_cases hlow : i < 8 <;> simp [BitVec.getLsbD_extractLsb', hlow]

theorem bigEndian_injective : Function.Injective bigEndian := by
  intro a b h
  apply BitVec.eq_of_getLsbD_eq
  intro i hi
  by_cases hlow : i < 8
  · have hbit := congrArg (fun w : BitVec 16 ↦ w.getLsbD (8 + i)) h
    have hhigh : ¬ 8 + i < 8 := by omega
    simpa [bigEndian_getLsbD, hlow, hhigh] using hbit
  · have hbit := congrArg (fun w : BitVec 16 ↦ w.getLsbD (i - 8)) h
    have hlt : i - 8 < 8 := by omega
    have hback : 8 + (i - 8) = i := by omega
    simpa [bigEndian_getLsbD, hlt, hback] using hbit

theorem vipKeyToVipDefinition_isSome {folly : Folly} {vipKey : VipKey} :
    (vipKeyToVipDefinition folly vipKey).isSome ↔ (folly.parse vipKey.address).isSome := by
  simp [vipKeyToVipDefinition]

end Vsoshlb
