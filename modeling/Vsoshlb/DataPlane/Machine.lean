import Mathlib.Logic.Function.Basic
import Vsoshlb.Library.EarlyExit
import Vsoshlb.DataPlane.Packet

/-!
# The state of the forwarding program

The maps that the control plane fills are read only while a packet is processed. The program writes
its counters and the LRU maps, and keeps the description of the packet and the pointer to its real.
The state also lists what the program asked of the ring and of the LRU maps.
-/

namespace Vsoshlb.DataPlane

open EarlyExit

/-- The macros of a build that the modelled code depends on. -/
structure Build where
  inlineDecapIpip : Bool
  inlineDecapGue : Bool
  decapStrictDestination : Bool
  icmpToobigGeneration : Bool
  lpmSrcLookup : Bool
  udpStableRouting : Bool
  tcpServerIdRouting : Bool
  globalLruLookup : Bool
  localDeliveryOptimization : Bool
  maxVips : BitVec 32
  maxConnRate : BitVec 64
  lruUdpTimeout : BitVec 64
  maxPcktSize : ℕ
  gueDport : BitVec 16
  ringSize : BitVec 32
  initJhashSeed : BitVec 32
  initJhashSeedV6 : BitVec 32

/-- No optional code, and the default values. -/
def Build.plain : Build where
  inlineDecapIpip := false
  inlineDecapGue := false
  decapStrictDestination := false
  icmpToobigGeneration := false
  lpmSrcLookup := false
  udpStableRouting := false
  tcpServerIdRouting := false
  globalLruLookup := false
  localDeliveryOptimization := false
  maxVips := 512
  maxConnRate := 125000
  lruUdpTimeout := 30000000000
  maxPcktSize := 1514
  gueDport := 6080
  ringSize := 65537
  initJhashSeed := 512 * 65537
  initJhashSeedV6 := 512

def ONE_SEC : BitVec 64 := 1000000000

/-! ## Flags -/

def F_IPV6 : BitVec 8 := 1

def F_LOCAL_REAL : BitVec 8 := 2

def F_HASH_NO_SRC_PORT : BitVec 32 := 1

def F_LRU_BYPASS : BitVec 32 := 2

def F_QUIC_VIP : BitVec 32 := 4

def F_HASH_DPORT_ONLY : BitVec 32 := 8

def F_SRC_ROUTING : BitVec 32 := 16

def F_LOCAL_VIP : BitVec 32 := 32

def F_GLOBAL_LRU : BitVec 32 := 64

def F_HASH_SRC_DST_PORT : BitVec 32 := 128

def F_UDP_STABLE_ROUTING_VIP : BitVec 32 := 256

/-! ## Counters -/

/-- The offsets of the counters in `stats`, after those of the VIPs. -/
def LRU_CNTRS : BitVec 32 := 0

def LRU_MISS_CNTR : BitVec 32 := 1

def NEW_CONN_RATE_CNTR : BitVec 32 := 2

def FALLBACK_LRU_CNTR : BitVec 32 := 3

def ICMP_TOOBIG_CNTRS : BitVec 32 := 4

def LPM_SRC_CNTRS : BitVec 32 := 5

def REMOTE_ENCAP_CNTRS : BitVec 32 := 6

def GLOBAL_LRU_CNTR : BitVec 32 := 8

def CH_DROP_STATS : BitVec 32 := 9

def QUIC_ICMP_STATS : BitVec 32 := 11

def ICMP_PTB_V6_STATS : BitVec 32 := 12

def ICMP_PTB_V4_STATS : BitVec 32 := 13

/-- `struct lb_stats`. -/
structure LbStats where
  v1 : BitVec 64
  v2 : BitVec 64
deriving DecidableEq, Repr

def LbStats.addV1 (count : BitVec 64) (stats : LbStats) : LbStats :=
  { stats with v1 := stats.v1 + count }

def LbStats.addV2 (count : BitVec 64) (stats : LbStats) : LbStats :=
  { stats with v2 := stats.v2 + count }

/-- `struct lb_quic_packets_stats`. -/
structure QuicPacketsStats where
  chRouted : BitVec 64
  cidInitial : BitVec 64
  cidInvalidServerId : BitVec 64
  cidInvalidServerIdSample : BitVec 64
  cidRouted : BitVec 64
  cidUnknownRealDropped : BitVec 64
  cidV0 : BitVec 64
  cidV1 : BitVec 64
  cidV2 : BitVec 64
  cidV3 : BitVec 64
  dstMatchInLru : BitVec 64
  dstMismatchInLru : BitVec 64
  dstNotFoundInLru : BitVec 64
deriving DecidableEq, Repr

/-- `struct lb_tpr_packets_stats`. -/
structure TprPacketsStats where
  chRouted : BitVec 64
  dstMismatchInLru : BitVec 64
  sidRouted : BitVec 64
  tcpSyn : BitVec 64
deriving DecidableEq, Repr

/-- `struct lb_stable_rt_packets_stats`. -/
structure StableRtPacketsStats where
  chRouted : BitVec 64
  cidRouted : BitVec 64
  cidInvalidServerId : BitVec 64
  cidUnknownRealDropped : BitVec 64
  invalidPacketType : BitVec 64
deriving DecidableEq, Repr

/-! ## Maps -/

/-- `struct real_definition`, which the control plane writes as a `beaddr`. -/
abbrev RealDefinition := BeAddr

/-- `struct real_pos_lru`. -/
structure RealPosLru where
  pos : BitVec 32
  atime : BitVec 64
deriving DecidableEq, Repr

/-- The LRU maps: those of the cores and the two that stand in for a missing one. -/
inductive LruMap where
  | core (fd : ℕ)
  | fallbackCache
  | fallbackGlru
deriving DecidableEq, Repr

/-- The maps that the program only reads. An array has entries up to its size. `lpmSrcV4` and
`lpmSrcV6` give the value of the longest prefix of an address. -/
structure KernelMaps where
  vipMap : VipDefinition → Option VipMeta
  chRings : BitVec 32 → Option (BitVec 32)
  reals : BitVec 32 → Option RealDefinition
  serverIdMap : BitVec 32 → Option (BitVec 32)
  lruMapping : BitVec 32 → Option ℕ
  globalLruMaps : BitVec 32 → Option ℕ
  lpmSrcV4 : BitVec 32 → Option (BitVec 32)
  lpmSrcV6 : BitVec 128 → Option (BitVec 32)
  ctlArray : BitVec 32 → Option (BitVec 64)
  decapDst : BitVec 128 → Option (BitVec 32)
  pcktSrcs : BitVec 32 → Option RealDefinition

/-- What the program asks of the ring and of the LRU maps. -/
inductive Access where
  | ringLookup (key : BitVec 32)
  | lruLookup (lruMap : LruMap) (flow : FlowKey)
  | lruUpdate (lruMap : LruMap) (flow : FlowKey) (entry : RealPosLru)
deriving DecidableEq, Repr

/-- `hash` is the local of `get_packet_dst` with that name, once it has been set. -/
structure Machine where
  pckt : PacketDescription
  dst : Option RealDefinition
  hash : Option (BitVec 32)
  lru : LruMap → FlowKey → Option RealPosLru
  stats : BitVec 32 → Option LbStats
  realsStats : BitVec 32 → Option LbStats
  lruMissStats : BitVec 32 → Option (BitVec 32)
  vipMissStats : Option VipDefinition
  quicStats : Option QuicPacketsStats
  tprStats : Option TprPacketsStats
  stableRtStats : Option StableRtPacketsStats
  accesses : List Access

/-- What the program finds: the frame, what the helpers of the kernel answer, and what the variables
hold that the code reads without setting them. `protocol`, `flowProto`, `thOff` and `pktBytes` are
the outputs that `parse_l3_headers` leaves alone, `key` and `curTime` locals of `get_packet_dst` and
of `check_and_update_real_index_in_lru`. -/
structure Env where
  frame : Frame
  nhOff : ℕ
  isIpv6 : Bool
  cpuNum : BitVec 32
  now : BitVec 64
  adjustTail : Bool
  adjustHead : Bool
  encap : Bool
  decap : XdpAction
  protocol : BitVec 8
  flowProto : BitVec 8
  thOff : ℕ
  pktBytes : BitVec 16
  key : BitVec 32
  curTime : BitVec 64

namespace Machine

variable (m : Machine)

/-- `f` on the counters at `key`, where there are any. -/
def bump (key : BitVec 32) (f : LbStats → LbStats) : Machine :=
  { m with stats := Function.update m.stats key ((m.stats key).map f) }

def record (access : Access) : Machine :=
  { m with accesses := m.accesses ++ [access] }

/-- `bpf_map_update_elem` on an LRU map. -/
def updateLru (lruMap : LruMap) (flow : FlowKey) (entry : RealPosLru) : Machine :=
  { m with
    lru := Function.update m.lru lruMap (Function.update (m.lru lruMap) flow (some entry))
    accesses := m.accesses ++ [.lruUpdate lruMap flow entry] }

/-- The write through the pointer that a lookup in an LRU map returned. -/
def setLru (lruMap : LruMap) (flow : FlowKey) (entry : RealPosLru) : Machine :=
  { m with
    lru := Function.update m.lru lruMap (Function.update (m.lru lruMap) flow (some entry)) }

variable {m}

@[simp]
theorem bump_id (key : BitVec 32) : m.bump key id = m := by
  simp [bump]

@[simp]
theorem bump_pckt (key : BitVec 32) (f : LbStats → LbStats) : (m.bump key f).pckt = m.pckt := rfl

@[simp]
theorem bump_dst (key : BitVec 32) (f : LbStats → LbStats) : (m.bump key f).dst = m.dst := rfl

@[simp]
theorem bump_hash (key : BitVec 32) (f : LbStats → LbStats) : (m.bump key f).hash = m.hash := rfl

@[simp]
theorem bump_lru (key : BitVec 32) (f : LbStats → LbStats) : (m.bump key f).lru = m.lru := rfl

@[simp]
theorem bump_accesses (key : BitVec 32) (f : LbStats → LbStats) :
    (m.bump key f).accesses = m.accesses := rfl

@[simp]
theorem record_pckt (access : Access) : (m.record access).pckt = m.pckt := rfl

@[simp]
theorem record_dst (access : Access) : (m.record access).dst = m.dst := rfl

@[simp]
theorem record_hash (access : Access) : (m.record access).hash = m.hash := rfl

@[simp]
theorem record_lru (access : Access) : (m.record access).lru = m.lru := rfl

@[simp]
theorem record_accesses (access : Access) :
    (m.record access).accesses = m.accesses ++ [access] := rfl

end Machine

/-- Programs that run on one packet. -/
abbrev XdpProg := Prog Machine XdpAction

/-- `data_stats = bpf_map_lookup_elem(&stats, &key)`, a drop where there is none, and then the
update of the counters. -/
def countOrDrop (key : BitVec 32) (f : LbStats → LbStats) : XdpProg Unit := do
  Prog.exitIf (← Prog.read fun m ↦ (m.stats key).isNone) .drop
  Prog.modify fun m ↦ m.bump key f

theorem countOrDrop_triple {P : Machine → Prop} {E : XdpAction → Machine → Prop} {key : BitVec 32}
    {f : LbStats → LbStats} (hbump : ∀ m, P m → P (m.bump key f)) (hdrop : ∀ m, P m → E .drop m) :
    Triple P (countOrDrop key f) (fun _ ↦ P) E :=
  .read_bind fun _ _ ↦ .exitIf_bind (fun _ ↦ hdrop) fun _ ↦ .modify hbump

end Vsoshlb.DataPlane
