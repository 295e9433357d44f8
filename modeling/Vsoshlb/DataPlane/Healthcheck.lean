import Vsoshlb.DataPlane.Tunnels

/-!
# The health checking program

`healthcheck_encap` runs on the packets that leave the host. A health check marks its own, and the
program wraps each of them in headers to the real that `hc_reals_map` has for the mark, so that the
check takes the way of the traffic that it is about. Everything else passes.

The program clears the mark of a packet that it encapsulates. It counts every packet that it sees,
and looks for the counter of a health check key without changing it.
-/

namespace Vsoshlb.DataPlane

open EarlyExit

/-- What the program returns; a redirection is to the output of an interface. -/
inductive TcAction where
  | unspec
  | shot
  | redirect (ifindex : BitVec 32)
deriving DecidableEq, Repr

/-- The macros of a build. -/
structure HcBuild where
  hcMaxPacketSize : ℕ
  mangleHcSrc : Bool
  gueEncap : Bool

/-- `struct hc_stats`. -/
structure HcStats where
  pcktsProcessed : BitVec 64
  pcktsDropped : BitVec 64
  pcktsSkipped : BitVec 64
  pcktsTooBig : BitVec 64
deriving DecidableEq, Repr

/-- `struct hc_mac`. -/
abbrev HcMac := Vector (BitVec 8) 6

/-- The maps that the program only reads. -/
structure HcMaps where
  hcCtrlMap : BitVec 32 → Option (BitVec 32)
  hcRealsMap : BitVec 32 → Option BeAddr
  hcPcktSrcsMap : BitVec 32 → Option BeAddr
  hcPcktMacs : BitVec 32 → Option HcMac
  hcKeyMap : VipDefinition → Option (BitVec 32)

/-- `struct __sk_buff`. The program reaches the first `headlen` bytes, the distance from `data` to
`data_end`; `len` is the length of the frame. -/
structure SkBuff where
  mark : BitVec 32
  frame : Frame
  headlen : ℕ
  headlen_le : headlen ≤ frame.length
deriving DecidableEq, Repr

structure HcMachine where
  skb : SkBuff
  hcStatsMap : Option HcStats
  perHckeyStats : BitVec 32 → Option (BitVec 64)

/-- What the helpers of the kernel answer. -/
structure HcEnv where
  adjustRoom : Bool
  prandomU32 : BitVec 32

abbrev HcProg := Prog HcMachine TcAction

def HC_MAIN_INTF_POSITION : BitVec 32 := 3

def HC_SRC_MAC_POS : BitVec 32 := 0

def HC_DST_MAC_POS : BitVec 32 := 1

def MANGLED_HC_SRC_PORT : BitVec 16 := 31337

def DEFAULT_TOS : BitVec 8 := 0

def GUE_CSUM : BitVec 16 := 0

/-! ## Encapsulation -/

/-- The frame after `bpf_skb_adjust_room` and the writing of the headers in the room that it made:
they come after the Ethernet header. -/
def SkBuff.insertHeaders (skb : SkBuff) (headers : Frame) : SkBuff where
  mark := skb.mark
  frame := skb.frame.take ethhdrSize ++ headers ++ skb.frame.drop ethhdrSize
  headlen := skb.headlen + headers.length
  headlen_le := by
    have hle := skb.headlen_le
    simp only [List.length_append, List.length_take, List.length_drop]
    omega

theorem SkBuff.headlen_le_setEtherType (skb : SkBuff) (hProto : BitVec 16) :
    skb.headlen ≤
      (skb.frame.take 12 ++ bytes16 hProto ++ skb.frame.drop ethhdrSize).length := by
  have hle := skb.headlen_le
  have htype : (bytes16 hProto).length = 2 := rfl
  simp only [List.length_append, List.length_take, List.length_drop, htype, ethhdrSize]
  omega

/-- `ethh->h_proto = ...`. -/
def SkBuff.setEtherType (skb : SkBuff) (hProto : BitVec 16) : SkBuff where
  mark := skb.mark
  frame := skb.frame.take 12 ++ bytes16 hProto ++ skb.frame.drop ethhdrSize
  headlen := skb.headlen
  headlen_le := skb.headlen_le_setEtherType hProto

/-- `skb->mark = 0`. -/
def SkBuff.clearMark (skb : SkBuff) : SkBuff := { skb with mark := 0 }

/-- The two copies of addresses to the Ethernet header. -/
def SkBuff.setMacs (skb : SkBuff) (esrc edst : HcMac) : SkBuff where
  mark := skb.mark
  frame := edst.toList ++ esrc.toList ++ skb.frame.drop 12
  headlen := skb.headlen
  headlen_le := by
    have hle := skb.headlen_le
    simp only [List.length_append, List.length_drop, Vector.length_toList]
    omega

/-- `skb->len - sizeof(struct ethhdr)`, in 16 bits. -/
def SkBuff.pktLen (skb : SkBuff) : BitVec 16 := BitVec.ofNat 16 skb.frame.length - 14

section Encapsulation

variable (build : HcBuild) (maps : HcMaps) (env : HcEnv) (real : BeAddr) (isIpv6 : Bool)
variable (skb : SkBuff)

/-- `hc_encap_ipip`, with `none` for `false`. -/
def hcEncapIpip : Option SkBuff :=
  if real.flags = V6DADDR then
    match maps.hcPcktSrcsMap V6_SRC_INDEX with
    | none => none
    | some src =>
      if env.adjustRoom = false then
        none
      else if skb.headlen + ipv6hdrSize < ethhdrSize + ipv6hdrSize then
        none
      else
        let proto := if isIpv6 = false then IPPROTO_IPIP else IPPROTO_IPV6
        let saddr :=
          if build.mangleHcSrc then
            createEncapIpv6Src MANGLED_HC_SRC_PORT (reverseBytes (src.addr.extractLsb' 0 32))
          else
            bytes128 src.addr
        let ip6h := createV6Hdr DEFAULT_TOS saddr (bytes128 real.addr) skb.pktLen proto
        some ((skb.setEtherType BE_ETH_P_IPV6).insertHeaders ip6h.bytes)
  else
    match maps.hcPcktSrcsMap V4_SRC_INDEX with
    | none => none
    | some src =>
      if env.adjustRoom = false then
        none
      else if skb.headlen + iphdrSize < ethhdrSize + iphdrSize then
        none
      else
        let daddr := reverseBytes (ipv4Part src.addr)
        let ipSrc :=
          if build.mangleHcSrc then createEncapIpv4Src MANGLED_HC_SRC_PORT daddr else daddr
        let iph := createV4Hdr DEFAULT_TOS ipSrc (reverseBytes (ipv4Part real.addr)) skb.pktLen
          IPPROTO_IPIP
        some (skb.insertHeaders iph.bytes)

/-- `gue_sport`: no well-known port. -/
def gueSport : BitVec 16 := env.prandomU32.setWidth 16 ||| 0x400

/-- `hc_encap_gue`, with `none` for `false`. -/
def hcEncapGue : Option SkBuff :=
  let sport := gueSport env
  let pktLen := skb.pktLen + 8
  let udph := createUdpHdr sport GUE_DPORT pktLen GUE_CSUM
  if real.flags = V6DADDR then
    match maps.hcPcktSrcsMap V6_SRC_INDEX with
    | none => none
    | some src =>
      if env.adjustRoom = false then
        none
      else if skb.headlen + (ipv6hdrSize + udphdrSize) < ethhdrSize + ipv6hdrSize + udphdrSize then
        none
      else
        let ip6h := createV6Hdr DEFAULT_TOS (bytes128 src.addr) (bytes128 real.addr) pktLen
          IPPROTO_UDP
        some ((skb.setEtherType BE_ETH_P_IPV6).insertHeaders (ip6h.bytes ++ udph.bytes))
  else
    match maps.hcPcktSrcsMap V4_SRC_INDEX with
    | none => none
    | some src =>
      if env.adjustRoom = false then
        none
      else if skb.headlen + (iphdrSize + udphdrSize) < ethhdrSize + iphdrSize + udphdrSize then
        none
      else
        let iph := createV4Hdr DEFAULT_TOS (reverseBytes (ipv4Part src.addr))
          (reverseBytes (ipv4Part real.addr)) pktLen IPPROTO_UDP
        some (skb.insertHeaders (iph.bytes ++ udph.bytes))

/-- `HC_ENCAP`. -/
def hcEncap : Option SkBuff :=
  if build.gueEncap then
    hcEncapGue maps env real skb
  else
    hcEncapIpip build maps env real isIpv6 skb

end Encapsulation

/-! ## The health check key of a packet -/

/-- `set_hc_key`, with `none` for `false`. A key is laid out like the definition of a VIP. -/
def setHcKey (skb : SkBuff) (isIpv6 : Bool) : Option VipDefinition :=
  let frame := skb.frame
  let transportHdr := ethhdrSize + Frame.ipHeaderSize isIpv6
  if skb.headlen < transportHdr then
    none
  else
    let addr :=
      if isIpv6 then frame.be128 (ethhdrSize + 24)
      else setIpv4Part 0 (frame.be32 (ethhdrSize + 16))
    let proto := frame.ipProtocol isIpv6
    if proto = IPPROTO_TCP then
      if skb.headlen < transportHdr + tcphdrSize then none
      else some ⟨addr, frame.u16 (transportHdr + 2), proto⟩
    else if proto = IPPROTO_UDP then
      if skb.headlen < transportHdr + udphdrSize then none
      else some ⟨addr, frame.u16 (transportHdr + 2), proto⟩
    else
      none

/-! ## The program -/

def countHc (f : HcStats → HcStats) : HcProg Unit :=
  Prog.modify fun m ↦ { m with hcStatsMap := m.hcStatsMap.map f }

def HcStats.processed (stats : HcStats) : HcStats :=
  { stats with pcktsProcessed := stats.pcktsProcessed + 1 }

def HcStats.dropped (stats : HcStats) : HcStats :=
  { stats with pcktsDropped := stats.pcktsDropped + 1 }

def HcStats.skipped (stats : HcStats) : HcStats :=
  { stats with pcktsSkipped := stats.pcktsSkipped + 1 }

def HcStats.tooBig (stats : HcStats) : HcStats :=
  { stats with pcktsTooBig := stats.pcktsTooBig + 1 }

def hcSkip : HcProg TcAction := do
  countHc HcStats.skipped
  Prog.exit .unspec

def hcDropIf (c : Prop) [Decidable c] : HcProg Unit :=
  Prog.when c do
    countHc HcStats.dropped
    Prog.exit .shot

/-- A value that the program cannot do without. -/
def hcRequire {α : Type} (a : Option α) : HcProg α :=
  match a with
  | some a => pure a
  | none => do
    countHc HcStats.dropped
    Prog.exit .shot

variable (build : HcBuild) (maps : HcMaps) (env : HcEnv)

/-- The lookup of the counter for the key of the packet. -/
def lookUpHcKeyStats (hcKey : Option VipDefinition) : HcProg Unit :=
  match hcKey.bind maps.hcKeyMap with
  | none => pure ()
  | some index => do
    let _ ← Prog.read fun m ↦ m.perHckeyStats index
    pure ()

/-- The part of `healthcheck_encap` for a packet with a real. -/
def hcForward (skb : SkBuff) (real : BeAddr) : HcProg TcAction := do
  Prog.when (0 < build.hcMaxPacketSize ∧ build.hcMaxPacketSize < skb.frame.length) do
    countHc fun stats ↦ stats.dropped.tooBig
    Prog.exit .shot
  let ifindex ← hcRequire (maps.hcCtrlMap HC_MAIN_INTF_POSITION)
  let esrc ← hcRequire (maps.hcPcktMacs HC_SRC_MAC_POS)
  let edst ← hcRequire (maps.hcPcktMacs HC_DST_MAC_POS)
  hcDropIf (skb.headlen < ethhdrSize)
  let isIpv6 := decide (skb.frame.etherType = BE_ETH_P_IPV6)
  let hcKey := setHcKey skb isIpv6
  Prog.modify fun m ↦ { m with skb := skb.clearMark }
  let skb ← hcRequire (hcEncap build maps env real isIpv6 skb.clearMark)
  hcDropIf (skb.headlen < ethhdrSize)
  Prog.modify fun m ↦ { m with skb := skb.setMacs esrc edst }
  countHc HcStats.processed
  lookUpHcKeyStats maps hcKey
  return .redirect ifindex

/-- `healthcheck_encap`. -/
def healthcheckEncap : HcProg TcAction := do
  Prog.exitIf (← Prog.read fun m ↦ m.hcStatsMap.isNone) .unspec
  let skb ← Prog.read HcMachine.skb
  if skb.mark = 0 then
    hcSkip
  else
    match maps.hcRealsMap skb.mark with
    | none => hcSkip
    | some real => hcForward build maps env skb real

/-! ## A small host

One real, 10.0.1.2, for the mark 7, and a TCP segment to a VIP. -/

/-- No limit for the size of packets, and IPIP. -/
def HcBuild.plain : HcBuild := ⟨0, false, false⟩

def HcMaps.sample : HcMaps where
  hcCtrlMap i := if i = HC_MAIN_INTF_POSITION then some 2 else none
  hcRealsMap mark := if mark = 7 then some (RealDefinition.sample 2) else none
  hcPcktSrcsMap _ := some (RealDefinition.sample 0)
  hcPcktMacs _ := some (.replicate 6 0)
  hcKeyMap _ := none

def HcEnv.sample : HcEnv := ⟨true, 0⟩

/-- The segment, with a mark. -/
def SkBuff.ack (mark : BitVec 32) : SkBuff where
  mark := mark
  frame := Frame.ack
  headlen := Frame.ack.length
  headlen_le := le_refl _

def HcMachine.sample (mark : BitVec 32) : HcMachine where
  skb := .ack mark
  hcStatsMap := some ⟨0, 0, 0, 0⟩
  perHckeyStats _ := none

end Vsoshlb.DataPlane
