import Vsoshlb.DataPlane.CompleteHeaders
import Vsoshlb.DataPlane.Healthcheck

/-!
# The decapsulation at a real

`tcdecap` runs on the packets that come to the host of a real. It takes the GUE headers off those
that carry them, so that the packet inside goes up as if it had come to the host itself. Everything
else goes up as it is, unless its IP header is not one that the program accepts.

`bpf_skb_adjust_room` takes bytes from behind the Ethernet header and leaves that header alone, so
what the packet inside is shows in `skb->protocol` and not in the frame. The condition of the check
before the headers go is not part of the source that there is, and what it comes to is an input.
-/

namespace Vsoshlb.Decap

open DataPlane EarlyExit

/-! ## State -/

/-- `struct __sk_buff`, with what the kernel takes for the type of its payload. -/
structure TcSkb extends SkBuff where
  protocol : BitVec 16
deriving DecidableEq, Repr

/-- `struct decap_stats`. -/
structure DecapStats where
  decapV4 : BitVec 64
  decapV6 : BitVec 64
  total : BitVec 64
deriving DecidableEq, Repr

structure DecapMachine where
  skb : TcSkb
  decapCounters : Option DecapStats

/-- What the helpers of the kernel answer, and whether the packet fails the check before its headers
go. -/
structure DecapEnv where
  pullData : Bool
  changeProto : Bool
  adjustRoom : Bool
  tooShort : Bool

abbrev DecapProg := Prog DecapMachine TcAction

def GUEV1_IPV6MASK : BitVec 8 := 0x30

namespace TcSkb

variable (skb : TcSkb)

/-- The bytes from `data` to `data_end`. -/
def data : Frame := skb.frame.take skb.headlen

/-- The packet after `bpf_skb_pull_data`. -/
def pull {len : ℕ} (hlen : len ≤ skb.frame.length) : TcSkb :=
  { skb with
    headlen := len
    headlen_le := hlen }

theorem headlen_le_removeHeaders (n : ℕ) :
    skb.headlen - n ≤ (skb.frame.take ethhdrSize ++ skb.frame.drop (ethhdrSize + n)).length := by
  have hle := skb.headlen_le
  simp only [List.length_append, List.length_take, List.length_drop]
  omega

/-- The packet without the `n` bytes behind its Ethernet header. -/
def removeHeaders (n : ℕ) : TcSkb where
  mark := skb.mark
  frame := skb.frame.take ethhdrSize ++ skb.frame.drop (ethhdrSize + n)
  headlen := skb.headlen - n
  headlen_le := skb.headlen_le_removeHeaders n
  protocol := skb.protocol

/-- The packet after `bpf_skb_change_proto` from IPv6 to IPv4. -/
def changeProto : TcSkb :=
  { skb.removeHeaders (ipv6hdrSize - iphdrSize) with protocol := BE_ETH_P_IP }

end TcSkb

/-! ## Parsing -/

/-- `process_l3_headers`, with `none` for `TC_ACT_SHOT`. -/
def processL3Headers (frame : Frame) (off : ℕ) (isIpv6 : Bool) (flow : FlowKey) :
    Option FlowKey :=
  if isIpv6 then
    if frame.length < off + ipv6hdrSize then
      none
    else
      let proto := frame.byte (off + 6)
      if proto = IPPROTO_FRAGMENT then
        none
      else
        some { flow with
          proto := proto
          src := frame.be128 (off + 8)
          dst := frame.be128 (off + 24) }
  else
    if frame.length < off + iphdrSize then
      none
    else if frame.byte off &&& 0x0F ≠ 5 then
      none
    -- `PCKT_FRAGMENTED`
    else if hasFlag (frame.u16 (off + 6)) 65343 then
      none
    else
      some { flow with
        proto := frame.byte (off + 9)
        src := setIpv4Part flow.src (frame.be32 (off + 12))
        dst := setIpv4Part flow.dst (frame.be32 (off + 16)) }

/-! ## The program -/

section Program

variable (env : DecapEnv)

/-- `bpf_skb_adjust_room` by `-n`, and the way out where it fails. -/
def adjustRoom (n : ℕ) : DecapProg Unit := do
  Prog.exitIf (env.adjustRoom = false) .shot
  Prog.modify fun m ↦ { m with skb := m.skb.removeHeaders n }

/-- `gue_tc_decap_v4`. -/
def gueTcDecapV4 : DecapProg Unit := adjustRoom env (iphdrSize + udphdrSize)

/-- `gue_tc_decap_v6`. What `bpf_skb_change_proto` answers is ignored. -/
def gueTcDecapV6 (innerV4 : Bool) : DecapProg Unit :=
  if innerV4 then do
    Prog.when env.changeProto (Prog.modify fun m ↦ { m with skb := m.skb.changeProto })
    adjustRoom env (iphdrSize + udphdrSize)
  else
    adjustRoom env (ipv6hdrSize + udphdrSize)

/-- `process_encaped_gue_pckt`. -/
def processEncapedGuePckt (isIpv6 : Bool) : DecapProg Unit :=
  if isIpv6 then do
    let offset := ipv6hdrSize + ethhdrSize + udphdrSize
    Prog.exitIf env.tooShort .shot
    let v6 ← Prog.read fun m ↦ m.skb.data.byte offset &&& GUEV1_IPV6MASK
    if v6 ≠ 0 then gueTcDecapV6 env false else gueTcDecapV6 env true
  else do
    Prog.exitIf env.tooShort .shot
    gueTcDecapV4 env

def countDecap (f : DecapStats → DecapStats) : DecapProg Unit :=
  Prog.modify fun m ↦ { m with decapCounters := m.decapCounters.map f }

def DecapStats.seen (stats : DecapStats) : DecapStats := { stats with total := stats.total + 1 }

def DecapStats.decapped (isIpv6 : Bool) (stats : DecapStats) : DecapStats :=
  if isIpv6 then { stats with decapV6 := stats.decapV6 + 1 }
  else { stats with decapV4 := stats.decapV4 + 1 }

/-- `process_packet`. -/
def processPacket (isIpv6 : Bool) : DecapProg TcAction := do
  let data ← Prog.read fun m ↦ m.skb.data
  let flow ← Prog.orExit (processL3Headers data ethhdrSize isIpv6 ⟨0, 0, 0, 0, 0⟩) .shot
  Prog.exitIf (← Prog.read fun m ↦ m.decapCounters.isNone) .unspec
  countDecap DecapStats.seen
  Prog.when (flow.proto = IPPROTO_UDP) do
    let pckt ← Prog.orExit (parseUdp data isIpv6 ⟨flow, 0, 0, 0⟩) .unspec
    Prog.when (pckt.flow.dport = bigEndian GUE_DPORT) do
      countDecap (DecapStats.decapped isIpv6)
      processEncapedGuePckt env isIpv6
  return .unspec

/-- `bpf_skb_pull_data` where the first `hdrLen` bytes are not all there, and the way out where it
fails. -/
def pullHeaders (hdrLen : ℕ) : DecapProg Unit := do
  let skb ← Prog.read DecapMachine.skb
  if skb.headlen < hdrLen then
    if hpull : env.pullData = true ∧ hdrLen ≤ skb.frame.length then
      Prog.modify fun m ↦ { m with skb := skb.pull hpull.2 }
    else
      Prog.exit .unspec
  else
    pure ()

/-- `hdr_len`. One byte of the packet inside tells its family. -/
def hdrLen (isIpv6 : Bool) : ℕ := ethhdrSize + Frame.ipHeaderSize isIpv6 + udphdrSize + 1

/-- `tcdecap`. -/
def tcdecap : DecapProg TcAction := do
  let data ← Prog.read fun m ↦ m.skb.data
  Prog.exitIf (data.length < ethhdrSize) .shot
  if data.etherType = BE_ETH_P_IP then do
    pullHeaders env (hdrLen false)
    processPacket env false
  else if data.etherType = BE_ETH_P_IPV6 then do
    pullHeaders env (hdrLen true)
    processPacket env true
  else
    return .unspec

end Program

end Vsoshlb.Decap
