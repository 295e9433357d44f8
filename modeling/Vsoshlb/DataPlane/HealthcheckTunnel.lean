import Vsoshlb.DataPlane.HealthcheckFrames

/-!
# The health checking program with tunnel interfaces

The other program for health checks writes no headers. It gives the packet a tunnel key, which tells
a tunnel interface where the packet is to go, and the kernel wants an IPv4 address there in the
order of the host. What `bpf_skb_set_tunnel_key` answers is ignored, and the variable for the
interface of the redirection is never set.
-/

namespace Vsoshlb.DataPlane

open EarlyExit

/-! ## State -/

/-- `struct bpf_tunnel_key`; `remote` is the union of `remote_ipv4` and `remote_ipv6`. -/
structure TunnelKey where
  remote : BitVec 128
  tunnelTtl : BitVec 8
deriving DecidableEq, Repr

/-- `struct __sk_buff`, with the key and the flags of the last call of `bpf_skb_set_tunnel_key`. -/
structure TunnelSkb extends SkBuff where
  tunnel : Option (TunnelKey × BitVec 64)
deriving DecidableEq, Repr

structure HcTunnelMachine where
  skb : TunnelSkb
  hcStatsMap : Option HcStats

structure HcTunnelMaps where
  hcCtrlMap : BitVec 32 → Option (BitVec 32)
  hcRealsMap : BitVec 32 → Option BeAddr

/-- What the helper of the kernel answers, and what is in the variable for the interface. -/
structure HcTunnelEnv where
  setTunnelKey : Bool
  ifindex : BitVec 32

abbrev HcTunnelProg := Prog HcTunnelMachine TcAction

def V4_INTF_POS : BitVec 32 := 1

def V6_INTF_POS : BitVec 32 := 2

def BPF_F_TUNINFO_IPV6 : BitVec 64 := 1

/-- `tkey`, and `tun_flag`. -/
def tunnelKeyOf (real : BeAddr) : TunnelKey × BitVec 64 :=
  if real.flags = V6DADDR then
    (⟨real.addr, DEFAULT_TTL⟩, BPF_F_TUNINFO_IPV6)
  else
    (⟨setIpv4Part 0 (ipv4Part real.addr), DEFAULT_TTL⟩, 0)

def TunnelSkb.clearMark (skb : TunnelSkb) : TunnelSkb := { skb with mark := 0 }

def TunnelSkb.setTunnelKey (key : TunnelKey × BitVec 64) (skb : TunnelSkb) : TunnelSkb :=
  { skb with tunnel := some key }

/-! ## The program -/

section Program

variable (maxPacketSize : ℕ) (maps : HcTunnelMaps) (env : HcTunnelEnv)

def countTunnelled (f : HcStats → HcStats) : HcTunnelProg Unit :=
  Prog.modify fun m ↦ { m with hcStatsMap := m.hcStatsMap.map f }

/-- The way out, with the counter for it. -/
def tunnelExit (f : HcStats → HcStats) (action : TcAction) {α : Type} : HcTunnelProg α := do
  countTunnelled f
  Prog.exit action

/-- The part of `healthcheck_encap` for a packet with a real. -/
def tunnelForward (skb : TunnelSkb) (real : BeAddr) : HcTunnelProg TcAction := do
  Prog.when (maxPacketSize < skb.frame.length)
    (tunnelExit (fun stats ↦ stats.dropped.tooBig) .shot)
  Prog.when ((maps.hcCtrlMap V4_INTF_POS).isNone) (tunnelExit HcStats.dropped .shot)
  Prog.when ((maps.hcCtrlMap V6_INTF_POS).isNone) (tunnelExit HcStats.dropped .shot)
  Prog.modify fun m ↦ { m with skb := m.skb.clearMark }
  countTunnelled HcStats.processed
  Prog.when env.setTunnelKey
    (Prog.modify fun m ↦ { m with skb := m.skb.setTunnelKey (tunnelKeyOf real) })
  return .redirect env.ifindex

/-- `healthcheck_encap` of the program with tunnel interfaces. -/
def healthcheckTunnel : HcTunnelProg TcAction := do
  Prog.exitIf (← Prog.read fun m ↦ m.hcStatsMap.isNone) .unspec
  let skb ← Prog.read HcTunnelMachine.skb
  if skb.mark = 0 then
    tunnelExit HcStats.skipped .unspec
  else
    match maps.hcRealsMap skb.mark with
    | none => tunnelExit HcStats.skipped .unspec
    | some real => tunnelForward maxPacketSize maps env skb real

end Program

/-! ## One packet -/

section Packet

variable {maxPacketSize : ℕ} {maps : HcTunnelMaps} {env : HcTunnelEnv} {skb : TunnelSkb}
variable {stats : HcStats}

/-- The real of a packet. -/
def tunnelRealOf (maps : HcTunnelMaps) (skb : TunnelSkb) : Option BeAddr :=
  if skb.mark = 0 then none else maps.hcRealsMap skb.mark

/-- How the program ends, and which of the counters it increases. -/
def TunnelEnds (maxPacketSize : ℕ) (maps : HcTunnelMaps) (env : HcTunnelEnv) (skb : TunnelSkb)
    (stats : HcStats) (action : TcAction) (m : HcTunnelMachine) : Prop :=
  match action with
  | .unspec => tunnelRealOf maps skb = none ∧ m.skb = skb ∧ m.hcStatsMap = some stats.skipped
  | .shot => (tunnelRealOf maps skb).isSome ∧ m.skb = skb ∧ m.hcStatsMap =
      some (if maxPacketSize < skb.frame.length then stats.dropped.tooBig else stats.dropped)
  | .redirect ifindex => ifindex = env.ifindex ∧ ¬ maxPacketSize < skb.frame.length ∧
      m.hcStatsMap = some stats.processed ∧ ∃ real, tunnelRealOf maps skb = some real ∧
        m.skb = if env.setTunnelKey then skb.clearMark.setTunnelKey (tunnelKeyOf real)
          else skb.clearMark

/-- The packet and the counters as the program found them. -/
def Untouched (skb : TunnelSkb) (stats : HcStats) (m : HcTunnelMachine) : Prop :=
  m.skb = skb ∧ m.hcStatsMap = some stats

theorem tunnelExit_triple {f : HcStats → HcStats} {action : TcAction} {α : Type}
    {Q : α → HcTunnelMachine → Prop} {E : TcAction → HcTunnelMachine → Prop}
    (h : ∀ m, m.skb = skb → m.hcStatsMap = some (f stats) → E action m) :
    Triple (Untouched skb stats) (tunnelExit f action : HcTunnelProg α) Q E := by
  refine .bind (.modify (Q := fun _ ↦ Untouched skb (f stats)) ?_) fun _ ↦
    .exit fun m hm ↦ h m hm.1 hm.2
  intro m hm
  exact ⟨hm.1, by rw [hm.2]; rfl⟩

theorem tunnelForward_ends {real : BeAddr} (hreal : tunnelRealOf maps skb = some real) :
    Triple (Untouched skb stats) (tunnelForward maxPacketSize maps env skb real)
      (TunnelEnds maxPacketSize maps env skb stats)
      (TunnelEnds maxPacketSize maps env skb stats) := by
  have hknown : (tunnelRealOf maps skb).isSome := by rw [hreal, Option.isSome_some]
  by_cases hbig : maxPacketSize < skb.frame.length
  · refine .bind (Q := fun _ _ ↦ False) (.when (fun _ ↦ tunnelExit_triple fun m hskb hstats ↦ ?_)
      fun hno ↦ absurd hbig hno) fun _ _ h ↦ h.elim
    exact ⟨hknown, hskb, by rw [hstats, if_pos hbig]⟩
  · have hdrop {c : Prop} [Decidable c] : Triple (Untouched skb stats)
        (Prog.when c (tunnelExit HcStats.dropped .shot)) (fun _ ↦ Untouched skb stats)
        (TunnelEnds maxPacketSize maps env skb stats) := by
      refine .when (fun _ ↦ tunnelExit_triple fun m hskb hstats ↦ ?_) fun _ m hm ↦ hm
      exact ⟨hknown, hskb, by rw [hstats, if_neg hbig]⟩
    refine .bind (Q := fun _ ↦ Untouched skb stats)
      (.when (fun h ↦ absurd h hbig) fun _ m hm ↦ hm) fun _ ↦ ?_
    refine .bind hdrop fun _ ↦ .bind hdrop fun _ ↦ ?_
    refine .bind (.modify (Q := fun _ ↦ Untouched skb.clearMark stats) ?_) fun _ ↦ ?_
    · intro m hm
      exact ⟨by rw [hm.1], hm.2⟩
    refine .bind (.modify (Q := fun _ ↦ Untouched skb.clearMark stats.processed) ?_) fun _ ↦ ?_
    · intro m hm
      exact ⟨hm.1, by rw [hm.2]; rfl⟩
    refine .bind (Q := fun _ ↦ Untouched (if env.setTunnelKey then
      skb.clearMark.setTunnelKey (tunnelKeyOf real) else skb.clearMark) stats.processed)
      (.when (fun hset ↦ .modify fun m hm ↦ ?_) fun hno m hm ↦ ?_) fun _ ↦ .pure fun m hm ↦ ?_
    · rw [if_pos hset]
      exact ⟨by rw [hm.1], hm.2⟩
    · rw [if_neg hno]
      exact hm
    · exact ⟨rfl, hbig, hm.2, real, hreal, hm.1⟩

/-- Every packet that the program sees is counted as skipped, as dropped or as processed. -/
theorem healthcheckTunnel_ends :
    Triple (Untouched skb stats) (healthcheckTunnel maxPacketSize maps env)
      (TunnelEnds maxPacketSize maps env skb stats)
      (TunnelEnds maxPacketSize maps env skb stats) := by
  have hskip (hnone : tunnelRealOf maps skb = none) : Triple (Untouched skb stats)
      (tunnelExit HcStats.skipped .unspec : HcTunnelProg TcAction)
      (TunnelEnds maxPacketSize maps env skb stats)
      (TunnelEnds maxPacketSize maps env skb stats) :=
    tunnelExit_triple fun m hskb hstats ↦ ⟨hnone, hskb, hstats⟩
  refine .read_bind fun m hm ↦ .exitIf_bind (fun hnone ↦ ?_) fun _ ↦ .read_bind fun m hm ↦ ?_
  · rw [hm.2] at hnone
    cases hnone
  · rw [hm.1]
    refine .ite (fun hmark ↦ hskip (if_pos hmark)) fun hmark ↦ ?_
    cases hreal : maps.hcRealsMap skb.mark with
    | none => exact hskip ((if_neg hmark).trans hreal)
    | some real => exact tunnelForward_ends ((if_neg hmark).trans hreal)

end Packet

end Vsoshlb.DataPlane
