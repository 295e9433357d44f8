import Vsoshlb.ControlPlane.HealthcheckDsts
import Vsoshlb.DataPlane.HealthcheckTunnel

/-!
# Health checks go where the balancer sends them

The destinations that the balancer holds after any calls are those that the health checking program
finds for the marks of packets. So a packet with the mark of a destination goes there or is dropped,
and every other packet passes as it is. Both programs keep to that, and the balancer writes the
addresses in the order of bytes that its program wants.
-/

namespace Vsoshlb

open DataPlane

/-- The maps that the program finds, with the destinations of the balancer. -/
def BpfMaps.serveHealthchecks (maps : BpfMaps) (kernel : HcMaps) : HcMaps :=
  { kernel with hcRealsMap := fun somark ↦ maps.hcRealsMap somark.toNat }

/-- The destination of the packets with a mark. A health check has a mark other than 0. -/
def State.hcDestination (s : State) (somark : BitVec 32) : Option IPAddress :=
  if somark = 0 then none else s.tables.hcReals.lookup somark.toNat

/-- The address is an IPv4 address. -/
def IPAddress.isV4 : IPAddress → Bool
  | .v4 _ => true
  | _ => false

/-- The outer header goes to an address, and what comes after it is the packet. -/
structure HcReaches (gue : Bool) (hcaddr : IPAddress) (inner outer : Frame) : Prop where
  version : outer.ipVersion = if hcaddr.isV4 then 4 else 6
  daddr : outer.ipDaddr (!hcaddr.isV4) = (parseAddrToBe hcaddr).addr
  payload : outer.drop (ethhdrSize +
      (Frame.ipHeaderSize (!hcaddr.isV4) + if gue then udphdrSize else 0)) =
    inner.drop ethhdrSize

/-- What the program may do with a packet, by the destination that the balancer has for it. -/
def HcServes (build : HcBuild) (destination : Option IPAddress) (skb : SkBuff) (action : TcAction)
    (left : SkBuff) : Prop :=
  match action with
  | .unspec => destination = none ∧ left = skb
  | .shot => destination.isSome
  | .redirect _ => ∃ hcaddr, destination = some hcaddr ∧ left.mark = 0 ∧
      HcReaches build.gueEncap hcaddr skb.frame left.frame

theorem parseAddrToBe_isV4 (hcaddr : IPAddress) :
    decide ((parseAddrToBe hcaddr).flags = V6DADDR) = !hcaddr.isV4 := by
  cases hcaddr with
  | unspec => rfl
  | v4 addr => rfl
  | v6 addr => rfl

/-- The headers that the program writes for an address in network order go to that address. -/
theorem hcReaches_of_encapsulated {gue : Bool} {hcaddr : IPAddress} {inner outer : Frame}
    (h : HcEncapsulated gue (decide ((parseAddrToBe hcaddr).flags = V6DADDR))
      (parseAddrToBe hcaddr).addr inner outer) : HcReaches gue hcaddr inner outer := by
  rw [parseAddrToBe_isV4] at h
  refine ⟨?_, ?_, h.payload⟩
  · rw [h.version]
    cases hcaddr.isV4 with
    | true => rfl
    | false => rfl
  · rw [h.daddr]
    cases hcaddr with
    | unspec => rfl
    | v4 addr =>
      have hpart : ipv4Part (parseAddrToBe (.v4 addr)).addr = addr :=
        BitVec.extractLsb'_append_eq_left
      rw [hpart]
      rfl
    | v6 addr => rfl

variable {folly : Folly} {config : Config} {chash : HashFunction → ConsistentHash} {s : State}

/-- The real that the program finds. -/
theorem HcShown.hcRealOf (h : HcShown true s) (kernel : HcMaps) (skb : SkBuff) :
    hcRealOf (s.maps.serveHealthchecks kernel) skb =
      (s.hcDestination skb.mark).map parseAddrToBe := by
  have hdirect : hcRealAddr true = parseAddrToBe := by
    funext hcaddr
    cases hcaddr with
    | unspec => rfl
    | v4 addr => rfl
    | v6 addr => rfl
  unfold DataPlane.hcRealOf State.hcDestination
  by_cases hmark : skb.mark = 0
  · rw [if_pos hmark, if_pos hmark]
    rfl
  · rw [if_neg hmark, if_neg hmark, ← hdirect]
    exact h.1 skb.mark.toNat

/-- After any calls, whichever of their writes failed: the packets with the mark of a destination go
to it or are dropped, and the others pass. -/
theorem run_healthchecks_reach {mac : List (BitVec 8)} {features : Features} {maps : BpfMaps}
    {outcomes : List Bool} {calls : List Call} (htesting : config.testing = false)
    (hmaps : maps.hcRealsMap = fun _ ↦ none) (hdirect : features.directHealthchecking = true)
    (hcalls : ∀ call ∈ calls, call.op.KeepsDirect true)
    (hrun : run folly config chash mac features maps outcomes calls = some s)
    (build : HcBuild) (kernel : HcMaps) (env : HcEnv) {m : HcMachine}
    (hstats : m.hcStatsMap.isSome) :
    let ended := (healthcheckEncap build (s.maps.serveHealthchecks kernel) env).result m
    HcServes build (s.hcDestination m.skb.mark) m.skb ended.1 ended.2.skb := by
  have hshown : HcShown true s := by
    rw [← hdirect] at hcalls ⊢
    exact run_hcShown htesting hmaps hcalls hrun
  obtain ⟨stats, hsome⟩ := Option.isSome_iff_exists.mp hstats
  have hends := (@healthcheckEncap_ends build (s.maps.serveHealthchecks kernel) env m.skb
    stats).result ⟨rfl, hsome⟩
  have hreal := hshown.hcRealOf kernel m.skb
  dsimp only
  generalize (healthcheckEncap build (s.maps.serveHealthchecks kernel) env).result m = ended
    at hends ⊢
  obtain ⟨action, left⟩ := ended
  cases action with
  | unspec =>
    have hnone := hends.1
    rw [hreal, Option.map_eq_none_iff] at hnone
    exact ⟨hnone, hends.2.1⟩
  | shot =>
    have hknown := hends.1
    rw [hreal, Option.isSome_map] at hknown
    exact hknown
  | redirect ifindex =>
    obtain ⟨-, real, hsent⟩ := hends
    have hknown := hsent.known
    rw [hreal] at hknown
    obtain ⟨hcaddr, hdestination, rfl⟩ := Option.map_eq_some_iff.mp hknown
    exact ⟨hcaddr, hdestination, hsent.mark, hcReaches_of_encapsulated hsent.headers⟩

/-- Two calls with the same mark; the first write fails. -/
def checkCalls : List Call :=
  [Op.sorted (.addHealthcheckerDst 7 "10.0.0.3") 0,
    Op.sorted (.addHealthcheckerDst 7 "10.0.0.2") 0]

theorem checkCalls_reach :
    ∃ s, run .sample .sample (fun _ ↦ .single) [] ⟨true, true, true⟩ .empty [false, true]
        checkCalls = some s ∧
      let ended := (healthcheckEncap .plain (s.maps.serveHealthchecks .sample) .sample).result
        (.sample 7)
      HcServes .plain (s.hcDestination 7) (.ack 7) ended.1 ended.2.skb :=
  ⟨_, rfl, @run_healthchecks_reach _ _ (fun _ ↦ .single) _ _ _ _ _ checkCalls rfl rfl rfl
    (by simp [checkCalls, Op.KeepsDirect, Op.sorted]) rfl .plain .sample .sample (.sample 7) rfl⟩

/-! ## Tunnel interfaces -/

/-- The bytes of the address that the kernel sends a packet with the key to: it takes an IPv4
address for a number of the host. -/
def tunnelDaddr (key : TunnelKey × BitVec 64) : BitVec 128 :=
  if key.2 = BPF_F_TUNINFO_IPV6 then key.1.remote
  else setIpv4Part 0 (reverseBytes (ipv4Part key.1.remote))

/-- The key sends a packet to an address, through an interface for tunnels of its family. -/
structure TunnelReaches (hcaddr : IPAddress) (key : TunnelKey × BitVec 64) : Prop where
  family : key.2 = if hcaddr.isV4 then 0 else BPF_F_TUNINFO_IPV6
  daddr : tunnelDaddr key = (parseAddrToBe hcaddr).addr
  tunnelTtl : key.1.tunnelTtl = DEFAULT_TTL

/-- What the program may do with a packet, by the destination that the balancer has for it. -/
def TunnelServes (destination : Option IPAddress) (skb : TunnelSkb) (action : TcAction)
    (left : TunnelSkb) : Prop :=
  match action with
  | .unspec => destination = none ∧ left = skb
  | .shot => destination.isSome ∧ left = skb
  | .redirect _ => ∃ hcaddr key, destination = some hcaddr ∧ TunnelReaches hcaddr key ∧
      left = skb.clearMark.setTunnelKey key

/-- The maps that the program finds, with the destinations of the balancer. -/
def BpfMaps.serveTunnels (maps : BpfMaps) (hcCtrlMap : BitVec 32 → Option (BitVec 32)) :
    HcTunnelMaps where
  hcCtrlMap := hcCtrlMap
  hcRealsMap somark := maps.hcRealsMap somark.toNat

/-- The key for an address as the balancer writes it for this program. -/
theorem tunnelKeyOf_reaches (hcaddr : IPAddress) :
    TunnelReaches hcaddr (tunnelKeyOf (hcRealAddr false hcaddr)) := by
  cases hcaddr with
  | unspec => exact ⟨rfl, rfl, rfl⟩
  | v4 addr =>
    have hwritten (word : BitVec 32) : ipv4Part (setIpv4Part 0 word) = word :=
      BitVec.extractLsb'_append_eq_left
    have hpart : ipv4Part (hcRealAddr false (.v4 addr)).addr = reverseBytes addr :=
      BitVec.extractLsb'_append_eq_left
    refine ⟨rfl, ?_, rfl⟩
    calc
      _ = setIpv4Part 0 (reverseBytes (ipv4Part (setIpv4Part 0
            (ipv4Part (hcRealAddr false (.v4 addr)).addr)))) := rfl
      _ = setIpv4Part 0 addr := by rw [hwritten, hpart, reverseBytes_reverseBytes]
      _ = _ := rfl
  | v6 addr => exact ⟨rfl, rfl, rfl⟩

/-- The same for the program with tunnel interfaces, as long as the kernel takes its keys. -/
theorem run_tunnels_reach {mac : List (BitVec 8)} {features : Features} {maps : BpfMaps}
    {outcomes : List Bool} {calls : List Call} (htesting : config.testing = false)
    (hmaps : maps.hcRealsMap = fun _ ↦ none) (hdirect : features.directHealthchecking = false)
    (hcalls : ∀ call ∈ calls, call.op.KeepsDirect false)
    (hrun : run folly config chash mac features maps outcomes calls = some s)
    (maxPacketSize : ℕ) (hcCtrlMap : BitVec 32 → Option (BitVec 32)) {env : HcTunnelEnv}
    (hset : env.setTunnelKey = true) {m : HcTunnelMachine} (hstats : m.hcStatsMap.isSome) :
    let ended := (healthcheckTunnel maxPacketSize (s.maps.serveTunnels hcCtrlMap) env).result m
    TunnelServes (s.hcDestination m.skb.mark) m.skb ended.1 ended.2.skb := by
  have hshown : HcShown false s := by
    rw [← hdirect] at hcalls ⊢
    exact run_hcShown htesting hmaps hcalls hrun
  have hreal : tunnelRealOf (s.maps.serveTunnels hcCtrlMap) m.skb =
      (s.hcDestination m.skb.mark).map (hcRealAddr false) := by
    unfold tunnelRealOf State.hcDestination
    split_ifs
    · rfl
    · exact hshown.1 m.skb.mark.toNat
  obtain ⟨stats, hsome⟩ := Option.isSome_iff_exists.mp hstats
  have hends := (@healthcheckTunnel_ends maxPacketSize (s.maps.serveTunnels hcCtrlMap) env m.skb
    stats).result (s := m) ⟨rfl, hsome⟩
  dsimp only
  generalize (healthcheckTunnel maxPacketSize (s.maps.serveTunnels hcCtrlMap) env).result m = ended
    at hends ⊢
  obtain ⟨action, left⟩ := ended
  cases action with
  | unspec =>
    have hnone := hends.1
    rw [hreal, Option.map_eq_none_iff] at hnone
    exact ⟨hnone, hends.2.1⟩
  | shot =>
    have hknown := hends.1
    rw [hreal, Option.isSome_map] at hknown
    exact ⟨hknown, hends.2.1⟩
  | redirect ifindex =>
    obtain ⟨-, -, -, real, hknown, hleft⟩ := hends
    rw [hreal] at hknown
    obtain ⟨hcaddr, hdestination, rfl⟩ := Option.map_eq_some_iff.mp hknown
    rw [if_pos hset] at hleft
    exact ⟨hcaddr, _, hdestination, tunnelKeyOf_reaches hcaddr, hleft⟩

/-- A segment with the mark of the second of the two calls. -/
theorem checkCalls_tunnels_reach :
    ∃ s, run .sample .sample (fun _ ↦ .single) [] ⟨true, true, false⟩ .empty [false, true]
        checkCalls = some s ∧
      let ended := (healthcheckTunnel 1474 (s.maps.serveTunnels fun _ ↦ some 2) ⟨true, 2⟩).result
        ⟨⟨.ack 7, none⟩, some ⟨0, 0, 0, 0⟩⟩
      TunnelServes (s.hcDestination 7) ⟨.ack 7, none⟩ ended.1 ended.2.skb :=
  ⟨_, rfl, @run_tunnels_reach _ _ (fun _ ↦ .single) _ _ _ _ _ checkCalls rfl rfl rfl
    (by simp [checkCalls, Op.KeepsDirect, Op.sorted]) rfl 1474 (fun _ ↦ some 2) ⟨true, 2⟩ rfl
    ⟨⟨.ack 7, none⟩, some ⟨0, 0, 0, 0⟩⟩ rfl⟩

end Vsoshlb
