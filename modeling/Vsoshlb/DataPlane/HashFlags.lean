import Vsoshlb.DataPlane.RoutingSteps

/-!
# What the hash of a packet hides

A service says with its flags which fields of a flow choose the slot of the ring: the others are
overwritten before `get_packet_hash`, the ports on the way from the VIP to the LRU maps and the
source in `get_packet_dst` itself. Packets that differ in the hidden fields only get one offset.
-/

namespace Vsoshlb.DataPlane

open EarlyExit

/-! ## The retained tuple -/

/-- The fields that a service hashes, with `none` for those that it hides. -/
structure RetainedTuple where
  src : Option (BitVec 128)
  sport : Option (BitVec 16)
  dport : Option (BitVec 16)
deriving DecidableEq, Repr

/-- The source of a packet. Of the sixteen bytes an IPv4 packet uses four. -/
def sourceAddress (isIpv6 : Bool) (flow : FlowKey) : BitVec 128 :=
  if isIpv6 then flow.src else setIpv4Part 0 (ipv4Part flow.src)

/-- What the flags of a VIP retain of a flow. A VIP with port 0 takes every port. -/
def retainedTuple (isIpv6 : Bool) (vip : VipDefinition) (vipInfo : VipMeta) (flow : FlowKey) :
    RetainedTuple :=
  if hasFlag vipInfo.flags F_HASH_DPORT_ONLY then
    ⟨none, none, some flow.dport⟩
  else
    { src := some (sourceAddress isIpv6 flow)
      sport := if hasFlag vipInfo.flags F_HASH_NO_SRC_PORT then none else some flow.sport
      dport :=
        if vip.port = 0 ∧ hasFlag vipInfo.flags F_HASH_SRC_DST_PORT = false then none
        else some flow.dport }

/-- `process_packet` reads the five-tuple `flow` from the packet and matches it to the VIP. -/
structure MatchedTo (build : Build) (maps : KernelMaps) (env : Env) (m : Machine)
    (vip : VipDefinition) (vipInfo : VipMeta) (flow matched : FlowKey) : Prop where
  parsed : ∃ t, parseHeaders build maps env m.start = (.ok (), t) ∧ t.pckt.flow = flow
  found : findVip maps env.isIpv6 flow = some (vip, vipInfo, matched)

/-! ## The flow at the hash -/

section Hash

variable {build : Build} {maps : KernelMaps} {env : Env} {vip : VipDefinition} {vipInfo : VipMeta}
variable {isIpv6 : Bool} {flow matched : FlowKey}

/-- The flow that `get_packet_hash` sees of a matched packet. -/
def hashedFlow (vipInfo : VipMeta) (matched : FlowKey) : FlowKey :=
  if hasFlag vipInfo.flags F_HASH_DPORT_ONLY then hideSource (hideSourcePort vipInfo matched)
  else hideSourcePort vipInfo matched

/-- The offset that `get_packet_dst` computes for a matched packet. -/
def ringOffset (build : Build) (isIpv6 : Bool) (vipInfo : VipMeta) (matched : FlowKey) :
    BitVec 32 :=
  getPacketHash build (hashedFlow vipInfo matched) isIpv6 % build.ringSize

/-- The hash reads the source of the family and the ports. -/
theorem getPacketHash_congr {flow flow' : FlowKey}
    (hsrc : sourceAddress isIpv6 flow = sourceAddress isIpv6 flow')
    (hsport : flow.sport = flow'.sport) (hdport : flow.dport = flow'.dport) :
    getPacketHash build flow isIpv6 = getPacketHash build flow' isIpv6 := by
  have hports : flow.ports = flow'.ports := by
    rw [FlowKey.ports, FlowKey.ports, hsport, hdport]
  cases isIpv6 with
  | true =>
    have hsrc : flow.src = flow'.src := hsrc
    rw [getPacketHash, getPacketHash, hsrc, hports]
  | false =>
    have hword : ipv4Part flow.src = ipv4Part flow'.src := by
      calc ipv4Part flow.src
        _ = ipv4Part (sourceAddress false flow) := (ipv4Part_setIpv4Part _ _).symm
        _ = ipv4Part (sourceAddress false flow') := congrArg ipv4Part hsrc
        _ = ipv4Part flow'.src := ipv4Part_setIpv4Part _ _
    rw [getPacketHash, getPacketHash, if_neg Bool.false_ne_true, if_neg Bool.false_ne_true, hword,
      hports]

/-- The lookup of the VIP changes the destination port at most. -/
theorem findVip_matched (h : findVip maps isIpv6 flow = some (vip, vipInfo, matched)) :
    matched.src = flow.src ∧ matched.sport = flow.sport ∧
      matched.dport =
        if vip.port = 0 ∧ hasFlag vipInfo.flags F_HASH_DPORT_ONLY = false ∧
            hasFlag vipInfo.flags F_HASH_SRC_DST_PORT = false then 0
        else flow.dport := by
  rcases findVip_cases h with ⟨-, rfl, rfl⟩ | ⟨-, -, rfl, rfl⟩
  · refine ⟨rfl, rfl, ?_⟩
    -- a flow to port 0 may match the VIP directly
    split_ifs with hwild
    · exact hwild.1
    · rfl
  · split_ifs with hhides hwild hwild
    · exact ⟨rfl, rfl, rfl⟩
    · exact absurd ⟨rfl, hhides⟩ hwild
    · exact absurd hwild.2 hhides
    · exact ⟨rfl, rfl, rfl⟩

/-- Flows with one retained tuple have one offset. -/
theorem ringOffset_eq {maps' : KernelMaps} {flow' matched' : FlowKey}
    (h : findVip maps isIpv6 flow = some (vip, vipInfo, matched))
    (h' : findVip maps' isIpv6 flow' = some (vip, vipInfo, matched'))
    (htuple : retainedTuple isIpv6 vip vipInfo flow = retainedTuple isIpv6 vip vipInfo flow') :
    ringOffset build isIpv6 vipInfo matched = ringOffset build isIpv6 vipInfo matched' := by
  refine congrArg (· % build.ringSize) ?_
  obtain ⟨hsrc, hsport, hdport⟩ := findVip_matched h
  obtain ⟨hsrc', hsport', hdport'⟩ := findVip_matched h'
  by_cases honly : hasFlag vipInfo.flags F_HASH_DPORT_ONLY
  · have hport : flow.dport = flow'.dport := by
      simpa [retainedTuple, honly] using htuple
    rw [if_neg fun hwild ↦ by rw [honly] at hwild; cases hwild.2.1] at hdport hdport'
    have hkept (matched : FlowKey) : (hideSourcePort vipInfo matched).dport = matched.dport := by
      unfold hideSourcePort
      split_ifs
      · rfl
      · rfl
    simp only [hashedFlow, if_pos honly]
    apply getPacketHash_congr
    · rfl
    · change (hideSourcePort vipInfo matched).dport = (hideSourcePort vipInfo matched').dport
      rw [hkept, hkept, hdport, hdport', hport]
    · change (hideSourcePort vipInfo matched).dport = (hideSourcePort vipInfo matched').dport
      rw [hkept, hkept, hdport, hdport', hport]
  · simp only [retainedTuple, if_neg honly, RetainedTuple.mk.injEq, Option.some.injEq] at htuple
    obtain ⟨haddress, hsource, hdest⟩ := htuple
    have hdest : matched.dport = matched'.dport := by
      rw [hdport, hdport']
      by_cases hwild : vip.port = 0 ∧ hasFlag vipInfo.flags F_HASH_SRC_DST_PORT = false
      · have hhidden := And.intro hwild.1 (And.intro (Bool.eq_false_of_not_eq_true honly) hwild.2)
        rw [if_pos hhidden, if_pos hhidden]
      · have hkept := fun h : vip.port = 0 ∧ hasFlag vipInfo.flags F_HASH_DPORT_ONLY = false ∧
          hasFlag vipInfo.flags F_HASH_SRC_DST_PORT = false ↦ hwild ⟨h.1, h.2.2⟩
        rw [if_neg hwild, if_neg hwild] at hdest
        rw [if_neg hkept, if_neg hkept, Option.some.inj hdest]
    have haddress : sourceAddress isIpv6 matched = sourceAddress isIpv6 matched' := by
      simpa only [sourceAddress, hsrc, hsrc'] using haddress
    simp only [hashedFlow, if_neg honly, hideSourcePort]
    split_ifs at hsource ⊢
    · exact getPacketHash_congr haddress rfl hdest
    · apply getPacketHash_congr haddress _ hdest
      rw [hsport, hsport', Option.some.inj hsource]

/-! ## The hash of a run -/

/-- No hash is computed, or the given one. -/
def HashedTo (offset : BitVec 32) (m : Machine) : Prop := m.hash = none ∨ m.hash = some offset

/-- The packet has the key `flow`, and its hash is not computed yet. -/
def Unhashed (flow : FlowKey) (m : Machine) : Prop := m.pckt.flow = flow ∧ m.hash = none

theorem unhashed_stable : StableUnderLookups (Unhashed flow) where
  quiet h hflow hhash _ := ⟨hflow.trans h.1, hhash.trans h.2⟩
  lookup _ h := h
  update _ _ h := h

theorem hashedTo_settled (offset : BitVec 32) : Settled (HashedTo offset) := by
  intro m m' hhash _ h
  rwa [HashedTo, hhash]

theorem installDst_hash (key : BitVec 32) (underFlood : Bool) (lruMap : LruMap) (m : Machine) :
    (installDst build key vipInfo underFlood lruMap m).2.hash = m.hash := by
  simp only [installDst]
  split_ifs
  · rfl
  · rfl
  · rfl

/-- `get_packet_dst` hashes the flow of the packet, unless a rule for its source comes first. -/
theorem getPacketDst_hash (key : BitVec 32) (lruMap : LruMap) (m : Machine) :
    (getPacketDst build maps key vipInfo isIpv6 lruMap m).2.hash = m.hash ∨
      (getPacketDst build maps key vipInfo isIpv6 lruMap m).2.hash =
        some (getPacketHash build (if hasFlag vipInfo.flags F_HASH_DPORT_ONLY then
          hideSource m.pckt.flow else m.pckt.flow) isIpv6 % build.ringSize) := by
  obtain ⟨f, hflood⟩ := @isUnderFlood_snd build 0 m
  unfold getPacketDst
  generalize isUnderFlood build 0 m = flood at hflood ⊢
  obtain ⟨underFlood, m₁⟩ := flood
  dsimp only at hflood ⊢
  obtain ⟨f', hsource⟩ := @lookupSource_snd build maps vipInfo isIpv6 underFlood m₁
  generalize lookupSource build maps vipInfo isIpv6 underFlood m₁ = source at hsource ⊢
  obtain ⟨srcFound, m₂⟩ := source
  dsimp only at hsource ⊢
  have hflow : m₂.pckt.flow = m.pckt.flow := by
    rw [hsource, Machine.bump_pckt, hflood, Machine.bump_pckt]
  cases srcFound with
  | true =>
    left
    rw [if_pos rfl, installDst_hash, hsource, Machine.bump_hash, hflood, Machine.bump_hash]
  | false =>
    right
    have hhash := @hashPacket_hash build vipInfo isIpv6 m₂
    rw [hashPacket_flow, hflow] at hhash
    rw [if_neg Bool.false_ne_true]
    generalize hashPacket build vipInfo isIpv6 m₂ = hashed at hhash ⊢
    generalize getPacketHash build _ isIpv6 % build.ringSize = offset at hhash ⊢
    split_ifs
    · exact hhash
    · exact hhash
    · rw [installDst_hash, Machine.record_hash, hhash]

/-- A matched packet has no hash, or that of what its VIP leaves of its flow. -/
theorem processPacket_hashedTo {m : Machine}
    (h : MatchedTo build maps env m vip vipInfo flow matched) :
    HashedTo (ringOffset build env.isIpv6 vipInfo matched)
      ((processPacket build maps env).result m.start).2 := by
  obtain ⟨t, hparse, rfl⟩ := h.parsed
  have hnone : t.hash = none := (parseHeaders_sameRouting.ok (.refl m.start) hparse).2.2.2
  have htriple : Triple (Unhashed matched) (balance build maps env vip vipInfo)
      (fun _ ↦ HashedTo (ringOffset build env.isIpv6 vipInfo matched))
      (fun _ ↦ HashedTo (ringOffset build env.isIpv6 vipInfo matched)) := by
    refine balance_triple (P := Unhashed (hideSourcePort vipInfo matched)) unhashed_stable
      (fun _ hs ↦ Or.inl hs.2) (hashedTo_settled _) vip (fun _ _ _ hs ↦ hs)
      (fun _ hs ↦ Or.inl hs.2) (fun m hs ↦ ⟨?_, hs.2⟩) fun lruMap m hs ↦ ?_
    · rw [← hs.1]
    · have hhash := @getPacketDst_hash build maps vipInfo env.isIpv6 env.key lruMap m
      rw [hs.1, hs.2] at hhash
      exact hhash
  rw [processPacket, Prog.result_bind (classify_of_parseHeaders hparse h.found)]
  exact htriple.result ⟨rfl, hnone⟩

/-- Two packets of one VIP and one family that agree on the retained tuple get one offset in the
ring, whatever else the program finds. -/
theorem processPacket_hash_eq {maps' : KernelMaps} {env' : Env} {m m' : Machine}
    {flow' matched' : FlowKey} (h : MatchedTo build maps env m vip vipInfo flow matched)
    (h' : MatchedTo build maps' env' m' vip vipInfo flow' matched')
    (hfamily : env'.isIpv6 = env.isIpv6)
    (htuple : retainedTuple env.isIpv6 vip vipInfo flow =
      retainedTuple env'.isIpv6 vip vipInfo flow') {offset offset' : BitVec 32}
    (hoffset : ((processPacket build maps env).result m.start).2.hash = some offset)
    (hoffset' : ((processPacket build maps' env').result m'.start).2.hash = some offset') :
    offset = offset' := by
  have hhash := processPacket_hashedTo h
  have hhash' := processPacket_hashedTo h'
  have hfound' := h'.found
  rw [hfamily] at htuple hhash' hfound'
  rw [HashedTo, hoffset] at hhash
  rw [HashedTo, hoffset'] at hhash'
  rw [Option.some.inj (hhash.resolve_left (Option.some_ne_none _)),
    Option.some.inj (hhash'.resolve_left (Option.some_ne_none _)),
    ringOffset_eq h.found hfound' htuple]

end Hash

/-- The segment of the small data plane with another source: 192.0.2.9:40001. -/
def Frame.otherAck : Frame := (Frame.ack.set 29 9).set 35 0x41

def FlowKey.otherAck : FlowKey :=
  { FlowKey.ack with
    src := setIpv4Part 0 0xc0000209
    sport := 0x419c }

def sampleVip : VipDefinition := ⟨setIpv4Part 0 0x0a000001, 0x5000, IPPROTO_TCP⟩

theorem ack_matchedTo : MatchedTo .plain (.sample F_HASH_DPORT_ONLY) (.tcp .ack) .sample sampleVip
    ⟨F_HASH_DPORT_ONLY, 0⟩ .ack .ack where
  parsed := ⟨_, Prod.ext (by decide +kernel) rfl, by decide +kernel⟩
  found := by decide +kernel

theorem otherAck_matchedTo : MatchedTo .plain (.sample F_HASH_DPORT_ONLY) (.tcp .otherAck) .sample
    sampleVip ⟨F_HASH_DPORT_ONLY, 0⟩ .otherAck .otherAck where
  parsed := ⟨_, Prod.ext (by decide +kernel) rfl, by decide +kernel⟩
  found := by decide +kernel

/-- The hash of a segment that goes to a service with `F_HASH_DPORT_ONLY`. -/
def hashOf (frame : Frame) : Option (BitVec 32) :=
  ((processPacket .plain (.sample F_HASH_DPORT_ONLY) (.tcp frame)).result
    Machine.sample.start).2.hash

theorem acks_hash_eq :
    ∃ offset offset', hashOf .ack = some offset ∧ hashOf .otherAck = some offset' ∧
      offset = offset' := by
  have hack : hashOf .ack = some 46973 := by decide +kernel
  have hother : hashOf .otherAck = some 46973 := by decide +kernel
  exact ⟨_, _, hack, hother,
    processPacket_hash_eq ack_matchedTo otherAck_matchedTo rfl (by decide +kernel) hack hother⟩

end Vsoshlb.DataPlane
