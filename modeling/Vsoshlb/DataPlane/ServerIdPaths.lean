import Vsoshlb.DataPlane.Encap
import Vsoshlb.DataPlane.ConnectionIds

/-!
# Two ways to route by a server id

QUIC packets carry a server id in their connection id, and the packets of stable UDP routing carry
one in a header of their own. Both ids are looked up in the same map. The function for QUIC looks
for the real of an id that the map knows, and drops the packet where there is none. The function for
stable routing neither sets the real nor drops: its result is ignored.
-/

namespace Vsoshlb.DataPlane

open EarlyExit

variable (build : Build) (maps : KernelMaps) (env : Env)

/-- What the server id of a packet decides: the packet is dropped, it has its real, or the flow
tables and the ring decide. -/
inductive RoutingOutcome where
  | dropped
  | sent (real : RealDefinition)
  | left
deriving DecidableEq, Repr

/-- `process_packet` up to the lookups by a server id: the VIP, its meta data and the LRU map. -/
def beforeServerId : XdpProg (VipDefinition × VipMeta × LruMap) := do
  let found ← classify build maps env
  Prog.when (build.maxPcktSize < env.frame.length) (rejectTooBig build env)
  countOrDrop (build.maxVips + LRU_CNTRS) (LbStats.addV1 1)
  Prog.modify fun m ↦ { m with pckt.flow := hideSourcePort found.2 m.pckt.flow }
  let lruMap ← findLruMap build maps env
  return (found.1, found.2, lruMap)

/-- `process_packet` after them. -/
def afterServerId (found : VipDefinition × VipMeta × LruMap) : XdpProg XdpAction := do
  let originalSport ← Prog.read fun m ↦ m.pckt.flow.sport
  Prog.when (← Prog.read fun m ↦ m.dst.isNone)
    (selectReal build maps env found.1 found.2.1 found.2.2)
  deliver build maps env found.2.1 originalSport

/-- What the lookups by a server id make of a packet that comes to them in state `t`. -/
def serverIdOutcome (found : VipDefinition × VipMeta × LruMap) (t : Machine) : RoutingOutcome :=
  match routeByServerId build maps env found.2.1 found.2.2 t with
  | (.error _, _) => .dropped
  | (.ok _, t) => t.dst.elim .left .sent

/-- What the maps say of a server id: nothing, or its real, which may be missing. -/
def serverIdEntry (key : BitVec 32) : Option (Option RealDefinition) :=
  (maps.serverIdMap key).map fun _ ↦ maps.reals key

/-- The entry that the QUIC path follows. It looks for none in an ICMP error, nor where
`parse_quic` finds no server id. -/
def quicEntry (frame : Frame) (isIpv6 : Bool) (pckt : PacketDescription) :
    Option (Option RealDefinition) :=
  if hasFlag pckt.flags F_ICMP = false ∧ 0 < (parseQuic frame isIpv6 pckt).serverId.toInt then
    serverIdEntry maps (parseQuic frame isIpv6 pckt).serverId
  else
    none

/-- The outcome for a packet that follows the given entry. -/
def RoutingOutcome.ofEntry : Option (Option RealDefinition) → RoutingOutcome
  | none => .left
  | some none => .dropped
  | some (some real) => .sent real

theorem processPacket_eq :
    processPacket build maps env = (do
      let found ← beforeServerId build maps env
      routeByServerId build maps env found.2.1 found.2.2
      afterServerId build maps env found) := by
  simp only [processPacket, beforeServerId, balance, afterServerId, Prog.bind_assoc,
    Prog.pure_bind]

/-- The packet has the header of stable routing with the given server id. -/
def CarriesStableId (frame : Frame) (isIpv6 : Bool) (pckt : PacketDescription) (id : ℕ) : Prop :=
  ∃ udpData, udpData = calcOffset isIpv6 (hasFlag pckt.flags F_ICMP) + udphdrSize ∧
    frame.byte udpData = 0x52 ∧ udpData + 8 ≤ frame.length ∧
    (frame.byte (udpData + 1) ++ frame.byte (udpData + 2) ++ frame.byte (udpData + 3)).toNat = id

/-- From `m` a UDP packet of a VIP with stable routing comes to its server id in state `t`. The VIP
may be one for QUIC as well; the arrays of the QUIC statistics have their entries. -/
structure StablePacket (m : Machine) (id : ℕ) (found : VipDefinition × VipMeta × LruMap)
    (t : Machine) : Prop where
  reaches : beforeServerId build maps env m.start = (.ok found, t)
  enabled : build.udpStableRouting = true
  flag : hasFlag found.2.1.flags F_UDP_STABLE_ROUTING_VIP = true
  proto : t.pckt.flow.proto = IPPROTO_UDP
  header : CarriesStableId env.frame env.isIpv6 t.pckt id
  quicStats : t.quicStats.isSome
  icmpStats : (t.stats (build.maxVips + QUIC_ICMP_STATS)).isSome

/-- From `m` a QUIC packet comes to its server id in state `t`. The array of its statistics has an
entry. -/
structure QuicPacket (m : Machine) (id : ℕ) (found : VipDefinition × VipMeta × LruMap)
    (t : Machine) : Prop where
  reaches : beforeServerId build maps env m.start = (.ok found, t)
  flag : hasFlag found.2.1.flags F_QUIC_VIP = true
  client : hasFlag t.pckt.flags F_ICMP = false
  stats : t.quicStats.isSome
  connId : CarriesServerId env.frame env.isIpv6 t.pckt 2 id

/-! ## Before the server id -/

variable {build maps env} {found : VipDefinition × VipMeta × LruMap} {m t : Machine} {id : ℕ}

theorem beforeServerId_dst :
    Triple (fun m ↦ m.dst = none) (beforeServerId build maps env) (fun _ t ↦ t.dst = none)
      (fun _ _ ↦ True) := by
  have hclassify : Triple (fun m ↦ m.dst = none) (classify build maps env)
      (fun _ t ↦ t.dst = none) (fun _ _ ↦ True) := fun m hm ↦
    classify_sameRouting.conseq (fun _ h ↦ h) (fun _ _ h ↦ h.1.trans hm) (fun _ _ h ↦ h) m
      (.refl m)
  refine .bind hclassify fun found ↦ ?_
  refine .bind (.when (fun _ ↦ rejectTooBig_triple (fun _ _ _ hs ↦ hs) fun _ _ _ ↦ trivial)
    fun _ _ hs ↦ hs) fun _ ↦ ?_
  refine .bind (countOrDrop_triple (fun _ hs ↦ hs) fun _ _ ↦ trivial) fun _ ↦ ?_
  refine .bind (.modify (Q := fun _ t ↦ t.dst = none) fun _ hs ↦ hs) fun _ ↦ ?_
  exact .bind (findLruMap_triple (fun _ _ _ hs ↦ hs) fun _ _ ↦ trivial) fun _ ↦
    .pure fun _ hs ↦ hs

/-- No packet has a real before its server id is looked at. -/
theorem dst_of_reaches (h : beforeServerId build maps env m.start = (.ok found, t)) :
    t.dst = none :=
  beforeServerId_dst.ok rfl h

/-! ## The outcome of the lookups -/

theorem RoutingOutcome.ofEntry_injective : Function.Injective RoutingOutcome.ofEntry := by
  intro e e' h
  match e, e' with
  | none, none => rfl
  | some none, some none => rfl
  | some (some real), some (some real') =>
    injection h with hreal
    rw [hreal]

/-- The program ends with the pointer to the real that the outcome asks for, and leaves early only
where the packet is dropped. -/
def Decides (P : Machine → Prop) (prog : XdpProg Unit) (outcome : RoutingOutcome) : Prop :=
  Triple P prog (fun _ m ↦ m.dst.elim .left .sent = outcome) (fun _ _ ↦ .dropped = outcome)

theorem Decides.serverIdOutcome {P : Machine → Prop} {outcome : RoutingOutcome}
    (h : Decides P (routeByServerId build maps env found.2.1 found.2.2) outcome) (ht : P t) :
    serverIdOutcome build maps env found t = outcome := by
  have hend := h t ht
  unfold DataPlane.serverIdOutcome
  cases hrun : routeByServerId build maps env found.2.1 found.2.2 t with
  | mk result after =>
    rw [hrun] at hend
    cases result with
    | error action => exact hend
    | ok _ => exact hend

theorem countQuic_triple {P : Option RealDefinition → Prop} {E : XdpAction → Machine → Prop}
    (f : QuicPacketsStats → QuicPacketsStats) :
    Triple (fun m ↦ P m.dst) (countQuic f) (fun _ m ↦ P m.dst) E :=
  .modify fun _ hs ↦ hs

theorem countOrDrop_dst {P : Option RealDefinition → Prop} {E : XdpAction → Machine → Prop}
    {key : BitVec 32} (f : LbStats → LbStats) (hP : P t.dst) (hstats : (t.stats key).isSome) :
    Triple (Eq t) (countOrDrop key f) (fun _ m ↦ P m.dst) E := by
  refine .read_bind_at ?_
  rintro s rfl
  refine .exitIf_bind (fun hnone ↦ ?_) fun _ ↦ .modify ?_
  · rw [Option.isNone_iff_eq_none.mp hnone] at hstats
    cases hstats
  · rintro s rfl
    exact hP

theorem routeToIndex_decides {P : Machine → Prop} (lruMap : LruMap) (key : BitVec 32) :
    Decides P (routeToIndex build maps env lruMap key) (.ofEntry (some (maps.reals key))) := by
  refine .bind (Q := fun _ m ↦ m.dst = maps.reals key) (.modify fun _ _ ↦ rfl) fun _ ↦ ?_
  cases maps.reals key with
  | none =>
    refine .bind (Q := fun _ _ ↦ False) (.when (fun _ ↦ ?_) fun hsome ↦ absurd rfl hsome)
      fun _ _ h ↦ h.elim
    exact .bind (countQuic_triple (P := fun dst ↦ dst = none) _) fun _ ↦ .exit fun _ _ ↦ rfl
  | some real =>
    refine .bind (Q := fun _ m ↦ m.dst = some real) (.when (fun hnone ↦ by cases hnone)
      fun _ _ hm ↦ hm) fun _ ↦ ?_
    refine .bind (.act (Q := fun _ m ↦ m.dst = some real) fun m hm ↦ ?_) fun _ ↦ ?_
    · exact (checkAndUpdateRealIndexInLru_dst env.curTime lruMap m).trans hm
    · refine .bind (countQuic_triple (P := fun dst ↦ dst = some real) _) fun _ ↦ .modify ?_
      intro m hm
      rw [hm]
      rfl

/-- The QUIC path looks an id up: the packet goes to the real of an id that the map knows, and is
dropped where that real is missing. -/
theorem routeByCid_decides {lruMap : LruMap} {qpr : QuicParseResult} (hkey : qpr.serverId ≠ 0) :
    Decides (fun m ↦ m.dst = none) (routeByCid build maps env lruMap qpr)
      (.ofEntry (serverIdEntry maps qpr.serverId)) := by
  refine .bind (countQuic_triple (P := fun dst ↦ dst = none) _) fun _ ↦ .ite (fun hnone ↦ ?_)
    fun hsome ↦ .ite (fun hzero ↦ absurd hzero hkey) fun _ ↦ ?_
  · rw [serverIdEntry, Option.isNone_iff_eq_none.mp hnone]
    refine .modify fun m hm ↦ ?_
    rw [hm]
    rfl
  · obtain ⟨pos, hpos⟩ := Option.ne_none_iff_exists'.mp (mt Option.isNone_iff_eq_none.mpr hsome)
    rw [serverIdEntry, hpos]
    exact routeToIndex_decides lruMap qpr.serverId

theorem quicEntry_of_icmp {frame : Frame} {isIpv6 : Bool} {pckt : PacketDescription}
    (h : hasFlag pckt.flags F_ICMP = true) : quicEntry maps frame isIpv6 pckt = none :=
  if_neg fun hclient ↦ by rw [h] at hclient; cases hclient.1

theorem quicEntry_of_unparsed {frame : Frame} {isIpv6 : Bool} {pckt : PacketDescription}
    (h : ¬ 0 < (parseQuic frame isIpv6 pckt).serverId.toInt) :
    quicEntry maps frame isIpv6 pckt = none :=
  if_neg fun hparsed ↦ h hparsed.2

theorem quicEntry_of_parsed {frame : Frame} {isIpv6 : Bool} {pckt : PacketDescription}
    (hclient : hasFlag pckt.flags F_ICMP = false)
    (h : 0 < (parseQuic frame isIpv6 pckt).serverId.toInt) :
    quicEntry maps frame isIpv6 pckt =
      serverIdEntry maps (parseQuic frame isIpv6 pckt).serverId :=
  if_pos ⟨hclient, h⟩

theorem ne_zero_of_toInt_pos {key : BitVec 32} (h : 0 < key.toInt) : key ≠ 0 := by
  rintro rfl
  exact absurd h (by decide)

theorem routeQuic_decides {lruMap : LruMap} (hdst : t.dst = none) (hstats : t.quicStats.isSome)
    (hicmp : hasFlag t.pckt.flags F_ICMP = true →
      (t.stats (build.maxVips + QUIC_ICMP_STATS)).isSome) :
    Decides (Eq t) (routeQuic build maps env lruMap)
      (.ofEntry (quicEntry maps env.frame env.isIpv6 t.pckt)) := by
  have hleft {m : Machine} (hm : m.dst = none) : m.dst.elim .left .sent = RoutingOutcome.left := by
    rw [hm]
    rfl
  refine .read_bind_at ?_
  rintro s rfl
  refine .ite (fun hflag ↦ ?_) fun hclient ↦ .read_bind_at ?_
  · rw [quicEntry_of_icmp hflag]
    exact countOrDrop_dst (P := fun dst ↦ dst.elim .left .sent = RoutingOutcome.left) _
      (hleft hdst) (hicmp hflag)
  · rintro s rfl
    refine .exitIf_bind (fun hnone ↦ ?_) fun _ ↦ .ite (fun hpos ↦ ?_) fun hnot ↦ ?_
    · rw [Option.isNone_iff_eq_none.mp hnone] at hstats
      cases hstats
    · rw [quicEntry_of_parsed (Bool.eq_false_of_not_eq_true hclient) hpos]
      refine (routeByCid_decides (ne_zero_of_toInt_pos hpos)).conseq ?_ (fun _ _ h ↦ h)
        fun _ _ h ↦ h
      rintro s rfl
      exact hdst
    · rw [quicEntry_of_unparsed hnot]
      refine .ite (fun _ ↦ .modify ?_) fun _ ↦ .modify ?_
      · rintro s rfl
        exact hleft hdst
      · rintro s rfl
        exact hleft hdst

/-- The lookups by a server id follow the entry of the QUIC path. Stable routing leaves the pointer
to the real as that path has set it. -/
theorem routeByServerId_decides (hdst : t.dst = none) (hstats : t.quicStats.isSome)
    (hicmp : hasFlag t.pckt.flags F_ICMP = true →
      (t.stats (build.maxVips + QUIC_ICMP_STATS)).isSome) :
    Decides (Eq t) (routeByServerId build maps env found.2.1 found.2.2)
      (.ofEntry (if hasFlag found.2.1.flags F_QUIC_VIP then
        quicEntry maps env.frame env.isIpv6 t.pckt else none)) := by
  refine .bind (.when (fun hflag ↦ ?_) fun hnot ↦ ?_) fun _ ↦ .read_bind fun _ _ ↦
    .when (fun _ ↦ .modify fun m hm ↦ ?_) fun _ _ hm ↦ hm
  · rw [if_pos hflag]
    exact routeQuic_decides hdst hstats hicmp
  · rw [if_neg hnot]
    rintro s rfl
    rw [hdst]
    rfl
  · rw [(processUdpStableRouting_kept env.frame env.isIpv6 m).1]
    exact hm

theorem serverIdOutcome_stable (h : StablePacket build maps env m id found t) :
    serverIdOutcome build maps env found t =
      .ofEntry (if hasFlag found.2.1.flags F_QUIC_VIP then
        quicEntry maps env.frame env.isIpv6 t.pckt else none) := by
  have hdecides : Decides (Eq t) (routeByServerId build maps env found.2.1 found.2.2) _ :=
    routeByServerId_decides (dst_of_reaches h.reaches) h.quicStats fun _ ↦ h.icmpStats
  exact hdecides.serverIdOutcome rfl

theorem QuicPacket.serverId (h : QuicPacket build maps env m id found t) :
    (parseQuic env.frame env.isIpv6 t.pckt).serverId = BitVec.ofNat 32 id := by
  have hrange : id < 2 ^ 24 := by
    obtain ⟨connId, -, -, rfl⟩ := h.connId
    exact cidServerId_lt (by decide) (by decide)
  apply BitVec.eq_of_toNat_eq
  rw [parseQuic_serverId h.connId (by decide), BitVec.toNat_ofNat,
    Nat.mod_eq_of_lt (hrange.trans (by decide))]

theorem QuicPacket.quicEntry (h : QuicPacket build maps env m id found t) (hid : 0 < id) :
    quicEntry maps env.frame env.isIpv6 t.pckt = serverIdEntry maps (BitVec.ofNat 32 id) := by
  have hpos : 0 < (parseQuic env.frame env.isIpv6 t.pckt).serverId.toInt :=
    ((parseQuic_routable_iff h.connId (by decide) hid).mpr (Or.inl (by decide))).1
  rw [quicEntry_of_parsed h.client hpos, h.serverId]

theorem serverIdOutcome_quic (h : QuicPacket build maps env m id found t) (hid : 0 < id) :
    serverIdOutcome build maps env found t =
      .ofEntry (serverIdEntry maps (BitVec.ofNat 32 id)) := by
  have hclient : ¬ hasFlag t.pckt.flags F_ICMP = true := by
    rw [h.client]
    decide
  have hdecides : Decides (Eq t) (routeByServerId build maps env found.2.1 found.2.2) _ :=
    routeByServerId_decides (dst_of_reaches h.reaches) h.stats fun hicmp ↦ absurd hicmp hclient
  rw [if_pos h.flag, h.quicEntry hid] at hdecides
  exact hdecides.serverIdOutcome rfl

/-- The two paths agree on a server id if and only if the map does not know it. Where the VIP with
stable routing is one for QUIC as well, they agree if and only if the maps say of the id the same as
of what `parse_quic` reads in the packet. -/
theorem serverIdOutcome_eq_iff {env' : Env} {m' t' : Machine}
    {found' : VipDefinition × VipMeta × LruMap} (hid : 0 < id)
    (hstable : StablePacket build maps env m id found t)
    (hquic : QuicPacket build maps env' m' id found' t') :
    serverIdOutcome build maps env found t = serverIdOutcome build maps env' found' t' ↔
      if hasFlag found.2.1.flags F_QUIC_VIP then
        quicEntry maps env.frame env.isIpv6 t.pckt = serverIdEntry maps (BitVec.ofNat 32 id)
      else maps.serverIdMap (BitVec.ofNat 32 id) = none := by
  rw [serverIdOutcome_stable hstable, serverIdOutcome_quic hquic hid,
    RoutingOutcome.ofEntry_injective.eq_iff]
  cases hasFlag found.2.1.flags F_QUIC_VIP with
  | true => exact Iff.rfl
  | false => exact eq_comm.trans Option.map_eq_none_iff

/-! ## One server id, two packets -/

/-- 10.0.0.1:443 is a QUIC service and 10.0.0.2:443 one with stable routing. Server id 1 has a
position. -/
def twoServices : KernelMaps :=
  { KernelMaps.sample 0 with
    vipMap := fun vip ↦
      if vip = ⟨setIpv4Part 0 0x0a000001, 0xbb01, IPPROTO_UDP⟩ then some ⟨F_QUIC_VIP, 0⟩
      else if vip = ⟨setIpv4Part 0 0x0a000002, 0xbb01, IPPROTO_UDP⟩ then
        some ⟨F_UDP_STABLE_ROUTING_VIP, 1⟩
      else none
    serverIdMap := fun id ↦ if id.toNat < 3 then some id else none }

def stableBuild : Build := { Build.plain with udpStableRouting := true }

def countersMachine : Machine :=
  { Machine.sample with
    lru := fun _ _ ↦ none
    quicStats := some ⟨0, 0, 0, 0, 0, 0, 0, 0, 0, 0, 0, 0, 0⟩
    stableRtStats := some ⟨0, 0, 0, 0, 0⟩ }

def serverIdEnv (frame : Frame) : Env :=
  { Env.tcp frame with
    protocol := IPPROTO_UDP
    flowProto := IPPROTO_UDP }

/-- A QUIC packet with the given server id, below 256. -/
def quicWithId (id : BitVec 8) : Env := serverIdEnv (udpPacket 1 [0x40, 0x80, 0, 0, id, 0, 0, 0, 0])

/-- The packet of stable routing with the same id. -/
def stableWithId (id : BitVec 8) : Env := serverIdEnv (udpPacket 2 [0x52, 0, 0, id, 0, 0, 0, 0])

def quicFound : VipDefinition × VipMeta × LruMap :=
  (⟨setIpv4Part 0 0x0a000001, 0xbb01, IPPROTO_UDP⟩, ⟨F_QUIC_VIP, 0⟩, .core 0)

def stableFound : VipDefinition × VipMeta × LruMap :=
  (⟨setIpv4Part 0 0x0a000002, 0xbb01, IPPROTO_UDP⟩, ⟨F_UDP_STABLE_ROUTING_VIP, 1⟩, .core 0)

/-- The state in which a packet comes to its server id. -/
def reached (env : Env) : Machine :=
  (beforeServerId stableBuild twoServices env countersMachine.start).2

theorem stablePacket_known :
    StablePacket stableBuild twoServices (stableWithId 1) countersMachine 1 stableFound
      (reached (stableWithId 1)) where
  reaches := Prod.ext (by decide +kernel) rfl
  enabled := rfl
  flag := by decide
  proto := by decide +kernel
  header := ⟨42, by decide +kernel, by decide +kernel, by decide +kernel, by decide +kernel⟩
  quicStats := by decide +kernel
  icmpStats := by decide +kernel

theorem quicPacket_known :
    QuicPacket stableBuild twoServices (quicWithId 1) countersMachine 1 quicFound
      (reached (quicWithId 1)) where
  reaches := Prod.ext (by decide +kernel) rfl
  flag := by decide
  client := by decide +kernel
  stats := by decide +kernel
  connId := ⟨43, .short (by decide +kernel) (by decide +kernel), by decide +kernel,
    by decide +kernel⟩

theorem known_id_disagrees :
    serverIdOutcome stableBuild twoServices (stableWithId 1) stableFound
          (reached (stableWithId 1)) =
        serverIdOutcome stableBuild twoServices (quicWithId 1) quicFound (reached (quicWithId 1)) ↔
      twoServices.serverIdMap 1 = none :=
  serverIdOutcome_eq_iff (by decide) stablePacket_known quicPacket_known

/-- Server id 1 has a position and names a real. The QUIC packet is sent there; the packet of stable
routing is left to the ring, and lost. -/
theorem known_id_routed_once :
    StablePacket stableBuild twoServices (stableWithId 1) countersMachine 1 stableFound
        (reached (stableWithId 1)) ∧
      QuicPacket stableBuild twoServices (quicWithId 1) countersMachine 1 quicFound
        (reached (quicWithId 1)) ∧
      serverIdOutcome stableBuild twoServices (quicWithId 1) quicFound (reached (quicWithId 1)) =
        .sent (.sample 1) ∧
      serverIdOutcome stableBuild twoServices (stableWithId 1) stableFound
        (reached (stableWithId 1)) = .left ∧
      ((processPacket stableBuild twoServices (quicWithId 1)).result countersMachine.start).1 =
        .tx ∧
      ((processPacket stableBuild twoServices (stableWithId 1)).result countersMachine.start).1 =
        .drop :=
  ⟨stablePacket_known, quicPacket_known, by decide +kernel, by decide +kernel, by decide +kernel,
    by decide +kernel⟩

end Vsoshlb.DataPlane
