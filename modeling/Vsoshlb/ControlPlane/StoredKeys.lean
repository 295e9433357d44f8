import Vsoshlb.ControlPlane.LruAdmin
import Vsoshlb.DataPlane.LruKeys
import Vsoshlb.DataPlane.Stickiness

/-!
# What the administration finds

The forwarding program stores a connection under what the flags of its VIP leave of the packet. The
administration builds the key from the VIP and the client and ignores the flags. Where the two keys
agree, the connection is found, deleted and purged.
-/

namespace Vsoshlb

open DataPlane

/-! ## The two places that store -/

/-- A call that may store a connection: `check_and_update_real_index_in_lru` for a packet with a
server id, or `get_packet_dst`. -/
inductive StoreCall where
  | serverId (curTime : BitVec 64)
  | ring (key : BitVec 32)

namespace StoreCall

variable (build : Build) (maps : KernelMaps) (vipInfo : VipMeta) (isIpv6 : Bool)

def run (lruMap : LruMap) (m : Machine) : StoreCall → Machine
  | serverId curTime => (checkAndUpdateRealIndexInLru build curTime lruMap m).2
  | ring key => (getPacketDst build maps key vipInfo isIpv6 lruMap m).2

/-- The call hides the source of the flow. -/
def HidesSource (flow : FlowKey) : StoreCall → Prop
  | serverId _ => False
  | ring _ => ¬ SourceRouted build maps vipInfo isIpv6 flow ∧
      hasFlag vipInfo.flags F_HASH_DPORT_ONLY = true

variable {build maps vipInfo isIpv6}

theorem update {call : StoreCall} {m : Machine} {lruMap lruMap' : LruMap} {g : FlowKey}
    {entry : RealPosLru}
    (h : Access.lruUpdate lruMap' g entry ∈
      newAccesses m (call.run build maps vipInfo isIpv6 lruMap m)) :
    (call.HidesSource build maps vipInfo isIpv6 m.pckt.flow → g = hideSource m.pckt.flow) ∧
      (¬ call.HidesSource build maps vipInfo isIpv6 m.pckt.flow → g = m.pckt.flow) := by
  cases call with
  | serverId curTime =>
    exact ⟨fun hfalse ↦ hfalse.elim, fun _ ↦ checkAndUpdateRealIndexInLru_update h⟩
  | ring key =>
    have hg := (getPacketDst_update h).2.1
    exact ⟨fun hhidden ↦ hg.trans (if_pos hhidden), fun hkept ↦ hg.trans (if_neg hkept)⟩

end StoreCall

/-! ## The two keys -/

/-- The descriptors are those of the maps that the forwarding program uses. -/
structure LruFds.Attached (fds : LruFds) (maps : KernelMaps) : Prop where
  core : ∀ cpuNum fd, maps.lruMapping cpuNum = some fd → 0 < fd ∧ (fd : ℤ) ∈ fds.lruMapsFd
  fallback : 0 < fds.fallbackFd

theorem LruFds.Attached.source {fds : LruFds} {maps : KernelMaps} (h : fds.Attached maps)
    (cpuNum : BitVec 32) : ∃ name, (name, lruMapOf maps cpuNum) ∈ fds.sources := by
  unfold lruMapOf sources
  cases hfd : maps.lruMapping cpuNum with
  | none =>
    rw [if_pos h.fallback]
    exact ⟨"fallback", List.mem_append_right _ (List.mem_singleton.mpr rfl)⟩
  | some fd =>
    obtain ⟨hpos, hmem⟩ := h.core cpuNum fd hfd
    obtain ⟨cpu, hcpu, hget⟩ := List.getElem_of_mem hmem
    refine ⟨"cpu" ++ toString cpu, List.mem_append_left _ (List.mem_map.mpr ⟨(fd, cpu), ?_, ?_⟩)⟩
    · rw [List.mem_filter]
      exact ⟨List.mem_zipIdx_iff_getElem?.mpr (by simp [hcpu, hget]), by simpa using hpos⟩
    · simp

/-- What an operator who names the VIP and the client achieves for a connection stored under `g`. -/
structure Administered (folly : Folly) (maps : KernelMaps) (lruMap : LruMap) (g : FlowKey)
    (dstVip : VipKey) (srcIp : String) (srcPort : BitVec 16) : Prop where
  key : flowKeyFromParams folly dstVip srcIp srcPort = some g
  search : ∀ (fds : LruFds) (tables : Tables) (currentTimeNs : BitVec 64) (lru : LruMaps),
    fds.Attached maps → lru.outcomes = [] → ∀ real, (lru.tables lruMap).lookup g = some real →
    ∃ entry ∈ (searchLru folly fds tables currentTimeNs dstVip srcIp srcPort lru).1.entries,
      entry.realPos = real.pos ∧ entry.atime = real.atime
  delete : ∀ (fds : LruFds) (lru : LruMaps), fds.Attached maps → lru.outcomes = [] →
    g ∈ (lru.tables lruMap).keys →
    (deleteLru folly fds dstVip srcIp srcPort lru).1 ≠ [] ∧
      g ∉ ((deleteLru folly fds dstVip srcIp srcPort lru).2.tables lruMap).keys
  filter : ∃ filter, flowKeyFromParams folly dstVip "::0" 0 = some filter ∧
    matchesFilter filter g = true
  purge : ∀ (kLruMaxLookups : ℕ) (fds : LruFds) (lru : LruMaps), 0 < kLruMaxLookups →
    fds.Attached maps → (∀ lruMap, ⟨0, 0, 0, 0, 0⟩ ∉ (lru.tables lruMap).keys) →
    (purgeVipLru folly kLruMaxLookups fds dstVip lru).1.error = "" →
    g ∉ ((purgeVipLru folly kLruMaxLookups fds dstVip lru).2.tables lruMap).keys

section Agreement

variable {folly : Folly} {maps : KernelMaps} {dstVip : VipKey} {srcIp : String}
variable {srcPort : BitVec 16} {g : FlowKey}

/-- The key of a purge differs from the key of a client in the client. -/
theorem matchesFilter_of_key (hdummy : folly.parse "::0" = some (.v6 0))
    (hkey : flowKeyFromParams folly dstVip srcIp srcPort = some g) :
    ∃ filter, flowKeyFromParams folly dstVip "::0" 0 = some filter ∧
      matchesFilter filter g = true := by
  unfold flowKeyFromParams at hkey ⊢
  cases hvip : folly.parse dstVip.address with
  | none =>
    rw [hvip] at hkey
    cases hkey
  | some vip =>
    cases hsrc : folly.parse srcIp with
    | none =>
      rw [hvip, hsrc] at hkey
      cases hkey
    | some src =>
      rw [hvip, hsrc] at hkey
      obtain rfl := Option.some.inj hkey
      rw [hdummy]
      exact ⟨_, rfl, by simp [matchesFilter]⟩

/-- A connection stored under the key that the administration builds can be administered. -/
theorem administered_of_key (hdummy : folly.parse "::0" = some (.v6 0))
    (hkey : flowKeyFromParams folly dstVip srcIp srcPort = some g) (cpuNum : BitVec 32) :
    Administered folly maps (lruMapOf maps cpuNum) g dstVip srcIp srcPort where
  key := hkey
  search fds tables currentTimeNs lru hfds hok real hreal := by
    obtain ⟨name, hsource⟩ := hfds.source cpuNum
    obtain ⟨entry, hentry, -, hpos, hatime⟩ :=
      @searchLru_found folly tables g fds lru hok dstVip srcIp srcPort hkey currentTimeNs _ hsource
        real hreal
    exact ⟨entry, hentry, hpos, hatime⟩
  delete fds lru hfds hok hmem := by
    obtain ⟨name, hsource⟩ := hfds.source cpuNum
    obtain ⟨hgone, hreported⟩ := deleteLru_gone hok hkey hsource
    exact ⟨hreported hmem, hgone⟩
  filter := matchesFilter_of_key hdummy hkey
  purge kLruMaxLookups fds lru hlookups hfds hzero hok := by
    obtain ⟨name, hsource⟩ := hfds.source cpuNum
    obtain ⟨filter, hfilter, hmatch⟩ := matchesFilter_of_key hdummy hkey
    exact purgeVipLru_gone hlookups hzero hfilter hok hsource hmatch

/-! ## When the keys agree -/

/-- The packet keeps its tuple up to the call that stores it: the port of the VIP is the one the
packet is stored with, and the source is neither cut down to its address nor hidden. -/
structure KeepsTuple (build : Build) (maps : KernelMaps) (vipInfo : VipMeta) (isIpv6 : Bool)
    (fiveTuple flow : FlowKey) (call : StoreCall) : Prop where
  port : (maps.vipMap (vipDefinition isIpv6 fiveTuple)).isSome ∨
    hasFlag vipInfo.flags F_HASH_DPORT_ONLY = false ∧
      hasFlag vipInfo.flags F_HASH_SRC_DST_PORT = false
  source : ¬ call.HidesSource build maps vipInfo isIpv6 flow →
    hasFlag vipInfo.flags F_HASH_NO_SRC_PORT = false ∨ fiveTuple.sport = 0
  hidden : call.HidesSource build maps vipInfo isIpv6 flow →
    fiveTuple.src = 0 ∧ fiveTuple.sport = flow.dport

/-- The administration builds the key of the packet from its source and its VIP. -/
theorem flowKeyFromParams_eq {vip : VipDefinition} {src : IPAddress} {fiveTuple : FlowKey}
    (hvip : vipKeyToVipDefinition folly dstVip = some vip) (hsrc : folly.parse srcIp = some src)
    (haddr : (parseAddrToBe src).addr = fiveTuple.src)
    (hport : bigEndian srcPort = fiveTuple.sport) :
    flowKeyFromParams folly dstVip srcIp srcPort =
      some ⟨fiveTuple.src, vip.addr, fiveTuple.sport, vip.port, vip.proto⟩ := by
  obtain ⟨address, haddress, rfl⟩ := Option.map_eq_some_iff.mp hvip
  simp only [flowKeyFromParams, haddress, hsrc, haddr, hport]

/-- The port of the VIP is the port in the key, but for a VIP without a port that keeps the
ports. -/
theorem matched_dport_iff {isIpv6 : Bool} {fiveTuple matched : FlowKey} {vip : VipDefinition}
    {vipInfo : VipMeta} (h : findVip maps isIpv6 fiveTuple = some (vip, vipInfo, matched)) :
    vip.port = matched.dport ↔ (maps.vipMap (vipDefinition isIpv6 fiveTuple)).isSome ∨
      hasFlag vipInfo.flags F_HASH_DPORT_ONLY = false ∧
        hasFlag vipInfo.flags F_HASH_SRC_DST_PORT = false := by
  rcases findVip_cases h with ⟨hown, rfl, rfl⟩ | ⟨hnone, hport, rfl, rfl⟩
  · exact ⟨fun _ ↦ Or.inl hown, fun _ ↦ rfl⟩
  · rw [hnone]
    split_ifs with hflags
    · exact ⟨fun _ ↦ Or.inr hflags, fun _ ↦ rfl⟩
    · constructor
      · intro hzero
        exact absurd hzero.symm hport
      · rintro (hsome | hboth)
        · cases hsome
        · exact absurd hboth hflags

theorem findVip_kept {isIpv6 : Bool} {fiveTuple matched : FlowKey} {vip : VipDefinition}
    {vipInfo : VipMeta} (h : findVip maps isIpv6 fiveTuple = some (vip, vipInfo, matched)) :
    vip.addr = (vipDefinition isIpv6 fiveTuple).addr ∧ vip.proto = fiveTuple.proto ∧
      matched.src = fiveTuple.src ∧ matched.dst = fiveTuple.dst ∧
      matched.sport = fiveTuple.sport ∧ matched.proto = fiveTuple.proto := by
  rcases findVip_cases h with ⟨-, rfl, rfl⟩ | ⟨-, -, rfl, rfl⟩
  · exact ⟨rfl, rfl, rfl, rfl, rfl, rfl⟩
  · split_ifs
    · exact ⟨rfl, rfl, rfl, rfl, rfl, rfl⟩
    · exact ⟨rfl, rfl, rfl, rfl, rfl, rfl⟩

theorem key_eq_stored_iff {build : Build} {isIpv6 : Bool} {fiveTuple matched : FlowKey}
    {vip : VipDefinition} {vipInfo : VipMeta}
    (hvip : findVip maps isIpv6 fiveTuple = some (vip, vipInfo, matched))
    (haddr : vip.addr = fiveTuple.dst) {call : StoreCall}
    (hhidden : call.HidesSource build maps vipInfo isIpv6 (hideSourcePort vipInfo matched) →
      g = hideSource (hideSourcePort vipInfo matched))
    (hkept : ¬ call.HidesSource build maps vipInfo isIpv6 (hideSourcePort vipInfo matched) →
      g = hideSourcePort vipInfo matched) :
    (⟨fiveTuple.src, vip.addr, fiveTuple.sport, vip.port, vip.proto⟩ : FlowKey) = g ↔
      KeepsTuple build maps vipInfo isIpv6 fiveTuple (hideSourcePort vipInfo matched) call := by
  obtain ⟨-, hproto, hsrc, hdst, hsport, hproto'⟩ := findVip_kept hvip
  have hport := matched_dport_iff hvip
  have hflow : hideSourcePort vipInfo matched = ⟨fiveTuple.src, fiveTuple.dst,
      if hasFlag vipInfo.flags F_HASH_NO_SRC_PORT then 0 else fiveTuple.sport, matched.dport,
      fiveTuple.proto⟩ := by
    rw [hideSourcePort, ← hsrc, ← hdst, ← hsport, ← hproto']
    split_ifs
    · rfl
    · rfl
  by_cases hcall : call.HidesSource build maps vipInfo isIpv6 (hideSourcePort vipInfo matched)
  · rw [hhidden hcall, hideSource, haddr, hproto]
    constructor
    · intro heq
      rw [hflow] at heq
      injection heq with hsrc' _ hsport' hport' _
      refine ⟨hport.mp hport', fun hnot ↦ absurd hcall hnot, fun _ ↦ ⟨hsrc', ?_⟩⟩
      rw [hsport', hflow]
    · intro hkeeps
      obtain ⟨hsrc', hsport'⟩ := hkeeps.hidden hcall
      rw [hsrc', hsport', hport.mpr hkeeps.port, hflow]
  · rw [hkept hcall, haddr, hproto]
    constructor
    · intro heq
      rw [hflow] at heq
      injection heq with _ _ hsport' hport' _
      refine ⟨hport.mp hport', fun _ ↦ ?_, fun hhides ↦ absurd hhides hcall⟩
      by_cases hflag : hasFlag vipInfo.flags F_HASH_NO_SRC_PORT = true
      · rw [if_pos hflag] at hsport'
        exact Or.inr hsport'
      · exact Or.inl (Bool.eq_false_of_not_eq_true hflag)
    · intro hkeeps
      rw [hport.mpr hkeeps.port, hflow]
      congr 1
      rcases hkeeps.source hcall with hflag | hzero
      · rw [hflag, if_neg Bool.false_ne_true]
      · rw [hzero]
        split_ifs
        · rfl
        · rfl

/-- A stored connection can be administered if and only if its packet kept its tuple. -/
theorem stored_administered_iff (hdummy : folly.parse "::0" = some (.v6 0)) {build : Build}
    {env : Env} {m t : Machine} (hparse : parseHeaders build maps env m.start = (.ok (), t))
    (hclient : hasFlag t.pckt.flags F_ICMP = false) {vip : VipDefinition} {vipInfo : VipMeta}
    {matched : FlowKey}
    (hmatch : findVip maps env.isIpv6 t.pckt.flow = some (vip, vipInfo, matched))
    (hvip : vipKeyToVipDefinition folly dstVip = some vip) {src : IPAddress}
    (hsrc : folly.parse srcIp = some src) (haddr : (parseAddrToBe src).addr = t.pckt.flow.src)
    (hport : bigEndian srcPort = t.pckt.flow.sport) {call : StoreCall} {m' : Machine}
    (hm' : m'.pckt.flow = hideSourcePort vipInfo matched) {lruMap : LruMap} {entry : RealPosLru}
    (hstore : Access.lruUpdate lruMap g entry ∈
      newAccesses m' (call.run build maps vipInfo env.isIpv6 (lruMapOf maps env.cpuNum) m')) :
    Administered folly maps (lruMapOf maps env.cpuNum) g dstVip srcIp srcPort ↔
      KeepsTuple build maps vipInfo env.isIpv6 t.pckt.flow (hideSourcePort vipInfo matched)
        call := by
  have hdst : vip.addr = t.pckt.flow.dst := by
    rw [(findVip_kept hmatch).1, vipDefinition]
    by_cases hfamily : env.isIpv6 = true
    · rw [hfamily, if_pos rfl]
    · rw [if_neg hfamily]
      exact (isIpv4_of_parseHeaders hparse hclient (Bool.eq_false_of_not_eq_true hfamily)).2
  have hkey := flowKeyFromParams_eq hvip hsrc haddr hport
  have hstored := StoreCall.update hstore
  rw [hm'] at hstored
  rw [← key_eq_stored_iff hmatch hdst hstored.1 hstored.2]
  constructor
  · intro h
    exact Option.some.inj (hkey.symm.trans h.key)
  · intro heq
    exact administered_of_key hdummy (heq ▸ hkey) env.cpuNum

end Agreement

/-! ## A service on every port -/

/-- A QUIC packet from 192.0.2.7:40000 to 10.0.0.1:443 whose connection id has server id 1. -/
def quicFrame : Frame :=
  List.replicate 12 0 ++ [0x08, 0x00] ++
    [0x45, 0x00, 0x00, 0x25, 0x00, 0x00, 0x00, 0x00, 0x40, 0x11, 0x00, 0x00,
      192, 0, 2, 7, 10, 0, 0, 1] ++
    [0x9c, 0x40, 0x01, 0xbb, 0, 17, 0, 0] ++ [0x40, 0x80, 0, 0, 1, 0, 0, 0, 0]

def quicEnv : Env where
  frame := quicFrame
  nhOff := ethhdrSize
  isIpv6 := false
  cpuNum := 0
  now := 1000
  adjustTail := true
  adjustHead := true
  encap := true
  decap := .pass
  protocol := IPPROTO_UDP
  flowProto := IPPROTO_UDP
  thOff := ethhdrSize + iphdrSize
  pktBytes := 37
  key := 5
  curTime := 5

/-- The service 10.0.0.1 takes every port, and server id 1 has a position. -/
def everyPortMaps (flags : BitVec 32) : KernelMaps :=
  { KernelMaps.sample flags with
    vipMap := fun vip ↦
      if vip = ⟨setIpv4Part 0 0x0a000001, 0, IPPROTO_UDP⟩ then some ⟨flags, 0⟩ else none
    serverIdMap := fun id ↦ if id = 1 then some 1 else none }

/-- Counters at zero and empty LRU maps. -/
def emptyMachine : Machine :=
  { Machine.sample with
    lru := fun _ _ ↦ none
    quicStats := some ⟨0, 0, 0, 0, 0, 0, 0, 0, 0, 0, 0, 0, 0⟩ }

/-- What the headers say of the packet. -/
def parsedQuic (flags : BitVec 32) : Machine :=
  (parseHeaders .plain (everyPortMaps flags) quicEnv emptyMachine.start).2

/-- What becomes of the packet. -/
def quicResult (flags : BitVec 32) : Machine :=
  ((processPacket .plain (everyPortMaps flags) quicEnv).result emptyMachine.start).2

/-- The key of the connection with the given port of the service. -/
def quicKey (dport : BitVec 16) : FlowKey :=
  ⟨setIpv4Part 0 0xc0000207, setIpv4Part 0 0x0a000001, 0x409c, dport, IPPROTO_UDP⟩

def quicTexts : Folly :=
  .ofTexts [("10.0.0.1", .v4 0x0a000001), ("192.0.2.7", .v4 0xc0000207), ("::0", .v6 0)]

def quicVip : VipKey := ⟨"10.0.0.1", 0, IPPROTO_UDP⟩

/-- A service that forgets the port of its packets. -/
theorem quic_administered :
    Administered quicTexts (everyPortMaps F_QUIC_VIP) (.core 0) (quicKey 0) quicVip "192.0.2.7"
      40000 :=
  (@stored_administered_iff quicTexts (everyPortMaps F_QUIC_VIP) quicVip "192.0.2.7" 40000
    (quicKey 0) (by decide +kernel) .plain quicEnv emptyMachine (parsedQuic F_QUIC_VIP)
    (Prod.ext (by decide +kernel) rfl) (by decide +kernel)
    ⟨setIpv4Part 0 0x0a000001, 0, IPPROTO_UDP⟩ ⟨F_QUIC_VIP, 0⟩ (quicKey 0) (by decide +kernel)
    (by decide +kernel) (.v4 0xc0000207) (by decide +kernel) (by decide +kernel) (by decide +kernel)
    (.serverId 5) { emptyMachine with pckt := ⟨quicKey 0, 1, 0, 0⟩ } (by decide +kernel) (.core 0)
    ⟨1, 0⟩ (by decide +kernel)).mpr
    { port := Or.inr (by decide +kernel)
      source := fun _ ↦ Or.inl (by decide +kernel)
      hidden := fun h ↦ h.elim }

/-- A service on every port that hashes both ports. The connection of the packet is stored with port
443, the administration looks for port 0, and a purge of the service passes it by. -/
theorem every_port_not_administered :
    Access.lruUpdate (.core 0) (quicKey 0xbb01) ⟨1, 0⟩ ∈
        (quicResult (F_QUIC_VIP ||| F_HASH_SRC_DST_PORT)).accesses ∧
      flowKeyFromParams quicTexts quicVip "192.0.2.7" 40000 = some (quicKey 0) ∧
      matchesFilter (quicKey 0) (quicKey 0xbb01) = false ∧
      ¬ Administered quicTexts (everyPortMaps (F_QUIC_VIP ||| F_HASH_SRC_DST_PORT)) (.core 0)
        (quicKey 0xbb01) quicVip "192.0.2.7" 40000 := by
  have hkey : flowKeyFromParams quicTexts quicVip "192.0.2.7" 40000 = some (quicKey 0) := by
    decide +kernel
  refine ⟨by decide +kernel, hkey, by decide +kernel, fun h ↦ ?_⟩
  have heq := Option.some.inj (hkey.symm.trans h.key)
  exact absurd heq (by decide +kernel)

end Vsoshlb
