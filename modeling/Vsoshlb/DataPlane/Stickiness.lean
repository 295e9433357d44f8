import Vsoshlb.DataPlane.Classification

/-!
# Known flows

An entry of the LRU map should keep a flow at its real. The lookup finds the entry and sets
`real_index`, but the pointer to the real stays null. So the program takes the flow for a miss, goes
to the ring, finds no real there either, and drops the packet.
-/

namespace Vsoshlb.DataPlane

open EarlyExit

variable (build : Build) (maps : KernelMaps) (env : Env)

/-- A QUIC packet whose server id has a position and names a real. -/
def RoutedByServerId (vipInfo : VipMeta) (pckt : PacketDescription) : Prop :=
  hasFlag vipInfo.flags F_QUIC_VIP = true ∧ hasFlag pckt.flags F_ICMP = false ∧
    0 < (parseQuic env.frame env.isIpv6 pckt).serverId.toInt ∧
    (maps.serverIdMap (parseQuic env.frame env.isIpv6 pckt).serverId).isSome ∧
    (maps.reals (parseQuic env.frame env.isIpv6 pckt).serverId).isSome

/-- The LRU map that the packet of a core is looked up in. -/
def lruMapOf (cpuNum : BitVec 32) : LruMap :=
  (maps.lruMapping cpuNum).elim .fallbackCache .core

/-- From `m` the packet is found to go to the VIP, in state `t`, and the flow has a live entry with
the position of a real. -/
structure KnownFlow (m : Machine) (vip : VipDefinition) (vipInfo : VipMeta) (t : Machine)
    (pos : BitVec 32) (real : RealDefinition) : Prop where
  classified : classify build maps env m.start = (.ok (vip, vipInfo), t)
  noBypass : hasFlag vipInfo.flags F_LRU_BYPASS = false
  noSyn : hasFlag t.pckt.flags F_SYN_SET = false
  unrouted : ¬ RoutedByServerId maps env vipInfo t.pckt
  entry : ∃ atime,
    t.lru (lruMapOf maps env.cpuNum) (hideSourcePort vipInfo t.pckt.flow) = some ⟨pos, atime⟩ ∧
    (t.pckt.flow.proto = IPPROTO_UDP → (env.now - atime).toNat ≤ build.lruUdpTimeout.toNat)
  real : maps.reals pos = some real

/-- The packet goes to the real at the position; neither is the ring asked nor a miss counted. -/
structure Sticks (m after : Machine) (pos : BitVec 32) (real : RealDefinition) : Prop where
  dst : after.dst = some real
  realIndex : after.pckt.realIndex = pos
  noRing : ∀ key, Access.ringLookup key ∉ after.accesses
  noMiss : after.stats (build.maxVips + LRU_MISS_CNTR) = m.stats (build.maxVips + LRU_MISS_CNTR)

/-! ## No function sets the real -/

section Functions

variable {build maps} {m : Machine}

theorem installDst_of_none (key : BitVec 32) (vipInfo : VipMeta) (underFlood : Bool)
    (lruMap : LruMap) (h : m.dst = none) :
    (installDst build key vipInfo underFlood lruMap m).1 = false ∧
      (installDst build key vipInfo underFlood lruMap m).2.dst = none := by
  simp [installDst, incrementChDrop, h]

/-- Without a real at the start there is none at the end. -/
theorem getPacketDst_of_none (key : BitVec 32) (vipInfo : VipMeta) (isIpv6 : Bool)
    (lruMap : LruMap) (h : m.dst = none) :
    (getPacketDst build maps key vipInfo isIpv6 lruMap m).1 = false ∧
      (getPacketDst build maps key vipInfo isIpv6 lruMap m).2.dst = none := by
  have hflood : (isUnderFlood build 0 m).2.dst = none := by
    obtain ⟨f, hf⟩ := @isUnderFlood_snd build 0 m
    rw [hf, Machine.bump_dst, h]
  unfold getPacketDst
  generalize isUnderFlood build 0 m = flood at hflood ⊢
  obtain ⟨underFlood, m₁⟩ := flood
  dsimp only at hflood ⊢
  have hsource : (lookupSource build maps vipInfo isIpv6 underFlood m₁).2.dst = none := by
    obtain ⟨f, hf⟩ := @lookupSource_snd build maps vipInfo isIpv6 underFlood m₁
    rw [hf, Machine.bump_dst, hflood]
  generalize lookupSource build maps vipInfo isIpv6 underFlood m₁ = source at hsource ⊢
  obtain ⟨srcFound, m₂⟩ := source
  dsimp only at hsource ⊢
  cases srcFound with
  | true => exact installDst_of_none key vipInfo underFlood lruMap hsource
  | false =>
    have hhidden : (hashPacket build vipInfo isIpv6 m₂).dst = none := by
      rw [hashPacket_dst, hsource]
    rw [if_neg Bool.false_ne_true]
    generalize hashPacket build vipInfo isIpv6 m₂ = hidden at hhidden ⊢
    split_ifs
    · exact ⟨rfl, hhidden⟩
    · exact ⟨rfl, hhidden⟩
    · exact installDst_of_none key vipInfo underFlood lruMap hhidden

end Functions

/-! ## The program without a real -/

/-- No real so far, and these flags of the packet. -/
def Unrouted (flags : BitVec 8) (m : Machine) : Prop := m.dst = none ∧ m.pckt.flags = flags

/-- Left without a real. A packet that is too big may be answered, any other is dropped. -/
def Lost (action : XdpAction) (m : Machine) : Prop :=
  m.dst = none ∧ (env.frame.length ≤ build.maxPcktSize → action = .drop)

section Unrouted

variable {build maps env} {flags : BitVec 8} {vipInfo : VipMeta}

theorem Unrouted.lost {m : Machine} (h : Unrouted flags m) : Lost build env .drop m :=
  ⟨h.1, fun _ ↦ rfl⟩

theorem countOrDrop_unrouted (key : BitVec 32) (f : LbStats → LbStats) :
    Triple (Unrouted flags) (countOrDrop key f) (fun _ ↦ Unrouted flags) (Lost build env) :=
  countOrDrop_triple (fun _ hs ↦ hs) fun _ hs ↦ hs.lost

theorem rejectTooBig_unrouted (hsize : build.maxPcktSize < env.frame.length) :
    Triple (Unrouted flags) (rejectTooBig build env) (fun _ ↦ Unrouted flags) (Lost build env) :=
  rejectTooBig_triple (fun _ _ _ hs ↦ hs)
    fun _ _ hs ↦ ⟨hs.1, fun hle ↦ absurd hsize (Nat.not_lt.mpr hle)⟩

theorem findLruMap_unrouted :
    Triple (Unrouted flags) (findLruMap build maps env) (fun _ ↦ Unrouted flags)
      (Lost build env) :=
  findLruMap_triple (fun _ _ _ hs ↦ hs) fun _ hs ↦ hs.lost

theorem countQuic_unrouted (f : QuicPacketsStats → QuicPacketsStats) :
    Triple (Unrouted flags) (countQuic f) (fun _ ↦ Unrouted flags) (Lost build env) :=
  .modify fun _ hs ↦ hs

theorem countTpr_unrouted (f : TprPacketsStats → TprPacketsStats) :
    Triple (Unrouted flags) (countTpr f) (fun _ ↦ Unrouted flags) (Lost build env) :=
  .modify fun _ hs ↦ hs

theorem routeByCid_unrouted (lruMap : LruMap) (qpr : QuicParseResult)
    (h : ¬ ((maps.serverIdMap qpr.serverId).isSome ∧ (maps.reals qpr.serverId).isSome)) :
    Triple (Unrouted flags) (routeByCid build maps env lruMap qpr) (fun _ ↦ Unrouted flags)
      (Lost build env) := by
  refine .bind (countQuic_unrouted _) fun _ ↦ ?_
  refine .ite (fun _ ↦ countQuic_unrouted _) fun hid ↦ ?_
  refine .ite (fun _ ↦ countQuic_unrouted _) fun _ ↦ ?_
  have hreal : maps.reals qpr.serverId = none := by
    simpa [Option.isSome_iff_ne_none, Option.isNone_iff_eq_none.not.mp hid] using h
  refine .bind (.modify (Q := fun _ ↦ Unrouted flags) fun s hs ↦ ⟨hreal, hs.2⟩) fun _ ↦ ?_
  refine .bind (.when (Q := fun _ _ ↦ False) (fun _ ↦ ?_) fun hsome ↦ ?_) fun _ _ h ↦ h.elim
  · exact .bind (countQuic_unrouted _) fun _ ↦ .exit fun _ hs ↦ hs.lost
  · simp [hreal] at hsome

theorem routeQuic_unrouted (lruMap : LruMap) (hquic : hasFlag vipInfo.flags F_QUIC_VIP = true)
    {pckt : PacketDescription} (h : ¬ RoutedByServerId maps env vipInfo pckt) :
    Triple (Unrouted pckt.flags) (routeQuic build maps env lruMap) (fun _ ↦ Unrouted pckt.flags)
      (Lost build env) := by
  refine .read_bind fun s hs ↦ .ite (fun _ ↦ countOrDrop_unrouted _ _) fun hicmp ↦ ?_
  have hparse : parseQuic env.frame env.isIpv6 s.pckt = parseQuic env.frame env.isIpv6 pckt := by
    simp only [parseQuic, hs.2]
  refine .read_bind fun _ _ ↦ .exitIf_bind (fun _ _ hs ↦ hs.lost) fun _ ↦ ?_
  refine .ite (fun hid ↦ routeByCid_unrouted lruMap _ ?_) fun _ ↦
    .ite (fun _ ↦ countQuic_unrouted _) fun _ ↦ countQuic_unrouted _
  rw [hparse] at hid ⊢
  rw [hs.2] at hicmp
  exact fun hreal ↦ h ⟨hquic, by simpa using hicmp, hid, hreal⟩

theorem routeByServerId_unrouted (lruMap : LruMap) {pckt : PacketDescription}
    (h : ¬ RoutedByServerId maps env vipInfo pckt) :
    Triple (Unrouted pckt.flags) (routeByServerId build maps env vipInfo lruMap)
      (fun _ ↦ Unrouted pckt.flags) (Lost build env) := by
  refine .bind (.when (fun hquic ↦ routeQuic_unrouted lruMap hquic h) fun _ _ hs ↦ hs) fun _ ↦ ?_
  refine .read_bind fun _ _ ↦ .when (fun _ ↦ .modify fun s hs ↦ ?_) fun _ _ hs ↦ hs
  obtain ⟨hdst, hflags⟩ := processUdpStableRouting_kept env.frame env.isIpv6 s
  exact ⟨hdst.trans hs.1, hflags.trans hs.2⟩

theorem routeTcp_unrouted (lruMap : LruMap) :
    Triple (Unrouted flags) (routeTcp build maps env vipInfo lruMap) (fun _ ↦ Unrouted flags)
      (Lost build env) := by
  refine .read_bind fun _ _ ↦ .when (fun _ ↦ ?_) fun _ _ hs ↦ hs
  refine .read_bind fun _ _ ↦ .exitIf_bind (fun _ _ hs ↦ hs.lost) fun _ ↦ ?_
  refine .ite (fun _ ↦ countTpr_unrouted _) fun _ ↦ ?_
  refine .bind (.act (Q := fun found s ↦ found = false ∧ Unrouted flags s) fun s hs ↦ ?_)
    fun found ↦ ?_
  · rw [tcpHdrOptLookup_eq]
    exact ⟨rfl, hs⟩
  · refine .ite (fun hfound s hs ↦ ?_) fun _ ↦ (countTpr_unrouted _).conseq (fun _ hs ↦ hs.2)
      (fun _ _ h ↦ h) fun _ _ h ↦ h
    rw [hs.1] at hfound
    cases hfound

theorem connectionTableLookup_unrouted (now : BitVec 64) (lruMap : LruMap) (isGlobalLru : Bool) :
    Triple (Unrouted flags) (Prog.modify (connectionTableLookup build now lruMap isGlobalLru))
      (fun _ ↦ Unrouted flags) (Lost build env) := by
  refine .modify fun s hs ↦ ?_
  obtain ⟨hdst, hflags⟩ := @connectionTableLookup_kept build now lruMap isGlobalLru s
  exact ⟨hdst.trans hs.1, hflags.trans hs.2⟩

theorem performGlobalLruLookup_unrouted (cpuNum : BitVec 32) (now : BitVec 64) :
    Triple (Unrouted flags) (performGlobalLruLookup build maps cpuNum now)
      (fun _ ↦ Unrouted flags) (Lost build env) := by
  have hmap : Triple (Unrouted flags) (findGlobalLruMap build maps cpuNum)
      (fun _ ↦ Unrouted flags) (Lost build env) := by
    unfold findGlobalLruMap
    split
    · exact .pure fun _ hs ↦ hs
    · exact .bind (.modify (Q := fun _ ↦ Unrouted flags) fun _ hs ↦ hs) fun _ ↦ .pure fun _ hs ↦ hs
  refine .read_bind fun _ _ ↦ .exitIf_bind (fun _ _ hs ↦ hs.lost) fun _ ↦ ?_
  refine .bind hmap fun _ ↦ .bind (connectionTableLookup_unrouted now _ true) fun _ ↦ ?_
  exact .read_bind fun _ _ ↦ .when (fun _ ↦ .modify fun _ hs ↦ hs) fun _ _ hs ↦ hs

/-- Without a real, consistent hashing is the end of the packet. -/
theorem routeByHash_unrouted (vip : VipDefinition) (lruMap : LruMap) :
    Triple (Unrouted flags) (routeByHash build maps env vip vipInfo lruMap) (fun _ _ ↦ False)
      (Lost build env) := by
  refine .read_bind fun _ _ ↦ ?_
  refine .bind (.when (fun _ ↦ countOrDrop_unrouted _ _) fun _ _ hs ↦ hs) fun _ ↦ ?_
  refine .bind (.act (Q := fun found s ↦ found = false ∧ s.dst = none) fun s hs ↦
    getPacketDst_of_none env.key vipInfo env.isIpv6 lruMap hs.1) fun found ↦ ?_
  exact .exitIf_bind (fun _ _ hs ↦ ⟨hs.2, fun _ ↦ rfl⟩) fun hfound _ hs ↦ absurd hs.1 hfound

theorem selectReal_unrouted (vip : VipDefinition) (lruMap : LruMap) :
    Triple (Unrouted flags) (selectReal build maps env vip vipInfo lruMap) (fun _ _ ↦ False)
      (Lost build env) := by
  refine .bind (.when (fun _ ↦ routeTcp_unrouted lruMap) fun _ _ hs ↦ hs) fun _ ↦ ?_
  refine .read_bind fun _ _ ↦
    .bind (.when (fun _ ↦ connectionTableLookup_unrouted _ _ _) fun _ _ hs ↦ hs) fun _ ↦ ?_
  refine .read_bind fun _ _ ↦
    .bind (.when (fun _ ↦ performGlobalLruLookup_unrouted _ _) fun _ _ hs ↦ hs) fun _ ↦ ?_
  refine .read_bind fun s hs ↦ .when (fun _ ↦ routeByHash_unrouted vip lruMap) fun hsome ↦ ?_
  simp [hs.1] at hsome

/-- A packet that no server id routes is lost. -/
theorem balance_unrouted (vip : VipDefinition) {pckt : PacketDescription}
    (h : ¬ RoutedByServerId maps env vipInfo pckt) :
    Triple (Unrouted pckt.flags) (balance build maps env vip vipInfo) (Lost build env)
      (Lost build env) := by
  refine .bind (.when (fun hsize ↦ rejectTooBig_unrouted hsize) fun _ _ hs ↦ hs) fun _ ↦ ?_
  refine .bind (countOrDrop_unrouted _ _) fun _ ↦ ?_
  refine .bind (.modify (Q := fun _ ↦ Unrouted pckt.flags) fun _ hs ↦ hs) fun _ ↦ ?_
  refine .bind findLruMap_unrouted fun lruMap ↦ .bind (routeByServerId_unrouted lruMap h) fun _ ↦ ?_
  refine .read_bind fun _ _ ↦ .read_bind fun s hs ↦ ?_
  refine .bind (.when (Q := fun _ _ ↦ False) (fun _ ↦ selectReal_unrouted vip lruMap)
    fun hsome ↦ ?_) fun _ _ h ↦ h.elim
  simp [hs.1] at hsome

end Unrouted

/-! ## The fate of a known flow -/

variable {build maps env}

/-- No known flow sticks to its real: its packets are dropped, but for those that are too big, which
the program may answer. -/
theorem knownFlow_not_sticks {m : Machine} {vip : VipDefinition} {vipInfo : VipMeta} {t : Machine}
    {pos : BitVec 32} {real : RealDefinition}
    (h : KnownFlow build maps env m vip vipInfo t pos real) :
    ¬ Sticks build m ((processPacket build maps env).result m.start).2 pos real ∧
      (env.frame.length ≤ build.maxPcktSize →
        ((processPacket build maps env).result m.start).1 = .drop) := by
  have hdst : t.dst = none := (classify_sameRouting.ok (.refl m.start) h.classified).1
  have hlost : Lost build env ((balance build maps env vip vipInfo).result t).1
      ((balance build maps env vip vipInfo).result t).2 :=
    (balance_unrouted vip h.unrouted).result ⟨hdst, rfl⟩
  have hrun : (processPacket build maps env).result m.start =
      (balance build maps env vip vipInfo).result t := by
    rw [processPacket, Prog.result_bind h.classified]
  rw [hrun]
  refine ⟨fun hsticks ↦ ?_, hlost.2⟩
  have hnone := hlost.1
  rw [hsticks.dst] at hnone
  cases hnone

/-- The state in which the small data plane has found the VIP of the packet. -/
def classifiedAck : Machine := (classify .plain (.sample 0) (.tcp .ack) Machine.sample.start).2

theorem ack_knownFlow :
    KnownFlow .plain (.sample 0) (.tcp .ack) .sample ⟨setIpv4Part 0 0x0a000001, 0x5000, IPPROTO_TCP⟩
      ⟨0, 0⟩ classifiedAck 1 (.sample 1) where
  classified := Prod.ext (by decide +kernel) rfl
  noBypass := by decide +kernel
  noSyn := by decide +kernel
  unrouted h := absurd h.1 (by decide +kernel)
  entry := ⟨1000, rfl, fun _ ↦ by decide +kernel⟩
  real := by decide +kernel

/-- What becomes of the packet. -/
def ackResult : XdpAction × Machine :=
  (processPacket .plain (.sample 0) (.tcp .ack)).result Machine.sample.start

theorem ack_not_sticks :
    ¬ Sticks .plain .sample ackResult.2 1 (.sample 1) ∧ ackResult.1 = .drop := by
  obtain ⟨hsticks, hdrop⟩ := knownFlow_not_sticks ack_knownFlow
  exact ⟨hsticks, hdrop (by decide +kernel)⟩

/-- The LRU map has position 1 for the flow. The program asks the ring all the same, counts a miss
and drops the packet. -/
theorem known_ack_is_lost :
    KnownFlow .plain (.sample 0) (.tcp .ack) .sample ⟨setIpv4Part 0 0x0a000001, 0x5000, IPPROTO_TCP⟩
        ⟨0, 0⟩ classifiedAck 1 (.sample 1) ∧
      ackResult.1 = .drop ∧ ackResult.2.dst = none ∧ Access.ringLookup 5 ∈ ackResult.2.accesses ∧
      ackResult.2.stats (512 + LRU_MISS_CNTR) = some ⟨0, 1⟩ ∧
      ¬ Sticks .plain .sample ackResult.2 1 (.sample 1) := by
  have hdst : ackResult.2.dst = none := by decide +kernel
  refine ⟨ack_knownFlow, by decide +kernel, hdst, by decide +kernel, by decide +kernel, ?_⟩
  intro hsticks
  rw [hsticks.dst] at hdst
  cases hdst

end Vsoshlb.DataPlane
