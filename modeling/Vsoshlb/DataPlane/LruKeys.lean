import Vsoshlb.DataPlane.RoutingSteps

/-!
# The keys of the LRU maps

A flow is looked up under the key that is left of it after its VIP has been found. On the way to
the ring `get_packet_dst` may hide its source, and then stores the new connection under that key,
which no packet of the flow is looked up with. `check_and_update_real_index_in_lru` stores under the
key it looks up.

`get_packet_dst` stores only where the pointer to the real is set. What is said of it here holds for
every value of the pointer and of the variable `key`.
-/

namespace Vsoshlb.DataPlane

open EarlyExit

variable (build : Build) (maps : KernelMaps) (env : Env)

/-- The VIP of a packet with the given five-tuple, and the key the packet is looked up with. -/
def lookupFlow (isIpv6 : Bool) (fiveTuple : FlowKey) : Option (VipMeta × FlowKey) :=
  (findVip maps isIpv6 fiveTuple).map fun (_, vipInfo, matched) ↦
    (vipInfo, hideSourcePort vipInfo matched)

/-- `get_packet_dst` finds a rule for the source. -/
def SourceRouted (vipInfo : VipMeta) (isIpv6 : Bool) (flow : FlowKey) : Prop :=
  build.lpmSrcLookup = true ∧ hasFlag vipInfo.flags F_SRC_ROUTING = true ∧
    (lpmVal maps isIpv6 flow).isSome

instance (vipInfo : VipMeta) (isIpv6 : Bool) (flow : FlowKey) :
    Decidable (SourceRouted build maps vipInfo isIpv6 flow) :=
  inferInstanceAs (Decidable (_ ∧ _ ∧ _))

/-- The key under which `get_packet_dst` stores a new connection. -/
def storedFlow (vipInfo : VipMeta) (isIpv6 : Bool) (flow : FlowKey) : FlowKey :=
  if ¬ SourceRouted build maps vipInfo isIpv6 flow ∧ hasFlag vipInfo.flags F_HASH_DPORT_ONLY then
    hideSource flow
  else
    flow

/-- What a call adds to the list of accesses. -/
def newAccesses (m after : Machine) : List Access := after.accesses.drop m.accesses.length

/-- So far LRU maps were looked up under this key only. -/
def LookedUpUnder (flow : FlowKey) (m : Machine) : Prop :=
  ∀ lruMap k, Access.lruLookup lruMap k ∈ m.accesses → k = flow

/-- A lookup is under `flow`, an update under `flow` or `stored`. -/
def Access.Under (flow stored : FlowKey) : Access → Prop
  | .ringLookup _ => True
  | .lruLookup _ k => k = flow
  | .lruUpdate _ k _ => k = flow ∨ k = stored

def AccessedUnder (flow stored : FlowKey) (m : Machine) : Prop :=
  ∀ access ∈ m.accesses, access.Under flow stored

/-- The packet has the key `flow`, and what was accessed was under it or under `stored`. -/
def KeyedBy (flow stored : FlowKey) (m : Machine) : Prop :=
  m.pckt.flow = flow ∧ AccessedUnder flow stored m

/-- The entry is stored under the key of the next packet of the flow, which finds it. -/
def StoredForNext (after : Machine) (lruMap : LruMap) (g : FlowKey) (entry : RealPosLru)
    (flow : FlowKey) : Prop :=
  g = flow ∧ after.lru lruMap flow = some entry

section Stores

variable {build maps} {m : Machine} {vipInfo : VipMeta} {isIpv6 : Bool} {lruMap : LruMap}
variable {key : BitVec 32}

theorem hideSource_eq_self_iff {flow : FlowKey} :
    hideSource flow = flow ↔ flow.sport = flow.dport ∧ flow.src = 0 := by
  constructor
  · intro h
    exact ⟨(congrArg FlowKey.sport h).symm, (congrArg FlowKey.src h).symm⟩
  · rintro ⟨hsport, hsrc⟩
    obtain ⟨src, dst, sport, dport, proto⟩ := flow
    simp only at hsport hsrc
    rw [hideSource, hsport, hsrc]

theorem storedFlow_eq_self_iff {flow : FlowKey} :
    storedFlow build maps vipInfo isIpv6 flow = flow ↔
      hasFlag vipInfo.flags F_HASH_DPORT_ONLY = false ∨
        SourceRouted build maps vipInfo isIpv6 flow ∨ flow.sport = flow.dport ∧ flow.src = 0 := by
  unfold storedFlow
  split_ifs with h
  · rw [hideSource_eq_self_iff]
    simp [h.1, h.2]
  · rw [not_and_or, not_not, Bool.not_eq_true] at h
    simp only [true_iff]
    rcases h with h | h
    · exact Or.inr (Or.inl h)
    · exact Or.inl h

/-- The end of `get_packet_dst` makes at most one access: it stores the flow as it finds it. -/
theorem installDst_cases (underFlood : Bool) :
    (installDst build key vipInfo underFlood lruMap m).2.accesses = m.accesses ∨
      underFlood = false ∧ (installDst build key vipInfo underFlood lruMap m).2 =
        { m with pckt.realIndex := key }.updateLru lruMap m.pckt.flow ⟨key, 0⟩ := by
  simp only [installDst]
  split
  · exact Or.inl rfl
  · split
    · rename_i hstore
      exact Or.inr ⟨hstore.2, rfl⟩
    · exact Or.inl rfl

/-- Without a flood the rules for sources are looked at. -/
theorem lookupSource_fst : (lookupSource build maps vipInfo isIpv6 false m).1 =
    decide (SourceRouted build maps vipInfo isIpv6 m.pckt.flow) := by
  unfold lookupSource
  by_cases h : build.lpmSrcLookup ∧ hasFlag vipInfo.flags F_SRC_ROUTING
  · simp [SourceRouted, h]
  · rw [if_neg fun hall ↦ h ⟨hall.1, hall.2.1⟩]
    exact (decide_eq_false fun hrouted ↦ h ⟨hrouted.1, hrouted.2.1⟩).symm

/-- `get_packet_dst` may ask the ring, and then may store one connection. -/
theorem getPacketDst_accesses {after : Machine}
    (hafter : (getPacketDst build maps key vipInfo isIpv6 lruMap m).2 = after) :
    ∃ asked : List Access, (∀ access ∈ asked, access = .ringLookup key) ∧
      (after.accesses = m.accesses ++ asked ∨
        after.accesses = m.accesses ++ asked ++
            [.lruUpdate lruMap (storedFlow build maps vipInfo isIpv6 m.pckt.flow) ⟨key, 0⟩] ∧
          after.lru lruMap (storedFlow build maps vipInfo isIpv6 m.pckt.flow) =
            some ⟨key, 0⟩) := by
  obtain ⟨f, hflood⟩ := @isUnderFlood_snd build 0 m
  unfold getPacketDst at hafter
  generalize isUnderFlood build 0 m = flood at hflood hafter
  obtain ⟨underFlood, m₁⟩ := flood
  dsimp only at hflood hafter
  obtain ⟨f', hsource⟩ := @lookupSource_snd build maps vipInfo isIpv6 underFlood m₁
  have hfound : underFlood = false → (lookupSource build maps vipInfo isIpv6 underFlood m₁).1 =
      decide (SourceRouted build maps vipInfo isIpv6 m.pckt.flow) := by
    rintro rfl
    rw [lookupSource_fst, hflood, Machine.bump_pckt]
  generalize lookupSource build maps vipInfo isIpv6 underFlood m₁ = source at hsource hfound hafter
  obtain ⟨srcFound, m₂⟩ := source
  dsimp only at hsource hfound hafter
  have hpckt : m₂.pckt = m.pckt := by
    rw [hsource, Machine.bump_pckt, hflood, Machine.bump_pckt]
  have haccesses : m₂.accesses = m.accesses := by
    rw [hsource, Machine.bump_accesses, hflood, Machine.bump_accesses]
  cases srcFound with
  | true =>
    refine ⟨[], by simp, ?_⟩
    rw [if_pos rfl] at hafter
    rcases @installDst_cases build m₂ vipInfo lruMap key underFlood with hsame | ⟨hcalm, hstored⟩
    · rw [hafter, haccesses] at hsame
      exact Or.inl (by rw [hsame, List.append_nil])
    · have hkept : storedFlow build maps vipInfo isIpv6 m.pckt.flow = m.pckt.flow := by
        rw [storedFlow, if_neg fun hnot ↦ hnot.1 (of_decide_eq_true (hfound hcalm).symm)]
      rw [← hafter, hstored, hkept, ← hpckt]
      exact Or.inr ⟨by simp [Machine.updateLru, haccesses], by simp [Machine.updateLru]⟩
  | false =>
    refine ⟨[.ringLookup key], by simp, ?_⟩
    rw [if_neg Bool.false_ne_true] at hafter
    have hflow : (hashPacket build vipInfo isIpv6 m₂).pckt.flow =
        if hasFlag vipInfo.flags F_HASH_DPORT_ONLY then hideSource m.pckt.flow
        else m.pckt.flow := by
      rw [hashPacket_flow, hpckt]
    have hring : ((hashPacket build vipInfo isIpv6 m₂).record (.ringLookup key)).accesses =
        m.accesses ++ [.ringLookup key] := by
      rw [Machine.record_accesses, hashPacket_accesses, haccesses]
    generalize hashPacket build vipInfo isIpv6 m₂ = hidden at hflow hring hafter
    split_ifs at hafter with hslot hzero
    · exact Or.inl (hafter ▸ hring)
    · exact Or.inl (hafter ▸ hring)
    · rcases @installDst_cases build (hidden.record (.ringLookup key)) vipInfo lruMap key
        underFlood with hsame | ⟨hcalm, hstored⟩
      · rw [hafter, hring] at hsame
        exact Or.inl hsame
      · have hkept : storedFlow build maps vipInfo isIpv6 m.pckt.flow = hidden.pckt.flow := by
          rw [hflow, storedFlow]
          simp [of_decide_eq_false (hfound hcalm).symm]
        rw [← hafter, hstored, hkept, ← hring]
        exact Or.inr ⟨rfl, by simp [Machine.updateLru]⟩

theorem getPacketDst_update {lruMap' : LruMap} {g : FlowKey} {entry : RealPosLru}
    (h : Access.lruUpdate lruMap' g entry ∈
      newAccesses m (getPacketDst build maps key vipInfo isIpv6 lruMap m).2) :
    lruMap' = lruMap ∧ g = storedFlow build maps vipInfo isIpv6 m.pckt.flow ∧ entry = ⟨key, 0⟩ ∧
      (getPacketDst build maps key vipInfo isIpv6 lruMap m).2.lru lruMap g = some entry := by
  generalize hafter : (getPacketDst build maps key vipInfo isIpv6 lruMap m).2 = after at h ⊢
  obtain ⟨asked, hasked, hsame | ⟨hstored, hlru⟩⟩ := getPacketDst_accesses hafter
  · rw [newAccesses, hsame, List.drop_left] at h
    exact absurd (hasked _ h) (by simp)
  · rw [newAccesses, hstored, List.append_assoc, List.drop_left, List.mem_append,
      List.mem_singleton] at h
    rcases h with h | h
    · exact absurd (hasked _ h) (by simp)
    · injection h with hmap hflow hentry
      subst hmap hflow hentry
      exact ⟨rfl, rfl, rfl, hlru⟩

/-- The check of a server id stores under the key it looks up. -/
theorem checkAndUpdateRealIndexInLru_update {curTime : BitVec 64} {lruMap' : LruMap} {g : FlowKey}
    {entry : RealPosLru}
    (h : Access.lruUpdate lruMap' g entry ∈
      newAccesses m (checkAndUpdateRealIndexInLru build curTime lruMap m).2) :
    g = m.pckt.flow := by
  have hrecord : (m.record (.lruLookup lruMap m.pckt.flow)).accesses =
      m.accesses ++ [.lruLookup lruMap m.pckt.flow] := rfl
  have hpckt : (m.record (.lruLookup lruMap m.pckt.flow)).pckt = m.pckt := rfl
  have hlookup : Access.lruUpdate lruMap' g entry ∉
      (m.accesses ++ [Access.lruLookup lruMap m.pckt.flow]).drop m.accesses.length := by
    rw [List.drop_left]
    simp
  simp only [newAccesses, checkAndUpdateRealIndexInLru] at h
  generalize m.record (.lruLookup lruMap m.pckt.flow) = looked at hrecord hpckt h
  rw [← hrecord] at hlookup
  split at h
  · split at h
    · exact absurd h hlookup
    · exact absurd h hlookup
  · obtain ⟨f, hflood⟩ := @isUnderFlood_snd build curTime looked
    rw [hflood] at h
    split at h
    · exact absurd h hlookup
    · rw [Machine.updateLru, Machine.bump_accesses, List.drop_append, List.mem_append] at h
      injection List.mem_singleton.mp (List.mem_of_mem_drop (h.resolve_left hlookup)) with _ hg _
      rw [hg, Machine.bump_pckt, hpckt]

end Stores

/-! ## The key of a packet -/

section Keyed

variable {build maps env} {flow stored : FlowKey} {vipInfo : VipMeta}

theorem AccessedUnder.append {m m' : Machine} (h : AccessedUnder flow stored m) {access : Access}
    (hm' : m'.accesses = m.accesses ++ [access]) (haccess : access.Under flow stored) :
    AccessedUnder flow stored m' := by
  intro access' hmem
  rw [hm', List.mem_append, List.mem_singleton] at hmem
  rcases hmem with hmem | rfl
  · exact h access' hmem
  · exact haccess

theorem keyedBy_stable : StableUnderLookups (KeyedBy flow stored) where
  quiet h hflow _ haccesses := ⟨hflow.trans h.1, fun access hmem ↦ h.2 access (haccesses ▸ hmem)⟩
  lookup _ h := ⟨h.1, h.2.append rfl h.1⟩
  update _ _ h := ⟨h.1, h.2.append rfl (Or.inl h.1)⟩

theorem accessedUnder_settled : Settled (AccessedUnder flow stored) :=
  fun _ _ _ haccesses h access hmem ↦ h access (haccesses ▸ hmem)

/-- `get_packet_dst` stores under the key without its source, whatever it does to the packet. -/
theorem getPacketDst_accessedUnder {m : Machine} (key : BitVec 32) {isIpv6 : Bool}
    (lruMap : LruMap) (hstored : storedFlow build maps vipInfo isIpv6 flow = stored)
    (h : KeyedBy flow stored m) :
    AccessedUnder flow stored (getPacketDst build maps key vipInfo isIpv6 lruMap m).2 := by
  generalize hafter : (getPacketDst build maps key vipInfo isIpv6 lruMap m).2 = after
  obtain ⟨asked, hasked, haccesses⟩ := getPacketDst_accesses hafter
  have hring : ∀ access ∈ m.accesses ++ asked, access.Under flow stored := by
    intro access hmem
    rcases List.mem_append.mp hmem with hmem | hmem
    · exact h.2 access hmem
    · rw [hasked access hmem]
      trivial
  rw [h.1, hstored] at haccesses
  rcases haccesses with hsame | ⟨hupdate, -⟩
  · intro access hmem
    exact hring access (hsame ▸ hmem)
  · intro access hmem
    rw [hupdate, List.mem_append, List.mem_singleton] at hmem
    rcases hmem with hmem | rfl
    · exact hring access hmem
    · exact Or.inr rfl

/-- A packet of the VIP is looked up under what the VIP leaves of its flow. -/
theorem balance_accessedUnder (vip : VipDefinition) {matched : FlowKey}
    (hflow : hideSourcePort vipInfo matched = flow)
    (hstored : storedFlow build maps vipInfo env.isIpv6 flow = stored) :
    Triple (fun m ↦ m.pckt.flow = matched ∧ AccessedUnder flow stored m)
      (balance build maps env vip vipInfo) (fun _ ↦ AccessedUnder flow stored)
      (fun _ ↦ AccessedUnder flow stored) := by
  refine balance_triple keyedBy_stable (fun _ hs ↦ hs.2) accessedUnder_settled vip
    (fun _ _ _ hs ↦ hs) (fun _ hs ↦ hs.2) (fun m hs ↦ ⟨?_, hs.2⟩)
    fun lruMap m hs ↦ getPacketDst_accessedUnder env.key lruMap hstored hs
  rw [← hflow, ← hs.1]

end Keyed

/-! ## The key of a connection -/

variable {build maps}

/-- Every packet with the five-tuple is looked up under the key of the five-tuple, and stored under
it or without its source. -/
theorem processPacket_accessedUnder {env : Env} {m t : Machine} {vipInfo : VipMeta} {flow : FlowKey}
    (hparse : parseHeaders build maps env m.start = (.ok (), t))
    (hflow : lookupFlow maps env.isIpv6 t.pckt.flow = some (vipInfo, flow)) :
    AccessedUnder flow (storedFlow build maps vipInfo env.isIpv6 flow)
      ((processPacket build maps env).result m.start).2 := by
  obtain ⟨⟨vip, vipInfo', matched⟩, hvip, heq⟩ := Option.map_eq_some_iff.mp hflow
  injection heq with hinfo hmatched
  subst hinfo
  rw [processPacket, Prog.result_bind (classify_of_parseHeaders hparse hvip)]
  refine (balance_accessedUnder vip hmatched rfl).result ⟨rfl, fun access hmem ↦ ?_⟩
  have hnone : t.accesses = [] := (parseHeaders_sameRouting.ok (.refl m.start) hparse).2.2.1
  rw [hnone] at hmem
  cases hmem

/-- A connection is stored for the next packet of its flow, unless its VIP hashes the destination
port alone and no rule for its source comes first. Then it is stored without its source. -/
theorem getPacketDst_storedForNext_iff {isIpv6 : Bool} {fiveTuple flow : FlowKey}
    {vipInfo : VipMeta} (hflow : lookupFlow maps isIpv6 fiveTuple = some (vipInfo, flow))
    {m : Machine} (hm : m.pckt.flow = flow) {key : BitVec 32} {lruMap lruMap' : LruMap}
    {g : FlowKey} {entry : RealPosLru}
    (h : Access.lruUpdate lruMap' g entry ∈
      newAccesses m (getPacketDst build maps key vipInfo isIpv6 lruMap m).2) :
    (∀ (env : Env) (m' t : Machine), env.isIpv6 = isIpv6 →
        parseHeaders build maps env m'.start = (.ok (), t) → t.pckt.flow = fiveTuple →
        LookedUpUnder flow ((processPacket build maps env).result m'.start).2) ∧
      (StoredForNext (getPacketDst build maps key vipInfo isIpv6 lruMap m).2 lruMap' g entry flow ↔
        hasFlag vipInfo.flags F_HASH_DPORT_ONLY = false ∨
          SourceRouted build maps vipInfo isIpv6 flow ∨
            flow.sport = flow.dport ∧ flow.src = 0) := by
  obtain ⟨rfl, hg, -, hlru⟩ := getPacketDst_update h
  constructor
  · intro env m' t hfamily hparse htuple
    subst hfamily htuple
    exact fun l k hk ↦ processPacket_accessedUnder hparse hflow _ hk
  · rw [hm] at hg
    rw [← storedFlow_eq_self_iff, ← hg]
    constructor
    · intro hstored
      exact hstored.1
    · intro heq
      exact ⟨heq, heq ▸ hlru⟩

/-- A packet of the flow that has a real. -/
def Machine.routed : Machine :=
  { Machine.sample with
    pckt := ⟨.ack, 0, 0, 0⟩
    dst := some (.sample 2) }

/-- The packet is stored by a VIP with the flags. -/
def storedAck (flags : BitVec 32) : Machine :=
  (getPacketDst .plain (.sample flags) 2 ⟨flags, 0⟩ false (.core 0) .routed).2

theorem storedForNext_ack :
    (∀ (env : Env) (m' t : Machine), env.isIpv6 = false →
        parseHeaders .plain (.sample 0) env m'.start = (.ok (), t) → t.pckt.flow = .ack →
        LookedUpUnder .ack ((processPacket .plain (.sample 0) env).result m'.start).2) ∧
      StoredForNext (storedAck 0) (.core 0) .ack ⟨2, 0⟩ .ack := by
  have h := @getPacketDst_storedForNext_iff .plain (.sample 0) false .ack .ack ⟨0, 0⟩
    (by decide +kernel) .routed rfl 2 (.core 0) (.core 0) .ack ⟨2, 0⟩ (by decide +kernel)
  exact ⟨h.1, h.2.mpr (Or.inl (by decide +kernel))⟩

/-- A service that hashes the destination port alone stores the connection under a key that has
neither the address nor the port of its source. -/
theorem dport_only_not_storedForNext :
    lookupFlow (.sample F_HASH_DPORT_ONLY) false .ack = some (⟨F_HASH_DPORT_ONLY, 0⟩, .ack) ∧
      hasFlag F_HASH_DPORT_ONLY F_LRU_BYPASS = false ∧
      Access.lruUpdate (.core 0) (hideSource .ack) ⟨2, 0⟩ ∈
        newAccesses .routed (storedAck F_HASH_DPORT_ONLY) ∧
      ¬ StoredForNext (storedAck F_HASH_DPORT_ONLY) (.core 0) (hideSource .ack) ⟨2, 0⟩ .ack := by
  refine ⟨by decide +kernel, by decide +kernel, by decide +kernel, fun hstored ↦ ?_⟩
  exact absurd hstored.1 (by decide +kernel)

end Vsoshlb.DataPlane
