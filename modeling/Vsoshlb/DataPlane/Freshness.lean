import Vsoshlb.DataPlane.ProcessPacket

/-!
# The age of routed entries

A UDP flow is found in the LRU map as long as its entry is younger than `LRU_UDP_TIMEOUT`. The
lookup writes the time of the entry. Routing by a server id changes the position in the entry and
leaves the time as it is; where there was no entry it leaves 0, the start of the clock.
-/

namespace Vsoshlb.DataPlane

open EarlyExit

variable (build : Build) (maps : KernelMaps) (env : Env)

/-- The time of the entry, and 0 where there is none. -/
def entryTime (m : Machine) (lruMap : LruMap) (flow : FlowKey) : BitVec 64 :=
  (m.lru lruMap flow).elim 0 RealPosLru.atime

/-- At `now` a packet of the flow is sent to `pos`, and the entry is young again, in every state in
which the LRU map has the entry. -/
def FoundFresh (lruMap : LruMap) (flow : FlowKey) (entry : Option RealPosLru) (pos : BitVec 32)
    (now : BitVec 64) : Prop :=
  ∀ later : Machine, later.pckt.flow = flow → later.lru lruMap flow = entry →
    (connectionTableLookup build now lruMap false later).pckt.realIndex = pos ∧
      (connectionTableLookup build now lruMap false later).lru lruMap flow = some ⟨pos, now⟩

/-- Throughout the timeout the flow is found at `pos`. -/
def StaysFresh (lruMap : LruMap) (flow : FlowKey) (entry : Option RealPosLru) (pos : BitVec 32)
    (since : BitVec 64) : Prop :=
  ∀ now : BitVec 64, since.toNat ≤ now.toNat →
    now.toNat ≤ since.toNat + build.lruUdpTimeout.toNat →
    FoundFresh build lruMap flow entry pos now

section Freshness

variable {build maps env} {m : Machine} {lruMap : LruMap} {flow : FlowKey} {pos : BitVec 32}

/-- Whether there is a flood depends on the counters only. -/
theorem isUnderFlood_calm_of_stats {curTime : BitVec 64} {m' : Machine}
    (hcalm : (isUnderFlood build curTime m).1 = false) (h : m'.stats = m.stats) :
    (isUnderFlood build curTime m').1 = false := by
  rw [← hcalm]
  simp only [isUnderFlood, h]
  split
  · rfl
  · split
    · rfl
    · rfl

/-- Routing sets the position of the entry and keeps its time. -/
theorem checkAndUpdateRealIndexInLru_entry {curTime : BitVec 64}
    (hcalm : (isUnderFlood build curTime m).1 = false) :
    (checkAndUpdateRealIndexInLru build curTime lruMap m).2.lru lruMap m.pckt.flow =
      some ⟨m.pckt.realIndex, entryTime m lruMap m.pckt.flow⟩ := by
  have hlru : (m.record (.lruLookup lruMap m.pckt.flow)).lru = m.lru := rfl
  have hpckt : (m.record (.lruLookup lruMap m.pckt.flow)).pckt = m.pckt := rfl
  have hcalm' : (isUnderFlood build curTime (m.record (.lruLookup lruMap m.pckt.flow))).1 = false :=
    isUnderFlood_calm_of_stats hcalm rfl
  simp only [checkAndUpdateRealIndexInLru, entryTime]
  generalize m.record (.lruLookup lruMap m.pckt.flow) = looked at hlru hpckt hcalm' ⊢
  rw [← hlru, ← hpckt]
  cases hentry : looked.lru lruMap looked.pckt.flow with
  | some dstLru =>
    dsimp only
    split
    · rename_i hmatch
      rw [hentry, ← hmatch, Option.elim_some]
    · simp [Machine.setLru]
  | none =>
    obtain ⟨f, hflood⟩ := @isUnderFlood_snd build curTime looked
    dsimp only
    rw [if_neg (by rw [hcalm']; exact Bool.false_ne_true), hflood]
    simp [Machine.updateLru]

theorem routeToIndex_entry {routed : Machine}
    (hcalm : (isUnderFlood build env.curTime m).1 = false)
    (hroute : routeToIndex build maps env lruMap pos m = (.ok (), routed)) :
    routed.lru lruMap m.pckt.flow = some ⟨pos, entryTime m lruMap m.pckt.flow⟩ := by
  cases hreal : maps.reals pos with
  | none =>
    simp [routeToIndex, Prog.bind_apply, Prog.modify, Prog.when, countQuic, Prog.exit,
      hreal] at hroute
  | some real =>
    have hcheck : routed.lru = (checkAndUpdateRealIndexInLru build env.curTime lruMap
        { m with
          pckt.realIndex := pos
          dst := some real }).2.lru := by
      simp only [routeToIndex, Prog.bind_apply, Prog.modify, Prog.when, countQuic, Prog.act, hreal,
        Option.isNone_some, Bool.false_eq_true, if_false, Prog.pure_apply, Prod.mk.injEq, true_and]
        at hroute
      rw [← hroute]
    rw [hcheck]
    exact checkAndUpdateRealIndexInLru_entry (isUnderFlood_calm_of_stats hcalm rfl)

/-- A UDP flow with an entry is looked up, which depends on the time of the entry alone. -/
theorem connectionTableLookup_of_entry (hudp : m.pckt.flow.proto = IPPROTO_UDP)
    {dstLru : RealPosLru} (hentry : m.lru lruMap m.pckt.flow = some dstLru) (now : BitVec 64) :
    connectionTableLookup build now lruMap false m =
      if build.lruUdpTimeout.toNat < (now - dstLru.atime).toNat then
        m.record (.lruLookup lruMap m.pckt.flow)
      else
        { (m.record (.lruLookup lruMap m.pckt.flow)).setLru lruMap m.pckt.flow
            { dstLru with atime := now } with
          pckt.realIndex := dstLru.pos } := by
  simp only [connectionTableLookup, Machine.record_lru, Machine.record_pckt, hentry, hudp,
    and_self, if_true]

theorem foundFresh_iff (hudp : m.pckt.flow.proto = IPPROTO_UDP) {atime now : BitVec 64}
    (hentry : m.lru lruMap m.pckt.flow = some ⟨pos, atime⟩) :
    FoundFresh build lruMap m.pckt.flow (some ⟨pos, atime⟩) pos now ↔
      (now - atime).toNat ≤ build.lruUdpTimeout.toNat := by
  constructor
  · intro hfound
    by_contra hold
    have hlru := (hfound m rfl hentry).2
    rw [connectionTableLookup_of_entry hudp hentry, if_pos (Nat.lt_of_not_le hold),
      Machine.record_lru, hentry, Option.some.injEq, RealPosLru.mk.injEq] at hlru
    rw [hlru.2, BitVec.sub_self] at hold
    exact hold (Nat.zero_le _)
  · intro hyoung later hflow hlater
    have hproto : later.pckt.flow.proto = IPPROTO_UDP := by rw [hflow, hudp]
    rw [← hflow] at hlater ⊢
    rw [connectionTableLookup_of_entry hproto hlater, if_neg (Nat.not_lt.mpr hyoung)]
    exact ⟨rfl, by simp [Machine.setLru]⟩

/-- Within the timeout of `since` every difference to a time is small only if that time is
`since`. -/
theorem forall_age_le_iff {since atime timeout : BitVec 64}
    (hclock : since.toNat + timeout.toNat + 1 < 2 ^ 64) :
    (∀ now : BitVec 64, since.toNat ≤ now.toNat → now.toNat ≤ since.toNat + timeout.toNat →
        (now - atime).toNat ≤ timeout.toNat) ↔ atime = since := by
  constructor
  · intro hyoung
    have hage (n : ℕ) (hle : since.toNat ≤ n) (hn : n ≤ since.toNat + timeout.toNat) :
        (2 ^ 64 - atime.toNat + n) % 2 ^ 64 ≤ timeout.toNat := by
      have hnat : (BitVec.ofNat 64 n).toNat = n := by
        rw [BitVec.toNat_ofNat]
        exact Nat.mod_eq_of_lt (by omega)
      have h := hyoung (BitVec.ofNat 64 n) (by rwa [hnat]) (by rwa [hnat])
      rwa [BitVec.toNat_sub, hnat] at h
    have hatime : atime.toNat < 2 ^ 64 := atime.isLt
    have hfirst := hage since.toNat (Nat.le_refl _) (Nat.le_add_right _ _)
    have hlast := hage (since.toNat + timeout.toNat) (Nat.le_add_right _ _) (Nat.le_refl _)
    apply BitVec.eq_of_toNat_eq
    rcases Nat.lt_or_ge since.toNat atime.toNat with hlater | hearlier
    · -- A time after `since` is either reached within the timeout, one step after an age of -1,
      -- or lies beyond it, so that the last age is negative.
      by_cases hin : atime.toNat - 1 ≤ since.toNat + timeout.toNat
      · have hminus := hage (atime.toNat - 1) (by omega) hin
        omega
      · omega
    · omega
  · rintro rfl now hle hnow
    rw [BitVec.toNat_sub_of_le (BitVec.le_def.mpr hle)]
    omega

/-- A flow that a server id has just routed stays found if and only if its entry had the time of
the routing before. An entry that is new has the time 0. -/
theorem routeToIndex_staysFresh_iff (hudp : m.pckt.flow.proto = IPPROTO_UDP)
    (hcalm : (isUnderFlood build env.curTime m).1 = false)
    (hclock : env.now.toNat + build.lruUdpTimeout.toNat + 1 < 2 ^ 64) {routed : Machine}
    (hroute : routeToIndex build maps env lruMap pos m = (.ok (), routed)) :
    StaysFresh build lruMap m.pckt.flow (routed.lru lruMap m.pckt.flow) pos env.now ↔
      entryTime m lruMap m.pckt.flow = env.now := by
  have hentry := routeToIndex_entry hcalm hroute
  rw [← forall_age_le_iff hclock, StaysFresh, hentry]
  have hfound (now : BitVec 64) := @foundFresh_iff build { m with lru := routed.lru } lruMap pos
    hudp (entryTime m lruMap m.pckt.flow) now hentry
  constructor
  · intro hfresh now hle hnow
    exact (hfound now).mp (hfresh now hle hnow)
  · intro hyoung now hle hnow
    exact (hfound now).mpr (hyoung now hle hnow)

/-- A packet of the flow is routed by a server id at the given time. -/
def Env.udp (now : BitVec 64) : Env :=
  { Env.tcp [] with
    now := now
    protocol := IPPROTO_UDP
    flowProto := IPPROTO_UDP }

def FlowKey.udp : FlowKey :=
  ⟨setIpv4Part 0 0xc0000207, setIpv4Part 0 0x0a000001, 0x409c, 0xbb01, IPPROTO_UDP⟩

/-- The small data plane before a UDP packet, with the given entry of its flow. -/
def Machine.beforeUdp (entry : Option RealPosLru) : Machine :=
  { Machine.sample with
    pckt := ⟨.udp, 0, 0, 0⟩
    lru := fun _ _ ↦ entry }

/-- The state in which a server id has routed the packet to the first real. -/
def routedUdp (now : BitVec 64) (entry : Option RealPosLru) : Machine :=
  (routeToIndex .plain (.sample F_QUIC_VIP) (.udp now) (.core 0) 1 (.beforeUdp entry)).2

theorem routedUdp_staysFresh :
    StaysFresh .plain (.core 0) .udp ((routedUdp 1000 (some ⟨2, 1000⟩)).lru (.core 0) .udp) 1
      1000 :=
  (@routeToIndex_staysFresh_iff .plain (.sample F_QUIC_VIP) (.udp 1000)
    (.beforeUdp (some ⟨2, 1000⟩)) (.core 0) 1 rfl (by decide +kernel) (by decide +kernel) _
    (Prod.ext (by decide +kernel) rfl)).mpr (by decide +kernel)

/-- Forty seconds after the start of the clock a new flow is routed. At the same moment its entry is
expired. -/
theorem new_entry_is_expired :
    (routeToIndex .plain (.sample F_QUIC_VIP) (.udp 40000000000) (.core 0) 1 (.beforeUdp none)).1 =
        .ok () ∧
      (routedUdp 40000000000 none).lru (.core 0) .udp = some ⟨1, 0⟩ ∧
      ¬ FoundFresh .plain (.core 0) .udp ((routedUdp 40000000000 none).lru (.core 0) .udp) 1
        40000000000 := by
  have hentry : (routedUdp 40000000000 none).lru (.core 0) .udp = some ⟨1, 0⟩ := by decide +kernel
  refine ⟨by decide +kernel, hentry, fun hfound ↦ ?_⟩
  rw [hentry] at hfound
  exact absurd (hfound (.beforeUdp (some ⟨1, 0⟩)) rfl rfl).2 (by decide +kernel)

end Freshness

end Vsoshlb.DataPlane
