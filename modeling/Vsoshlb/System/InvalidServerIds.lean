import Vsoshlb.Library.Runs
import Vsoshlb.System.Counters

/-!
# The log of invalid server ids

A CPU counts the server ids that `server_id_map` does not have, and keeps the last of them. Reading
the statistics of QUIC adds up the counts and takes the last id of every CPU to the log. So the log
has ids that were counted only, and it has the last one of every CPU as long as it is not full; an
id that another one follows before the statistics are read is lost.
-/

namespace Vsoshlb

open DataPlane

variable {build : Build}

/-! ## Packets and reads -/

/-- A packet on a CPU, or a read of the statistics, which fails or not. -/
inductive StatsEvent (build : Build) (n : ℕ) where
  | packet (cpu : Fin n) (packet : Packet build)
  | read (ok : Bool)

variable {n : ℕ}

/-- The machines of the CPUs, and `invalidServerIds_`. -/
structure StatsState (n : ℕ) where
  machines : Fin n → Machine
  invalidServerIds : Finset (BitVec 64)

/-- The values that a read finds. -/
def StatsState.quicStats (state : StatsState n) : List QuicPacketsStats :=
  List.ofFn fun c ↦ (state.machines c).quicStats.getD .zero

variable (config : Config) (s : State)

/-- A read by `getLbQuicPacketsStats`, from the state `s` with the given outcome. -/
def statsEventStep (state : StatsState n) (event : StatsEvent build n) : StatsState n :=
  match event with
  | .packet cpu packet =>
    { state with
      machines := Function.update state.machines cpu (packet.process (state.machines cpu)).2 }
  | .read ok =>
    { state with
      invalidServerIds := (getLbQuicPacketsStats config state.quicStats state.invalidServerIds
        { s with outcomes := [ok] }).2.1 }

variable {config s}

/-- The log after a read. -/
theorem readInvalidServerIds (values : List QuicPacketsStats) (ids : Finset (BitVec 64))
    (t : State) :
    (getLbQuicPacketsStats config values ids t).2.1 =
      if config.testing = false ∧ t.nextOutcome then
        logServerIds ids (values.map QuicPacketsStats.cidInvalidServerIdSample)
      else ids := rfl

/-! ## What the packets are counted for -/

/-- The server id that an event counts on a CPU. -/
def StatsEvent.invalidId (state : StatsState n) (c : Fin n) :
    StatsEvent build n → Option (BitVec 32)
  | .packet cpu pckt =>
    if cpu = c then
      DataPlane.invalidId build pckt.maps pckt.env (pckt.machine (state.machines c))
    else
      none
  | .read _ => none

variable (config s) in
/-- The server ids that are counted on a CPU, in their order. -/
def countedIds (state : StatsState n) (c : Fin n) : List (StatsEvent build n) → List (BitVec 32)
  | [] => []
  | event :: events =>
    (event.invalidId state c).toList ++ countedIds (statsEventStep config s state event) c events

theorem countedIds_concat (state : StatsState n) (c : Fin n) (events : List (StatsEvent build n))
    (event : StatsEvent build n) :
    countedIds config s state c (events ++ [event]) = countedIds config s state c events ++
      (event.invalidId (events.foldl (statsEventStep config s) state) c).toList := by
  induction events generalizing state with
  | nil => exact List.append_nil _
  | cons first events ih =>
    rw [List.cons_append, countedIds, ih, countedIds, List.foldl_cons, List.append_assoc]

/-- The count and the last id, for the ids that have been counted. -/
def idsOf (counted : List (BitVec 32)) : BitVec 64 × BitVec 64 :=
  (BitVec.ofNat 64 counted.length, (counted.getLast?.map (BitVec.signExtend 64)).getD 0)

theorem nextIds_idsOf (counted : List (BitVec 32)) (more : Option (BitVec 32)) :
    nextIds more (some (idsOf counted)) = some (idsOf (counted ++ more.toList)) := by
  cases more with
  | none => rw [Option.toList_none, List.append_nil, nextIds]
  | some id =>
    have hlength :
        BitVec.ofNat 64 (counted ++ [id]).length = BitVec.ofNat 64 counted.length + 1 := by
      rw [List.length_append]
      exact BitVec.ofNat_add _ _
    rw [Option.toList_some, idsOf, idsOf, hlength, List.getLast?_concat]
    rfl

/-- The sample of a positive id is not the value of a CPU without one. -/
theorem signExtend_ne_zero {id : BitVec 32} (h : 0 < id.toInt) : id.signExtend 64 ≠ 0 := by
  intro hzero
  have hint : (id.signExtend 64).toInt = id.toInt := BitVec.toInt_signExtend_of_le (by decide)
  rw [hzero] at hint
  exact absurd hint (ne_of_lt h)

/-- What holds at any time of the CPUs and the log, with the ids that have been counted. -/
structure LogSound (build : Build) (counted : Fin n → List (BitVec 32)) (state : StatsState n) :
    Prop where
  provisioned : ∀ c, Provisioned build (state.machines c)
  ids : ∀ c, (state.machines c).invalidIds = some (idsOf (counted c))
  positive : ∀ c, ∀ id ∈ counted c, 0 < id.toInt
  card : state.invalidServerIds.card ≤ kMaxInvalidServerIds
  logged : ∀ sample ∈ state.invalidServerIds, ∃ c, ∃ id ∈ counted c, sample = id.signExtend 64

section LogSound

variable {counted : Fin n → List (BitVec 32)} {state : StatsState n}

/-- What a read finds on a CPU. -/
theorem LogSound.stats (h : LogSound build counted state) (c : Fin n) :
    let stats := (state.machines c).quicStats.getD .zero
    (stats.cidInvalidServerId, stats.cidInvalidServerIdSample) = idsOf (counted c) := by
  obtain ⟨stats, hstats, hids⟩ := Option.map_eq_some_iff.mp (h.ids c)
  dsimp only
  rw [hstats]
  exact hids

/-- A packet, which is counted on its CPU for what it is. -/
theorem LogSound.packet (h : LogSound build counted state) (hfit : build.CountersFit) (cpu : Fin n)
    (packet : Packet build) (event : StatsEvent build n) (hevent : event = .packet cpu packet) :
    LogSound build (fun c ↦ counted c ++ (event.invalidId state c).toList)
      (statsEventStep config s state event) := by
  subst hevent
  have hfound := packet.machine_provisioned (h.provisioned cpu)
  constructor
  · intro c
    by_cases hc : c = cpu
    · subst hc
      simp only [statsEventStep, Function.update_self]
      exact processPacket_provisioned hfit packet.numbersFit hfound
    · simp only [statsEventStep, Function.update_of_ne hc]
      exact h.provisioned c
  · intro c
    by_cases hc : c = cpu
    · subst hc
      simp only [statsEventStep, Function.update_self, StatsEvent.invalidId, if_pos]
      rw [← nextIds_idsOf, ← h.ids c]
      exact processPacket_invalidIds hfit hfound
    · simp only [statsEventStep, Function.update_of_ne hc, StatsEvent.invalidId,
        if_neg (Ne.symm hc), Option.toList_none, List.append_nil]
      exact h.ids c
  · intro c id hid
    rcases List.mem_append.mp hid with hold | hnew
    · exact h.positive c id hold
    · simp only [StatsEvent.invalidId] at hnew
      split_ifs at hnew
      · exact invalidId_positive (Option.mem_toList.mp hnew)
      · cases hnew
  · exact h.card
  · intro sample hsample
    obtain ⟨c, id, hid, rfl⟩ := h.logged sample hsample
    exact ⟨c, id, List.mem_append_left _ hid, rfl⟩

/-- A read, which counts nothing. -/
theorem LogSound.read (h : LogSound build counted state) (ok : Bool) :
    LogSound build counted
      (statsEventStep config s state (.read ok : StatsEvent build n)) := by
  have hread := @readInvalidServerIds config state.quicStats state.invalidServerIds
    { s with outcomes := [ok] }
  refine ⟨h.provisioned, h.ids, h.positive, ?_, fun sample hsample ↦ ?_⟩
  · simp only [statsEventStep, hread]
    split_ifs
    · exact BoundedLog.card_offerAll_le h.card
    · exact h.card
  · simp only [statsEventStep, hread] at hsample
    split_ifs at hsample
    · rcases BoundedLog.mem_of_mem_offerAll hsample with hold | ⟨hnew, hne⟩
      · exact h.logged sample hold
      · obtain ⟨stats, hstats, rfl⟩ := List.mem_map.mp hnew
        obtain ⟨c, rfl⟩ := List.mem_ofFn.mp hstats
        have hlast := congrArg Prod.snd (h.stats c)
        dsimp only [idsOf] at hlast
        rw [hlast] at hne ⊢
        cases hcounted : (counted c).getLast? with
        | none =>
          rw [hcounted] at hne
          exact absurd rfl hne
        | some id => exact ⟨c, id, List.mem_of_getLast? hcounted, rfl⟩
    · exact h.logged sample hsample

theorem LogSound.step (h : LogSound build counted state) (hfit : build.CountersFit)
    (event : StatsEvent build n) :
    LogSound build (fun c ↦ counted c ++ (event.invalidId state c).toList)
      (statsEventStep config s state event) := by
  cases hevent : event with
  | packet cpu packet => exact h.packet hfit cpu packet _ rfl
  | read ok =>
    simp only [StatsEvent.invalidId, Option.toList_none, List.append_nil]
    exact h.read ok

/-- The statistics and the log after a read that succeeds. -/
theorem LogSound.readLog (h : LogSound build counted state) (htesting : config.testing = false)
    {t : State} (hok : t.nextOutcome = true) :
    let ended := getLbQuicPacketsStats config state.quicStats state.invalidServerIds t
    ended.1.cidInvalidServerId = BitVec.ofNat 64 (∑ c, (counted c).length) ∧
      (ended.2.1.card < kMaxInvalidServerIds →
        ∀ c, ∀ id ∈ (counted c).getLast?, id.signExtend 64 ∈ ended.2.1) := by
  constructor
  · have hcount (c : Fin n) : ((state.machines c).quicStats.getD .zero).cidInvalidServerId =
        ((counted c).length : BitVec 64) :=
      congrArg Prod.fst (h.stats c)
    calc
      _ = ∑ c, ((state.machines c).quicStats.getD .zero).cidInvalidServerId :=
        readPerCpu_component QuicPacketsStats.cidInvalidServerId rfl (fun _ _ ↦ rfl) htesting hok _
      _ = ∑ c, ((counted c).length : BitVec 64) := Finset.sum_congr rfl fun c _ ↦ hcount c
      _ = ((∑ c, (counted c).length : ℕ) : BitVec 64) := (Nat.cast_sum _ _).symm
  · intro hroom c id hid
    have hread := @readInvalidServerIds config state.quicStats state.invalidServerIds t
    rw [if_pos ⟨htesting, hok⟩] at hread
    rw [hread] at hroom ⊢
    have hsample : ((state.machines c).quicStats.getD .zero).cidInvalidServerIdSample =
        id.signExtend 64 := by
      have hlast := congrArg Prod.snd (h.stats c)
      dsimp only [idsOf] at hlast
      rw [hlast, Option.mem_def.mp hid]
      rfl
    have hoffered : id.signExtend 64 ∈
        state.quicStats.map QuicPacketsStats.cidInvalidServerIdSample := by
      rw [← hsample]
      exact List.mem_map_of_mem (List.mem_ofFn.mpr ⟨c, rfl⟩)
    have hpositive := h.positive c id (List.mem_of_getLast? hid)
    exact BoundedLog.mem_offerAll hroom hoffered (signExtend_ne_zero hpositive)

end LogSound

/-- Packets and reads in any order, and one more read. Each CPU has counted the unknown ids of its
packets and has the last of them; the statistics have the count of all CPUs, and the log has ids
that were counted, and the last one of every CPU if it is not full. -/
theorem invalidServerIds_logged (hfit : build.CountersFit) (htesting : config.testing = false)
    {machines : Fin n → Machine} (hprovisioned : ∀ c, Provisioned build (machines c))
    (hzero : ∀ c, (machines c).invalidIds = some (0, 0)) (events : List (StatsEvent build n)) :
    let counted := fun c ↦ countedIds config s ⟨machines, ∅⟩ c events
    let state := events.foldl (statsEventStep config s) ⟨machines, ∅⟩
    let ended := getLbQuicPacketsStats config state.quicStats state.invalidServerIds
      { s with outcomes := [true] }
    (∀ c, (state.machines c).invalidIds = some (idsOf (counted c))) ∧
      state.invalidServerIds.card ≤ kMaxInvalidServerIds ∧
      (∀ sample ∈ state.invalidServerIds, ∃ c, ∃ id ∈ counted c, sample = id.signExtend 64) ∧
      ended.1.cidInvalidServerId = BitVec.ofNat 64 (∑ c, (counted c).length) ∧
      (ended.2.1.card < kMaxInvalidServerIds →
        ∀ c, ∀ id ∈ (counted c).getLast?, id.signExtend 64 ∈ ended.2.1) := by
  have hsound : LogSound build (fun c ↦ countedIds config s ⟨machines, ∅⟩ c events)
      (events.foldl (statsEventStep config s) ⟨machines, ∅⟩) := by
    induction events using List.reverseRecOn with
    | nil =>
      refine ⟨hprovisioned, hzero, fun c id hid ↦ ?_, Nat.zero_le _, fun sample hsample ↦ ?_⟩
      · cases hid
      · exact absurd hsample (Finset.notMem_empty sample)
    | append_singleton events event ih =>
      rw [List.foldl_append]
      simp only [countedIds_concat]
      exact ih.step hfit event
  dsimp only
  obtain ⟨hcount, hlog⟩ := hsound.readLog htesting (t := { s with outcomes := [true] }) rfl
  exact ⟨hsound.ids, hsound.card, hsound.logged, hcount, hlog⟩

/-- A QUIC packet of the small data plane. -/
def quicPacket (id : BitVec 8) : Packet stableBuild where
  maps := twoServices
  env := quicWithId id
  lru _ _ := none
  numbersFit := by
    intro vip vipInfo h
    simp only [twoServices] at h
    split_ifs at h
    · obtain rfl := Option.some.inj h
      decide
    · obtain rfl := Option.some.inj h
      decide

/-- Two packets with unknown ids on a CPU, a read that fails, and a packet with another one. -/
def idEvents : List (StatsEvent stableBuild 2) :=
  [.packet cpu0 (quicPacket 9), .packet cpu0 (quicPacket 7), .read false,
    .packet cpu1 (quicPacket 8)]

theorem idEvents_logged :
    let counted := fun c ↦ countedIds .sample (.sample []) ⟨fun _ ↦ countersMachine, ∅⟩ c idEvents
    let state := idEvents.foldl (statsEventStep .sample (.sample [])) ⟨fun _ ↦ countersMachine, ∅⟩
    let ended := getLbQuicPacketsStats .sample state.quicStats state.invalidServerIds
      { State.sample [] with outcomes := [true] }
    counted cpu0 = [9, 7] ∧ counted cpu1 = [8] ∧
      (state.machines cpu0).invalidIds = some (2, 7) ∧ ended.1.cidInvalidServerId = 3 ∧
      7 ∈ ended.2.1 ∧ 8 ∈ ended.2.1 := by
  have h := @invalidServerIds_logged stableBuild 2 .sample (.sample []) (by decide) rfl
    (fun _ ↦ countersMachine) (fun _ ↦ countersMachine_provisioned) (fun _ ↦ rfl) idEvents
  obtain ⟨hids, -, -, hcount, hlog⟩ := h
  have hlast := hlog (by decide +kernel)
  refine ⟨by decide +kernel, by decide +kernel, ?_, ?_, ?_, ?_⟩
  · exact (hids cpu0).trans (by decide +kernel)
  · exact hcount.trans (by decide +kernel)
  · exact hlast cpu0 7 (by decide +kernel)
  · exact hlast cpu1 8 (by decide +kernel)

end Vsoshlb
