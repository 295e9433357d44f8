import Vsoshlb.ControlPlane.Batches

/-!
# Overriding a QUIC id when no number is left

An `ADD` for an id that is mapped to another address releases that address before it asks for a
number. If there is none, the id stays mapped to the released address, which is then counted once
less than it is used.
-/

namespace Vsoshlb

open HashTable

variable {folly : Folly} {config : Config}

/-! ## An element that asks for a number -/

/-- The element passes the checks, and its id is not mapped to its address yet. -/
structure AsksNumber (folly : Folly) (config : Config) (s : State) (real : QuicReal)
    (raddr : IPAddress) : Prop where
  address : folly.parse real.address = some raddr
  id : ¬ (config.enableCidV3 = false ∧ real.id > kMaxQuicIdV2)
  new : s.tables.quicMapping.lookup real.id ≠ some raddr

/-- The address that the id is mapped to has lost a reference. -/
def releaseMapped (id : ℕ) (s : State) : State :=
  match s.tables.quicMapping.lookup id with
  | none => s
  | some current => decreaseRefCountForReal current s

theorem addQuicStep_of_asks {s : State} {real : QuicReal} {raddr : IPAddress}
    (h : AsksNumber folly config s real raddr) (toUpdate : Finmap fun _ : ℕ ↦ ℕ) :
    addQuicStep folly config (toUpdate, s) real =
      mapQuicReal config raddr real.id toUpdate (releaseMapped real.id s) := by
  unfold addQuicStep releaseMapped
  simp only [validateHost_of_some h.address]
  rw [if_neg h.id]
  cases hmapped : s.tables.quicMapping.lookup real.id with
  | none => rfl
  | some current =>
    have hne : current ≠ raddr := fun heq ↦ h.new (by rw [hmapped, heq])
    exact if_neg hne

/-- The address has no number, the pool is empty, and the release of the mapped address frees
none. -/
structure NoNumber (s : State) (real : QuicReal) (raddr : IPAddress) : Prop where
  new : s.tables.reals.lookup raddr = none
  realNums : s.tables.realNums = []
  kept : ∀ current r, s.tables.quicMapping.lookup real.id = some current →
    s.tables.reals.lookup current = some r → r.refCount ≠ 1

/-- The tables that a failed element should leave alone. -/
structure QuicUnchanged (t t' : Tables) : Prop where
  quicMapping : t'.quicMapping = t.quicMapping
  reals : t'.reals = t.reals
  numToReals : t'.numToReals = t.numToReals
  realNums : t'.realNums = t.realNums

/-- The id is not mapped to a real. -/
def NothingToRelease (s : State) (real : QuicReal) : Prop :=
  ∀ current, s.tables.quicMapping.lookup real.id = some current →
    s.tables.reals.lookup current = none

theorem NothingToRelease.releaseMapped_eq {s : State} {real : QuicReal}
    (h : NothingToRelease s real) : releaseMapped real.id s = s := by
  unfold releaseMapped
  cases hmapped : s.tables.quicMapping.lookup real.id with
  | none => rfl
  | some current => exact decreaseRefCountForReal_of_lookup_none (h current hmapped)

theorem releaseMapped_lookup_of_ne {s : State} {id : ℕ} {raddr : IPAddress}
    (hne : s.tables.quicMapping.lookup id ≠ some raddr) :
    (releaseMapped id s).tables.reals.lookup raddr = s.tables.reals.lookup raddr := by
  unfold releaseMapped
  cases hmapped : s.tables.quicMapping.lookup id with
  | none => rfl
  | some current =>
    apply decreaseRefCountForReal_lookup_of_ne
    rintro rfl
    exact hne hmapped

/-- The release empties no pool. -/
theorem releaseMapped_realNums_eq_nil_iff {s : State} {id : ℕ} :
    (releaseMapped id s).tables.realNums = [] ↔ s.tables.realNums = [] ∧
      ∀ current r, s.tables.quicMapping.lookup id = some current →
        s.tables.reals.lookup current = some r → r.refCount ≠ 1 := by
  unfold releaseMapped
  cases hmapped : s.tables.quicMapping.lookup id with
  | none => simp
  | some current =>
    dsimp only
    cases hreal : s.tables.reals.lookup current with
    | none =>
      rw [decreaseRefCountForReal_of_lookup_none hreal]
      refine (and_iff_left fun current' r hcurrent hr ↦ ?_).symm
      obtain rfl := Option.some.inj hcurrent
      exact absurd (hreal.symm.trans hr) (Option.some_ne_none r).symm
    | some r =>
      rw [decreaseRefCountForReal_realNums hreal]
      split_ifs with hone
      · refine iff_of_false (by simp) fun h ↦ ?_
        exact h.2 current r rfl hreal hone
      · refine (and_iff_left fun current' r' hcurrent hr' ↦ ?_).symm
        obtain rfl := Option.some.inj hcurrent
        exact Option.some.inj (hreal.symm.trans hr') ▸ hone

/-- `exhausted real's space` is what the element then comes to. -/
theorem NoNumber.exhausted {s : State} {real : QuicReal} {raddr : IPAddress}
    (h : NoNumber s real raddr) (hasks : AsksNumber folly config s real raddr) :
    increaseRefCountForReal config raddr 0 (releaseMapped real.id s) =
      (config.maxReals, releaseMapped real.id s) := by
  have hnew := (releaseMapped_lookup_of_ne hasks.new).trans h.new
  have hnums := releaseMapped_realNums_eq_nil_iff.mpr ⟨h.realNums, h.kept⟩
  exact increaseRefCountForReal_of_nil hnew hnums 0

/-- Where `maxReals` is not itself a number, there is no other way to come to it. -/
theorem exhausted_iff_noNumber {s : State} {real : QuicReal} {raddr : IPAddress}
    (hpools : IdPools folly config s.tables) (hmax : config.maxReals ≠ 0)
    (hasks : AsksNumber folly config s real raddr) :
    (increaseRefCountForReal config raddr 0 (releaseMapped real.id s)).1 = config.maxReals ↔
      NoNumber s real raddr := by
  constructor
  · intro hnum
    have hnone : ∀ t, IdPools folly config t →
        IdPool.total RealMeta.num t.realNums t.reals config.maxReals = 0 := by
      intro t h
      rw [h.reals _ hmax, if_neg (Nat.lt_irrefl _)]
    have hreleased : IdPools folly config (releaseMapped real.id s).tables := by
      unfold releaseMapped
      cases s.tables.quicMapping.lookup real.id with
      | none => exact hpools
      | some current => exact decreaseRefCountForReal_idPools current hpools
    have htotal := hnone _ hreleased
    unfold IdPool.total at htotal
    have hlookup := releaseMapped_lookup_of_ne hasks.new
    cases hreal : (releaseMapped real.id s).tables.reals.lookup raddr with
    | some r =>
      rw [increaseRefCountForReal_of_lookup hreal] at hnum
      have hused := (count_pos_iff fun _ w ↦ RealMeta.num w = config.maxReals).mpr
        ⟨raddr, r, hreal, hnum⟩
      omega
    | none =>
      cases hnums : (releaseMapped real.id s).tables.realNums with
      | nil =>
        obtain ⟨hempty, hkept⟩ := releaseMapped_realNums_eq_nil_iff.mp hnums
        exact ⟨hlookup ▸ hreal, hempty, hkept⟩
      | cons rnum realNums =>
        rw [(increaseRefCountForReal_of_cons hreal hnums 0).1] at hnum
        rw [hnums, hnum, List.count_cons_self] at htotal
        omega
  · intro h
    rw [h.exhausted hasks]

/-- A release shows in the entry of the released real. -/
theorem releaseMapped_lookup_ne {s : State} {id : ℕ} {current : IPAddress} {r : RealMeta}
    (hmapped : s.tables.quicMapping.lookup id = some current)
    (hreal : s.tables.reals.lookup current = some r) :
    (releaseMapped id s).tables.reals.lookup current ≠ some r := by
  unfold releaseMapped
  simp only [hmapped]
  rw [decreaseRefCountForReal_lookup hreal]
  intro heq
  split_ifs at heq
  exact decrement32_ne r.refCount (congrArg RealMeta.refCount (Option.some.inj heq))

/-- An element that finds no number leaves the tables alone precisely if there was nothing to
release. -/
theorem addQuicStep_unchanged_iff {s : State} {real : QuicReal} {raddr : IPAddress}
    (hasks : AsksNumber folly config s real raddr) (hnone : NoNumber s real raddr)
    (toUpdate : Finmap fun _ : ℕ ↦ ℕ) :
    QuicUnchanged s.tables (addQuicStep folly config (toUpdate, s) real).2.tables ↔
      NothingToRelease s real := by
  have hstep : (addQuicStep folly config (toUpdate, s) real).2 = releaseMapped real.id s := by
    rw [addQuicStep_of_asks hasks, mapQuicReal, hnone.exhausted hasks]
    exact congrArg Prod.snd (if_pos rfl)
  rw [hstep]
  constructor
  · intro h current hmapped
    by_contra hlive
    obtain ⟨r, hreal⟩ := Option.ne_none_iff_exists'.mp hlive
    apply releaseMapped_lookup_ne hmapped hreal
    rw [h.reals, hreal]
  · intro h
    rw [h.releaseMapped_eq]
    exact ⟨rfl, rfl, rfl, rfl⟩

/-! ## A list of elements -/

/-- Every element of an `ADD` that finds no number leaves the tables alone, precisely if none of
them has its id mapped to a real. -/
theorem modifyQuicReals_failures_unchanged_iff (reals : List QuicReal) (s : State) :
    Runs.Along (fun acc real ↦ some (addQuicStep folly config acc real))
        (fun acc real ↦ ∀ raddr, AsksNumber folly config acc.2 real raddr →
          NoNumber acc.2 real raddr →
          QuicUnchanged acc.2.tables (addQuicStep folly config acc real).2.tables)
        (∅, s) reals ↔
      Runs.Along (fun acc real ↦ some (addQuicStep folly config acc real))
        (fun acc real ↦ ∀ raddr, AsksNumber folly config acc.2 real raddr →
          NoNumber acc.2 real raddr → NothingToRelease acc.2 real)
        (∅, s) reals := by
  have hstep : ∀ (acc : (Finmap fun _ : ℕ ↦ ℕ) × State) (real : QuicReal),
      (∀ raddr, AsksNumber folly config acc.2 real raddr → NoNumber acc.2 real raddr →
        QuicUnchanged acc.2.tables (addQuicStep folly config acc real).2.tables) ↔
      ∀ raddr, AsksNumber folly config acc.2 real raddr → NoNumber acc.2 real raddr →
        NothingToRelease acc.2 real :=
    fun acc real ↦ forall_congr' fun raddr ↦ imp_congr_right fun hasks ↦
      imp_congr_right fun hnone ↦ addQuicStep_unchanged_iff hasks hnone acc.1
  constructor
  · exact Runs.Along.mono fun acc real ↦ (hstep acc real).mp
  · exact Runs.Along.mono fun acc real ↦ (hstep acc real).mpr

/-- Both numbers are in use, and two ids share a real. -/
def sharedIds : List Call :=
  [(Op.modifyQuicRealsMapping .add
    [⟨"10.0.0.2", 7⟩, ⟨"10.0.0.2", 8⟩, ⟨"10.0.0.3", 9⟩]).sorted id]

/-- An override for which there is no number leaves the shared real with one reference, to which
two ids are mapped. -/
theorem failed_override_releases :
    ∃ s, runSample [] sharedIds = some s ∧
      (s.tables.reals.lookup (.v4 0x0a000002)).map RealMeta.refCount = some 2 ∧
      ((addQuicStep .sample .sample (∅, s) ⟨"fc00::1", 7⟩).2.tables.reals.lookup
        (.v4 0x0a000002)).map RealMeta.refCount = some 1 ∧
      ¬ Runs.Along (fun acc real ↦ some (addQuicStep .sample .sample acc real))
        (fun acc real ↦ ∀ raddr, AsksNumber .sample .sample acc.2 real raddr →
          NoNumber acc.2 real raddr →
          QuicUnchanged acc.2.tables (addQuicStep .sample .sample acc real).2.tables)
        (∅, s) [⟨"fc00::1", 7⟩] := by
  have hstate : (runSample [] sharedIds).map (fun s ↦
      ((s.tables.reals.lookup (.v4 0x0a000002)).map RealMeta.refCount,
        ((addQuicStep .sample .sample (∅, s) ⟨"fc00::1", 7⟩).2.tables.reals.lookup
          (.v4 0x0a000002)).map RealMeta.refCount,
        s.tables.quicMapping.lookup 7, s.tables.realNums,
        (s.tables.reals.lookup (.v6 0xfc000000000000000000000000000001)).isSome)) =
      some (some 2, some 1, some (.v4 0x0a000002), [], false) := by
    decide +kernel
  obtain ⟨s, hrun, hs⟩ := Option.map_eq_some_iff.mp hstate
  simp only [Prod.mk.injEq] at hs
  obtain ⟨htwo, hone, hmapped, hnums, hnew⟩ := hs
  refine ⟨s, hrun, htwo, hone, fun h ↦ ?_⟩
  have hasks : AsksNumber .sample .sample s ⟨"fc00::1", 7⟩
      (.v6 0xfc000000000000000000000000000001) :=
    ⟨by decide, by decide, by rw [hmapped]; decide⟩
  have hnone : NoNumber s ⟨"fc00::1", 7⟩ (.v6 0xfc000000000000000000000000000001) := by
    refine ⟨by simpa using hnew, hnums, fun current r hcurrent hr ↦ ?_⟩
    obtain rfl := Option.some.inj (hmapped.symm.trans hcurrent)
    rw [hr] at htwo
    have htwo : r.refCount = 2 := Option.some.inj htwo
    omega
  have hsame := (h.1 _ hasks hnone).reals
  rw [hsame, htwo] at hone
  exact absurd hone (by decide)

end Vsoshlb
