import Vsoshlb.Library.Streaks
import Vsoshlb.DataPlane.ProcessPacket

/-!
# The limit on new connections

`is_under_flood` should count the new connections of the last second. It never reads the clock and
never sets the start of the second, so what ends a second is the value that the caller happens to
have in its variable. One of the two callers always passes 0.
-/

namespace Vsoshlb.DataPlane

open Streaks

variable (build : Build)

/-- A call of `is_under_flood`: the clock, and what `*cur_time` holds. -/
structure FloodCall where
  now : BitVec 64
  curTime : BitVec 64
deriving DecidableEq, Repr

/-- The call finds a value with which a new second begins. -/
def FloodCall.BeginsQuanta (call : FloodCall) : Prop := ONE_SEC.toNat < call.curTime.toNat

instance : DecidablePred FloodCall.BeginsQuanta := fun _ ↦ inferInstanceAs (Decidable (_ < _))

/-- What successive calls on one core return. -/
def underFloodResults : List FloodCall → Machine → List Bool
  | [], _ => []
  | call :: calls, m =>
    let (underFlood, m) := isUnderFlood build call.curTime m
    underFlood :: underFloodResults calls m

/-- The calls with a clock in the second that begins at `start`. -/
def inSecond (start : ℕ) (calls : List FloodCall) : List FloodCall :=
  calls.filter fun call ↦ start ≤ call.now.toNat ∧ call.now.toNat ≤ start + ONE_SEC.toNat

/-- The clock does not run backwards, and no second has more calls than allowed. -/
structure Paced (calls : List FloodCall) : Prop where
  clock : calls.Pairwise fun call later ↦ call.now.toNat ≤ later.now.toNat
  rate : ∀ start, (inSecond start calls).length ≤ build.maxConnRate.toNat

/-- The counters as they are before the first call, after `n` calls in the present second. -/
def ConnRate (n : ℕ) (m : Machine) : Prop :=
  m.stats (build.maxVips + NEW_CONN_RATE_CNTR) = some ⟨BitVec.ofNat 64 n, 0⟩

variable {build}

/-- One call counts, and reports a flood if it did not begin a second and the count is too high. -/
theorem isUnderFlood_of_connRate {n : ℕ} {m : Machine} (h : ConnRate build n m)
    (hn : n + 1 < 2 ^ 64) (call : FloodCall) :
    (isUnderFlood build call.curTime m).1 =
        decide (¬ call.BeginsQuanta ∧ build.maxConnRate.toNat < n + 1) ∧
      ConnRate build (count FloodCall.BeginsQuanta n call)
        (isUnderFlood build call.curTime m).2 := by
  have hnext : (BitVec.ofNat 64 n + 1).toNat = n + 1 := by
    rw [show (1 : BitVec 64) = BitVec.ofNat 64 1 from rfl, ← BitVec.ofNat_add, BitVec.toNat_ofNat,
      Nat.mod_eq_of_lt hn]
  have hsub : call.curTime - 0 = call.curTime := BitVec.sub_zero _
  unfold ConnRate at h ⊢
  simp only [isUnderFlood, h, hsub]
  by_cases hbegins : ONE_SEC.toNat < call.curTime.toNat
  · have hcall : call.BeginsQuanta := hbegins
    rw [if_pos hbegins]
    simp [hcall, count, Machine.bump, h]
  · have hcall : ¬ call.BeginsQuanta := hbegins
    rw [if_neg hbegins]
    constructor
    · simp only [hcall, not_false_eq_true, true_and, hnext]
    · simp only [hcall, count, if_false, Machine.bump, h, LbStats.addV1, Function.update_self,
        Option.map_some, BitVec.ofNat_add]
      rfl

/-- While no flood has been reported, the counter is the number of calls in the present second. -/
theorem underFloodResults_calm_iff (hmax : build.maxConnRate.toNat + 1 < 2 ^ 64)
    (hpos : 0 < build.maxConnRate.toNat) {calls before : List FloodCall} {m : Machine}
    (h : ConnRate build (sinceReset FloodCall.BeginsQuanta before) m)
    (hcalm : sinceReset FloodCall.BeginsQuanta before ≤ build.maxConnRate.toNat) :
    (∀ result ∈ underFloodResults build calls m, result = false) ↔
      ∀ pre, pre <+: calls →
        sinceReset FloodCall.BeginsQuanta (before ++ pre) ≤ build.maxConnRate.toNat := by
  induction calls generalizing before m with
  | nil =>
    constructor
    · intro _ pre hpre
      rw [List.prefix_nil.mp hpre, List.append_nil]
      exact hcalm
    · intro _ result hresult
      cases hresult
  | cons call calls ih =>
    obtain ⟨hresult, hafter⟩ := isUnderFlood_of_connRate h (by omega) call
    rw [← sinceReset_append_singleton] at hafter
    have hcount : sinceReset FloodCall.BeginsQuanta (before ++ [call]) ≤ build.maxConnRate.toNat ↔
        (isUnderFlood build call.curTime m).1 = false := by
      rw [hresult, sinceReset_append_singleton, decide_eq_false_iff_not]
      by_cases hbegins : call.BeginsQuanta
      · simp only [count, hbegins, if_true, not_true_eq_false, false_and, not_false_eq_true,
          iff_true]
        omega
      · simp only [count, hbegins, if_false, not_false_eq_true, true_and, not_lt]
    rw [underFloodResults]
    constructor
    · intro hfalse pre hpre
      have hle := hcount.mpr (hfalse _ List.mem_cons_self)
      cases pre with
      | nil => rwa [List.append_nil]
      | cons first pre =>
        obtain ⟨rfl, hp⟩ := List.cons_prefix_cons.mp hpre
        have hrest := (ih hafter hle).mp fun result hmem ↦
          hfalse result (List.mem_cons_of_mem _ hmem)
        simpa using hrest pre hp
    · intro hpre result hmem
      have hle := hpre [call] ⟨calls, rfl⟩
      rcases List.mem_cons.mp hmem with rfl | hmem
      · exact hcount.mp hle
      · refine (ih hafter hle).mpr (fun pre hp ↦ ?_) result hmem
        simpa using hpre (call :: pre) (List.cons_prefix_cons.mpr ⟨rfl, hp⟩)

/-- A counter of 64 bits never exceeds the largest bound. -/
theorem underFloodResults_of_max (hmax : build.maxConnRate.toNat + 1 = 2 ^ 64)
    {calls : List FloodCall} {m : Machine}
    (h : (m.stats (build.maxVips + NEW_CONN_RATE_CNTR)).isSome) :
    ∀ result ∈ underFloodResults build calls m, result = false := by
  induction calls generalizing m with
  | nil =>
    intro _ hresult
    cases hresult
  | cons call calls ih =>
    obtain ⟨stats, hstats⟩ := Option.isSome_iff_exists.mp h
    have hresult : (isUnderFlood build call.curTime m).1 = false := by
      simp only [isUnderFlood, hstats]
      split
      · rfl
      · have hbound := (stats.v1 + 1).isLt
        exact decide_eq_false (by omega)
    have hafter : ((isUnderFlood build call.curTime m).2.stats
        (build.maxVips + NEW_CONN_RATE_CNTR)).isSome := by
      obtain ⟨f, hf⟩ := @isUnderFlood_snd build call.curTime m
      rw [hf]
      simp [Machine.bump, hstats]
    intro result hmem
    rcases List.mem_cons.mp hmem with rfl | hmem
    · exact hresult
    · exact ih hafter result hmem

/-- Where no call is allowed, there is none. -/
theorem Paced.eq_nil {calls : List FloodCall} (hpaced : Paced build calls)
    (hmax : build.maxConnRate.toNat = 0) : calls = [] := by
  cases calls with
  | nil => rfl
  | cons call calls =>
    have hrate := hpaced.rate call.now.toNat
    rw [hmax, Nat.le_zero, List.length_eq_zero_iff] at hrate
    have hmem : call ∈ inSecond call.now.toNat (call :: calls) := by
      simp [inSecond]
    rw [hrate] at hmem
    cases hmem

/-- Calls that never find the time do not report a flood only while there are few of them. -/
theorem underFloodResults_of_noTime (hmax : build.maxConnRate.toNat + 1 < 2 ^ 64)
    (hpos : 0 < build.maxConnRate.toNat) {calls : List FloodCall} {m : Machine}
    (h : ConnRate build 0 m) (hnone : ∀ call ∈ calls, ¬ call.BeginsQuanta) :
    (∀ result ∈ underFloodResults build calls m, result = false) ↔
      calls.length ≤ build.maxConnRate.toNat := by
  rw [@underFloodResults_calm_iff build hmax hpos calls [] m h (Nat.zero_le _)]
  simp only [List.nil_append]
  rw [sinceReset_le_iff]
  constructor
  · intro hrun
    by_contra hlong
    rw [not_le] at hlong
    have hlength :
        (calls.take (build.maxConnRate.toNat + 1)).length = build.maxConnRate.toNat + 1 := by
      rw [List.length_take]
      omega
    obtain ⟨call, hmem, hbegins⟩ := hrun _ (List.take_prefix _ calls).isInfix hlength
    exact hnone call (List.mem_of_mem_take (List.mem_of_mem_tail hmem)) hbegins
  · intro hshort run hrun hlength
    have hle := hrun.length_le
    omega

/-- In a run of calls that keeps to the allowed rate, no flood is reported if and only if the bound
is the largest number of 64 bits, or of every `MAX_CONN_RATE + 1` successive calls one that is not
the first of them finds more than a second in its caller's variable. -/
theorem underFloodResults_eq_false_iff {calls : List FloodCall} {m : Machine}
    (hpaced : Paced build calls) (h : ConnRate build 0 m) :
    (∀ result ∈ underFloodResults build calls m, result = false) ↔
      build.maxConnRate.toNat + 1 = 2 ^ 64 ∨
        ∀ run, run <:+: calls → run.length = build.maxConnRate.toNat + 1 →
          ∃ call ∈ run.tail, call.BeginsQuanta := by
  have hlt : build.maxConnRate.toNat < 2 ^ 64 := build.maxConnRate.isLt
  by_cases hmax : build.maxConnRate.toNat + 1 = 2 ^ 64
  · have hsome : (m.stats (build.maxVips + NEW_CONN_RATE_CNTR)).isSome := by
      rw [show m.stats (build.maxVips + NEW_CONN_RATE_CNTR) = _ from h]
      rfl
    exact iff_of_true (underFloodResults_of_max hmax hsome) (.inl hmax)
  by_cases hzero : build.maxConnRate.toNat = 0
  · rw [hpaced.eq_nil hzero]
    constructor
    · intro _
      right
      intro run hrun hlength
      rw [List.infix_nil] at hrun
      rw [hrun] at hlength
      cases hlength
    · intro _ result hresult
      cases hresult
  · rw [@underFloodResults_calm_iff build (by omega) (by omega) calls [] m h (Nat.zero_le _)]
    simp only [List.nil_append, hmax, false_or]
    exact sinceReset_le_iff

/-! ## Connections two seconds apart -/

/-- New connections of `get_packet_dst`, two seconds apart. -/
def spacedCalls (n : ℕ) : List FloodCall :=
  (List.range n).map fun i ↦ ⟨BitVec.ofNat 64 (2 * ONE_SEC.toNat * i), 0⟩

theorem length_spacedCalls (n : ℕ) : (spacedCalls n).length = n := by
  rw [spacedCalls, List.length_map, List.length_range]

theorem spacedCalls_noTime {n : ℕ} : ∀ call ∈ spacedCalls n, ¬ call.BeginsQuanta := by
  intro call hmem
  obtain ⟨i, -, rfl⟩ := List.mem_map.mp hmem
  exact Nat.not_lt_zero _

theorem toNat_spaced {i : ℕ} (h : i < 2 ^ 32) :
    (BitVec.ofNat 64 (2 * ONE_SEC.toNat * i)).toNat = 2 * ONE_SEC.toNat * i := by
  rw [BitVec.toNat_ofNat]
  apply Nat.mod_eq_of_lt
  rw [show ONE_SEC.toNat = 1000000000 from rfl]
  omega

theorem spacedCalls_paced {n : ℕ} (hn : n < 2 ^ 32) (htwo : 2 ≤ n)
    (hmax : n ≤ build.maxConnRate.toNat + 1) : Paced build (spacedCalls n) where
  clock := by
    rw [spacedCalls, List.pairwise_map]
    apply List.pairwise_lt_range.imp_of_mem
    intro i j hi hj hij
    rw [List.mem_range] at hi hj
    rw [toNat_spaced (by omega), toNat_spaced (by omega)]
    exact Nat.mul_le_mul_left _ hij.le
  rate start := by
    -- The first two connections are not within one second.
    have hmem (i : ℕ) (hi : i < n) :
        (⟨BitVec.ofNat 64 (2 * ONE_SEC.toNat * i), 0⟩ : FloodCall) ∈ spacedCalls n :=
      List.mem_map_of_mem (List.mem_range.mpr hi)
    have hshort : (inSecond start (spacedCalls n)).length < (spacedCalls n).length := by
      rw [inSecond, List.length_filter_lt_length_iff_exists]
      by_cases hstart : start = 0
      · refine ⟨_, hmem 1 (by omega), ?_⟩
        rw [decide_eq_true_eq, toNat_spaced (by omega), hstart,
          show ONE_SEC.toNat = 1000000000 from rfl]
        omega
      · refine ⟨_, hmem 0 (by omega), ?_⟩
        rw [decide_eq_true_eq, toNat_spaced (by omega), Nat.mul_zero]
        omega
    rw [length_spacedCalls] at hshort
    omega

/-- After 125000 connections, however far apart, every further one is taken for a flood. -/
theorem spacedCalls_underFlood :
    Paced .plain (spacedCalls 125001) ∧
      ∃ result ∈ underFloodResults .plain (spacedCalls 125001) .sample, result = true := by
  have hmax : Build.plain.maxConnRate.toNat = 125000 := rfl
  constructor
  · apply spacedCalls_paced <;> omega
  · by_contra hnone
    have hfalse : ∀ result ∈ underFloodResults .plain (spacedCalls 125001) .sample,
        result = false := by
      intro result hmem
      rw [← Bool.not_eq_true]
      intro htrue
      exact hnone ⟨result, hmem, htrue⟩
    have hfresh : ConnRate .plain 0 .sample := rfl
    have hfew := (underFloodResults_of_noTime (by omega) (by omega) hfresh
      spacedCalls_noTime).mp hfalse
    rw [length_spacedCalls] at hfew
    omega

theorem spacedCalls_calm :
    Paced .plain (spacedCalls 2) ∧ ConnRate .plain 0 .sample ∧
      ((∀ result ∈ underFloodResults .plain (spacedCalls 2) .sample, result = false) ↔
        Build.plain.maxConnRate.toNat + 1 = 2 ^ 64 ∨
          ∀ run, run <:+: spacedCalls 2 → run.length = Build.plain.maxConnRate.toNat + 1 →
            ∃ call ∈ run.tail, call.BeginsQuanta) :=
  have hpaced : Paced .plain (spacedCalls 2) :=
    spacedCalls_paced (by omega) le_rfl (by decide)
  ⟨hpaced, rfl, underFloodResults_eq_false_iff hpaced rfl⟩

end Vsoshlb.DataPlane
