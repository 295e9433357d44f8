import Vsoshlb.Library.BoundedLog
import Vsoshlb.Library.Runs
import Vsoshlb.Library.SideBySide
import Vsoshlb.ControlPlane.State
import Vsoshlb.DataPlane.Deliveries
import Vsoshlb.DataPlane.Healthcheck

/-!
# Reading the counters

A lookup in a map with values for every CPU gives all of them, and the balancer adds them up. The
sums are modulo 2 ^ 64, as the counters are. Testing mode, and a lookup that fails, give zeros.

The server ids that the statistics of QUIC carry are not summed: the balancer collects them in a set
that has a largest size.
-/

namespace Vsoshlb

open DataPlane

variable (config : Config)

/-- The lookup, and the loop over the values. -/
def readPerCpu {σ : Type} (zero : σ) (add : σ → σ → σ) (values : List σ) (s : State) : σ × State :=
  if config.testing then
    (zero, s)
  else
    let (ok, s) := s.bpfCall id
    (if ok then values.foldl add zero else zero, s)

/-- `getLbStats`, by what the map holds at the position. -/
def getLbStats (values : List DataPlane.LbStats) (s : State) : DataPlane.LbStats × State :=
  readPerCpu config 0 (· + ·) values s

/-- `getStatsForVip`, by what `stats` holds at each position. -/
def getStatsForVip (values : BitVec 32 → List DataPlane.LbStats) (vip : VipKey) (s : State) :
    DataPlane.LbStats × State :=
  match s.tables.vips.lookup vip with
  | none => (0, s)
  | some v => getLbStats config (values (BitVec.ofNat 32 v.vipNum)) s

/-- `getRealStats`, by what `reals_stats` holds at each position. -/
def getRealStats (values : BitVec 32 → List DataPlane.LbStats) (index : BitVec 32) (s : State) :
    DataPlane.LbStats × State :=
  getLbStats config (values index) s

def DataPlane.HcStats.zero : HcStats := ⟨0, 0, 0, 0⟩

/-- The addition in `getStatsForHealthCheckProgram`. -/
def DataPlane.HcStats.add (total stats : HcStats) : HcStats where
  pcktsProcessed := total.pcktsProcessed + stats.pcktsProcessed
  pcktsDropped := total.pcktsDropped + stats.pcktsDropped
  pcktsSkipped := total.pcktsSkipped + stats.pcktsSkipped
  pcktsTooBig := total.pcktsTooBig + stats.pcktsTooBig

def getStatsForHealthCheckProgram (values : List HcStats) (s : State) : HcStats × State :=
  readPerCpu config .zero .add values s

/-! ## Statistics of routing by server ids -/

def kMaxInvalidServerIds : ℕ := 10000

def DataPlane.QuicPacketsStats.zero : QuicPacketsStats := ⟨0, 0, 0, 0, 0, 0, 0, 0, 0, 0, 0, 0, 0⟩

/-- The addition in `getLbQuicPacketsStats`, which leaves out the samples. -/
def DataPlane.QuicPacketsStats.add (total stats : QuicPacketsStats) : QuicPacketsStats where
  chRouted := total.chRouted + stats.chRouted
  cidInitial := total.cidInitial + stats.cidInitial
  cidInvalidServerId := total.cidInvalidServerId + stats.cidInvalidServerId
  cidInvalidServerIdSample := total.cidInvalidServerIdSample
  cidRouted := total.cidRouted + stats.cidRouted
  cidUnknownRealDropped := total.cidUnknownRealDropped + stats.cidUnknownRealDropped
  cidV0 := total.cidV0 + stats.cidV0
  cidV1 := total.cidV1 + stats.cidV1
  cidV2 := total.cidV2 + stats.cidV2
  cidV3 := total.cidV3 + stats.cidV3
  dstMatchInLru := total.dstMatchInLru + stats.dstMatchInLru
  dstMismatchInLru := total.dstMismatchInLru + stats.dstMismatchInLru
  dstNotFoundInLru := total.dstNotFoundInLru + stats.dstNotFoundInLru

/-- What `getLbQuicPacketsStats` does to `invalidServerIds_` for the samples of the CPUs. -/
def logServerIds (invalidServerIds : Finset (BitVec 64)) (samples : List (BitVec 64)) :
    Finset (BitVec 64) :=
  BoundedLog.offerAll kMaxInvalidServerIds (· ≠ 0) invalidServerIds samples

/-- `getLbQuicPacketsStats`. -/
def getLbQuicPacketsStats (values : List QuicPacketsStats) (invalidServerIds : Finset (BitVec 64))
    (s : State) : QuicPacketsStats × Finset (BitVec 64) × State :=
  let (stats, t) := readPerCpu config .zero .add values s
  let invalidServerIds :=
    if config.testing = false ∧ s.nextOutcome then
      logServerIds invalidServerIds (values.map QuicPacketsStats.cidInvalidServerIdSample)
    else
      invalidServerIds
  (stats, invalidServerIds, t)

def DataPlane.TprPacketsStats.zero : TprPacketsStats := ⟨0, 0, 0, 0⟩

/-- The addition in `getTcpServerIdRoutingStats`. -/
def DataPlane.TprPacketsStats.add (total stats : TprPacketsStats) : TprPacketsStats where
  chRouted := total.chRouted + stats.chRouted
  dstMismatchInLru := total.dstMismatchInLru + stats.dstMismatchInLru
  sidRouted := total.sidRouted + stats.sidRouted
  tcpSyn := total.tcpSyn + stats.tcpSyn

def getTcpServerIdRoutingStats (values : List TprPacketsStats) (s : State) :
    TprPacketsStats × State :=
  readPerCpu config .zero .add values s

def DataPlane.StableRtPacketsStats.zero : StableRtPacketsStats := ⟨0, 0, 0, 0, 0⟩

/-- The addition in `getUdpStableRoutingStats`, which leaves out the packets of an invalid type. -/
def DataPlane.StableRtPacketsStats.add (total stats : StableRtPacketsStats) :
    StableRtPacketsStats where
  chRouted := total.chRouted + stats.chRouted
  cidRouted := total.cidRouted + stats.cidRouted
  cidInvalidServerId := total.cidInvalidServerId + stats.cidInvalidServerId
  cidUnknownRealDropped := total.cidUnknownRealDropped + stats.cidUnknownRealDropped
  invalidPacketType := total.invalidPacketType

def getUdpStableRoutingStats (values : List StableRtPacketsStats) (s : State) :
    StableRtPacketsStats × State :=
  readPerCpu config .zero .add values s

/-! ## What is read -/

variable {config} {s : State}

/-- A component that the addition adds up. -/
theorem readPerCpu_component {σ M : Type} [AddCommMonoid M] {zero : σ} {add : σ → σ → σ}
    (component : σ → M) (hzero : component zero = 0)
    (hadd : ∀ total stats, component (add total stats) = component total + component stats)
    (htesting : config.testing = false) (hok : s.nextOutcome = true) {n : ℕ} (values : Fin n → σ) :
    component (readPerCpu config zero add (List.ofFn values) s).1 = ∑ c, component (values c) := by
  have hread : (readPerCpu config zero add (List.ofFn values) s).1 =
      (List.ofFn values).foldl add zero := by
    unfold readPerCpu
    rw [if_neg (by rw [htesting]; exact Bool.false_ne_true)]
    dsimp only
    rw [State.bpfCall_fst, if_pos hok]
  have hfold (total : σ) (stats : List σ) :
      component (stats.foldl add total) = component total + (stats.map component).sum := by
    induction stats generalizing total with
    | nil => simp
    | cons first stats ih =>
      rw [List.foldl_cons, ih, hadd, List.map_cons, List.sum_cons, add_assoc]
  rw [hread, hfold, hzero, zero_add, List.map_ofFn, List.sum_ofFn]
  rfl

/-- What holds of zero and of the values, and what the addition preserves, holds of what is read. -/
theorem readPerCpu_invariant {σ : Type} {zero : σ} {add : σ → σ → σ} {p : σ → Prop} (hzero : p zero)
    {values : List σ} (hadd : ∀ total, ∀ stats ∈ values, p total → p (add total stats)) :
    p (readPerCpu config zero add values s).1 := by
  unfold readPerCpu
  split_ifs
  · exact hzero
  · dsimp only
    split_ifs
    · exact Runs.foldl_invariant_of_mem p hzero hadd
    · exact hzero

end Vsoshlb
