import Vsoshlb.Library.Totals
import Vsoshlb.ControlPlane.LruScans

/-!
# Statistics of the LRU maps

`analyzeLru` counts the entries of the maps of the cores by the service they belong to. A service
that is configured with its port gets its name. All others are put together under port 0, which may
be the key of a configured service itself, and are named by their address.

However the tables are walked, entries are neither lost nor counted twice on the way. What a scan
does not see is another matter: it starts from the key that is zero, and stops at its bound.
-/

namespace Vsoshlb

open DataPlane (FlowKey RealPosLru LruMap)
open HashTable (Walk All total modify eraseAll)

/-! ## The tables -/

/-- `LruVipKey`, the part of a key that says what it is a connection to. -/
structure LruVipKey where
  dst : BitVec 128
  port : BitVec 16
  proto : BitVec 8
deriving DecidableEq, Repr

/-- `VipLruStats`. -/
structure VipLruStats where
  vip : String
  count : ℕ
  staleRealsCount : ℕ
  atimeZeroCount : ℕ
  atimeUnder30secCount : ℕ
  atime30to60secCount : ℕ
  atimeOver60secCount : ℕ
deriving DecidableEq, Repr

def VipLruStats.new : VipLruStats := ⟨"", 0, 0, 0, 0, 0, 0⟩

def VipLruStats.add (stats other : VipLruStats) : VipLruStats :=
  { stats with
    count := stats.count + other.count
    staleRealsCount := stats.staleRealsCount + other.staleRealsCount
    atimeZeroCount := stats.atimeZeroCount + other.atimeZeroCount
    atimeUnder30secCount := stats.atimeUnder30secCount + other.atimeUnder30secCount
    atime30to60secCount := stats.atime30to60secCount + other.atime30to60secCount
    atimeOver60secCount := stats.atimeOver60secCount + other.atimeOver60secCount }

abbrev PerVipStats := Finmap fun _ : LruVipKey ↦ VipLruStats

structure LruStatsResponse where
  perVipStats : PerVipStats
  error : String

/-! ## Counting -/

section Counting

variable (tables : Tables)

/-- `deltaSec`, which is an `int`. -/
def deltaSec (currentTimeNs atime : BitVec 64) : ℤ :=
  (((currentTimeNs - atime) / 1000000000).setWidth 32).toInt

/-- An entry whose real is not known. -/
def countStale (real : RealPosLru) (stats : VipLruStats) : VipLruStats :=
  if real.pos = 0 then
    { stats with staleRealsCount := stats.staleRealsCount + 1 }
  else if (tables.numToReals.lookup real.pos.toNat).isNone then
    { stats with staleRealsCount := stats.staleRealsCount + 1 }
  else
    stats

/-- The age of an entry. -/
def countAtime (currentTimeNs : BitVec 64) (real : RealPosLru) (stats : VipLruStats) :
    VipLruStats :=
  if real.atime = 0 then
    { stats with atimeZeroCount := stats.atimeZeroCount + 1 }
  else if deltaSec currentTimeNs real.atime < 30 then
    { stats with atimeUnder30secCount := stats.atimeUnder30secCount + 1 }
  else if deltaSec currentTimeNs real.atime < 60 then
    { stats with atime30to60secCount := stats.atime30to60secCount + 1 }
  else
    { stats with atimeOver60secCount := stats.atimeOver60secCount + 1 }

/-- What `analyzeLruMap` counts for an entry. -/
def countEntry (currentTimeNs : BitVec 64) (real : RealPosLru) (stats : VipLruStats) :
    VipLruStats :=
  countAtime currentTimeNs real (countStale tables real { stats with count := stats.count + 1 })

def lruVipKey (key : FlowKey) : LruVipKey := ⟨key.dst, key.dport, key.proto⟩

/-- What `analyzeLruMap` does to a key. -/
def analyzeKey (currentTimeNs : BitVec 64) (lruMap : LruMap) (key : FlowKey)
    (acc : LruStatsResponse × LruMaps) : LruStatsResponse × LruMaps :=
  match acc.2.bpfMapLookupElement lruMap key with
  | (.ok real, maps) =>
    ({ acc.1 with
      perVipStats :=
        modify .new acc.1.perVipStats (lruVipKey key) (countEntry tables currentTimeNs real) },
      maps)
  | (.error _, maps) => ({ acc.1 with error := "lookup error" }, maps)

def analyzeOps (currentTimeNs : BitVec 64) (lruMap : LruMap) :
    Scan.Ops (LruStatsResponse × LruMaps) FlowKey where
  keys acc := (acc.2.tables lruMap).keys
  fails acc := acc.2.nextOutcome = false
  poll acc := (acc.1, acc.2.poll)
  visit := analyzeKey tables currentTimeNs lruMap
  report fault acc := ({ acc.1 with error := faultText fault }, acc.2)
  full _ := false

/-- `analyzeLruMap`. -/
def analyzeLruMap (kLruMaxLookups : ℕ) (currentTimeNs : BitVec 64) (lruMap : LruMap)
    (acc : LruStatsResponse × LruMaps) : LruStatsResponse × LruMaps :=
  (analyzeOps tables currentTimeNs lruMap).loop kLruMaxLookups true ⟨0, 0, 0, 0, 0⟩ acc

/-- The loop of `analyzeLru` over the maps of the cores. Each of them has its reading of the
clock. -/
def analyzeLruMaps (kLruMaxLookups : ℕ) (ktimeNs : String → BitVec 64) (fds : LruFds)
    (maps : LruMaps) : LruStatsResponse × LruMaps :=
  fds.cores.foldl (fun acc source ↦
    analyzeLruMap tables kLruMaxLookups (ktimeNs source.1) source.2 acc) (⟨∅, ""⟩, maps)

end Counting

/-! ## Naming -/

/-- `"{}-{}-{}"` with the address, the port and the protocol. -/
def vipName (vipKey : VipKey) : String :=
  vipKey.address ++ "-" ++ toString vipKey.port.toNat ++ "-" ++ toString vipKey.proto.toNat

/-- A number as `{:x}` writes it. -/
def hexText (word : BitVec 32) : String := String.ofList (Nat.toDigits 16 word.toNat)

/-- The number that the processor reads in `dstv6[i]`. -/
def dstv6 (dst : BitVec 128) (i : ℕ) : BitVec 32 := reverseBytes (dst.extractLsb' (96 - 32 * i) 32)

/-- `"agg-{:x},{:x},{:x},{:x}-{}"` with the address and the protocol. -/
def aggName (key : LruVipKey) : String :=
  "agg-" ++ hexText (dstv6 key.dst 0) ++ "," ++ hexText (dstv6 key.dst 1) ++ "," ++
    hexText (dstv6 key.dst 2) ++ "," ++ hexText (dstv6 key.dst 3) ++ "-" ++
    toString key.proto.toNat

/-- The name of a VIP is written into its statistics, if there are any. -/
def nameVip (folly : Folly) (resp : LruStatsResponse) (vipKey : VipKey) : LruStatsResponse :=
  match flowKeyFromParams folly vipKey "::0" 0 with
  | none => { resp with error := "invalid vips_ key" }
  | some flowKey =>
    match resp.perVipStats.lookup (lruVipKey flowKey) with
    | none => resp
    | some stats =>
      { resp with
        perVipStats :=
          resp.perVipStats.insert (lruVipKey flowKey) { stats with vip := vipName vipKey } }

/-! ## Aggregation -/

/-- The key with port 0. -/
def LruVipKey.aggregate (key : LruVipKey) : LruVipKey := { key with port := 0 }

/-- The statistics without a name are added up by address and protocol. -/
def aggregateStep (aggregateVipStats : PerVipStats) (entry : LruVipKey × VipLruStats) :
    PerVipStats :=
  if entry.2.vip ≠ "" then
    aggregateVipStats
  else
    modify .new aggregateVipStats entry.1.aggregate fun stats ↦ stats.add entry.2

/-- The statistics of an address are added to those of its port 0, which get a name if they have
none. -/
def mergeStep (perVipStats : PerVipStats) (entry : LruVipKey × VipLruStats) : PerVipStats :=
  modify .new perVipStats entry.1 fun stats ↦
    let stats := stats.add entry.2
    if stats.vip = "" then { stats with vip := aggName entry.1 } else stats

/-- The orders in which `analyzeLru` walks its two tables. -/
structure StatsWalks where
  perVipStats : Walk LruVipKey VipLruStats
  erasing : Walk LruVipKey VipLruStats
  aggregateVipStats : Walk LruVipKey VipLruStats

/-- `analyzeLru`. The keys of `vips_` are in the order of their iteration. -/
def analyzeLru (folly : Folly) (tables : Tables) (kLruMaxLookups : ℕ) (ktimeNs : String → BitVec 64)
    (fds : LruFds) (vips : List VipKey) (walks : StatsWalks) (maps : LruMaps) :
    LruStatsResponse × LruMaps :=
  let (resp, maps) := analyzeLruMaps tables kLruMaxLookups ktimeNs fds maps
  let resp := vips.foldl (nameVip folly) resp
  let aggregateVipStats := (walks.perVipStats.order resp.perVipStats).foldl aggregateStep ∅
  let named := eraseAll walks.erasing (fun _ stats ↦ stats.vip = "") resp.perVipStats
  let perVipStats :=
    (walks.aggregateVipStats.order aggregateVipStats).foldl mergeStep named
  ({ resp with perVipStats := perVipStats }, maps)

/-! ## What the counters count -/

inductive Counter where
  | count
  | staleReals
  | atimeZero
  | atimeUnder30sec
  | atime30to60sec
  | atimeOver60sec
deriving DecidableEq, Repr

def VipLruStats.get (stats : VipLruStats) : Counter → ℕ
  | .count => stats.count
  | .staleReals => stats.staleRealsCount
  | .atimeZero => stats.atimeZeroCount
  | .atimeUnder30sec => stats.atimeUnder30secCount
  | .atime30to60sec => stats.atime30to60secCount
  | .atimeOver60sec => stats.atimeOver60secCount

/-- The entry is one of those that the counter is for. -/
def Counter.counts (tables : Tables) (currentTimeNs : BitVec 64) (real : RealPosLru) :
    Counter → Bool
  | .count => true
  | .staleReals => real.pos = 0 ∨ tables.numToReals.lookup real.pos.toNat = none
  | .atimeZero => real.atime = 0
  | .atimeUnder30sec => real.atime ≠ 0 ∧ deltaSec currentTimeNs real.atime < 30
  | .atime30to60sec => real.atime ≠ 0 ∧ 30 ≤ deltaSec currentTimeNs real.atime ∧
      deltaSec currentTimeNs real.atime < 60
  | .atimeOver60sec => real.atime ≠ 0 ∧ 60 ≤ deltaSec currentTimeNs real.atime

/-- The entry is a connection to the address with the protocol, and the counter is for it. -/
def isOfKind (tables : Tables) (currentTimeNs : BitVec 64) (dst : BitVec 128) (proto : BitVec 8)
    (counter : Counter) (entry : FlowKey × RealPosLru) : Bool :=
  decide (entry.1.dst = dst ∧ entry.1.proto = proto) &&
    counter.counts tables currentTimeNs entry.2

/-- What some statistics contribute to a counter of an address and a protocol. -/
def tally (dst : BitVec 128) (proto : BitVec 8) (counter : Counter) (key : LruVipKey)
    (stats : VipLruStats) : ℕ :=
  if key.dst = dst ∧ key.proto = proto then stats.get counter else 0

section Tally

variable {tables : Tables} {currentTimeNs : BitVec 64} {dst : BitVec 128} {proto : BitVec 8}
  {counter : Counter}

@[simp]
theorem get_new : VipLruStats.new.get counter = 0 := by
  cases counter with
  | count => rfl
  | staleReals => rfl
  | atimeZero => rfl
  | atimeUnder30sec => rfl
  | atime30to60sec => rfl
  | atimeOver60sec => rfl

@[simp]
theorem get_add (stats other : VipLruStats) :
    (stats.add other).get counter = stats.get counter + other.get counter := by
  cases counter with
  | count => rfl
  | staleReals => rfl
  | atimeZero => rfl
  | atimeUnder30sec => rfl
  | atime30to60sec => rfl
  | atimeOver60sec => rfl

@[simp]
theorem get_vip (stats : VipLruStats) (vip : String) :
    ({ stats with vip := vip } : VipLruStats).get counter = stats.get counter := by
  cases counter with
  | count => rfl
  | staleReals => rfl
  | atimeZero => rfl
  | atimeUnder30sec => rfl
  | atime30to60sec => rfl
  | atimeOver60sec => rfl

theorem get_countStale (real : RealPosLru) (stats : VipLruStats) :
    (countStale tables real stats).get counter =
      stats.get counter +
        if counter = .staleReals ∧ Counter.staleReals.counts tables currentTimeNs real then 1
        else 0 := by
  unfold countStale
  by_cases hstale : real.pos = 0 ∨ tables.numToReals.lookup real.pos.toNat = none
  · have hcounts : Counter.staleReals.counts tables currentTimeNs real = true :=
      decide_eq_true hstale
    have hbranch : (if real.pos = 0 then
          { stats with staleRealsCount := stats.staleRealsCount + 1 }
        else if (tables.numToReals.lookup real.pos.toNat).isNone then
          { stats with staleRealsCount := stats.staleRealsCount + 1 }
        else stats) = { stats with staleRealsCount := stats.staleRealsCount + 1 } := by
      split_ifs with hpos hnone
      · rfl
      · rfl
      · exact absurd (hstale.resolve_left hpos) (by simpa using hnone)
    rw [hbranch, hcounts]
    cases counter with
    | staleReals => rfl
    | _ => rfl
  · have hcounts : Counter.staleReals.counts tables currentTimeNs real = false :=
      decide_eq_false hstale
    obtain ⟨hpos, hsome⟩ := not_or.mp hstale
    rw [if_neg hpos, if_neg (by simpa using hsome), hcounts, if_neg (by simp), Nat.add_zero]

theorem get_countAtime (real : RealPosLru) (stats : VipLruStats) :
    (countAtime currentTimeNs real stats).get counter =
      stats.get counter +
        if (counter ≠ .count ∧ counter ≠ .staleReals) ∧ counter.counts tables currentTimeNs real
        then 1 else 0 := by
  unfold countAtime
  by_cases hzero : real.atime = 0
  · rw [if_pos hzero]
    cases counter with
    | count => rfl
    | staleReals => rfl
    | _ => simp [VipLruStats.get, Counter.counts, hzero]
  · have hset : real.atime ≠ 0#64 := hzero
    rw [if_neg hzero]
    generalize hdelta : deltaSec currentTimeNs real.atime = delta
    by_cases hunder : delta < 30
    · have hsixty : ¬ 60 ≤ delta := by omega
      rw [if_pos hunder]
      cases counter with
      | count => rfl
      | staleReals => rfl
      | _ => simp [VipLruStats.get, Counter.counts, hdelta, hset, hunder, hsixty]
    · have hthirty : 30 ≤ delta := Int.not_lt.mp hunder
      rw [if_neg hunder]
      by_cases hmiddle : delta < 60
      · rw [if_pos hmiddle]
        cases counter with
        | count => rfl
        | staleReals => rfl
        | _ => simp [VipLruStats.get, Counter.counts, hdelta, hset, hthirty, hmiddle]
      · have hsixty : 60 ≤ delta := Int.not_lt.mp hmiddle
        rw [if_neg hmiddle]
        cases counter with
        | count => rfl
        | staleReals => rfl
        | _ => simp [VipLruStats.get, Counter.counts, hdelta, hset, hthirty, hsixty]

/-- Every counter goes up by one for the entries that it is for. -/
theorem get_countEntry (real : RealPosLru) (stats : VipLruStats) :
    (countEntry tables currentTimeNs real stats).get counter =
      stats.get counter + if counter.counts tables currentTimeNs real then 1 else 0 := by
  rw [countEntry, @get_countAtime tables, @get_countStale tables currentTimeNs]
  cases counter with
  | count => rfl
  | staleReals => simp [VipLruStats.get]
  | _ => simp [VipLruStats.get]

theorem tally_new (key : LruVipKey) : tally dst proto counter key .new = 0 := by
  unfold tally
  split_ifs
  · exact get_new
  · rfl

theorem tally_add (key : LruVipKey) (stats other : VipLruStats) :
    tally dst proto counter key (stats.add other) =
      tally dst proto counter key stats + tally dst proto counter key other := by
  unfold tally
  split_ifs
  · exact get_add stats other
  · rfl

theorem tally_vip (key : LruVipKey) (stats : VipLruStats) (vip : String) :
    tally dst proto counter key { stats with vip := vip } = tally dst proto counter key stats := by
  unfold tally
  rw [get_vip]

/-- The port does not matter. -/
theorem tally_aggregate (key : LruVipKey) (stats : VipLruStats) :
    tally dst proto counter key.aggregate stats = tally dst proto counter key stats := rfl

theorem tally_countEntry (entry : FlowKey × RealPosLru) (stats : VipLruStats) :
    tally dst proto counter (lruVipKey entry.1) (countEntry tables currentTimeNs entry.2 stats) =
      tally dst proto counter (lruVipKey entry.1) stats +
        if isOfKind tables currentTimeNs dst proto counter entry then 1 else 0 := by
  unfold tally isOfKind lruVipKey
  dsimp only
  by_cases hkind : entry.1.dst = dst ∧ entry.1.proto = proto
  · rw [if_pos hkind, if_pos hkind, decide_eq_true hkind, Bool.true_and, get_countEntry]
  · rw [if_neg hkind, if_neg hkind, decide_eq_false hkind, Bool.false_and]
    rfl

end Tally

/-! ## The scans -/

section Scans

variable {tables : Tables} {currentTimeNs : BitVec 64} {dst : BitVec 128} {proto : BitVec 8}
  {counter : Counter} {kLruMaxLookups : ℕ} {lruMap : LruMap}

/-- An error has been reported. -/
def StatsFaulty (acc : LruStatsResponse × LruMaps) : Prop := acc.1.error ≠ ""

/-- What the analysis of a key does: an error, or the entry is counted. -/
theorem analyzeKey_cases (key : FlowKey) (acc : LruStatsResponse × LruMaps) :
    analyzeKey tables currentTimeNs lruMap key acc =
        (⟨acc.1.perVipStats, "lookup error"⟩, acc.2.poll) ∨
      ∃ real, (acc.2.tables lruMap).lookup key = some real ∧
        analyzeKey tables currentTimeNs lruMap key acc =
          (⟨modify .new acc.1.perVipStats (lruVipKey key) (countEntry tables currentTimeNs real),
            acc.1.error⟩, acc.2.poll) := by
  unfold analyzeKey
  rcases acc.2.bpfMapLookupElement_cases lruMap key with ⟨res, hlookup⟩ | ⟨real, hreal, hlookup⟩
  · rw [hlookup]
    exact Or.inl rfl
  · rw [hlookup]
    exact Or.inr ⟨real, hreal, rfl⟩

theorem analyzeKey_tables (key : FlowKey) (acc : LruStatsResponse × LruMaps) :
    (analyzeKey tables currentTimeNs lruMap key acc).2.tables = acc.2.tables := by
  rcases @analyzeKey_cases tables currentTimeNs lruMap key acc with hkey | ⟨real, -, hkey⟩
  · rw [hkey, LruMaps.poll_tables]
  · rw [hkey, LruMaps.poll_tables]

theorem analyzeKey_of_faulty {key : FlowKey} {acc : LruStatsResponse × LruMaps}
    (h : StatsFaulty acc) : StatsFaulty (analyzeKey tables currentTimeNs lruMap key acc) := by
  rcases @analyzeKey_cases tables currentTimeNs lruMap key acc with hkey | ⟨real, -, hkey⟩
  · rw [hkey]
    exact (by decide : "lookup error" ≠ "")
  · rw [hkey]
    exact h

theorem analyzeOps_lawful : (analyzeOps tables currentTimeNs lruMap).Lawful StatsFaulty where
  keys_poll _ := rfl
  keys_visit key acc := by
    left
    change ((analyzeKey tables currentTimeNs lruMap key acc).2.tables lruMap).keys = _
    rw [analyzeKey_tables]
    rfl
  faulty_report fault _ := faultText_ne fault
  faulty_poll _ h := h
  faulty_visit _ _ h := analyzeKey_of_faulty h

theorem analyzeLruMap_of_faulty {acc : LruStatsResponse × LruMaps} (h : StatsFaulty acc) :
    StatsFaulty (analyzeLruMap tables kLruMaxLookups currentTimeNs lruMap acc) :=
  analyzeOps_lawful.faulty_loop kLruMaxLookups true _ h

theorem analyzeLruMap_tables (acc : LruStatsResponse × LruMaps) :
    (analyzeLruMap tables kLruMaxLookups currentTimeNs lruMap acc).2.tables = acc.2.tables := by
  let Same (acc' : LruStatsResponse × LruMaps) : Prop := acc'.2.tables = acc.2.tables
  refine Scan.Ops.loop_invariant (P := Same) (fun _ hs ↦ hs) (fun key acc' hs ↦ ?_)
    (fun _ _ hs ↦ hs) kLruMaxLookups true _ rfl
  exact (analyzeKey_tables key acc').trans hs

/-- What the analysis of a key does to the statistics, if it has no error. -/
def analyzeEffect (tables : Tables) (currentTimeNs : BitVec 64) (lruMap : LruMap)
    (part : (LruMap → LruTable) × PerVipStats) (key : FlowKey) :
    (LruMap → LruTable) × PerVipStats :=
  match (part.1 lruMap).lookup key with
  | none => part
  | some real =>
    (part.1, modify .new part.2 (lruVipKey key) (countEntry tables currentTimeNs real))

theorem analyzeKey_effect {key : FlowKey} {acc : LruStatsResponse × LruMaps}
    (hok : ¬ StatsFaulty (analyzeKey tables currentTimeNs lruMap key acc)) :
    ((analyzeKey tables currentTimeNs lruMap key acc).2.tables,
        (analyzeKey tables currentTimeNs lruMap key acc).1.perVipStats) =
      analyzeEffect tables currentTimeNs lruMap (acc.2.tables, acc.1.perVipStats) key := by
  unfold analyzeEffect
  rcases @analyzeKey_cases tables currentTimeNs lruMap key acc with hkey | ⟨real, hreal, hkey⟩
  · rw [hkey] at hok
    exact absurd (by decide : "lookup error" ≠ "") hok
  · rw [hkey, hreal]
    rfl

/-- Every entry that is visited is counted. -/
theorem total_foldl_analyzeEffect {lruTables : LruMap → LruTable}
    {visited : List (FlowKey × RealPosLru)}
    (hvisited : ∀ entry ∈ visited, entry ∈ (lruTables lruMap).entries) (stats : PerVipStats) :
    total (tally dst proto counter) ((visited.map Prod.fst).foldl
        (analyzeEffect tables currentTimeNs lruMap) (lruTables, stats)).2 =
      total (tally dst proto counter) stats +
        visited.countP (isOfKind tables currentTimeNs dst proto counter) := by
  induction visited generalizing stats with
  | nil => rfl
  | cons entry visited ih =>
    have hlookup := LruTable.lookup_of_mem (hvisited entry List.mem_cons_self)
    have heffect : analyzeEffect tables currentTimeNs lruMap (lruTables, stats) entry.1 =
        (lruTables, modify .new stats (lruVipKey entry.1)
          (countEntry tables currentTimeNs entry.2)) := by
      unfold analyzeEffect
      rw [hlookup]
    rw [List.map_cons, List.foldl_cons, heffect,
      ih (fun other hother ↦ hvisited other (List.mem_cons_of_mem _ hother)),
      HashTable.total_modify (tally_new _) (tally_countEntry entry), List.countP_cons,
      Nat.add_assoc, Nat.add_comm (visited.countP _)]

/-- The number of entries of a kind in the map. -/
def LruTable.numOf (table : LruTable) (tables : Tables) (currentTimeNs : BitVec 64)
    (dst : BitVec 128) (proto : BitVec 8) (counter : Counter) : ℕ :=
  table.entries.countP (isOfKind tables currentTimeNs dst proto counter)

/-- The scan of a map that reports nothing counts its entries. -/
theorem total_analyzeLruMap (hlookups : 0 < kLruMaxLookups) {acc : LruStatsResponse × LruMaps}
    (hzero : ⟨0, 0, 0, 0, 0⟩ ∉ (acc.2.tables lruMap).keys)
    (hok : ¬ StatsFaulty (analyzeLruMap tables kLruMaxLookups currentTimeNs lruMap acc)) :
    total (tally dst proto counter)
        (analyzeLruMap tables kLruMaxLookups currentTimeNs lruMap acc).1.perVipStats =
      total (tally dst proto counter) acc.1.perVipStats +
        (acc.2.tables lruMap).numOf tables currentTimeNs dst proto counter := by
  let view (acc : LruStatsResponse × LruMaps) : (LruMap → LruTable) × PerVipStats :=
    (acc.2.tables, acc.1.perVipStats)
  have hview : view (analyzeLruMap tables kLruMaxLookups currentTimeNs lruMap acc) =
      (acc.2.tables lruMap).keys.foldl (analyzeEffect tables currentTimeNs lruMap)
        (acc.2.tables, acc.1.perVipStats) :=
    analyzeOps_lawful.view_scan view (fun _ ↦ rfl) (fun _ _ ↦ analyzeKey_effect) hlookups hzero
      (acc.2.tables lruMap).nodup hok
  have hstats := congrArg Prod.snd hview
  dsimp only [view] at hstats
  rw [hstats, LruTable.keys, total_foldl_analyzeEffect fun _ h ↦ h]
  rfl

/-- The scans of the maps, one after the other. -/
theorem total_foldl_analyzeLruMap (hlookups : 0 < kLruMaxLookups) {ktimeNs : String → BitVec 64}
    {sources : List (String × LruMap)} {acc : LruStatsResponse × LruMaps}
    (hzero : ∀ source ∈ sources, ⟨0, 0, 0, 0, 0⟩ ∉ (acc.2.tables source.2).keys)
    (hok : ¬ StatsFaulty (sources.foldl (fun acc source ↦
      analyzeLruMap tables kLruMaxLookups (ktimeNs source.1) source.2 acc) acc)) :
    total (tally dst proto counter) (sources.foldl (fun acc source ↦
        analyzeLruMap tables kLruMaxLookups (ktimeNs source.1) source.2 acc) acc).1.perVipStats =
      total (tally dst proto counter) acc.1.perVipStats + (sources.map fun source ↦
        (acc.2.tables source.2).numOf tables (ktimeNs source.1) dst proto counter).sum := by
  induction sources generalizing acc with
  | nil => rfl
  | cons source sources ih =>
    rw [List.foldl_cons] at hok ⊢
    have hmap : ¬ StatsFaulty
        (analyzeLruMap tables kLruMaxLookups (ktimeNs source.1) source.2 acc) := by
      intro hfaulty
      exact hok (Runs.foldl_invariant StatsFaulty hfaulty sources
        fun _ _ ↦ analyzeLruMap_of_faulty)
    have htables : (analyzeLruMap tables kLruMaxLookups (ktimeNs source.1) source.2 acc).2.tables =
        acc.2.tables := analyzeLruMap_tables acc
    rw [ih (fun other hother ↦ htables ▸ hzero other (List.mem_cons_of_mem _ hother)) hok,
      total_analyzeLruMap hlookups (hzero source List.mem_cons_self) hmap, htables,
      List.map_cons, List.sum_cons, Nat.add_assoc]

theorem total_analyzeLruMaps (hlookups : 0 < kLruMaxLookups) {ktimeNs : String → BitVec 64}
    {fds : LruFds} {maps : LruMaps}
    (hzero : ∀ source ∈ fds.cores, ⟨0, 0, 0, 0, 0⟩ ∉ (maps.tables source.2).keys)
    (hok : (analyzeLruMaps tables kLruMaxLookups ktimeNs fds maps).1.error = "") :
    total (tally dst proto counter)
        (analyzeLruMaps tables kLruMaxLookups ktimeNs fds maps).1.perVipStats =
      (fds.cores.map fun source ↦
        (maps.tables source.2).numOf tables (ktimeNs source.1) dst proto counter).sum :=
  (total_foldl_analyzeLruMap hlookups hzero (not_not.mpr hok)).trans (Nat.zero_add _)

end Scans

/-! ## Conservation -/

section Conservation

variable {folly : Folly} {dst : BitVec 128} {proto : BitVec 8} {counter : Counter}

theorem total_nameVip (resp : LruStatsResponse) (vipKey : VipKey) :
    total (tally dst proto counter) (nameVip folly resp vipKey).perVipStats =
      total (tally dst proto counter) resp.perVipStats := by
  unfold nameVip
  cases flowKeyFromParams folly vipKey "::0" 0 with
  | none => rfl
  | some flowKey =>
    dsimp only
    cases hstats : resp.perVipStats.lookup (lruVipKey flowKey) with
    | none => rfl
    | some stats => exact HashTable.total_insert_of_lookup hstats (tally_vip _ stats _)

theorem total_nameVips (vips : List VipKey) (resp : LruStatsResponse) :
    total (tally dst proto counter) (vips.foldl (nameVip folly) resp).perVipStats =
      total (tally dst proto counter) resp.perVipStats := by
  let Same (resp' : LruStatsResponse) : Prop :=
    total (tally dst proto counter) resp'.perVipStats =
      total (tally dst proto counter) resp.perVipStats
  exact Runs.foldl_invariant Same rfl vips fun resp' vipKey h ↦ (total_nameVip resp' vipKey).trans h

/-- What the entries without a name contribute. -/
def unnamedTally (dst : BitVec 128) (proto : BitVec 8) (counter : Counter) (key : LruVipKey)
    (stats : VipLruStats) : ℕ :=
  if stats.vip = "" then tally dst proto counter key stats else 0

theorem total_aggregateStep (aggregateVipStats : PerVipStats) (entry : LruVipKey × VipLruStats) :
    total (tally dst proto counter) (aggregateStep aggregateVipStats entry) =
      total (tally dst proto counter) aggregateVipStats +
        unnamedTally dst proto counter entry.1 entry.2 := by
  unfold aggregateStep unnamedTally
  by_cases hvip : entry.2.vip = ""
  · rw [if_neg (not_not.mpr hvip), if_pos hvip]
    apply HashTable.total_modify (tally_new _)
    intro stats
    rw [tally_add, tally_aggregate entry.1 entry.2]
  · rw [if_pos hvip, if_neg hvip, Nat.add_zero]

theorem total_mergeStep (perVipStats : PerVipStats) (entry : LruVipKey × VipLruStats) :
    total (tally dst proto counter) (mergeStep perVipStats entry) =
      total (tally dst proto counter) perVipStats + tally dst proto counter entry.1 entry.2 := by
  apply HashTable.total_modify (tally_new _)
  intro stats
  dsimp only
  split_ifs
  · rw [tally_vip, tally_add]
  · exact tally_add _ _ _

/-- The statistics without a name go to the aggregates, and from there back to the others. -/
theorem total_regrouped (walks : StatsWalks) (perVipStats : PerVipStats) :
    total (tally dst proto counter) ((walks.aggregateVipStats.order
        ((walks.perVipStats.order perVipStats).foldl aggregateStep ∅)).foldl mergeStep
          (eraseAll walks.erasing (fun _ stats ↦ stats.vip = "") perVipStats)) =
      total (tally dst proto counter) perVipStats := by
  have haggregates : total (tally dst proto counter)
      ((walks.perVipStats.order perVipStats).foldl aggregateStep ∅) =
        total (unnamedTally dst proto counter) perVipStats := by
    rw [HashTable.total_foldl total_aggregateStep, HashTable.total_order, HashTable.total_empty,
      Nat.zero_add]
  rw [HashTable.total_foldl total_mergeStep, HashTable.total_order, haggregates,
    HashTable.total_eraseAll, ← HashTable.total_add]
  congr 1
  funext key stats
  unfold unnamedTally
  by_cases hvip : stats.vip = ""
  · simp [hvip]
  · simp [hvip]

end Conservation

/-! ## Single entries -/

section Entries

variable {folly : Folly} {tables : Tables} {kLruMaxLookups : ℕ} {ktimeNs : String → BitVec 64}
  {fds : LruFds} {maps : LruMaps}

/-- Every entry that was counted had one age. -/
def VipLruStats.Balanced (stats : VipLruStats) : Prop :=
  stats.count = stats.atimeZeroCount + stats.atimeUnder30secCount + stats.atime30to60secCount +
    stats.atimeOver60secCount

theorem balanced_new : VipLruStats.new.Balanced := rfl

theorem VipLruStats.Balanced.add {stats other : VipLruStats} (h : stats.Balanced)
    (hother : other.Balanced) : (stats.add other).Balanced := by
  unfold Balanced at h hother ⊢
  simp only [VipLruStats.add]
  omega

/-- Of the four counters of ages, one goes up. -/
theorem VipLruStats.Balanced.countEntry {stats : VipLruStats} (h : stats.Balanced)
    (currentTimeNs : BitVec 64) (real : RealPosLru) :
    (countEntry tables currentTimeNs real stats).Balanced := by
  have hstale (stats : VipLruStats) : countStale tables real stats =
      { stats with staleRealsCount := (countStale tables real stats).staleRealsCount } := by
    unfold countStale
    split_ifs
    · rfl
    · rfl
    · rfl
  unfold Balanced at h ⊢
  unfold Vsoshlb.countEntry countAtime
  rw [hstale]
  split_ifs
  · dsimp only
    omega
  · dsimp only
    omega
  · dsimp only
    omega
  · dsimp only
    omega

theorem balanced_analyzeLruMap {currentTimeNs : BitVec 64} {lruMap : LruMap}
    {acc : LruStatsResponse × LruMaps} (h : All VipLruStats.Balanced acc.1.perVipStats) :
    All VipLruStats.Balanced
      (analyzeLruMap tables kLruMaxLookups currentTimeNs lruMap acc).1.perVipStats := by
  let Kept (acc : LruStatsResponse × LruMaps) : Prop := All VipLruStats.Balanced acc.1.perVipStats
  refine Scan.Ops.loop_invariant (P := Kept) (fun _ hs ↦ hs) (fun key acc hs ↦ ?_)
    (fun _ _ hs ↦ hs) kLruMaxLookups true _ h
  change All VipLruStats.Balanced
    (analyzeKey tables currentTimeNs lruMap key acc).1.perVipStats
  rcases @analyzeKey_cases tables currentTimeNs lruMap key acc with hkey | ⟨real, -, hkey⟩
  · rw [hkey]
    exact hs
  · rw [hkey]
    exact hs.modify balanced_new _ fun _ hstats ↦ hstats.countEntry currentTimeNs real

theorem balanced_analyzeLruMaps : All VipLruStats.Balanced
    (analyzeLruMaps tables kLruMaxLookups ktimeNs fds maps).1.perVipStats := by
  let Kept (acc : LruStatsResponse × LruMaps) : Prop := All VipLruStats.Balanced acc.1.perVipStats
  exact Runs.foldl_invariant Kept HashTable.all_empty fds.cores fun _ _ ↦ balanced_analyzeLruMap

theorem balanced_nameVips {resp : LruStatsResponse} (h : All VipLruStats.Balanced resp.perVipStats)
    (vips : List VipKey) :
    All VipLruStats.Balanced (vips.foldl (nameVip folly) resp).perVipStats := by
  let Kept (resp : LruStatsResponse) : Prop := All VipLruStats.Balanced resp.perVipStats
  refine Runs.foldl_invariant Kept h vips fun resp vipKey hresp ↦ ?_
  unfold nameVip
  cases flowKeyFromParams folly vipKey "::0" 0 with
  | none => exact hresp
  | some flowKey =>
    dsimp only
    cases hstats : resp.perVipStats.lookup (lruVipKey flowKey) with
    | none => exact hresp
    | some stats =>
      have hbalanced : ({ stats with vip := vipName vipKey } : VipLruStats).Balanced :=
        hresp _ stats hstats
      exact HashTable.All.insert hresp hbalanced _

theorem balanced_aggregates (walk : Walk LruVipKey VipLruStats) {t : PerVipStats}
    (h : All VipLruStats.Balanced t) :
    All VipLruStats.Balanced ((walk.order t).foldl aggregateStep ∅) := by
  refine Runs.foldl_invariant_of_mem (All VipLruStats.Balanced) HashTable.all_empty
    fun agg entry hentry hagg ↦ ?_
  have hbalanced : entry.2.Balanced := h entry.1 entry.2 ((walk.mem_order t).mp hentry)
  unfold aggregateStep
  split_ifs
  · exact hagg
  · exact hagg.modify balanced_new _ fun _ hstats ↦ hstats.add hbalanced

theorem aggName_ne (key : LruVipKey) : aggName key ≠ "" := by
  delta aggName
  intro h
  have hlength := congrArg String.length h
  have hfront : "agg-".length = 4 := rfl
  simp only [String.length_append] at hlength
  rw [hfront, String.length_empty] at hlength
  omega

/-- What every entry of the response has. -/
def VipLruStats.Complete (stats : VipLruStats) : Prop := stats.vip ≠ "" ∧ stats.Balanced

/-- A merge gives a name to what has none. -/
theorem complete_mergeStep {t : PerVipStats} (h : All VipLruStats.Complete t)
    {entry : LruVipKey × VipLruStats} (hentry : entry.2.Balanced) :
    All VipLruStats.Complete (mergeStep t entry) := by
  have hold : All VipLruStats.Balanced t := fun key stats hstats ↦ (h key stats hstats).2
  apply h.insert
  have hbalanced : (((t.lookup entry.1).getD .new).add entry.2).Balanced :=
    (hold.getD balanced_new entry.1).add hentry
  dsimp only
  split_ifs with hvip
  · exact ⟨aggName_ne entry.1, hbalanced⟩
  · exact ⟨hvip, hbalanced⟩

theorem complete_regrouped (walks : StatsWalks) {perVipStats : PerVipStats}
    (h : All VipLruStats.Balanced perVipStats) :
    All VipLruStats.Complete ((walks.aggregateVipStats.order
      ((walks.perVipStats.order perVipStats).foldl aggregateStep ∅)).foldl mergeStep
        (eraseAll walks.erasing (fun _ stats ↦ stats.vip = "") perVipStats)) := by
  have hnamed : All VipLruStats.Complete
      (eraseAll walks.erasing (fun _ stats ↦ stats.vip = "") perVipStats) := by
    intro key stats hstats
    obtain ⟨hlookup, hvip⟩ := (HashTable.lookup_eraseAll _).mp hstats
    exact ⟨of_decide_eq_false hvip, h key stats hlookup⟩
  have haggregates := balanced_aggregates walks.perVipStats h
  refine Runs.foldl_invariant_of_mem (All VipLruStats.Complete) hnamed fun t entry hentry ht ↦ ?_
  exact complete_mergeStep ht (haggregates entry.1 entry.2
    ((walks.aggregateVipStats.mem_order _).mp hentry))

end Entries

/-! ## The whole analysis -/

section Analysis

variable {folly : Folly} {tables : Tables} {kLruMaxLookups : ℕ}

/-- Where no scan reports an error and no map has the key that is zero, the statistics add up to
the entries of the maps. They are named, and their ages add up, in any case. -/
theorem analyzeLru_conserves (hlookups : 0 < kLruMaxLookups) (ktimeNs : String → BitVec 64)
    (fds : LruFds) (vips : List VipKey) (walks : StatsWalks) (maps : LruMaps) :
    ((∀ source ∈ fds.cores, ⟨0, 0, 0, 0, 0⟩ ∉ (maps.tables source.2).keys) →
        (analyzeLruMaps tables kLruMaxLookups ktimeNs fds maps).1.error = "" →
        ∀ dst proto counter,
          total (tally dst proto counter)
              (analyzeLru folly tables kLruMaxLookups ktimeNs fds vips walks maps).1.perVipStats =
            (fds.cores.map fun source ↦
              (maps.tables source.2).numOf tables (ktimeNs source.1) dst proto counter).sum) ∧
      ∀ key stats,
        (analyzeLru folly tables kLruMaxLookups ktimeNs fds vips walks maps).1.perVipStats.lookup
            key = some stats →
          stats.vip ≠ "" ∧ stats.count = stats.atimeZeroCount + stats.atimeUnder30secCount +
            stats.atime30to60secCount + stats.atimeOver60secCount := by
  constructor
  · intro hzero hok dst proto counter
    calc
      _ = total (tally dst proto counter) (vips.foldl (nameVip folly)
          (analyzeLruMaps tables kLruMaxLookups ktimeNs fds maps).1).perVipStats :=
        total_regrouped walks _
      _ = total (tally dst proto counter)
          (analyzeLruMaps tables kLruMaxLookups ktimeNs fds maps).1.perVipStats :=
        total_nameVips vips _
      _ = _ := total_analyzeLruMaps hlookups hzero hok
  · exact complete_regrouped walks (balanced_nameVips balanced_analyzeLruMaps vips)

end Analysis

/-! ### Two VIPs and four connections -/

/-- A number for every key. -/
def LruVipKey.code (key : LruVipKey) : ℕ :=
  (key.dst.toNat * 65536 + key.port.toNat) * 256 + key.proto.toNat

theorem LruVipKey.code_injective : Function.Injective LruVipKey.code := by
  intro a b h
  have hport := a.port.isLt
  have hport' := b.port.isLt
  have hproto := a.proto.isLt
  have hproto' := b.proto.isLt
  unfold code at h
  cases a with
  | mk dst port proto =>
    cases b with
    | mk dst' port' proto' =>
      dsimp only at h hport hport' hproto hproto'
      have hdst : dst = dst' := BitVec.eq_of_toNat_eq (by omega)
      have hports : port = port' := BitVec.eq_of_toNat_eq (by omega)
      have hprotos : proto = proto' := BitVec.eq_of_toNat_eq (by omega)
      rw [hdst, hports, hprotos]

/-- Walks in the order of the keys. -/
def StatsWalks.sorted : StatsWalks where
  perVipStats := .sortedBy _ LruVipKey.code_injective
  erasing := .sortedBy _ LruVipKey.code_injective
  aggregateVipStats := .sortedBy _ LruVipKey.code_injective

/-- The address 10.0.0.1. -/
def serviceDst : BitVec 128 := DataPlane.setIpv4Part 0 0x0a000001

theorem analyzeLru_conserves_service :
    (∀ dst proto counter,
      total (tally dst proto counter) (analyzeLru serviceTexts oneReal 4 (fun _ ↦ 7000000000)
          ⟨[3, 0, 4], 9⟩ [⟨"10.0.0.1", 443, 6⟩] .sorted fourConnections).1.perVipStats =
        ((LruFds.cores ⟨[3, 0, 4], 9⟩).map fun source ↦
          (fourConnections.tables source.2).numOf oneReal 7000000000 dst proto counter).sum) ∧
      ∀ key stats,
        (analyzeLru serviceTexts oneReal 4 (fun _ ↦ 7000000000) ⟨[3, 0, 4], 9⟩
            [⟨"10.0.0.1", 443, 6⟩] .sorted fourConnections).1.perVipStats.lookup key =
          some stats →
        stats.vip ≠ "" ∧ stats.count = stats.atimeZeroCount + stats.atimeUnder30secCount +
          stats.atime30to60secCount + stats.atimeOver60secCount := by
  have hanalysis := @analyzeLru_conserves serviceTexts oneReal 4 (by decide) (fun _ ↦ 7000000000)
    ⟨[3, 0, 4], 9⟩ [⟨"10.0.0.1", 443, 6⟩] .sorted fourConnections
  exact ⟨hanalysis.1 (by decide +kernel) (by decide +kernel), hanalysis.2⟩

example : ((analyzeLru serviceTexts oneReal 4 (fun _ ↦ 7000000000) ⟨[3, 0, 4], 9⟩
    [⟨"10.0.0.1", 443, 6⟩] .sorted fourConnections).1.perVipStats.lookup ⟨serviceDst, 0, 6⟩) =
      some ⟨"agg-100000a,0,0,0-6", 1, 0, 0, 1, 0, 0⟩ := by
  decide +kernel

/-- A connection, and the key that is zero behind it. -/
def zeroBehind : LruMaps where
  tables := Function.update fourConnections.tables (.core 3)
    ⟨[(serviceKey 1001 443, ⟨1, 5⟩), (⟨0, 0, 0, 0, 0⟩, ⟨1, 5⟩)], by decide⟩
  outcomes := []

/-- A scan starts behind the key that is zero, and so misses what comes before it without an error.
A scan that ends at its bound misses what comes after it. -/
theorem analyzeLru_misses :
    ((analyzeLru serviceTexts oneReal 1000 (fun _ ↦ 7000000000) ⟨[3], 0⟩ [] .sorted
        zeroBehind).1.error = "" ∧
      total (tally serviceDst 6 .count) (analyzeLru serviceTexts oneReal 1000
          (fun _ ↦ 7000000000) ⟨[3], 0⟩ [] .sorted zeroBehind).1.perVipStats ≠
        (zeroBehind.tables (.core 3)).numOf oneReal 7000000000 serviceDst 6 .count) ∧
    (fourConnections.outcomes = [] ∧
      (analyzeLru serviceTexts oneReal 3 (fun _ ↦ 7000000000) ⟨[3], 0⟩ [] .sorted
        fourConnections).1.error = "maxed lookups" ∧
      total (tally serviceDst 6 .count) (analyzeLru serviceTexts oneReal 3
          (fun _ ↦ 7000000000) ⟨[3], 0⟩ [] .sorted fourConnections).1.perVipStats ≠
        (fourConnections.tables (.core 3)).numOf oneReal 7000000000 serviceDst 6 .count) := by
  decide +kernel

end Vsoshlb
