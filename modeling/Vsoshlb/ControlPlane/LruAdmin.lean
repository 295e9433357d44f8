import Vsoshlb.Library.Runs
import Vsoshlb.Library.Scan
import Vsoshlb.ControlPlane.State
import Vsoshlb.DataPlane.Machine

/-!
# The administration of the LRU maps

An operator asks for a connection by its VIP and its client, deletes it, or purges all connections
of a VIP. The balancer builds a key from the configuration of the VIP, whatever the flags of the VIP
make of the keys in the maps, and goes through the maps of the cores and the fallback cache.

The constant `kLruMaxLookups` is a parameter. Where a function uses a key that is not declared, the
key is the one that `flowKeyFromParams` returns.
-/

namespace Vsoshlb

open DataPlane (FlowKey RealPosLru LruMap)

/-! ## The maps -/

/-- An LRU map: its entries, in the order in which it hands out its keys. -/
structure LruTable where
  entries : List (FlowKey × RealPosLru)
  nodup : (entries.map Prod.fst).Nodup

namespace LruTable

variable (table : LruTable)

def keys : List FlowKey := table.entries.map Prod.fst

def lookup (key : FlowKey) : Option RealPosLru := table.entries.lookup key

def erase (key : FlowKey) : LruTable where
  entries := table.entries.filter fun entry ↦ entry.1 ≠ key
  nodup := table.nodup.sublist (List.filter_sublist.map _)

variable {table}

@[simp]
theorem keys_erase (key : FlowKey) : (table.erase key).keys = table.keys.filter (· ≠ key) := by
  simp [keys, erase, List.filter_map, Function.comp_def]

end LruTable

/-- The LRU maps and the outcomes of the calls on them. Calls beyond the end of the script
succeed. -/
structure LruMaps where
  tables : LruMap → LruTable
  outcomes : List Bool

/-- The descriptors that the balancer has of LRU maps. -/
structure LruFds where
  lruMapsFd : List ℤ
  fallbackFd : ℤ

/-- The LRU maps in the order in which the balancer goes through them, with their names: those of
the cores that have one, and the fallback cache. -/
def LruFds.sources (fds : LruFds) : List (String × LruMap) :=
  ((fds.lruMapsFd.zipIdx.filter fun (fd, _) ↦ 0 < fd).map fun (fd, cpu) ↦
    ("cpu" ++ toString cpu, .core fd.toNat)) ++
  if 0 < fds.fallbackFd then [("fallback", .fallbackCache)] else []

namespace LruMaps

variable (maps : LruMaps)

def ENOENT : ℤ := 2

def EINVAL : ℤ := 22

def nextOutcome : Bool := maps.outcomes.headD true

/-- What every call does to the script. -/
def poll : LruMaps := { maps with outcomes := maps.outcomes.tail }

/-- `bpfMapLookupElement`, with the code it returns where it has no value. -/
def bpfMapLookupElement (lruMap : LruMap) (key : FlowKey) : Except ℤ RealPosLru × LruMaps :=
  if maps.nextOutcome = false then
    (.error (-EINVAL), maps.poll)
  else
    match (maps.tables lruMap).lookup key with
    | none => (.error (-ENOENT), maps.poll)
    | some real => (.ok real, maps.poll)

/-- `bpfMapDeleteElement`. -/
def bpfMapDeleteElement (lruMap : LruMap) (key : FlowKey) : ℤ × LruMaps :=
  if maps.nextOutcome = false then
    (-EINVAL, maps.poll)
  else if key ∈ (maps.tables lruMap).keys then
    (0, { maps.poll with
      tables := Function.update maps.tables lruMap ((maps.tables lruMap).erase key) })
  else
    (-ENOENT, maps.poll)

end LruMaps

namespace LruMaps

variable {maps : LruMaps}

@[simp]
theorem poll_tables : maps.poll.tables = maps.tables := rfl

theorem nextOutcome_of_nil (h : maps.outcomes = []) : maps.nextOutcome = true := by
  rw [nextOutcome, h, List.headD_nil]

/-- A deletion changes its map only, in which it deletes its key or nothing. -/
theorem bpfMapDeleteElement_tables (lruMap : LruMap) (key : FlowKey) :
    (maps.bpfMapDeleteElement lruMap key).2.tables = maps.tables ∨
      (maps.bpfMapDeleteElement lruMap key).2.tables =
        Function.update maps.tables lruMap ((maps.tables lruMap).erase key) := by
  unfold bpfMapDeleteElement
  split_ifs
  · exact Or.inl rfl
  · exact Or.inr rfl
  · exact Or.inl rfl

theorem bpfMapDeleteElement_of_zero {lruMap : LruMap} {key : FlowKey}
    (h : (maps.bpfMapDeleteElement lruMap key).1 = 0) :
    (maps.bpfMapDeleteElement lruMap key).2.tables =
      Function.update maps.tables lruMap ((maps.tables lruMap).erase key) := by
  unfold bpfMapDeleteElement at h ⊢
  split_ifs at h ⊢
  · simp [EINVAL] at h
  · rfl
  · simp [ENOENT] at h

@[simp]
theorem bpfMapDeleteElement_outcomes (lruMap : LruMap) (key : FlowKey) :
    (maps.bpfMapDeleteElement lruMap key).2.outcomes = maps.outcomes.tail := by
  unfold bpfMapDeleteElement
  split_ifs
  · rfl
  · rfl
  · rfl

end LruMaps

/-! ## The key -/

variable (folly : Folly)

/-- `flowKeyFromParams`, with `none` where an address does not parse. -/
def flowKeyFromParams (dstVip : VipKey) (srcIp : String) (srcPort : BitVec 16) : Option FlowKey :=
  match folly.parse dstVip.address with
  | none => none
  | some vip =>
    match folly.parse srcIp with
    | none => none
    | some src => some
      { src := (parseAddrToBe src).addr
        dst := (parseAddrToBe vip).addr
        sport := bigEndian srcPort
        dport := bigEndian dstVip.port
        proto := dstVip.proto }

/-! ## Search -/

/-- `LruEntry`. -/
structure LruEntry where
  realAddress : String
  realPos : BitVec 32
  atime : BitVec 64
  atimeDeltaSec : ℤ
  sourceMap : String
  srcAddress : String
  srcPort : BitVec 16
deriving DecidableEq, Repr

structure LruEntries where
  error : String
  entries : List LruEntry
deriving DecidableEq, Repr

/-- `lookupLruMap`, with the text of the error where there is no entry. -/
def lookupLruMap (tables : Tables) (lruMap : LruMap) (key : FlowKey) (maps : LruMaps) :
    Except String LruEntry × LruMaps :=
  match maps.bpfMapLookupElement lruMap key with
  | (.error res, maps) => (.error ("error=" ++ toString res), maps)
  | (.ok real, maps) =>
    let realAddress :=
      if real.pos = 0 then ""
      else ((tables.numToReals.lookup real.pos.toNat).map folly.str).getD ""
    (.ok ⟨realAddress, real.pos, real.atime, 0, "", "", 0⟩, maps)

/-- `fillAtimeDelta`. -/
def fillAtimeDelta (currentTimeNs : BitVec 64) (entries : LruEntries) : LruEntries :=
  { entries with
    entries := entries.entries.map fun entry ↦
      if 0 < entry.atime.toNat then
        { entry with atimeDeltaSec := ((currentTimeNs - entry.atime) / 1000000000).toInt }
      else
        entry }

/-- The search in one map. -/
def searchStep (tables : Tables) (key : FlowKey) (acc : LruEntries × LruMaps)
    (source : String × LruMap) : LruEntries × LruMaps :=
  match lookupLruMap folly tables source.2 key acc.2 with
  | (.ok entry, maps) =>
    ({ acc.1 with entries := acc.1.entries ++ [{ entry with sourceMap := source.1 }] }, maps)
  | (.error error, maps) => ({ acc.1 with error := error }, maps)

/-- `searchLru`. -/
def searchLru (fds : LruFds) (tables : Tables) (currentTimeNs : BitVec 64) (dstVip : VipKey)
    (srcIp : String) (srcPort : BitVec 16) (maps : LruMaps) : LruEntries × LruMaps :=
  match flowKeyFromParams folly dstVip srcIp srcPort with
  | none => (⟨"", []⟩, maps)
  | some key =>
    let (lruEntries, maps) := fds.sources.foldl (searchStep folly tables key) (⟨"", []⟩, maps)
    (fillAtimeDelta currentTimeNs lruEntries, maps)

section Search

variable {folly} {tables : Tables} {key : FlowKey}

theorem searchStep_maps (acc : LruEntries × LruMaps) (source : String × LruMap) :
    (searchStep folly tables key acc source).2 = acc.2.poll := by
  unfold searchStep lookupLruMap LruMaps.bpfMapLookupElement
  split_ifs
  · rfl
  · cases (acc.2.tables source.2).lookup key with
    | none => rfl
    | some real => rfl

theorem mem_searchStep {acc : LruEntries × LruMaps} {entry : LruEntry}
    (h : entry ∈ acc.1.entries) (source : String × LruMap) :
    entry ∈ (searchStep folly tables key acc source).1.entries := by
  unfold searchStep
  split
  · exact List.mem_append_left _ h
  · exact h

/-- The map has the flow, and the search says where. -/
theorem searchStep_found {acc : LruEntries × LruMaps} (hok : acc.2.outcomes = [])
    {source : String × LruMap} {real : RealPosLru}
    (hreal : (acc.2.tables source.2).lookup key = some real) :
    ∃ entry ∈ (searchStep folly tables key acc source).1.entries,
      entry.sourceMap = source.1 ∧ entry.realPos = real.pos ∧ entry.atime = real.atime := by
  unfold searchStep lookupLruMap LruMaps.bpfMapLookupElement
  rw [LruMaps.nextOutcome_of_nil hok, if_neg (by decide), hreal]
  exact ⟨_, List.mem_append_right _ (List.mem_singleton.mpr rfl), rfl, rfl, rfl⟩

theorem searchSteps_found {sources : List (String × LruMap)} {acc : LruEntries × LruMaps}
    (hok : acc.2.outcomes = []) {source : String × LruMap} (hsource : source ∈ sources)
    {real : RealPosLru} (hreal : (acc.2.tables source.2).lookup key = some real) :
    ∃ entry ∈ (sources.foldl (searchStep folly tables key) acc).1.entries,
      entry.sourceMap = source.1 ∧ entry.realPos = real.pos ∧ entry.atime = real.atime := by
  let Same (acc' : LruEntries × LruMaps) : Prop :=
    acc'.2.outcomes = [] ∧ acc'.2.tables = acc.2.tables
  let Found (acc' : LruEntries × LruMaps) : Prop := ∃ entry ∈ acc'.1.entries,
    entry.sourceMap = source.1 ∧ entry.realPos = real.pos ∧ entry.atime = real.atime
  refine Runs.foldl_reaches (I := Same) (Q := Found) (fun acc' other h ↦ ?_)
    (fun acc' other h ↦ ?_) hsource (fun acc' h ↦ searchStep_found h.1 (h.2 ▸ hreal)) ⟨hok, rfl⟩
  · have hmaps := @searchStep_maps folly tables key acc' other
    unfold Same
    rw [hmaps]
    exact ⟨by rw [LruMaps.poll, h.1, List.tail_nil], h.2⟩
  · obtain ⟨entry, hentry, hfound⟩ := h
    exact ⟨entry, mem_searchStep hentry other, hfound⟩

/-- The search for a flow finds it in every map that has it. -/
theorem searchLru_found {fds : LruFds} {maps : LruMaps} (hok : maps.outcomes = [])
    {dstVip : VipKey} {srcIp : String} {srcPort : BitVec 16}
    (hkey : flowKeyFromParams folly dstVip srcIp srcPort = some key) (currentTimeNs : BitVec 64)
    {source : String × LruMap} (hsource : source ∈ fds.sources) {real : RealPosLru}
    (hreal : (maps.tables source.2).lookup key = some real) :
    ∃ entry ∈ (searchLru folly fds tables currentTimeNs dstVip srcIp srcPort maps).1.entries,
      entry.sourceMap = source.1 ∧ entry.realPos = real.pos ∧ entry.atime = real.atime := by
  obtain ⟨entry, hentry, hfound⟩ :=
    @searchSteps_found folly tables key fds.sources (⟨"", []⟩, maps) hok source hsource real hreal
  simp only [searchLru, hkey, fillAtimeDelta]
  refine ⟨_, List.mem_map_of_mem hentry, ?_⟩
  split_ifs
  · exact hfound
  · exact hfound

end Search

/-! ## Deletion -/

def deleteStep (key : FlowKey) (acc : List String × LruMaps) (source : String × LruMap) :
    List String × LruMaps :=
  let (res, maps) := acc.2.bpfMapDeleteElement source.2 key
  (if res = 0 then acc.1 ++ [source.1] else acc.1, maps)

/-- `deleteLru`. -/
def deleteLru (fds : LruFds) (dstVip : VipKey) (srcIp : String) (srcPort : BitVec 16)
    (maps : LruMaps) : List String × LruMaps :=
  match flowKeyFromParams folly dstVip srcIp srcPort with
  | none => ([], maps)
  | some key => fds.sources.foldl (deleteStep key) ([], maps)

section Deletion

variable {folly} {key : FlowKey}

theorem deleteStep_tables (acc : List String × LruMaps) (source : String × LruMap) :
    (deleteStep key acc source).2 = (acc.2.bpfMapDeleteElement source.2 key).2 := rfl

/-- A key that a map does not have stays away. -/
theorem LruMaps.notMem_bpfMapDeleteElement {maps : LruMaps} {lruMap : LruMap} {k : FlowKey}
    (h : k ∉ (maps.tables lruMap).keys) (lruMap' : LruMap) :
    k ∉ ((maps.bpfMapDeleteElement lruMap' key).2.tables lruMap).keys := by
  rcases maps.bpfMapDeleteElement_tables lruMap' key with hsame | hdeleted
  · rwa [hsame]
  · rw [hdeleted]
    by_cases hmap : lruMap = lruMap'
    · subst hmap
      rw [Function.update_self, LruTable.keys_erase]
      exact fun hmem ↦ h (List.mem_of_mem_filter hmem)
    · rwa [Function.update_of_ne hmap]

/-- A deletion that is not stopped leaves the map without its key. -/
theorem LruMaps.bpfMapDeleteElement_gone {maps : LruMaps} (hok : maps.outcomes = [])
    (lruMap : LruMap) : key ∉ ((maps.bpfMapDeleteElement lruMap key).2.tables lruMap).keys := by
  unfold bpfMapDeleteElement
  rw [nextOutcome_of_nil hok, if_neg (by decide)]
  split_ifs with hmem
  · simp
  · exact hmem

theorem deleteStep_ne_nil {acc : List String × LruMaps} (h : acc.1 ≠ [])
    (source : String × LruMap) : (deleteStep key acc source).1 ≠ [] := by
  simp only [deleteStep]
  split_ifs
  · exact fun hnil ↦ h (List.append_eq_nil_iff.mp hnil).1
  · exact h

/-- Until a deletion succeeds, a flow stays where it is. -/
theorem deleteStep_reports {acc : List String × LruMaps} (hok : acc.2.outcomes = [])
    {lruMap : LruMap} (h : acc.1 ≠ [] ∨ key ∈ (acc.2.tables lruMap).keys)
    (source : String × LruMap) :
    (deleteStep key acc source).1 ≠ [] ∨
      source.2 ≠ lruMap ∧ key ∈ ((deleteStep key acc source).2.tables lruMap).keys := by
  rcases h with h | h
  · exact Or.inl (deleteStep_ne_nil h source)
  · by_cases hmap : source.2 = lruMap
    · left
      simp [deleteStep, LruMaps.bpfMapDeleteElement, LruMaps.nextOutcome_of_nil hok, hmap, h]
    · right
      refine ⟨hmap, ?_⟩
      rw [deleteStep_tables]
      rcases acc.2.bpfMapDeleteElement_tables source.2 key with hsame | hdeleted
      · rwa [hsame]
      · rwa [hdeleted, Function.update_of_ne (Ne.symm hmap)]

/-- The deletion of a flow leaves no map with it, and says so if there was one. -/
theorem deleteLru_gone {fds : LruFds} {maps : LruMaps} (hok : maps.outcomes = [])
    {dstVip : VipKey} {srcIp : String} {srcPort : BitVec 16}
    (hkey : flowKeyFromParams folly dstVip srcIp srcPort = some key) {source : String × LruMap}
    (hsource : source ∈ fds.sources) :
    key ∉ ((deleteLru folly fds dstVip srcIp srcPort maps).2.tables source.2).keys ∧
      (key ∈ (maps.tables source.2).keys →
        (deleteLru folly fds dstVip srcIp srcPort maps).1 ≠ []) := by
  simp only [deleteLru, hkey]
  have hscript (acc : List String × LruMaps) (other : String × LruMap)
      (h : acc.2.outcomes = []) : (deleteStep key acc other).2.outcomes = [] := by
    rw [deleteStep_tables, LruMaps.bpfMapDeleteElement_outcomes, h, List.tail_nil]
  constructor
  · let Running (acc : List String × LruMaps) : Prop := acc.2.outcomes = []
    let Gone (acc : List String × LruMaps) : Prop := key ∉ (acc.2.tables source.2).keys
    refine Runs.foldl_reaches (I := Running) (Q := Gone) hscript (fun acc other h ↦ ?_) hsource
      (fun acc h ↦ ?_) hok
    · exact LruMaps.notMem_bpfMapDeleteElement h other.2
    · exact LruMaps.bpfMapDeleteElement_gone h source.2
  · intro hmem
    let Reported (acc : List String × LruMaps) : Prop := acc.1 ≠ []
    let Pending (acc : List String × LruMaps) : Prop :=
      acc.2.outcomes = [] ∧ (acc.1 ≠ [] ∨ key ∈ (acc.2.tables source.2).keys)
    refine Runs.foldl_reaches (I := Pending) (Q := Reported)
      (fun acc other h ↦ ⟨hscript acc other h.1, ?_⟩) (fun acc other h ↦ deleteStep_ne_nil h other)
      hsource (fun acc h ↦ ?_) ⟨hok, Or.inr hmem⟩
    · exact (deleteStep_reports h.1 h.2 other).imp_right And.right
    · exact (deleteStep_reports h.1 h.2 source).resolve_right fun hother ↦ hother.1 rfl

end Deletion

/-! ## Purge -/

structure PurgeResponse where
  deletedCount : ℕ
  error : String
deriving DecidableEq, Repr

/-- The key has the protocol, the port and the address of the VIP. -/
def matchesFilter (filter key : FlowKey) : Bool :=
  key.proto = filter.proto ∧ key.dport = filter.dport ∧ key.dst = filter.dst

/-- What a scan of an LRU map reports. -/
def faultText : Scan.Fault → String
  | .query => "query error"
  | .maxed => "maxed lookups"
  | .full => "limit reached"

/-- What `purgeVipLruMap` does to a key. -/
def purgeKey (lruMap : LruMap) (filter key : FlowKey) (acc : PurgeResponse × LruMaps) :
    PurgeResponse × LruMaps :=
  if matchesFilter filter key then
    let (delRes, maps) := acc.2.bpfMapDeleteElement lruMap key
    if delRes ≠ 0 then
      ({ acc.1 with error := "delete error" }, maps)
    else
      ({ acc.1 with deletedCount := acc.1.deletedCount + 1 }, maps)
  else
    acc

def purgeOps (lruMap : LruMap) (filter : FlowKey) : Scan.Ops (PurgeResponse × LruMaps) FlowKey where
  keys acc := (acc.2.tables lruMap).keys
  fails acc := acc.2.nextOutcome = false
  poll acc := (acc.1, acc.2.poll)
  visit := purgeKey lruMap filter
  report fault acc := ({ acc.1 with error := faultText fault }, acc.2)
  full _ := false

/-- `purgeVipLruMap`. -/
def purgeVipLruMap (kLruMaxLookups : ℕ) (lruMap : LruMap) (filter : FlowKey) (maps : LruMaps) :
    PurgeResponse × LruMaps :=
  (purgeOps lruMap filter).loop kLruMaxLookups true ⟨0, 0, 0, 0, 0⟩ (⟨0, ""⟩, maps)

def purgeStep (kLruMaxLookups : ℕ) (filterKey : FlowKey) (acc : PurgeResponse × LruMaps)
    (source : String × LruMap) : PurgeResponse × LruMaps :=
  let (mapResp, maps) := purgeVipLruMap kLruMaxLookups source.2 filterKey acc.2
  let response := { acc.1 with deletedCount := acc.1.deletedCount + mapResp.deletedCount }
  (if mapResp.error ≠ "" then { response with error := mapResp.error } else response, maps)

/-- `purgeVipLru`. -/
def purgeVipLru (kLruMaxLookups : ℕ) (fds : LruFds) (dstVip : VipKey) (maps : LruMaps) :
    PurgeResponse × LruMaps :=
  match flowKeyFromParams folly dstVip "::0" 0 with
  | none => (⟨0, "invalid vip address"⟩, maps)
  | some filterKey => fds.sources.foldl (purgeStep kLruMaxLookups filterKey) (⟨0, ""⟩, maps)

section Purge

variable {lruMap : LruMap} {filter key : FlowKey}

/-- An error has been reported. -/
def Faulty (acc : PurgeResponse × LruMaps) : Prop := acc.1.error ≠ ""

theorem faultText_ne (fault : Scan.Fault) : faultText fault ≠ "" := by
  cases fault with
  | query => decide
  | maxed => decide
  | full => decide

theorem purgeKey_of_faulty {acc : PurgeResponse × LruMaps} (h : Faulty acc) :
    Faulty (purgeKey lruMap filter key acc) := by
  unfold purgeKey
  split_ifs
  · dsimp only
    split_ifs
    · exact (by decide : "delete error" ≠ "")
    · exact h
  · exact h

theorem purgeKey_maps (acc : PurgeResponse × LruMaps) :
    (purgeKey lruMap filter key acc).2 =
      if matchesFilter filter key then (acc.2.bpfMapDeleteElement lruMap key).2 else acc.2 := by
  unfold purgeKey
  by_cases hmatch : matchesFilter filter key = true
  · rw [if_pos hmatch, if_pos hmatch]
    dsimp only
    split_ifs
    · rfl
    · rfl
  · rw [if_neg hmatch, if_neg hmatch]

/-- A purge without an error deletes the keys that match. -/
theorem purgeKey_keys {acc : PurgeResponse × LruMaps}
    (hok : ¬ Faulty (purgeKey lruMap filter key acc)) :
    ((purgeKey lruMap filter key acc).2.tables lruMap).keys =
      if matchesFilter filter key then (acc.2.tables lruMap).keys.filter (· ≠ key)
      else (acc.2.tables lruMap).keys := by
  unfold purgeKey at hok ⊢
  split_ifs with hmatch
  · rw [if_pos hmatch] at hok
    dsimp only at hok ⊢
    by_cases hres : (acc.2.bpfMapDeleteElement lruMap key).1 = 0
    · rw [if_neg (not_not.mpr hres), LruMaps.bpfMapDeleteElement_of_zero hres, Function.update_self,
        LruTable.keys_erase]
    · rw [if_pos hres] at hok
      exact absurd (by decide : "delete error" ≠ "") hok
  · rfl

theorem purgeOps_lawful : (purgeOps lruMap filter).Lawful Faulty where
  keys_poll _ := rfl
  keys_visit key acc := by
    change ((purgeKey lruMap filter key acc).2.tables lruMap).keys = _ ∨
      ((purgeKey lruMap filter key acc).2.tables lruMap).keys = _
    rw [purgeKey_maps]
    split_ifs
    · rcases acc.2.bpfMapDeleteElement_tables lruMap key with hsame | hdeleted
      · exact Or.inl (by rw [hsame]; rfl)
      · exact Or.inr (by rw [hdeleted, Function.update_self, LruTable.keys_erase]; rfl)
    · exact Or.inl rfl
  faulty_report fault _ := faultText_ne fault
  faulty_poll _ h := h
  faulty_visit _ _ h := purgeKey_of_faulty h

/-- A purge of a map that reports nothing deletes the keys that match, and no other. -/
theorem purgeVipLruMap_keys {kLruMaxLookups : ℕ} (hlookups : 0 < kLruMaxLookups) {maps : LruMaps}
    (hzero : ⟨0, 0, 0, 0, 0⟩ ∉ (maps.tables lruMap).keys)
    (hok : (purgeVipLruMap kLruMaxLookups lruMap filter maps).1.error = "") :
    ((purgeVipLruMap kLruMaxLookups lruMap filter maps).2.tables lruMap).keys =
      (maps.tables lruMap).keys.filter fun key ↦ !matchesFilter filter key :=
  purgeOps_lawful.keys_scan (fun _ _ ↦ purgeKey_keys) hlookups hzero
    (maps.tables lruMap).nodup (not_not.mpr hok)

/-- A purge puts nothing into a map. -/
theorem purgeVipLruMap_notMem {kLruMaxLookups : ℕ} {maps : LruMaps} {lruMap' : LruMap}
    {k : FlowKey} (h : k ∉ (maps.tables lruMap').keys) :
    k ∉ ((purgeVipLruMap kLruMaxLookups lruMap filter maps).2.tables lruMap').keys := by
  let Away (acc : PurgeResponse × LruMaps) : Prop := k ∉ (acc.2.tables lruMap').keys
  refine Scan.Ops.loop_invariant (P := Away) (fun _ hs ↦ hs) (fun key acc hs ↦ ?_)
    (fun _ _ hs ↦ hs) kLruMaxLookups true _ h
  change k ∉ ((purgeKey lruMap filter key acc).2.tables lruMap').keys
  rw [purgeKey_maps]
  split_ifs
  · exact LruMaps.notMem_bpfMapDeleteElement hs lruMap
  · exact hs

theorem purgeStep_faulty {kLruMaxLookups : ℕ} {acc : PurgeResponse × LruMaps}
    (source : String × LruMap)
    (h : Faulty acc ∨
      (purgeVipLruMap kLruMaxLookups source.2 filter acc.2).1.error ≠ "") :
    Faulty (purgeStep kLruMaxLookups filter acc source) := by
  unfold Faulty purgeStep
  dsimp only
  split_ifs with herror
  · exact herror
  · exact h.resolve_right herror

/-- A purge of a VIP that reports no error leaves no key of the VIP in any map that the balancer
knows. -/
theorem purgeVipLru_gone {folly : Folly} {kLruMaxLookups : ℕ} (hlookups : 0 < kLruMaxLookups)
    {fds : LruFds} {dstVip : VipKey} {maps : LruMaps}
    (hzero : ∀ lruMap, ⟨0, 0, 0, 0, 0⟩ ∉ (maps.tables lruMap).keys)
    (hfilter : flowKeyFromParams folly dstVip "::0" 0 = some filter)
    (hok : (purgeVipLru folly kLruMaxLookups fds dstVip maps).1.error = "")
    {source : String × LruMap} (hsource : source ∈ fds.sources)
    (hmatch : matchesFilter filter key = true) :
    key ∉ ((purgeVipLru folly kLruMaxLookups fds dstVip maps).2.tables source.2).keys := by
  simp only [purgeVipLru, hfilter] at hok ⊢
  let NoZero (acc : PurgeResponse × LruMaps) : Prop :=
    ∀ lruMap, ⟨0, 0, 0, 0, 0⟩ ∉ (acc.2.tables lruMap).keys
  let Purged (acc : PurgeResponse × LruMaps) : Prop :=
    Faulty acc ∨ key ∉ (acc.2.tables source.2).keys
  have hpurged : Purged (fds.sources.foldl (purgeStep kLruMaxLookups filter) (⟨0, ""⟩, maps)) := by
    refine Runs.foldl_reaches (I := NoZero) (Q := Purged) (fun acc other h lruMap ↦ ?_)
      (fun acc other h ↦ ?_) hsource (fun acc h ↦ ?_) hzero
    · exact purgeVipLruMap_notMem (h lruMap)
    · rcases h with h | h
      · exact Or.inl (purgeStep_faulty other (Or.inl h))
      · exact Or.inr (purgeVipLruMap_notMem h)
    · by_cases herror : (purgeVipLruMap kLruMaxLookups source.2 filter acc.2).1.error = ""
      · refine Or.inr fun hmem ↦ ?_
        have hkeys := purgeVipLruMap_keys hlookups (h source.2) herror
        have hmem' : key ∈ ((purgeVipLruMap kLruMaxLookups source.2 filter acc.2).2.tables
          source.2).keys := hmem
        rw [hkeys, List.mem_filter, hmatch] at hmem'
        exact absurd hmem'.2 (by decide)
      · exact Or.inl (purgeStep_faulty source (Or.inr herror))
  exact hpurged.resolve_left (not_not.mpr hok)

end Purge

end Vsoshlb
