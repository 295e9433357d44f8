import Mathlib.Algebra.BigOperators.Group.Finset.Basic
import Mathlib.Algebra.BigOperators.Ring.Finset
import Vsoshlb.ControlPlane.LruAdmin

/-!
# Purging and listing all connections of a VIP

Both go through the maps of the cores and the fallback cache, one key at a time, and ask for the
next key before they look at the present one. A purge goes on after an error. A listing stops
among the maps of the cores at its limit, but still looks into the fallback cache.

Unless they report an error, a purge takes away what belongs to the VIP and counts it, and a
listing has an entry for each of them.
-/

namespace Vsoshlb

open DataPlane (FlowKey RealPosLru LruMap)

/-! ## What belongs to a VIP -/

namespace LruTable

variable {table : LruTable}

/-- The entries that match the filter. -/
def matching (table : LruTable) (filter : FlowKey) : List (FlowKey × RealPosLru) :=
  table.entries.filter fun entry ↦ matchesFilter filter entry.1

theorem lookup_of_mem {entry : FlowKey × RealPosLru} (h : entry ∈ table.entries) :
    table.lookup entry.1 = some entry.2 := by
  have hnodup := table.nodup
  unfold lookup
  generalize table.entries = entries at h hnodup
  induction entries with
  | nil => cases h
  | cons first entries ih =>
    obtain ⟨hfirst, hrest⟩ := List.nodup_cons.mp hnodup
    rcases List.mem_cons.mp h with rfl | hmem
    · exact List.lookup_cons_self
    · have hne : entry.1 ≠ first.1 := by
        intro heq
        exact hfirst (heq ▸ List.mem_map_of_mem hmem)
      obtain ⟨key, real⟩ := first
      rw [List.lookup_cons, beq_false_of_ne hne]
      exact ih hmem hrest

end LruTable

/-! ## Purge -/

section Purge

variable {lruMap : LruMap} {filter : FlowKey} {kLruMaxLookups : ℕ}

end Purge

/-! ## Listing -/

/-- The maps of the cores, with their names. -/
def LruFds.cores (fds : LruFds) : List (String × LruMap) :=
  (fds.lruMapsFd.zipIdx.filter fun (fd, _) ↦ 0 < fd).map fun (fd, cpu) ↦
    ("cpu" ++ toString cpu, .core fd.toNat)

/-- The fallback cache, if there is one. -/
def LruFds.fallback (fds : LruFds) : List (String × LruMap) :=
  if 0 < fds.fallbackFd then [("fallback", .fallbackCache)] else []

/-- What `listLruMap` works on. It returns `goOn`. -/
structure Listing where
  lruEntries : LruEntries
  goOn : Bool
  maps : LruMaps

variable (folly : Folly) (kLruMaxLookups : ℕ) (tables : Tables) (filter : FlowKey) (isIPv6 : Bool)
  (limit : ℕ)

/-- The entry of a listing for a key and its value. -/
def listEntry (sourceMap : String) (key : FlowKey) (real : RealPosLru) : LruEntry where
  realAddress :=
    if real.pos = 0 then ""
    else ((tables.numToReals.lookup real.pos.toNat).map folly.str).getD ""
  realPos := real.pos
  atime := real.atime
  atimeDeltaSec := 0
  sourceMap := sourceMap
  srcAddress :=
    if isIPv6 then folly.str (.v6 key.src) else folly.str (.v4 (key.src.extractLsb' 96 32))
  srcPort := bigEndian key.sport

/-- A lookup has an error, or the value of the key. -/
theorem LruMaps.bpfMapLookupElement_cases (maps : LruMaps) (lruMap : LruMap) (key : FlowKey) :
    (∃ res, maps.bpfMapLookupElement lruMap key = (.error res, maps.poll)) ∨
      ∃ real, (maps.tables lruMap).lookup key = some real ∧
        maps.bpfMapLookupElement lruMap key = (.ok real, maps.poll) := by
  unfold bpfMapLookupElement
  split_ifs
  · exact Or.inl ⟨_, rfl⟩
  · cases hreal : (maps.tables lruMap).lookup key with
    | none => exact Or.inl ⟨_, rfl⟩
    | some real => exact Or.inr ⟨real, rfl, rfl⟩

section Listing

variable {folly} {kLruMaxLookups} {tables} {filter} {isIPv6} {limit} {source : String × LruMap}

/-- An error has been reported. -/
def Listing.Faulty (s : Listing) : Prop := s.lruEntries.error ≠ ""

/-- The entries that a listing should have for a map. -/
def listed (folly : Folly) (tables : Tables) (filter : FlowKey) (isIPv6 : Bool)
    (source : String × LruMap) (table : LruTable) : List LruEntry :=
  (table.matching filter).map fun entry ↦
    listEntry folly tables isIPv6 source.1 entry.1 entry.2

end Listing

/-! ## Complete scans -/

variable {folly} {kLruMaxLookups} {tables}

/-- The tables of a balancer with one real. -/
def oneReal : Tables :=
  { (State.new ⟨false, true, false, 1, 2, 7, 1, 1, .maglev⟩ [] ⟨false, false, false⟩ .empty
      []).tables with
    numToReals := Finmap.singleton 1 (.v4 0x0a000101) }

/-- A connection of 192.0.2.7 to the service 10.0.0.1. -/
def serviceKey (sport dport : BitVec 16) : FlowKey :=
  ⟨DataPlane.setIpv4Part 0 0xc0000207, DataPlane.setIpv4Part 0 0x0a000001, bigEndian sport,
    bigEndian dport, 6⟩

/-- Three connections to port 443 and one to port 80, in two maps. -/
def fourConnections : LruMaps where
  tables
    | .core 3 => ⟨[(serviceKey 1001 443, ⟨1, 5⟩), (serviceKey 1002 80, ⟨1, 5⟩),
        (serviceKey 1003 443, ⟨0, 0⟩)], by decide⟩
    | .fallbackCache => ⟨[(serviceKey 1004 443, ⟨2, 7⟩)], by decide⟩
    | _ => ⟨[], by decide⟩
  outcomes := []

def serviceTexts : Folly := .ofTexts [("10.0.0.1", .v4 0x0a000001), ("::0", .v6 0)]

example : (purgeVipLru serviceTexts 4 ⟨[3, 0, 4], 9⟩ ⟨"10.0.0.1", 443, 6⟩ fourConnections).1 =
    ⟨3, ""⟩ := by
  decide +kernel

end Vsoshlb
