import Mathlib.Data.Set.Function
import Vsoshlb.HashRing.Maglev
import Vsoshlb.HashRing.VipRing

/-!
# Balancers agree whatever their history

Two balancers that serve a VIP with the same reals should have the same ring, although they learnt
of the reals in different orders, number them differently and walk their hash tables differently.
The ring in use is the one of the sorted endpoints of positive weight, however it was reached, and
hashing does not look at the numbers. The one way in which it does is through their sign as an
`int`, so the numbers have to stay below `2 ^ 31`.
-/

namespace Vsoshlb

open HashTable (Walk)

/-! ## The endpoints behind a ring -/

/-- The endpoints of positive weight, sorted by hash. -/
structure IsEndpoints (reals : VipReals) (endpoints : List Endpoint) : Prop where
  mem : ∀ e, e ∈ endpoints ↔ reals.lookup e.num = some ⟨e.weight, e.hash⟩ ∧ e.weight ≠ 0
  nodup : endpoints.Nodup
  sorted : endpoints.Pairwise fun a b ↦ compareEndpoints b a = false

theorem IsEndpoints.congr {reals reals' : VipReals} {endpoints : List Endpoint}
    (hsame : SameWeighted reals reals') (h : IsEndpoints reals endpoints) :
    IsEndpoints reals' endpoints where
  mem e := by
    rw [h.mem]
    exact and_congr_left fun hweight ↦ hsame e.num ⟨e.weight, e.hash⟩ hweight
  nodup := h.nodup
  sorted := h.sorted

theorem nodup_weightedEndpoints (walk : Walk ℕ VipReal) (reals : VipReals) :
    (weightedEndpoints walk reals).Nodup := by
  have hnums : ((weightedEndpoints walk reals).map Endpoint.num).Nodup := by
    have hkeys : (((walk.order reals).filter fun entry ↦ entry.2.weight ≠ 0).map
        Prod.fst).Nodup := by
      exact (walk.nodup_keys reals).sublist (List.filter_sublist.map Prod.fst)
    rw [weightedEndpoints, List.map_map]
    exact hkeys
  exact hnums.of_map _

theorem pairwise_sortEndpoints (endpoints : List Endpoint) :
    (sortEndpoints endpoints).Pairwise fun a b ↦ compareEndpoints b a = false := by
  have htotal : Std.Total fun a b : Endpoint ↦ compareEndpoints b a = false :=
    ⟨fun a b ↦ by simp only [compareEndpoints, decide_eq_false_iff_not]; omega⟩
  have htrans : IsTrans Endpoint fun a b ↦ compareEndpoints b a = false :=
    ⟨fun a b c ↦ by simp only [compareEndpoints, decide_eq_false_iff_not]; omega⟩
  exact List.pairwise_insertionSort _ _

theorem isEndpoints_sortEndpoints (walk : Walk ℕ VipReal) (reals : VipReals) :
    IsEndpoints reals (sortEndpoints (weightedEndpoints walk reals)) where
  mem _ := mem_sortEndpoints.trans mem_weightedEndpoints
  nodup := (List.perm_insertionSort _ _).nodup_iff.mpr (nodup_weightedEndpoints walk reals)
  sorted := pairwise_sortEndpoints _

/-! ## Renamed tables -/

def weightedNums (reals : VipReals) : Set ℕ := {num | weightOf reals num ≠ 0}

/-- `rename` is a bijection between the numbers of positive weight that keeps weight and hash. -/
structure SameReals (rename : ℕ → ℕ) (reals reals' : VipReals) : Prop where
  bij : Set.BijOn rename (weightedNums reals) (weightedNums reals')
  entry : ∀ num r, reals.lookup num = some r → r.weight ≠ 0 →
    reals'.lookup (rename num) = some r

/-- No two reals of positive weight share a hash. -/
def DistinctHashes (reals : VipReals) : Prop :=
  ∀ num num' r r', reals.lookup num = some r → r.weight ≠ 0 →
    reals.lookup num' = some r' → r'.weight ≠ 0 → r.hash = r'.hash → num = num'

theorem mem_weightedNums {reals : VipReals} {num : ℕ} {r : VipReal}
    (h : reals.lookup num = some r) : num ∈ weightedNums reals ↔ r.weight ≠ 0 := by
  simp [weightedNums, weightOf, h]

theorem exists_of_mem_weightedNums {reals : VipReals} {num : ℕ}
    (h : num ∈ weightedNums reals) : ∃ r, reals.lookup num = some r ∧ r.weight ≠ 0 := by
  cases hlookup : reals.lookup num with
  | none => simp [weightedNums, weightOf, hlookup] at h
  | some r => exact ⟨r, rfl, (mem_weightedNums hlookup).mp h⟩

theorem IsEndpoints.num_mem {reals : VipReals} {endpoints : List Endpoint}
    (h : IsEndpoints reals endpoints) {e : Endpoint} (he : e ∈ endpoints) :
    e.num ∈ weightedNums reals := by
  obtain ⟨hlookup, hweight⟩ := (h.mem e).mp he
  exact (mem_weightedNums hlookup).mpr hweight

/-- The sorted endpoints of a renamed table are the renamed endpoints. -/
theorem IsEndpoints.eq_map_rename {rename : ℕ → ℕ} {reals reals' : VipReals}
    {endpoints endpoints' : List Endpoint} (h : IsEndpoints reals endpoints)
    (h' : IsEndpoints reals' endpoints') (hsame : SameReals rename reals reals')
    (hdistinct : DistinctHashes reals) :
    endpoints' = endpoints.map (Endpoint.rename rename) := by
  have hmem : ∀ e', e' ∈ endpoints' ↔ e' ∈ endpoints.map (Endpoint.rename rename) := by
    intro e'
    rw [List.mem_map]
    constructor
    · intro he'
      obtain ⟨num, hnum, hrename⟩ := hsame.bij.surjOn (h'.num_mem he')
      obtain ⟨r, hlookup, hweight⟩ := exists_of_mem_weightedNums hnum
      have hr := hsame.entry num r hlookup hweight
      rw [hrename, ((h'.mem e').mp he').1] at hr
      obtain rfl := Option.some.inj hr
      exact ⟨⟨num, e'.weight, e'.hash⟩, (h.mem _).mpr ⟨hlookup, hweight⟩,
        by rw [Endpoint.rename, hrename]⟩
    · rintro ⟨e, he, rfl⟩
      obtain ⟨hlookup, hweight⟩ := (h.mem e).mp he
      exact (h'.mem _).mpr ⟨hsame.entry e.num _ hlookup hweight, hweight⟩
  have hinj : ∀ a ∈ endpoints, ∀ b ∈ endpoints, a.rename rename = b.rename rename → a = b := by
    intro a ha b hb heq
    have hnum : a.num = b.num :=
      hsame.bij.injOn (h.num_mem ha) (h.num_mem hb) (congrArg Endpoint.num heq)
    cases a
    cases b
    simp_all [Endpoint.rename]
  have hperm : endpoints'.Perm (endpoints.map (Endpoint.rename rename)) :=
    (List.perm_ext_iff_of_nodup h'.nodup (h.nodup.map_on hinj)).mpr hmem
  have hsorted : (endpoints.map (Endpoint.rename rename)).Pairwise
      fun a b ↦ compareEndpoints b a = false := List.pairwise_map.mpr h.sorted
  refine hperm.eq_of_pairwise (fun a b ha hb hab hba ↦ ?_) h'.sorted hsorted
  obtain ⟨a, hmema, rfl⟩ := List.mem_map.mp ((hmem a).mp ha)
  obtain ⟨b, hmemb, rfl⟩ := List.mem_map.mp hb
  have hle : ¬ b.hash < a.hash := of_decide_eq_false hab
  have hge : ¬ a.hash < b.hash := of_decide_eq_false hba
  have hhash : a.hash = b.hash := by omega
  obtain ⟨hla, hwa⟩ := (h.mem a).mp hmema
  obtain ⟨hlb, hwb⟩ := (h.mem b).mp hmemb
  have hnum := hdistinct a.num b.num _ _ hla hwa hlb hwb hhash
  rw [hnum] at hla
  have hentry := Option.some.inj (hla.symm.trans hlb)
  cases a
  cases b
  simp_all

theorem IsEndpoints.unique {reals : VipReals} {endpoints endpoints' : List Endpoint}
    (h : IsEndpoints reals endpoints) (h' : IsEndpoints reals endpoints')
    (hdistinct : DistinctHashes reals) : endpoints' = endpoints := by
  have hsame : SameReals id reals reals := ⟨Set.bijOn_id _, fun _ _ hlookup _ ↦ hlookup⟩
  have hid : Endpoint.rename id = id := rfl
  rw [h.eq_map_rename h' hsame hdistinct, hid, List.map_id]

theorem SameReals.insert {rename : ℕ → ℕ} {reals reals' : VipReals}
    (h : SameReals rename reals reals') {num : ℕ} {r : VipReal} (hr : r.weight ≠ 0)
    (hnum' : reals'.lookup (rename num) = none) :
    SameReals rename (reals.insert num r) (reals'.insert (rename num) r) := by
  have hweighted : ∀ (t : VipReals) (n : ℕ), weightedNums (t.insert n r) =
      Insert.insert n (weightedNums t) := by
    intro t n
    ext m
    by_cases hm : m = n
    · simp [weightedNums, weightOf, hm, hr]
    · simp [weightedNums, weightOf, hm]
  have hnew : rename num ∉ weightedNums reals' := by simp [weightedNums, weightOf, hnum']
  constructor
  · rw [hweighted, hweighted]
    exact h.bij.insert hnew
  · intro n r' hlookup hweight
    rw [HashTable.lookup_insert_ite] at hlookup
    split_ifs at hlookup with hn
    · obtain rfl := Option.some.inj hlookup
      rw [hn, Finmap.lookup_insert]
    · have hne : rename n ≠ rename num := fun heq ↦
        hnew (heq ▸ h.bij.mapsTo ((mem_weightedNums hlookup).mpr hweight))
      rw [Finmap.lookup_insert_of_ne _ hne]
      exact h.entry n r' hlookup hweight

/-! ## The ring in use -/

/-- Every ring returned has the requested size. -/
def ConsistentHash.KeepsSize (chash : ConsistentHash) : Prop :=
  ∀ endpoints ringSize ring, endpoints ≠ [] →
    chash.generateHashRing endpoints ringSize = some ring → ring.length = ringSize

theorem make_keepsSize (permutation : ℕ → ℕ → List ℕ) (func : HashFunction) :
    (Maglev.make permutation func).KeepsSize :=
  fun _ _ _ hne h ↦ (Maglev.generateHashRing_full permutation func hne h).length

namespace Vip

variable {chash : HashFunction → ConsistentHash}

/-- While some real has positive weight, the ring is the one of the current endpoints. -/
structure RingCurrent (chash : HashFunction → ConsistentHash) (ringSize : ℕ)
    (func : HashFunction) (v : Vip) : Prop where
  size : v.chRingSize = ringSize
  scheme : v.chash = func
  length : v.chRing.length = ringSize
  ring : HasWeight v.reals → ∃ endpoints, IsEndpoints v.reals endpoints ∧
    (chash func).generateHashRing endpoints ringSize = some v.chRing

theorem new_ringCurrent (vipNum : ℕ) (vipFlags : BitVec 32) (ringSize : ℕ)
    (func : HashFunction) :
    (Vip.new vipNum vipFlags ringSize func).RingCurrent chash ringSize func where
  size := rfl
  scheme := rfl
  length := List.length_replicate
  ring := by
    rintro ⟨num, r, hlookup, -⟩
    simp [Vip.new] at hlookup

theorem updateStep_ringCurrent (hkeeps : ∀ func, (chash func).KeepsSize) {ringSize : ℕ}
    {func : HashFunction} (v : Vip) (call : Walk ℕ VipReal × List UpdateReal) (v' : Vip)
    (hv : v.RingCurrent chash ringSize func) (h : updateStep chash v call = some v') :
    v'.RingCurrent chash ringSize func := by
  obtain ⟨walk, ureals⟩ := call
  obtain ⟨⟨delta, w⟩, hbatch, rfl⟩ := Option.map_eq_some_iff.mp h
  unfold batchRealsUpdate getEndpoints at hbatch
  dsimp only at hbatch
  cases hchanged : (applyUpdates v.reals ureals).2 with
  | false =>
    have hsame := applyUpdates_unchanged hchanged
    obtain ⟨-, rfl⟩ : [] = delta ∧ { v with reals := (applyUpdates v.reals ureals).1 } = w := by
      simpa [hchanged, calculateHashRing_nil] using hbatch
    refine ⟨hv.size, hv.scheme, hv.length, fun hweight ↦ ?_⟩
    obtain ⟨num, r, hlookup, hpos⟩ := hweight
    obtain ⟨endpoints, hes, hring⟩ := hv.ring ⟨num, r, (hsame num r hpos).mpr hlookup, hpos⟩
    exact ⟨endpoints, hes.congr hsame, hring⟩
  | true =>
    rw [hchanged, if_pos rfl] at hbatch
    rcases calculateHashRing_eq_some hbatch with
      ⟨hnil, -, rfl⟩ | ⟨hne, ring, left, hring, hdiff, rfl⟩
    · refine ⟨hv.size, hv.scheme, hv.length, fun hweight ↦ ?_⟩
      exact absurd hweight (sortEndpoints_weighted_eq_nil_iff.mp hnil)
    · simp only [hv.size, hv.scheme] at hring
      have hlength := hkeeps func _ _ _ hne hring
      obtain ⟨delta', hdelta'⟩ := diffRings_of_length_eq 0 (hlength.trans hv.length.symm)
      obtain ⟨-, rfl⟩ := Prod.mk.inj (Option.some.inj (hdelta'.symm.trans hdiff))
      exact ⟨hv.size, hv.scheme, hlength, fun _ ↦ ⟨_, isEndpoints_sortEndpoints walk _, hring⟩⟩

theorem run_ringCurrent (hkeeps : ∀ func, (chash func).KeepsSize) {vipNum : ℕ}
    {vipFlags : BitVec 32} {ringSize : ℕ} {func : HashFunction}
    {calls : List (Walk ℕ VipReal × List UpdateReal)} {v : Vip}
    (h : calls.foldlM (updateStep chash) (Vip.new vipNum vipFlags ringSize func) = some v) :
    v.RingCurrent chash ringSize func :=
  Runs.invariant (updateStep_ringCurrent hkeeps) (new_ringCurrent vipNum vipFlags ringSize func) h

/-! ## Two runs -/

/-- `rename` on the slots that hold a number. -/
def relabel (rename : ℕ → ℕ) (slot : ℤ) : ℤ :=
  if 0 ≤ slot then rename slot.toNat else slot

theorem relabel_int32 {rename : ℕ → ℕ} {num : ℕ} (hnum : num < 2 ^ 31)
    (hrename : rename num < 2 ^ 31) : int32 (rename num) = relabel rename (int32 num) := by
  simp [relabel, int32_of_lt hnum, int32_of_lt hrename]

theorem relabel_nonneg_iff (rename : ℕ → ℕ) (slot : ℤ) : 0 ≤ relabel rename slot ↔ 0 ≤ slot := by
  unfold relabel
  split_ifs <;> omega

/-- The rings agree up to `rename`, and their slots hold numbers of positive weight. -/
def RingsAgree (rename : ℕ → ℕ) (a b : Vip) : Prop :=
  ∃ slots : List ℕ, slots.length = a.chRingSize ∧ (∀ num ∈ slots, num ∈ weightedNums a.reals) ∧
    a.chRing = slots.map int32 ∧ b.chRing = slots.map fun num ↦ int32 (rename num)

theorem ringsAgree_of_small {permutation : ℕ → ℕ → List ℕ} {ringSize : ℕ} {func : HashFunction}
    {a b : Vip} (ha : a.RingCurrent (Maglev.make permutation) ringSize func)
    (hb : b.RingCurrent (Maglev.make permutation) ringSize func) {rename : ℕ → ℕ}
    (hsame : SameReals rename a.reals b.reals) (hdistinct : DistinctHashes a.reals)
    (hweight : HasWeight a.reals) (hsmall : ∀ num ∈ weightedNums a.reals, num < 2 ^ 31)
    (hsmall' : ∀ num ∈ weightedNums b.reals, num < 2 ^ 31) : RingsAgree rename a b := by
  obtain ⟨num, r, hlookup, hpos⟩ := hweight
  obtain ⟨endpoints, hes, hring⟩ := ha.ring ⟨num, r, hlookup, hpos⟩
  obtain ⟨endpoints', hes', hring'⟩ := hb.ring ⟨rename num, r, hsame.entry num r hlookup hpos, hpos⟩
  have hne : endpoints ≠ [] :=
    List.ne_nil_of_mem ((hes.mem ⟨num, r.weight, r.hash⟩).mpr ⟨hlookup, hpos⟩)
  have hslot : ∀ num ∈ weightedNums a.reals, int32 (rename num) = relabel rename (int32 num) :=
    fun num hnum ↦ relabel_int32 (hsmall num hnum) (hsmall' _ (hsame.bij.mapsTo hnum))
  have hrenamed : b.chRing = a.chRing.map (relabel rename) := by
    have h := Maglev.generateHashRing_rename permutation func (relabel_nonneg_iff rename)
      (by simp [relabel]) (fun e he ↦ hslot e.num (hes.num_mem he)) ringSize
    rw [← hes.eq_map_rename hes' hsame hdistinct, hring, hring'] at h
    exact Option.some.inj h
  have hfull := Maglev.generateHashRing_full permutation func hne hring
  have hheld : ∀ slot ∈ a.chRing, ∃ num ∈ weightedNums a.reals, slot = int32 num := by
    intro slot hmem
    obtain ⟨num, ⟨e, he, rfl⟩, heq⟩ := hfull.slots (by
      rintro num ⟨e, he, rfl⟩
      exact hsmall e.num (hes.num_mem he)) slot hmem
    exact ⟨e.num, hes.num_mem he, heq⟩
  have hback : ∀ slot ∈ a.chRing, int32 slot.toNat = slot ∧ slot.toNat ∈ weightedNums a.reals := by
    intro slot hmem
    obtain ⟨num, hnum, rfl⟩ := hheld slot hmem
    have hcast : (int32 num).toNat = num := by rw [int32_of_lt (hsmall num hnum), Int.toNat_natCast]
    rw [hcast]
    exact ⟨rfl, hnum⟩
  refine ⟨a.chRing.map Int.toNat, by rw [List.length_map, ha.length, ha.size], ?_, ?_, ?_⟩
  · intro num hmem
    obtain ⟨slot, hslot, rfl⟩ := List.mem_map.mp hmem
    exact (hback slot hslot).2
  · have hid : (a.chRing.map Int.toNat).map int32 = a.chRing.map id := by
      rw [List.map_map]
      refine List.map_congr_left fun slot hmem ↦ ?_
      rw [Function.comp_apply, (hback slot hmem).1, id]
    rw [hid, List.map_id]
  · rw [hrenamed, List.map_map]
    refine List.map_congr_left fun slot hmem ↦ ?_
    obtain ⟨hcast, hnum⟩ := hback slot hmem
    rw [Function.comp_apply, hslot _ hnum, hcast]

theorem ringsAgree_of_subsingleton {permutation : ℕ → ℕ → List ℕ} {ringSize : ℕ}
    {func : HashFunction} {a b : Vip} (ha : a.RingCurrent (Maglev.make permutation) ringSize func)
    (hb : b.RingCurrent (Maglev.make permutation) ringSize func) {rename : ℕ → ℕ}
    (hsame : SameReals rename a.reals b.reals) (hdistinct : DistinctHashes a.reals)
    (hweight : HasWeight a.reals) (hone : (weightedNums a.reals).Subsingleton) :
    RingsAgree rename a b := by
  obtain ⟨num, r, hlookup, hpos⟩ := hweight
  obtain ⟨endpoints, hes, hring⟩ := ha.ring ⟨num, r, hlookup, hpos⟩
  obtain ⟨endpoints', hes', hring'⟩ := hb.ring ⟨rename num, r, hsame.entry num r hlookup hpos, hpos⟩
  have hnum : num ∈ weightedNums a.reals := (mem_weightedNums hlookup).mpr hpos
  have hsingle : endpoints = [⟨num, r.weight, r.hash⟩] := by
    refine List.perm_singleton.mp
      ((List.perm_ext_iff_of_nodup hes.nodup (List.nodup_singleton _)).mpr fun e ↦ ?_)
    rw [hes.mem, List.mem_singleton]
    constructor
    · rintro ⟨hl, hw⟩
      obtain rfl : e.num = num := hone ((mem_weightedNums hl).mpr hw) hnum
      rw [hlookup] at hl
      rw [Option.some.inj hl]
    · rintro rfl
      exact ⟨hlookup, hpos⟩
  have hsingle' := hes.eq_map_rename hes' hsame hdistinct
  rw [hsingle] at hring hsingle'
  rw [hsingle'] at hring'
  rw [Maglev.generateHashRing_singleton] at hring
  rw [List.map_singleton, Maglev.generateHashRing_singleton] at hring'
  refine ⟨List.replicate ringSize num, by rw [List.length_replicate, ha.size], ?_, ?_, ?_⟩
  · intro n hn
    rw [List.eq_of_mem_replicate hn]
    exact hnum
  · rw [List.map_replicate]
    exact (Option.some.inj hring).symm
  · rw [List.map_replicate]
    exact (Option.some.inj hring').symm

/-! ## Every run returns -/

theorem requestedWeight_lt {reals : VipReals} {num bound : ℕ} (hreals : weightOf reals num < bound)
    {ureals : List UpdateReal} (hureals : ∀ ureal ∈ ureals, ureal.updatedReal.weight < bound) :
    requestedWeight reals ureals num < bound := by
  suffices h : ∀ weight, weight < bound →
      ureals.foldl (UpdateReal.weightFor num) weight < bound from h _ hreals
  induction ureals with
  | nil => exact fun _ h ↦ h
  | cons ureal ureals ih =>
    intro weight hweight
    obtain ⟨hureal, hureals⟩ := List.forall_mem_cons.mp hureals
    apply ih hureals _
    unfold UpdateReal.weightFor
    split_ifs
    · cases ureal.action with
      | add => exact hureal
      | del => exact Nat.zero_lt_of_lt hweight
    · exact hweight

/-- Where the rows are permutations, `uint32_t` weights let every run return. -/
theorem maglev_run_returns {permutation : ℕ → ℕ → List ℕ} {ringSize : ℕ} {func : HashFunction}
    (hringSize : 0 < ringSize)
    (hrows : ∀ hash, (permutation hash ringSize).Perm (List.range ringSize))
    {calls : List (Walk ℕ VipReal × List UpdateReal)}
    (hcalls : ∀ call ∈ calls, ∀ ureal ∈ call.2, ureal.updatedReal.weight < 2 ^ 32) {v : Vip}
    (hv : v.RingCurrent (Maglev.make permutation) ringSize func)
    (hreals : ∀ num, weightOf v.reals num < 2 ^ 32) :
    ∃ v', calls.foldlM (updateStep (Maglev.make permutation)) v = some v' := by
  induction calls generalizing v with
  | nil => exact ⟨v, rfl⟩
  | cons call calls ih =>
    obtain ⟨hcall, hcalls⟩ := List.forall_mem_cons.mp hcalls
    have hafter : ∀ num, weightOf (applyUpdates v.reals call.2).1 num < 2 ^ 32 := fun num ↦ by
      rw [weightOf_applyUpdates]
      exact requestedWeight_lt (hreals num) hcall
    have hstep : ∃ v', updateStep (Maglev.make permutation) v call = some v' ∧
        v'.reals = (applyUpdates v.reals call.2).1 := by
      unfold updateStep batchRealsUpdate getEndpoints
      dsimp only
      generalize hes : (if (applyUpdates v.reals call.2).2 = true then _ else _) = endpoints
      by_cases hnil : endpoints = []
      · exact ⟨_, by rw [hnil, calculateHashRing_nil]; rfl, rfl⟩
      · have hweight : ∀ e ∈ endpoints, e.weight < 2 ^ 32 := by
          intro e he
          split_ifs at hes
          · rw [← hes, mem_sortEndpoints, mem_weightedEndpoints] at he
            simpa [weightOf, he.1] using hafter e.num
          · exact absurd hes.symm hnil
        obtain ⟨ring, hring⟩ := Maglev.generateHashRing_returns hringSize func
          (fun e _ ↦ hrows e.hash) hweight
        have hlength := make_keepsSize permutation func _ _ _ hnil hring
        rw [← hv.scheme, ← hv.size] at hring
        obtain ⟨delta, hcalc⟩ := calculateHashRing_of_ne_nil
          (v := { v with reals := (applyUpdates v.reals call.2).1 }) hnil hring
          (hlength.trans hv.length.symm)
        exact ⟨_, by rw [hcalc]; rfl, rfl⟩
    obtain ⟨v', hv', hreals'⟩ := hstep
    have hcurrent := updateStep_ringCurrent (make_keepsSize permutation) v call v' hv hv'
    obtain ⟨w, hw⟩ := ih hcalls hcurrent fun num ↦ hreals' ▸ hafter num
    exact ⟨w, by rw [List.foldlM_cons, hv']; exact hw⟩

/-- Two histories that end with the same reals, up to the numbers, end with the same ring up to
the numbers. Numbers below `2 ^ 31` are enough, and so is a single real of positive weight. -/
theorem maglev_rings_agree (permutation : ℕ → ℕ → List ℕ) (func : HashFunction) (ringSize : ℕ)
    (vipNum vipNum' : ℕ) (vipFlags vipFlags' : BitVec 32)
    (calls calls' : List (Walk ℕ VipReal × List UpdateReal)) :
    (∀ a b rename,
      calls.foldlM (updateStep (Maglev.make permutation))
        (Vip.new vipNum vipFlags ringSize func) = some a →
      calls'.foldlM (updateStep (Maglev.make permutation))
        (Vip.new vipNum' vipFlags' ringSize func) = some b →
      SameReals rename a.reals b.reals → DistinctHashes a.reals → HasWeight a.reals →
      (weightedNums a.reals).Subsingleton ∨ ((∀ num ∈ weightedNums a.reals, num < 2 ^ 31) ∧
        ∀ num ∈ weightedNums b.reals, num < 2 ^ 31) →
      RingsAgree rename a b) ∧
    (0 < ringSize → (∀ hash, (permutation hash ringSize).Perm (List.range ringSize)) →
      (∀ call ∈ calls ++ calls', ∀ ureal ∈ call.2, ureal.updatedReal.weight < 2 ^ 32) →
      (∃ a, calls.foldlM (updateStep (Maglev.make permutation))
        (Vip.new vipNum vipFlags ringSize func) = some a) ∧
      ∃ b, calls'.foldlM (updateStep (Maglev.make permutation))
        (Vip.new vipNum' vipFlags' ringSize func) = some b) := by
  constructor
  · intro a b rename ha hb hsame hdistinct hweight hnums
    have ha := run_ringCurrent (make_keepsSize permutation) ha
    have hb := run_ringCurrent (make_keepsSize permutation) hb
    rcases hnums with hone | ⟨hsmall, hsmall'⟩
    · exact ringsAgree_of_subsingleton ha hb hsame hdistinct hweight hone
    · exact ringsAgree_of_small ha hb hsame hdistinct hweight hsmall hsmall'
  · intro hringSize hrows hcalls
    exact ⟨maglev_run_returns hringSize hrows
        (fun call h ↦ hcalls call (List.mem_append_left _ h)) (new_ringCurrent _ _ _ _)
        (by simp [weightOf, Vip.new]),
      maglev_run_returns hringSize hrows
        (fun call h ↦ hcalls call (List.mem_append_right _ h)) (new_ringCurrent _ _ _ _)
        (by simp [weightOf, Vip.new])⟩

theorem sameReals_empty (rename : ℕ → ℕ) : SameReals rename ∅ ∅ where
  bij := by
    have hnone : weightedNums ∅ = ∅ := by
      ext num
      simp [weightedNums, weightOf]
    rw [hnone]
    exact Set.bijOn_empty rename
  entry := by simp

theorem distinctHashes_pair {num num' : ℕ} {r r' : VipReal} (hne : r.hash ≠ r'.hash) :
    DistinctHashes ((Finmap.insert num' r' (Finmap.insert num r ∅) : VipReals)) := by
  intro n m s t hs _ ht _ hhash
  simp only [HashTable.lookup_insert_ite, Finmap.lookup_empty] at hs ht
  split_ifs at hs ht <;> simp_all

/-- With `2 ^ 31` for one of the numbers the second ring loses a slot. -/
theorem maglev_rings_differ :
    [(Walk.sorted, [⟨.add, ⟨1, 1, 7⟩⟩, ⟨.add, ⟨2, 1, 9⟩⟩])].foldlM
        (updateStep (Maglev.make fun _ ringSize ↦ List.range ringSize)) (Vip.new 0 0 2 .maglev) =
      some ⟨0, 0, 2, Finmap.insert 2 ⟨1, 9⟩ (Finmap.insert 1 ⟨1, 7⟩ ∅), [1, 2], .maglev⟩ ∧
    [(Walk.sorted, [⟨.add, ⟨2147483648, 1, 7⟩⟩, ⟨.add, ⟨1, 1, 9⟩⟩])].foldlM
        (updateStep (Maglev.make fun _ ringSize ↦ List.range ringSize)) (Vip.new 0 0 2 .maglev) =
      some ⟨0, 0, 2, Finmap.insert 1 ⟨1, 9⟩ (Finmap.insert 2147483648 ⟨1, 7⟩ ∅), [1, -1],
        .maglev⟩ ∧
    SameReals (fun num ↦ if num = 1 then 2147483648 else 1)
      (Finmap.insert 2 ⟨1, 9⟩ (Finmap.insert 1 ⟨1, 7⟩ ∅))
      (Finmap.insert 1 ⟨1, 9⟩ (Finmap.insert 2147483648 ⟨1, 7⟩ ∅)) ∧
    DistinctHashes (Finmap.insert 2 ⟨1, 9⟩ (Finmap.insert 1 ⟨1, 7⟩ ∅)) ∧
    ¬ RingsAgree (fun num ↦ if num = 1 then 2147483648 else 1)
      ⟨0, 0, 2, Finmap.insert 2 ⟨1, 9⟩ (Finmap.insert 1 ⟨1, 7⟩ ∅), [1, 2], .maglev⟩
      ⟨0, 0, 2, Finmap.insert 1 ⟨1, 9⟩ (Finmap.insert 2147483648 ⟨1, 7⟩ ∅), [1, -1], .maglev⟩ := by
  refine ⟨by decide +kernel, by decide +kernel, ?_, distinctHashes_pair (by decide), ?_⟩
  · exact ((sameReals_empty _).insert (by decide) (by simp)).insert (by decide) (by simp)
  · rintro ⟨slots, -, -, -, hring⟩
    have hlost : (-1 : ℤ) ∈ slots.map fun num ↦
        int32 (if num = 1 then 2147483648 else 1) := by
      rw [← hring]
      simp
    obtain ⟨num, -, hslot⟩ := List.mem_map.mp hlost
    have hvalues : int32 2147483648 ≠ -1 ∧ int32 1 ≠ -1 := by decide +kernel
    split_ifs at hslot
    · exact hvalues.1 hslot
    · exact hvalues.2 hslot

/-- The same two reals under other numbers and from another history. -/
theorem maglev_rings_agree_pair :
    RingsAgree (fun num ↦ if num = 1 then 4 else 3)
      ⟨0, 0, 3, Finmap.insert 1 ⟨2, 7⟩ (Finmap.insert 2 ⟨1, 9⟩ ∅), [1, 1, 2], .maglev⟩
      ⟨5, 1, 3, Finmap.insert 4 ⟨2, 7⟩ (Finmap.insert 3 ⟨1, 9⟩ ∅), [4, 4, 3], .maglev⟩ := by
  refine (maglev_rings_agree (fun _ ringSize ↦ List.range ringSize) .maglev 3 0 5 0 1
    [(Walk.sorted, [⟨.add, ⟨2, 1, 9⟩⟩, ⟨.add, ⟨1, 2, 7⟩⟩])]
    [(Walk.sorted, [⟨.add, ⟨3, 1, 9⟩⟩, ⟨.add, ⟨6, 1, 8⟩⟩]),
      (Walk.sorted, [⟨.del, ⟨6, 0, 0⟩⟩, ⟨.add, ⟨4, 2, 7⟩⟩])]).1 _ _ _ (by decide +kernel)
    (by decide +kernel) ?_ (distinctHashes_pair (by decide))
    ⟨1, ⟨2, 7⟩, by decide, by decide⟩ (.inr ⟨?_, ?_⟩)
  · exact ((sameReals_empty _).insert (by decide) (by simp)).insert (by decide) (by simp)
  · intro num hnum
    obtain ⟨r, hlookup, -⟩ := exists_of_mem_weightedNums hnum
    simp only [HashTable.lookup_insert_ite, Finmap.lookup_empty] at hlookup
    split_ifs at hlookup <;> omega
  · intro num hnum
    obtain ⟨r, hlookup, -⟩ := exists_of_mem_weightedNums hnum
    simp only [HashTable.lookup_insert_ite, Finmap.lookup_empty] at hlookup
    split_ifs at hlookup <;> omega

end Vip

end Vsoshlb
