import Vsoshlb.ControlPlane.IdPools
import Vsoshlb.ControlPlane.Batches

/-!
# Lists that name a real twice

When does a batch count an element that it should not? For an `ADD` it is an address that was new
when it came first and comes again: its number, taken from the pool meanwhile, is missing in the
list that the call goes by. For a `DEL` it is an address that comes again while its real is still
there. Both are conditions on the list and the tables before the call.
-/

namespace Vsoshlb

open HashTable

variable {folly : Folly} {config : Config} {chash : HashFunction → ConsistentHash}

/-! ## The condition -/

/-- The addresses that a list names. -/
def addresses (folly : Folly) (reals : List NewReal) : List IPAddress :=
  reals.filterMap fun real ↦ folly.parse real.address

theorem addresses_cons_of_none {real : NewReal} (haddr : folly.parse real.address = none)
    (reals : List NewReal) : addresses folly (real :: reals) = addresses folly reals :=
  List.filterMap_cons_none haddr

theorem addresses_cons_of_some {real : NewReal} {raddr : IPAddress}
    (haddr : folly.parse real.address = some raddr) (reals : List NewReal) :
    addresses folly (real :: reals) = raddr :: addresses folly reals :=
  List.filterMap_cons_some haddr

/-- The number in the pool that a new address gets, after the other new addresses before it in the
list. -/
def grantedNum (t : Tables) (addrs : List IPAddress) (raddr : IPAddress) : Option ℕ :=
  t.realNums[((addrs.takeWhile (· ≠ raddr)).toFinset.filter fun a ↦
    t.reals.lookup a = none).card]?

/-- A new address that comes twice and gets a number gets one that is listed already. -/
def NewRepeatsListed (listed : ℕ → Prop) (t : Tables) (addrs : List IPAddress) : Prop :=
  ∀ raddr, 2 ≤ addrs.count raddr → t.reals.lookup raddr = none →
    ∀ num, grantedNum t addrs raddr = some num → listed num

/-- Two elements with one listed number are one real with a single reference, which goes with the
first of them. -/
def ListedRepeatsLast (listed : ℕ → Prop) (t : Tables) (addrs : List IPAddress) : Prop :=
  addrs.Pairwise fun raddr raddr' ↦ ∀ r r', t.reals.lookup raddr = some r →
    t.reals.lookup raddr' = some r' → r.num = r'.num → listed r.num →
    raddr = raddr' ∧ r.refCount = 1

def RepeatsUncounted (action : ModifyAction) (listed : ℕ → Prop) (t : Tables)
    (addrs : List IPAddress) : Prop :=
  match action with
  | .add => NewRepeatsListed listed t addrs
  | .del => ListedRepeatsLast listed t addrs

/-- The numbers in the pool are in it once and with no real. -/
structure FreshPool (config : Config) (t : Tables) : Prop where
  once : ∀ num ∈ t.realNums, IdPool.total RealMeta.num t.realNums t.reals num ≤ 1
  below : config.maxReals ∉ t.realNums

/-- Zero starts outside the pool, and `getRealsForVip` can bring it in. -/
theorem IdPools.freshPool {t : Tables} (h : IdPools folly config t)
    (hreals : config.maxReals ≠ 0) (hzero : 0 ∉ t.realNums) : FreshPool config t where
  once num hnum := by
    rw [h.reals num fun heq ↦ hzero (heq ▸ hnum)]
    split_ifs
    · exact le_rfl
    · exact Nat.zero_le 1
  below hmem := by
    have htotal := h.reals config.maxReals hreals
    rw [if_neg (Nat.lt_irrefl _)] at htotal
    have hcount := List.count_pos_iff.mpr hmem
    unfold IdPool.total at htotal
    omega

/-! ## The condition and the loop -/

section Counts

variable {action : ModifyAction} {acc : Batch × State} {real : NewReal} {raddr : IPAddress}

theorem countsUnnamed_of_parse_none (haddr : folly.parse real.address = none) :
    CountsUnnamed folly action acc real := by
  intro raddr rmeta hsome
  rw [haddr] at hsome
  cases hsome

theorem countsUnnamed_of_lookup_none (haddr : folly.parse real.address = some raddr)
    (hreal : acc.2.tables.reals.lookup raddr = none) : CountsUnnamed folly action acc real := by
  intro raddr' rmeta haddr' hsome
  obtain rfl := Option.some.inj (haddr.symm.trans haddr')
  rw [hreal] at hsome
  cases hsome

theorem countsUnnamed_iff_of_lookup (haddr : folly.parse real.address = some raddr)
    {r : RealMeta} (hreal : acc.2.tables.reals.lookup raddr = some r) :
    CountsUnnamed folly action acc real ↔
      (acc.1.Counts action r.num → ¬ acc.1.Named r.num) := by
  constructor
  · intro h
    exact h raddr r haddr hreal
  · intro h raddr' r' haddr' hreal'
    obtain rfl := Option.some.inj (haddr.symm.trans haddr')
    obtain rfl := Option.some.inj (hreal.symm.trans hreal')
    exact h

end Counts

/-- No element counts for a named number now, and none will count for the number of a repeated
address. -/
structure AddUncounted (batch : Batch) (t : Tables) (addrs : List IPAddress) : Prop where
  known : ∀ raddr ∈ addrs, ∀ r, t.reals.lookup raddr = some r → batch.Counts .add r.num →
    ¬ batch.Named r.num
  new : NewRepeatsListed (· ∈ batch.curReals) t addrs

structure DelUncounted (batch : Batch) (t : Tables) (addrs : List IPAddress) : Prop where
  known : ∀ raddr ∈ addrs, ∀ r, t.reals.lookup raddr = some r → batch.Counts .del r.num →
    ¬ batch.Named r.num
  last : ListedRepeatsLast (· ∈ batch.curReals) t addrs

theorem Batch.named_append {batch : Batch} {curReals : List ℕ} {ureal : UpdateReal} {num : ℕ} :
    Batch.Named ⟨curReals, batch.ureals ++ [ureal]⟩ num ↔
      batch.Named num ∨ ureal.updatedReal.num = num := by
  unfold Batch.Named
  constructor
  · rintro ⟨ureal', hmem, heq⟩
    rcases List.mem_append.mp hmem with hmem | hmem
    · exact .inl ⟨ureal', hmem, heq⟩
    · rw [List.mem_singleton.mp hmem] at heq
      exact .inr heq
  · rintro (⟨ureal', hmem, heq⟩ | heq)
    · exact ⟨ureal', List.mem_append_left _ hmem, heq⟩
    · exact ⟨ureal, by simp, heq⟩

section Granted

variable {t t' : Tables} {raddr other : IPAddress} {addrs : List IPAddress}

/-- A known address in front takes no number. -/
theorem grantedNum_cons_of_known {r : RealMeta} (hreal : t.reals.lookup raddr = some r)
    (hother : t.reals.lookup other = none) :
    grantedNum t (raddr :: addrs) other = grantedNum t addrs other := by
  have hne : raddr ≠ other := by
    rintro rfl
    rw [hreal] at hother
    cases hother
  unfold grantedNum
  rw [List.takeWhile_cons_of_pos (by simpa using hne), List.toFinset_cons, Finset.filter_insert,
    if_neg (by simp [hreal])]

theorem grantedNum_self (addrs : List IPAddress) :
    grantedNum t (raddr :: addrs) raddr = t.realNums.head? := by
  unfold grantedNum
  rw [List.takeWhile_cons_of_neg (by simp), List.head?_eq_getElem?]
  simp

/-- A new address in front takes the first number. -/
theorem grantedNum_cons_of_new {num : ℕ} {r : RealMeta} (hreal : t.reals.lookup raddr = none)
    (hnums : t.realNums = num :: t'.realNums) (hreals : t'.reals = t.reals.insert raddr r)
    (hne : other ≠ raddr) :
    grantedNum t (raddr :: addrs) other = grantedNum t' addrs other := by
  have hfilter : (raddr :: addrs.takeWhile (· ≠ other)).toFinset.filter
        (fun a ↦ t.reals.lookup a = none) =
      insert raddr ((addrs.takeWhile (· ≠ other)).toFinset.filter
        fun a ↦ t'.reals.lookup a = none) := by
    ext a
    simp only [List.toFinset_cons, Finset.mem_filter, Finset.mem_insert, hreals,
      lookup_insert_ite]
    by_cases ha : a = raddr
    · subst ha
      simp [hreal]
    · simp [ha]
  unfold grantedNum
  rw [List.takeWhile_cons_of_pos (by simpa using hne.symm), hfilter, Finset.card_insert_of_notMem,
    hnums, List.getElem?_cons_succ]
  simp [hreals]

/-- The same addresses are new, and the same numbers free. -/
theorem grantedNum_congr (hnew : ∀ a, t'.reals.lookup a = none ↔ t.reals.lookup a = none)
    (hnums : t'.realNums = t.realNums) : grantedNum t' addrs other = grantedNum t addrs other := by
  unfold grantedNum
  simp only [hnew, hnums]

theorem newRepeatsListed_cons_of_known {listed : ℕ → Prop} {r : RealMeta}
    (hreal : t.reals.lookup raddr = some r)
    (hnew : ∀ a, t'.reals.lookup a = none ↔ t.reals.lookup a = none)
    (hnums : t'.realNums = t.realNums) :
    NewRepeatsListed listed t' addrs ↔ NewRepeatsListed listed t (raddr :: addrs) := by
  refine forall_congr' fun other ↦ ?_
  rw [hnew other]
  by_cases hother : t.reals.lookup other = none
  · have hne : raddr ≠ other := by
      rintro rfl
      rw [hreal] at hother
      cases hother
    rw [List.count_cons_of_ne hne, grantedNum_congr hnew hnums,
      grantedNum_cons_of_known hreal hother]
  · simp [hother]

theorem newRepeatsListed_cons_of_new {listed : ℕ → Prop} {num : ℕ} {r : RealMeta}
    (hreal : t.reals.lookup raddr = none) (hnums : t.realNums = num :: t'.realNums)
    (hreals : t'.reals = t.reals.insert raddr r) :
    (raddr ∈ addrs → listed num) ∧ NewRepeatsListed listed t' addrs ↔
      NewRepeatsListed listed t (raddr :: addrs) := by
  have hself : ∀ n, grantedNum t (raddr :: addrs) raddr = some n ↔ num = n := by
    intro n
    rw [grantedNum_self, hnums, List.head?_cons, Option.some.injEq]
  have hnew : ∀ other, other ≠ raddr →
      t'.reals.lookup other = t.reals.lookup other := by
    intro other hne
    rw [hreals, Finmap.lookup_insert_of_ne _ hne]
  constructor
  · rintro ⟨hagain, hrest⟩ other hcount hother n hgranted
    by_cases hne : other = raddr
    · subst hne
      rw [List.count_cons_self] at hcount
      rw [← (hself n).mp hgranted]
      exact hagain (List.count_pos_iff.mp (by omega))
    · rw [grantedNum_cons_of_new hreal hnums hreals hne] at hgranted
      rw [List.count_cons_of_ne (Ne.symm hne)] at hcount
      exact hrest other hcount ((hnew other hne).trans hother) n hgranted
  · intro h
    refine ⟨fun hagain ↦ ?_, fun other hcount hother n hgranted ↦ ?_⟩
    · apply h raddr _ hreal num ((hself num).mpr rfl)
      rw [List.count_cons_self]
      have hpos := List.count_pos_iff.mpr hagain
      omega
    · have hne : other ≠ raddr := by
        rintro rfl
        rw [hreals, Finmap.lookup_insert] at hother
        cases hother
      apply h other _ ((hnew other hne).symm.trans hother) n
      · rw [grantedNum_cons_of_new hreal hnums hreals hne]
        exact hgranted
      · rw [List.count_cons_of_ne (Ne.symm hne)]
        exact hcount

/-- Without free numbers no address gets one. -/
theorem newRepeatsListed_of_nil {listed : ℕ → Prop} (hnums : t.realNums = []) :
    NewRepeatsListed listed t addrs := by
  intro other _ _ num hgranted
  unfold grantedNum at hgranted
  rw [hnums, List.getElem?_nil] at hgranted
  cases hgranted

end Granted

theorem mem_realNums_of_grantedNum {t : Tables} {addrs : List IPAddress} {raddr : IPAddress}
    {num : ℕ} (h : grantedNum t addrs raddr = some num) : num ∈ t.realNums :=
  List.mem_of_getElem? h

/-- No real has a number of the pool. -/
theorem FreshPool.num_ne {t : Tables} (h : FreshPool config t) {raddr : IPAddress} {r : RealMeta}
    (hreal : t.reals.lookup raddr = some r) {num : ℕ} (hnum : num ∈ t.realNums) : r.num ≠ num :=
  fun heq ↦ IdPool.not_mem_free (h.once num hnum) hreal heq hnum

section Add

variable {batch : Batch} {t t' : Tables} {raddr : IPAddress} {addrs : List IPAddress}
  {r r' : RealMeta} {ureal : UpdateReal}

/-- An element that counts for nothing. -/
theorem addUncounted_cons_of_listed (hreal : t.reals.lookup raddr = some r)
    (hmem : r.num ∈ batch.curReals) (hnum : ureal.updatedReal.num = r.num) :
    AddUncounted { batch with ureals := batch.ureals ++ [ureal] } t addrs ↔
      AddUncounted batch t (raddr :: addrs) := by
  have hnew := @newRepeatsListed_cons_of_known t t raddr addrs (· ∈ batch.curReals) r hreal
    (fun _ ↦ Iff.rfl) rfl
  constructor
  · intro h
    refine ⟨fun other hother ro hro hcounts hnamed ↦ ?_, hnew.mp h.new⟩
    rcases List.mem_cons.mp hother with rfl | hother
    · obtain rfl := Option.some.inj (hreal.symm.trans hro)
      exact hcounts hmem
    · exact h.known other hother ro hro hcounts (Batch.named_append.mpr (.inl hnamed))
  · intro h
    refine ⟨fun other hother ro hro hcounts hnamed ↦ ?_, hnew.mpr h.new⟩
    rcases Batch.named_append.mp hnamed with hnamed | heq
    · exact h.known other (List.mem_cons_of_mem _ hother) ro hro hcounts hnamed
    · rw [hnum] at heq
      exact hcounts (heq ▸ hmem)

/-- An element that counts for the number of a known real. -/
theorem addUncounted_cons_of_known (hpool : FreshPool config t)
    (hreal : t.reals.lookup raddr = some r) (hreals : t'.reals = t.reals.insert raddr r')
    (hr' : r'.num = r.num) (hnums : t'.realNums = t.realNums) (hmem : r.num ∉ batch.curReals)
    (hnum : ureal.updatedReal.num = r.num) :
    ¬ batch.Named r.num ∧
        AddUncounted ⟨batch.curReals ++ [r.num], batch.ureals ++ [ureal]⟩ t' addrs ↔
      AddUncounted batch t (raddr :: addrs) := by
  have hlookup : ∀ a, a ≠ raddr → t'.reals.lookup a = t.reals.lookup a := by
    intro a hne
    rw [hreals, Finmap.lookup_insert_of_ne _ hne]
  have hnone : ∀ a, t'.reals.lookup a = none ↔ t.reals.lookup a = none := by
    intro a
    by_cases ha : a = raddr
    · rw [ha, hreals, Finmap.lookup_insert, hreal]
      simp
    · rw [hlookup a ha]
  have hnew : NewRepeatsListed (· ∈ batch.curReals ++ [r.num]) t' addrs ↔
      NewRepeatsListed (· ∈ batch.curReals) t (raddr :: addrs) := by
    rw [newRepeatsListed_cons_of_known hreal hnone hnums]
    refine forall₄_congr fun other _ _ num ↦ ?_
    refine imp_congr_right fun hgranted ↦ ?_
    have hne := hpool.num_ne hreal (mem_realNums_of_grantedNum hgranted)
    simp [hne.symm]
  constructor
  · rintro ⟨hnot, h⟩
    refine ⟨fun other hother ro hro hcounts hnamed ↦ ?_, hnew.mp h.new⟩
    by_cases heq : ro.num = r.num
    · exact hnot (heq ▸ hnamed)
    · have hne : other ≠ raddr := by
        rintro rfl
        exact heq (congrArg RealMeta.num (Option.some.inj (hro.symm.trans hreal)))
      apply h.known other ((List.mem_cons.mp hother).resolve_left hne) ro
      · rw [hlookup other hne]
        exact hro
      · intro hmem'
        rcases List.mem_append.mp hmem' with hold | hlast
        · exact hcounts hold
        · exact heq (List.mem_singleton.mp hlast)
      · exact Batch.named_append.mpr (.inl hnamed)
  · intro h
    refine ⟨h.known raddr List.mem_cons_self r hreal hmem,
      fun other hother ro hro hcounts hnamed ↦ ?_, hnew.mpr h.new⟩
    have hold : ro.num ∉ batch.curReals := fun hin ↦ hcounts (List.mem_append_left _ hin)
    have heq : ro.num ≠ r.num := fun heq ↦ hcounts (by simp [heq])
    have hne : other ≠ raddr := by
      rintro rfl
      rw [hreals, Finmap.lookup_insert] at hro
      exact heq (by rw [← Option.some.inj hro, hr'])
    rw [hlookup other hne] at hro
    rcases Batch.named_append.mp hnamed with hnamed | hlast
    · exact h.known other (List.mem_cons_of_mem _ hother) ro hro hold hnamed
    · exact heq (hlast.symm.trans hnum)

/-- An element whose address is new and gets a number. -/
theorem addUncounted_cons_of_new (hpool : FreshPool config t)
    (hreal : t.reals.lookup raddr = none) (hreals : t'.reals = t.reals.insert raddr r)
    (hnums : t.realNums = r.num :: t'.realNums) (hnum : ureal.updatedReal.num = r.num) :
    AddUncounted { batch with ureals := batch.ureals ++ [ureal] } t' addrs ↔
      AddUncounted batch t (raddr :: addrs) := by
  have hlookup : ∀ a, a ≠ raddr → t'.reals.lookup a = t.reals.lookup a := by
    intro a hne
    rw [hreals, Finmap.lookup_insert_of_ne _ hne]
  have hself : t'.reals.lookup raddr = some r := by rw [hreals, Finmap.lookup_insert]
  have hnew := @newRepeatsListed_cons_of_new t t' raddr addrs (· ∈ batch.curReals) r.num r hreal
    hnums hreals
  constructor
  · intro h
    refine ⟨fun other hother ro hro hcounts hnamed ↦ ?_, hnew.mp ⟨fun hagain ↦ ?_, h.new⟩⟩
    · have hne : other ≠ raddr := by
        rintro rfl
        rw [hreal] at hro
        cases hro
      refine h.known other ((List.mem_cons.mp hother).resolve_left hne) ro ?_ hcounts
        (Batch.named_append.mpr (.inl hnamed))
      rw [hlookup other hne]
      exact hro
    · -- the address comes again, with its number named
      by_contra hmem
      exact h.known raddr hagain r hself hmem (Batch.named_append.mpr (.inr hnum))
  · intro h
    obtain ⟨hagain, hrest⟩ := hnew.mpr h.new
    refine ⟨fun other hother ro hro hcounts hnamed ↦ ?_, hrest⟩
    by_cases hne : other = raddr
    · subst hne
      obtain rfl := Option.some.inj (hself.symm.trans hro)
      exact hcounts (hagain hother)
    · rw [hlookup other hne] at hro
      rcases Batch.named_append.mp hnamed with hnamed | hlast
      · exact h.known other (List.mem_cons_of_mem _ hother) ro hro hcounts hnamed
      · refine hpool.num_ne hro ?_ (hlast.symm.trans hnum)
        rw [hnums]
        exact List.mem_cons_self

/-- An element that names no real and gets no number. -/
theorem addUncounted_cons_of_nil (hreal : t.reals.lookup raddr = none) (hnums : t.realNums = []) :
    AddUncounted batch t addrs ↔ AddUncounted batch t (raddr :: addrs) := by
  constructor
  · intro h
    refine ⟨fun other hother ro hro ↦ ?_, newRepeatsListed_of_nil hnums⟩
    have hne : other ≠ raddr := by
      rintro rfl
      rw [hreal] at hro
      cases hro
    exact h.known other ((List.mem_cons.mp hother).resolve_left hne) ro hro
  · intro h
    exact ⟨fun other hother ↦ h.known other (List.mem_cons_of_mem _ hother),
      newRepeatsListed_of_nil hnums⟩

theorem increaseRefCountForReal_freshPool {s : State} (hpool : FreshPool config s.tables)
    (real : IPAddress) (flags : BitVec 8) :
    FreshPool config (increaseRefCountForReal config real flags s).2.tables := by
  cases hreal : s.tables.reals.lookup real with
  | some r =>
    have hnum : RealMeta.num { r with refCount := increment32 r.refCount } = r.num := rfl
    rw [increaseRefCountForReal_of_lookup hreal]
    refine ⟨fun num hmem ↦ ?_, hpool.below⟩
    exact (IdPool.total_update RealMeta.num hreal hnum num).trans_le (hpool.once num hmem)
  | none =>
    cases hnums : s.tables.realNums with
    | nil =>
      rw [increaseRefCountForReal_of_nil hreal hnums]
      exact hpool
    | cons rnum realNums =>
      rw [(increaseRefCountForReal_of_cons hreal hnums flags).2]
      refine ⟨fun num hnum ↦ ?_, fun hmem ↦ hpool.below ?_⟩
      · have hmem : num ∈ s.tables.realNums := hnums ▸ List.mem_cons_of_mem rnum hnum
        dsimp only
        rw [IdPool.total_take RealMeta.num hreal]
        exact hnums ▸ hpool.once num hmem
      · exact hnums ▸ List.mem_cons_of_mem rnum hmem

theorem addRealStep_freshPool {acc : Batch × State} (hpool : FreshPool config acc.2.tables)
    (real : NewReal) : FreshPool config (addRealStep folly config acc real).2.tables := by
  rcases @addRealStep_state folly config acc real with hstep | hstep | ⟨raddr, -, hstep⟩
  · rw [hstep]
    exact hpool
  · rw [hstep]
    exact hpool
  · rw [hstep]
    exact increaseRefCountForReal_freshPool hpool raddr real.flags

/-- The condition goes from one element to the next. -/
theorem addRealStep_uncounted_iff {acc : Batch × State} (hpool : FreshPool config acc.2.tables)
    (real : NewReal) (reals : List NewReal) :
    CountsUnnamed folly .add acc real ∧
        AddUncounted (addRealStep folly config acc real).1
          (addRealStep folly config acc real).2.tables (addresses folly reals) ↔
      AddUncounted acc.1 acc.2.tables (addresses folly (real :: reals)) := by
  obtain ⟨batch, s⟩ := acc
  cases haddr : folly.parse real.address with
  | none =>
    rw [addresses_cons_of_none haddr, and_iff_right (countsUnnamed_of_parse_none haddr)]
    unfold addRealStep
    simp only [validateHost_of_none haddr, State.rejected_tables]
  | some raddr =>
    rw [addresses_cons_of_some haddr]
    cases hreal : s.tables.reals.lookup raddr with
    | some r =>
      rw [countsUnnamed_iff_of_lookup haddr hreal]
      unfold addRealStep
      simp only [validateHost_of_some haddr, hreal]
      split_ifs with hmem
      · have hcounts : Batch.Counts .add batch r.num → ¬ batch.Named r.num :=
          fun hcounts ↦ absurd hmem hcounts
        exact (and_iff_right hcounts).trans (addUncounted_cons_of_listed hreal hmem rfl)
      · refine (and_congr_left' (forall_prop_of_true hmem)).trans ?_
        rw [increaseRefCountForReal_of_lookup hreal]
        have hcounted : RealMeta.num { r with refCount := increment32 r.refCount } = r.num := rfl
        exact addUncounted_cons_of_known hpool hreal rfl hcounted rfl hmem rfl
    | none =>
      rw [and_iff_right (countsUnnamed_of_lookup_none haddr hreal)]
      unfold addRealStep
      simp only [validateHost_of_some haddr, hreal]
      cases hnums : s.tables.realNums with
      | nil =>
        rw [increaseRefCountForReal_of_nil hreal hnums, if_pos rfl]
        exact addUncounted_cons_of_nil hreal hnums
      | cons rnum realNums =>
        obtain ⟨hnum, htables⟩ := @increaseRefCountForReal_of_cons config raddr s rnum realNums
          hreal hnums real.flags
        have hbelow : rnum ≠ config.maxReals :=
          fun heq ↦ hpool.below (hnums ▸ heq ▸ List.mem_cons_self)
        rw [hnum, if_neg hbelow, htables]
        exact addUncounted_cons_of_new hpool hreal rfl hnums rfl

end Add

section Del

variable {batch : Batch} {t t' : Tables} {raddr : IPAddress} {addrs : List IPAddress}
  {r : RealMeta} {ureal : UpdateReal}

/-- An element whose address is in no table, or whose number is not listed. -/
theorem delUncounted_cons_of_unlisted
    (hreal : ∀ r, t.reals.lookup raddr = some r → r.num ∉ batch.curReals) :
    DelUncounted batch t addrs ↔ DelUncounted batch t (raddr :: addrs) := by
  constructor
  · intro h
    refine ⟨fun other hother r hr hcounts ↦ ?_, List.pairwise_cons.mpr ⟨?_, h.last⟩⟩
    · have hne : other ≠ raddr := by
        rintro rfl
        exact hreal r hr hcounts
      exact h.known other ((List.mem_cons.mp hother).resolve_left hne) r hr hcounts
    · intro other _ r _ hr _ _ hlisted
      exact absurd hlisted (hreal r hr)
  · intro h
    exact ⟨fun other hother ↦ h.known other (List.mem_cons_of_mem _ hother),
      (List.pairwise_cons.mp h.last).2⟩

/-- An element that releases a real. -/
theorem delUncounted_cons_of_listed (hreal : t.reals.lookup raddr = some r)
    (hmem : r.num ∈ batch.curReals) (hother : ∀ a, a ≠ raddr →
      t'.reals.lookup a = t.reals.lookup a)
    (hself : ∀ r', t'.reals.lookup raddr = some r' → r'.num = r.num)
    (hgone : t'.reals.lookup raddr = none ↔ r.refCount = 1)
    (hnum : ureal.updatedReal.num = r.num) :
    ¬ batch.Named r.num ∧
        DelUncounted { batch with ureals := batch.ureals ++ [ureal] } t' addrs ↔
      DelUncounted batch t (raddr :: addrs) := by
  constructor
  · rintro ⟨hnot, h⟩
    have hhead : ∀ a ∈ addrs, ∀ r₁ r₂, t.reals.lookup raddr = some r₁ →
        t.reals.lookup a = some r₂ → r₁.num = r₂.num → r₁.num ∈ batch.curReals →
        raddr = a ∧ r₁.refCount = 1 := by
      intro a ha r₁ r₂ hr₁ hr₂ heq hlisted
      obtain rfl := Option.some.inj (hreal.symm.trans hr₁)
      have hnamed : ∀ r', t'.reals.lookup a = some r' → r'.num ≠ r.num := by
        intro r' hr' hsame
        exact h.known a ha r' hr' (by rw [hsame]; exact hlisted)
          (Batch.named_append.mpr (.inr (hnum.trans hsame.symm)))
      by_cases hne : a = raddr
      · subst hne
        refine ⟨rfl, hgone.mp (Option.eq_none_iff_forall_ne_some.mpr fun r' hr' ↦ ?_)⟩
        exact hnamed r' hr' (hself r' hr')
      · exact absurd heq.symm (hnamed r₂ ((hother a hne).trans hr₂))
    refine ⟨fun a ha ra hra hcounts hnamed ↦ ?_, List.pairwise_cons.mpr ⟨hhead, ?_⟩⟩
    · by_cases hne : a = raddr
      · subst hne
        obtain rfl := Option.some.inj (hreal.symm.trans hra)
        exact hnot hnamed
      · exact h.known a ((List.mem_cons.mp ha).resolve_left hne) ra
          ((hother a hne).trans hra) hcounts (Batch.named_append.mpr (.inl hnamed))
    · refine h.last.imp_of_mem fun {a b} ha hb hlast ra rb hra hrb heq hlisted ↦ ?_
      by_cases hane : a = raddr
      · subst hane
        exact hhead b hb ra rb hra hrb heq hlisted
      · by_cases hbne : b = raddr
        · subst hbne
          exact absurd (hhead a ha rb ra hrb hra heq.symm (heq ▸ hlisted)).1.symm hane
        · exact hlast ra rb ((hother a hane).trans hra) ((hother b hbne).trans hrb) heq hlisted
  · intro h
    obtain ⟨hhead, htail⟩ := List.pairwise_cons.mp h.last
    -- whatever is still there and comes later is another real with another number
    have hstays : ∀ a ∈ addrs, ∀ ra, t'.reals.lookup a = some ra →
        t.reals.lookup a = some ra ∧ ra.num ≠ r.num := by
      intro a ha ra hra
      have hne : a ≠ raddr := by
        rintro rfl
        rw [hgone.mpr (hhead a ha r r hreal hreal rfl hmem).2] at hra
        cases hra
      have hold := (hother a hne).symm.trans hra
      refine ⟨hold, fun heq ↦ hne ?_⟩
      exact (hhead a ha r ra hreal hold heq.symm hmem).1.symm
    refine ⟨h.known raddr List.mem_cons_self r hreal hmem,
      fun a ha ra hra hcounts hnamed ↦ ?_, ?_⟩
    · obtain ⟨hold, hne⟩ := hstays a ha ra hra
      rcases Batch.named_append.mp hnamed with hnamed | hlast
      · exact h.known a (List.mem_cons_of_mem _ ha) ra hold hcounts hnamed
      · exact hne (hlast.symm.trans hnum)
    · refine htail.imp_of_mem fun {a b} ha hb hlast ra rb hra hrb heq hlisted ↦ ?_
      exact hlast ra rb (hstays a ha ra hra).1 (hstays b hb rb hrb).1 heq hlisted

theorem delRealStep_uncounted_iff {acc : Batch × State} (real : NewReal) (reals : List NewReal) :
    CountsUnnamed folly .del acc real ∧
        DelUncounted (delRealStep folly config acc real).1
          (delRealStep folly config acc real).2.tables (addresses folly reals) ↔
      DelUncounted acc.1 acc.2.tables (addresses folly (real :: reals)) := by
  obtain ⟨batch, s⟩ := acc
  cases haddr : folly.parse real.address with
  | none =>
    rw [addresses_cons_of_none haddr, and_iff_right (countsUnnamed_of_parse_none haddr)]
    unfold delRealStep
    simp only [validateHost_of_none haddr, State.rejected_tables]
  | some raddr =>
    rw [addresses_cons_of_some haddr]
    cases hreal : s.tables.reals.lookup raddr with
    | none =>
      rw [and_iff_right (countsUnnamed_of_lookup_none haddr hreal)]
      unfold delRealStep
      simp only [validateHost_of_some haddr, hreal]
      apply delUncounted_cons_of_unlisted
      intro r hr
      rw [hreal] at hr
      cases hr
    | some r =>
      rw [countsUnnamed_iff_of_lookup haddr hreal]
      unfold delRealStep
      simp only [validateHost_of_some haddr, hreal]
      split_ifs with hmem
      · refine (and_congr_left' (forall_prop_of_true hmem)).trans ?_
        have hlookup := decreaseRefCountForReal_lookup hreal
        apply delUncounted_cons_of_listed hreal hmem
        · exact fun a hne ↦ decreaseRefCountForReal_lookup_of_ne hne
        · intro r' hr'
          rw [hlookup] at hr'
          split_ifs at hr'
          rw [← Option.some.inj hr']
        · rw [hlookup, ← decrement32_eq_zero_iff]
          split_ifs with hzero
          · simp [hzero]
          · simp [hzero]
        · rfl
      · have hcounts : Batch.Counts .del batch r.num → ¬ batch.Named r.num :=
          fun hcounts ↦ absurd hcounts hmem
        refine (and_iff_right hcounts).trans (delUncounted_cons_of_unlisted fun r' hr' ↦ ?_)
        obtain rfl := Option.some.inj (hreal.symm.trans hr')
        exact hmem

end Del

/-! ## The whole list -/

theorem addLoop_uncounted_iff {reals : List NewReal} {acc : Batch × State}
    (hpool : FreshPool config acc.2.tables) :
    Runs.Along (fun acc real ↦ some (realStep folly config .add acc real))
        (CountsUnnamed folly .add) acc reals ↔
      AddUncounted acc.1 acc.2.tables (addresses folly reals) := by
  induction reals generalizing acc with
  | nil =>
    refine iff_of_true trivial ⟨by simp [addresses], fun raddr hcount ↦ ?_⟩
    simp [addresses] at hcount
  | cons real reals ih =>
    rw [← addRealStep_uncounted_iff hpool, ← ih (addRealStep_freshPool hpool real)]
    exact and_congr_right' (Runs.forall_eq_some_iff rfl)

theorem delLoop_uncounted_iff {reals : List NewReal} {acc : Batch × State} :
    Runs.Along (fun acc real ↦ some (realStep folly config .del acc real))
        (CountsUnnamed folly .del) acc reals ↔
      DelUncounted acc.1 acc.2.tables (addresses folly reals) := by
  induction reals generalizing acc with
  | nil => exact iff_of_true trivial ⟨by simp [addresses], List.Pairwise.nil⟩
  | cons real reals ih =>
    rw [← delRealStep_uncounted_iff, ← ih]
    exact and_congr_right' (Runs.forall_eq_some_iff rfl)

/-- At the start of a call nothing is named, and the list holds the reals of the VIP. -/
theorem along_iff_repeatsUncounted {action : ModifyAction} (walk : Walk ℕ VipReal) (v : Vip)
    {s : State} (hpool : action = .add → FreshPool config s.tables) (reals : List NewReal) :
    Runs.Along (fun acc real ↦ some (realStep folly config action acc real))
        (CountsUnnamed folly action) (⟨v.getReals walk, []⟩, s) reals ↔
      RepeatsUncounted action (fun num ↦ (v.reals.lookup num).isSome) s.tables
        (addresses folly reals) := by
  have hlisted : (fun num ↦ num ∈ v.getReals walk) =
      fun num ↦ (v.reals.lookup num).isSome = true := by
    funext num
    exact propext Vip.mem_getReals
  have hunnamed : ∀ num, ¬ Batch.Named ⟨v.getReals walk, []⟩ num :=
    fun num ⟨ureal, hmem, _⟩ ↦ List.not_mem_nil hmem
  cases action with
  | add =>
    rw [addLoop_uncounted_iff (hpool rfl)]
    constructor
    · intro h
      have hnew := h.new
      rw [hlisted] at hnew
      exact hnew
    · intro h
      refine ⟨fun _ _ _ _ _ ↦ hunnamed _, ?_⟩
      rw [hlisted]
      exact h
  | del =>
    rw [delLoop_uncounted_iff]
    constructor
    · intro h
      have hlast := h.last
      rw [hlisted] at hlast
      exact hlast
    · intro h
      refine ⟨fun _ _ _ _ _ ↦ hunnamed _, ?_⟩
      rw [hlisted]
      exact h

/-- A batch leaves what its elements leave one by one, precisely if no element of it counts for a
number that an earlier one has named. Where the pool is sound, this is a condition on the list and
the tables before the call. -/
theorem modifyRealsForVip_eq_singles_iff {u : Unspecified} {action : ModifyAction} {vip : VipKey}
    {calls : List (NewReal × Unspecified)} {s t : State} {reply : Bool × State}
    (hbatch : modifyRealsForVip folly config chash u action (calls.map Prod.fst) vip s = some reply)
    (hsingles : calls.foldlM (modifyRealForVip folly config chash action vip) s = some t) :
    (SameOutcome vip reply.2.tables t.tables ↔
      ∀ v, s.tables.vips.lookup vip = some v →
        Runs.Along (fun acc real ↦ some (realStep folly config action acc real))
          (CountsUnnamed folly action) (⟨v.getReals u.vipReals, []⟩, s) (calls.map Prod.fst)) ∧
    ((action = .add → FreshPool config s.tables) →
      (SameOutcome vip reply.2.tables t.tables ↔
        ∀ v, s.tables.vips.lookup vip = some v →
          RepeatsUncounted action (fun num ↦ (v.reals.lookup num).isSome) s.tables
            (addresses folly (calls.map Prod.fst)))) := by
  have hsame := sameOutcome_iff_along hbatch hsingles
  refine ⟨hsame, fun hpool ↦ hsame.trans (forall₂_congr fun v _ ↦ ?_)⟩
  exact along_iff_repeatsUncounted u.vipReals v hpool _

/-- `10.0.0.2` and `10.0.0.3` in one batch. -/
theorem modifyRealsForVip_eq_singles_pair :
    ∃ reply t, modifyRealsForVip .sample .sample (fun _ ↦ .single) (.sorted id) .add
        [⟨"10.0.0.2", 1, 0⟩, ⟨"10.0.0.3", 1, 0⟩] ⟨"10.0.0.1", 80, 6⟩ oneVip = some reply ∧
      [(⟨"10.0.0.2", 1, 0⟩, .sorted id), (⟨"10.0.0.3", 1, 0⟩, .sorted id)].foldlM
        (modifyRealForVip .sample .sample (fun _ ↦ .single) .add ⟨"10.0.0.1", 80, 6⟩) oneVip =
          some t ∧
      SameOutcome ⟨"10.0.0.1", 80, 6⟩ reply.2.tables t.tables := by
  have hbatch : (modifyRealsForVip .sample .sample (fun _ ↦ .single) (.sorted id) .add
      [⟨"10.0.0.2", 1, 0⟩, ⟨"10.0.0.3", 1, 0⟩] ⟨"10.0.0.1", 80, 6⟩ oneVip).isSome := by
    decide +kernel
  have hsingles : ([((⟨"10.0.0.2", 1, 0⟩ : NewReal), Unspecified.sorted id),
      (⟨"10.0.0.3", 1, 0⟩, .sorted id)].foldlM (modifyRealForVip .sample .sample
        (fun _ ↦ .single) .add ⟨"10.0.0.1", 80, 6⟩) oneVip).isSome := by
    decide +kernel
  obtain ⟨reply, hbatch⟩ := Option.isSome_iff_exists.mp hbatch
  obtain ⟨t, hsingles⟩ := Option.isSome_iff_exists.mp hsingles
  have hpool : FreshPool .sample oneVip.tables :=
    IdPools.freshPool (addVip_idPools ⟨"10.0.0.1", 80, 6⟩ 0 (@new_idPools .sample _ _ _ _ _))
      (by decide) (by decide +kernel)
  have hnodup : (addresses .sample [⟨"10.0.0.2", 1, 0⟩, ⟨"10.0.0.3", 1, 0⟩]).Nodup := by
    decide +kernel
  refine ⟨reply, t, hbatch, hsingles,
    ((modifyRealsForVip_eq_singles_iff hbatch hsingles).2 fun _ ↦ hpool).mpr fun v _ ↦ ?_⟩
  intro raddr hcount
  have hone := List.nodup_iff_count_le_one.mp hnodup raddr
  exact absurd (hcount.trans hone) (by decide)

/-- A new real that an `ADD` names twice is counted twice, and by itself once. -/
theorem repeated_add_counts_twice :
    ∃ reply t, modifyRealsForVip .sample .sample (fun _ ↦ .single) (.sorted id) .add
        [⟨"10.0.0.2", 1, 0⟩, ⟨"10.0.0.2", 1, 0⟩] ⟨"10.0.0.1", 80, 6⟩ oneVip = some reply ∧
      [(⟨"10.0.0.2", 1, 0⟩, .sorted id), (⟨"10.0.0.2", 1, 0⟩, .sorted id)].foldlM
        (modifyRealForVip .sample .sample (fun _ ↦ .single) .add ⟨"10.0.0.1", 80, 6⟩) oneVip =
          some t ∧
      (reply.2.tables.reals.lookup (.v4 0x0a000002)).map RealMeta.refCount = some 2 ∧
      (t.tables.reals.lookup (.v4 0x0a000002)).map RealMeta.refCount = some 1 ∧
      ¬ SameOutcome ⟨"10.0.0.1", 80, 6⟩ reply.2.tables t.tables := by
  have hbatch : (modifyRealsForVip .sample .sample (fun _ ↦ .single) (.sorted id) .add
      [⟨"10.0.0.2", 1, 0⟩, ⟨"10.0.0.2", 1, 0⟩] ⟨"10.0.0.1", 80, 6⟩ oneVip).map (fun reply ↦
        (reply.2.tables.reals.lookup (.v4 0x0a000002)).map RealMeta.refCount) =
      some (some 2) := by
    decide +kernel
  have hsingles : ([((⟨"10.0.0.2", 1, 0⟩ : NewReal), Unspecified.sorted id),
      (⟨"10.0.0.2", 1, 0⟩, .sorted id)].foldlM (modifyRealForVip .sample .sample
        (fun _ ↦ .single) .add ⟨"10.0.0.1", 80, 6⟩) oneVip).map (fun t ↦
          (t.tables.reals.lookup (.v4 0x0a000002)).map RealMeta.refCount) = some (some 1) := by
    decide +kernel
  obtain ⟨reply, hbatch, htwo⟩ := Option.map_eq_some_iff.mp hbatch
  obtain ⟨t, hsingles, hone⟩ := Option.map_eq_some_iff.mp hsingles
  refine ⟨reply, t, hbatch, hsingles, htwo, hone, fun h ↦ ?_⟩
  rw [h.reals, htwo] at hone
  cases hone

end Vsoshlb
