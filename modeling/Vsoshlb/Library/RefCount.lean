import Vsoshlb.Library.IdPool

/-!
# Reference counts

The entries of a registry carry an identifier and a count. Holders refer to an entry by its
identifier or by its key, and an entry goes when its count drops to zero. A ledger says that the
counts and the holders agree. An exact ledger counts every holder once. A loose one may count more
than there are, so an entry may stay too long but never goes while somebody refers to it.

Every operation moves one reference: it acquires one to an entry, creates the entry it refers to,
or releases one. The lemmas for the three say what they need to know of the holders before and
after, so a loop that holds its references in a ledger of its own can use them too.
-/

namespace RefCount

open HashTable

/-- How a number of references relates to the count of them. -/
def Tally (exact : Bool) (refs count : ℕ) : Prop :=
  if exact then refs = count else refs ≤ count

section Tally

variable {exact : Bool} {a b c d : ℕ}

theorem Tally.le (h : Tally exact a b) : a ≤ b := by
  cases exact
  · exact h
  · exact Nat.le_of_eq h

theorem Tally.refl (exact : Bool) (a : ℕ) : Tally exact a a := by
  cases exact
  · exact Nat.le_refl a
  · rfl

theorem Tally.of_eq (h : a = b) : Tally exact a b := h ▸ Tally.refl exact a

/-- A loose ledger may forget references. -/
theorem Tally.of_le (hloose : exact = false) (h : a ≤ b) : Tally exact a b := by
  subst hloose
  exact h

theorem Tally.trans (h : Tally exact a b) (h' : Tally exact b c) : Tally exact a c := by
  cases exact
  · exact Nat.le_trans h h'
  · exact Eq.trans h h'

theorem Tally.add (h : Tally exact a b) (h' : Tally exact c d) : Tally exact (a + c) (b + d) := by
  cases exact
  · exact Nat.add_le_add h h'
  · exact congrArg₂ (· + ·) h h'

theorem Tally.cancel (h : Tally exact (a + c) (b + c)) : Tally exact a b := by
  cases exact
  · exact Nat.le_of_add_le_add_right h
  · exact Nat.add_right_cancel h

end Tally

/-- The entries, the names of the identifiers in use and the free identifiers. -/
structure Registry (A V : Type) where
  free : List ℕ
  entries : Finmap fun _ : A ↦ V
  names : Finmap fun _ : ℕ ↦ A

/-- How many holders there are of each identifier and of each key. -/
structure Holders (A : Type) where
  byNum : ℕ → ℕ
  byKey : A → ℕ

variable {A V : Type} [DecidableEq A]

/-- One reference to the entry of `a` with identifier `n` comes or goes. -/
structure Moves (exact : Bool) (n : ℕ) (a : A) (lost gained : ℕ)
    (holders holders' : Holders A) : Prop where
  nums : ∀ m, m ≠ n → Tally exact (holders'.byNum m) (holders.byNum m)
  keys : ∀ b, b ≠ a → Tally exact (holders'.byKey b) (holders.byKey b)
  here : Tally exact (holders'.byNum n + holders'.byKey a + lost)
    (holders.byNum n + holders.byKey a + gained)

/-- The agreement of a registry and its holders. `watched` are pairs of an identifier and a key
that a holder of the key relies on. -/
structure Ledger (exact : Bool) (valid : ℕ → Prop) (num count : V → ℕ) (r : Registry A V)
    (holders : Holders A) (watched : ℕ → A → Prop) : Prop where
  names : ∀ n a, r.names.lookup n = some a ↔ ∃ v, r.entries.lookup a = some v ∧ num v = n
  counted : ∀ a v, r.entries.lookup a = some v →
    Tally exact (holders.byNum (num v) + holders.byKey a) (count v)
  positive : ∀ a v, r.entries.lookup a = some v → 0 < count v
  num_live : ∀ n, 0 < holders.byNum n → ∃ a, r.names.lookup n = some a
  key_live : ∀ a, 0 < holders.byKey a → ∃ v, r.entries.lookup a = some v
  kept : ∀ n a, watched n a → 0 < holders.byKey a ∧ r.names.lookup n = some a
  pool : ∀ n, IdPool.total num r.free r.entries n ≤ 1
  valid : ∀ n, 0 < IdPool.total num r.free r.entries n → valid n

namespace Ledger

variable {exact : Bool} {valid : ℕ → Prop} {num count : V → ℕ} {free : List ℕ}
  {entries : Finmap fun _ : A ↦ V} {names : Finmap fun _ : ℕ ↦ A} {holders holders' : Holders A}
  {watched watched' : ℕ → A → Prop} {a b : A} {v w : V} {n : ℕ}

section Facts

variable (h : Ledger exact valid num count ⟨free, entries, names⟩ holders watched)

include h

theorem name (ha : entries.lookup a = some v) : names.lookup (num v) = some a :=
  (h.names (num v) a).mpr ⟨v, ha, rfl⟩

theorem key_eq (ha : entries.lookup a = some v) (hb : entries.lookup b = some w)
    (hnum : num w = num v) : b = a := by
  have hname := h.name hb
  rw [hnum, h.name ha] at hname
  exact (Option.some.inj hname).symm

/-- An identifier in use is not free. -/
theorem name_of_free (hfree : n ∈ free) : names.lookup n = none := by
  by_contra hne
  obtain ⟨a, hname⟩ := Option.ne_none_iff_exists'.mp hne
  obtain ⟨v, ha, hnum⟩ := (h.names n a).mp hname
  exact IdPool.not_mem_free (h.pool n) ha hnum hfree

theorem valid_of_free (hfree : n ∈ free) : valid n := by
  apply h.valid n
  have hcount := List.count_pos_iff.mpr hfree
  unfold IdPool.total
  dsimp only
  omega

theorem valid_of_lookup (ha : entries.lookup a = some v) : valid (num v) := by
  apply h.valid (num v)
  have hcount : 0 < HashTable.count (fun _ w ↦ num w = num v) entries :=
    (count_pos_iff _).mpr ⟨a, v, ha, rfl⟩
  unfold IdPool.total
  dsimp only
  omega

theorem byNum_eq_zero (hname : names.lookup n = none) : holders.byNum n = 0 := by
  by_contra hne
  obtain ⟨a, ha⟩ := h.num_live n (Nat.pos_of_ne_zero hne)
  simp [hname] at ha

theorem byKey_eq_zero (ha : entries.lookup a = none) : holders.byKey a = 0 := by
  by_contra hne
  obtain ⟨v, hv⟩ := h.key_live a (Nat.pos_of_ne_zero hne)
  simp [ha] at hv

/-- The other entries stay counted when a reference moves. -/
theorem counted_of_ne {lost gained : ℕ} (ha : ∀ u, entries.lookup b = some u → num u ≠ n)
    (hne : b ≠ a) (hmoves : Moves exact n a lost gained holders holders')
    (hb : entries.lookup b = some w) :
    Tally exact (holders'.byNum (num w) + holders'.byKey b) (count w) :=
  ((hmoves.nums _ (ha w hb)).add (hmoves.keys b hne)).trans (h.counted b w hb)

/-- A new value for an entry, with a reference more, a reference less, or neither. -/
theorem update {lost gained : ℕ} (ha : entries.lookup a = some v) (hnum : num w = num v)
    (hcount : count w + lost = count v + gained) (hpos : 0 < count w)
    (hmoves : Moves exact (num v) a lost gained holders holders')
    (hwatched : ∀ n b, watched' n b →
      0 < holders'.byKey b ∧ (watched n b ∨ (n = num v ∧ b = a))) :
    Ledger exact valid num count ⟨free, entries.insert a w, names⟩ holders' watched' where
  names n b := by
    rw [h.names]
    by_cases hb : b = a
    · subst hb
      simp [ha, hnum]
    · simp [hb]
  counted b u hb := by
    rw [lookup_insert_ite] at hb
    split_ifs at hb with hba
    · obtain rfl := Option.some.inj hb
      have hold := h.counted a v ha
      rw [hba, hnum]
      apply Tally.cancel (c := lost)
      rw [hcount]
      exact hmoves.here.trans (hold.add (Tally.refl exact gained))
    · exact h.counted_of_ne (fun u' hb' heq ↦ hba (h.key_eq ha hb' heq)) hba hmoves hb
  positive b u hb := by
    rw [lookup_insert_ite] at hb
    split_ifs at hb
    · exact Option.some.inj hb ▸ hpos
    · exact h.positive b u hb
  num_live n hn := by
    by_cases hne : n = num v
    · exact ⟨a, hne ▸ h.name ha⟩
    · exact h.num_live n (lt_of_lt_of_le hn (hmoves.nums n hne).le)
  key_live b hb := by
    by_cases hba : b = a
    · exact ⟨w, by rw [hba, Finmap.lookup_insert]⟩
    · obtain ⟨u, hu⟩ := h.key_live b (lt_of_lt_of_le hb (hmoves.keys b hba).le)
      exact ⟨u, by rw [Finmap.lookup_insert_of_ne _ hba, hu]⟩
  kept n b hnb := by
    obtain ⟨hheld, hold | ⟨rfl, rfl⟩⟩ := hwatched n b hnb
    · exact ⟨hheld, (h.kept n b hold).2⟩
    · exact ⟨hheld, h.name ha⟩
  pool n := (IdPool.total_update num ha hnum n).trans_le (h.pool n)
  valid n hn := h.valid n (by rwa [← IdPool.total_update num ha hnum n])

/-- A new entry takes the first free identifier. -/
theorem create {rest : List ℕ} (hfree : free = n :: rest) (ha : entries.lookup a = none)
    (hnum : num w = n) (hcount : count w = 1) (hmoves : Moves exact n a 0 1 holders holders')
    (hwatched : ∀ m b, watched' m b → 0 < holders'.byKey b ∧ (watched m b ∨ (m = n ∧ b = a))) :
    Ledger exact valid num count ⟨rest, entries.insert a w, names.insert n a⟩ holders'
      watched' := by
  have hunnamed : names.lookup n = none := h.name_of_free (by simp [hfree])
  have hfresh : ∀ b u, entries.lookup b = some u → num u ≠ n := by
    intro b u hb heq
    have hname := h.name hb
    rw [heq, hunnamed] at hname
    exact Option.some_ne_none b hname.symm
  have htotal : ∀ m, IdPool.total num rest (entries.insert a w) m =
      IdPool.total num free entries m := by
    intro m
    rw [IdPool.total_take num ha, hnum, hfree]
  constructor
  case names =>
    intro m b
    rw [lookup_insert_ite]
    by_cases hm : m = n
    · rw [if_pos hm]
      constructor
      · intro hb
        obtain rfl := Option.some.inj hb
        exact ⟨w, Finmap.lookup_insert entries, hnum.trans hm.symm⟩
      · rintro ⟨u, hb, hu⟩
        rw [lookup_insert_ite] at hb
        split_ifs at hb with hba
        · rw [hba]
        · exact absurd (hu.trans hm) (hfresh b u hb)
    · rw [if_neg hm, h.names]
      by_cases hb : b = a
      · subst hb
        simp [ha, hnum, Ne.symm hm]
      · simp [hb]
  case counted =>
    intro b u hb
    rw [lookup_insert_ite] at hb
    split_ifs at hb with hba
    · obtain rfl := Option.some.inj hb
      have hhere := hmoves.here
      rw [h.byNum_eq_zero hunnamed, h.byKey_eq_zero ha] at hhere
      rw [hba, hnum, hcount]
      exact hhere
    · exact h.counted_of_ne (hfresh b) hba hmoves hb
  case positive =>
    intro b u hb
    rw [lookup_insert_ite] at hb
    split_ifs at hb
    · obtain rfl := Option.some.inj hb
      omega
    · exact h.positive b u hb
  case num_live =>
    intro m hm
    by_cases hmn : m = n
    · exact ⟨a, by rw [hmn, Finmap.lookup_insert]⟩
    · obtain ⟨b, hb⟩ := h.num_live m (lt_of_lt_of_le hm (hmoves.nums m hmn).le)
      exact ⟨b, by rw [Finmap.lookup_insert_of_ne _ hmn, hb]⟩
  case key_live =>
    intro b hb
    by_cases hba : b = a
    · exact ⟨w, by rw [hba, Finmap.lookup_insert]⟩
    · obtain ⟨u, hu⟩ := h.key_live b (lt_of_lt_of_le hb (hmoves.keys b hba).le)
      exact ⟨u, by rw [Finmap.lookup_insert_of_ne _ hba, hu]⟩
  case kept =>
    intro m b hmb
    obtain ⟨hheld, hold | ⟨rfl, rfl⟩⟩ := hwatched m b hmb
    · have hname := (h.kept m b hold).2
      have hmn : m ≠ n := by
        rintro rfl
        rw [hunnamed] at hname
        exact Option.some_ne_none b hname.symm
      exact ⟨hheld, by rw [Finmap.lookup_insert_of_ne _ hmn, hname]⟩
    · exact ⟨hheld, Finmap.lookup_insert names⟩
  case pool => exact fun m ↦ (htotal m).trans_le (h.pool m)
  case valid => exact fun m hm ↦ h.valid m (by rwa [← htotal m])

/-- The last reference to an entry goes and takes the entry with it. -/
theorem remove (ha : entries.lookup a = some v) (hcount : count v = 1)
    (hmoves : Moves exact (num v) a 1 0 holders holders')
    (hwatched : ∀ n b, watched' n b → 0 < holders'.byKey b ∧ watched n b) :
    Ledger exact valid num count ⟨free ++ [num v], entries.erase a, names.erase (num v)⟩ holders'
      watched' := by
  -- nobody refers to the entry any more
  have hnone : holders'.byNum (num v) + holders'.byKey a = 0 := by
    have hhere := hmoves.here.le
    have hold := (h.counted a v ha).le
    omega
  have hother : ∀ b u, entries.lookup b = some u → b ≠ a → num u ≠ num v :=
    fun b u hb hne heq ↦ hne (h.key_eq ha hb heq)
  constructor
  case names =>
    intro n b
    rw [lookup_erase_ite]
    by_cases hn : n = num v
    · rw [if_pos hn]
      apply iff_of_false (by simp)
      rintro ⟨u, hb, hu⟩
      rw [lookup_erase_ite] at hb
      split_ifs at hb with hba
      exact hother b u hb hba (hu.trans hn)
    · rw [if_neg hn, h.names]
      by_cases hb : b = a
      · subst hb
        simp [ha, Ne.symm hn]
      · simp [hb]
  case counted =>
    intro b u hb
    rw [lookup_erase_ite] at hb
    split_ifs at hb with hba
    exact h.counted_of_ne (fun u' hb' ↦ hother b u' hb' hba) hba hmoves hb
  case positive =>
    intro b u hb
    rw [lookup_erase_ite] at hb
    split_ifs at hb
    exact h.positive b u hb
  case num_live =>
    intro n hn
    have hne : n ≠ num v := by
      rintro rfl
      omega
    obtain ⟨b, hb⟩ := h.num_live n (lt_of_lt_of_le hn (hmoves.nums n hne).le)
    exact ⟨b, by rw [Finmap.lookup_erase_ne hne, hb]⟩
  case key_live =>
    intro b hb
    have hne : b ≠ a := by
      rintro rfl
      omega
    obtain ⟨u, hu⟩ := h.key_live b (lt_of_lt_of_le hb (hmoves.keys b hne).le)
    exact ⟨u, by rw [Finmap.lookup_erase_ne hne, hu]⟩
  case kept =>
    intro n b hnb
    obtain ⟨hheld, hold⟩ := hwatched n b hnb
    have hname := (h.kept n b hold).2
    have hne : n ≠ num v := by
      rintro rfl
      rw [h.name ha] at hname
      obtain rfl := Option.some.inj hname
      omega
    exact ⟨hheld, by rw [Finmap.lookup_erase_ne hne, hname]⟩
  case pool => exact fun n ↦ (IdPool.total_give num ha n).trans_le (h.pool n)
  case valid => exact fun n hn ↦ h.valid n (by rwa [← IdPool.total_give num ha n])

end Facts

end Ledger

end RefCount
