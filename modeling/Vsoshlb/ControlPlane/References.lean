import Vsoshlb.Library.RefCount
import Vsoshlb.ControlPlane.Footprint

/-!
# Who refers to a real

VIPs and source routing rules refer to a real by its number, QUIC ids by its address. The books of
the balancer are a ledger over `reals_` and these holders. The holders are arguments of their own:
inside a call they are those that the call has accounted for so far.
-/

namespace Vsoshlb

open HashTable RefCount

abbrev VipTable := Finmap fun _ : VipKey ↦ Vip

abbrev RuleTable := Finmap fun _ : CIDRNetwork ↦ ℕ

abbrev QuicTable := Finmap fun _ : ℕ ↦ IPAddress

abbrev Tables.registry (t : Tables) : Registry IPAddress RealMeta :=
  ⟨t.realNums, t.reals, t.numToReals⟩

/-- The number of VIPs that hold the number and of prefixes routed to it. -/
def numRefs (vips : VipTable) (rules : RuleTable) (num : ℕ) : ℕ :=
  count (fun _ v ↦ (v.reals.lookup num).isSome) vips + count (fun _ rnum ↦ rnum = num) rules

/-- The number of QUIC ids mapped to the address. -/
def quicRefs (quic : QuicTable) (address : IPAddress) : ℕ :=
  count (fun _ raddr ↦ raddr = address) quic

def holders (vips : VipTable) (rules : RuleTable) (quic : QuicTable) : Holders IPAddress where
  byNum := numRefs vips rules
  byKey := quicRefs quic

/-- A QUIC id is mapped to the address and has been given the number. -/
def Assigned (quic : QuicTable) (ids : ℕ → ℕ) (num : ℕ) (address : IPAddress) : Prop :=
  ∃ id, quic.lookup id = some address ∧ ids id = num

/-- The counts of `reals_` against the given holders. `ids` is the number that each QUIC id was
given when it was mapped. -/
abbrev Books (exact : Bool) (config : Config) (t : Tables) (vips : VipTable) (rules : RuleTable)
    (quic : QuicTable) (ids : ℕ → ℕ) : Prop :=
  Ledger exact (fun num ↦ num ≠ config.maxReals) RealMeta.num RealMeta.refCount t.registry
    (holders vips rules quic) (Assigned quic ids)

variable {exact : Bool} {config : Config} {vips vips' : VipTable} {rules rules' : RuleTable}
  {quic quic' : QuicTable} {ids ids' : ℕ → ℕ}

/-! ## Counting holders -/

theorem numRefs_insert_vip (vips : VipTable) (rules : RuleTable) (vip : VipKey) (v : Vip)
    (num : ℕ) : numRefs (vips.insert vip v) rules num =
      numRefs (vips.erase vip) rules num + (v.reals.lookup num).isSome.toNat := by
  unfold numRefs
  rw [← insert_erase_self, count_insert_of_lookup_none _ v (by simp)]
  cases hnum : (v.reals.lookup num).isSome
  · simp
  · simp
    omega

theorem numRefs_insert_rule (vips : VipTable) (rules : RuleTable) (src : CIDRNetwork)
    (rnum num : ℕ) : numRefs vips (rules.insert src rnum) num =
      numRefs vips (rules.erase src) num + if rnum = num then 1 else 0 := by
  unfold numRefs
  rw [← insert_erase_self, count_insert_of_lookup_none _ rnum (by simp), Nat.add_assoc]

theorem quicRefs_insert (quic : QuicTable) (id : ℕ) (raddr address : IPAddress) :
    quicRefs (quic.insert id raddr) address =
      quicRefs (quic.erase id) address + if raddr = address then 1 else 0 := by
  unfold quicRefs
  rw [← insert_erase_self, count_insert_of_lookup_none _ raddr (by simp)]

theorem quicRefs_pos_iff {address : IPAddress} :
    0 < quicRefs quic address ↔ ∃ id, quic.lookup id = some address := by
  unfold quicRefs
  rw [count_pos_iff]
  constructor
  · rintro ⟨id, raddr, hid, rfl⟩
    exact ⟨id, hid⟩
  · rintro ⟨id, hid⟩
    exact ⟨id, address, hid, rfl⟩

theorem numRefs_pos_iff {num : ℕ} :
    0 < numRefs vips rules num ↔
      (∃ vip v, vips.lookup vip = some v ∧ (v.reals.lookup num).isSome) ∨
      ∃ src, rules.lookup src = some num := by
  unfold numRefs
  rw [Nat.add_pos_iff_pos_or_pos, count_pos_iff, count_pos_iff]
  refine or_congr Iff.rfl ⟨?_, fun ⟨src, hsrc⟩ ↦ ⟨src, num, hsrc, rfl⟩⟩
  rintro ⟨src, rnum, hsrc, rfl⟩
  exact ⟨src, hsrc⟩

theorem Assigned.quicRefs_pos {num : ℕ} {address : IPAddress}
    (h : Assigned quic ids num address) : 0 < quicRefs quic address :=
  quicRefs_pos_iff.mpr ⟨h.choose, h.choose_spec.1⟩

/-! ## Moving a reference -/

/-- A VIP takes up a real, or lets it go. -/
theorem moves_vip {vip : VipKey} {v w : Vip} {num lost gained : ℕ} {address : IPAddress}
    (hother : ∀ m, m ≠ num → (w.reals.lookup m).isSome = (v.reals.lookup m).isSome)
    (hnum : Tally exact ((w.reals.lookup num).isSome.toNat + lost)
      ((v.reals.lookup num).isSome.toNat + gained)) :
    Moves exact num address lost gained (holders (vips.insert vip v) rules quic)
      (holders (vips.insert vip w) rules quic) where
  nums m hm := by
    apply Tally.of_eq
    simp only [holders, numRefs_insert_vip, hother m hm]
  keys b _ := Tally.refl exact _
  here := by
    have hhere := (Tally.refl exact
      (numRefs (vips.erase vip) rules num + quicRefs quic address)).add hnum
    simp only [holders, numRefs_insert_vip]
    convert hhere using 1 <;> omega

/-- A VIP changes without taking up or letting go a real. -/
theorem holders_insert_vip {vip : VipKey} {v w : Vip}
    (hsame : ∀ num, (w.reals.lookup num).isSome = (v.reals.lookup num).isSome) :
    holders (vips.insert vip w) rules quic = holders (vips.insert vip v) rules quic := by
  have hnums : numRefs (vips.insert vip w) rules = numRefs (vips.insert vip v) rules := by
    funext num
    rw [numRefs_insert_vip, numRefs_insert_vip, hsame]
  rw [holders, holders, hnums]

/-- A VIP without reals comes or goes. -/
theorem holders_insert_idle {vip : VipKey} {v : Vip}
    (hidle : ∀ num, (v.reals.lookup num).isSome = false) :
    holders (vips.insert vip v) rules quic = holders (vips.erase vip) rules quic := by
  have hnums : numRefs (vips.insert vip v) rules = numRefs (vips.erase vip) rules := by
    funext num
    rw [numRefs_insert_vip, hidle]
    rfl
  rw [holders, holders, hnums]

/-- A prefix is routed to a real. A loose ledger forgets the real it was routed to before. -/
theorem moves_rule_add {src : CIDRNetwork} {rnum : ℕ} {address : IPAddress}
    (hnew : exact → rules.lookup src = none) :
    Moves exact rnum address 0 1 (holders vips rules quic)
      (holders vips (rules.insert src rnum) quic) := by
  have herase : ∀ m, Tally exact (numRefs vips (rules.erase src) m) (numRefs vips rules m) := by
    intro m
    cases exact with
    | true => rw [erase_of_lookup_none (hnew rfl)]; exact Tally.refl true _
    | false =>
      apply Tally.of_le rfl
      cases hold : rules.lookup src with
      | none => rw [erase_of_lookup_none hold]
      | some old =>
        have hback := numRefs_insert_rule vips rules src old m
        rw [insert_lookup_self hold] at hback
        omega
  constructor
  · intro m hm
    simp only [holders, numRefs_insert_rule, if_neg (Ne.symm hm), Nat.add_zero]
    exact herase m
  · exact fun b _ ↦ Tally.refl exact _
  · have hhere := ((herase rnum).add (Tally.refl exact (quicRefs quic address + 1)))
    simp only [holders, numRefs_insert_rule, if_true, Nat.add_zero]
    convert hhere using 1 <;> omega

theorem moves_rule_del {src : CIDRNetwork} {rnum : ℕ} {address : IPAddress}
    (hsrc : rules.lookup src = some rnum) :
    Moves exact rnum address 1 0 (holders vips rules quic)
      (holders vips (rules.erase src) quic) := by
  have hback := numRefs_insert_rule vips rules src rnum
  rw [insert_lookup_self hsrc] at hback
  constructor
  · intro m hm
    apply Tally.of_eq
    simp only [holders]
    rw [hback, if_neg (Ne.symm hm), Nat.add_zero]
  · exact fun b _ ↦ Tally.refl exact _
  · apply Tally.of_eq
    simp only [holders]
    rw [hback rnum, if_pos rfl]
    omega

/-- A QUIC id is mapped to an address. -/
theorem moves_quic_add {id num : ℕ} {raddr : IPAddress} (hid : quic.lookup id = none) :
    Moves exact num raddr 0 1 (holders vips rules quic)
      (holders vips rules (quic.insert id raddr)) := by
  have hback := quicRefs_insert quic id raddr
  rw [erase_of_lookup_none hid] at hback
  constructor
  · exact fun m _ ↦ Tally.refl exact _
  · intro b hb
    apply Tally.of_eq
    simp only [holders]
    rw [hback, if_neg (Ne.symm hb), Nat.add_zero]
  · apply Tally.of_eq
    simp only [holders]
    rw [hback, if_pos rfl]
    omega

theorem moves_quic_del {id num : ℕ} {raddr : IPAddress} (hid : quic.lookup id = some raddr) :
    Moves exact num raddr 1 0 (holders vips rules quic)
      (holders vips rules (quic.erase id)) := by
  have hback := quicRefs_insert quic id raddr
  rw [insert_lookup_self hid] at hback
  constructor
  · exact fun m _ ↦ Tally.refl exact _
  · intro b hb
    apply Tally.of_eq
    simp only [holders]
    rw [hback, if_neg (Ne.symm hb), Nat.add_zero]
  · apply Tally.of_eq
    simp only [holders]
    rw [hback raddr, if_pos rfl]
    omega

/-! ## The functions on counts -/

theorem Books.congr {t t' : Tables} (h : Books exact config t vips rules quic ids)
    (hnums : t'.realNums = t.realNums) (hreals : t'.reals = t.reals)
    (hnames : t'.numToReals = t.numToReals) : Books exact config t' vips rules quic ids := by
  unfold Books Tables.registry
  rw [hnums, hreals, hnames]
  exact h

theorem Books.of_holders_eq {t : Tables} (h : Books exact config t vips rules quic ids)
    (heq : holders vips' rules' quic = holders vips rules quic) :
    Books exact config t vips' rules' quic ids := by
  unfold Books
  rw [heq]
  exact h

/-- A real that a VIP or a rule refers to has a name and an entry. -/
theorem Books.live {t : Tables} (h : Books exact config t vips rules quic ids) {num : ℕ}
    (hnum : 0 < numRefs vips rules num) :
    ∃ real r, t.numToReals.lookup num = some real ∧ t.reals.lookup real = some r ∧
      r.num = num := by
  obtain ⟨real, hname⟩ := h.num_live num hnum
  obtain ⟨r, hreal, hr⟩ := (h.names num real).mp hname
  exact ⟨real, r, hname, hreal, hr⟩

theorem numToRealsAt_of_lookup {s : State} {num : ℕ} {real : IPAddress}
    (h : s.tables.numToReals.lookup num = some real) : numToRealsAt num s = (real, s) := by
  simp [numToRealsAt, h]

/-- A holder that has gone is taken off the count of its real. -/
theorem decreaseRefCountForReal_books {s : State} {real : IPAddress} {r : RealMeta}
    (h : Books exact config s.tables vips rules quic ids)
    (hreal : s.tables.reals.lookup real = some r)
    (hmoves : Moves exact r.num real 1 0 (holders vips rules quic) (holders vips' rules' quic'))
    (hids : ∀ num b, Assigned quic' ids' num b → Assigned quic ids num b) :
    Books exact config (decreaseRefCountForReal real s).tables vips' rules' quic' ids' := by
  have hpos : 0 < r.refCount := h.positive real r hreal
  unfold decreaseRefCountForReal
  simp only [hreal]
  split_ifs with hzero
  · have hone : r.refCount = 1 := decrement32_eq_zero_iff.mp hzero
    exact h.remove hreal hone hmoves fun num b hb ↦ ⟨hb.quicRefs_pos, hids num b hb⟩
  · have hcount := decrement32_of_pos hpos
    refine h.update hreal rfl ?_ (Nat.pos_of_ne_zero hzero) hmoves
      fun num b hb ↦ ⟨hb.quicRefs_pos, .inl (hids num b hb)⟩
    dsimp only
    omega

/-- The result of counting a new holder: no number is free for a new real, or the real has a
number and any ledger with one reference more to it holds. -/
theorem increaseRefCountForReal_books {s : State} (real : IPAddress) (flags : BitVec 8)
    (h : Books exact config s.tables vips rules quic ids)
    (hwrap : ∀ r, s.tables.reals.lookup real = some r → r.refCount + 1 < 2 ^ 32) :
    (increaseRefCountForReal config real flags s = (config.maxReals, s) ∧
      s.tables.reals.lookup real = none ∧ s.tables.realNums = []) ∨
    ∃ num s', increaseRefCountForReal config real flags s = (num, s') ∧ num ≠ config.maxReals ∧
      (∀ r, s.tables.reals.lookup real = some r → num = r.num) ∧
      (s.tables.reals.lookup real = none → numRefs vips rules num = 0) ∧
      ∀ vips' rules' quic' ids',
        Moves exact num real 0 1 (holders vips rules quic) (holders vips' rules' quic') →
        (∀ n b, Assigned quic' ids' n b → Assigned quic ids n b ∨ (n = num ∧ b = real)) →
        Books exact config s'.tables vips' rules' quic' ids' := by
  unfold increaseRefCountForReal
  dsimp only
  cases hreal : s.tables.reals.lookup real with
  | some r =>
    refine .inr ⟨r.num, _, rfl, h.valid_of_lookup hreal, by simp, by simp, ?_⟩
    intro vips' rules' quic' ids' hmoves hids
    refine h.update hreal rfl ?_ ?_ hmoves fun n b hb ↦ ⟨hb.quicRefs_pos, hids n b hb⟩
    · exact increment32_of_lt (hwrap r hreal)
    · dsimp only
      rw [increment32_of_lt (hwrap r hreal)]
      exact Nat.succ_pos _
  | none =>
    cases hnums : s.tables.realNums with
    | nil => exact .inl ⟨rfl, rfl, rfl⟩
    | cons rnum realNums =>
      have hfree : rnum ∈ s.tables.realNums := by simp [hnums]
      refine .inr ⟨rnum, _, rfl, h.valid_of_free hfree, by simp,
        fun _ ↦ h.byNum_eq_zero (h.name_of_free hfree), ?_⟩
      intro vips' rules' quic' ids' hmoves hids
      have hcreated : Books exact config { s.tables with
          realNums := realNums
          numToReals := s.tables.numToReals.insert rnum real
          reals := s.tables.reals.insert real ⟨rnum, 1, flags &&& ~~~V6DADDR⟩ }
          vips' rules' quic' ids' :=
        h.create hnums hreal rfl rfl hmoves fun n b hb ↦ ⟨hb.quicRefs_pos, hids n b hb⟩
      split_ifs
      · exact hcreated
      · simpa only [updateRealsMap, State.bpfCall_tables] using hcreated

end Vsoshlb
