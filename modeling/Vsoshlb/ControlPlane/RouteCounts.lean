import Vsoshlb.ControlPlane.VipCounts

/-!
# Reference counts: source routing and QUIC ids

A rule holds its real by number, a QUIC id by address. Two loops need a condition to keep the books
balanced: routing a prefix that already has a rule counts the new real without releasing the old
one, and an override of a QUIC id releases the old real before it knows that a number is left for
the new one.
-/

namespace Vsoshlb

open HashTable RefCount

variable {folly : Folly} {config : Config} {chash : HashFunction → ConsistentHash}
  {exact : Bool} {vips : VipTable} {rules : RuleTable} {quic : QuicTable} {ids : ℕ → ℕ}

/-! ## Source routing -/

/-- The state after a round of the loop of `addSrcRoutingRule` that goes through. -/
def routeSrc (config : Config) (dst : IPAddress) (src : CIDRNetwork) (s : State) : State :=
  let (rnum, s) := increaseRefCountForReal config dst 0 s
  let s := { s with tables.lpmSrcMapping := s.tables.lpmSrcMapping.insert src rnum }
  if config.testing then s else (modifyLpmSrcRule .add src rnum s).2

/-- Every round of the loop that gets as far as a new holder finds room in the count, and, for
exact books, a prefix without a rule. -/
def SrcCounts (config : Config) (exact : Bool) (dst : IPAddress) :
    List CIDRNetwork → State → Prop
  | [], _ => True
  | src :: srcs, s =>
    HashTable.size s.tables.lpmSrcMapping + 1 ≤ config.maxLpmSrcSize →
      (∀ r, s.tables.reals.lookup dst = some r → r.refCount + 1 < 2 ^ 32) ∧
      ((s.tables.reals.lookup dst = none → s.tables.realNums ≠ []) →
        (exact → s.tables.lpmSrcMapping.lookup src = none) ∧
        SrcCounts config exact dst srcs (routeSrc config dst src s))

theorem addSrcNetworks_balanced {dst : IPAddress} {srcs : List CIDRNetwork} {s : State}
    (h : Balanced exact config ids s.tables) (hcounts : SrcCounts config exact dst srcs s) :
    Balanced exact config ids (addSrcNetworks config dst srcs s).2.tables := by
  induction srcs generalizing s with
  | nil => exact h
  | cons src srcs ih =>
    unfold addSrcNetworks
    by_cases hfull : HashTable.size s.tables.lpmSrcMapping + 1 > config.maxLpmSrcSize
    · rw [if_pos hfull]
      exact h
    · rw [if_neg hfull]
      obtain ⟨hwrap, hround⟩ := hcounts (Nat.le_of_not_lt hfull)
      have hwithin := @increaseRefCountForReal_within config dst 0 s
      rcases increaseRefCountForReal_books dst 0 h hwrap with
        ⟨hinc, -, -⟩ | ⟨num, s', hinc, hvalid, hold, -, hbooks⟩
      · rw [hinc]
        dsimp only
        rw [if_pos rfl]
        exact h
      · have hroom : s.tables.reals.lookup dst = none → s.tables.realNums ≠ [] := by
          intro hnone hnil
          rw [increaseRefCountForReal_of_nil hnone hnil] at hinc
          exact hvalid (Prod.mk.inj hinc).1.symm
        obtain ⟨hnew, hrest⟩ := hround hroom
        have hrouted : Balanced exact config ids (routeSrc config dst src s).tables := by
          have hadded := hbooks _ _ _ _ (moves_rule_add hnew) fun n b hb ↦ .inl hb
          rw [hinc] at hwithin
          have hvips : s'.tables.vips = s.tables.vips := hwithin.same .vips (by simp)
          have hrules : s'.tables.lpmSrcMapping = s.tables.lpmSrcMapping :=
            hwithin.same .lpmSrcMapping (by simp)
          have hquic : s'.tables.quicMapping = s.tables.quicMapping :=
            hwithin.same .quicMapping (by simp)
          unfold routeSrc
          rw [hinc]
          dsimp only
          split_ifs
          · exact hadded.balanced rfl rfl rfl hvips (by rw [← hrules]) hquic
          · simp only [modifyLpmSrcRule, State.bpfCall_tables]
            exact hadded.balanced rfl rfl rfl hvips (by rw [← hrules]) hquic
        have hnext := ih hrouted hrest
        unfold routeSrc at hnext
        rw [hinc] at hnext ⊢
        dsimp only at hnext ⊢
        rw [if_neg hvalid]
        exact hnext

/-- A rule goes and its real loses a holder. -/
theorem decrease_rule_books {t : Tables} {s : State} {src : CIDRNetwork} {rnum : ℕ}
    {real : IPAddress} (h : Books exact config s.tables vips rules quic ids)
    (hsrc : rules.lookup src = some rnum) (hname : s.tables.numToReals.lookup rnum = some real)
    (hnums : t.realNums = (decreaseRefCountForReal real s).tables.realNums)
    (hreals : t.reals = (decreaseRefCountForReal real s).tables.reals)
    (hnames : t.numToReals = (decreaseRefCountForReal real s).tables.numToReals) :
    Books exact config t vips (rules.erase src) quic ids := by
  obtain ⟨r, hreal, rfl⟩ := (h.names rnum real).mp hname
  exact (decreaseRefCountForReal_books h hreal (moves_rule_del hsrc) fun n b hb ↦ hb).congr
    hnums hreals hnames

theorem delSrcNetwork_balanced (s : State) (src : CIDRNetwork)
    (h : Balanced exact config ids s.tables) :
    Balanced exact config ids (delSrcNetwork config s src).tables := by
  unfold delSrcNetwork
  cases hsrc : s.tables.lpmSrcMapping.lookup src with
  | none => exact h
  | some rnum =>
    obtain ⟨real, r, hname, hreal, hr⟩ := h.rule_live hsrc
    have hwithin := decreaseRefCountForReal_within real s
    have hvips := hwithin.same .vips (by simp)
    have hrules : (decreaseRefCountForReal real s).tables.lpmSrcMapping =
        s.tables.lpmSrcMapping := hwithin.same .lpmSrcMapping (by simp)
    have hquic := hwithin.same .quicMapping (by simp)
    have hreleased := decrease_rule_books h hsrc hname rfl rfl rfl
    dsimp only
    rw [numToRealsAt_of_lookup hname]
    split_ifs
    · exact hreleased.balanced rfl rfl rfl hvips (by rw [← hrules]) hquic
    · simp only [modifyLpmSrcRule, State.bpfCall_tables]
      exact hreleased.balanced rfl rfl rfl hvips (by rw [← hrules]) hquic

/-- The loop body of `clearAllSrcRoutingRules` takes a rule off the books. -/
theorem clearSrcRule_books {src : CIDRNetwork} {rnum : ℕ} {s s' : State}
    (h : Books exact config s.tables vips rules quic ids) (hsrc : rules.lookup src = some rnum)
    (hrule : clearSrcRule config s (src, rnum) = some s') :
    Books exact config s'.tables vips (rules.erase src) quic ids := by
  obtain ⟨real, hname, hrule⟩ := Option.bind_eq_some_iff.mp hrule
  have htables : s'.tables = (decreaseRefCountForReal real s).tables := by
    rw [← Option.some.inj hrule]
    split_ifs
    · rfl
    · exact State.bpfCall_tables _ _
  exact decrease_rule_books h hsrc hname (by rw [htables]) (by rw [htables]) (by rw [htables])

theorem clearAllSrcRoutingRules_balanced {u : Unspecified} {s : State} {reply : Bool × State}
    (h : Balanced exact config ids s.tables)
    (hcall : clearAllSrcRoutingRules config u s = some reply) :
    Balanced exact config ids reply.2.tables := by
  unfold clearAllSrcRoutingRules at hcall
  split_ifs at hcall
  · obtain rfl := Option.some.inj hcall
    exact h
  · obtain ⟨s', hloop, hcall⟩ := Option.bind_eq_some_iff.mp hcall
    obtain rfl := Option.some.inj hcall
    have hcleared : Books exact config s'.tables s.tables.vips ∅ s.tables.quicMapping ids :=
      u.srcRules.foldlM_erase
        (I := fun rules (s' : State) ↦
          Books exact config s'.tables s.tables.vips rules s.tables.quicMapping ids)
        (fun rules s₁ src rnum s₂ hs₁ hsrc hrule ↦ clearSrcRule_books hs₁ hsrc hrule) h hloop
    have hwithin : Within [.reals, .numToReals] s s' :=
      Runs.invariant (I := Within [.reals, .numToReals] s)
        (fun s₁ rule s₂ hs₁ hrule ↦ hs₁.trans (clearSrcRule_within hrule)) (Within.refl _ s) hloop
    exact hcleared.balanced rfl rfl rfl (hwithin.same .vips (by simp)) rfl
      (hwithin.same .quicMapping (by simp))

/-! ## QUIC ids -/

/-- The numbers given to the ids, with those that a batch has still to write. -/
def assign (toUpdate : Finmap fun _ : ℕ ↦ ℕ) (ids : ℕ → ℕ) (id : ℕ) : ℕ :=
  (toUpdate.lookup id).getD (ids id)

theorem assign_insert (toUpdate : Finmap fun _ : ℕ ↦ ℕ) (id rnum : ℕ) :
    assign (toUpdate.insert id rnum) ids = Function.update (assign toUpdate ids) id rnum := by
  funext id'
  unfold assign
  rw [lookup_insert_ite, Function.update_apply]
  split_ifs <;> rfl

/-- A mapping that goes takes the claim on its number along. -/
theorem Assigned.of_erase {id num : ℕ} {address : IPAddress}
    (h : Assigned (quic.erase id) ids num address) : Assigned quic ids num address := by
  obtain ⟨id', hid, hnum⟩ := h
  rw [lookup_erase_ite] at hid
  split_ifs at hid
  exact ⟨id', hid, hnum⟩

/-- A new mapping claims the number of its real. -/
theorem Assigned.of_insert {id rnum num : ℕ} {raddr address : IPAddress}
    (h : Assigned (quic.insert id raddr) (Function.update ids id rnum) num address) :
    Assigned (quic.erase id) ids num address ∨ (num = rnum ∧ address = raddr) := by
  obtain ⟨id', hid, hnum⟩ := h
  rw [lookup_insert_ite] at hid
  rw [Function.update_apply] at hnum
  split_ifs at hid hnum with heq
  · exact .inr ⟨hnum.symm, (Option.some.inj hid).symm⟩
  · refine .inl ⟨id', ?_, hnum⟩
    rw [lookup_erase_ite, if_neg heq, hid]

theorem delQuicStep_balanced (s : State) (real : QuicReal)
    (h : Balanced exact config ids s.tables) :
    Balanced exact config ids (delQuicStep folly config s real).tables := by
  unfold delQuicStep
  cases haddr : folly.parse real.address with
  | none => simpa [validateHost_of_none haddr] using h
  | some raddr =>
    simp only [validateHost_of_some haddr]
    split_ifs
    · exact h
    · cases hid : s.tables.quicMapping.lookup real.id with
      | none => exact h
      | some current =>
        dsimp only
        by_cases hcur : current = raddr
        · subst hcur
          obtain ⟨r, hreal⟩ := h.key_live current (quicRefs_pos_iff.mpr ⟨real.id, hid⟩)
          have hwithin := decreaseRefCountForReal_within current s
          have hquic : (decreaseRefCountForReal current s).tables.quicMapping =
              s.tables.quicMapping := hwithin.same .quicMapping (by simp)
          have hreleased := decreaseRefCountForReal_books h hreal (moves_quic_del hid)
            fun n b hb ↦ hb.of_erase
          rw [if_neg (not_not.mpr rfl)]
          exact hreleased.balanced rfl rfl rfl (hwithin.same .vips (by simp))
            (hwithin.same .lpmSrcMapping (by simp)) (by rw [← hquic])
        · rw [if_pos hcur]
          exact h

/-- Mapping an id that no holder is counted for: no number is left for a new real, or the books
balance again. -/
theorem mapQuicReal_balanced {s : State} {raddr : IPAddress} {id : ℕ}
    {toUpdate : Finmap fun _ : ℕ ↦ ℕ}
    (h : Books exact config s.tables s.tables.vips s.tables.lpmSrcMapping
      (s.tables.quicMapping.erase id) (assign toUpdate ids))
    (hwrap : ∀ r, s.tables.reals.lookup raddr = some r → r.refCount + 1 < 2 ^ 32) :
    (mapQuicReal config raddr id toUpdate s = (toUpdate, s) ∧
      s.tables.reals.lookup raddr = none ∧ s.tables.realNums = []) ∨
    ∃ toUpdate' s', mapQuicReal config raddr id toUpdate s = (toUpdate', s') ∧
      Balanced exact config (assign toUpdate' ids) s'.tables := by
  have hwithin := @increaseRefCountForReal_within config raddr 0 s
  unfold mapQuicReal
  rcases increaseRefCountForReal_books raddr 0 h hwrap with
    ⟨hinc, hnone, hnil⟩ | ⟨num, s', hinc, hvalid, -, -, hbooks⟩
  · refine .inl ⟨?_, hnone, hnil⟩
    rw [hinc]
    exact if_pos rfl
  · rw [hinc] at hwithin ⊢
    have hquic : s'.tables.quicMapping = s.tables.quicMapping :=
      hwithin.same .quicMapping (by simp)
    have hmoves : Moves exact num raddr 0 1
        (holders s.tables.vips s.tables.lpmSrcMapping (s.tables.quicMapping.erase id))
        (holders s.tables.vips s.tables.lpmSrcMapping
          ((s.tables.quicMapping.erase id).insert id raddr)) := moves_quic_add (by simp)
    rw [insert_erase_self] at hmoves
    dsimp only
    rw [if_neg hvalid]
    refine .inr ⟨_, _, rfl, ?_⟩
    rw [assign_insert]
    have hmapped := hbooks _ _ _ (Function.update (assign toUpdate ids) id num) hmoves
      fun n b hb ↦ hb.of_insert
    exact hmapped.balanced rfl rfl rfl (hwithin.same .vips (by simp))
      (hwithin.same .lpmSrcMapping (by simp)) (by rw [← hquic])

/-- An `ADD` of a mapping finds room in the count, and, when it overrides a mapping to an address
that is not a real yet, a number that is free or becomes free with the old real. -/
def QuicCounts (folly : Folly) (config : Config) (acc : (Finmap fun _ : ℕ ↦ ℕ) × State)
    (real : QuicReal) : Prop :=
  ∀ raddr, folly.parse real.address = some raddr →
    ¬ (config.enableCidV3 = false ∧ real.id > kMaxQuicIdV2) →
    acc.2.tables.quicMapping.lookup real.id ≠ some raddr →
    (∀ r, acc.2.tables.reals.lookup raddr = some r → r.refCount + 1 < 2 ^ 32) ∧
    ∀ current r, acc.2.tables.quicMapping.lookup real.id = some current →
      acc.2.tables.reals.lookup current = some r → acc.2.tables.reals.lookup raddr = none →
      r.refCount = 1 ∨ acc.2.tables.realNums ≠ []

theorem decreaseRefCountForReal_realNums_ne_nil {s : State} {real : IPAddress} {r : RealMeta}
    (hreal : s.tables.reals.lookup real = some r)
    (hroom : r.refCount = 1 ∨ s.tables.realNums ≠ []) :
    (decreaseRefCountForReal real s).tables.realNums ≠ [] := by
  rw [decreaseRefCountForReal_realNums hreal]
  split_ifs with hone
  · exact List.append_ne_nil_of_right_ne_nil _ (List.cons_ne_nil _ _)
  · exact hroom.resolve_left hone

theorem addQuicStep_balanced {acc : (Finmap fun _ : ℕ ↦ ℕ) × State} {real : QuicReal}
    (h : Balanced exact config (assign acc.1 ids) acc.2.tables)
    (hcounts : QuicCounts folly config acc real) :
    Balanced exact config (assign (addQuicStep folly config acc real).1 ids)
      (addQuicStep folly config acc real).2.tables := by
  obtain ⟨toUpdate, s⟩ := acc
  unfold addQuicStep
  cases haddr : folly.parse real.address with
  | none => simpa [validateHost_of_none haddr] using h
  | some raddr =>
    simp only [validateHost_of_some haddr]
    split_ifs with hrange
    · exact h
    · cases hid : s.tables.quicMapping.lookup real.id with
      | none =>
        obtain ⟨hwrap, -⟩ := hcounts raddr haddr hrange (by simp [hid])
        have hbooks : Books exact config s.tables s.tables.vips s.tables.lpmSrcMapping
            (s.tables.quicMapping.erase real.id) (assign toUpdate ids) := by
          rw [erase_of_lookup_none hid]
          exact h
        rcases mapQuicReal_balanced hbooks hwrap with ⟨hmap, -, -⟩ | ⟨toUpdate', s', hmap, hbal⟩
        · simp only [hmap]
          exact h
        · simp only [hmap]
          exact hbal
      | some current =>
        dsimp only
        by_cases hcur : current = raddr
        · rw [if_pos hcur]
          exact h
        · obtain ⟨hwrap, hroom⟩ := hcounts raddr haddr hrange (by simpa [hid] using hcur)
          obtain ⟨r, hreal⟩ := h.key_live current (quicRefs_pos_iff.mpr ⟨real.id, hid⟩)
          have hwithin := decreaseRefCountForReal_within current s
          have hreleased := decreaseRefCountForReal_books h hreal (moves_quic_del hid)
            fun n b hb ↦ hb.of_erase
          have hother := @decreaseRefCountForReal_lookup_of_ne current raddr s (Ne.symm hcur)
          have hbooks : Books exact config (decreaseRefCountForReal current s).tables
              (decreaseRefCountForReal current s).tables.vips
              (decreaseRefCountForReal current s).tables.lpmSrcMapping
              ((decreaseRefCountForReal current s).tables.quicMapping.erase real.id)
              (assign toUpdate ids) := by
            have hvips := hwithin.same .vips (by simp)
            have hrules := hwithin.same .lpmSrcMapping (by simp)
            have hquic := hwithin.same .quicMapping (by simp)
            simp only [Component.Same] at hvips hrules hquic
            rw [hvips, hrules, hquic]
            exact hreleased
          rw [if_neg hcur]
          rcases mapQuicReal_balanced hbooks (fun r' hr' ↦ hwrap r' (hother ▸ hr')) with
            ⟨-, hnone, hnil⟩ | ⟨toUpdate', s', hmap, hbal⟩
          · -- the condition has left a number for the new real
            exact absurd hnil (decreaseRefCountForReal_realNums_ne_nil hreal
              (hroom current r hid hreal (hother ▸ hnone)))
          · simp only [hmap]
            exact hbal

/-- The condition on the batch of an `ADD` of mappings. -/
def QuicBatchCounts (folly : Folly) (config : Config) (reals : List QuicReal) (s : State) : Prop :=
  Runs.Along (fun acc real ↦ some (addQuicStep folly config acc real))
    (QuicCounts folly config) (∅, s) reals

theorem addQuicLoop_balanced {reals : List QuicReal} {s : State}
    (h : Balanced exact config ids s.tables) (hcounts : QuicBatchCounts folly config reals s) :
    Balanced exact config (assign (reals.foldl (addQuicStep folly config) (∅, s)).1 ids)
      (reals.foldl (addQuicStep folly config) (∅, s)).2.tables := by
  have hstart : Balanced exact config (assign ∅ ids) s.tables := h
  exact Runs.invariant_of_along
    (I := fun acc : (Finmap fun _ : ℕ ↦ ℕ) × State ↦
      Balanced exact config (assign acc.1 ids) acc.2.tables)
    (fun acc real acc' hacc hreal hstep ↦ Option.some.inj hstep ▸ addQuicStep_balanced hacc hreal)
    (s := (∅, s)) hstart hcounts List.foldlM_pure

end Vsoshlb
