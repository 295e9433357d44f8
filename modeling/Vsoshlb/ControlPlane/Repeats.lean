import Vsoshlb.ControlPlane.Batches

/-!
# A reals update that is repeated

A controller that is not sure of a call makes it again. After an `ADD` every address has a number
that the VIP holds, so the same `ADD` counts nothing and asks for the weights that are there. After
a `DEL` none of the addresses has a number that the VIP holds, so the same `DEL` finds nothing.
-/

namespace Vsoshlb

open HashTable

variable {folly : Folly} {config : Config} {chash : HashFunction → ConsistentHash}

/-! ## Adding again -/

/-- The pool has a number for the address, if it is a new one. -/
def FindsNumber (folly : Folly) (config : Config) (acc : Batch × State) (real : NewReal) : Prop :=
  ∀ raddr, folly.parse real.address = some raddr → acc.2.tables.reals.lookup raddr = none →
    (increaseRefCountForReal config raddr real.flags acc.2).1 ≠ config.maxReals

/-- The address has a number, and the update is the one that an `ADD` makes for it. -/
def Entered (folly : Folly) (s : State) (real : NewReal) (ureal : UpdateReal) : Prop :=
  ∃ raddr r, folly.parse real.address = some raddr ∧ s.tables.reals.lookup raddr = some r ∧
    ureal = ⟨.add, ⟨r.num, real.weight, folly.hash raddr⟩⟩

/-- Every real of `s` is one of `s'`, under the same number. -/
def NumsKept (s s' : State) : Prop :=
  ∀ raddr r, s.tables.reals.lookup raddr = some r →
    ∃ r', s'.tables.reals.lookup raddr = some r' ∧ r'.num = r.num

theorem NumsKept.trans {s s' s'' : State} (h : NumsKept s s') (h' : NumsKept s' s'') :
    NumsKept s s'' := by
  intro raddr r hreal
  obtain ⟨r', hreal', hnum⟩ := h raddr r hreal
  obtain ⟨r'', hreal'', hnum'⟩ := h' raddr r' hreal'
  exact ⟨r'', hreal'', hnum'.trans hnum⟩

theorem Entered.of_numsKept {s s' : State} {real : NewReal} {ureal : UpdateReal}
    (h : Entered folly s real ureal) (hkept : NumsKept s s') : Entered folly s' real ureal := by
  obtain ⟨raddr, r, haddr, hreal, rfl⟩ := h
  obtain ⟨r', hreal', hnum⟩ := hkept raddr r hreal
  exact ⟨raddr, r', haddr, hreal', by rw [hnum]⟩

theorem increaseRefCountForReal_numsKept (real : IPAddress) (flags : BitVec 8) (s : State) :
    NumsKept s (increaseRefCountForReal config real flags s).2 := by
  intro raddr r hreal
  by_cases hsame : raddr = real
  · subst hsame
    rw [increaseRefCountForReal_of_lookup hreal]
    exact ⟨_, Finmap.lookup_insert _, rfl⟩
  · exact ⟨r, (increaseRefCountForReal_lookup_of_ne hsame flags).trans hreal, rfl⟩

/-- One element of an `ADD`. -/
theorem addRealStep_entered {acc : Batch × State} {real : NewReal}
    (hvalid : (folly.parse real.address).isSome) (hroom : FindsNumber folly config acc real) :
    NumsKept acc.2 (addRealStep folly config acc real).2 ∧
      ∃ ureal, (addRealStep folly config acc real).1.ureals = acc.1.ureals ++ [ureal] ∧
        Entered folly (addRealStep folly config acc real).2 real ureal := by
  obtain ⟨batch, s⟩ := acc
  obtain ⟨raddr, haddr⟩ := Option.isSome_iff_exists.mp hvalid
  have hkept := @increaseRefCountForReal_numsKept config raddr real.flags s
  simp only [addRealStep, validateHost_of_some haddr]
  cases hreal : s.tables.reals.lookup raddr with
  | some r =>
    dsimp only
    split_ifs
    · exact ⟨fun _ r hr ↦ ⟨r, hr, rfl⟩, _, rfl, raddr, r, haddr, hreal, rfl⟩
    · obtain ⟨r', hreal', hnum⟩ := hkept raddr r hreal
      exact ⟨hkept, _, rfl, raddr, r', haddr, hreal', by rw [hnum]⟩
  | none =>
    have hnum := hroom raddr haddr hreal
    obtain ⟨r, hreal', hr⟩ :=
      (increaseRefCountForReal_num raddr real.flags s).resolve_left hnum
    dsimp only at hnum ⊢
    rw [if_neg hnum]
    exact ⟨hkept, _, rfl, raddr, r, haddr, hreal', by rw [hr]⟩

/-- After the loop every address has its number. -/
theorem addRealsLoop_entered {reals : List NewReal} {acc : Batch × State}
    (hvalid : ∀ real ∈ reals, (folly.parse real.address).isSome)
    (hroom : Runs.Along (fun acc real ↦ some (addRealStep folly config acc real))
      (FindsNumber folly config) acc reals) :
    NumsKept acc.2 (reals.foldl (addRealStep folly config) acc).2 ∧
      ∃ entered, (reals.foldl (addRealStep folly config) acc).1.ureals =
          acc.1.ureals ++ entered ∧
        List.Forall₂ (Entered folly (reals.foldl (addRealStep folly config) acc).2)
          reals entered := by
  induction reals generalizing acc with
  | nil =>
    exact ⟨fun _ r hr ↦ ⟨r, hr, rfl⟩, [], (List.append_nil _).symm, List.Forall₂.nil⟩
  | cons real reals ih =>
    obtain ⟨hfirst, hrest⟩ := List.forall_mem_cons.mp hvalid
    obtain ⟨hkept, ureal, happend, hentered⟩ := addRealStep_entered hfirst hroom.1
    obtain ⟨hkept', entered, happend', hall⟩ := ih hrest (hroom.2 _ rfl)
    rw [List.foldl_cons]
    refine ⟨hkept.trans hkept', ureal :: entered, ?_, .cons (hentered.of_numsKept hkept') hall⟩
    rw [happend', happend, List.append_assoc, List.singleton_append]

/-- With every address entered and its number in the list, the loop collects the updates and does
nothing else. -/
theorem addRealsLoop_again {reals : List NewReal} {entered : List UpdateReal} {s : State}
    (hall : List.Forall₂ (Entered folly s) reals entered) {curReals : List ℕ}
    (hcur : ∀ ureal ∈ entered, ureal.updatedReal.num ∈ curReals) (ureals : List UpdateReal) :
    reals.foldl (addRealStep folly config) (⟨curReals, ureals⟩, s) =
      (⟨curReals, ureals ++ entered⟩, s) := by
  induction hall generalizing ureals with
  | nil => rw [List.append_nil, List.foldl_nil]
  | @cons real _ _ _ hfirst _ ih =>
    obtain ⟨raddr, r, haddr, hreal, rfl⟩ := hfirst
    obtain ⟨hmem, hcur⟩ := List.forall_mem_cons.mp hcur
    have hstep : addRealStep folly config (⟨curReals, ureals⟩, s) real =
        (⟨curReals, ureals ++ [⟨.add, ⟨r.num, real.weight, folly.hash raddr⟩⟩]⟩, s) := by
      simp only [addRealStep, validateHost_of_some haddr, hreal]
      exact if_pos hmem
    rw [List.foldl_cons, hstep, ih hcur, List.append_assoc, List.singleton_append]

/-! ## Deleting again -/

/-- If the address is still there with a number of the VIP, the batch has named the number. -/
def Dropped (raddr : IPAddress) (acc : Batch × State) : Prop :=
  ∀ r, acc.2.tables.reals.lookup raddr = some r → r.num ∈ acc.1.curReals → acc.1.Named r.num

theorem Batch.Named.append {batch : Batch} {num : ℕ} (h : batch.Named num) (ureal : UpdateReal) :
    Batch.Named { batch with ureals := batch.ureals ++ [ureal] } num := by
  obtain ⟨ureal', hmem, heq⟩ := h
  exact ⟨ureal', List.mem_append_left _ hmem, heq⟩

theorem decreaseRefCountForReal_num {real raddr : IPAddress} {s : State} {r : RealMeta}
    (h : (decreaseRefCountForReal real s).tables.reals.lookup raddr = some r) :
    ∃ r₀, s.tables.reals.lookup raddr = some r₀ ∧ r.num = r₀.num := by
  by_cases hsame : raddr = real
  · subst hsame
    cases hreal : s.tables.reals.lookup raddr with
    | none =>
      have hgone : decreaseRefCountForReal raddr s = s := by simp [decreaseRefCountForReal, hreal]
      rw [hgone, hreal] at h
      cases h
    | some r₀ =>
      rw [decreaseRefCountForReal_lookup hreal] at h
      split_ifs at h
      obtain rfl := Option.some.inj h
      exact ⟨r₀, rfl, rfl⟩
  · rw [decreaseRefCountForReal_lookup_of_ne hsame] at h
    exact ⟨r, h, rfl⟩

theorem delRealStep_dropped {raddr : IPAddress} {acc : Batch × State} (real : NewReal)
    (h : Dropped raddr acc) : Dropped raddr (delRealStep folly config acc real) := by
  obtain ⟨batch, s⟩ := acc
  unfold delRealStep
  cases haddr : folly.parse real.address with
  | none =>
    simp only [validateHost_of_none haddr]
    exact h
  | some other =>
    simp only [validateHost_of_some haddr]
    cases s.tables.reals.lookup other with
    | none => exact h
    | some r =>
      dsimp only
      split_ifs
      · intro r' hreal hmem
        obtain ⟨r₀, hreal₀, hnum⟩ := decreaseRefCountForReal_num hreal
        rw [hnum] at hmem ⊢
        exact (h r₀ hreal₀ hmem).append _
      · exact h

/-- An element of a `DEL` drops its address. -/
theorem delRealStep_drops {raddr : IPAddress} {real : NewReal}
    (haddr : folly.parse real.address = some raddr) (acc : Batch × State) :
    Dropped raddr (delRealStep folly config acc real) := by
  obtain ⟨batch, s⟩ := acc
  simp only [delRealStep, validateHost_of_some haddr]
  cases hreal : s.tables.reals.lookup raddr with
  | none =>
    intro r hr
    rw [hreal] at hr
    cases hr
  | some r =>
    dsimp only
    split_ifs with hmem
    · intro r' hr' _
      obtain ⟨r₀, hr₀, hnum⟩ := decreaseRefCountForReal_num hr'
      obtain rfl := Option.some.inj (hreal.symm.trans hr₀)
      rw [hnum]
      exact ⟨_, List.mem_append_right _ (List.mem_singleton_self _), rfl⟩
    · intro r' hr' hmem'
      obtain rfl := Option.some.inj (hreal.symm.trans hr')
      exact absurd hmem' hmem

/-- Where no address has a number in the list, the loop does nothing. -/
theorem delRealsLoop_idle {reals : List NewReal} {acc : Batch × State}
    (hvalid : ∀ real ∈ reals, (folly.parse real.address).isSome)
    (hidle : ∀ real ∈ reals, ∀ raddr r, folly.parse real.address = some raddr →
      acc.2.tables.reals.lookup raddr = some r → r.num ∉ acc.1.curReals) :
    reals.foldl (delRealStep folly config) acc = acc := by
  refine Runs.foldl_invariant_of_mem (· = acc) rfl fun acc' real hmem hacc' ↦ ?_
  subst hacc'
  obtain ⟨batch, s⟩ := acc'
  obtain ⟨raddr, haddr⟩ := Option.isSome_iff_exists.mp (hvalid real hmem)
  simp only [delRealStep, validateHost_of_some haddr]
  cases hreal : s.tables.reals.lookup raddr with
  | none => rfl
  | some r => exact if_neg (hidle real hmem raddr r haddr hreal)

/-- After a `DEL` the VIP has no number of a real that the list names. -/
theorem delRealsLoop_unlisted {reals : List NewReal} {v : Vip} {start : Batch × State}
    {batch : Batch} {looped : State} (hloop : reals.foldl (delRealStep folly config) start =
      (batch, looped)) (hofVip : batch.OfVip .del v) {real : NewReal} (hmem : real ∈ reals)
    {raddr : IPAddress} (haddr : folly.parse real.address = some raddr) {r : RealMeta}
    (hreal : looped.tables.reals.lookup raddr = some r) :
    ¬ ((v.after batch.ureals).reals.lookup r.num).isSome := by
  intro hheld
  have hdropped : Dropped raddr (batch, looped) := by
    have hend := Runs.foldl_reaches (I := fun _ ↦ True) (Q := Dropped raddr)
      (fun _ _ _ ↦ trivial) (fun _ real h ↦ @delRealStep_dropped folly config _ _ real h)
      hmem (fun acc _ ↦ @delRealStep_drops folly config _ _ haddr acc) (s := start) trivial
    exact hloop ▸ hend
  have hnot : ¬ batch.Named r.num := by
    intro hnamed
    rw [Vip.after_isSome_of_named hofVip.actions hnamed] at hheld
    cases hheld
  have hbefore : (v.reals.lookup r.num).isSome := by
    rw [← hheld]
    exact (Vip.after_isSome_of_not_named fun ureal hmem heq ↦ hnot ⟨ureal, hmem, heq⟩).symm
  exact hnot (hdropped r hreal ((hofVip.unnamed r.num hnot).mpr hbefore))

/-! ## The whole call -/

/-- An `ADD` finds a number for each new address. -/
def EnoughNumbers (folly : Folly) (config : Config) (action : ModifyAction) (reals : List NewReal)
    (acc : Batch × State) : Prop :=
  match action with
  | .add => Runs.Along (fun acc real ↦ some (addRealStep folly config acc real))
      (FindsNumber folly config) acc reals
  | .del => True

/-- A call whose loop does nothing and whose updates change nothing. -/
theorem modifyRealsForVip_idle {u : Unspecified} {action : ModifyAction} {reals : List NewReal}
    {vip : VipKey} {s : State} {w : Vip} {batch : Batch}
    (hvip : s.tables.vips.lookup vip = some w)
    (hloop : reals.foldl (realStep folly config action) (⟨w.getReals u.vipReals, []⟩, s) =
      (batch, s))
    (hring : w.batchRealsUpdate chash u.vipReals batch.ureals = some ([], w)) :
    modifyRealsForVip folly config chash u action reals vip s = some (true, s) := by
  have hsame : s.tables.vips.insert vip w = s.tables.vips := insert_lookup_self hvip
  unfold modifyRealsForVip
  simp only [hvip, realsLoop_eq, hloop, hring, Option.bind_eq_bind, Option.bind_some, hsame]
  rfl

/-- A reals update that is made again leaves the state as it is and sends nothing to the ring. An
unchanged table is walked in the same order. -/
theorem modifyRealsForVip_again {u u' : Unspecified} {action : ModifyAction}
    {reals : List NewReal} {vip : VipKey} {s : State} {reply : Bool × State}
    (hvalid : ∀ real ∈ reals, (folly.parse real.address).isSome)
    (hroom : ∀ v, s.tables.vips.lookup vip = some v →
      EnoughNumbers folly config action reals (⟨v.getReals u.vipReals, []⟩, s))
    (hcall : modifyRealsForVip folly config chash u action reals vip s = some reply)
    (hwalk : ∀ w, reply.2.tables.vips.lookup vip = some w →
      u'.vipReals.order w.reals = u.vipReals.order w.reals) :
    modifyRealsForVip folly config chash u' action reals vip reply.2 = some reply := by
  cases hvip : s.tables.vips.lookup vip with
  | none =>
    have hreply : ∀ u, modifyRealsForVip folly config chash u action reals vip s =
        some (false, s) := by
      intro u
      simp [modifyRealsForVip, hvip]
    obtain rfl := Option.some.inj ((hreply u).symm.trans hcall)
    exact hreply u'
  | some v =>
    obtain ⟨batch, looped, delta, w, hloop, hring, rfl⟩ := modifyRealsForVip_of_lookup hvip hcall
    have htables := @programHashRing_tables config u delta w.vipNum
      { looped with tables.vips := looped.tables.vips.insert vip w }
    dsimp only at hwalk ⊢
    generalize programHashRing config u delta w.vipNum _ = s₂ at htables hwalk ⊢
    have hvip₂ : s₂.tables.vips.lookup vip = some w := by
      rw [htables]
      exact Finmap.lookup_insert _
    have hreals₂ : s₂.tables.reals = looped.tables.reals := by rw [htables]
    have hofVip := @realsLoop_ofVip folly config action u.vipReals v s reals
    rw [hloop] at hofVip
    obtain ⟨ring, hframe⟩ := Vip.batchRealsUpdate_frame hring
    cases action with
    | add =>
      obtain ⟨-, entered, happend, hall⟩ := addRealsLoop_entered hvalid (hroom v hvip)
      have hloop' : reals.foldl (addRealStep folly config) (⟨v.getReals u.vipReals, []⟩, s) =
          (batch, looped) := hloop
      rw [hloop'] at happend hall
      obtain rfl : batch.ureals = entered := happend
      have hall₂ : List.Forall₂ (Entered folly s₂) reals batch.ureals :=
        hall.imp fun real ureal h ↦ h.of_numsKept fun raddr r hr ↦ ⟨r, by rw [hreals₂, hr], rfl⟩
      have hcur : ∀ ureal ∈ batch.ureals, ureal.updatedReal.num ∈ w.getReals u'.vipReals := by
        intro ureal hmem
        rw [Vip.mem_getReals, hframe]
        exact Vip.after_isSome_of_named hofVip.actions ⟨ureal, hmem, rfl⟩
      exact modifyRealsForVip_idle hvip₂ (addRealsLoop_again hall₂ hcur [])
        (Vip.batchRealsUpdate_again hring (hwalk w hvip₂))
    | del =>
      have hidle : ∀ real ∈ reals, ∀ raddr r, folly.parse real.address = some raddr →
          s₂.tables.reals.lookup raddr = some r → r.num ∉ w.getReals u'.vipReals := by
        intro real hmem raddr r haddr hreal hheld
        rw [Vip.mem_getReals, hframe] at hheld
        rw [hreals₂] at hreal
        have hloop' : reals.foldl (delRealStep folly config) (⟨v.getReals u.vipReals, []⟩, s) =
            (batch, looped) := hloop
        exact absurd hheld (delRealsLoop_unlisted hloop' hofVip hmem haddr hreal)
      have hloop₂ := @delRealsLoop_idle folly config reals (⟨w.getReals u'.vipReals, []⟩, s₂)
        hvalid hidle
      exact modifyRealsForVip_idle hvip₂ hloop₂ rfl

/-- Two new reals, added and added again. -/
theorem modifyRealsForVip_again_pair :
    ∃ reply, modifyRealsForVip .sample .sample (fun _ ↦ .single) (.sorted id) .add
        [⟨"10.0.0.2", 1, 0⟩, ⟨"10.0.0.3", 2, 0⟩] ⟨"10.0.0.1", 80, 6⟩ oneVip = some reply ∧
      modifyRealsForVip .sample .sample (fun _ ↦ .single) (.sorted id) .add
        [⟨"10.0.0.2", 1, 0⟩, ⟨"10.0.0.3", 2, 0⟩] ⟨"10.0.0.1", 80, 6⟩ reply.2 = some reply := by
  have hcall : (modifyRealsForVip .sample .sample (fun _ ↦ .single) (.sorted id) .add
      [⟨"10.0.0.2", 1, 0⟩, ⟨"10.0.0.3", 2, 0⟩] ⟨"10.0.0.1", 80, 6⟩ oneVip).isSome := by
    decide +kernel
  obtain ⟨reply, hcall⟩ := Option.isSome_iff_exists.mp hcall
  have hvalid : ∀ real ∈ [(⟨"10.0.0.2", 1, 0⟩ : NewReal), ⟨"10.0.0.3", 2, 0⟩],
      (Folly.sample.parse real.address).isSome := by decide
  have hnew : oneVip.tables.vips.lookup ⟨"10.0.0.1", 80, 6⟩ = some (Vip.new 0 0 2 .maglev) := by
    decide +kernel
  refine ⟨reply, hcall, modifyRealsForVip_again hvalid (fun v hv ↦ ?_) hcall fun _ _ ↦ rfl⟩
  obtain rfl := Option.some.inj (hnew.symm.trans hv)
  refine ⟨fun raddr haddr _ ↦ ?_, fun acc hacc ↦ ⟨fun raddr haddr _ ↦ ?_, fun _ _ ↦ trivial⟩⟩
  · obtain rfl : (.v4 0x0a000002 : IPAddress) = raddr :=
      Option.some.inj ((by decide : Folly.sample.parse "10.0.0.2" = _).symm.trans haddr)
    decide +kernel
  · obtain rfl := Option.some.inj hacc
    obtain rfl : (.v4 0x0a000003 : IPAddress) = raddr :=
      Option.some.inj ((by decide : Folly.sample.parse "10.0.0.3" = _).symm.trans haddr)
    decide +kernel

end Vsoshlb
