import Vsoshlb.ControlPlane.References

/-!
# Reference counts: the calls on VIPs

Calls that change what a VIP holds keep the books balanced. The batch loops of `modifyRealsForVip`
need a condition: they compare with the reals that the VIP had before the batch, so they do not
notice a real that the batch itself has just registered or deleted. Counts are 32 bits wide and
wrap.
-/

namespace Vsoshlb

open HashTable RefCount

variable {folly : Folly} {config : Config} {chash : HashFunction → ConsistentHash}
  {exact : Bool} {vips : VipTable} {rules : RuleTable} {quic : QuicTable} {ids : ℕ → ℕ}

/-- The counts of the tables against the holders in the tables. -/
def Balanced (exact : Bool) (config : Config) (ids : ℕ → ℕ) (t : Tables) : Prop :=
  Books exact config t t.vips t.lpmSrcMapping t.quicMapping ids

theorem new_balanced (ids : ℕ → ℕ) (mac : List (BitVec 8)) (features : Features) (maps : BpfMaps)
    (outcomes : List Bool) :
    Balanced exact config ids (State.new config mac features maps outcomes).tables where
  names := by simp [State.new]
  counted := by simp [State.new]
  positive := by simp [State.new]
  num_live := by simp [State.new, holders, numRefs]
  key_live := by simp [State.new, holders, quicRefs]
  kept := by simp [State.new, Assigned]
  pool n := by
    simp only [State.new, IdPool.total_empty, List.count_range_1']
    split_ifs <;> omega
  valid n hn := by
    simp only [State.new, IdPool.total_empty, List.count_range_1'] at hn
    split_ifs at hn <;> omega

/-- Calls that leave the counts and their holders alone. -/
theorem Balanced.of_within {footprint : List Component} {s s' : State}
    (h : Balanced exact config ids s.tables) (hwithin : Within footprint s s')
    (hreals : .reals ∉ footprint) (hnames : .numToReals ∉ footprint) (hvips : .vips ∉ footprint)
    (hrules : .lpmSrcMapping ∉ footprint) (hquic : .quicMapping ∉ footprint) :
    Balanced exact config ids s'.tables := by
  obtain ⟨hr, hrn⟩ := hwithin.same .reals hreals
  have hv : s'.tables.vips = s.tables.vips := hwithin.same .vips hvips
  have hl : s'.tables.lpmSrcMapping = s.tables.lpmSrcMapping := hwithin.same _ hrules
  have hq : s'.tables.quicMapping = s.tables.quicMapping := hwithin.same _ hquic
  unfold Balanced
  rw [hv, hl, hq]
  exact Books.congr h hrn hr (hwithin.same .numToReals hnames)

/-- The books at the end of a call whose loops have changed the counts only. -/
theorem Books.balanced {t t' : Tables} (h : Books exact config t vips rules quic ids)
    (hnums : t'.realNums = t.realNums) (hreals : t'.reals = t.reals)
    (hnames : t'.numToReals = t.numToReals) (hvips : t'.vips = vips)
    (hrules : t'.lpmSrcMapping = rules) (hquic : t'.quicMapping = quic) :
    Balanced exact config ids t' := by
  subst hvips hrules hquic
  exact h.congr hnums hreals hnames

/-! ## The reals of a VIP -/

theorem Vip.mem_getReals {walk : Walk ℕ VipReal} {v : Vip} {num : ℕ} :
    num ∈ v.getReals walk ↔ (v.reals.lookup num).isSome := by
  simp only [Vip.getReals, List.mem_map, Prod.exists, exists_and_right, exists_eq_right,
    Walk.mem_order]
  exact Option.isSome_iff_exists.symm

theorem Vip.nodup_getReals {walk : Walk ℕ VipReal} {v : Vip} : (v.getReals walk).Nodup :=
  walk.nodup_keys v.reals

/-- The VIP after the updates that a batch has collected so far. -/
def Vip.after (v : Vip) (ureals : List UpdateReal) : Vip :=
  { v with reals := (applyUpdates v.reals ureals).1 }

theorem Vip.after_append_isSome (v : Vip) (ureals : List UpdateReal) (ureal : UpdateReal)
    (num : ℕ) :
    ((v.after (ureals ++ [ureal])).reals.lookup num).isSome =
      if num = ureal.updatedReal.num then decide (ureal.action = .add)
      else ((v.after ureals).reals.lookup num).isSome := by
  simp only [after, applyUpdates, List.foldl_append, List.foldl_cons, List.foldl_nil]
  generalize ureals.foldl applyUpdate (v.reals, false) = state
  obtain ⟨action, e⟩ := ureal
  cases action with
  | del =>
    by_cases hnum : num = e.num
    · subst hnum
      simp [applyUpdate]
    · simp [applyUpdate, hnum]
  | add =>
    by_cases hnum : num = e.num
    · subst hnum
      simp only [applyUpdate, if_true]
      split_ifs <;> simp
    · simp only [applyUpdate, if_neg hnum]
      split_ifs <;> simp [hnum]

/-- A number that no update names is held as before. -/
theorem Vip.after_isSome_of_not_named {v : Vip} {ureals : List UpdateReal} {num : ℕ}
    (hnot : ∀ ureal ∈ ureals, ureal.updatedReal.num ≠ num) :
    ((v.after ureals).reals.lookup num).isSome = (v.reals.lookup num).isSome := by
  induction ureals using List.reverseRecOn with
  | nil => rfl
  | append_singleton ureals ureal ih =>
    have hne : num ≠ ureal.updatedReal.num := (hnot ureal (by simp)).symm
    rw [after_append_isSome, if_neg hne]
    exact ih fun ureal' hmem ↦ hnot ureal' (by simp [hmem])

/-! ## `modifyRealsForVip` -/

/-- An `ADD` that counts a new holder finds room in the count, and, for exact books, does not come
back to a real that the batch has added before. -/
def AddCounts (folly : Folly) (exact : Bool) (acc : Batch × State) (real : NewReal) : Prop :=
  ∀ raddr rmeta, folly.parse real.address = some raddr →
    acc.2.tables.reals.lookup raddr = some rmeta → rmeta.num ∉ acc.1.curReals →
    rmeta.refCount + 1 < 2 ^ 32 ∧
      (exact → ∀ ureal ∈ acc.1.ureals, ureal.updatedReal.num ≠ rmeta.num)

/-- A `DEL` that releases a real does not come back to one that the batch has deleted before. -/
def DelCounts (folly : Folly) (acc : Batch × State) (real : NewReal) : Prop :=
  ∀ raddr rmeta, folly.parse real.address = some raddr →
    acc.2.tables.reals.lookup raddr = some rmeta → rmeta.num ∈ acc.1.curReals →
    ∀ ureal ∈ acc.1.ureals, ureal.updatedReal.num ≠ rmeta.num

/-- What the loop of `modifyRealsForVip` keeps for `ADD`. -/
structure AddLoop (exact : Bool) (config : Config) (vip : VipKey) (v : Vip) (vips : VipTable)
    (rules : RuleTable) (quic : QuicTable) (ids : ℕ → ℕ) (acc : Batch × State) : Prop where
  books : Books exact config acc.2.tables (vips.insert vip (v.after acc.1.ureals)) rules quic ids
  held : ∀ num ∈ acc.1.curReals, ((v.after acc.1.ureals).reals.lookup num).isSome
  known : ∀ num, (v.reals.lookup num).isSome → num ∈ acc.1.curReals

theorem addRealStep_books {vip : VipKey} {v : Vip} {acc : Batch × State} {real : NewReal}
    (h : AddLoop exact config vip v vips rules quic ids acc)
    (hcounts : AddCounts folly exact acc real) :
    AddLoop exact config vip v vips rules quic ids (addRealStep folly config acc real) := by
  obtain ⟨batch, s⟩ := acc
  unfold addRealStep
  cases haddr : folly.parse real.address with
  | none =>
    simp only [validateHost_of_none haddr]
    exact ⟨h.books, h.held, h.known⟩
  | some raddr =>
    simp only [validateHost_of_some haddr]
    have hstep : ∀ num m, ((v.after (batch.ureals ++
        [⟨.add, ⟨num, real.weight, folly.hash raddr⟩⟩])).reals.lookup m).isSome =
        if m = num then true else ((v.after batch.ureals).reals.lookup m).isSome := by
      intro num m
      rw [Vip.after_append_isSome]
      rfl
    have hheld : ∀ num, ∀ m ∈ batch.curReals, ((v.after (batch.ureals ++
        [⟨.add, ⟨num, real.weight, folly.hash raddr⟩⟩])).reals.lookup m).isSome := by
      intro num m hm
      rw [hstep]
      split_ifs
      · rfl
      · exact h.held m hm
    have hgain : ∀ num, (exact → ((v.after batch.ureals).reals.lookup num).isSome = false) →
        Moves exact num raddr 0 1
          (holders (vips.insert vip (v.after batch.ureals)) rules quic)
          (holders (vips.insert vip (v.after (batch.ureals ++
            [⟨.add, ⟨num, real.weight, folly.hash raddr⟩⟩]))) rules quic) := by
      intro num hnew
      refine moves_vip (fun m hm ↦ by rw [hstep, if_neg hm]) ?_
      rw [hstep, if_pos rfl]
      cases exact with
      | true => exact Tally.of_eq (by rw [hnew rfl]; rfl)
      | false => exact Tally.of_le rfl (by simp)
    cases hreal : s.tables.reals.lookup raddr with
    | some rmeta =>
      dsimp only
      split_ifs with hcur
      · refine ⟨h.books.of_holders_eq (holders_insert_vip fun m ↦ ?_), hheld rmeta.num, h.known⟩
        rw [hstep]
        split_ifs with hm
        · rw [hm, h.held _ hcur]
        · rfl
      · obtain ⟨hwrap, hrepeat⟩ := hcounts raddr rmeta haddr hreal hcur
        rcases increaseRefCountForReal_books raddr real.flags h.books
          (fun r hr ↦ by rw [hreal] at hr; exact Option.some.inj hr ▸ hwrap) with
          ⟨-, hnone, -⟩ | ⟨num, s', hinc, -, hnum, -, hbooks⟩
        · rw [hreal] at hnone
          exact absurd hnone (Option.some_ne_none rmeta)
        · obtain rfl := hnum rmeta hreal
          rw [hinc]
          refine ⟨hbooks _ _ _ _ (hgain rmeta.num fun hexact ↦ ?_) fun n b hb ↦ .inl hb, ?_, ?_⟩
          · rw [Vip.after_isSome_of_not_named (hrepeat hexact)]
            by_contra hv
            exact hcur (h.known _ (Bool.eq_true_of_not_eq_false hv))
          · intro m hm
            rcases List.mem_append.mp hm with hm | hm
            · exact hheld rmeta.num m hm
            · rw [hstep, if_pos (List.mem_singleton.mp hm)]
          · exact fun m hm ↦ List.mem_append_left _ (h.known m hm)
    | none =>
      dsimp only
      rcases increaseRefCountForReal_books raddr real.flags h.books (by simp [hreal]) with
        ⟨hinc, -, -⟩ | ⟨num, s', hinc, hvalid, -, hfresh, hbooks⟩
      · rw [hinc]
        dsimp only
        rw [if_pos rfl]
        exact ⟨h.books, h.held, h.known⟩
      · rw [hinc]
        dsimp only
        rw [if_neg hvalid]
        refine ⟨hbooks _ _ _ _ (hgain num fun _ ↦ ?_) fun n b hb ↦ .inl hb, hheld num, h.known⟩
        have hnone := hfresh hreal
        rw [numRefs_insert_vip] at hnone
        exact Bool.toNat_eq_zero.mp (Nat.eq_zero_of_add_eq_zero_left hnone)

/-- What the loop of `modifyRealsForVip` keeps for `DEL`. -/
structure DelLoop (exact : Bool) (config : Config) (vip : VipKey) (v : Vip) (vips : VipTable)
    (rules : RuleTable) (quic : QuicTable) (ids : ℕ → ℕ) (acc : Batch × State) : Prop where
  books : Books exact config acc.2.tables (vips.insert vip (v.after acc.1.ureals)) rules quic ids
  held : ∀ num ∈ acc.1.curReals, (v.reals.lookup num).isSome

theorem delRealStep_books {vip : VipKey} {v : Vip} {acc : Batch × State} {real : NewReal}
    (h : DelLoop exact config vip v vips rules quic ids acc)
    (hcounts : DelCounts folly acc real) :
    DelLoop exact config vip v vips rules quic ids (delRealStep folly config acc real) := by
  obtain ⟨batch, s⟩ := acc
  unfold delRealStep
  cases haddr : folly.parse real.address with
  | none =>
    simp only [validateHost_of_none haddr]
    exact ⟨h.books, h.held⟩
  | some raddr =>
    simp only [validateHost_of_some haddr]
    cases hreal : s.tables.reals.lookup raddr with
    | none => exact h
    | some rmeta =>
      dsimp only
      split_ifs with hcur
      · refine ⟨decreaseRefCountForReal_books h.books hreal ?_ fun num b hb ↦ hb, h.held⟩
        have hheld : ((v.after batch.ureals).reals.lookup rmeta.num).isSome = true := by
          rw [Vip.after_isSome_of_not_named (hcounts raddr rmeta haddr hreal hcur)]
          exact h.held _ hcur
        refine moves_vip (fun m hm ↦ ?_) (Tally.of_eq ?_)
        · rw [Vip.after_append_isSome, if_neg hm]
        · rw [Vip.after_append_isSome, if_pos rfl, hheld]
          rfl
      · exact h

/-- The condition on the batch of a `modifyRealsForVip`. -/
def BatchCounts (folly : Folly) (config : Config) (exact : Bool) (action : ModifyAction)
    (reals : List NewReal) (acc : Batch × State) : Prop :=
  match action with
  | .add => Runs.Along (fun acc real ↦ some (addRealStep folly config acc real))
      (AddCounts folly exact) acc reals
  | .del => Runs.Along (fun acc real ↦ some (delRealStep folly config acc real))
      (DelCounts folly) acc reals

theorem realsLoop_books {vip : VipKey} {v : Vip} {s : State} {walk : Walk ℕ VipReal}
    {action : ModifyAction} {reals : List NewReal} {batch : Batch} {looped : State}
    (h : Books exact config s.tables (vips.insert vip v) rules quic ids)
    (hcounts : BatchCounts folly config exact action reals (⟨v.getReals walk, []⟩, s))
    (hloop : realsLoop folly config action reals (⟨v.getReals walk, []⟩, s) = (batch, looped)) :
    Books exact config looped.tables (vips.insert vip (v.after batch.ureals)) rules quic ids := by
  have hpure : ∀ (f : Batch × State → NewReal → Batch × State) (acc : Batch × State),
      reals.foldlM (fun acc real ↦ some (f acc real)) acc = some (reals.foldl f acc) :=
    fun f acc ↦ List.foldlM_pure
  cases action with
  | add =>
    have hstart : AddLoop exact config vip v vips rules quic ids (⟨v.getReals walk, []⟩, s) :=
      ⟨h, fun num hnum ↦ Vip.mem_getReals.mp hnum, fun num hnum ↦ Vip.mem_getReals.mpr hnum⟩
    have hend := Runs.invariant_of_along
      (fun acc real acc' hacc hreal hstep ↦ Option.some.inj hstep ▸ addRealStep_books hacc hreal)
      hstart hcounts (hpure _ _)
    have hfold : reals.foldl (addRealStep folly config) (⟨v.getReals walk, []⟩, s) =
        (batch, looped) := hloop
    rw [hfold] at hend
    exact hend.books
  | del =>
    have hstart : DelLoop exact config vip v vips rules quic ids (⟨v.getReals walk, []⟩, s) :=
      ⟨h, fun num hnum ↦ Vip.mem_getReals.mp hnum⟩
    have hend := Runs.invariant_of_along
      (fun acc real acc' hacc hreal hstep ↦ Option.some.inj hstep ▸ delRealStep_books hacc hreal)
      hstart hcounts (hpure _ _)
    have hfold : reals.foldl (delRealStep folly config) (⟨v.getReals walk, []⟩, s) =
        (batch, looped) := hloop
    rw [hfold] at hend
    exact hend.books

theorem modifyRealsForVip_balanced {u : Unspecified} {action : ModifyAction}
    {reals : List NewReal} {vip : VipKey} {s : State} {reply : Bool × State}
    (h : Balanced exact config ids s.tables)
    (hcounts : ∀ v, s.tables.vips.lookup vip = some v →
      BatchCounts folly config exact action reals (⟨v.getReals u.vipReals, []⟩, s))
    (hcall : modifyRealsForVip folly config chash u action reals vip s = some reply) :
    Balanced exact config ids reply.2.tables := by
  rcases modifyRealsForVip_cases hcall with
    rfl | ⟨v, batch, looped, positions, w, hvip, hloop, hring, rfl⟩
  · exact h
  · have hbooks : Books exact config s.tables (s.tables.vips.insert vip v)
        s.tables.lpmSrcMapping s.tables.quicMapping ids := by
      rw [insert_lookup_self hvip]
      exact h
    have hlooped := realsLoop_books hbooks (hcounts v hvip) hloop
    have hwithin := @realsLoop_within folly config action reals (⟨v.getReals u.vipReals, []⟩, s)
    rw [hloop] at hwithin
    have hvips : looped.tables.vips = s.tables.vips := hwithin.same .vips (by simp)
    have hrules : looped.tables.lpmSrcMapping = s.tables.lpmSrcMapping :=
      hwithin.same .lpmSrcMapping (by simp)
    have hquic : looped.tables.quicMapping = s.tables.quicMapping :=
      hwithin.same .quicMapping (by simp)
    obtain ⟨ring, rfl⟩ := Vip.batchRealsUpdate_frame hring
    rw [programHashRing_tables]
    have hstored : Books exact config looped.tables (s.tables.vips.insert vip
        { v with reals := (applyUpdates v.reals batch.ureals).1, chRing := ring })
        s.tables.lpmSrcMapping s.tables.quicMapping ids :=
      hlooped.of_holders_eq (holders_insert_vip fun _ ↦ rfl)
    exact hstored.balanced rfl rfl rfl (by rw [← hvips]) hrules hquic

/-! ## Other calls on VIPs -/

theorem addVip_balanced (vip : VipKey) (flags : BitVec 32) {s : State}
    (h : Balanced exact config ids s.tables) :
    Balanced exact config ids (addVip folly config vip flags s).2.tables := by
  rcases @addVip_tables_cases folly config vip flags s with
    hsame | ⟨haccepts, vipNum, vipNums, -, htables⟩
  · rwa [hsame]
  · have hidle : holders (s.tables.vips.insert vip
        (Vip.new vipNum flags config.chRingSize config.hashFunction)) s.tables.lpmSrcMapping
        s.tables.quicMapping =
        holders s.tables.vips s.tables.lpmSrcMapping s.tables.quicMapping := by
      rw [holders_insert_idle fun num ↦ by simp [Vip.new], erase_of_lookup_none haccepts.new]
    rw [htables]
    exact Books.of_holders_eq h hidle

/-- A VIP keeps its reals and changes otherwise. -/
theorem Balanced.updateVip {t : Tables} (h : Balanced exact config ids t) {vip : VipKey}
    {v w : Vip} (hvip : t.vips.lookup vip = some v) (hreals : w.reals = v.reals) :
    Balanced exact config ids { t with vips := t.vips.insert vip w } := by
  have hsame : holders (t.vips.insert vip w) t.lpmSrcMapping t.quicMapping =
      holders (t.vips.insert vip v) t.lpmSrcMapping t.quicMapping :=
    holders_insert_vip fun num ↦ by rw [hreals]
  rw [insert_lookup_self hvip] at hsame
  exact Books.of_holders_eq h hsame

theorem changeHashFunctionForVip_balanced {u : Unspecified} {vip : VipKey} {func : HashFunction}
    {s : State} {reply : Bool × State} (h : Balanced exact config ids s.tables)
    (hcall : changeHashFunctionForVip folly config chash u vip func s = some reply) :
    Balanced exact config ids reply.2.tables := by
  rcases changeHashFunctionForVip_cases hcall with
    (rfl | rfl) | ⟨v, positions, w, hvip, hring, rfl⟩
  · exact h
  · exact h
  · obtain ⟨ring, rfl⟩ := Vip.calculateHashRing_frame hring
    rw [programHashRing_tables]
    exact h.updateVip hvip rfl

theorem modifyVip_balanced (vip : VipKey) (flag : BitVec 32) (set : Bool) {s : State}
    (h : Balanced exact config ids s.tables) :
    Balanced exact config ids (modifyVip folly config vip flag set s).2.tables := by
  cases hvip : s.tables.vips.lookup vip with
  | none => simpa [modifyVip, hvip] using h
  | some v =>
    rw [modifyVip_tables hvip]
    apply h.updateVip hvip
    split_ifs <;> rfl

/-- The loop of `delVip` lets the reals of the VIP go one by one. -/
theorem releaseVipReals_books {vip : VipKey} {v : Vip} {nums : List ℕ} (hnodup : nums.Nodup)
    {s : State} (h : Books exact config s.tables (vips.insert vip v) rules quic ids)
    (hnums : ∀ num, (v.reals.lookup num).isSome ↔ num ∈ nums) :
    Books exact config (releaseVipReals nums s).tables (vips.erase vip) rules quic ids := by
  induction nums generalizing v s with
  | nil =>
    refine h.of_holders_eq (holders_insert_idle fun num ↦ ?_).symm
    simpa using hnums num
  | cons num nums ih =>
    obtain ⟨hnew, htail⟩ := List.nodup_cons.mp hnodup
    have hheld : (v.reals.lookup num).isSome := (hnums num).mpr List.mem_cons_self
    have hrefs : 0 < numRefs (vips.insert vip v) rules num := by
      rw [numRefs_insert_vip, hheld]
      exact Nat.succ_pos _
    obtain ⟨real, r, hname, hreal, rfl⟩ := h.live hrefs
    have hrest : ∀ m, ((v.reals.erase r.num).lookup m).isSome ↔ m ∈ nums := by
      intro m
      rw [lookup_erase_ite]
      by_cases hm : m = r.num
      · simp [hm, hnew]
      · rw [if_neg hm, hnums m, List.mem_cons, or_iff_right hm]
    have hmoves : Moves exact r.num real 1 0 (holders (vips.insert vip v) rules quic)
        (holders (vips.insert vip { v with reals := v.reals.erase r.num }) rules quic) := by
      refine moves_vip (fun m hm ↦ ?_) (Tally.of_eq ?_)
      · rw [lookup_erase_ite, if_neg hm]
      · rw [hheld, lookup_erase_ite, if_pos rfl]
        rfl
    have hreleased := decreaseRefCountForReal_books h hreal hmoves fun n b hb ↦ hb
    have hstep : releaseVipReals (r.num :: nums) s =
        releaseVipReals nums (decreaseRefCountForReal real s) := by
      simp only [releaseVipReals, List.foldl_cons, numToRealsAt_of_lookup hname]
    rw [hstep]
    exact ih htail hreleased hrest

theorem delVip_balanced (u : Unspecified) (vip : VipKey) {s : State}
    (h : Balanced exact config ids s.tables)
    (hparses : ∀ v, s.tables.vips.lookup vip = some v → (folly.parse vip.address).isSome) :
    Balanced exact config ids (delVip folly config u vip s).2.tables := by
  unfold delVip
  cases hvip : s.tables.vips.lookup vip with
  | none => exact h
  | some v =>
    have hbooks : Books exact config s.tables (s.tables.vips.insert vip v)
        s.tables.lpmSrcMapping s.tables.quicMapping ids := by
      rw [insert_lookup_self hvip]
      exact h
    have hreleased := releaseVipReals_books (@Vip.nodup_getReals u.vipReals v) hbooks
      fun num ↦ Vip.mem_getReals.symm
    have hwithin := releaseVipReals_within (v.getReals u.vipReals) s
    have hvips : (releaseVipReals (v.getReals u.vipReals) s).tables.vips = s.tables.vips :=
      hwithin.same .vips (by simp)
    have hrules := hwithin.same .lpmSrcMapping (by simp)
    have hquic := hwithin.same .quicMapping (by simp)
    obtain ⟨vipDef, hdef⟩ := Option.isSome_iff_exists.mp
      (vipKeyToVipDefinition_isSome.mpr (hparses v hvip))
    dsimp only
    split_ifs
    · exact hreleased.balanced rfl rfl rfl (by rw [← hvips]) hrules hquic
    · simp only [updateVipMap_of_some hdef, State.bpfCall_tables]
      exact hreleased.balanced rfl rfl rfl (by rw [← hvips]) hrules hquic

theorem modifyReal_balanced (real : String) (flags : BitVec 8) (set : Bool) {s : State}
    (h : Balanced exact config ids s.tables) :
    Balanced exact config ids (modifyReal folly config real flags set s).2.tables := by
  unfold modifyReal
  cases haddr : folly.parse real with
  | none => simpa [validateHost_of_none haddr] using h
  | some raddr =>
    simp only [validateHost_of_some haddr]
    cases hreal : s.tables.reals.lookup raddr with
    | none => exact h
    | some rmeta =>
      dsimp only
      generalize (if set = true then _ else _) = newFlags
      have hupdate : Balanced exact config ids { s.tables with
          reals := s.tables.reals.insert raddr { rmeta with flags := newFlags } } :=
        h.update hreal rfl (show rmeta.refCount + 0 = rmeta.refCount + 0 from rfl)
          (h.positive raddr rmeta hreal)
          ⟨fun _ _ ↦ Tally.refl exact _, fun _ _ ↦ Tally.refl exact _, Tally.refl exact _⟩
          fun n b hb ↦ ⟨hb.quicRefs_pos, .inl hb⟩
      split_ifs
      · exact hupdate
      · simpa only [updateRealsMap, State.bpfCall_tables] using hupdate

/-! ## Calls that read names -/

theorem Balanced.vip_real_live {t : Tables} (h : Balanced exact config ids t) {vip : VipKey}
    {v : Vip} (hvip : t.vips.lookup vip = some v) {num : ℕ}
    (hnum : (v.reals.lookup num).isSome) :
    ∃ real r, t.numToReals.lookup num = some real ∧ t.reals.lookup real = some r ∧
      r.num = num :=
  Books.live h (numRefs_pos_iff.mpr (.inl ⟨vip, v, hvip, hnum⟩))

theorem Balanced.rule_live {t : Tables} (h : Balanced exact config ids t) {src : CIDRNetwork}
    {rnum : ℕ} (hsrc : t.lpmSrcMapping.lookup src = some rnum) :
    ∃ real r, t.numToReals.lookup rnum = some real ∧ t.reals.lookup real = some r ∧
      r.num = rnum :=
  Books.live h (numRefs_pos_iff.mpr (.inr ⟨src, hsrc⟩))

/-- Under balanced books every name is there, so reading creates no entries. -/
theorem getRealsForVip_state (u : Unspecified) (vip : VipKey) {s : State}
    (h : Balanced exact config ids s.tables) : (getRealsForVip u vip s).2 = s := by
  unfold getRealsForVip
  cases hvip : s.tables.vips.lookup vip with
  | none => rfl
  | some v =>
    refine Runs.foldl_invariant_of_mem
      (fun acc : List (IPAddress × ℕ × BitVec 8) × State ↦ acc.2 = s) rfl ?_
    rintro ⟨names, s'⟩ realId hmem rfl
    have hheld : (v.reals.lookup realId.num).isSome :=
      Option.isSome_of_mem (Vip.mem_getRealsAndWeight.mp hmem)
    obtain ⟨real, r, hname, hreal, -⟩ := h.vip_real_live hvip hheld
    dsimp only at hname hreal ⊢
    rw [numToRealsAt_of_lookup hname]
    simp only [hreal]

theorem getSrcRoutingRuleCidr_state (u : Unspecified) {s : State}
    (h : Balanced exact config ids s.tables) : (getSrcRoutingRuleCidr config u s).2 = s := by
  unfold getSrcRoutingRuleCidr
  split_ifs
  · rfl
  · refine Runs.foldl_invariant_of_mem
      (fun acc : List (CIDRNetwork × IPAddress) × State ↦ acc.2 = s) rfl ?_
    rintro ⟨answers, s'⟩ src hmem rfl
    obtain ⟨real, r, hname, -, -⟩ := h.rule_live ((u.srcRules.mem_order _).mp hmem)
    simp only [numToRealsAt_of_lookup hname]

theorem readLruMissStats_tables {nums : List ℕ} {s : State}
    (hnames : ∀ num ∈ nums, ∃ real, s.tables.numToReals.lookup num = some real) :
    (readLruMissStats nums s).2.tables = s.tables := by
  induction nums generalizing s with
  | nil => rfl
  | cons num nums ih =>
    obtain ⟨real, hname⟩ := hnames num List.mem_cons_self
    unfold readLruMissStats
    dsimp only
    split_ifs
    · exact State.bpfCall_tables _ s
    · have hname' : (s.bpfCall id).2.tables.numToReals.lookup num = some real := by
        rw [State.bpfCall_tables, hname]
      rw [numToRealsAt_of_lookup hname']
      dsimp only
      rw [ih fun num' hnum' ↦ ?_, State.bpfCall_tables]
      rw [State.bpfCall_tables]
      exact hnames num' (List.mem_cons_of_mem num hnum')

theorem getVipLruMissStats_tables (u : Unspecified) (vip : VipKey) {s : State}
    (h : Balanced exact config ids s.tables) :
    (getVipLruMissStats folly config u vip s).2.tables = s.tables := by
  unfold getVipLruMissStats
  cases haddr : folly.parse vip.address with
  | none => simp [validateHost_of_none haddr]
  | some address =>
    simp only [validateHost_of_some haddr]
    split_ifs
    · rfl
    · split
      · rfl
      · rename_i v hvip
        refine readLruMissStats_tables fun num hnum ↦ ?_
        obtain ⟨real, r, hname, -, -⟩ := h.vip_real_live hvip (Vip.mem_getReals.mp hnum)
        exact ⟨real, hname⟩

end Vsoshlb
