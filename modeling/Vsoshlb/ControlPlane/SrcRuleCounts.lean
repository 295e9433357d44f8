import Vsoshlb.ControlPlane.Batches

/-!
# The failures of `addSrcRoutingRule`

The call on texts counts a source that is no network when it comes to it, and when the table has no
room left it counts all sources but the collected ones at once. The sources that it had counted
before are then counted a second time, and so are those that are in the table although they were not
collected: repeated ones, and ones that were mapped to the same real before.
-/

namespace Vsoshlb

open HashTable

variable {folly : Folly} {config : Config} {raddr : IPAddress} {s : State}

/-! ## Collecting the networks -/

/-- The network that a source names. The text of a host names none. -/
def networkOf (folly : Folly) (src : String) : Option CIDRNetwork :=
  if (folly.parse src).isSome then none else folly.createNetwork src

/-- The sources that are no networks, up to the network for which there is no room. -/
def rejectedBefore (folly : Folly) : ℕ → List String → ℕ
  | _, [] => 0
  | room, src :: srcs =>
    match networkOf folly src, room with
    | none, room => rejectedBefore folly room srcs + 1
    | some _, 0 => 0
    | some _, room + 1 => rejectedBefore folly room srcs

theorem rejectedBefore_of_none {room : ℕ} {src : String} {srcs : List String}
    (h : networkOf folly src = none) :
    rejectedBefore folly room (src :: srcs) = rejectedBefore folly room srcs + 1 := by
  simp [rejectedBefore, h]

theorem validateAddress_of_networkOf {src : String} {network : CIDRNetwork}
    (henabled : srcRoutingEnabled config s = true) (h : networkOf folly src = some network) :
    validateAddress folly config src true s = (.network, s) ∧
      folly.createNetwork src = some network := by
  unfold networkOf at h
  split_ifs at h with hhost
  unfold srcRoutingEnabled at henabled
  unfold validateAddress
  rw [if_neg hhost, if_pos ⟨rfl, by simpa using henabled, by simp [h]⟩]
  exact ⟨rfl, h⟩

theorem validateAddress_of_networkOf_none {src : String} (h : networkOf folly src = none) :
    ∃ kind s', validateAddress folly config src true s = (kind, s') ∧ kind ≠ .network ∧
      (s' = s ∨ s' = s.rejected) := by
  unfold networkOf at h
  unfold validateAddress
  split_ifs at h with hhost
  · exact ⟨.host, s, if_pos hhost, by decide, .inl rfl⟩
  · refine ⟨.invalid, s.rejected, ?_, by decide, .inr rfl⟩
    rw [if_neg hhost, if_neg fun hnetwork ↦ by simp [h] at hnetwork]
    rfl

/-- The room that the table has, and `k` networks are waiting for. -/
def roomAfter (config : Config) (s : State) (k : ℕ) : ℕ :=
  config.maxLpmSrcSize - size s.tables.lpmSrcMapping - k

/-- What is counted at once when `found` networks are more than there is room for; `total` is the
number of sources given, and so many have been collected already. -/
def countedAtBreak (total collected room found : ℕ) : ℤ :=
  if room < found then total - (collected + room) else 0

theorem countedAtBreak_succ (total collected room found : ℕ) :
    countedAtBreak total collected (room + 1) (found + 1) =
      countedAtBreak total (collected + 1) room found := by
  unfold countedAtBreak
  split_ifs
  · push_cast
    omega
  · omega
  · omega
  · rfl

/-- What the loop collects and counts. -/
theorem collectNetworks_eq (henabled : srcRoutingEnabled config s = true) (total : ℕ)
    (srcs : List String) (networks : List CIDRNetwork) (numErrors : ℤ) :
    ∃ s', s'.tables = s.tables ∧ s'.features = s.features ∧
      collectNetworks folly config total srcs networks numErrors s =
        (networks ++ (srcs.filterMap (networkOf folly)).take (roomAfter config s networks.length),
          numErrors + rejectedBefore folly (roomAfter config s networks.length) srcs +
            countedAtBreak total networks.length (roomAfter config s networks.length)
              (srcs.filterMap (networkOf folly)).length,
          s') := by
  induction srcs generalizing networks numErrors s with
  | nil => exact ⟨s, rfl, rfl, by simp [collectNetworks, rejectedBefore, countedAtBreak]⟩
  | cons src srcs ih =>
    cases hsrc : networkOf folly src with
    | none =>
      obtain ⟨kind, s₁, hvalid, hkind, hs₁⟩ :=
        @validateAddress_of_networkOf_none folly config s src hsrc
      have htables : s₁.tables = s.tables ∧ s₁.features = s.features := by
        rcases hs₁ with rfl | rfl
        · exact ⟨rfl, rfl⟩
        · exact ⟨rfl, rfl⟩
      have hroom : ∀ k, roomAfter config s₁ k = roomAfter config s k := by
        intro k
        unfold roomAfter
        rw [htables.1]
      have henabled₁ : srcRoutingEnabled config s₁ = true := by
        unfold srcRoutingEnabled at henabled ⊢
        rw [htables.2]
        exact henabled
      obtain ⟨s', hs', hfeatures, hcollect⟩ := ih henabled₁ networks (numErrors + 1)
      refine ⟨s', hs'.trans htables.1, hfeatures.trans htables.2, ?_⟩
      have hstep : collectNetworks folly config total (src :: srcs) networks numErrors s =
          collectNetworks folly config total srcs networks (numErrors + 1) s₁ := by
        rw [collectNetworks, hvalid]
        cases kind with
        | network => exact absurd rfl hkind
        | host => rfl
        | invalid => rfl
      rw [hstep, hcollect, hroom, rejectedBefore_of_none hsrc, List.filterMap_cons_none hsrc]
      congr 3
      push_cast
      omega
    | some network =>
      obtain ⟨hvalid, hcreate⟩ := validateAddress_of_networkOf henabled hsrc
      rw [List.filterMap_cons_some hsrc]
      cases hroom : roomAfter config s networks.length with
      | zero =>
        have hfull : size s.tables.lpmSrcMapping + networks.length + 1 > config.maxLpmSrcSize := by
          unfold roomAfter at hroom
          omega
        refine ⟨s, rfl, rfl, ?_⟩
        unfold collectNetworks
        simp only [hvalid]
        rw [if_pos hfull]
        simp [rejectedBefore, hsrc, countedAtBreak]
      | succ room =>
        have hfits : ¬ size s.tables.lpmSrcMapping + networks.length + 1 >
            config.maxLpmSrcSize := by
          unfold roomAfter at hroom
          omega
        have hnext : roomAfter config s (networks ++ [network]).length = room := by
          unfold roomAfter at hroom ⊢
          rw [List.length_append, List.length_singleton]
          omega
        obtain ⟨s', hs', hfeatures, hcollect⟩ := ih henabled (networks ++ [network]) numErrors
        rw [hnext] at hcollect
        refine ⟨s', hs', hfeatures, ?_⟩
        unfold collectNetworks
        simp only [hvalid]
        rw [if_neg hfits, hcreate, Option.toList_some, hcollect]
        have hrejected : rejectedBefore folly (room + 1) (src :: srcs) =
            rejectedBefore folly room srcs := by
          simp [rejectedBefore, hsrc]
        rw [hrejected, List.take_succ_cons, List.append_assoc, List.singleton_append,
          List.length_append, List.length_singleton, List.length_cons, countedAtBreak_succ]

/-! ## Entering the networks -/

/-- The table with the networks mapped to a number. -/
def mapAll (num : ℕ) (networks : List CIDRNetwork) (rules : Finmap fun _ : CIDRNetwork ↦ ℕ) :
    Finmap fun _ : CIDRNetwork ↦ ℕ :=
  networks.foldl (fun rules network ↦ rules.insert network num) rules

theorem lookup_mapAll (num : ℕ) (networks : List CIDRNetwork)
    (rules : Finmap fun _ : CIDRNetwork ↦ ℕ) (network : CIDRNetwork) :
    (mapAll num networks rules).lookup network =
      if network ∈ networks then some num else rules.lookup network := by
  unfold mapAll
  induction networks generalizing rules with
  | nil => simp
  | cons first networks ih =>
    rw [List.foldl_cons, ih, lookup_insert_ite]
    by_cases hmem : network ∈ networks
    · rw [if_pos hmem, if_pos (List.mem_cons_of_mem _ hmem)]
    · rw [if_neg hmem]
      by_cases hfirst : network = first
      · rw [if_pos hfirst, if_pos (hfirst ▸ List.mem_cons_self)]
      · rw [if_neg hfirst, if_neg fun h ↦ (List.mem_cons.mp h).elim hfirst hmem]

/-- With room for all networks and a number for the destination, all networks are mapped to it. -/
theorem addSrcNetworks_eq {networks : List CIDRNetwork}
    (hroom : networks.length ≤ config.maxLpmSrcSize - size s.tables.lpmSrcMapping)
    (hnum : (increaseRefCountForReal config raddr 0 s).1 ≠ config.maxReals) :
    (addSrcNetworks config raddr networks s).1 = 0 ∧
      (addSrcNetworks config raddr networks s).2.tables.lpmSrcMapping =
        mapAll (increaseRefCountForReal config raddr 0 s).1 networks s.tables.lpmSrcMapping ∧
      if networks = [] then
        (addSrcNetworks config raddr networks s).2.tables.reals.lookup raddr =
          s.tables.reals.lookup raddr
      else
        ∃ r, (addSrcNetworks config raddr networks s).2.tables.reals.lookup raddr = some r ∧
          r.num = (increaseRefCountForReal config raddr 0 s).1 := by
  induction networks generalizing s with
  | nil => exact ⟨rfl, rfl, rfl⟩
  | cons network networks ih =>
    rw [List.length_cons] at hroom
    have hfits : ¬ size s.tables.lpmSrcMapping + 1 > config.maxLpmSrcSize := by omega
    obtain ⟨r, hreal, hr⟩ := (increaseRefCountForReal_num raddr 0 s).resolve_left hnum
    have hrules : (increaseRefCountForReal config raddr 0 s).2.tables.lpmSrcMapping =
        s.tables.lpmSrcMapping :=
      (increaseRefCountForReal_within raddr 0 s).same .lpmSrcMapping (by simp)
    rw [addSrcNetworks, if_neg hfits]
    generalize increaseRefCountForReal config raddr 0 s = increased at hnum hreal hr hrules ⊢
    obtain ⟨num, s₁⟩ := increased
    dsimp only at hnum hreal hr hrules ⊢
    rw [if_neg hnum, if_neg (List.cons_ne_nil _ _)]
    -- the state before the next network, with or without the kernel's rule
    generalize hs₂ : (if config.testing = true then _ else _) = s₂
    have htables : s₂.tables = { s₁.tables with
        lpmSrcMapping := s₁.tables.lpmSrcMapping.insert network num } := by
      rw [← hs₂]
      split_ifs
      · rfl
      · exact State.bpfCall_tables _ _
    have hreal₂ : s₂.tables.reals.lookup raddr = some r := by rw [htables]; exact hreal
    have hnum₂ : (increaseRefCountForReal config raddr 0 s₂).1 = num := by
      rw [increaseRefCountForReal_of_lookup hreal₂]
      exact hr
    have hsize : networks.length ≤ config.maxLpmSrcSize - size s₂.tables.lpmSrcMapping := by
      have hinsert := size_insert_le s.tables.lpmSrcMapping network num
      rw [htables, hrules]
      dsimp only
      omega
    have hrest := ih hsize (by rw [hnum₂]; exact hnum)
    rw [hnum₂] at hrest
    refine ⟨hrest.1, ?_, ?_⟩
    · rw [hrest.2.1, htables, hrules]
      rfl
    · by_cases hnil : networks = []
      · subst hnil
        exact ⟨r, hreal₂, hr⟩
      · have hlast := hrest.2.2
        rw [if_neg hnil] at hlast
        exact hlast

/-- Rules are only added where there is room. -/
theorem addSrcNetworks_size_le (networks : List CIDRNetwork)
    (hsize : size s.tables.lpmSrcMapping ≤ config.maxLpmSrcSize) :
    size (addSrcNetworks config raddr networks s).2.tables.lpmSrcMapping ≤
      config.maxLpmSrcSize := by
  induction networks generalizing s with
  | nil => exact hsize
  | cons network networks ih =>
    have hrules : (increaseRefCountForReal config raddr 0 s).2.tables.lpmSrcMapping =
        s.tables.lpmSrcMapping :=
      (increaseRefCountForReal_within raddr 0 s).same .lpmSrcMapping (by simp)
    have hinsert := size_insert_le s.tables.lpmSrcMapping network
      (increaseRefCountForReal config raddr 0 s).1
    rw [addSrcNetworks]
    generalize increaseRefCountForReal config raddr 0 s = increased at hrules hinsert ⊢
    dsimp only
    split_ifs with hfull hnone htesting
    · exact hsize
    · rw [hrules]
      exact hsize
    · apply ih
      dsimp only
      rw [hrules]
      omega
    · apply ih
      unfold modifyLpmSrcRule
      rw [State.bpfCall_tables]
      dsimp only
      rw [hrules]
      omega

theorem addSrcRoutingRule_size_le (networks : List CIDRNetwork) (dst : String)
    (hsize : size s.tables.lpmSrcMapping ≤ config.maxLpmSrcSize) :
    size (addSrcRoutingRule folly config networks dst s).2.tables.lpmSrcMapping ≤
      config.maxLpmSrcSize := by
  unfold addSrcRoutingRule
  split_ifs
  · exact hsize
  · cases hdst : folly.parse dst with
    | none =>
      rw [validateHost_of_none hdst]
      exact hsize
    | some raddr =>
      rw [validateHost_of_some hdst]
      exact addSrcNetworks_size_le networks hsize

theorem addSrcRoutingRuleText_size_le (srcs : List String) (dst : String)
    (hsize : size s.tables.lpmSrcMapping ≤ config.maxLpmSrcSize) :
    size (addSrcRoutingRuleText folly config srcs dst s).2.tables.lpmSrcMapping ≤
      config.maxLpmSrcSize := by
  unfold addSrcRoutingRuleText
  split_ifs
  · exact hsize
  · cases hdst : folly.parse dst with
    | none =>
      rw [validateHost_of_none hdst]
      exact hsize
    | some raddr =>
      rw [validateHost_of_some hdst]
      apply addSrcRoutingRule_size_le
      have hsame := (@collectNetworks_within folly config srcs.length srcs [] 0 s).same
        .lpmSrcMapping (by simp)
      exact hsame ▸ hsize

theorem delSrcNetwork_size_le (s : State) (src : CIDRNetwork) :
    size (delSrcNetwork config s src).tables.lpmSrcMapping ≤ size s.tables.lpmSrcMapping := by
  unfold delSrcNetwork
  cases s.tables.lpmSrcMapping.lookup src with
  | none => exact le_rfl
  | some rnum =>
    have hwithin := ((numToRealsAt_within rnum s).mono (by simp)).trans
      (decreaseRefCountForReal_within (numToRealsAt rnum s).1 (numToRealsAt rnum s).2)
    have hrules : (decreaseRefCountForReal (numToRealsAt rnum s).1
        (numToRealsAt rnum s).2).tables.lpmSrcMapping = s.tables.lpmSrcMapping :=
      hwithin.same .lpmSrcMapping (by simp)
    dsimp only
    split_ifs
    · rw [hrules]
      exact size_erase_le _ src
    · unfold modifyLpmSrcRule
      rw [State.bpfCall_tables, hrules]
      exact size_erase_le _ src

theorem delSrcRoutingRule_size_le (srcs : List CIDRNetwork) (s : State) :
    size (delSrcRoutingRule config srcs s).2.tables.lpmSrcMapping ≤
      size s.tables.lpmSrcMapping := by
  unfold delSrcRoutingRule
  split_ifs
  · exact le_rfl
  · exact Runs.foldl_invariant
      (fun s' : State ↦ size s'.tables.lpmSrcMapping ≤ size s.tables.lpmSrcMapping) le_rfl srcs
      fun s' src hs' ↦ (delSrcNetwork_size_le s' src).trans hs'

theorem step_lpmSrcMapping_size_le {chash : HashFunction → ConsistentHash} {s' : State}
    {call : Call} (hsize : size s.tables.lpmSrcMapping ≤ config.maxLpmSrcSize)
    (hstep : step folly config chash s call = some s') :
    size s'.tables.lpmSrcMapping ≤ config.maxLpmSrcSize := by
  have hwithin := step_within hstep
  obtain ⟨op, u⟩ := call
  cases op with
  | addSrcRoutingRule srcs dst =>
    exact Option.some.inj hstep ▸ addSrcRoutingRule_size_le srcs dst hsize
  | addSrcRoutingRuleText srcs dst =>
    exact Option.some.inj hstep ▸ addSrcRoutingRuleText_size_le srcs dst hsize
  | delSrcRoutingRule srcs =>
    exact Option.some.inj hstep ▸ (delSrcRoutingRule_size_le srcs s).trans hsize
  | delSrcRoutingRuleText srcs =>
    rw [← Option.some.inj hstep]
    unfold delSrcRoutingRuleText
    split_ifs
    · exact hsize
    · exact (delSrcRoutingRule_size_le _ s).trans hsize
  | clearAllSrcRoutingRules =>
    obtain ⟨reply, hcall, rfl⟩ := Option.map_eq_some_iff.mp hstep
    unfold clearAllSrcRoutingRules at hcall
    split_ifs at hcall
    · rw [← Option.some.inj hcall]
      exact hsize
    · obtain ⟨cleared, -, hcall⟩ := Option.bind_eq_some_iff.mp hcall
      rw [← Option.some.inj hcall]
      exact Nat.zero_le _
  | _ =>
    have hsame := hwithin.same .lpmSrcMapping (by simp [Op.footprint])
    exact hsame ▸ hsize

/-- In every state of every run the rules fit into the table. -/
theorem run_lpmSrcMapping_size_le {chash : HashFunction → ConsistentHash} {mac : List (BitVec 8)}
    {features : Features} {maps : BpfMaps} {outcomes : List Bool} {calls : List Call}
    (hrun : run folly config chash mac features maps outcomes calls = some s) :
    size s.tables.lpmSrcMapping ≤ config.maxLpmSrcSize :=
  Runs.invariant (fun _ _ _ ↦ step_lpmSrcMapping_size_le) (Nat.zero_le _) hrun

/-! ## Counting -/

section Counting

variable {srcs : List String} {room : ℕ}

theorem rejectedBefore_add_length (h : (srcs.filterMap (networkOf folly)).length ≤ room) :
    rejectedBefore folly room srcs + (srcs.filterMap (networkOf folly)).length = srcs.length := by
  induction srcs generalizing room with
  | nil => rfl
  | cons src srcs ih =>
    cases hsrc : networkOf folly src with
    | none =>
      rw [List.filterMap_cons_none hsrc] at h ⊢
      rw [rejectedBefore_of_none hsrc, List.length_cons, ← ih h]
      omega
    | some network =>
      rw [List.filterMap_cons_some hsrc, List.length_cons] at h ⊢
      obtain ⟨room, rfl⟩ : ∃ k, room = k + 1 := ⟨room - 1, by omega⟩
      have hstep : rejectedBefore folly (room + 1) (src :: srcs) =
          rejectedBefore folly room srcs := by
        simp [rejectedBefore, hsrc]
      rw [hstep, List.length_cons, ← ih (Nat.le_of_succ_le_succ h)]
      omega

theorem rejectedBefore_eq_zero_iff (h : room < (srcs.filterMap (networkOf folly)).length) :
    rejectedBefore folly room srcs = 0 ↔
      ∀ src ∈ srcs.take (room + 1), (networkOf folly src).isSome := by
  induction srcs generalizing room with
  | nil => exact absurd h (Nat.not_lt_zero room)
  | cons src srcs ih =>
    rw [List.take_succ_cons, List.forall_mem_cons]
    cases hsrc : networkOf folly src with
    | none => simp [rejectedBefore_of_none hsrc]
    | some network =>
      rw [List.filterMap_cons_some hsrc, List.length_cons] at h
      cases room with
      | zero => simp [rejectedBefore, hsrc]
      | succ room =>
        have hstep : rejectedBefore folly (room + 1) (src :: srcs) =
            rejectedBefore folly room srcs := by
          simp [rejectedBefore, hsrc]
        rw [hstep, ih (Nat.lt_of_succ_lt_succ h)]
        simp

/-- Where the first sources are networks, they are the ones that are collected. -/
theorem take_filterMap_networkOf (hroom : room ≤ srcs.length)
    (hsome : ∀ src ∈ srcs.take room, (networkOf folly src).isSome) :
    (srcs.filterMap (networkOf folly)).take room =
      (srcs.take room).filterMap (networkOf folly) := by
  have hlength : ((srcs.take room).filterMap (networkOf folly)).length = room := by
    rw [List.length_filterMap_eq_countP, List.countP_eq_length.mpr hsome, List.length_take,
      Nat.min_eq_left hroom]
  have hsplit : srcs.filterMap (networkOf folly) =
      (srcs.take room).filterMap (networkOf folly) ++
        (srcs.drop room).filterMap (networkOf folly) := by
    rw [← List.filterMap_append, List.take_append_drop]
  rw [hsplit, List.take_left' hlength]

variable {p : String → Bool} (hnetwork : ∀ src, p src → (networkOf folly src).isSome)
  (hcollected : ∀ src network, networkOf folly src = some network →
    network ∈ (srcs.filterMap (networkOf folly)).take room → p src)

include hcollected

/-- The collected networks stand at so many places at least. -/
theorem length_take_le_countP :
    ((srcs.filterMap (networkOf folly)).take room).length ≤ srcs.countP p := by
  calc ((srcs.filterMap (networkOf folly)).take room).length
    _ = ((srcs.filterMap (networkOf folly)).take room).countP
          (fun network ↦ network ∈ (srcs.filterMap (networkOf folly)).take room) :=
        (List.countP_eq_length.mpr fun network hmem ↦ by simpa using hmem).symm
    _ ≤ (srcs.filterMap (networkOf folly)).countP
          (fun network ↦ network ∈ (srcs.filterMap (networkOf folly)).take room) :=
        (List.take_sublist _ _).countP_le
    _ ≤ srcs.countP p := by
        rw [List.countP_filterMap]
        refine List.countP_mono_left fun src _ hsrc ↦ ?_
        cases hsome : networkOf folly src with
        | none => simp [hsome] at hsrc
        | some network => exact hcollected src network hsome (by simpa [hsome] using hsrc)

include hnetwork

/-- What the call counts are the places without `p` precisely if all networks find room, or the
first place that does not comes right after the collected ones and `p` holds of none from there. -/
theorem counted_eq_countP_iff :
    (rejectedBefore folly room srcs + countedAtBreak srcs.length 0 room
        (srcs.filterMap (networkOf folly)).length : ℤ) = (srcs.countP fun src ↦ !p src : ℕ) ↔
      (srcs.filterMap (networkOf folly)).length ≤ room ∨
      (∀ src ∈ srcs.take (room + 1), (networkOf folly src).isSome) ∧
        ∀ src ∈ srcs.drop room, p src = false := by
  have hsplit : srcs.countP p + srcs.countP (fun src ↦ !p src) = srcs.length := by
    have hlength := @List.length_eq_countP_add_countP _ p srcs
    simpa using hlength.symm
  have hleast := length_take_le_countP hcollected
  rw [List.length_take] at hleast
  unfold countedAtBreak
  by_cases hfull : room < (srcs.filterMap (networkOf folly)).length
  · -- the break counts all places but `room`
    rw [if_pos hfull, or_iff_right (Nat.not_le_of_lt hfull), ← rejectedBefore_eq_zero_iff hfull]
    have hcount : (rejectedBefore folly room srcs + (srcs.length - ((0 : ℕ) + room)) : ℤ) =
        (srcs.countP fun src ↦ !p src : ℕ) ↔
        rejectedBefore folly room srcs = 0 ∧ srcs.countP p = room := by
      omega
    rw [hcount]
    refine and_congr_right fun hzero ↦ ?_
    have hvalid := (rejectedBefore_eq_zero_iff hfull).mp hzero
    have hroom : room ≤ srcs.length :=
      (Nat.le_of_lt hfull).trans (List.length_filterMap_le _ _)
    have hfirst : ∀ src ∈ srcs.take room, p src := by
      intro src hmem
      have hsome : ∀ src ∈ srcs.take room, (networkOf folly src).isSome := fun src hmem ↦
        hvalid src (List.take_subset_take_left srcs (Nat.le_succ room) hmem)
      obtain ⟨network, hnetwork⟩ := Option.isSome_iff_exists.mp (hsome src hmem)
      apply hcollected src network hnetwork
      rw [take_filterMap_networkOf hroom hsome]
      exact List.mem_filterMap.mpr ⟨src, hmem, hnetwork⟩
    have hsum : srcs.countP p = room + (srcs.drop room).countP p := by
      conv_lhs => rw [← List.take_append_drop room srcs]
      rw [List.countP_append, List.countP_eq_length.mpr hfirst, List.length_take,
        Nat.min_eq_left hroom]
    rw [hsum, Nat.add_eq_left, List.countP_eq_zero]
    simp
  · have hfits : (srcs.filterMap (networkOf folly)).length ≤ room := Nat.le_of_not_lt hfull
    rw [if_neg hfull]
    refine iff_of_true ?_ (.inl hfits)
    have hall := rejectedBefore_add_length hfits
    have hmost : srcs.countP p ≤ (srcs.filterMap (networkOf folly)).length := by
      rw [List.length_filterMap_eq_countP]
      exact List.countP_mono_left fun src _ ↦ hnetwork src
    omega

end Counting

/-! ## The whole call -/

/-- The source is a network that is mapped to the real of `raddr`. -/
def mappedTo (folly : Folly) (t : Tables) (raddr : IPAddress) (src : String) : Bool :=
  match networkOf folly src, t.reals.lookup raddr with
  | some network, some r => t.lpmSrcMapping.lookup network = some r.num
  | _, _ => false

/-- The reply is the number of places whose source is not mapped to the real of `raddr`, the rules
fit into the table, and only the given networks are mapped anew. -/
structure CountsUnmapped (folly : Folly) (config : Config) (srcs : List String)
    (raddr : IPAddress) (t : Tables) (reply : ℤ × State) : Prop where
  count : reply.1 = (srcs.countP fun src ↦ !mappedTo folly reply.2.tables raddr src : ℕ)
  size : HashTable.size t.lpmSrcMapping ≤ config.maxLpmSrcSize →
    HashTable.size reply.2.tables.lpmSrcMapping ≤ config.maxLpmSrcSize
  frame : ∀ network, network ∉ srcs.filterMap (networkOf folly) →
    reply.2.tables.lpmSrcMapping.lookup network = t.lpmSrcMapping.lookup network

/-- The networks that find room. -/
def collected (folly : Folly) (config : Config) (srcs : List String) (s : State) :
    List CIDRNetwork :=
  (srcs.filterMap (networkOf folly)).take (roomAfter config s 0)

/-- The source will be in the table under the number for `raddr`: it is among the networks that find
room, or in the table already. -/
def EndsMapped (folly : Folly) (config : Config) (srcs : List String) (raddr : IPAddress)
    (s : State) (src : String) : Prop :=
  ∃ network, networkOf folly src = some network ∧ (network ∈ collected folly config srcs s ∨
    s.tables.lpmSrcMapping.lookup network =
        some (increaseRefCountForReal config raddr 0 s).1 ∧
      (collected folly config srcs s ≠ [] ∨ (s.tables.reals.lookup raddr).isSome))

/-- All networks find room; or no source before the first network without room is anything else,
and from there on none will be in the table. -/
def CountedOnce (folly : Folly) (config : Config) (srcs : List String) (raddr : IPAddress)
    (s : State) : Prop :=
  (srcs.filterMap (networkOf folly)).length ≤ roomAfter config s 0 ∨
  (∀ src ∈ srcs.take (roomAfter config s 0 + 1), (networkOf folly src).isSome) ∧
    ∀ src ∈ srcs.drop (roomAfter config s 0), ¬ EndsMapped folly config srcs raddr s src

/-- What the call comes to for a destination with a number. -/
theorem addSrcRoutingRuleText_eq {srcs : List String} {dst : String}
    (henabled : srcRoutingEnabled config s = true) (hdst : folly.parse dst = some raddr)
    (hnum : (increaseRefCountForReal config raddr 0 s).1 ≠ config.maxReals) :
    ∃ t : State, addSrcRoutingRuleText folly config srcs dst s =
        (rejectedBefore folly (roomAfter config s 0) srcs +
          countedAtBreak srcs.length 0 (roomAfter config s 0)
            (srcs.filterMap (networkOf folly)).length, t) ∧
      (size s.tables.lpmSrcMapping ≤ config.maxLpmSrcSize →
        size t.tables.lpmSrcMapping ≤ config.maxLpmSrcSize) ∧
      t.tables.lpmSrcMapping = mapAll (increaseRefCountForReal config raddr 0 s).1
        (collected folly config srcs s) s.tables.lpmSrcMapping ∧
      if collected folly config srcs s = [] then
        t.tables.reals.lookup raddr = s.tables.reals.lookup raddr
      else
        ∃ r, t.tables.reals.lookup raddr = some r ∧
          r.num = (increaseRefCountForReal config raddr 0 s).1 := by
  obtain ⟨s', htables, hfeatures, hcollect⟩ :=
    @collectNetworks_eq folly config s henabled srcs.length srcs [] 0
  have henabled' : srcRoutingEnabled config s' = true := by
    unfold srcRoutingEnabled at henabled ⊢
    rw [hfeatures]
    exact henabled
  have hsame := (@increaseRefCountForReal_congr config s s' (by rw [htables]) (by rw [htables])
    raddr 0).1
  have hroom : (collected folly config srcs s).length ≤
      config.maxLpmSrcSize - size s'.tables.lpmSrcMapping := by
    rw [htables]
    exact List.length_take_le _ _
  obtain ⟨hzero, hrules, hreal⟩ :=
    @addSrcNetworks_eq config raddr s' _ hroom (by rw [hsame]; exact hnum)
  rw [hsame, htables] at hrules
  rw [hsame, htables] at hreal
  have hrule : addSrcRoutingRule folly config (collected folly config srcs s) dst s' =
      addSrcNetworks config raddr (collected folly config srcs s) s' := by
    unfold addSrcRoutingRule
    rw [if_neg (by simp [henabled']), validateHost_of_some hdst]
  refine ⟨(addSrcNetworks config raddr (collected folly config srcs s) s').2, ?_, fun hsize ↦ ?_,
    hrules, hreal⟩
  · unfold addSrcRoutingRuleText
    rw [if_neg (by simp [henabled]), validateHost_of_some hdst]
    simp only [hcollect, List.length_nil, List.nil_append]
    rw [show (srcs.filterMap (networkOf folly)).take (roomAfter config s 0) =
      collected folly config srcs s from rfl, hrule, hzero, zero_add]
    rfl
  · apply addSrcNetworks_size_le
    rw [htables]
    exact hsize

/-- After the call a source is mapped to the real of `raddr` if it ends mapped. -/
theorem mappedTo_iff_endsMapped {srcs : List String} {t : Tables}
    (hrules : t.lpmSrcMapping = mapAll (increaseRefCountForReal config raddr 0 s).1
      (collected folly config srcs s) s.tables.lpmSrcMapping)
    (hreal : if collected folly config srcs s = [] then
        t.reals.lookup raddr = s.tables.reals.lookup raddr
      else
        ∃ r, t.reals.lookup raddr = some r ∧
          r.num = (increaseRefCountForReal config raddr 0 s).1) (src : String) :
    mappedTo folly t raddr src = true ↔ EndsMapped folly config srcs raddr s src := by
  unfold mappedTo EndsMapped
  cases networkOf folly src with
  | none => simp
  | some network =>
    by_cases hnil : collected folly config srcs s = []
    · rw [if_pos hnil] at hreal
      rw [hrules, hreal, hnil]
      cases hlive : s.tables.reals.lookup raddr with
      | none => simp
      | some r =>
        rw [increaseRefCountForReal_of_lookup hlive]
        simp [mapAll]
        exact decide_eq_true_iff
    · rw [if_neg hnil] at hreal
      obtain ⟨r, hlive, hnum⟩ := hreal
      rw [hrules]
      simp only [hlive, lookup_mapAll, hnum, decide_eq_true_eq, Option.some.injEq,
        exists_eq_left', ne_eq, hnil, not_false_eq_true, true_or, and_true]
      split_ifs with hmem
      · simp [hmem]
      · simp [hmem]

/-- The call on texts counts its failures exactly if it counts each of them once. -/
theorem addSrcRoutingRuleText_counts_iff {srcs : List String} {dst : String}
    (henabled : srcRoutingEnabled config s = true) (hdst : folly.parse dst = some raddr)
    (hnum : (increaseRefCountForReal config raddr 0 s).1 ≠ config.maxReals) :
    CountsUnmapped folly config srcs raddr s.tables
        (addSrcRoutingRuleText folly config srcs dst s) ↔
      CountedOnce folly config srcs raddr s := by
  obtain ⟨t, hcall, hsize, hrules, hreal⟩ :=
    @addSrcRoutingRuleText_eq folly config raddr s srcs dst henabled hdst hnum
  have hmapped := mappedTo_iff_endsMapped hrules hreal
  rw [hcall]
  have hcount := @counted_eq_countP_iff folly srcs (roomAfter config s 0)
    (mappedTo folly t.tables raddr)
    (fun src hsrc ↦ by
      obtain ⟨network, hnetwork, -⟩ := (hmapped src).mp hsrc
      rw [hnetwork]
      rfl)
    (fun src network hnetwork hmem ↦ (hmapped src).mpr ⟨network, hnetwork, .inl hmem⟩)
  have hends : CountedOnce folly config srcs raddr s ↔
      (srcs.filterMap (networkOf folly)).length ≤ roomAfter config s 0 ∨
      (∀ src ∈ srcs.take (roomAfter config s 0 + 1), (networkOf folly src).isSome) ∧
        ∀ src ∈ srcs.drop (roomAfter config s 0), mappedTo folly t.tables raddr src = false := by
    unfold CountedOnce
    simp only [← hmapped, Bool.not_eq_true]
  rw [hends, ← hcount]
  refine ⟨fun h ↦ h.count, fun h ↦ ⟨h, hsize, fun network hnot ↦ ?_⟩⟩
  have hout : network ∉ collected folly config srcs s :=
    fun hmem ↦ hnot (List.mem_of_mem_take hmem)
  rw [hrules, lookup_mapAll, if_neg hout]

/-- The small balancer with the networks `10.1.0.0/16` to `10.3.0.0/16`. -/
def Folly.routed : Folly :=
  { Folly.sample with
    createNetwork := fun text ↦
      [("10.1.0.0/16", ((.v4 0x0a010000 : IPAddress), 16)), ("10.2.0.0/16", (.v4 0x0a020000, 16)),
        ("10.3.0.0/16", (.v4 0x0a030000, 16))].lookup text }

/-- A host, a repeated network and another one, with room for all of them. -/
theorem mixedSources_counted :
    CountsUnmapped .routed .sample ["10.0.0.1", "10.1.0.0/16", "10.1.0.0/16"] (.v4 0x0a000002)
      (State.sample []).tables
      (addSrcRoutingRuleText .routed .sample ["10.0.0.1", "10.1.0.0/16", "10.1.0.0/16"]
        "10.0.0.2" (.sample [])) :=
  (@addSrcRoutingRuleText_counts_iff .routed .sample (.v4 0x0a000002) (.sample [])
    ["10.0.0.1", "10.1.0.0/16", "10.1.0.0/16"] "10.0.0.2" (by decide) (by decide)
    (by decide +kernel)).mpr (.inl (by decide +kernel))

/-- A text that is no network, and three networks where there is room for two: two sources are not
mapped, three are counted. -/
theorem rejected_counted_twice :
    (addSrcRoutingRuleText .routed .sample
        ["junk", "10.1.0.0/16", "10.2.0.0/16", "10.3.0.0/16"] "10.0.0.2" (.sample [])).1 = 3 ∧
      ["junk", "10.1.0.0/16", "10.2.0.0/16", "10.3.0.0/16"].countP (fun src ↦
        !mappedTo .routed (addSrcRoutingRuleText .routed .sample
          ["junk", "10.1.0.0/16", "10.2.0.0/16", "10.3.0.0/16"] "10.0.0.2" (.sample [])).2.tables
          (.v4 0x0a000002) src) = 2 ∧
      ¬ CountsUnmapped .routed .sample ["junk", "10.1.0.0/16", "10.2.0.0/16", "10.3.0.0/16"]
        (.v4 0x0a000002) (State.sample []).tables
        (addSrcRoutingRuleText .routed .sample
          ["junk", "10.1.0.0/16", "10.2.0.0/16", "10.3.0.0/16"] "10.0.0.2" (.sample [])) := by
  have hreply : (addSrcRoutingRuleText .routed .sample
      ["junk", "10.1.0.0/16", "10.2.0.0/16", "10.3.0.0/16"] "10.0.0.2" (.sample [])).1 = 3 := by
    decide +kernel
  have hcount : ["junk", "10.1.0.0/16", "10.2.0.0/16", "10.3.0.0/16"].countP (fun src ↦
      !mappedTo .routed (addSrcRoutingRuleText .routed .sample
        ["junk", "10.1.0.0/16", "10.2.0.0/16", "10.3.0.0/16"] "10.0.0.2" (.sample [])).2.tables
        (.v4 0x0a000002) src) = 2 := by
    decide +kernel
  refine ⟨hreply, hcount, fun h ↦ ?_⟩
  have hexact := h.count
  rw [hreply, hcount] at hexact
  exact absurd hexact (by decide)

end Vsoshlb
