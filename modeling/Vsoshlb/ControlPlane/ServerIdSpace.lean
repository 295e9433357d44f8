import Vsoshlb.ControlPlane.ServerIds
import Vsoshlb.ControlPlane.RealFamilies
import Vsoshlb.DataPlane.ServerIdPaths
import Vsoshlb.Tpr.ServerId

/-!
# The space of server ids

The balancer, the packet router and the array in the kernel have three limits for a server id. The
array has as many entries as the largest id of the balancer, so that this id has none; the packet
router takes one id more. The program in the kernel goes from a server id to the entry of `reals`
with the same number, and not to the position that the array holds for the id.
-/

namespace Vsoshlb

open DataPlane

/-- The size of `server_id_map`, as an array. -/
def MAX_QUIC_REALS : ℕ := 0x00fffffe

/-- The limit check of `modifyQuicRealsMapping`. -/
def PassesLimit (config : Config) (id : BitVec 32) : Prop :=
  ¬ (config.enableCidV3 = false ∧ id.toNat > kMaxQuicIdV2)

/-- `setServerIdV6` accepts the id, on a host whose map update succeeds. -/
def TprAccepts (host : Tpr.Host) (id : BitVec 32) : Prop :=
  (Tpr.setServerIdV6 id (.ok ()) host).map Prod.fst = some true

/-- The arrays as the kernel sees them, with the other maps. -/
def kernelView (config : Config) (maps : BpfMaps) (others : KernelMaps) : KernelMaps :=
  { others with
    reals := fun key ↦
      if key.toNat < config.maxReals then some (maps.reals key.toNat) else none
    serverIdMap := fun id ↦
      if id.toNat < MAX_QUIC_REALS then some (BitVec.ofNat 32 (maps.serverIdMap id.toNat))
      else none }

variable (folly : Folly) (config : Config) (u : Unspecified) (others : KernelMaps)

/-- The maps after an `ADD` of the id for the address. -/
def mapsAfterAdd (address : String) (id : BitVec 32) (s : State) : KernelMaps :=
  kernelView config
    (modifyQuicRealsMapping folly config u .add [⟨address, id.toNat⟩] s).maps others

/-- After an `ADD` of the id the lookup of `process_packet` ends at the real of the address. -/
def FindsReal (address : String) (raddr : IPAddress) (id : BitVec 32) (s : State) : Prop :=
  ∃ flags, serverIdEntry (mapsAfterAdd folly config u others address id s) id =
    some (some (realDefinition raddr flags))

/-- The id belongs to the space or does not: one that the balancer or the router accepts is an index
of the array, and found after an `ADD`, and an index is accepted by both. The id 0 is not used. -/
structure InOneSpace (host : Tpr.Host) (address : String) (raddr : IPAddress) (id : BitVec 32)
    (s : State) : Prop where
  accepted : id ≠ 0 → PassesLimit config id ∨ TprAccepts host id →
    id.toNat < MAX_QUIC_REALS ∧ FindsReal folly config u others address raddr id s
  index : id ≠ 0 → id.toNat < MAX_QUIC_REALS → PassesLimit config id ∧ TprAccepts host id

/-- The entry of `reals` with the given number is that of the address, with any flags. -/
def EntryOf (raddr : IPAddress) (num : ℕ) (s : State) : Prop :=
  ∃ flags, s.maps.reals num = realDefinition raddr flags

/-- The entry with the number of the id is that of the address, or will be: the address is new, and
the id is the next free number. -/
def NumberedAs (raddr : IPAddress) (id : BitVec 32) (s : State) : Prop :=
  EntryOf raddr id.toNat s ∨
    (s.tables.quicMapping.lookup id.toNat ≠ some raddr ∧ s.tables.reals.lookup raddr = none ∧
      s.tables.realNums.head? = some id.toNat)

variable {folly config u others}

/-! ## The limits -/

theorem passesLimit_iff (hcid : config.enableCidV3 = false) (id : BitVec 32) :
    PassesLimit config id ↔ id.toNat ≤ kMaxQuicIdV2 := by
  unfold PassesLimit
  rw [and_iff_right hcid, not_lt]

theorem tprAccepts_iff {host : Tpr.Host} (hmode : host.router.mode = .server) (id : BitVec 32) :
    TprAccepts host id ↔ id ≤ Tpr.kMaxServerId := by
  obtain ⟨reply, host', hrun, hend⟩ := Tpr.setServerIdV6_ends id (.ok ()) hmode
  rw [TprAccepts, hrun, Option.map_some, Option.some.injEq]
  cases hend with
  | tooLarge hlarge => exact iff_of_false nofun (BitVec.not_le.mpr hlarge)
  | alreadySet hle _ => exact iff_of_true rfl hle
  | remembered hle _ _ => exact iff_of_true rfl hle
  | updated hle _ _ _ => exact iff_of_true rfl hle
  | failed _ _ _ hupdate => exact absurd rfl hupdate

theorem le_kMaxServerId_iff (id : BitVec 32) : id ≤ Tpr.kMaxServerId ↔ id.toNat < 2 ^ 24 := by
  rw [BitVec.le_def]
  exact Nat.le_iff_lt_add_one

/-- The ids at which the limits part: the last two that fit into 24 bits. -/
theorem limits_iff (hcid : config.enableCidV3 = false) {host : Tpr.Host}
    (hmode : host.router.mode = .server) (id : BitVec 32) :
    ((PassesLimit config id ∨ TprAccepts host id) → id.toNat < MAX_QUIC_REALS) ↔
      id ≠ 0xfffffe ∧ id ≠ 0xffffff := by
  rw [passesLimit_iff hcid, tprAccepts_iff hmode, le_kMaxServerId_iff]
  unfold kMaxQuicIdV2 MAX_QUIC_REALS
  rw [ne_eq, ne_eq, ← BitVec.toNat_inj, ← BitVec.toNat_inj]
  change _ ↔ ¬ id.toNat = 0xfffffe ∧ ¬ id.toNat = 0xffffff
  omega

/-! ## The array of the reals after an `ADD` -/

variable {s : State} {raddr : IPAddress} {address : String} {id : BitVec 32}

theorem updateServerIdMap_reals (s : State) (mapping : ℕ × ℕ) :
    (updateServerIdMap s mapping).maps.reals = s.maps.reals := by
  unfold updateServerIdMap
  rw [State.bpfCall_maps]
  split_ifs
  · rfl
  · rfl

theorem modifyQuicRealsMapping_reals (real : QuicReal) (s : State) :
    (modifyQuicRealsMapping folly config u .add [real] s).maps.reals =
      (addQuicStep folly config (∅, s) real).2.maps.reals := by
  unfold modifyQuicRealsMapping
  rw [List.foldl_cons, List.foldl_nil]
  dsimp only
  split_ifs
  · rfl
  · exact Runs.foldl_invariant
      (fun t : State ↦ t.maps.reals = (addQuicStep folly config (∅, s) real).2.maps.reals) rfl _
      fun t mapping ht ↦ (updateServerIdMap_reals t mapping).trans ht

/-- A reference to an address writes an entry only for a new address, at the next free number. -/
theorem increaseRefCountForReal_entryOf (htesting : config.testing = false)
    (hnil : s.outcomes = []) (num : ℕ) :
    EntryOf raddr num (increaseRefCountForReal config raddr 0 s).2 ↔
      EntryOf raddr num s ∨
        (s.tables.reals.lookup raddr = none ∧ s.tables.realNums.head? = some num) := by
  unfold increaseRefCountForReal
  cases hreal : s.tables.reals.lookup raddr with
  | some r => simp [EntryOf]
  | none =>
    cases hnums : s.tables.realNums with
    | nil => simp [EntryOf]
    | cons rnum realNums =>
      simp only [htesting, Bool.false_eq_true, if_false, EntryOf, updateRealsMap,
        State.bpfCall_of_nil, hnil, List.head?_cons, Option.some.injEq, true_and]
      by_cases heq : num = rnum
      · subst heq
        simp only [Function.update_self, or_true, iff_true]
        exact ⟨_, rfl⟩
      · rw [Function.update_of_ne heq, or_iff_left (Ne.symm heq)]

theorem mapQuicReal_reals (toUpdate : Finmap fun _ : ℕ ↦ ℕ) (num : ℕ) (s : State) :
    (mapQuicReal config raddr num toUpdate s).2.maps.reals =
      (increaseRefCountForReal config raddr 0 s).2.maps.reals := by
  unfold mapQuicReal
  dsimp only
  split_ifs
  · rfl
  · rfl

theorem decreaseRefCountForReal_head {real : IPAddress} (hfree : s.tables.realNums ≠ []) :
    (decreaseRefCountForReal real s).tables.realNums.head? = s.tables.realNums.head? := by
  unfold decreaseRefCountForReal
  split
  · rfl
  · dsimp only
    split_ifs
    · exact List.head?_append_of_ne_nil _ hfree
    · rfl

/-- After an `ADD` the entry with the number of the id is that of the address precisely when it is
so already, or the id is the number that the new address gets. -/
theorem addQuicStep_entryOf (htesting : config.testing = false)
    (hparse : folly.parse address = some raddr) (hid : id.toNat ≤ kMaxQuicIdV2)
    (hnil : s.outcomes = []) (hfree : s.tables.realNums ≠ []) :
    EntryOf raddr id.toNat (addQuicStep folly config (∅, s) ⟨address, id.toNat⟩).2 ↔
      NumberedAs raddr id s := by
  have hpasses : ¬ (config.enableCidV3 = false ∧ id.toNat > kMaxQuicIdV2) := by omega
  have hmapped (t : State) (ht : t.outcomes = []) :
      EntryOf raddr id.toNat (mapQuicReal config raddr id.toNat ∅ t).2 ↔
        EntryOf raddr id.toNat t ∨
          (t.tables.reals.lookup raddr = none ∧ t.tables.realNums.head? = some id.toNat) := by
    rw [EntryOf, mapQuicReal_reals]
    exact increaseRefCountForReal_entryOf htesting ht id.toNat
  unfold addQuicStep NumberedAs
  dsimp only
  rw [validateHost_of_some hparse]
  dsimp only
  rw [if_neg hpasses]
  cases hquic : s.tables.quicMapping.lookup id.toNat with
  | none =>
    rw [and_iff_right (Option.some_ne_none raddr).symm]
    exact hmapped s hnil
  | some current =>
    dsimp only
    by_cases hsame : current = raddr
    · rw [if_pos hsame, hsame]
      exact (or_iff_left fun h ↦ h.1 rfl).symm
    · have hnil' := (decreaseRefCountForReal_within current s).outcomes_eq_nil hnil
      have hentry : EntryOf raddr id.toNat (decreaseRefCountForReal current s) ↔
          EntryOf raddr id.toNat s := by
        rw [EntryOf, decreaseRefCountForReal_maps, EntryOf]
      have hiff := hmapped (decreaseRefCountForReal current s) hnil'
      rw [decreaseRefCountForReal_lookup_of_ne (Ne.symm hsame), decreaseRefCountForReal_head hfree,
        hentry] at hiff
      rw [if_neg hsame, and_iff_right (mt Option.some.inj hsame)]
      exact hiff

/-- The lookup ends at the real of the address if and only if the array has the id, `reals` has its
number, and the entry there is that of the address. -/
theorem findsReal_iff (htesting : config.testing = false)
    (hparse : folly.parse address = some raddr) (hid : id.toNat ≤ kMaxQuicIdV2)
    (hnil : s.outcomes = []) (hfree : s.tables.realNums ≠ []) :
    FindsReal folly config u others address raddr id s ↔
      id.toNat < MAX_QUIC_REALS ∧ id.toNat < config.maxReals ∧ NumberedAs raddr id s := by
  rw [← addQuicStep_entryOf htesting hparse hid hnil hfree]
  unfold FindsReal serverIdEntry mapsAfterAdd kernelView EntryOf
  dsimp only
  rw [modifyQuicRealsMapping_reals]
  by_cases hindex : id.toNat < MAX_QUIC_REALS
  · by_cases hreal : id.toNat < config.maxReals
    · simp only [hindex, hreal, if_true, Option.map_some, Option.some.injEq, true_and]
    · simp [hindex, hreal]
  · simp [hindex]

/-- Every QUIC packet with an id that is found goes to the real of the address. -/
theorem FindsReal.quicPacket_sent
    (h : FindsReal folly config u others address raddr id s) (hid : id ≠ 0) {build : Build}
    {env : Env} {m t : Machine} {found : VipDefinition × VipMeta × LruMap}
    (hpacket : QuicPacket build (mapsAfterAdd folly config u others address id s) env m id.toNat
      found t) :
    ∃ flags, serverIdOutcome build (mapsAfterAdd folly config u others address id s) env found t =
      .sent (realDefinition raddr flags) := by
  obtain ⟨flags, hentry⟩ := h
  have hpos : 0 < id.toNat := Nat.pos_of_ne_zero fun hzero ↦ hid (BitVec.eq_of_toNat_eq hzero)
  refine ⟨flags, ?_⟩
  rw [serverIdOutcome_quic hpacket hpos, BitVec.ofNat_toNat, BitVec.setWidth_eq, hentry]
  rfl

/-! ## The whole space -/

/-- The limits and the lookup agree about an id if and only if it is 0, too large for the packet
router, or a number of `reals` below the size of the array whose entry is that of the address. -/
theorem inOneSpace_iff (htesting : config.testing = false) (hcid : config.enableCidV3 = false)
    (hparse : folly.parse address = some raddr) (hnil : s.outcomes = [])
    (hfree : s.tables.realNums ≠ []) {host : Tpr.Host} (hmode : host.router.mode = .server) :
    InOneSpace folly config u others host address raddr id s ↔
      id = 0 ∨ 2 ^ 24 ≤ id.toNat ∨
        (id.toNat < MAX_QUIC_REALS ∧ id.toNat < config.maxReals ∧ NumberedAs raddr id s) := by
  have hpasses := passesLimit_iff hcid id
  have haccepts := (tprAccepts_iff hmode id).trans (le_kMaxServerId_iff id)
  unfold kMaxQuicIdV2 at hpasses
  by_cases hzero : id = 0
  · exact iff_of_true ⟨fun h ↦ absurd hzero h, fun h ↦ absurd hzero h⟩ (Or.inl hzero)
  by_cases hlarge : 2 ^ 24 ≤ id.toNat
  · refine iff_of_true ⟨fun _ haccepted ↦ ?_, fun _ hindex ↦ ?_⟩ (Or.inr (Or.inl hlarge))
    · rw [hpasses, haccepts] at haccepted
      omega
    · unfold MAX_QUIC_REALS at hindex
      omega
  rw [or_iff_right hzero, or_iff_right hlarge]
  have htpr : TprAccepts host id := haccepts.mpr (Nat.lt_of_not_le hlarge)
  by_cases hindex : id.toNat < MAX_QUIC_REALS
  · have hle : id.toNat ≤ kMaxQuicIdV2 := Nat.le_of_lt hindex
    have hfinds_iff : FindsReal folly config u others address raddr id s ↔ _ :=
      findsReal_iff htesting hparse hle hnil hfree
    rw [← hfinds_iff]
    constructor
    · intro h
      exact (h.accepted hzero (Or.inr htpr)).2
    · intro hfinds
      exact ⟨fun _ _ ↦ ⟨hindex, hfinds⟩, fun _ _ ↦ ⟨(passesLimit_iff hcid id).mpr hle, htpr⟩⟩
  · exact iff_of_false (fun h ↦ hindex (h.accepted hzero (Or.inr htpr)).1) fun h ↦ hindex h.1

/-! ## Both ends of the space -/

def serverHost : Tpr.Host := .new Tpr.serverRouter

/-- The first id, for a new real with the first number. -/
theorem first_id_inOneSpace :
    InOneSpace .sample .sample (.sorted fun n ↦ n) (.sample 0) serverHost "10.0.0.2"
      (.v4 0x0a000002) 1 (.sample []) := by
  have hnumbered : NumberedAs (.v4 0x0a000002) 1 (.sample []) :=
    Or.inr ⟨by decide +kernel, by decide +kernel, by decide +kernel⟩
  exact (inOneSpace_iff rfl rfl (by decide +kernel) rfl (by decide +kernel) rfl).mpr
    (Or.inr (Or.inr ⟨by decide, by decide, hnumbered⟩))

/-- The last id that the balancer accepts is no index of the array, and the packet router accepts
one more. -/
theorem last_id_not_inOneSpace :
    PassesLimit .sample 0xfffffe ∧ TprAccepts serverHost 0xfffffe ∧
      ¬ (0xfffffe : BitVec 32).toNat < MAX_QUIC_REALS ∧
      ¬ FindsReal .sample .sample (.sorted fun n ↦ n) (.sample 0) "10.0.0.2" (.v4 0x0a000002)
        0xfffffe (.sample []) ∧
      ¬ PassesLimit .sample 0xffffff ∧ TprAccepts serverHost 0xffffff ∧
      ¬ InOneSpace .sample .sample (.sorted fun n ↦ n) (.sample 0) serverHost "10.0.0.2"
        (.v4 0x0a000002) 0xfffffe (.sample []) := by
  have hlimit : ¬ (0xfffffe : BitVec 32).toNat < MAX_QUIC_REALS := by decide
  have hpasses : PassesLimit .sample 0xfffffe := (passesLimit_iff rfl _).mpr (by decide)
  have hfinds : ¬ FindsReal .sample .sample (.sorted fun n ↦ n) (.sample 0) "10.0.0.2"
      (.v4 0x0a000002) 0xfffffe (.sample []) := fun h ↦
    hlimit ((findsReal_iff rfl (by decide +kernel) (by decide) rfl (by decide +kernel)).mp h).1
  refine ⟨hpasses, (tprAccepts_iff rfl _).mpr (by decide), hlimit, hfinds, ?_,
    (tprAccepts_iff rfl _).mpr (by decide), fun h ↦ ?_⟩
  · exact fun h ↦ absurd ((passesLimit_iff rfl _).mp h) (by decide)
  · exact hlimit (h.accepted (by decide) (Or.inl hpasses)).1

end Vsoshlb
