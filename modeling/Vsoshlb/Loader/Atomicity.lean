import Mathlib.Data.String.Basic
import Vsoshlb.Loader.BpfLoader

/-!
# What a failed load leaves behind

A failed load leaves the tables of the loader as they were. A failed reload may leave shared maps: a
map is shared as soon as the loop meets it, and nothing takes it back. The tables are those from
before exactly when the reload fails before its first map of that kind.
-/

namespace Vsoshlb.Loader

open EarlyExit

/-- The five tables are the same. -/
structure SameTables (loader loader' : BpfLoader) : Prop where
  maps : loader'.maps = loader.maps
  progs : loader'.progs = loader.progs
  currentMaps : loader'.currentMaps = loader.currentMaps
  bpfObjects : loader'.bpfObjects = loader.bpfObjects
  sharedMaps : loader'.sharedMaps = loader.sharedMaps

/-- A call that returns an error leaves the tables as they were. -/
def Atomic (prog : LoaderProg (Option ℤ)) (loader : BpfLoader) : Prop :=
  ∀ r, (prog.result loader).1 = some r → r ≠ kSuccess →
    SameTables loader (prog.result loader).2

namespace BpfLoader

variable (loader : BpfLoader) (map : BpfMap)

/-- `reloadBpfObject` makes the map shared. -/
def BecomesShared : Prop :=
  loader.sharedMaps map.name = none ∧ (loader.maps map.name).isSome ∧
    map.name.utf8ByteSize ≤ kMaxSharedMapNameSize

instance : Decidable (loader.BecomesShared map) := inferInstanceAs (Decidable (_ ∧ _ ∧ _))

/-- `reloadBpfObject` fails at the map. -/
def FailsAt : Prop :=
  if (loader.sharedMaps map.name).isSome then
    map.reuseFd = false
  else if (loader.maps map.name).isSome then
    kMaxSharedMapNameSize < map.name.utf8ByteSize ∨ map.reuseFd = false
  else
    (loader.innerMapsProto map.name).isSome ∧ map.setInnerMapFd = false

instance : Decidable (loader.FailsAt map) :=
  inferInstanceAs (Decidable
    (if (loader.sharedMaps map.name).isSome then map.reuseFd = false
    else if (loader.maps map.name).isSome then
      kMaxSharedMapNameSize < map.name.utf8ByteSize ∨ map.reuseFd = false
    else (loader.innerMapsProto map.name).isSome ∧ map.setInnerMapFd = false))

/-- No map becomes shared, up to the first one at which the reload fails. -/
def KeepsShared (loader : BpfLoader) : List BpfMap → Prop
  | [] => True
  | map :: maps => ¬ loader.BecomesShared map ∧ (loader.FailsAt map ∨ loader.KeepsShared maps)

/-- The reload of an object succeeds: its programs are loaded, the loop over its maps comes to the
end, and libbpf loads it. -/
def Reloads (loader : BpfLoader) (obj : BpfObject) : Prop :=
  (∀ prog ∈ obj.progs, (loader.progs prog.name).isSome) ∧
    (∀ map ∈ obj.maps, ¬ loader.FailsAt map) ∧ obj.load = true

/-- The loader after one round of the loop in `reloadBpfObject`. -/
def share : BpfLoader :=
  if loader.BecomesShared map then
    { loader with
      sharedMaps := Function.update loader.sharedMaps map.name (loader.maps map.name) }
  else
    loader

end BpfLoader

variable {loader loader' : BpfLoader} {map : BpfMap} {maps : List BpfMap} {obj : BpfObject}
  {objName : String}

/-! ## The loop over the maps -/

theorem share_of_not (h : ¬ loader.BecomesShared map) : loader.share map = loader := if_neg h

theorem failsAt_of_shared (h : (loader.sharedMaps map.name).isSome) :
    loader.FailsAt map ↔ map.reuseFd = false := by
  simp only [BpfLoader.FailsAt, if_pos h]

theorem failsAt_of_loaded {fd : ℤ} (hnone : loader.sharedMaps map.name = none)
    (hmap : loader.maps map.name = some fd) :
    loader.FailsAt map ↔ kMaxSharedMapNameSize < map.name.utf8ByteSize ∨ map.reuseFd = false := by
  simp [BpfLoader.FailsAt, hnone, hmap]

theorem failsAt_of_new (hnone : loader.sharedMaps map.name = none)
    (hmap : loader.maps map.name = none) :
    loader.FailsAt map ↔
      (loader.innerMapsProto map.name).isSome ∧ map.setInnerMapFd = false := by
  simp [BpfLoader.FailsAt, hnone, hmap]

/-- One round. -/
theorem reloadMap_run (loader : BpfLoader) (map : BpfMap) :
    reloadMap map loader =
      (if loader.FailsAt map then .error (some kError) else .ok (), loader.share map) := by
  cases hshared : loader.sharedMaps map.name with
  | some fd =>
    have hnot : ¬ loader.BecomesShared map := fun h ↦ by simpa [hshared] using h.1
    have hrun : reloadMap map loader = closeIf (map.reuseFd = false) loader := by
      simp [reloadMap, Prog.bind_apply, Prog.read, hshared]
    have hfails : loader.FailsAt map ↔ map.reuseFd = false :=
      failsAt_of_shared (by rw [hshared]; rfl)
    rw [hrun, closeIf, Prog.exitIf_apply, share_of_not hnot]
    simp only [hfails]
  | none =>
    cases hmap : loader.maps map.name with
    | none =>
      have hnot : ¬ loader.BecomesShared map := fun h ↦ by simpa [hmap] using h.2.1
      have hrun : reloadMap map loader =
          closeIf ((loader.innerMapsProto map.name).isSome ∧ map.setInnerMapFd = false)
            loader := by
        simp [reloadMap, Prog.bind_apply, Prog.read, hshared, hmap]
      rw [hrun, closeIf, Prog.exitIf_apply, share_of_not hnot]
      simp only [failsAt_of_new hshared hmap]
    | some fd =>
      have hrun : reloadMap map loader =
          (do
            let res ← Prog.act (BpfLoader.updateSharedMap map.name fd)
            closeIf (res ≠ kSuccess)
            closeIf (map.reuseFd = false) : LoaderProg Unit) loader := by
        simp [reloadMap, Prog.bind_apply, Prog.read, hshared, hmap]
      rw [hrun]
      by_cases hlong : kMaxSharedMapNameSize < map.name.utf8ByteSize
      · have hnot : ¬ loader.BecomesShared map := fun h ↦ absurd h.2.2 (by omega)
        have hfails : loader.FailsAt map := (failsAt_of_loaded hshared hmap).mpr (Or.inl hlong)
        rw [share_of_not hnot, if_pos hfails]
        simp [Prog.bind_apply, Prog.act, BpfLoader.updateSharedMap, hshared, hlong, closeIf,
          Prog.exitIf_apply, kNotExists, kSuccess]
      · have hbecomes : loader.BecomesShared map := ⟨hshared, by rw [hmap]; rfl, by omega⟩
        have hfails : loader.FailsAt map ↔ map.reuseFd = false := by
          rw [failsAt_of_loaded hshared hmap, or_iff_right hlong]
        simp [Prog.bind_apply, Prog.act, BpfLoader.updateSharedMap, hshared, hlong, closeIf,
          Prog.exitIf_apply, kSuccess, BpfLoader.share, hbecomes, hfails, hmap]

/-- What a reload changes before the load: maps become shared, and no entry is taken back. -/
structure SharesMore (loader loader' : BpfLoader) : Prop where
  maps : loader'.maps = loader.maps
  progs : loader'.progs = loader.progs
  currentMaps : loader'.currentMaps = loader.currentMaps
  bpfObjects : loader'.bpfObjects = loader.bpfObjects
  innerMapsProto : loader'.innerMapsProto = loader.innerMapsProto
  kept : ∀ name, (loader.sharedMaps name).isSome → (loader'.sharedMaps name).isSome

theorem SharesMore.refl (loader : BpfLoader) : SharesMore loader loader :=
  ⟨rfl, rfl, rfl, rfl, rfl, fun _ h ↦ h⟩

theorem SharesMore.trans {loader'' : BpfLoader} (h : SharesMore loader loader')
    (h' : SharesMore loader' loader'') : SharesMore loader loader'' where
  maps := h'.maps.trans h.maps
  progs := h'.progs.trans h.progs
  currentMaps := h'.currentMaps.trans h.currentMaps
  bpfObjects := h'.bpfObjects.trans h.bpfObjects
  innerMapsProto := h'.innerMapsProto.trans h.innerMapsProto
  kept name hname := h'.kept name (h.kept name hname)

theorem share_sharedMaps (h : loader.BecomesShared map) :
    (loader.share map).sharedMaps =
      Function.update loader.sharedMaps map.name (loader.maps map.name) := by
  rw [BpfLoader.share, if_pos h]

theorem share_isSome_of_becomesShared (h : loader.BecomesShared map) :
    ((loader.share map).sharedMaps map.name).isSome := by
  rw [share_sharedMaps h, Function.update_self]
  exact h.2.1

theorem share_sharesMore (loader : BpfLoader) (map : BpfMap) :
    SharesMore loader (loader.share map) := by
  by_cases hbecomes : loader.BecomesShared map
  · have hkept : ∀ name, (loader.sharedMaps name).isSome →
        ((loader.share map).sharedMaps name).isSome := by
      intro name hname
      by_cases heq : name = map.name
      · exact heq ▸ share_isSome_of_becomesShared hbecomes
      · rwa [share_sharedMaps hbecomes, Function.update_of_ne heq]
    rw [BpfLoader.share, if_pos hbecomes] at hkept ⊢
    exact ⟨rfl, rfl, rfl, rfl, rfl, hkept⟩
  · rw [share_of_not hbecomes]
    exact .refl loader

/-- That a map has become shared is no reason to fail at another one. -/
theorem failsAt_share (map' : BpfMap) :
    (loader.share map).FailsAt map' ↔ loader.FailsAt map' := by
  by_cases hbecomes : loader.BecomesShared map
  · by_cases heq : map'.name = map.name
    · obtain ⟨hnone, hloaded, hshort⟩ := hbecomes
      obtain ⟨fd, hmap⟩ := Option.isSome_iff_exists.mp hloaded
      have hshared : ((loader.share map).sharedMaps map'.name).isSome :=
        heq ▸ share_isSome_of_becomesShared ⟨hnone, hloaded, hshort⟩
      rw [← heq] at hnone hmap hshort
      rw [failsAt_of_shared hshared, failsAt_of_loaded hnone hmap,
        or_iff_right (Nat.not_lt.mpr hshort)]
    · simp only [BpfLoader.FailsAt, BpfLoader.share, if_pos hbecomes, Function.update_of_ne heq]
  · rw [share_of_not hbecomes]

theorem reloadMaps_cons (loader : BpfLoader) (map : BpfMap) (maps : List BpfMap) :
    reloadMaps (map :: maps) loader =
      if loader.FailsAt map then (.error (some kError), loader.share map)
      else reloadMaps maps (loader.share map) := by
  rw [reloadMaps, Prog.bind_apply, reloadMap_run]
  split_ifs
  · rfl
  · rfl

theorem reloadMaps_sharesMore (loader : BpfLoader) (maps : List BpfMap) :
    SharesMore loader (reloadMaps maps loader).2 := by
  induction maps generalizing loader with
  | nil => exact .refl loader
  | cons map maps ih =>
    rw [reloadMaps_cons]
    split_ifs
    · exact share_sharesMore loader map
    · exact (share_sharesMore loader map).trans (ih _)

/-- The loop comes to its end if and only if no map fails. -/
theorem reloadMaps_fst (loader : BpfLoader) (maps : List BpfMap) :
    (reloadMaps maps loader).1 =
      if ∃ map ∈ maps, loader.FailsAt map then .error (some kError) else .ok () := by
  induction maps generalizing loader with
  | nil => simp [reloadMaps, Prog.pure_apply]
  | cons map maps ih =>
    rw [reloadMaps_cons]
    by_cases hfails : loader.FailsAt map
    · rw [if_pos hfails, if_pos ⟨map, List.mem_cons_self, hfails⟩]
    · rw [if_neg hfails, ih]
      simp only [failsAt_share, List.mem_cons, exists_eq_or_imp, hfails, false_or]

/-- The loop leaves the shared maps as they were if and only if none becomes shared in it. -/
theorem reloadMaps_sharedMaps_iff (loader : BpfLoader) (maps : List BpfMap) :
    (reloadMaps maps loader).2.sharedMaps = loader.sharedMaps ↔ loader.KeepsShared maps := by
  induction maps generalizing loader with
  | nil => exact ⟨fun _ ↦ trivial, fun _ ↦ rfl⟩
  | cons map maps ih =>
    rw [BpfLoader.KeepsShared]
    by_cases hbecomes : loader.BecomesShared map
    · refine iff_of_false (fun hsame ↦ ?_) fun hkeeps ↦ hkeeps.1 hbecomes
      -- no later round takes the entry back
      have hkept : ((reloadMaps (map :: maps) loader).2.sharedMaps map.name).isSome := by
        rw [reloadMaps_cons]
        split_ifs
        · exact share_isSome_of_becomesShared hbecomes
        · exact (reloadMaps_sharesMore _ maps).kept _ (share_isSome_of_becomesShared hbecomes)
      rw [hsame, hbecomes.1] at hkept
      cases hkept
    · rw [reloadMaps_cons, share_of_not hbecomes]
      by_cases hfails : loader.FailsAt map
      · rw [if_pos hfails]
        exact iff_of_true rfl ⟨hbecomes, Or.inl hfails⟩
      · rw [if_neg hfails, ih]
        simp only [hbecomes, hfails, not_false_eq_true, true_and, false_or]

/-! ## A whole reload -/

theorem SharesMore.sameTables_iff (h : SharesMore loader loader') :
    SameTables loader loader' ↔ loader'.sharedMaps = loader.sharedMaps :=
  ⟨fun hsame ↦ hsame.sharedMaps,
    fun hshared ↦ ⟨h.maps, h.progs, h.currentMaps, h.bpfObjects, hshared⟩⟩

theorem loadObject_run (loader : BpfLoader) (obj : BpfObject) :
    loadObject obj loader =
      (if obj.load = false then .error (some kError)
        else if obj.progType = false then .error none else .ok (), loader) := by
  by_cases hload : obj.load = false
  · rw [loadObject, closeIf, Prog.exitIf_bind_of_pos hload, if_pos hload]
  · rw [loadObject, closeIf, Prog.exitIf_bind_of_neg hload, Prog.exitIf_apply, if_neg hload]

/-- The loader after a successful reload. -/
def BpfLoader.reloaded (loader : BpfLoader) (obj : BpfObject) (objName : String) : BpfLoader :=
  (obj.maps.foldl BpfLoader.addNewMap
    (obj.progs.foldl BpfLoader.addProg (reloadMaps obj.maps loader).2)).register obj objName

/-- The ends of a reload. -/
theorem reloadBpfObject_result (loader : BpfLoader) (obj : BpfObject) (objName : String) :
    (reloadBpfObject obj objName).result loader =
      if ∃ prog ∈ obj.progs, (loader.progs prog.name).isNone then (some kError, loader)
      else if (∃ map ∈ obj.maps, loader.FailsAt map) ∨ obj.load = false then
        (some kError, (reloadMaps obj.maps loader).2)
      else if obj.progType = false then (none, (reloadMaps obj.maps loader).2)
      else (some kSuccess, loader.reloaded obj objName) := by
  have hloop := reloadMaps_fst loader obj.maps
  unfold reloadBpfObject Prog.result BpfLoader.reloaded
  rw [Prog.bind_apply]
  simp only [Prog.read, id]
  by_cases hmissing : ∃ prog ∈ obj.progs, (loader.progs prog.name).isNone
  · rw [closeIf, Prog.exitIf_bind_of_pos hmissing, if_pos hmissing]
  · rw [closeIf, Prog.exitIf_bind_of_neg hmissing, if_neg hmissing, Prog.bind_apply]
    generalize reloadMaps obj.maps loader = ran at hloop ⊢
    obtain ⟨outcome, shared⟩ := ran
    by_cases hfails : ∃ map ∈ obj.maps, loader.FailsAt map
    · obtain rfl : outcome = .error (some kError) := hloop.trans (if_pos hfails)
      rw [if_pos (Or.inl hfails)]
    · obtain rfl : outcome = .ok () := hloop.trans (if_neg hfails)
      simp only [hfails, false_or]
      rw [Prog.bind_apply, loadObject_run]
      split_ifs
      · rfl
      · rfl
      · rfl

theorem reloads_of_not (hprogs : ¬ ∃ prog ∈ obj.progs, (loader.progs prog.name).isNone)
    (hfails : ¬ ((∃ map ∈ obj.maps, loader.FailsAt map) ∨ obj.load = false)) :
    loader.Reloads obj := by
  push Not at hprogs hfails
  refine ⟨fun prog hmem ↦ ?_, hfails.1, Bool.eq_true_of_not_eq_false hfails.2⟩
  rw [Option.isSome_iff_ne_none]
  exact fun hnone ↦ hprogs prog hmem (Option.isNone_iff_eq_none.mpr hnone)

/-- A reload that returns an error leaves the tables as they were if and only if it fails at its
programs, or before a map has become shared. -/
theorem reloadBpfObject_atomic_iff (loader : BpfLoader) (obj : BpfObject) (objName : String) :
    Atomic (reloadBpfObject obj objName) loader ↔
      (∃ prog ∈ obj.progs, (loader.progs prog.name).isNone) ∨ loader.KeepsShared obj.maps ∨
        loader.Reloads obj := by
  have hshared := (reloadMaps_sharesMore loader obj.maps).sameTables_iff.trans
    (reloadMaps_sharedMaps_iff loader obj.maps)
  unfold Atomic
  rw [reloadBpfObject_result]
  by_cases hprogs : ∃ prog ∈ obj.progs, (loader.progs prog.name).isNone
  · rw [if_pos hprogs]
    exact iff_of_true (fun _ _ _ ↦ ⟨rfl, rfl, rfl, rfl, rfl⟩) (Or.inl hprogs)
  rw [if_neg hprogs, or_iff_right hprogs]
  by_cases hfails : (∃ map ∈ obj.maps, loader.FailsAt map) ∨ obj.load = false
  · rw [if_pos hfails]
    have hnot : ¬ loader.Reloads obj := by
      rintro ⟨-, hmaps, hload⟩
      rcases hfails with ⟨map, hmem, hmap⟩ | hfalse
      · exact hmaps map hmem hmap
      · rw [hload] at hfalse
        cases hfalse
    rw [or_iff_left hnot, ← hshared]
    constructor
    · intro h
      exact h kError rfl (by decide)
    · exact fun hsame _ _ _ ↦ hsame
  · rw [if_neg hfails]
    have hreloads := reloads_of_not hprogs hfails
    refine iff_of_true (fun r hr herror ↦ ?_) (Or.inr hreloads)
    split_ifs at hr
    exact absurd (Option.some.inj hr).symm herror

/-! ## Loads -/

/-- Nothing has changed, and it is no success. -/
def Refused (loader : BpfLoader) (r : Option ℤ) (loader' : BpfLoader) : Prop :=
  r ≠ some kSuccess ∧ loader = loader'

theorem closeIf_triple {c : Prop} [Decidable c] :
    Triple (Eq loader) (closeIf c) (fun _ ↦ Eq loader) (Refused loader) :=
  .exitIf (fun _ _ h ↦ ⟨by decide, h⟩) fun _ _ h ↦ h

theorem loadMap_triple : Triple (Eq loader) (loadMap map) (fun _ ↦ Eq loader) (Refused loader) :=
  .read_bind fun _ _ ↦ .ite (fun _ ↦ closeIf_triple) fun _ ↦
    .ite (fun _ ↦ closeIf_triple) fun _ ↦ closeIf_triple

theorem loadMaps_triple (maps : List BpfMap) :
    Triple (Eq loader) (loadMaps maps) (fun _ ↦ Eq loader) (Refused loader) := by
  induction maps with
  | nil => exact .pure fun _ h ↦ h
  | cons map maps ih => exact .bind loadMap_triple fun _ ↦ ih

theorem loadObject_triple :
    Triple (Eq loader) (loadObject obj) (fun _ ↦ Eq loader) (Refused loader) :=
  .bind closeIf_triple fun _ ↦ .exitIf (fun _ _ h ↦ ⟨by decide, h⟩) fun _ _ h ↦ h

/-- The loader after a successful load. -/
def BpfLoader.loaded (loader : BpfLoader) (obj : BpfObject) (objName : String) : BpfLoader :=
  (obj.maps.foldl BpfLoader.addMap (obj.progs.foldl BpfLoader.addProg loader)).register obj objName

/-- How a load ends: without success, and nothing has changed, or with programs that are new. -/
def LoadEnds (loader : BpfLoader) (obj : BpfObject) (objName : String) (r : Option ℤ)
    (loader' : BpfLoader) : Prop :=
  Refused loader r loader' ∨
    (r = some kSuccess ∧ (∀ prog ∈ obj.progs, loader.progs prog.name = none) ∧
      loader' = loader.loaded obj objName)

theorem loadBpfObject_triple (obj : BpfObject) (objName : String) :
    Triple (Eq loader) (loadBpfObject obj objName) (LoadEnds loader obj objName)
      (LoadEnds loader obj objName) := by
  have hends {α : Type} {Q : α → BpfLoader → Prop} {prog : LoaderProg α}
      (h : Triple (Eq loader) prog Q (Refused loader)) :
      Triple (Eq loader) prog Q (LoadEnds loader obj objName) :=
    h.conseq (fun _ h ↦ h) (fun _ _ h ↦ h) fun _ _ h ↦ Or.inl h
  refine .read_bind_at ?_
  rintro s rfl
  refine .bind (hends closeIf_triple) fun _ ↦ .exitIf_bind (fun _ _ h ↦ Or.inl ⟨by decide, h⟩)
    fun hnew ↦ ?_
  refine .bind (hends (loadMaps_triple obj.maps)) fun _ ↦ .bind (hends loadObject_triple)
    fun _ ↦ ?_
  refine .bind (.modify (Q := fun _ s ↦ s = obj.progs.foldl BpfLoader.addProg loader)
    fun _ h ↦ h ▸ rfl) fun _ ↦ ?_
  refine .bind (.modify (Q := fun _ s ↦
    s = obj.maps.foldl BpfLoader.addMap (obj.progs.foldl BpfLoader.addProg loader))
    fun _ h ↦ h ▸ rfl) fun _ ↦ ?_
  refine .bind (.modify (Q := fun _ s ↦ s = loader.loaded obj objName) fun _ h ↦ h ▸ rfl)
    fun _ ↦ .pure fun _ h ↦ Or.inr ⟨rfl, fun prog hmem ↦ ?_, h⟩
  rw [← Option.not_isSome_iff_eq_none]
  exact fun hsome ↦ hnew ⟨prog, hmem, hsome⟩

theorem loadBpfObject_ends (loader : BpfLoader) (obj : BpfObject) (objName : String) :
    LoadEnds loader obj objName ((loadBpfObject obj objName).result loader).1
      ((loadBpfObject obj objName).result loader).2 :=
  (loadBpfObject_triple obj objName).result rfl

/-- A load changes a table only when it succeeds. -/
theorem loadBpfObject_atomic (loader : BpfLoader) (obj : BpfObject) (objName : String) :
    Atomic (loadBpfObject obj objName) loader := by
  intro r hr herror
  rcases loadBpfObject_ends loader obj objName with ⟨-, hsame⟩ | ⟨hsuccess, -⟩
  · rw [← hsame]
    exact ⟨rfl, rfl, rfl, rfl, rfl⟩
  · rw [hr] at hsuccess
    exact absurd (Option.some.inj hsuccess) herror

/-! ## Both -/

inductive LoaderCall where
  | load (obj : BpfObject) (objName : String)
  | reload (obj : BpfObject) (objName : String)

def LoaderCall.prog : LoaderCall → LoaderProg (Option ℤ)
  | .load obj objName => loadBpfObject obj objName
  | .reload obj objName => reloadBpfObject obj objName

/-- The condition under which a failure leaves nothing behind. -/
def LoaderCall.LeavesNothing (loader : BpfLoader) : LoaderCall → Prop
  | .load _ _ => True
  | .reload obj _ =>
    (∃ prog ∈ obj.progs, (loader.progs prog.name).isNone) ∨ loader.KeepsShared obj.maps ∨
      loader.Reloads obj

/-- A call of the loader that returns an error leaves the tables as they were if and only if it is
no reload that fails after one of its maps has become shared. -/
theorem loaderCall_atomic_iff (loader : BpfLoader) (call : LoaderCall) :
    Atomic call.prog loader ↔ call.LeavesNothing loader := by
  cases call with
  | load obj objName => exact iff_of_true (loadBpfObject_atomic loader obj objName) trivial
  | reload obj objName => exact reloadBpfObject_atomic_iff loader obj objName

/-! ## A reload that fails, and the load after it -/

def fdOf (fd : ℤ) (object : String) : ProgFd := ⟨fd, object⟩

/-- A map for which every call of libbpf succeeds. -/
def plainMap (name : String) (fd : ℤ) : BpfMap := ⟨name, true, true, fd⟩

def balancerObject : BpfObject where
  progs := [⟨"balancer_ingress", fdOf 3 "balancer.o"⟩]
  maps := [plainMap "vip_map" 4]
  load := true
  progType := true

/-- The loader with one object. -/
def loadedOnce : BpfLoader :=
  ((loadBpfObject balancerObject "balancer.o").result .new).2

/-- A new build of the balancer, which the kernel refuses. -/
def refusedObject : BpfObject :=
  { balancerObject with
    progs := [⟨"balancer_ingress", fdOf 5 "new.o"⟩]
    load := false }

/-- Another program with a map of the same name. -/
def otherObject : BpfObject where
  progs := [⟨"healthcheck_encap", fdOf 6 "other.o"⟩]
  maps := [plainMap "vip_map" 7]
  load := true
  progType := true

/-- The refused reload leaves `vip_map` shared. The load of the other object would have been refused
for the name of its map; now it succeeds, with the map of the balancer. -/
theorem refused_reload_not_atomic :
    ¬ Atomic (LoaderCall.reload refusedObject "new.o").prog loadedOnce ∧
      ((reloadBpfObject refusedObject "new.o").result loadedOnce).1 = some kError ∧
      loadedOnce.sharedMaps "vip_map" = none ∧
      ((reloadBpfObject refusedObject "new.o").result loadedOnce).2.sharedMaps "vip_map" =
        some 4 ∧
      ((loadBpfObject otherObject "other.o").result loadedOnce).1 = some kError ∧
      ((loadBpfObject otherObject "other.o").result
        ((reloadBpfObject refusedObject "new.o").result loadedOnce).2).1 = some kSuccess := by
  have hnone : loadedOnce.sharedMaps "vip_map" = none := by decide +kernel
  have hshared : ((reloadBpfObject refusedObject "new.o").result loadedOnce).2.sharedMaps
      "vip_map" = some 4 := by decide +kernel
  have herror : ((reloadBpfObject refusedObject "new.o").result loadedOnce).1 = some kError := by
    decide +kernel
  refine ⟨fun hatomic ↦ ?_, herror, hnone, hshared, by decide +kernel, by decide +kernel⟩
  have hsame := (hatomic kError herror (by decide)).sharedMaps
  have hnew := hshared.symm.trans (congrFun hsame "vip_map")
  rw [hnone] at hnew
  cases hnew

end Vsoshlb.Loader
