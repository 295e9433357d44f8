import Vsoshlb.Library.Runs
import Vsoshlb.Loader.Atomicity

/-!
# Swapping the balancer program

`VsoshlbLb` remembers the path of its balancer program and the features that it has discovered in
the maps of the loaded programs. `installFeature` and `removeFeature` load another program in the
place of the balancer. A program that cannot be loaded is followed by a reload of the old one; a
program that is loaded and has not the wanted feature stays.
-/

namespace Vsoshlb.Loader

open EarlyExit

def kBalancerProgName : String := "balancer_ingress"

def kHealthcheckerProgName : String := "healthcheck_encap"

structure VsoshlbFeatures where
  srcRouting : Bool
  inlineDecap : Bool
  introspection : Bool
  gueEncap : Bool
  directHealthchecking : Bool
  localDeliveryOptimization : Bool
  flowDebug : Bool
deriving DecidableEq, Repr

inductive VsoshlbFeatureEnum where
  | srcRouting
  | inlineDecap
  | introspection
  | gueEncap
  | directHealthchecking
  | localDeliveryOptimization
  | flowDebug
deriving DecidableEq, Repr

/-- `featureDiscovering`. -/
def featureDiscovering (loader : BpfLoader) (features : VsoshlbFeatures) : VsoshlbFeatures :=
  { features with
    srcRouting := loader.isMapInProg kBalancerProgName "lpm_src_v4"
    inlineDecap := loader.isMapInProg kBalancerProgName "decap_dst"
    introspection := loader.isMapInProg kBalancerProgName "event_pipe"
    gueEncap := loader.isMapInProg kBalancerProgName "pckt_srcs"
    directHealthchecking := loader.isMapInProg kHealthcheckerProgName "hc_pckt_srcs_map"
    flowDebug := loader.isMapInProg kBalancerProgName "flow_debug_maps" }

def VsoshlbFeatures.hasFeature (features : VsoshlbFeatures) : VsoshlbFeatureEnum → Bool
  | .localDeliveryOptimization => features.localDeliveryOptimization
  | .directHealthchecking => features.directHealthchecking
  | .gueEncap => features.gueEncap
  | .inlineDecap => features.inlineDecap
  | .introspection => features.introspection
  | .srcRouting => features.srcRouting
  | .flowDebug => features.flowDebug

/-! ## Object files -/

/-- The names of the programs and of the maps in an object file. What is in the file at a path stays
the same for a whole run; what libbpf answers can differ from call to call. -/
structure BpfFile where
  progs : List String
  maps : List String
deriving DecidableEq, Repr

/-- What libbpf answers while a file is opened and loaded. -/
structure Answers where
  opens : Bool
  progFd : ℕ → ℤ
  mapFd : ℕ → ℤ
  reuseFd : ℕ → Bool
  setInnerMapFd : ℕ → Bool
  load : Bool
  progType : Bool

/-- The object that `bpf_object__open` returns for a path. -/
def BpfFile.opened (file : BpfFile) (path : String) (answers : Answers) : BpfObject where
  progs := file.progs.mapIdx fun i name ↦ ⟨name, answers.progFd i, path⟩
  maps := file.maps.mapIdx fun i name ↦
    ⟨name, answers.reuseFd i, answers.setInnerMapFd i, answers.mapFd i⟩
  load := answers.load
  progType := answers.progType

section Files

variable (files : String → BpfFile)

/-- `loadBpfFile`. -/
def loadBpfFile (path : String) (answers : Answers) (loader : BpfLoader) : Option ℤ × BpfLoader :=
  if answers.opens = false then (some kError, loader)
  else (loadBpfObject ((files path).opened path answers) path).result loader

/-- `reloadBpfFromFile`. -/
def reloadBpfFromFile (path : String) (answers : Answers) (loader : BpfLoader) :
    Option ℤ × BpfLoader :=
  if answers.opens = false then (some kError, loader)
  else (reloadBpfObject ((files path).opened path answers) path).result loader

/-- `isMapInBpfObject`. -/
def isMapInBpfObject (path mapName : String) (opens : Bool) : Bool :=
  opens && decide (mapName ∈ (files path).maps)

end Files

/-! ## The balancer -/

/-- The entries of the configuration that the modelled calls read, and `standalone_`. -/
structure LbConfig where
  healthcheckingProgPath : String
  enableHc : Bool
  testing : Bool
  standalone : Bool
  useRootMap : Bool
  vsoshlbSrcV4 : String
  vsoshlbSrcV6 : String

/-- What the calls read and write of `VsoshlbLb`. -/
structure Lb where
  loader : BpfLoader
  balancerProgPath : String
  features : VsoshlbFeatures
  progsLoaded : Bool
  progsReloaded : Bool
  progsAttached : Bool
  introspectionStarted : Bool
  rootMapFd : ℤ

def Lb.new (balancerProgPath : String) : Lb where
  loader := .new
  balancerProgPath := balancerProgPath
  features := ⟨false, false, false, false, false, false, false⟩
  progsLoaded := false
  progsReloaded := false
  progsAttached := false
  introspectionStarted := false
  rootMapFd := -1

/-- The outcomes in a start of a program: the two openings of its file by `isMapInBpfObject`, and
the updates of BPF maps for the encapsulation and for the recirculation. -/
structure StartOutcome where
  flowDebugOpens : Bool
  globalLruOpens : Bool
  srcV4 : Bool
  srcV6 : Bool
  recirculation : Bool

structure ReloadOutcome where
  answers : Answers
  start : StartOutcome

structure AttachOutcome where
  modifyXdpProg : Bool
  pinnedFd : ℤ
  registerRoot : Bool
  addTcBpfFilter : Bool

/-- The outcomes in `loadBpfProgs`. `lrus` tells whether `initLrus` returns, and `maps` whether the
updates of BPF maps and `attachLrus` do, which come after the start. -/
structure LoadOutcome where
  balancer : Answers
  healthchecker : Answers
  start : StartOutcome
  lrus : Bool
  flowProtoFd : ℤ
  globalProtoFd : ℤ
  maps : Bool

/-- The outcomes in `installFeature` and `removeFeature`. -/
structure SwapOutcome where
  reload : ReloadOutcome
  revert : ReloadOutcome
  attach : AttachOutcome

variable (files : String → BpfFile) (config : LbConfig)

/-- The maps that `initialSanityChecking` asks for. -/
def requiredMaps (flowDebug globalLru : Bool) : List String :=
  ["ctl_array", "vip_map", "ch_rings", "reals", "stats", "lru_mapping", "server_id_map",
    "lru_miss_stats", "vip_miss_stats"] ++
  (if flowDebug then ["flow_debug_maps"] else []) ++
  (if globalLru then ["global_lru_maps"] else []) ++
  (if config.enableHc then ["hc_ctrl_map", "hc_reals_map", "hc_stats_map"] else [])

/-- `initialSanityChecking` does not throw. -/
def initialSanityChecking (flowDebug globalLru : Bool) (loader : BpfLoader) : Prop :=
  0 ≤ loader.getProgFdByName kBalancerProgName ∧
    (config.enableHc = true → 0 ≤ loader.getProgFdByName kHealthcheckerProgName) ∧
    ∀ map ∈ requiredMaps config flowDebug globalLru, 0 ≤ loader.getMapFdByName map

/-- `setupGueEnvironment` does not throw. -/
def setupGueEnvironment (o : StartOutcome) : Prop :=
  ¬ (config.vsoshlbSrcV4 = "" ∧ config.vsoshlbSrcV6 = "") ∧
    (config.vsoshlbSrcV4 ≠ "" → o.srcV4 = true) ∧ (config.vsoshlbSrcV6 ≠ "" → o.srcV6 = true)

instance (flowDebug globalLru : Bool) (loader : BpfLoader) :
    Decidable (initialSanityChecking config flowDebug globalLru loader) :=
  inferInstanceAs (Decidable (_ ∧ _ ∧ _))

instance (o : StartOutcome) : Decidable (setupGueEnvironment config o) :=
  inferInstanceAs (Decidable (_ ∧ _ ∧ _))

/-- What the discovered features need. An exception is no result. -/
def setupFeatures (o : StartOutcome) (lb : Lb) : Option Lb :=
  if lb.features.gueEncap = true ∧ ¬ setupGueEnvironment config o then none
  else if lb.features.inlineDecap = true ∧ o.recirculation = false then none
  else some lb

/-- The part that `loadBpfProgs` and `reloadBalancerProg` share: the checks, the features, and what
they need. -/
def startProgs (path : String) (o : StartOutcome) (lb : Lb) : Option Lb :=
  let flowDebugInProg := isMapInBpfObject files path "flow_debug_maps" o.flowDebugOpens
  let globalLruInProg := isMapInBpfObject files path "global_lru_maps" o.globalLruOpens
  if initialSanityChecking config flowDebugInProg globalLruInProg lb.loader then
    setupFeatures config o { lb with features := featureDiscovering lb.loader lb.features }
  else
    none

/-- The prototypes of the maps in maps. -/
def setPrototypes (path : String) (o : LoadOutcome) (loader : BpfLoader) : Option BpfLoader :=
  let flowDebugInProg := isMapInBpfObject files path "flow_debug_maps" o.start.flowDebugOpens
  let globalLruInProg := isMapInBpfObject files path "global_lru_maps" o.start.globalLruOpens
  if (flowDebugInProg = true ∧ o.flowProtoFd < 0) ∨ (globalLruInProg = true ∧ o.globalProtoFd < 0)
  then none
  else
    let loader := if flowDebugInProg then
      (loader.setInnerMapPrototype "flow_debug_maps" o.flowProtoFd).2 else loader
    some (if globalLruInProg then
      (loader.setInnerMapPrototype "global_lru_maps" o.globalProtoFd).2 else loader)

/-- The files that `loadBpfProgs` loads. -/
def loadFiles (path : String) (o : LoadOutcome) (loader : BpfLoader) : Option BpfLoader := do
  let loader ← setPrototypes files path o loader
  let balancer := loadBpfFile files path o.balancer loader
  guard (balancer.1 = some kSuccess)
  if config.enableHc then
    let healthchecker :=
      loadBpfFile files config.healthcheckingProgPath o.healthchecker balancer.2
    guard (healthchecker.1 = some kSuccess)
    return healthchecker.2
  else
    return balancer.2

/-- `loadBpfProgs`. -/
def loadBpfProgs (o : LoadOutcome) (lb : Lb) : Option Lb := do
  guard (o.lrus = true)
  let loader ← loadFiles files config lb.balancerProgPath o lb.loader
  let lb ← startProgs files config lb.balancerProgPath o.start { lb with loader := loader }
  guard (o.maps = true)
  return { lb with
    progsLoaded := true
    introspectionStarted := lb.introspectionStarted || lb.features.introspection }

/-- `reloadBalancerProg`. -/
def reloadBalancerProg (path : String) (o : ReloadOutcome) (lb : Lb) : Option (Bool × Lb) := do
  let (res, loader) := reloadBpfFromFile files path o.answers lb.loader
  let res ← res
  if res ≠ kSuccess then
    return (false, { lb with loader := loader })
  else
    let lb ← startProgs files config path o.start
      { lb with
        loader := loader
        balancerProgPath := path }
    return (true, { lb with
      introspectionStarted := lb.introspectionStarted || lb.features.introspection
      progsReloaded := true })

/-- The attachment of the main program: to the interface, or in the root map. -/
def attachMainProg (o : AttachOutcome) (lb : Lb) : Option Lb :=
  if config.standalone then
    if o.modifyXdpProg then some lb else none
  else if config.useRootMap then
    if 0 ≤ o.pinnedFd ∧ o.registerRoot = true then some { lb with rootMapFd := o.pinnedFd }
    else none
  else
    some lb

/-- `attachBpfProgs`. -/
def attachBpfProgs (o : AttachOutcome) (lb : Lb) : Option Lb := do
  guard (lb.progsLoaded = true)
  let lb ← attachMainProg config o lb
  guard (config.enableHc = true ∧ lb.progsReloaded = false → o.addTcBpfFilter = true)
  return { lb with progsAttached := true }

/-- The swap in `installFeature` and `removeFeature`: the program at the path, or the old one again
where it cannot be loaded. -/
def swapProg (progPath : String) (o : SwapOutcome) (lb : Lb) : Option (Bool × Lb) := do
  let originalBalancerProg := lb.balancerProgPath
  let (reloaded, lb) ← reloadBalancerProg files config progPath o.reload lb
  if reloaded = false then
    let (_, lb) ← reloadBalancerProg files config originalBalancerProg o.revert lb
    return (false, lb)
  else if config.testing then
    return (true, lb)
  else
    let lb ← attachBpfProgs config o.attach lb
    return (true, lb)

/-- `installFeature`. -/
def installFeature (feature : VsoshlbFeatureEnum) (progPath : String) (o : SwapOutcome) (lb : Lb) :
    Option (Bool × Lb) :=
  if lb.features.hasFeature feature then
    some (true, lb)
  else if progPath = "" then
    some (false, lb)
  else
    (swapProg files config progPath o lb).map fun (reloaded, lb) ↦
      (reloaded && lb.features.hasFeature feature, lb)

/-- `removeFeature`. -/
def removeFeature (feature : VsoshlbFeatureEnum) (progPath : String) (o : SwapOutcome) (lb : Lb) :
    Option (Bool × Lb) :=
  if lb.features.hasFeature feature = false then
    some (true, lb)
  else if progPath = "" then
    some (false, lb)
  else
    (swapProg files config progPath o lb).map fun (reloaded, lb) ↦
      (reloaded && !lb.features.hasFeature feature, lb)

/-! ## Runs -/

inductive LbCall where
  | loadBpfProgs (o : LoadOutcome)
  | reloadBalancerProg (path : String) (o : ReloadOutcome)
  | attachBpfProgs (o : AttachOutcome)
  | installFeature (feature : VsoshlbFeatureEnum) (progPath : String) (o : SwapOutcome)
  | removeFeature (feature : VsoshlbFeatureEnum) (progPath : String) (o : SwapOutcome)

/-- A call with its reply. Those that return nothing reply true. -/
def LbCall.run (lb : Lb) : LbCall → Option (Bool × Lb)
  | .loadBpfProgs o => (Loader.loadBpfProgs files config o lb).map fun lb ↦ (true, lb)
  | .reloadBalancerProg path o => Loader.reloadBalancerProg files config path o lb
  | .attachBpfProgs o => (Loader.attachBpfProgs config o lb).map fun lb ↦ (true, lb)
  | .installFeature feature progPath o => Loader.installFeature files config feature progPath o lb
  | .removeFeature feature progPath o => Loader.removeFeature files config feature progPath o lb

def lbStep (lb : Lb) (call : LbCall) : Option Lb := (call.run files config lb).map Prod.snd

/-- The object file and the maps of the loaded balancer program. -/
def Lb.loadedProgram (lb : Lb) : Option String × Option (Finset String) :=
  ((lb.loader.progs kBalancerProgName).map ProgFd.object, lb.loader.currentMaps kBalancerProgName)

/-- The program, its remembered path and the features are the same. -/
structure Unchanged (lb lb' : Lb) : Prop where
  program : lb'.loadedProgram = lb.loadedProgram
  path : lb'.balancerProgPath = lb.balancerProgPath
  features : lb'.features = lb.features

theorem Unchanged.refl (lb : Lb) : Unchanged lb lb := ⟨rfl, rfl, rfl⟩

theorem Unchanged.trans {lb lb' lb'' : Lb} (h : Unchanged lb lb') (h' : Unchanged lb' lb'') :
    Unchanged lb lb'' :=
  ⟨h'.program.trans h.program, h'.path.trans h.path, h'.features.trans h.features⟩

/-- A call that replies false changes nothing, and one that replies true has its effect on the
feature. -/
def SwapsWholly (lb : Lb) (call : LbCall) : Prop :=
  ∀ reply lb', call.run files config lb = some (reply, lb') →
    match call with
    | .installFeature feature _ _ =>
      (reply = false → Unchanged lb lb') ∧ (reply = true → lb'.features.hasFeature feature = true)
    | .removeFeature feature _ _ =>
      (reply = false → Unchanged lb lb') ∧ (reply = true → lb'.features.hasFeature feature = false)
    | _ => True

/-- The features are those that are discovered in the loaded programs. -/
def Lb.Discovered (lb : Lb) : Prop := lb.features = featureDiscovering lb.loader lb.features

variable {files config}

/-! ## What a load and a reload do to the tables -/

section Tables

variable {loader loader' : BpfLoader} {file : BpfFile} {path progName : String} {answers : Answers}

theorem map_mapIdx_name {α : Type} (name : α → String) (make : ℕ → String → α)
    (h : ∀ i n, name (make i n) = n) (names : List String) :
    (names.mapIdx make).map name = names := by
  apply List.ext_getElem?
  intro i
  simp [Function.comp_def, h]

theorem opened_progNames : (file.opened path answers).progNames = file.progs :=
  map_mapIdx_name _ _ (fun _ _ ↦ rfl) file.progs

theorem opened_mapNames : (file.opened path answers).mapNames = file.maps.toFinset :=
  congrArg List.toFinset (map_mapIdx_name _ _ (fun _ _ ↦ rfl) file.maps)

theorem opened_object {prog : BpfProgram} (h : prog ∈ (file.opened path answers).progs) :
    prog.fd.object = path := by
  obtain ⟨i, hi, rfl⟩ := List.mem_mapIdx.mp h
  rfl

/-- The programs of the file are those loaded from it, with its maps. Every other program is as
before. -/
structure Replaces (file : BpfFile) (path : String) (loader loader' : BpfLoader) : Prop where
  progs : ∀ progName, (loader'.progs progName).map ProgFd.object =
    if progName ∈ file.progs then some path else (loader.progs progName).map ProgFd.object
  currentMaps : ∀ progName, loader'.currentMaps progName =
    if progName ∈ file.progs then some file.maps.toFinset else loader.currentMaps progName

theorem foldl_addProg_object (progs : List BpfProgram) (loader : BpfLoader)
    (hpath : ∀ prog ∈ progs, prog.fd.object = path) :
    ((progs.foldl BpfLoader.addProg loader).progs progName).map ProgFd.object =
      if progName ∈ progs.map BpfProgram.name then some path
      else (loader.progs progName).map ProgFd.object := by
  induction progs generalizing loader with
  | nil => simp
  | cons prog progs ih =>
    rw [List.foldl_cons, ih (loader.addProg prog) fun p hp ↦ hpath p (List.mem_cons_of_mem _ hp)]
    simp only [List.map_cons, List.mem_cons]
    by_cases hlater : progName ∈ progs.map BpfProgram.name
    · rw [if_pos hlater, if_pos (Or.inr hlater)]
    · rw [if_neg hlater]
      by_cases heq : progName = prog.name
      · rw [if_pos (Or.inl heq), BpfLoader.addProg_progs, heq, Function.update_self,
          Option.map_some, hpath prog List.mem_cons_self]
      · rw [if_neg (not_or.mpr ⟨heq, hlater⟩), BpfLoader.addProg_progs, Function.update_of_ne heq]

theorem foldl_addProg_currentMaps (progs : List BpfProgram) (loader : BpfLoader) :
    (progs.foldl BpfLoader.addProg loader).currentMaps = loader.currentMaps :=
  Runs.foldl_invariant (fun l : BpfLoader ↦ l.currentMaps = loader.currentMaps) rfl progs
    fun _ _ h ↦ h

/-- Adding maps changes nothing about programs. -/
theorem foldl_addMap_progs {add : BpfLoader → BpfMap → BpfLoader}
    (hadd : ∀ l map, (add l map).progs = l.progs ∧ (add l map).currentMaps = l.currentMaps)
    (maps : List BpfMap) (loader : BpfLoader) :
    (maps.foldl add loader).progs = loader.progs ∧
      (maps.foldl add loader).currentMaps = loader.currentMaps :=
  Runs.foldl_invariant
    (fun l : BpfLoader ↦ l.progs = loader.progs ∧ l.currentMaps = loader.currentMaps) ⟨rfl, rfl⟩
    maps fun l map h ↦ ⟨(hadd l map).1.trans h.1, (hadd l map).2.trans h.2⟩

/-- The programs of an opened file, registered with its maps. -/
theorem register_replaces {add : BpfLoader → BpfMap → BpfLoader}
    (hadd : ∀ l map, (add l map).progs = l.progs ∧ (add l map).currentMaps = l.currentMaps)
    (hprogs : loader'.progs = loader.progs) (hmaps : loader'.currentMaps = loader.currentMaps) :
    Replaces file path loader
      (((file.opened path answers).maps.foldl add
        ((file.opened path answers).progs.foldl BpfLoader.addProg loader')).register
          (file.opened path answers) path) := by
  obtain ⟨hkeptProgs, hkeptMaps⟩ := foldl_addMap_progs hadd (file.opened path answers).maps
    ((file.opened path answers).progs.foldl BpfLoader.addProg loader')
  constructor
  · intro progName
    rw [BpfLoader.register, hkeptProgs,
      foldl_addProg_object (file.opened path answers).progs loader' fun prog ↦ opened_object,
      hprogs, ← BpfObject.progNames, opened_progNames]
  · intro progName
    rw [BpfLoader.register, hkeptMaps, foldl_addProg_currentMaps, hmaps, opened_progNames,
      opened_mapNames]

theorem addNewMap_progs (loader : BpfLoader) (map : BpfMap) :
    (loader.addNewMap map).progs = loader.progs ∧
      (loader.addNewMap map).currentMaps = loader.currentMaps := by
  unfold BpfLoader.addNewMap
  split_ifs
  · exact ⟨rfl, rfl⟩
  · exact ⟨rfl, rfl⟩

/-- libbpf opens the file at the path, and the loader takes it for a reload. -/
def Loads (files : String → BpfFile) (path : String) (answers : Answers) (loader : BpfLoader) :
    Prop :=
  answers.opens = true ∧ loader.Reloads ((files path).opened path answers)

/-- How a reload ends: without success, and at most the shared maps have grown, or with the programs
of the file in the place of loaded ones. -/
theorem reloadBpfFromFile_cases {r : ℤ}
    (h : reloadBpfFromFile files path answers loader = (some r, loader')) :
    (r ≠ kSuccess ∧ SharesMore loader loader' ∧ ¬ Loads files path answers loader) ∨
      (r = kSuccess ∧ Replaces (files path) path loader loader' ∧
        (∀ progName ∈ (files path).progs, (loader.progs progName).isSome) ∧
        Loads files path answers loader) := by
  have herror : kError ≠ kSuccess := by decide
  unfold reloadBpfFromFile at h
  by_cases hopens : answers.opens = false
  · rw [if_pos hopens] at h
    obtain ⟨hr, rfl⟩ := Prod.mk.inj h
    obtain rfl := Option.some.inj hr
    exact Or.inl ⟨herror, .refl loader, fun hloads ↦ by cases hopens.symm.trans hloads.1⟩
  rw [if_neg hopens, reloadBpfObject_result] at h
  by_cases hmissing : ∃ prog ∈ ((files path).opened path answers).progs,
      (loader.progs prog.name).isNone
  · rw [if_pos hmissing] at h
    obtain ⟨hr, rfl⟩ := Prod.mk.inj h
    obtain rfl := Option.some.inj hr
    refine Or.inl ⟨herror, .refl loader, fun hloads ↦ ?_⟩
    obtain ⟨prog, hmem, hnone⟩ := hmissing
    have hsome := hloads.2.1 prog hmem
    rw [Option.isNone_iff_eq_none.mp hnone] at hsome
    cases hsome
  rw [if_neg hmissing] at h
  by_cases hfails : (∃ map ∈ ((files path).opened path answers).maps, loader.FailsAt map) ∨
      ((files path).opened path answers).load = false
  · rw [if_pos hfails] at h
    obtain ⟨hr, rfl⟩ := Prod.mk.inj h
    obtain rfl := Option.some.inj hr
    refine Or.inl ⟨herror, reloadMaps_sharesMore _ _, fun hloads ↦ ?_⟩
    rcases hfails with ⟨map, hmem, hmap⟩ | hload
    · exact hloads.2.2.1 map hmem hmap
    · rw [hloads.2.2.2] at hload
      cases hload
  rw [if_neg hfails] at h
  by_cases htype : ((files path).opened path answers).progType = false
  · rw [if_pos htype] at h
    cases (Prod.mk.inj h).1
  · rw [if_neg htype] at h
    obtain ⟨hr, rfl⟩ := Prod.mk.inj h
    obtain rfl := Option.some.inj hr
    have hshares := reloadMaps_sharesMore loader ((files path).opened path answers).maps
    have hreloads := reloads_of_not hmissing hfails
    refine Or.inr ⟨rfl, register_replaces addNewMap_progs hshares.progs hshares.currentMaps,
      fun progName hmem ↦ ?_, Bool.eq_true_of_not_eq_false hopens, hreloads⟩
    rw [← (opened_progNames : ((files path).opened path answers).progNames = _)] at hmem
    obtain ⟨prog, hprog, rfl⟩ := List.mem_map.mp hmem
    exact hreloads.1 prog hprog

/-- A load that succeeds: the programs of the file are new. -/
theorem loadBpfFile_cases
    (h : loadBpfFile files path answers loader = (some kSuccess, loader')) :
    Replaces (files path) path loader loader' ∧
      ∀ progName ∈ (files path).progs, loader.progs progName = none := by
  unfold loadBpfFile at h
  split_ifs at h with hopens
  · cases (Prod.mk.inj h).1
  · have hends := loadBpfObject_ends loader ((files path).opened path answers) path
    rw [h] at hends
    rcases hends with ⟨hrefused, -⟩ | ⟨-, hnew, rfl⟩
    · exact absurd rfl hrefused
    · refine ⟨register_replaces (fun _ _ ↦ ⟨rfl, rfl⟩) rfl rfl, fun progName hmem ↦ ?_⟩
      rw [← (opened_progNames : ((files path).opened path answers).progNames = _)] at hmem
      obtain ⟨prog, hprog, rfl⟩ := List.mem_map.mp hmem
      exact hnew prog hprog

end Tables

/-! ## The calls -/

variable {lb lb' : Lb} {path : String}

theorem setupFeatures_eq {o : StartOutcome} (h : setupFeatures config o lb = some lb') :
    lb' = lb := by
  unfold setupFeatures at h
  split_ifs at h
  exact (Option.some.inj h).symm

theorem startProgs_eq {o : StartOutcome} (h : startProgs files config path o lb = some lb') :
    lb' = { lb with features := featureDiscovering lb.loader lb.features } := by
  unfold startProgs at h
  simp only at h
  split_ifs at h
  exact setupFeatures_eq h

/-- A reload of the balancer fails and leaves the old program, or has the new one. -/
theorem reloadBalancerProg_cases {o : ReloadOutcome} {reloaded : Bool}
    (h : reloadBalancerProg files config path o lb = some (reloaded, lb')) :
    (reloaded = false ∧ SharesMore lb.loader lb'.loader ∧
      lb'.balancerProgPath = lb.balancerProgPath ∧ lb'.features = lb.features ∧
      ¬ Loads files path o.answers lb.loader) ∨
    (reloaded = true ∧ Replaces (files path) path lb.loader lb'.loader ∧
      (∀ progName ∈ (files path).progs, (lb.loader.progs progName).isSome) ∧
      lb'.balancerProgPath = path ∧
      lb'.features = featureDiscovering lb'.loader lb.features ∧
      Loads files path o.answers lb.loader) := by
  unfold reloadBalancerProg at h
  cases hreload : reloadBpfFromFile files path o.answers lb.loader with
  | mk res loader =>
    rw [hreload] at h
    simp only [Option.bind_eq_bind, Option.bind_eq_some_iff] at h
    obtain ⟨r, rfl, h⟩ := h
    rcases reloadBpfFromFile_cases hreload with
      ⟨hr, hshares, hnot⟩ | ⟨hr, hreplaces, hloaded, hloads⟩
    · rw [if_pos hr] at h
      obtain ⟨rfl, rfl⟩ := Prod.mk.inj (Option.some.inj h)
      exact Or.inl ⟨rfl, hshares, rfl, rfl, hnot⟩
    · rw [if_neg (not_not_intro hr)] at h
      obtain ⟨started, hstart, h⟩ := Option.bind_eq_some_iff.mp h
      obtain ⟨rfl, rfl⟩ := Prod.mk.inj (Option.some.inj h)
      rw [startProgs_eq hstart]
      exact Or.inr ⟨rfl, hreplaces, hloaded, rfl, rfl, hloads⟩

theorem attachMainProg_eq {o : AttachOutcome} (h : attachMainProg config o lb = some lb') :
    lb' = { lb with rootMapFd := lb'.rootMapFd } := by
  unfold attachMainProg at h
  split_ifs at h
  · exact Option.some.inj h ▸ rfl
  · exact Option.some.inj h ▸ rfl
  · exact Option.some.inj h ▸ rfl

theorem attachBpfProgs_eq {o : AttachOutcome} (h : attachBpfProgs config o lb = some lb') :
    lb'.loader = lb.loader ∧ lb'.balancerProgPath = lb.balancerProgPath ∧
      lb'.features = lb.features := by
  unfold attachBpfProgs at h
  simp only [Option.bind_eq_bind, Option.bind_eq_some_iff] at h
  obtain ⟨-, -, attached, hattached, -, -, h⟩ := h
  obtain rfl := Option.some.inj h
  rw [attachMainProg_eq hattached]
  exact ⟨rfl, rfl, rfl⟩

/-! ## What every call keeps -/

/-- The features are the discovered ones, and the loaded programs that the balancer's file has are
from that file. -/
structure Current (files : String → BpfFile) (lb : Lb) : Prop where
  discovered : lb.Discovered
  object : ∀ progName ∈ (files lb.balancerProgPath).progs, (lb.loader.progs progName).isSome →
    (lb.loader.progs progName).map ProgFd.object = some lb.balancerProgPath
  maps : ∀ progName ∈ (files lb.balancerProgPath).progs, (lb.loader.progs progName).isSome →
    lb.loader.currentMaps progName = some (files lb.balancerProgPath).maps.toFinset

theorem isMapInProg_congr {loader loader' : BpfLoader}
    (h : loader'.currentMaps = loader.currentMaps) (progName name : String) :
    loader'.isMapInProg progName name = loader.isMapInProg progName name := by
  simp only [BpfLoader.isMapInProg, h]

theorem featureDiscovering_congr {loader loader' : BpfLoader}
    (h : loader'.currentMaps = loader.currentMaps) (features : VsoshlbFeatures) :
    featureDiscovering loader' features = featureDiscovering loader features := by
  simp only [featureDiscovering, isMapInProg_congr h]

theorem new_current (path : String) : Current files (.new path) where
  discovered := rfl
  object _ _ h := by cases h
  maps _ _ h := by cases h

/-- A loader whose shared maps alone have grown. -/
theorem Current.of_sharesMore (h : Current files lb) (hshares : SharesMore lb.loader lb'.loader)
    (hpath : lb'.balancerProgPath = lb.balancerProgPath) (hfeatures : lb'.features = lb.features) :
    Current files lb' ∧ Unchanged lb lb' := by
  refine ⟨⟨?_, ?_, ?_⟩, ?_, hpath, hfeatures⟩
  · rw [Lb.Discovered, hfeatures, featureDiscovering_congr hshares.currentMaps]
    exact h.discovered
  · rw [hpath, hshares.progs]
    exact h.object
  · rw [hpath, hshares.progs, hshares.currentMaps]
    exact h.maps
  · rw [Lb.loadedProgram, hshares.progs, hshares.currentMaps]
    rfl

theorem Replaces.current (h : Replaces (files path) path lb.loader lb'.loader)
    (hpath : lb'.balancerProgPath = path)
    (hfeatures : lb'.features = featureDiscovering lb'.loader lb.features) : Current files lb' where
  discovered := by
    rw [Lb.Discovered, hfeatures]
    rfl
  object progName hmem _ := by
    rw [hpath] at hmem ⊢
    rw [h.progs, if_pos hmem]
  maps progName hmem _ := by
    rw [hpath] at hmem ⊢
    rw [h.currentMaps, if_pos hmem]

/-- The program that is there, loaded again. -/
theorem Current.of_replaces (h : Current files lb)
    (hreplaces : Replaces (files lb.balancerProgPath) lb.balancerProgPath lb.loader lb'.loader)
    (hloaded : ∀ progName ∈ (files lb.balancerProgPath).progs,
      (lb.loader.progs progName).isSome)
    (hpath : lb'.balancerProgPath = lb.balancerProgPath)
    (hfeatures : lb'.features = featureDiscovering lb'.loader lb.features) : Unchanged lb lb' := by
  have hobject : ∀ progName, (lb'.loader.progs progName).map ProgFd.object =
      (lb.loader.progs progName).map ProgFd.object := by
    intro progName
    rw [hreplaces.progs]
    split_ifs with hmem
    · exact (h.object progName hmem (hloaded progName hmem)).symm
    · rfl
  have hmaps : lb'.loader.currentMaps = lb.loader.currentMaps := by
    funext progName
    rw [hreplaces.currentMaps]
    split_ifs with hmem
    · exact (h.maps progName hmem (hloaded progName hmem)).symm
    · rfl
  refine ⟨?_, hpath, ?_⟩
  · rw [Lb.loadedProgram, Lb.loadedProgram, hobject, hmaps]
  · rw [hfeatures, featureDiscovering_congr hmaps]
    exact h.discovered.symm

/-! ## A swap -/

/-- The program and the map in which a feature is discovered. -/
def VsoshlbFeatureEnum.source : VsoshlbFeatureEnum → Option (String × String)
  | .srcRouting => some (kBalancerProgName, "lpm_src_v4")
  | .inlineDecap => some (kBalancerProgName, "decap_dst")
  | .introspection => some (kBalancerProgName, "event_pipe")
  | .gueEncap => some (kBalancerProgName, "pckt_srcs")
  | .directHealthchecking => some (kHealthcheckerProgName, "hc_pckt_srcs_map")
  | .localDeliveryOptimization => none
  | .flowDebug => some (kBalancerProgName, "flow_debug_maps")

/-- The file has the program of the feature, and its map. -/
def BpfFile.Carries (file : BpfFile) (feature : VsoshlbFeatureEnum) : Prop :=
  ∃ source, feature.source = some source ∧ source.1 ∈ file.progs ∧ source.2 ∈ file.maps

/-- The file has the program of the feature without its map. -/
def BpfFile.Misses (file : BpfFile) (feature : VsoshlbFeatureEnum) : Prop :=
  ∃ source, feature.source = some source ∧ source.1 ∈ file.progs ∧ source.2 ∉ file.maps

theorem hasFeature_discovering (loader : BpfLoader) (features : VsoshlbFeatures)
    (feature : VsoshlbFeatureEnum) :
    (featureDiscovering loader features).hasFeature feature =
      match feature.source with
      | some source => loader.isMapInProg source.1 source.2
      | none => features.hasFeature feature := by
  cases feature <;> rfl

theorem Replaces.isMapInProg {loader loader' : BpfLoader} {file : BpfFile}
    (h : Replaces file path loader loader') (progName name : String) :
    loader'.isMapInProg progName name =
      if progName ∈ file.progs then decide (name ∈ file.maps)
      else loader.isMapInProg progName name := by
  rw [BpfLoader.isMapInProg, h.currentMaps]
  split_ifs
  · simp
  · rfl

/-- The features after a reload: those of the new program, and the old ones of other programs. -/
theorem Replaces.hasFeature_iff (h : Replaces (files path) path lb.loader lb'.loader)
    (hdiscovered : lb.Discovered)
    (hfeatures : lb'.features = featureDiscovering lb'.loader lb.features)
    (feature : VsoshlbFeatureEnum) :
    lb'.features.hasFeature feature = true ↔
      (files path).Carries feature ∨
        (lb.features.hasFeature feature = true ∧ ¬ (files path).Misses feature) := by
  rw [hfeatures, hasFeature_discovering]
  rw [Lb.Discovered] at hdiscovered
  have hold := congrArg (fun features ↦ features.hasFeature feature) hdiscovered
  simp only [hasFeature_discovering] at hold
  unfold BpfFile.Carries BpfFile.Misses
  cases hsource : feature.source with
  | none => simp
  | some source =>
    rw [hsource] at hold
    simp only [hold, h.isMapInProg, Option.some.injEq, exists_eq_left']
    split_ifs with hprog
    · simp only [decide_eq_true_eq, hprog, true_and, not_not]
      exact ⟨Or.inl, fun h ↦ h.elim id And.right⟩
    · simp [hprog]

/-- A swap ends with the old program, unchanged, or with the new one. -/
theorem swapProg_cases {o : SwapOutcome} {reloaded : Bool} (hcurrent : Current files lb)
    (h : swapProg files config path o lb = some (reloaded, lb')) :
    Current files lb' ∧
      ((reloaded = false ∧ Unchanged lb lb' ∧ ¬ Loads files path o.reload.answers lb.loader) ∨
        (reloaded = true ∧ Loads files path o.reload.answers lb.loader ∧
          Replaces (files path) path lb.loader lb'.loader ∧
          (∀ progName ∈ (files path).progs, (lb.loader.progs progName).isSome) ∧
          lb'.balancerProgPath = path ∧
          lb'.features = featureDiscovering lb'.loader lb.features)) := by
  unfold swapProg at h
  obtain ⟨⟨first, lb₁⟩, hfirst, h⟩ := Option.bind_eq_some_iff.mp h
  rcases reloadBalancerProg_cases hfirst with
    ⟨rfl, hshares, hpath, hfeatures, hnot⟩ | ⟨rfl, hreplaces, hloaded, hpath, hfeatures, hloads⟩
  · obtain ⟨hcurrent₁, hsame₁⟩ := hcurrent.of_sharesMore hshares hpath hfeatures
    dsimp only at h
    rw [if_pos rfl] at h
    obtain ⟨⟨second, lb₂⟩, hsecond, h⟩ := Option.bind_eq_some_iff.mp h
    obtain ⟨rfl, rfl⟩ := Prod.mk.inj (Option.some.inj h)
    rw [← hpath] at hsecond
    rcases reloadBalancerProg_cases hsecond with
      ⟨-, hshares₂, hpath₂, hfeatures₂, -⟩ | ⟨-, hreplaces₂, hloaded₂, hpath₂, hfeatures₂, -⟩
    · obtain ⟨hcurrent₂, hsame₂⟩ := hcurrent₁.of_sharesMore hshares₂ hpath₂ hfeatures₂
      exact ⟨hcurrent₂, Or.inl ⟨rfl, hsame₁.trans hsame₂, hnot⟩⟩
    · have hsame₂ := hcurrent₁.of_replaces hreplaces₂ hloaded₂ hpath₂ hfeatures₂
      exact ⟨hreplaces₂.current hpath₂ hfeatures₂, Or.inl ⟨rfl, hsame₁.trans hsame₂, hnot⟩⟩
  · have hcurrent₁ := hreplaces.current hpath hfeatures
    dsimp only at h
    rw [if_neg Bool.true_eq_false.mp] at h
    split_ifs at h
    · obtain ⟨rfl, rfl⟩ := Prod.mk.inj (Option.some.inj h)
      exact ⟨hcurrent₁, Or.inr ⟨rfl, hloads, hreplaces, hloaded, hpath, hfeatures⟩⟩
    · obtain ⟨lb₂, hattach, h⟩ := Option.bind_eq_some_iff.mp h
      obtain ⟨rfl, rfl⟩ := Prod.mk.inj (Option.some.inj h)
      obtain ⟨hloader, hpath₂, hfeatures₂⟩ := attachBpfProgs_eq hattach
      rw [← hloader] at hreplaces hfeatures
      have hpath' := hpath₂.trans hpath
      have hfeatures' := hfeatures₂.trans hfeatures
      exact ⟨hreplaces.current hpath' hfeatures',
        Or.inr ⟨rfl, hloads, hreplaces, hloaded, hpath', hfeatures'⟩⟩

/-! ## Every run -/

/-- The condition under which an installation or a removal is all or nothing: the program at the
path is not loaded, is the one that is there, or brings about what is asked for. -/
def MeetsRequest (files : String → BpfFile) (lb : Lb) : LbCall → Prop
  | .installFeature feature progPath o =>
    lb.features.hasFeature feature = true ∨ progPath = "" ∨ progPath = lb.balancerProgPath ∨
      (files progPath).Carries feature ∨ ¬ Loads files progPath o.reload.answers lb.loader
  | .removeFeature feature progPath o =>
    lb.features.hasFeature feature = false ∨ progPath = "" ∨ progPath = lb.balancerProgPath ∨
      (files progPath).Misses feature ∨ ¬ Loads files progPath o.reload.answers lb.loader
  | _ => True

/-- The balancer's programs are those of its file. The health checker adds others. -/
theorem loadFiles_cases {loader loader' : BpfLoader} {o : LoadOutcome}
    (h : loadFiles files config path o loader = some loader') :
    ∀ progName ∈ (files path).progs, (loader'.progs progName).map ProgFd.object = some path ∧
      loader'.currentMaps progName = some (files path).maps.toFinset := by
  unfold loadFiles at h
  simp only [Option.bind_eq_bind, Option.bind_eq_some_iff] at h
  obtain ⟨loader₁, -, u, hbalancer, h⟩ := h
  have hsuccess : (loadBpfFile files path o.balancer loader₁).1 = some kSuccess :=
    (Option.guard_eq_some' u).mp hbalancer
  obtain ⟨hreplaces, -⟩ := loadBpfFile_cases (Prod.ext hsuccess rfl)
  have hloaded : ∀ progName ∈ (files path).progs,
      ((loadBpfFile files path o.balancer loader₁).2.progs progName).map ProgFd.object =
        some path := by
    intro progName hmem
    rw [hreplaces.progs, if_pos hmem]
  split_ifs at h
  · obtain ⟨u, hhealth, h⟩ := Option.bind_eq_some_iff.mp h
    obtain rfl := Option.some.inj h
    obtain ⟨hreplaces', hnew⟩ := loadBpfFile_cases
      (Prod.ext ((Option.guard_eq_some' u).mp hhealth) rfl)
    intro progName hmem
    have hother : progName ∉ (files config.healthcheckingProgPath).progs := by
      intro hhc
      have hnone := hloaded progName hmem
      rw [hnew progName hhc] at hnone
      cases hnone
    rw [hreplaces'.progs, if_neg hother, hreplaces'.currentMaps, if_neg hother,
      hreplaces.currentMaps, if_pos hmem]
    exact ⟨hloaded progName hmem, rfl⟩
  · obtain rfl := Option.some.inj h
    intro progName hmem
    rw [hreplaces.currentMaps, if_pos hmem]
    exact ⟨hloaded progName hmem, rfl⟩

theorem loadBpfProgs_current {o : LoadOutcome} (hrun : loadBpfProgs files config o lb = some lb') :
    Current files lb' := by
  unfold loadBpfProgs at hrun
  simp only [Option.bind_eq_bind, Option.bind_eq_some_iff] at hrun
  obtain ⟨-, -, loader, hfiles, started, hstart, -, -, h⟩ := hrun
  obtain rfl := Option.some.inj h
  have hloaded := loadFiles_cases hfiles
  rw [startProgs_eq hstart]
  exact ⟨rfl, fun progName hmem _ ↦ (hloaded progName hmem).1,
    fun progName hmem _ ↦ (hloaded progName hmem).2⟩

theorem run_current {call : LbCall} {reply : Bool} (h : Current files lb)
    (hrun : call.run files config lb = some (reply, lb')) : Current files lb' := by
  cases call with
  | loadBpfProgs o =>
    obtain ⟨loaded, hloaded, heq⟩ := Option.map_eq_some_iff.mp hrun
    obtain ⟨-, rfl⟩ := Prod.mk.inj heq
    exact loadBpfProgs_current hloaded
  | reloadBalancerProg path o =>
    rcases reloadBalancerProg_cases hrun with
      ⟨-, hshares, hpath, hfeatures, -⟩ | ⟨-, hreplaces, -, hpath, hfeatures, -⟩
    · exact (h.of_sharesMore hshares hpath hfeatures).1
    · exact hreplaces.current hpath hfeatures
  | attachBpfProgs o =>
    obtain ⟨attached, hattached, heq⟩ := Option.map_eq_some_iff.mp hrun
    obtain ⟨-, rfl⟩ := Prod.mk.inj heq
    obtain ⟨hloader, hpath, hfeatures⟩ := attachBpfProgs_eq hattached
    exact (h.of_sharesMore (hloader ▸ .refl lb.loader) hpath hfeatures).1
  | installFeature feature progPath o =>
    simp only [LbCall.run, installFeature] at hrun
    split_ifs at hrun
    · exact (Prod.mk.inj (Option.some.inj hrun)).2 ▸ h
    · exact (Prod.mk.inj (Option.some.inj hrun)).2 ▸ h
    · obtain ⟨swapped, hswap, heq⟩ := Option.map_eq_some_iff.mp hrun
      obtain ⟨-, rfl⟩ := Prod.mk.inj heq
      exact (swapProg_cases h hswap).1
  | removeFeature feature progPath o =>
    simp only [LbCall.run, removeFeature] at hrun
    split_ifs at hrun
    · exact (Prod.mk.inj (Option.some.inj hrun)).2 ▸ h
    · exact (Prod.mk.inj (Option.some.inj hrun)).2 ▸ h
    · obtain ⟨swapped, hswap, heq⟩ := Option.map_eq_some_iff.mp hrun
      obtain ⟨-, rfl⟩ := Prod.mk.inj heq
      exact (swapProg_cases h hswap).1

/-- What a swap for a request replies and leaves. The request wants the feature to be `wanted`. -/
theorem swap_request_iff {o : SwapOutcome} {reloaded : Bool} {feature : VsoshlbFeatureEnum}
    {wanted : Bool} {Fits : Prop} (h : Current files lb)
    (hswap : swapProg files config path o lb = some (reloaded, lb'))
    (hfits : Replaces (files path) path lb.loader lb'.loader →
      lb'.features = featureDiscovering lb'.loader lb.features →
      (lb'.features.hasFeature feature = wanted ↔ Fits)) :
    ((reloaded && (lb'.features.hasFeature feature == wanted)) = false → Unchanged lb lb') ∧
        ((reloaded && (lb'.features.hasFeature feature == wanted)) = true →
          lb'.features.hasFeature feature = wanted) ↔
      path = lb.balancerProgPath ∨ Fits ∨ ¬ Loads files path o.reload.answers lb.loader := by
  have hreply : (reloaded && (lb'.features.hasFeature feature == wanted)) = true →
      lb'.features.hasFeature feature = wanted :=
    fun h ↦ eq_of_beq (Bool.and_eq_true_iff.mp h).2
  rw [and_iff_left hreply]
  obtain ⟨-, ⟨rfl, hsame, hnot⟩ | ⟨rfl, hloads, hreplaces, hloaded, hpath, hfeatures⟩⟩ :=
    swapProg_cases h hswap
  · exact iff_of_true (fun _ ↦ hsame) (Or.inr (Or.inr hnot))
  · have hiff := hfits hreplaces hfeatures
    simp only [hloads, not_true_eq_false, or_false, Bool.true_and, beq_eq_false_iff_ne]
    constructor
    · intro hunchanged
      by_cases hwanted : lb'.features.hasFeature feature = wanted
      · exact Or.inr (hiff.mp hwanted)
      · exact Or.inl (hpath.symm.trans (hunchanged hwanted).path)
    · rintro (rfl | hfit) hne
      · exact h.of_replaces hreplaces hloaded hpath hfeatures
      · exact absurd (hiff.mpr hfit) hne

theorem not_misses_of_carries {file : BpfFile} {feature : VsoshlbFeatureEnum}
    (h : file.Carries feature) : ¬ file.Misses feature := by
  rintro ⟨source, hsource, -, hmisses⟩
  obtain ⟨source', hsource', -, hcarries⟩ := h
  obtain rfl := Option.some.inj (hsource.symm.trans hsource')
  exact hmisses hcarries

theorem installFeature_wholly_iff {feature : VsoshlbFeatureEnum} {o : SwapOutcome} {reply : Bool}
    (h : Current files lb)
    (hrun : installFeature files config feature path o lb = some (reply, lb')) :
    ((reply = false → Unchanged lb lb') ∧
        (reply = true → lb'.features.hasFeature feature = true)) ↔
      MeetsRequest files lb (.installFeature feature path o) := by
  unfold installFeature at hrun
  unfold MeetsRequest
  split_ifs at hrun with hhas hempty
  · obtain ⟨rfl, rfl⟩ := Prod.mk.inj (Option.some.inj hrun)
    exact iff_of_true ⟨fun hr ↦ Bool.noConfusion hr, fun _ ↦ hhas⟩ (Or.inl hhas)
  · obtain ⟨rfl, rfl⟩ := Prod.mk.inj (Option.some.inj hrun)
    exact iff_of_true ⟨fun _ ↦ .refl lb, fun hr ↦ Bool.noConfusion hr⟩ (Or.inr (Or.inl hempty))
  · obtain ⟨⟨reloaded, after⟩, hswap, heq⟩ := Option.map_eq_some_iff.mp hrun
    obtain ⟨rfl, rfl⟩ := Prod.mk.inj heq
    have hfits (hreplaces : Replaces (files path) path lb.loader after.loader)
        (hfeatures : after.features = featureDiscovering after.loader lb.features) :
        after.features.hasFeature feature = true ↔ (files path).Carries feature := by
      rw [hreplaces.hasFeature_iff h.discovered hfeatures, or_iff_left fun hold ↦ hhas hold.1]
    have hiff := swap_request_iff h hswap hfits
    simpa only [beq_true, hhas, hempty, Bool.false_eq_true, false_or] using hiff

theorem removeFeature_wholly_iff {feature : VsoshlbFeatureEnum} {o : SwapOutcome} {reply : Bool}
    (h : Current files lb)
    (hrun : removeFeature files config feature path o lb = some (reply, lb')) :
    ((reply = false → Unchanged lb lb') ∧
        (reply = true → lb'.features.hasFeature feature = false)) ↔
      MeetsRequest files lb (.removeFeature feature path o) := by
  unfold removeFeature at hrun
  unfold MeetsRequest
  split_ifs at hrun with hhas hempty
  · obtain ⟨rfl, rfl⟩ := Prod.mk.inj (Option.some.inj hrun)
    exact iff_of_true ⟨fun hr ↦ Bool.noConfusion hr, fun _ ↦ hhas⟩ (Or.inl hhas)
  · obtain ⟨rfl, rfl⟩ := Prod.mk.inj (Option.some.inj hrun)
    exact iff_of_true ⟨fun _ ↦ .refl lb, fun hr ↦ Bool.noConfusion hr⟩ (Or.inr (Or.inl hempty))
  · obtain ⟨⟨reloaded, after⟩, hswap, heq⟩ := Option.map_eq_some_iff.mp hrun
    obtain ⟨rfl, rfl⟩ := Prod.mk.inj heq
    have hhad := Bool.eq_true_of_not_eq_false hhas
    have hfits (hreplaces : Replaces (files path) path lb.loader after.loader)
        (hfeatures : after.features = featureDiscovering after.loader lb.features) :
        after.features.hasFeature feature = false ↔ (files path).Misses feature := by
      rw [← Bool.not_eq_true, hreplaces.hasFeature_iff h.discovered hfeatures]
      constructor
      · intro hnot
        by_contra hmisses
        exact hnot (Or.inr ⟨hhad, hmisses⟩)
      · rintro hmisses (hcarries | ⟨-, hnot⟩)
        · exact not_misses_of_carries hcarries hmisses
        · exact hnot hmisses
    have hiff := swap_request_iff h hswap hfits
    simpa only [beq_false, hhad, hempty, Bool.true_eq_false, false_or] using hiff

theorem swapsWholly_iff {call : LbCall} (h : Current files lb)
    (hstep : lbStep files config lb call = some lb') :
    SwapsWholly files config lb call ↔ MeetsRequest files lb call := by
  obtain ⟨⟨reply, after⟩, hrun, rfl⟩ := Option.map_eq_some_iff.mp hstep
  cases call with
  | loadBpfProgs o => exact iff_of_true (fun _ _ _ ↦ trivial) trivial
  | reloadBalancerProg path o => exact iff_of_true (fun _ _ _ ↦ trivial) trivial
  | attachBpfProgs o => exact iff_of_true (fun _ _ _ ↦ trivial) trivial
  | installFeature feature progPath o =>
    exact (Runs.forall_result_iff hrun).trans (installFeature_wholly_iff h hrun)
  | removeFeature feature progPath o =>
    exact (Runs.forall_result_iff hrun).trans (removeFeature_wholly_iff h hrun)

/-- Installing and removing features is all or nothing along a run, and the features are the
discovered ones in every state of it, if and only if every call of the run meets its request. -/
theorem swaps_allOrNothing_iff {calls : List LbCall} {t : Lb}
    (hrun : calls.foldlM (lbStep files config) (.new path) = some t) :
    (Runs.Along (lbStep files config) (SwapsWholly files config) (.new path) calls ∧
        Runs.Always (lbStep files config) Lb.Discovered (.new path) calls) ↔
      Runs.Along (lbStep files config) (MeetsRequest files) (.new path) calls := by
  have hkeep : ∀ lb call lb', Current files lb → lbStep files config lb call = some lb' →
      Current files lb' := by
    intro lb call lb' h hstep
    obtain ⟨⟨reply, after⟩, hrun, rfl⟩ := Option.map_eq_some_iff.mp hstep
    exact run_current h hrun
  have hcurrent : Runs.Always (lbStep files config) (Current files) (.new path) calls :=
    fun pre s _ hpre ↦ Runs.invariant hkeep (new_current path) hpre
  have hdiscovered := hcurrent.mono fun _ h ↦ h.discovered
  rw [and_iff_left hdiscovered]
  exact Runs.along_congr (I := Current files)
    (fun lb call _ lb' h hstep ↦ swapsWholly_iff h hstep)
    (fun lb call _ lb' h _ hstep ↦ hkeep lb call lb' h hstep) (new_current path) hrun

/-! ## A program that lacks the wanted feature -/

def plainConfig : LbConfig where
  healthcheckingProgPath := ""
  enableHc := false
  testing := false
  standalone := true
  useRootMap := false
  vsoshlbSrcV4 := "10.0.0.1"
  vsoshlbSrcV6 := ""

/-- Balancer programs, of which that in `gue.o` alone can encapsulate. -/
def balancerFiles (path : String) : BpfFile where
  progs := [kBalancerProgName]
  maps := requiredMaps plainConfig false false ++ if path = "gue.o" then ["pckt_srcs"] else []

/-- Every call of libbpf succeeds. -/
def plainAnswers : Answers where
  opens := true
  progFd i := i
  mapFd i := i
  reuseFd _ := true
  setInnerMapFd _ := true
  load := true
  progType := true

def plainStart : StartOutcome := ⟨true, true, true, true, true⟩

def plainLoad : LbCall := .loadBpfProgs ⟨plainAnswers, plainAnswers, plainStart, true, 0, 0, true⟩

def plainSwap : SwapOutcome where
  reload := ⟨plainAnswers, plainStart⟩
  revert := ⟨plainAnswers, plainStart⟩
  attach := ⟨true, 0, true, true⟩

theorem gue_installed_wholly :
    ∃ t, [plainLoad, .installFeature .gueEncap "gue.o" plainSwap].foldlM
        (lbStep balancerFiles plainConfig) (.new "plain.o") = some t ∧
      Runs.Along (lbStep balancerFiles plainConfig) (SwapsWholly balancerFiles plainConfig)
        (.new "plain.o") [plainLoad, .installFeature .gueEncap "gue.o" plainSwap] ∧
      Runs.Always (lbStep balancerFiles plainConfig) Lb.Discovered (.new "plain.o")
        [plainLoad, .installFeature .gueEncap "gue.o" plainSwap] := by
  have hreturns : ([plainLoad, .installFeature .gueEncap "gue.o" plainSwap].foldlM
      (lbStep balancerFiles plainConfig) (.new "plain.o")).isSome := by decide +kernel
  obtain ⟨t, hrun⟩ := Option.isSome_iff_exists.mp hreturns
  have hcarries : (balancerFiles "gue.o").Carries .gueEncap :=
    ⟨(kBalancerProgName, "pckt_srcs"), rfl, by decide +kernel, by decide +kernel⟩
  refine ⟨t, hrun, (swaps_allOrNothing_iff hrun).mpr ⟨trivial, fun lb _ ↦ ⟨?_, fun _ _ ↦ trivial⟩⟩⟩
  exact Or.inr (Or.inr (Or.inr (Or.inl hcarries)))

/-- An installation of the encapsulation from a file without it is refused. The balancer is that
file's program from then on, and its path is the remembered one. -/
theorem refused_install_swaps :
    ∃ lb lb', [plainLoad].foldlM (lbStep balancerFiles plainConfig) (.new "plain.o") = some lb ∧
      installFeature balancerFiles plainConfig .gueEncap "other.o" plainSwap lb =
        some (false, lb') ∧
      lb.balancerProgPath = "plain.o" ∧ lb.loadedProgram.1 = some "plain.o" ∧
      lb'.balancerProgPath = "other.o" ∧ lb'.loadedProgram.1 = some "other.o" ∧
      ¬ SwapsWholly balancerFiles plainConfig lb
        (.installFeature .gueEncap "other.o" plainSwap) := by
  have hloaded : ([plainLoad].foldlM (lbStep balancerFiles plainConfig) (.new "plain.o")).map
      (fun lb ↦ (lb.balancerProgPath, lb.loadedProgram.1)) = some ("plain.o", some "plain.o") := by
    decide +kernel
  have hrefused : (([plainLoad].foldlM (lbStep balancerFiles plainConfig) (.new "plain.o")).bind
      (installFeature balancerFiles plainConfig .gueEncap "other.o" plainSwap)).map
      (fun after ↦ (after.1, after.2.balancerProgPath, after.2.loadedProgram.1)) =
        some (false, "other.o", some "other.o") := by
    decide +kernel
  obtain ⟨lb, hlb, hbefore⟩ := Option.map_eq_some_iff.mp hloaded
  rw [hlb] at hrefused
  obtain ⟨⟨reply, lb'⟩, hrun, hafter⟩ := Option.map_eq_some_iff.mp hrefused
  obtain ⟨rfl, hafter⟩ := Prod.mk.inj hafter
  obtain ⟨hpath, hprogram⟩ := Prod.mk.inj hbefore
  obtain ⟨hpath', hprogram'⟩ := Prod.mk.inj hafter
  refine ⟨lb, lb', hlb, hrun, hpath, hprogram, hpath', hprogram', fun hwholly ↦ ?_⟩
  have hsame := ((hwholly false lb' hrun).1 rfl).path
  rw [hpath, hpath'] at hsame
  exact absurd hsame (by decide)

end Vsoshlb.Loader
