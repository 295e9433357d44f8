import Mathlib.Data.Finset.Basic
import Mathlib.Logic.Function.Basic
import Vsoshlb.Library.EarlyExit

/-!
# The loader of BPF objects

`BpfLoader` keeps tables of the programs and maps it has loaded. Loading an object adds its programs
and maps under new names; reloading puts the programs of an object in the place of those with the
same names and lets them use the maps that are there. What libbpf answers comes with the opened
object: for each map, whether its descriptor can be set and which one it has after the load.

A map that is loaded and not shared yet becomes shared as soon as a reload meets it. The entry stays
when the reload fails later.
-/

namespace Vsoshlb.Loader

open EarlyExit

/-- The descriptor of a program, with the object file that the program is from. -/
structure ProgFd where
  fd : ℤ
  object : String
deriving DecidableEq, Repr

/-- A program of an opened object, with its descriptor after the load. -/
structure BpfProgram where
  name : String
  fd : ProgFd
deriving DecidableEq, Repr

/-- A map of an opened object: whether `bpf_map__reuse_fd` and `bpf_map__set_inner_map_fd` succeed
for it, and its descriptor after the load. -/
structure BpfMap where
  name : String
  reuseFd : Bool
  setInnerMapFd : Bool
  fd : ℤ
deriving DecidableEq, Repr

/-- An opened object: whether `bpf_object__load` succeeds, and whether its programs have the type
that is asked for. -/
structure BpfObject where
  progs : List BpfProgram
  maps : List BpfMap
  load : Bool
  progType : Bool
deriving DecidableEq, Repr

/-- The tables of `BpfLoader`. -/
structure BpfLoader where
  bpfObjects : String → Option BpfObject
  maps : String → Option ℤ
  progs : String → Option ProgFd
  sharedMaps : String → Option ℤ
  innerMapsProto : String → Option ℤ
  currentMaps : String → Option (Finset String)

def kError : ℤ := 1

def kNotExists : ℤ := -1

def kSuccess : ℤ := 0

def kMaxSharedMapNameSize : ℕ := 15

def knownDuplicateMaps : Finset String := {".rodata.str1.1"}

namespace BpfLoader

/-- `BpfLoader`, before anything is loaded. -/
def new : BpfLoader where
  bpfObjects _ := none
  maps _ := none
  progs _ := none
  sharedMaps _ := none
  innerMapsProto _ := none
  currentMaps _ := none

def getMapFdByName (loader : BpfLoader) (name : String) : ℤ :=
  (loader.maps name).getD kNotExists

def getProgFdByName (loader : BpfLoader) (name : String) : ℤ :=
  ((loader.progs name).map ProgFd.fd).getD kNotExists

def isMapInProg (loader : BpfLoader) (progName name : String) : Bool :=
  match loader.currentMaps progName with
  | none => false
  | some progMaps => name ∈ progMaps

def updateSharedMap (name : String) (fd : ℤ) (loader : BpfLoader) : ℤ × BpfLoader :=
  if (loader.sharedMaps name).isSome then
    (kNotExists, loader)
  else if kMaxSharedMapNameSize < name.utf8ByteSize then
    (kNotExists, loader)
  else
    (kSuccess, { loader with sharedMaps := Function.update loader.sharedMaps name (some fd) })

def setInnerMapPrototype (name : String) (fd : ℤ) (loader : BpfLoader) : ℤ × BpfLoader :=
  if (loader.innerMapsProto name).isSome then
    (kError, loader)
  else
    (kSuccess, { loader with
      innerMapsProto := Function.update loader.innerMapsProto name (some fd) })

/-- The programs of an object under their names. -/
def addProg (loader : BpfLoader) (prog : BpfProgram) : BpfLoader :=
  { loader with progs := Function.update loader.progs prog.name (some prog.fd) }

@[simp]
theorem addProg_progs (loader : BpfLoader) (prog : BpfProgram) :
    (loader.addProg prog).progs = Function.update loader.progs prog.name (some prog.fd) := rfl

def addMap (loader : BpfLoader) (map : BpfMap) : BpfLoader :=
  { loader with maps := Function.update loader.maps map.name (some map.fd) }

/-- A reload keeps the maps that are there. -/
def addNewMap (loader : BpfLoader) (map : BpfMap) : BpfLoader :=
  if (loader.maps map.name).isNone then loader.addMap map else loader

end BpfLoader

/-- `loadedProgNames`. -/
def BpfObject.progNames (obj : BpfObject) : List String := obj.progs.map BpfProgram.name

/-- `loadedMapNames`. -/
def BpfObject.mapNames (obj : BpfObject) : Finset String := (obj.maps.map BpfMap.name).toFinset

/-- The tables after the load of an object: its programs have its maps, and the object is kept under
its name. -/
def BpfLoader.register (loader : BpfLoader) (obj : BpfObject) (objName : String) : BpfLoader :=
  { loader with
    currentMaps := fun progName ↦
      if progName ∈ obj.progNames then some obj.mapNames else loader.currentMaps progName
    bpfObjects := Function.update loader.bpfObjects objName (some obj) }

/-- Programs of the loader. One that aborts, in a `CHECK`, has no result. -/
abbrev LoaderProg := Prog BpfLoader (Option ℤ)

/-- `return closeBpfObject(obj)`, where the condition holds. -/
def closeIf (c : Prop) [Decidable c] : LoaderProg Unit := Prog.exitIf c (some kError)

/-- `bpf_object__load` and `checkBpfProgType`. -/
def loadObject (obj : BpfObject) : LoaderProg Unit := do
  closeIf (obj.load = false)
  Prog.exitIf (obj.progType = false) none

/-- One round of the loop over the maps in `reloadBpfObject`. -/
def reloadMap (map : BpfMap) : LoaderProg Unit := do
  let loader ← Prog.read id
  if (loader.sharedMaps map.name).isSome then
    closeIf (map.reuseFd = false)
  else
    match loader.maps map.name with
    | some fd =>
      -- the map becomes shared before its descriptor is set
      let res ← Prog.act (BpfLoader.updateSharedMap map.name fd)
      closeIf (res ≠ kSuccess)
      closeIf (map.reuseFd = false)
    | none => closeIf ((loader.innerMapsProto map.name).isSome ∧ map.setInnerMapFd = false)

def reloadMaps : List BpfMap → LoaderProg Unit
  | [] => pure ()
  | map :: maps => do
    reloadMap map
    reloadMaps maps

/-- `reloadBpfObject`. -/
def reloadBpfObject (obj : BpfObject) (objName : String) : LoaderProg (Option ℤ) := do
  let loader ← Prog.read id
  closeIf (∃ prog ∈ obj.progs, (loader.progs prog.name).isNone)
  reloadMaps obj.maps
  loadObject obj
  Prog.modify fun loader ↦ obj.progs.foldl BpfLoader.addProg loader
  Prog.modify fun loader ↦ obj.maps.foldl BpfLoader.addNewMap loader
  Prog.modify fun loader ↦ loader.register obj objName
  return some kSuccess

/-- One round of the loop over the maps in `loadBpfObject`. -/
def loadMap (map : BpfMap) : LoaderProg Unit := do
  let loader ← Prog.read id
  if (loader.sharedMaps map.name).isSome then
    closeIf (map.reuseFd = false)
  else if (loader.maps map.name).isSome then
    closeIf (map.name ∉ knownDuplicateMaps)
  else
    closeIf ((loader.innerMapsProto map.name).isSome ∧ map.setInnerMapFd = false)

def loadMaps : List BpfMap → LoaderProg Unit
  | [] => pure ()
  | map :: maps => do
    loadMap map
    loadMaps maps

/-- `loadBpfObject`. -/
def loadBpfObject (obj : BpfObject) (objName : String) : LoaderProg (Option ℤ) := do
  let loader ← Prog.read id
  closeIf (loader.bpfObjects objName).isSome
  closeIf (∃ prog ∈ obj.progs, (loader.progs prog.name).isSome)
  loadMaps obj.maps
  loadObject obj
  Prog.modify fun loader ↦ obj.progs.foldl BpfLoader.addProg loader
  Prog.modify fun loader ↦ obj.maps.foldl BpfLoader.addMap loader
  Prog.modify fun loader ↦ loader.register obj objName
  return some kSuccess

end Vsoshlb.Loader
