import Mathlib.Data.BitVec
import Vsoshlb.Library.EarlyExit
import Vsoshlb.Library.Runs

/-!
# Forwarding cores

Each core that forwards packets has its own tables of connections. `initLrus` makes them, keeps
their descriptors in vectors with a place for every core, and checks the numbers of the cores as it
goes; `attachLrus` and `getGlobalLruMapsFds` take the same numbers again and rely on that check.
The check lets the number of places itself pass.

An index behind the end of a vector reads what lies there and writes to nothing that is modelled.
-/

namespace Vsoshlb.Loader

open EarlyExit

def kMaxForwardingCores : ℕ := 128

def MAX_SUPPORTED_CPUS : ℕ := 128

def kFallbackLruSize : ℤ := 1024

def kMapNoFlags : ℕ := 0

def kNoNuma : ℤ := -1

def BPF_F_NUMA_NODE : ℕ := 4

/-! ## State -/

/-- The vectors of descriptors: `lruMapsFd_`, `flowDebugMapsFd_` and `globalLruMapsFd_`. -/
inductive FdVector where
  | lru
  | flowDebug
  | globalLru
deriving DecidableEq, Repr

/-- The map of the data plane that finds the table of a core. -/
def FdVector.outerMap : FdVector → String
  | lru => "lru_mapping"
  | flowDebug => "flow_debug_maps"
  | globalLru => "global_lru_maps"

/-- What the functions do to vectors of a `size`, numbers and BPF maps. -/
inductive LruEvent where
  | index (vector : FdVector) (i : ℤ) (size : ℕ)
  | divide (divisor : ℕ)
  | createMap (name : String) (size : ℤ) (flags : ℕ) (numaNode : ℤ)
  | setPrototype (outerMap : String) (fd : ℤ)
  | updateMap (outerMap : String) (key fd : ℤ)
  | lookupMap (name : String)
deriving DecidableEq, Repr

/-- The members of `VsoshlbLb` that the functions use, what has happened, and how many calls of the
adapter there were. -/
structure LruState where
  fds : FdVector → List ℤ
  globalLruFallbackFd : ℤ
  events : List LruEvent
  calls : ℕ

/-- The fields of `VsoshlbConfig`. -/
structure LruConfig where
  forwardingCores : List ℤ
  numaNodes : List ℤ
  lruSize : ℕ
  globalLruSize : ℕ

/-- What is outside of the program: the results of the calls of the adapter, in their order, and
what lies beside the vectors. -/
structure LruEnv where
  answers : ℕ → ℤ
  beside : FdVector → ℤ → ℤ

/-- The members after the constructor. -/
def LruState.new : LruState where
  fds _ := List.replicate kMaxForwardingCores 0
  globalLruFallbackFd := -1
  events := []
  calls := 0

def LruState.record (s : LruState) (event : LruEvent) : LruState :=
  { s with events := s.events ++ [event] }

/-! ## Steps -/

/-- Programs that may throw or abort. -/
abbrev LruProg (α : Type) := Prog LruState Unit α

variable (env : LruEnv) (config : LruConfig)

/-- A call of the adapter. -/
def callAdapter (event : LruEvent) : LruProg ℤ :=
  .act fun s ↦ (env.answers s.calls, { s.record event with
    calls := s.calls + 1 })

/-- `vector[i]` as a value. -/
def readFd (vector : FdVector) (i : ℤ) : LruProg ℤ :=
  .act fun s ↦
    (if 0 ≤ i ∧ i < (s.fds vector).length then (s.fds vector).getD i.toNat 0 else
        env.beside vector i,
      s.record (.index vector i (s.fds vector).length))

/-- `vector[i] = fd`. -/
def writeFd (vector : FdVector) (i fd : ℤ) : LruProg Unit :=
  .modify fun s ↦ { s.record (.index vector i (s.fds vector).length) with
    fds := fun v ↦
      if v = vector ∧ 0 ≤ i then (s.fds v).set i.toNat fd else s.fds v }

/-- A conversion to `int`. -/
def toInt32 (n : ℕ) : ℤ := (BitVec.ofNat 32 n).toInt

/-! ## `initLrus` -/

/-- A table of a core: `createLruMap`, `initFlowDebugMapForCore` or `initGlobalLruMapForCore`, and
the place of its descriptor. -/
def initMapForCore (vector : FdVector) (name : String) (core size : ℤ) (flags : ℕ)
    (numaNode : ℤ) : LruProg Unit := do
  let fd ← callAdapter env (.createMap name size flags numaNode)
  Prog.exitIf (fd < 0) ()
  writeFd vector core fd

/-- The body of the loop of `initLrus`, for the core at position `i`. -/
def initLrusForCore (flowDebug globalLru : Bool) (perCoreLruSize : ℕ) (core : ℤ) (i : ℕ) :
    LruProg Unit := do
  Prog.exitIf (core > kMaxForwardingCores ∨ core < 0) ()
  let numaMappingSpecified := config.numaNodes.length ≠ 0
  let numaNode := if numaMappingSpecified then config.numaNodes.getD i 0 else kNoNuma
  let lruMapFlags := if numaMappingSpecified then BPF_F_NUMA_NODE else 0
  initMapForCore env .lru ("vsoshlb_lru" ++ toString core) core (toInt32 perCoreLruSize)
    lruMapFlags numaNode
  Prog.when (flowDebug = true) (initMapForCore env .flowDebug "flow_debug_lru" core
    (toInt32 perCoreLruSize) lruMapFlags numaNode)
  Prog.when (globalLru = true) (initMapForCore env .globalLru "global_lru" core
    (toInt32 config.globalLruSize) lruMapFlags numaNode)

/-- The tables of the cores. -/
def initCores (flowDebug globalLru : Bool) : LruProg Unit := do
  Prog.exitIf (config.numaNodes.length ≠ 0 ∧
    config.numaNodes.length ≠ config.forwardingCores.length) ()
  let perCoreLruSize := config.lruSize / config.forwardingCores.length
  Prog.modify fun s ↦ s.record (.divide config.forwardingCores.length)
  Prog.forEach config.forwardingCores.zipIdx fun place ↦
    initLrusForCore env config flowDebug globalLru perCoreLruSize place.1 place.2

/-- A prototype: the table of the first core, or one that is made for tests. -/
def prototypeFd (vector : FdVector) (name : String) : LruProg ℤ :=
  match config.forwardingCores with
  | [] => callAdapter env (.createMap name kFallbackLruSize kMapNoFlags kNoNuma)
  | core :: _ => readFd env vector core

/-- `initLrus`. -/
def initLrus (flowDebug globalLru : Bool) : LruProg Unit := do
  Prog.when (config.forwardingCores.length ≠ 0) (initCores env config flowDebug globalLru)
  let lruProtoFd ← prototypeFd env config .lru "vsoshlb_lru0"
  Prog.exitIf (config.forwardingCores.length = 0 ∧ lruProtoFd < 0) ()
  let res ← callAdapter env (.setPrototype FdVector.lru.outerMap lruProtoFd)
  Prog.exitIf (res < 0) ()

/-- `initFlowDebugPrototypeMap` or `initGlobalLruPrototypeMap`. -/
def initPrototypeMap (vector : FdVector) (name : String) : LruProg Unit := do
  let protoFd ← prototypeFd env config vector name
  Prog.exitIf (protoFd < 0) ()
  let res ← callAdapter env (.setPrototype vector.outerMap protoFd)
  Prog.exitIf (res < 0) ()

def initFlowDebugPrototypeMap : LruProg Unit :=
  initPrototypeMap env config .flowDebug "flow_debug_lru"

def initGlobalLruPrototypeMap : LruProg Unit :=
  initPrototypeMap env config .globalLru "global_lru"

/-! ## `attachLrus` and `getGlobalLruMapsFds` -/

/-- `attachFlowDebugLru` or `attachGlobalLru`. -/
def attachMap (vector : FdVector) (core : ℤ) : LruProg Unit := do
  let mapFd ← readFd env vector core
  Prog.exitIf (mapFd < 0) ()
  let res ← callAdapter env (.updateMap vector.outerMap core mapFd)
  Prog.exitIf (res < 0) ()

/-- The body of the loop of `attachLrus`. -/
def attachLrusForCore (flowDebug globalLru : Bool) (core : ℤ) : LruProg Unit := do
  let mapFd ← readFd env .lru core
  let res ← callAdapter env (.updateMap FdVector.lru.outerMap core mapFd)
  Prog.exitIf (res < 0) ()
  Prog.when (flowDebug = true) (attachMap env .flowDebug core)
  Prog.when (globalLru = true) (attachMap env .globalLru core)

/-- `attachLrus`. -/
def attachLrus (progsLoaded flowDebug globalLru : Bool) : LruProg Unit := do
  Prog.exitIf (progsLoaded = false) ()
  Prog.forEach config.forwardingCores (attachLrusForCore env flowDebug globalLru)
  Prog.when (globalLru = true) (do
    let fd ← callAdapter env (.lookupMap "fallback_glru")
    Prog.modify fun s ↦ { s with
      globalLruFallbackFd := fd })

/-- The loop of `getGlobalLruMapsFds`. -/
def readFds (vector : FdVector) : List ℤ → LruProg (List ℤ)
  | [] => pure []
  | core :: cores => do
    let fd ← readFd env vector core
    let rest ← readFds vector cores
    pure (fd :: rest)

/-- `getGlobalLruMapsFds`. -/
def getGlobalLruMapsFds : LruProg (List ℤ) := do
  let fds ← readFds env .globalLru config.forwardingCores
  let fallback ← Prog.read LruState.globalLruFallbackFd
  pure (if 0 ≤ fallback then fds ++ [fallback] else fds)

/-! ## What every function records -/

/-- The vectors have a place for each core, and `Q` holds of what has happened. -/
def LogIs (Q : List LruEvent → Prop) (s : LruState) : Prop :=
  (∀ vector, (s.fds vector).length = kMaxForwardingCores) ∧ Q s.events

/-- The events of the functions for the given cores are good. -/
structure AllGood (Good : LruEvent → Prop) (cores : List ℤ) : Prop where
  create : ∀ name size flags numaNode, Good (.createMap name size flags numaNode)
  prototype : ∀ outerMap fd, Good (.setPrototype outerMap fd)
  lookup : ∀ name, Good (.lookupMap name)
  divide : cores.length ≠ 0 → Good (.divide cores.length)
  index : ∀ core ∈ cores, ∀ vector, Good (.index vector core kMaxForwardingCores)
  update : ∀ core ∈ cores, ∀ outerMap fd, Good (.updateMap outerMap core fd)

section Steps

variable {env config} {Q Q' : List LruEvent → Prop} {E : Unit → LruState → Prop}

theorem callAdapter_triple {event : LruEvent} (h : ∀ events, Q events → Q' (events ++ [event])) :
    Triple (LogIs Q) (callAdapter env event) (fun _ ↦ LogIs Q') E :=
  .act fun s hs ↦ ⟨hs.1, h s.events hs.2⟩

theorem readFd_triple {vector : FdVector} {i : ℤ}
    (h : ∀ events, Q events → Q' (events ++ [.index vector i kMaxForwardingCores])) :
    Triple (LogIs Q) (readFd env vector i) (fun _ ↦ LogIs Q') E := by
  refine .act fun s hs ↦ ⟨hs.1, ?_⟩
  rw [hs.1 vector]
  exact h s.events hs.2

theorem writeFd_triple {vector : FdVector} {i fd : ℤ}
    (h : ∀ events, Q events → Q' (events ++ [.index vector i kMaxForwardingCores])) :
    Triple (LogIs Q) (writeFd vector i fd) (fun _ ↦ LogIs Q') E := by
  refine .modify fun s hs ↦ ⟨fun v ↦ ?_, ?_⟩
  · dsimp only
    split_ifs
    · rw [List.length_set]
      exact hs.1 v
    · exact hs.1 v
  · rw [hs.1 vector]
    exact h s.events hs.2

theorem initMapForCore_triple {vector : FdVector} {name : String} {core size numaNode : ℤ}
    {flags : ℕ}
    (hcreate : ∀ events, Q events → Q (events ++ [.createMap name size flags numaNode]))
    (hindex : ∀ events, Q events → Q' (events ++ [.index vector core kMaxForwardingCores]))
    (hexit : ∀ s, LogIs Q s → E () s) :
    Triple (LogIs Q) (initMapForCore env vector name core size flags numaNode)
      (fun _ ↦ LogIs Q') E :=
  .bind (callAdapter_triple hcreate) fun _ ↦ .exitIf_bind (fun _ ↦ hexit) fun _ ↦
    writeFd_triple hindex

end Steps

section Good

variable {env config} {Good : LruEvent → Prop} {Q : List LruEvent → Prop}
variable (hQ : ∀ events event, Q events → Good event → Q (events ++ [event]))
variable (hgood : AllGood Good config.forwardingCores)
include hQ hgood

theorem initLrusForCore_good {flowDebug globalLru : Bool} {size : ℕ} {core : ℤ}
    (hcore : core ∈ config.forwardingCores) (i : ℕ) :
    Triple (LogIs Q) (initLrusForCore env config flowDebug globalLru size core i)
      (fun _ ↦ LogIs Q) (fun _ ↦ LogIs Q) := by
  have hmap (vector : FdVector) (name : String) (mapSize : ℤ) (flags : ℕ) (numaNode : ℤ) :
      Triple (LogIs Q) (initMapForCore env vector name core mapSize flags numaNode)
        (fun _ ↦ LogIs Q) (fun _ ↦ LogIs Q) :=
    initMapForCore_triple (fun events h ↦ hQ events _ h (hgood.create _ _ _ _))
      (fun events h ↦ hQ events _ h (hgood.index core hcore _)) fun _ h ↦ h
  refine .exitIf_bind (fun _ _ h ↦ h) fun _ ↦ .bind (hmap _ _ _ _ _) fun _ ↦ ?_
  exact .bind (.when (fun _ ↦ hmap _ _ _ _ _) fun _ _ h ↦ h) fun _ ↦
    .when (fun _ ↦ hmap _ _ _ _ _) fun _ _ h ↦ h

theorem prototypeFd_good (vector : FdVector) (name : String) :
    Triple (LogIs Q) (prototypeFd env config vector name) (fun _ ↦ LogIs Q)
      (fun _ ↦ LogIs Q) := by
  unfold prototypeFd
  split
  · exact callAdapter_triple fun events h ↦ hQ events _ h (hgood.create _ _ _ _)
  · rename_i core cores hcores
    have hcore : core ∈ config.forwardingCores := by
      rw [hcores]
      exact List.mem_cons_self
    exact readFd_triple fun events h ↦ hQ events _ h (hgood.index core hcore vector)

theorem initLrus_good (flowDebug globalLru : Bool) :
    Triple (LogIs Q) (initLrus env config flowDebug globalLru) (fun _ ↦ LogIs Q)
      (fun _ ↦ LogIs Q) := by
  refine .bind (Q := fun _ ↦ LogIs Q) (.when (fun hcores ↦ ?_) fun _ _ h ↦ h) fun _ ↦ ?_
  · refine .exitIf_bind (fun _ _ h ↦ h) fun _ ↦ .bind (Q := fun _ ↦ LogIs Q)
      (.modify fun s hs ↦ ⟨hs.1, hQ s.events _ hs.2 (hgood.divide hcores)⟩) fun _ ↦
        .forEach fun place hplace ↦ ?_
    have hcore : place.1 ∈ config.forwardingCores := List.fst_mem_of_mem_zipIdx hplace
    exact initLrusForCore_good hQ hgood hcore place.2
  · refine .bind (prototypeFd_good hQ hgood _ _) fun _ ↦ .exitIf_bind (fun _ _ h ↦ h) fun _ ↦ ?_
    refine .bind (callAdapter_triple fun events h ↦ hQ events _ h (hgood.prototype _ _)) fun _ ↦ ?_
    exact .exitIf (fun _ _ h ↦ h) fun _ _ h ↦ h

theorem initPrototypeMap_good (vector : FdVector) (name : String) :
    Triple (LogIs Q) (initPrototypeMap env config vector name) (fun _ ↦ LogIs Q)
      (fun _ ↦ LogIs Q) := by
  refine .bind (prototypeFd_good hQ hgood _ _) fun _ ↦ .exitIf_bind (fun _ _ h ↦ h) fun _ ↦ ?_
  refine .bind (callAdapter_triple fun events h ↦ hQ events _ h (hgood.prototype _ _)) fun _ ↦ ?_
  exact .exitIf (fun _ _ h ↦ h) fun _ _ h ↦ h

theorem attachMap_good {core : ℤ} (hcore : core ∈ config.forwardingCores) (vector : FdVector) :
    Triple (LogIs Q) (attachMap env vector core) (fun _ ↦ LogIs Q) (fun _ ↦ LogIs Q) := by
  refine .bind (readFd_triple fun events h ↦ hQ events _ h (hgood.index core hcore vector))
    fun _ ↦ .exitIf_bind (fun _ _ h ↦ h) fun _ ↦ ?_
  refine .bind (callAdapter_triple fun events h ↦ hQ events _ h (hgood.update core hcore _ _))
    fun _ ↦ ?_
  exact .exitIf (fun _ _ h ↦ h) fun _ _ h ↦ h

theorem attachLrus_good (progsLoaded flowDebug globalLru : Bool) :
    Triple (LogIs Q) (attachLrus env config progsLoaded flowDebug globalLru) (fun _ ↦ LogIs Q)
      (fun _ ↦ LogIs Q) := by
  refine .exitIf_bind (fun _ _ h ↦ h) fun _ ↦ .bind (Q := fun _ ↦ LogIs Q)
    (.forEach fun core hcore ↦ ?_) fun _ ↦ .when (fun _ ↦ ?_) fun _ _ h ↦ h
  · refine .bind (readFd_triple fun events h ↦ hQ events _ h (hgood.index core hcore .lru))
      fun _ ↦ .bind (callAdapter_triple fun events h ↦ hQ events _ h
        (hgood.update core hcore _ _)) fun _ ↦ .exitIf_bind (fun _ _ h ↦ h) fun _ ↦ ?_
    exact .bind (.when (fun _ ↦ attachMap_good hQ hgood hcore _) fun _ _ h ↦ h) fun _ ↦
      .when (fun _ ↦ attachMap_good hQ hgood hcore _) fun _ _ h ↦ h
  · exact .bind (callAdapter_triple fun events h ↦ hQ events _ h (hgood.lookup _)) fun _ ↦
      .modify fun _ h ↦ h

theorem getGlobalLruMapsFds_good :
    Triple (LogIs Q) (getGlobalLruMapsFds env config) (fun _ ↦ LogIs Q) (fun _ ↦ LogIs Q) := by
  have hread (cores : List ℤ) (hcores : ∀ core ∈ cores, core ∈ config.forwardingCores) :
      Triple (LogIs Q) (readFds env .globalLru cores) (fun _ ↦ LogIs Q) (fun _ ↦ LogIs Q) := by
    induction cores with
    | nil => exact .pure fun _ h ↦ h
    | cons core cores ih =>
      refine .bind (readFd_triple fun events h ↦ hQ events _ h
        (hgood.index core (hcores core List.mem_cons_self) _)) fun _ ↦ ?_
      exact .bind (ih fun c hc ↦ hcores c (List.mem_cons_of_mem _ hc)) fun _ ↦
        .pure fun _ h ↦ h
  exact .bind (hread _ fun _ h ↦ h) fun _ ↦ .read_bind fun _ _ ↦ .pure fun _ h ↦ h

end Good

/-! ## Accepted cores -/

/-- An index is in its vector, a divisor is not zero, and the key of an update is in its map. -/
def LruEvent.Safe : LruEvent → Prop
  | index _ i size => 0 ≤ i ∧ i < size
  | divide divisor => divisor ≠ 0
  | updateMap _ key _ => 0 ≤ key ∧ key < MAX_SUPPORTED_CPUS
  | _ => True

instance : DecidablePred LruEvent.Safe := fun event ↦
  match event with
  | .index _ i size => inferInstanceAs (Decidable (0 ≤ i ∧ i < (size : ℤ)))
  | .divide divisor => inferInstanceAs (Decidable (divisor ≠ 0))
  | .updateMap _ key _ => inferInstanceAs (Decidable (0 ≤ key ∧ key < (MAX_SUPPORTED_CPUS : ℤ)))
  | .createMap _ _ _ _ => inferInstanceAs (Decidable True)
  | .setPrototype _ _ => inferInstanceAs (Decidable True)
  | .lookupMap _ => inferInstanceAs (Decidable True)

/-- Calls after `initLrus`, in any order. -/
inductive LruCall where
  | initFlowDebugPrototypeMap
  | initGlobalLruPrototypeMap
  | attachLrus (progsLoaded flowDebug globalLru : Bool)
  | getGlobalLruMapsFds
deriving DecidableEq, Repr

/-- The state that a call leaves, also where it throws. -/
def LruCall.apply (s : LruState) : LruCall → LruState
  | initFlowDebugPrototypeMap => (Loader.initFlowDebugPrototypeMap env config s).2
  | initGlobalLruPrototypeMap => (Loader.initGlobalLruPrototypeMap env config s).2
  | attachLrus progsLoaded flowDebug globalLru =>
    (Loader.attachLrus env config progsLoaded flowDebug globalLru s).2
  | getGlobalLruMapsFds => (Loader.getGlobalLruMapsFds env config s).2

def afterCalls (calls : List LruCall) (s : LruState) : LruState :=
  calls.foldl (LruCall.apply env config) s

section Accepted

variable {env config} {flowDebug globalLru : Bool}

theorem allGood_safe (hcores : ∀ core ∈ config.forwardingCores, 0 ≤ core ∧
    core < kMaxForwardingCores) : AllGood LruEvent.Safe config.forwardingCores where
  create _ _ _ _ := trivial
  prototype _ _ := trivial
  lookup _ := trivial
  divide h := h
  index core hcore _ := hcores core hcore
  update core hcore _ _ := hcores core hcore

theorem forall_mem_append_singleton {α : Type} {p : α → Prop} (events : List α) (event : α)
    (h : ∀ e ∈ events, p e) (hevent : p event) : ∀ e ∈ events ++ [event], p e := by
  intro e he
  rcases List.mem_append.mp he with hold | hnew
  · exact h e hold
  · rw [List.mem_singleton.mp hnew]
    exact hevent

/-- The cores that are done are in the range of the check and have indexed the first vector. -/
def CoresDone (done : List ℤ) (events : List LruEvent) : Prop :=
  ∀ core ∈ done, (0 ≤ core ∧ core ≤ kMaxForwardingCores) ∧
    .index .lru core kMaxForwardingCores ∈ events

theorem CoresDone.append {done : List ℤ} {events : List LruEvent} (h : CoresDone done events)
    (event : LruEvent) : CoresDone done (events ++ [event]) := fun core hcore ↦
  ⟨(h core hcore).1, List.mem_append_left _ (h core hcore).2⟩

theorem initLrusForCore_done {done : List ℤ} {size : ℕ} {core : ℤ} (i : ℕ) :
    Triple (LogIs (CoresDone done)) (initLrusForCore env config flowDebug globalLru size core i)
      (fun _ ↦ LogIs (CoresDone (done ++ [core]))) (fun _ _ ↦ True) := by
  refine .exitIf_bind (fun _ _ _ ↦ trivial) fun hrange ↦ ?_
  have hcore : 0 ≤ core ∧ core ≤ kMaxForwardingCores := by omega
  have hindex (events : List LruEvent) (h : CoresDone done events) :
      CoresDone (done ++ [core]) (events ++ [.index .lru core kMaxForwardingCores]) := by
    intro c hc
    rcases List.mem_append.mp hc with hold | hnew
    · exact h.append _ c hold
    · rw [List.mem_singleton.mp hnew]
      exact ⟨hcore, List.mem_append_right _ List.mem_cons_self⟩
  have hmap (vector : FdVector) (name : String) (mapSize : ℤ) (flags : ℕ) (numaNode : ℤ) :
      Triple (LogIs (CoresDone (done ++ [core])))
        (initMapForCore env vector name core mapSize flags numaNode)
        (fun _ ↦ LogIs (CoresDone (done ++ [core]))) (fun _ _ ↦ True) :=
    initMapForCore_triple (fun _ h ↦ h.append _) (fun _ h ↦ h.append _) fun _ _ ↦ trivial
  refine .bind (initMapForCore_triple (fun _ h ↦ h.append _) hindex fun _ _ ↦ trivial) fun _ ↦ ?_
  exact .bind (.when (fun _ ↦ hmap _ _ _ _ _) fun _ _ h ↦ h) fun _ ↦
    .when (fun _ ↦ hmap _ _ _ _ _) fun _ _ h ↦ h

theorem initCores_done :
    Triple (LogIs fun _ ↦ True) (initCores env config flowDebug globalLru)
      (fun _ ↦ LogIs (CoresDone config.forwardingCores)) (fun _ _ ↦ True) := by
  have hnone : ∀ events, CoresDone [] events := fun _ core hcore ↦ by cases hcore
  refine .exitIf_bind (fun _ _ _ ↦ trivial) fun _ ↦
    .bind (Q := fun _ ↦ LogIs (CoresDone [])) (.modify fun s hs ↦ ⟨hs.1, hnone _⟩) fun _ ↦ ?_
  have hloop := @Triple.forEach_of_invariant LruState Unit (ℤ × ℕ) (fun _ _ ↦ True)
    config.forwardingCores.zipIdx
    (fun place ↦ initLrusForCore env config flowDebug globalLru
      (config.lruSize / config.forwardingCores.length) place.1 place.2)
    (fun done ↦ LogIs (CoresDone (done.map Prod.fst)))
    (fun done place _ ↦ by
      rw [List.map_append]
      exact initLrusForCore_done place.2) []
  rw [List.nil_append, List.zipIdx_map_fst] at hloop
  exact hloop

theorem initLrus_done :
    Triple (LogIs fun _ ↦ True) (initLrus env config flowDebug globalLru)
      (fun _ ↦ LogIs (CoresDone config.forwardingCores)) (fun _ _ ↦ True) := by
  have hkeep (event : LruEvent) (events : List LruEvent)
      (h : CoresDone config.forwardingCores events) :
      CoresDone config.forwardingCores (events ++ [event]) := h.append event
  have hfirst : Triple (LogIs fun _ ↦ True)
      (Prog.when (config.forwardingCores.length ≠ 0) (initCores env config flowDebug globalLru))
      (fun _ ↦ LogIs (CoresDone config.forwardingCores)) (fun _ _ ↦ True) := by
    refine .when (fun _ ↦ initCores_done) fun hnone s hs ↦ ⟨hs.1, ?_⟩
    rw [List.length_eq_zero_iff.mp (not_not.mp hnone)]
    intro core hcore
    cases hcore
  have hproto : Triple (LogIs (CoresDone config.forwardingCores))
      (prototypeFd env config .lru "vsoshlb_lru0")
      (fun _ ↦ LogIs (CoresDone config.forwardingCores)) (fun _ _ ↦ True) := by
    unfold prototypeFd
    split
    · exact callAdapter_triple (hkeep _)
    · exact readFd_triple (hkeep _)
  refine .bind hfirst fun _ ↦ .bind hproto fun _ ↦ .exitIf_bind (fun _ _ _ ↦ trivial) fun _ ↦ ?_
  exact .bind (callAdapter_triple (hkeep _)) fun _ ↦ .exitIf (fun _ _ _ ↦ trivial) fun _ _ h ↦ h

theorem apply_safe (hgood : AllGood LruEvent.Safe config.forwardingCores) (call : LruCall)
    {s : LruState} (hs : LogIs (fun events ↦ ∀ event ∈ events, event.Safe) s) :
    LogIs (fun events ↦ ∀ event ∈ events, event.Safe) (call.apply env config s) := by
  have hkeep := @forall_mem_append_singleton LruEvent LruEvent.Safe
  cases call with
  | initFlowDebugPrototypeMap => exact (initPrototypeMap_good hkeep hgood _ _).snd hs
  | initGlobalLruPrototypeMap => exact (initPrototypeMap_good hkeep hgood _ _).snd hs
  | attachLrus progsLoaded flowDebug globalLru =>
    exact (attachLrus_good hkeep hgood progsLoaded flowDebug globalLru).snd hs
  | getGlobalLruMapsFds => exact (getGlobalLruMapsFds_good hkeep hgood).snd hs

/-- Where `initLrus` accepts the cores, all that it and the calls after it do is safe if and only if
no core has the number of the places. -/
theorem forwardingCores_safe_iff (env : LruEnv) (config : LruConfig) (flowDebug globalLru : Bool)
    (s : LruState)
    (haccepts : initLrus env config flowDebug globalLru LruState.new = (.ok (), s)) :
    (∀ calls, ∀ event ∈ (afterCalls env config calls s).events, event.Safe) ↔
      ∀ core ∈ config.forwardingCores, core ≠ kMaxForwardingCores := by
  have hnew (Q : List LruEvent → Prop) (hnil : Q []) : LogIs Q LruState.new :=
    ⟨fun _ ↦ List.length_replicate, hnil⟩
  have hdone := (@initLrus_done env config flowDebug globalLru).ok
    (hnew (fun _ ↦ True) trivial) haccepts
  constructor
  · intro hsafe core hcore heq
    have hindex := hsafe [] _ (hdone.2 core hcore).2
    exact absurd hindex.2 (by rw [heq]; exact lt_irrefl _)
  · intro hne calls
    have hrange : ∀ core ∈ config.forwardingCores, 0 ≤ core ∧ core < kMaxForwardingCores := by
      intro core hcore
      obtain ⟨hpos, hle⟩ := (hdone.2 core hcore).1
      exact ⟨hpos, lt_of_le_of_ne hle (hne core hcore)⟩
    have hgood := allGood_safe hrange
    have hsafe := (@initLrus_good env config _ _
      (@forall_mem_append_singleton LruEvent LruEvent.Safe) hgood flowDebug globalLru).ok
      (hnew _ fun event hevent ↦ by cases hevent) haccepts
    exact (Runs.foldl_invariant _ hsafe calls fun s call h ↦ apply_safe hgood call h).2

end Accepted

/-- Two cores on two nodes, and an adapter that gives every map the descriptor 7. -/
def twoCores : LruConfig := ⟨[0, 127], [0, 1], 8000000, 100000⟩

def sevens : LruEnv := ⟨fun _ ↦ 7, fun _ _ ↦ 0⟩

theorem forwardingCores_safe_two :
    initLrus sevens twoCores true true LruState.new =
        (.ok (), (initLrus sevens twoCores true true LruState.new).2) ∧
      ∀ calls, ∀ event ∈ (afterCalls sevens twoCores calls
        (initLrus sevens twoCores true true LruState.new).2).events, event.Safe := by
  have haccepts : initLrus sevens twoCores true true LruState.new =
      (.ok (), (initLrus sevens twoCores true true LruState.new).2) := rfl
  exact ⟨haccepts, (forwardingCores_safe_iff sevens twoCores true true _ haccepts).mpr (by decide)⟩

/-- Core 128 passes the check. It is an index behind the last place, and no key of the BPF map. -/
theorem core_128_accepted :
    (initLrus sevens ⟨[128], [], 8000000, 100000⟩ false false LruState.new).1 = .ok () ∧
    LruEvent.index .lru 128 128 ∈
      (initLrus sevens ⟨[128], [], 8000000, 100000⟩ false false LruState.new).2.events ∧
    LruEvent.updateMap "lru_mapping" 128 0 ∈
      (afterCalls sevens ⟨[128], [], 8000000, 100000⟩ [.attachLrus true false false]
        (initLrus sevens ⟨[128], [], 8000000, 100000⟩ false false LruState.new).2).events ∧
    ¬ (LruEvent.index .lru 128 128).Safe ∧ ¬ (LruEvent.updateMap "lru_mapping" 128 0).Safe := by
  refine ⟨rfl, ?_, ?_, by decide, by decide⟩
  · decide +kernel
  · decide +kernel

end Vsoshlb.Loader
