import Mathlib.Data.Int.Notation
import Mathlib.Tactic.SplitIfs
import Vsoshlb.Library.EarlyExit

/-!
# The TCP packet router

`TcpPktRouter` opens, loads and attaches a program to a cgroup, and announces the server id to it in
the map `server_infos`. The attachment belongs to the kernel: it outlives the object. What the
system answers to a call is an argument of that call.
-/

namespace Vsoshlb.Tpr

open EarlyExit

inductive RunningMode where
  | defaultReserved
  | server
  | client
deriving DecidableEq, Repr

/-- An error, without the text that the system adds for its code. -/
structure SystemError where
  code : ℤ
  what : String
deriving DecidableEq, Repr

abbrev SystemMaybe := Except SystemError Unit

def makeError (other : SystemError) (entity : String) : SystemMaybe :=
  .error ⟨other.code, "Failed to " ++ entity ++ ": " ++ other.what⟩

def ebusy : ℤ := 16

def einval : ℤ := 22

/-- An entry of `server_infos`. -/
structure ServerInfo where
  runningMode : RunningMode
  kdeEnabled : Bool
  serverId : BitVec 32
deriving DecidableEq, Repr

/-- The opened skeleton: the exclusive port in its constants, and the entry of `server_infos`. -/
structure TprBpf where
  gServerExclusivePort : BitVec 32
  serverInfo : ServerInfo
deriving DecidableEq, Repr

def TprBpf.new : TprBpf := ⟨0, ⟨.defaultReserved, false, 0⟩⟩

/-- The poller, and whether it could be run and has been shut down. -/
structure TPRStatsPoller where
  running : Bool
  shutdown : Bool
deriving DecidableEq, Repr

structure TcpPktRouter where
  mode : RunningMode
  kdeEnabled : Bool
  serverPort : Option (BitVec 32)
  isInitialized : Bool
  v6Id : BitVec 32
  statsPoller : Option TPRStatsPoller
  skel : Option TprBpf
  progFd : ℤ
deriving DecidableEq, Repr

/-- The constructor. It gives `v6Id_` no value. -/
def TcpPktRouter.new (mode : RunningMode) (kdeEnabled : Bool) (serverPort : Option (BitVec 32))
    (v6Id : BitVec 32) : TcpPktRouter where
  mode := mode
  kdeEnabled := kdeEnabled
  serverPort := serverPort
  isInitialized := false
  v6Id := v6Id
  statsPoller := none
  skel := none
  progFd := -1

/-- A router, and whether its program is attached to the cgroup. -/
structure Host where
  router : TcpPktRouter
  attached : Bool
deriving DecidableEq, Repr

def Host.new (router : TcpPktRouter) : Host := ⟨router, false⟩

/-- The id that the kernel announces, once there is a skeleton. -/
def TcpPktRouter.announcedId (router : TcpPktRouter) : Option (BitVec 32) :=
  router.skel.map fun skel ↦ skel.serverInfo.serverId

/-! ## The calls -/

def kMaxServerId : BitVec 32 := (1 <<< 24) - 1

/-- `BpfSkeleton::open`, with the error of `T::open`. -/
def openSkel (error : Option ℤ) (host : Host) : SystemMaybe × Host :=
  if host.router.skel.isSome then
    (.error ⟨ebusy, "BpfSkeleton has already been opened"⟩, host)
  else
    match error with
    | some code => (.error ⟨code, "BpfSkeleton open failed"⟩, host)
    | none => (.ok (), { host with router.skel := some .new })

/-- `BpfSkeleton::load`, with the error of `T::load`. -/
def loadSkel (error : Option ℤ) (host : Host) : SystemMaybe :=
  if host.router.skel.isSome then
    match error with
    | some code => .error ⟨code, "BpfSkeleton load failed"⟩
    | none => .ok ()
  else
    .error ⟨einval, "BpfSkeleton is invalid"⟩

/-- The exclusive port, where one is set. -/
def Host.restrictPort (host : Host) : Host :=
  match host.router.serverPort with
  | some port => { host with
      router.skel := host.router.skel.map fun skel ↦ { skel with gServerExclusivePort := port } }
  | none => host

/-- `attachCgroupProg`. -/
def attachCgroupProg (res : SystemMaybe) (host : Host) : SystemMaybe × Host :=
  match res with
  | .ok _ => (.ok (), { host with attached := true })
  | .error e => (.error e, host)

/-- `detachCgroupProg`. -/
def detachCgroupProg (res : SystemMaybe) (host : Host) : SystemMaybe × Host :=
  match res with
  | .ok _ => (.ok (), { host with attached := false })
  | .error e => (.error e, host)

def TcpPktRouter.serverInfo (router : TcpPktRouter) : ServerInfo :=
  if router.mode = .server then ⟨.server, router.kdeEnabled, router.v6Id⟩ else ⟨.client, false, 0⟩

/-- `updateServerInfo`, with the result of `updateMapElement`. -/
def updateServerInfo (update : SystemMaybe) (host : Host) : SystemMaybe × Host :=
  match update with
  | .ok _ => (.ok (), { host with
      router.skel := host.router.skel.map fun skel ↦
        { skel with serverInfo := host.router.serverInfo } })
  | .error e => (makeError e "updateServerInfo", host)

/-- `shutdown`. -/
def shutdown (detach : SystemMaybe) (host : Host) : SystemMaybe × Host :=
  if host.router.isInitialized = false then
    (.ok (), host)
  else
    let host := { host with
      router.statsPoller := host.router.statsPoller.map fun poller ↦
        { poller with shutdown := true } }
    match detachCgroupProg detach host with
    | (.error e, host) => (makeError e "shutdown", host)
    | (.ok _, host) => (.ok (), { host with router.isInitialized := false })

/-- What the system answers in `init`: the result of `BpfUtil::init`, the errors of `T::open` and
`T::load`, the descriptors, and the results of the other calls. -/
structure InitOutcome where
  bpfUtil : SystemMaybe
  openError : Option ℤ
  loadError : Option ℤ
  progFd : ℤ
  attach : SystemMaybe
  update : SystemMaybe
  statsMapFd : ℤ
  runStatsPoller : SystemMaybe
  detach : SystemMaybe

/-- Programs of a host. One that aborts, in a `CHECK`, has no result. -/
abbrev HostProg := Prog Host (Option SystemMaybe)

/-- `return makeError(res.error(), __func__)` in `init`, where there is an error. -/
def orFail (res : SystemMaybe) : HostProg Unit :=
  match res with
  | .ok _ => pure ()
  | .error e => Prog.exit (some (makeError e "init"))

/-- `init`, up to the attachment. -/
def attachProg (o : InitOutcome) : HostProg Unit := do
  let host ← Prog.read id
  Prog.exitIf (host.router.isInitialized = true) none
  orFail o.bpfUtil
  let opened ← Prog.act (openSkel o.openError)
  orFail opened
  Prog.modify Host.restrictPort
  let loaded ← Prog.read (loadSkel o.loadError)
  orFail loaded
  Prog.modify fun host ↦ { host with router.progFd := o.progFd }
  orFail (if o.progFd < 0 then .error ⟨0, "Invalid prog FD"⟩ else .ok ())
  let attached ← Prog.act (attachCgroupProg o.attach)
  orFail attached

/-- The statistics in `init`. -/
def pollStatsProg (o : InitOutcome) : HostProg Unit := do
  if o.statsMapFd < 0 then
    let res ← Prog.act (shutdown o.detach)
    Prog.exit (some res)
  else
    Prog.modify fun host ↦
      { host with
        router.statsPoller := some ⟨o.runStatsPoller matches .ok _, false⟩ }

/-- `init`. -/
def init (pollStats : Bool) (o : InitOutcome) : HostProg (Option SystemMaybe) := do
  attachProg o
  let updated ← Prog.act (updateServerInfo o.update)
  orFail updated
  Prog.modify fun host ↦ { host with router.isInitialized := true }
  Prog.when (pollStats = true) (pollStatsProg o)
  return some (.ok ())

/-- `setServerIdV6`. Without a result where the `CHECK_EQ` fails. -/
def setServerIdV6 (id : BitVec 32) (update : SystemMaybe) (host : Host) : Option (Bool × Host) :=
  if host.router.mode ≠ .server then
    none
  else if kMaxServerId < id then
    some (false, host)
  else if host.router.v6Id = id then
    some (true, host)
  else
    let host := { host with router.v6Id := id }
    if host.router.isInitialized then
      match updateServerInfo update host with
      | (.error _, host) => some (false, host)
      | (.ok _, host) => some (true, host)
    else
      some (true, host)


/-! ## How a start ends -/

variable {host host' : Host} {o : InitOutcome} {pollStats : Bool}

/-- Every step of `init` up to the attachment succeeds. -/
structure Host.Attaches (host : Host) (o : InitOutcome) : Prop where
  fresh : host.router.isInitialized = false
  bpfUtil : o.bpfUtil = .ok ()
  unopened : host.router.skel = none
  opened : o.openError = none
  loaded : o.loadError = none
  progFd : 0 ≤ o.progFd
  attached : o.attach = .ok ()

/-- The owner's part of the router is the same, and it is not initialized. -/
structure Starts (host host' : Host) : Prop where
  mode : host'.router.mode = host.router.mode
  v6Id : host'.router.v6Id = host.router.v6Id
  isInitialized : host'.router.isInitialized = false

theorem orFail_ok_bind {α : Type} (next : Unit → HostProg α) (host : Host) :
    (orFail (.ok ()) >>= next) host = next () host := rfl

theorem restrictPort_starts (h : Starts host host') : Starts host host'.restrictPort := by
  unfold Host.restrictPort
  cases host'.router.serverPort with
  | none => exact h
  | some port => exact ⟨h.mode, h.v6Id, h.isInitialized⟩

theorem restrictPort_attached (host : Host) : host.restrictPort.attached = host.attached := by
  unfold Host.restrictPort
  cases host.router.serverPort with
  | none => rfl
  | some port => rfl

theorem restrictPort_skel (h : host.router.skel.isSome) : host.restrictPort.router.skel.isSome := by
  unfold Host.restrictPort
  cases host.router.serverPort with
  | none => exact h
  | some port => exact (Option.isSome_map).trans h

theorem act_orFail_bind {α : Type} (f : Host → SystemMaybe × Host) (next : Unit → HostProg α)
    (host : Host) :
    (Prog.act f >>= fun res ↦ orFail res >>= next) host =
      match f host with
      | (.ok _, host') => next () host'
      | (.error e, host') => (.error (some (makeError e "init")), host') := by
  rw [Prog.bind_apply]
  unfold Prog.act
  cases f host with
  | mk res host' =>
    cases res with
    | ok _ => rfl
    | error e => rfl

/-- The part of `init` up to the attachment: it attaches, or it fails and attaches nothing. -/
theorem attachProg_cases (hfresh : host.router.isInitialized = false) :
    (∃ host', attachProg o host = (.ok (), host') ∧ host.Attaches o ∧ Starts host host' ∧
        host'.attached = true ∧ host'.router.skel.isSome) ∨
      ∃ e host', attachProg o host = (.error (some (.error e)), host') ∧ ¬ host.Attaches o ∧
        Starts host host' ∧ host'.attached = host.attached := by
  have hstarts : Starts host host := ⟨rfl, rfl, hfresh⟩
  have hcheck (next : Unit → HostProg Unit) :
      (Prog.read id >>= fun host ↦
        Prog.exitIf (host.router.isInitialized = true) none >>= next) host = next () host :=
    Prog.exitIf_bind_of_neg (by rw [id, hfresh]; decide) none next host
  unfold attachProg
  rw [hcheck]
  cases hutil : o.bpfUtil with
  | error e =>
    exact Or.inr ⟨_, host, rfl, fun h ↦ (by cases hutil.symm.trans h.bpfUtil), hstarts, rfl⟩
  | ok _ =>
  rw [orFail_ok_bind, act_orFail_bind]
  unfold openSkel
  by_cases hskel : host.router.skel.isSome
  · rw [if_pos hskel]
    exact Or.inr ⟨_, host, rfl, fun h ↦ (by rw [h.unopened] at hskel; cases hskel), hstarts, rfl⟩
  rw [if_neg hskel]
  cases hopen : o.openError with
  | some code =>
    exact Or.inr ⟨_, host, rfl, fun h ↦ (by cases hopen.symm.trans h.opened), hstarts, rfl⟩
  | none =>
  have hopened : Starts host { host with router.skel := some .new } := ⟨rfl, rfl, hfresh⟩
  have hstarts := restrictPort_starts hopened
  have hattached := restrictPort_attached { host with router.skel := some .new }
  have hsome : (Host.restrictPort { host with router.skel := some .new }).router.skel.isSome :=
    restrictPort_skel rfl
  dsimp only
  rw [Prog.modify_bind_apply, Prog.read_bind_apply]
  generalize Host.restrictPort { host with router.skel := some .new } = s at *
  unfold loadSkel
  rw [if_pos hsome]
  cases hload : o.loadError with
  | some code =>
    exact Or.inr ⟨_, s, rfl, fun h ↦ (by cases hload.symm.trans h.loaded), hstarts, hattached⟩
  | none =>
  rw [orFail_ok_bind, Prog.modify_bind_apply]
  by_cases hfd : o.progFd < 0
  · rw [if_pos hfd]
    exact Or.inr ⟨_, _, rfl, fun h ↦ Int.not_lt.mpr h.progFd hfd,
      ⟨hstarts.mode, hstarts.v6Id, hstarts.isInitialized⟩, hattached⟩
  rw [if_neg hfd, orFail_ok_bind]
  cases hattach : o.attach with
  | error e =>
    exact Or.inr ⟨_, _, rfl, fun h ↦ (by cases hattach.symm.trans h.attached),
      ⟨hstarts.mode, hstarts.v6Id, hstarts.isInitialized⟩, hattached⟩
  | ok _ =>
    have hattaches : host.Attaches o := ⟨hfresh, hutil, Option.not_isSome_iff_eq_none.mp hskel,
      hopen, hload, Int.not_lt.mp hfd, hattach⟩
    exact Or.inl
      ⟨_, rfl, hattaches, ⟨hstarts.mode, hstarts.v6Id, hstarts.isInitialized⟩, rfl, hsome⟩

/-- The owner's part of the router is the same, and the kernel announces its server id. -/
structure Announces (host host' : Host) : Prop where
  mode : host'.router.mode = host.router.mode
  v6Id : host'.router.v6Id = host.router.v6Id
  announcedId : host'.router.announcedId = some host'.router.serverInfo.serverId

/-- How `init` ends: it aborts, it attaches nothing, it attaches and cannot update the server
information, it shuts down for want of statistics, or it starts. -/
inductive InitEnds (host : Host) (pollStats : Bool) (o : InitOutcome) :
    Option SystemMaybe → Host → Prop
  | aborted : host.router.isInitialized = true → InitEnds host pollStats o none host
  | refused {e : SystemError} {host' : Host} : host.router.isInitialized = false →
      ¬ host.Attaches o → Starts host host' → host'.attached = host.attached →
      InitEnds host pollStats o (some (.error e)) host'
  | notUpdated {e : SystemError} {host' : Host} : host.Attaches o → o.update ≠ .ok () →
      Starts host host' → host'.attached = true →
      InitEnds host pollStats o (some (.error e)) host'
  | noStats {res : SystemMaybe} {host' : Host} : host.Attaches o → o.update = .ok () →
      pollStats = true → o.statsMapFd < 0 → Announces host host' →
      (o.detach = .ok () → res = .ok () ∧ host'.attached = false ∧
        host'.router.isInitialized = false) →
      InitEnds host pollStats o (some res) host'
  | started {host' : Host} : host.Attaches o → o.update = .ok () →
      (pollStats = true → 0 ≤ o.statsMapFd) → Announces host host' → host'.attached = true →
      host'.router.isInitialized = true → InitEnds host pollStats o (some (.ok ())) host'

/-- The owner's part of the router is the same, and so is what the kernel announces. -/
structure SameIds (host host' : Host) : Prop where
  mode : host'.router.mode = host.router.mode
  v6Id : host'.router.v6Id = host.router.v6Id
  skel : host'.router.skel = host.router.skel

theorem shutdown_uninitialized (h : host.router.isInitialized = false) (detach : SystemMaybe) :
    shutdown detach host = (.ok (), host) := if_pos h

theorem shutdown_sameIds (detach : SystemMaybe) (host : Host) :
    SameIds host (shutdown detach host).2 := by
  unfold shutdown
  split_ifs
  · exact ⟨rfl, rfl, rfl⟩
  · cases detach with
    | ok _ => exact ⟨rfl, rfl, rfl⟩
    | error e => exact ⟨rfl, rfl, rfl⟩

theorem shutdown_detaches (h : host.router.isInitialized = true) :
    (shutdown (.ok ()) host).1 = .ok () ∧ (shutdown (.ok ()) host).2.attached = false ∧
      (shutdown (.ok ()) host).2.router.isInitialized = false := by
  unfold shutdown
  rw [if_neg (by rw [h]; decide)]
  exact ⟨rfl, rfl, rfl⟩

theorem SameIds.announces {s : Host} (h : SameIds host s) (hannounces : Announces host' host) :
    Announces host' s := by
  refine ⟨h.mode.trans hannounces.mode, h.v6Id.trans hannounces.v6Id, ?_⟩
  have hinfo : s.router.serverInfo.serverId = host.router.serverInfo.serverId := by
    unfold TcpPktRouter.serverInfo
    rw [h.mode, h.v6Id]
    split_ifs
    · rfl
    · rfl
  rw [TcpPktRouter.announcedId, h.skel, hinfo]
  exact hannounces.announcedId

/-- The update of the server information announces the id of the router. -/
theorem updateServerInfo_announces (hsome : host.router.skel.isSome) (isInitialized : Bool) :
    Announces host { (updateServerInfo (.ok ()) host).2 with
      router.isInitialized := isInitialized } := by
  obtain ⟨skel, hskel⟩ := Option.isSome_iff_exists.mp hsome
  refine ⟨rfl, rfl, ?_⟩
  simp only [TcpPktRouter.announcedId, updateServerInfo, hskel, Option.map_some]
  rfl

theorem updateServerInfo_ok (host : Host) :
    updateServerInfo (.ok ()) host = (.ok (), (updateServerInfo (.ok ()) host).2) := rfl

theorem init_ends (pollStats : Bool) (o : InitOutcome) (host : Host) :
    InitEnds host pollStats o ((init pollStats o).result host).1
      ((init pollStats o).result host).2 := by
  cases hfresh : host.router.isInitialized with
  | true =>
    have habort : (init pollStats o).result host = (none, host) := by
      unfold Prog.result init attachProg
      simp only [Prog.bind_apply, Prog.read, id, hfresh, Prog.exitIf_apply, if_true]
    rw [habort]
    exact .aborted hfresh
  | false =>
    rcases attachProg_cases hfresh with
      ⟨s, hrun, hattaches, hstarts, hattached, hsome⟩ | ⟨e, s, hrun, hnot, hstarts, hattached⟩
    · unfold init
      rw [Prog.result_bind hrun, Prog.result, act_orFail_bind]
      cases hupdate : o.update with
      | error e =>
        have hnotUpdated : o.update ≠ .ok () := by
          rw [hupdate]
          intro h
          cases h
        exact .notUpdated hattaches hnotUpdated hstarts hattached
      | ok _ =>
        have hannounces : Announces host
            { (updateServerInfo (.ok ()) s).2 with
              router.isInitialized := true } := by
          have h := updateServerInfo_announces hsome true
          exact ⟨h.mode.trans hstarts.mode, h.v6Id.trans hstarts.v6Id, h.announcedId⟩
        rw [updateServerInfo_ok]
        dsimp only
        by_cases hpoll : pollStats = true
        · by_cases hfd : o.statsMapFd < 0
          · rw [Prog.modify_bind_apply, Prog.when, if_pos hpoll, pollStatsProg, if_pos hfd]
            refine .noStats hattaches hupdate hpoll hfd
              ((shutdown_sameIds o.detach _).announces hannounces) fun hdetach ↦ ?_
            rw [hdetach]
            exact shutdown_detaches rfl
          · rw [Prog.modify_bind_apply, Prog.when, if_pos hpoll, pollStatsProg, if_neg hfd]
            exact .started hattaches hupdate (fun _ ↦ Int.not_lt.mp hfd)
              ⟨hannounces.mode, hannounces.v6Id, hannounces.announcedId⟩ hattached rfl
        · rw [Prog.modify_bind_apply, Prog.when, if_neg hpoll]
          exact .started hattaches hupdate (fun h ↦ absurd h hpoll) hannounces hattached rfl
    · unfold init
      rw [Prog.result, Prog.bind_apply, hrun]
      exact .refused hfresh hnot hstarts hattached

/-- Every call of the system succeeds. -/
def plainInit : InitOutcome where
  bpfUtil := .ok ()
  openError := none
  loadError := none
  progFd := 3
  attach := .ok ()
  update := .ok ()
  statsMapFd := 4
  runStatsPoller := .ok ()
  detach := .ok ()

def serverRouter : TcpPktRouter := .new .server false none 0

end Vsoshlb.Tpr
