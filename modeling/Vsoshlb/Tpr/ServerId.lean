import Vsoshlb.Library.Runs
import Vsoshlb.Tpr.PktRouter

/-!
# The server id that the router reports

`setServerIdV6` remembers the id before it updates the map of the kernel, and takes an id that is
remembered for one that is set. After a failed update the router reports an id that the kernel does
not announce.
-/

namespace Vsoshlb.Tpr

open EarlyExit

/-- The calls that set the server id. -/
inductive IdCall where
  | init (pollStats : Bool) (o : InitOutcome)
  | setServerIdV6 (id : BitVec 32) (update : SystemMaybe)

/-- A host, and whether some `init` has returned success. -/
structure IdHistory where
  host : Host
  initSucceeded : Bool

def IdHistory.new (router : TcpPktRouter) : IdHistory := ⟨.new router, false⟩

/-- A call with its reply, which is true for success. -/
def IdCall.run (host : Host) : IdCall → Option (Bool × Host)
  | .init pollStats o =>
    let ended := (Tpr.init pollStats o).result host
    ended.1.map fun res ↦ (res matches .ok _, ended.2)
  | .setServerIdV6 id update => Tpr.setServerIdV6 id update host

def idStep (history : IdHistory) (call : IdCall) : Option IdHistory :=
  (call.run history.host).map fun ended ↦
    ⟨ended.2, history.initSucceeded || ((call matches .init _ _) && ended.1)⟩

/-- A call of `setServerIdV6` that succeeds after an `init` has set the id, and one that fails has
changed nothing. -/
def ReportsTruly (history : IdHistory) : IdCall → Prop
  | .init _ _ => True
  | .setServerIdV6 id update => ∀ reply host', setServerIdV6 id update history.host =
      some (reply, host') →
    (reply = true → history.initSucceeded = true → host'.router.announcedId = some id) ∧
      (reply = false → host'.router.v6Id = history.host.router.v6Id ∧
        host'.router.skel.map TprBpf.serverInfo =
          history.host.router.skel.map TprBpf.serverInfo)

/-- A call of `setServerIdV6` with a valid id: on an initialized router the id is the remembered
one, or the update succeeds; on one that is not initialized though some `init` returned success, the
kernel announces the id already. -/
def CanSet (history : IdHistory) : IdCall → Prop
  | .init _ _ => True
  | .setServerIdV6 id update => id ≤ kMaxServerId →
    (history.host.router.isInitialized = true →
      history.host.router.v6Id = id ∨ update = .ok ()) ∧
    (history.host.router.isInitialized = false → history.initSucceeded = true →
      history.host.router.announcedId = some id)

/-- The kernel announces the remembered id while a server is initialized. -/
structure Truthful (router : TcpPktRouter) : Prop where
  mode : router.mode = .server
  announced : router.isInitialized = true → router.announcedId = some router.v6Id

variable {history history' : IdHistory} {host host' : Host} {id : BitVec 32} {update : SystemMaybe}

theorem Announces.truthful (h : Announces host host') (hmode : host.router.mode = .server) :
    Truthful host'.router := by
  have hmode' := h.mode.trans hmode
  refine ⟨hmode', fun _ ↦ ?_⟩
  rw [h.announcedId, TcpPktRouter.serverInfo, if_pos hmode']

theorem Starts.truthful (h : Starts host host') (hmode : host.router.mode = .server) :
    Truthful host'.router := by
  refine ⟨h.mode.trans hmode, fun hinit ↦ ?_⟩
  rw [h.isInitialized] at hinit
  cases hinit

theorem init_truthful {pollStats : Bool} {o : InitOutcome} {res : SystemMaybe}
    (h : Truthful host.router) (hend : InitEnds host pollStats o (some res) host') :
    Truthful host'.router := by
  cases hend with
  | refused _ _ hstarts _ => exact hstarts.truthful h.mode
  | notUpdated _ _ hstarts _ => exact hstarts.truthful h.mode
  | noStats _ _ _ _ hannounces _ => exact hannounces.truthful h.mode
  | started _ _ _ hannounces _ _ => exact hannounces.truthful h.mode

/-- How `setServerIdV6` ends on a server: the id is too large, it is the remembered one, the router
is not initialized, or the map of the kernel is updated. -/
inductive SetEnds (host : Host) (id : BitVec 32) (update : SystemMaybe) : Bool → Host → Prop
  | tooLarge : kMaxServerId < id → SetEnds host id update false host
  | alreadySet : id ≤ kMaxServerId → host.router.v6Id = id → SetEnds host id update true host
  | remembered : id ≤ kMaxServerId → host.router.v6Id ≠ id → host.router.isInitialized = false →
      SetEnds host id update true { host with router.v6Id := id }
  | updated : id ≤ kMaxServerId → host.router.v6Id ≠ id → host.router.isInitialized = true →
      update = .ok () →
      SetEnds host id update true (updateServerInfo (.ok ()) { host with router.v6Id := id }).2
  | failed : id ≤ kMaxServerId → host.router.v6Id ≠ id → host.router.isInitialized = true →
      update ≠ .ok () → SetEnds host id update false { host with router.v6Id := id }

theorem setServerIdV6_ends (id : BitVec 32) (update : SystemMaybe)
    (hmode : host.router.mode = .server) :
    ∃ reply host', setServerIdV6 id update host = some (reply, host') ∧
      SetEnds host id update reply host' := by
  unfold setServerIdV6
  rw [if_neg (not_not_intro hmode)]
  by_cases hlarge : kMaxServerId < id
  · rw [if_pos hlarge]
    exact ⟨_, _, rfl, .tooLarge hlarge⟩
  have hle : id ≤ kMaxServerId := BitVec.not_lt.mp hlarge
  rw [if_neg hlarge]
  by_cases hsame : host.router.v6Id = id
  · rw [if_pos hsame]
    exact ⟨_, _, rfl, .alreadySet hle hsame⟩
  rw [if_neg hsame]
  dsimp only
  by_cases hinit : host.router.isInitialized = true
  · rw [if_pos hinit]
    cases update with
    | ok _ =>
      rw [updateServerInfo_ok]
      exact ⟨_, _, rfl, .updated hle hsame hinit rfl⟩
    | error e => exact ⟨_, _, rfl, .failed hle hsame hinit nofun⟩
  · rw [if_neg hinit]
    exact ⟨_, _, rfl, .remembered hle hsame (Bool.eq_false_iff.mpr hinit)⟩

theorem updated_announces (id : BitVec 32) (h : Truthful host.router)
    (hinit : host.router.isInitialized = true) :
    Announces { host with router.v6Id := id }
      (updateServerInfo (.ok ()) { host with router.v6Id := id }).2 := by
  have hsome : host.router.skel.isSome := by
    have hannounced := h.announced hinit
    unfold TcpPktRouter.announcedId at hannounced
    cases hskel : host.router.skel with
    | none =>
      rw [hskel] at hannounced
      cases hannounced
    | some skel => rfl
  exact @updateServerInfo_announces { host with router.v6Id := id } hsome
    host.router.isInitialized

/-- A call reports truly if and only if the id can be set. -/
theorem reportsTruly_iff (h : Truthful history.host.router) (call : IdCall) :
    ReportsTruly history call ↔ CanSet history call := by
  cases call with
  | init pollStats o => exact Iff.rfl
  | setServerIdV6 id update =>
    obtain ⟨reply, host', hrun, hend⟩ := setServerIdV6_ends id update h.mode
    apply (Runs.forall_result_iff hrun).trans
    unfold CanSet
    cases hend with
    | tooLarge hlarge =>
      exact iff_of_true ⟨nofun, fun _ ↦ ⟨rfl, rfl⟩⟩ fun hle ↦ absurd hlarge (BitVec.not_lt.mpr hle)
    | alreadySet hle hsame =>
      constructor
      · intro htruly _
        exact ⟨fun _ ↦ Or.inl hsame, fun _ hsucceeded ↦ htruly.1 rfl hsucceeded⟩
      · intro hcan
        refine ⟨fun _ hsucceeded ↦ ?_, nofun⟩
        cases hinit : history.host.router.isInitialized with
        | false => exact (hcan hle).2 hinit hsucceeded
        | true => rw [h.announced hinit, hsame]
    | remembered hle hne hinit =>
      constructor
      · intro htruly _
        refine ⟨fun hinit' ↦ ?_, fun _ hsucceeded ↦ htruly.1 rfl hsucceeded⟩
        rw [hinit] at hinit'
        cases hinit'
      · exact fun hcan ↦ ⟨fun _ hsucceeded ↦ (hcan hle).2 hinit hsucceeded, nofun⟩
    | updated hle hne hinit hupdate =>
      have hannounced := ((updated_announces id h hinit).truthful h.mode).announced hinit
      refine iff_of_true ⟨fun _ _ ↦ hannounced, nofun⟩ fun _ ↦
        ⟨fun _ ↦ Or.inr hupdate, fun hinit' ↦ ?_⟩
      rw [hinit] at hinit'
      cases hinit'
    | failed hle hne hinit hupdate =>
      refine iff_of_false (fun htruly ↦ hne (htruly.2 rfl).1.symm) fun hcan ↦ ?_
      exact ((hcan hle).1 hinit).elim hne hupdate

/-- A call that reports truly keeps the router truthful. -/
theorem idStep_truthful {call : IdCall} (h : Truthful history.host.router)
    (htruly : ReportsTruly history call) (hstep : idStep history call = some history') :
    Truthful history'.host.router := by
  obtain ⟨⟨reply, host'⟩, hrun, rfl⟩ := Option.map_eq_some_iff.mp hstep
  cases call with
  | init pollStats o =>
    obtain ⟨res, hres, heq⟩ := Option.map_eq_some_iff.mp hrun
    obtain ⟨-, rfl⟩ := Prod.mk.inj heq
    have hend := init_ends pollStats o history.host
    rw [hres] at hend
    exact init_truthful h hend
  | setServerIdV6 id update =>
    obtain ⟨reply', host'', hrun', hend⟩ := setServerIdV6_ends id update h.mode
    obtain ⟨rfl, rfl⟩ := Prod.mk.inj (Option.some.inj (hrun'.symm.trans hrun))
    cases hend with
    | tooLarge _ => exact h
    | alreadySet _ _ => exact h
    | remembered _ _ hinit =>
      exact ⟨h.mode, fun hinit' ↦ by cases hinit.symm.trans hinit'⟩
    | updated _ _ hinit _ => exact (updated_announces id h hinit).truthful h.mode
    | failed _ hne _ _ => exact absurd ((htruly false _ hrun).2 rfl).1.symm hne

/-- Along a run of a router in server mode every call reports the server id truly if and only if
every valid id that is set can be set. -/
theorem serverId_truthful_iff {kdeEnabled : Bool} {serverPort : Option (BitVec 32)}
    {v6Id : BitVec 32} {calls : List IdCall} {t : IdHistory}
    (hrun : calls.foldlM idStep (.new (.new .server kdeEnabled serverPort v6Id)) = some t) :
    Runs.Along idStep ReportsTruly (.new (.new .server kdeEnabled serverPort v6Id)) calls ↔
      Runs.Along idStep CanSet (.new (.new .server kdeEnabled serverPort v6Id)) calls :=
  Runs.along_congr (I := fun history ↦ Truthful history.host.router)
    (fun _ call _ _ h _ ↦ reportsTruly_iff h call)
    (fun _ _ _ _ h htruly hstep ↦ idStep_truthful h htruly hstep) ⟨rfl, nofun⟩ hrun

theorem set_reports_truly :
    Runs.Along idStep ReportsTruly (.new (.new .server false none 0))
      [.init false plainInit, .setServerIdV6 7 (.ok ())] := by
  have hreturns : ([.init false plainInit, .setServerIdV6 7 (.ok ())].foldlM idStep
      (.new (.new .server false none 0))).isSome := by decide
  obtain ⟨t, hrun⟩ := Option.isSome_iff_exists.mp hreturns
  refine (serverId_truthful_iff hrun).mpr ⟨trivial, fun history hstep ↦ ⟨fun _ ↦ ?_, ?_⟩⟩
  · refine ⟨fun _ ↦ Or.inr rfl, fun hinit ↦ ?_⟩
    have hstarted : (idStep (.new (.new .server false none 0)) (.init false plainInit)).map
        (fun history ↦ history.host.router.isInitialized) = some true := by decide
    rw [hstep, Option.map_some, hinit] at hstarted
    cases hstarted
  · exact fun _ _ ↦ trivial

def refusedUpdate : SystemMaybe := .error ⟨einval, "Error while updating map"⟩

/-- The update for id 7 fails. Then id 7 is said to be set, while the kernel announces 0. -/
theorem failed_set_misreports :
    (([IdCall.init false plainInit, .setServerIdV6 7 refusedUpdate].foldlM idStep
        (.new serverRouter)).bind fun history ↦ setServerIdV6 7 (.ok ()) history.host).map
          (fun ended ↦ (ended.1, ended.2.router.announcedId)) = some (true, some 0) ∧
      ¬ Runs.Along idStep ReportsTruly (.new serverRouter)
        [.init false plainInit, .setServerIdV6 7 refusedUpdate] := by
  refine ⟨by decide, fun htruly ↦ ?_⟩
  have hstarted : (idStep (.new serverRouter) (.init false plainInit)).map
      (fun history ↦ (history.host.router.v6Id,
        (setServerIdV6 7 refusedUpdate history.host).map fun ended ↦
          (ended.1, ended.2.router.v6Id))) = some (0, some (false, 7)) := by decide
  obtain ⟨history, hstep, hids⟩ := Option.map_eq_some_iff.mp hstarted
  obtain ⟨hbefore, hset⟩ := Prod.mk.inj hids
  obtain ⟨⟨reply, host'⟩, hrun, hafter⟩ := Option.map_eq_some_iff.mp hset
  obtain ⟨rfl, hafter⟩ := Prod.mk.inj hafter
  have hsame := (((htruly.2 history hstep).1 false host' hrun).2 rfl).1
  rw [hbefore, hafter] at hsame
  cases hsame

end Vsoshlb.Tpr
