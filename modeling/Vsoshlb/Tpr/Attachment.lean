import Vsoshlb.Library.Runs
import Vsoshlb.Tpr.PktRouter

/-!
# The attachment of the router's program

The flag `isInitialized_` is what `shutdown` and the destructor go by. `init` sets it after the
attachment, and an error in between leaves a program attached that nobody detaches.
-/

namespace Vsoshlb.Tpr

open EarlyExit

/-- The calls in the life of a router. -/
inductive LifeCall where
  | init (pollStats : Bool) (o : InitOutcome)
  | shutdown (detach : SystemMaybe)
  | destroy (detach : SystemMaybe)

/-- A router with its cgroup, and whether it has been destroyed. -/
structure Life where
  host : Host
  destroyed : Bool
deriving DecidableEq, Repr

def Life.new (router : TcpPktRouter) : Life := ⟨.new router, false⟩

/-- `~TcpPktRouter`. -/
def destroy (detach : SystemMaybe) (host : Host) : Host := (shutdown detach host).2

/-- A call with its result, where it completes. Nothing is called on a destroyed router. -/
def LifeCall.run (life : Life) (call : LifeCall) : Option (SystemMaybe × Life) :=
  if life.destroyed then
    none
  else
    match call with
    | .init pollStats o =>
      let ended := (Tpr.init pollStats o).result life.host
      ended.1.map fun res ↦ (res, ⟨ended.2, false⟩)
    | .shutdown detach =>
      let ended := Tpr.shutdown detach life.host
      some (ended.1, ⟨ended.2, false⟩)
    | .destroy detach => some (.ok (), ⟨Tpr.destroy detach life.host, true⟩)

def lifeStep (life : Life) (call : LifeCall) : Option Life := (call.run life).map Prod.snd

/-- A router says that it is initialized exactly when its program is attached. -/
def Life.Tracks (life : Life) : Prop :=
  life.host.router.isInitialized = true ↔ life.host.attached = true

/-- The call leaves a router that tracks its attachment, or none at all and nothing attached; and an
`init` that succeeds has initialized it. -/
def KeepsTrack (life : Life) (call : LifeCall) : Prop :=
  ∀ res life', call.run life = some (res, life') →
    (life'.destroyed = true → life'.host.attached = false) ∧
      (life'.destroyed = false → life'.Tracks) ∧
      (∀ pollStats o, call = .init pollStats o → res = .ok () →
        life'.host.router.isInitialized = true)

/-- An `init` that attaches the program can update the server information, and has the map of the
statistics where it is to poll them. -/
def CompletesStart (life : Life) : LifeCall → Prop
  | .init pollStats o => life.host.Attaches o →
      o.update = .ok () ∧ (pollStats = true → 0 ≤ o.statsMapFd)
  | _ => True

/-- The detachment in the call succeeds. -/
def LifeCall.Detaches : LifeCall → Prop
  | .init _ o => o.detach = .ok ()
  | .shutdown detach => detach = .ok ()
  | .destroy detach => detach = .ok ()

variable {life life' : Life} {host : Host}

theorem shutdown_clear (h : host.router.isInitialized = true ↔ host.attached = true) :
    (shutdown (.ok ()) host).2.attached = false ∧
      (shutdown (.ok ()) host).2.router.isInitialized = false := by
  cases hinit : host.router.isInitialized with
  | false =>
    rw [shutdown_uninitialized hinit]
    refine ⟨Bool.eq_false_iff.mpr fun hattached ↦ ?_, hinit⟩
    rw [h.mpr hattached] at hinit
    cases hinit
  | true => exact (shutdown_detaches hinit).2

theorem init_keepsTrack_iff {pollStats : Bool} {o : InitOutcome} {res : SystemMaybe} {host' : Host}
    (h : host.router.isInitialized = true ↔ host.attached = true) (hdetach : o.detach = .ok ())
    (hend : InitEnds host pollStats o (some res) host') :
    ((host'.router.isInitialized = true ↔ host'.attached = true) ∧
        (res = .ok () → host'.router.isInitialized = true)) ↔
      (host.Attaches o → o.update = .ok () ∧ (pollStats = true → 0 ≤ o.statsMapFd)) := by
  cases hend with
  | refused hfresh hnot hstarts hattached =>
    refine iff_of_true ⟨?_, nofun⟩ fun hattaches ↦ absurd hattaches hnot
    rw [hattached, ← h, hstarts.isInitialized, hfresh]
  | notUpdated hattaches hupdate hstarts hattached =>
    refine iff_of_false (fun hkeeps ↦ ?_) fun hstart ↦ hupdate (hstart hattaches).1
    rw [hattached, hstarts.isInitialized] at hkeeps
    cases hkeeps.1.mpr rfl
  | noStats hattaches hupdate hpoll hfd hannounces hstopped =>
    obtain ⟨hres, hattached, hinit⟩ := hstopped hdetach
    refine iff_of_false (fun hkeeps ↦ ?_) fun hstart ↦
      Int.not_lt.mpr ((hstart hattaches).2 hpoll) hfd
    rw [hkeeps.2 hres] at hinit
    cases hinit
  | started hattaches hupdate hfd hannounces hattached hinit =>
    exact iff_of_true ⟨iff_of_true hinit hattached, fun _ ↦ hinit⟩ fun _ ↦ ⟨hupdate, hfd⟩

theorem live_of_step {call : LifeCall} (hstep : lifeStep life call = some life') :
    life.destroyed = false := by
  cases hdestroyed : life.destroyed with
  | false => rfl
  | true =>
    simp only [lifeStep, LifeCall.run, hdestroyed, if_true, Option.map_none] at hstep
    cases hstep

/-- A call keeps track of the attachment if and only if it is no start that attaches the program and
then fails. -/
theorem keepsTrack_iff {call : LifeCall} (h : life.destroyed = false → life.Tracks)
    (hdetach : call.Detaches) (hstep : lifeStep life call = some life') :
    KeepsTrack life call ↔ CompletesStart life call := by
  have hlive := live_of_step hstep
  have htracks := h hlive
  obtain ⟨⟨res, after⟩, hrun, rfl⟩ := Option.map_eq_some_iff.mp hstep
  apply (Runs.forall_result_iff hrun).trans
  simp only [LifeCall.run, hlive, Bool.false_eq_true, if_false] at hrun
  cases call with
  | init pollStats o =>
    obtain ⟨res', hres, heq⟩ := Option.map_eq_some_iff.mp hrun
    obtain ⟨rfl, rfl⟩ := Prod.mk.inj heq
    have hend := init_ends pollStats o life.host
    rw [hres] at hend
    have hiff := init_keepsTrack_iff htracks hdetach hend
    rw [CompletesStart, ← hiff]
    constructor
    · rintro ⟨-, hkeeps, hstarted⟩
      exact ⟨hkeeps rfl, hstarted pollStats o rfl⟩
    · rintro ⟨hkeeps, hstarted⟩
      exact ⟨nofun, fun _ ↦ hkeeps, fun _ _ _ ↦ hstarted⟩
  | shutdown detach =>
    obtain ⟨rfl, rfl⟩ := Prod.mk.inj (Option.some.inj hrun)
    obtain rfl : detach = .ok () := hdetach
    obtain ⟨hattached, hinit⟩ := shutdown_clear htracks
    have htracks' : Life.Tracks ⟨(Tpr.shutdown (.ok ()) life.host).2, false⟩ := by
      rw [Life.Tracks, hattached, hinit]
    exact iff_of_true ⟨nofun, fun _ ↦ htracks', fun _ _ h ↦ (by cases h)⟩ trivial
  | destroy detach =>
    obtain ⟨rfl, rfl⟩ := Prod.mk.inj (Option.some.inj hrun)
    obtain rfl : detach = .ok () := hdetach
    have hclear := (shutdown_clear htracks).1
    exact iff_of_true ⟨fun _ ↦ hclear, nofun, fun _ _ h ↦ (by cases h)⟩ trivial

/-- Along a run of a router whose detachments succeed, every call keeps track of the attachment if
and only if every start that attaches the program can complete. -/
theorem attachment_tracked_iff {mode : RunningMode} {kdeEnabled : Bool}
    {serverPort : Option (BitVec 32)} {v6Id : BitVec 32} {calls : List LifeCall} {t : Life}
    (hdetach : ∀ call ∈ calls, call.Detaches)
    (hrun : calls.foldlM lifeStep (.new (.new mode kdeEnabled serverPort v6Id)) = some t) :
    Runs.Along lifeStep KeepsTrack (.new (.new mode kdeEnabled serverPort v6Id)) calls ↔
      Runs.Along lifeStep CompletesStart (.new (.new mode kdeEnabled serverPort v6Id)) calls := by
  have htracks : (Life.new (.new mode kdeEnabled serverPort v6Id)).Tracks := Iff.rfl
  refine Runs.along_congr (I := fun life ↦ life.destroyed = false → life.Tracks)
    (fun life call hmem life' h hstep ↦ keepsTrack_iff h (hdetach call hmem) hstep)
    (fun life call _ life' _ hkeeps hstep ↦ ?_) (fun _ ↦ htracks) hrun
  obtain ⟨⟨res, after⟩, hrun, rfl⟩ := Option.map_eq_some_iff.mp hstep
  exact (hkeeps res after hrun).2.1

theorem plain_life_tracked :
    Runs.Along lifeStep KeepsTrack (.new (.new .server false none 0))
      [.init true plainInit, .shutdown (.ok ()), .destroy (.ok ())] := by
  have hreturns : ([.init true plainInit, .shutdown (.ok ()), .destroy (.ok ())].foldlM lifeStep
      (.new (.new .server false none 0))).isSome := by decide
  obtain ⟨t, hrun⟩ := Option.isSome_iff_exists.mp hreturns
  have hdetach : ∀ call ∈ [LifeCall.init true plainInit, .shutdown (.ok ()), .destroy (.ok ())],
      call.Detaches := by
    simp [LifeCall.Detaches, plainInit]
  refine (attachment_tracked_iff hdetach hrun).mpr ⟨fun _ ↦ ⟨rfl, fun _ ↦ by decide⟩, ?_⟩
  exact fun _ _ ↦ ⟨trivial, fun _ _ ↦ ⟨trivial, fun _ _ ↦ trivial⟩⟩

/-- The kernel refuses the update of the server information. -/
def failedUpdate : InitOutcome :=
  { plainInit with
    update := .error ⟨einval, "Error while updating map"⟩ }

/-- The program is attached, the router takes itself for uninitialized, and the program is still
attached when the router is no more. -/
theorem failed_update_leaks :
    ([LifeCall.init false failedUpdate, .destroy (.ok ())].foldlM lifeStep
        (.new serverRouter)).map (fun life ↦ (life.destroyed, life.host.attached)) =
      some (true, true) ∧
    ¬ Runs.Along lifeStep KeepsTrack (.new serverRouter)
      [.init false failedUpdate, .destroy (.ok ())] := by
  refine ⟨by decide, fun hkeeps ↦ ?_⟩
  have hsome : ((LifeCall.init false failedUpdate).run (.new serverRouter)).isSome := by decide
  obtain ⟨⟨res, life⟩, hrun⟩ := Option.isSome_iff_exists.mp hsome
  have hlife : ((LifeCall.init false failedUpdate).run (.new serverRouter)).map (fun ended ↦
      (ended.2.destroyed, ended.2.host.router.isInitialized, ended.2.host.attached)) =
        some (false, false, true) := by decide
  rw [hrun] at hlife
  obtain ⟨hdestroyed, hlife⟩ := Prod.mk.inj (Option.some.inj hlife)
  obtain ⟨hinit, hattached⟩ := Prod.mk.inj hlife
  have htracks := (hkeeps.1 res life hrun).2.1 hdestroyed
  rw [Life.Tracks, hinit, hattached] at htracks
  cases htracks.mpr rfl

end Vsoshlb.Tpr
