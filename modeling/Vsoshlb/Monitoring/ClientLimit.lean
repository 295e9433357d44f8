import Vsoshlb.Library.Runs
import Vsoshlb.Monitoring.ServiceCore

/-!
# The limit of the subscriptions

A request is accepted while the map of the subscriptions has room, and its client enters the map
with a later call that checks nothing. Clients that have been accepted and have not called back yet
count for nothing when the next request comes. The limit holds whatever these clients do next
exactly as long as they would fit as well.
-/

namespace Vsoshlb.Monitoring

open HashTable

variable {Sub : Type}

/-- The core, and the accepted results whose clients have not called `onClientSubscribed` yet. -/
structure Clients (Sub : Type) where
  core : MonitoringServiceCore Sub
  pending : List (ClientId × EventIds)

/-- A step of some client, or of the owner of the core. -/
inductive ClientStep (Sub : Type) where
  | accept (requestedEvents : EventIds)
  | subscribe (index : ℕ) (sub : Sub)
  | cancel (cid : ClientId)
  | setLimit (limit : ClientId)

/-- The id and the events that a client is accepted with. -/
def SubscriptionResult.accepted (result : SubscriptionResult) : List (ClientId × EventIds) :=
  (result.cid.bind fun cid ↦ result.subscribedEvents.map fun events ↦ (cid, events)).toList

/-- A client subscribes once, with what it was accepted with. -/
def clientStep (clients : Clients Sub) : ClientStep Sub → Option (Clients Sub)
  | .accept requestedEvents =>
    (clients.core.acceptSubscription requestedEvents).map fun answer ↦
      ⟨answer.2, clients.pending ++ answer.1.accepted⟩
  | .subscribe index sub =>
    clients.pending[index]?.bind fun accepted ↦
      (clients.core.onClientSubscribed accepted.1 sub accepted.2).map fun answer ↦
        ⟨answer.2, clients.pending.eraseIdx index⟩
  | .cancel cid => (clients.core.onClientCanceled cid).map fun core ↦ ⟨core, clients.pending⟩
  | .setLimit limit => some ⟨clients.core.setLimit limit, clients.pending⟩

/-- A core that has been initialized for a monitor with the given events, and no clients. -/
def startClients (events : List EventId) (pipe2 : EventId → Bool) : Clients Sub :=
  ⟨(MonitoringServiceCore.new.initializeWith (some events) pipe2).2, []⟩

def WithinLimit (clients : Clients Sub) : Prop :=
  size clients.core.subscriptionMap ≤ clients.core.clientLimit.toNat

/-- The clients of the map, and those that can enter it without another check. -/
def Clients.admitted (clients : Clients Sub) : Finset ClientId :=
  clients.core.subscriptionMap.keys ∪ (clients.pending.map Prod.fst).toFinset

def Fits (clients : Clients Sub) : Prop :=
  clients.admitted.card ≤ clients.core.clientLimit.toNat

/-- A request that the core lets through finds room behind the clients that were let through before
it, and no limit is set below their number. -/
def LeavesRoom (clients : Clients Sub) : ClientStep Sub → Prop
  | .accept requestedEvents =>
    (clients.core.enabledEvents ∩ requestedEvents).Nonempty →
      size clients.core.subscriptionMap < clients.core.clientLimit.toNat →
      (insert clients.core.currCid clients.admitted).card ≤ clients.core.clientLimit.toNat
  | .setLimit limit =>
    size clients.core.subscriptionMap ≤ limit.toNat → clients.admitted.card ≤ limit.toNat
  | .subscribe _ _ | .cancel _ => True

def ClientStep.IsSubscribe : ClientStep Sub → Prop
  | .subscribe _ _ => True
  | _ => False

/-! ## What the calls leave alone -/

/-- The events with a callback and the limit are the same. -/
structure SameSetup (core core' : MonitoringServiceCore Sub) : Prop where
  initialized : core'.initialized = core.initialized
  enabledEvents : core'.enabledEvents = core.enabledEvents
  clientLimit : core'.clientLimit = core.clientLimit
  callbacks : ∀ eventId, (core'.eventPipeCbs eventId).isSome = (core.eventPipeCbs eventId).isSome

variable {core core' : MonitoringServiceCore Sub} {cid : ClientId} {sub : Sub} {events : EventIds}

theorem updateCallbacks_sameSetup (events : EventIds)
    (f : EventPipeCallback Sub → EventPipeCallback Sub) (core : MonitoringServiceCore Sub) :
    SameSetup core (core.updateCallbacks events f) := by
  refine ⟨rfl, rfl, rfl, fun eventId ↦ ?_⟩
  unfold MonitoringServiceCore.updateCallbacks
  dsimp only
  split_ifs
  · exact Option.isSome_map
  · rfl

/-- An addition is refused for want of a callback, or it enters the client where it is new. -/
theorem addSubscription_cases {reply : Bool}
    (h : core.addSubscription cid sub events = some (reply, core')) :
    (reply = false ∧ ¬ core.HasCallbacks events ∧ core' = core) ∨
      (reply = true ∧ core.HasCallbacks events ∧ SameSetup core core' ∧
        core'.subscriptionMap = insertNew core.subscriptionMap cid sub) := by
  unfold MonitoringServiceCore.addSubscription at h
  split_ifs at h with hinit hcallbacks
  · obtain ⟨rfl, rfl⟩ := Prod.mk.inj (Option.some.inj h)
    have hsetup := updateCallbacks_sameSetup events (.addClientSubscription cid sub) core
    exact Or.inr ⟨rfl, hcallbacks,
      ⟨hsetup.initialized, hsetup.enabledEvents, hsetup.clientLimit, hsetup.callbacks⟩, rfl⟩
  · obtain ⟨rfl, rfl⟩ := Prod.mk.inj (Option.some.inj h)
    exact Or.inl ⟨rfl, hcallbacks, rfl⟩

theorem removeFromCallbacks_cases (h : core.removeFromCallbacks cid = some core') :
    SameSetup core core' ∧ core'.subscriptionMap = core.subscriptionMap := by
  unfold MonitoringServiceCore.removeFromCallbacks at h
  split at h
  · obtain rfl := Option.some.inj h
    exact ⟨⟨rfl, rfl, rfl, fun _ ↦ Option.isSome_map⟩, rfl⟩
  · split_ifs at h
    obtain rfl := Option.some.inj h
    exact ⟨updateCallbacks_sameSetup _ _ core, rfl⟩

theorem cancelSubscription_cases (h : core.cancelSubscription cid = some core') :
    SameSetup core core' ∧ core'.subscriptionMap = core.subscriptionMap.erase cid := by
  unfold MonitoringServiceCore.cancelSubscription at h
  split_ifs at h
  obtain ⟨removed, hremoved, rfl⟩ := Option.map_eq_some_iff.mp h
  obtain ⟨hsetup, hmap⟩ := removeFromCallbacks_cases hremoved
  exact ⟨⟨hsetup.initialized, hsetup.enabledEvents, hsetup.clientLimit, hsetup.callbacks⟩,
    by rw [hmap]⟩

theorem SameSetup.refl (core : MonitoringServiceCore Sub) : SameSetup core core :=
  ⟨rfl, rfl, rfl, fun _ ↦ rfl⟩

/-- A request is accepted with enabled events, and it changes the counter of the ids alone. -/
theorem acceptSubscription_cases {requestedEvents : EventIds} {result : SubscriptionResult}
    (h : core.acceptSubscription requestedEvents = some (result, core')) :
    SameSetup core core' ∧ core'.subscriptionMap = core.subscriptionMap ∧
      ∀ accepted ∈ result.accepted, accepted.2 ⊆ core.enabledEvents := by
  have hrejected : ∀ status, some ((⟨status, none, none⟩ : SubscriptionResult), core) =
      some (result, core') →
      SameSetup core core' ∧ core'.subscriptionMap = core.subscriptionMap ∧
        ∀ accepted ∈ result.accepted, accepted.2 ⊆ core.enabledEvents := by
    intro status heq
    obtain ⟨rfl, rfl⟩ := Prod.mk.inj (Option.some.inj heq)
    exact ⟨.refl core, rfl, fun _ hmem ↦ absurd hmem List.not_mem_nil⟩
  unfold MonitoringServiceCore.acceptSubscription at h
  dsimp only at h
  split_ifs at h
  · exact hrejected _ h
  · exact hrejected _ h
  · exact hrejected _ h
  · exact hrejected _ h
  · obtain ⟨rfl, rfl⟩ := Prod.mk.inj (Option.some.inj h)
    refine ⟨⟨rfl, rfl, rfl, fun _ ↦ rfl⟩, rfl, fun accepted hmem ↦ ?_⟩
    obtain rfl := List.mem_singleton.mp hmem
    exact Finset.inter_subset_left

/-! ## Every run -/

/-- The core is initialized, the enabled events have callbacks, and clients are accepted for enabled
events only. -/
structure SetUp (clients : Clients Sub) : Prop where
  initialized : clients.core.initialized = true
  callbacks : clients.core.HasCallbacks clients.core.enabledEvents
  pending : ∀ accepted ∈ clients.pending, accepted.2 ⊆ clients.core.enabledEvents

theorem SameSetup.setUp {clients clients' : Clients Sub}
    (h : SameSetup clients.core clients'.core) (hsetUp : SetUp clients)
    (hpending : ∀ accepted ∈ clients'.pending, accepted.2 ⊆ clients.core.enabledEvents) :
    SetUp clients' := by
  refine ⟨h.initialized.trans hsetUp.initialized, fun eventId hmem ↦ ?_, ?_⟩
  · rw [h.enabledEvents] at hmem
    rw [h.callbacks]
    exact hsetUp.callbacks eventId hmem
  · rw [h.enabledEvents]
    exact hpending

theorem setUpEvent_hasCallbacks (pipe2 : EventId → Bool) (eventId : EventId)
    (h : core.HasCallbacks core.enabledEvents) :
    (core.setUpEvent pipe2 eventId).HasCallbacks (core.setUpEvent pipe2 eventId).enabledEvents := by
  unfold MonitoringServiceCore.setUpEvent
  split_ifs
  · exact h
  · intro other hmem
    dsimp only at hmem ⊢
    by_cases heq : other = eventId
    · rw [heq, Function.update_self]
      rfl
    · rw [Function.update_of_ne heq]
      exact h other ((Finset.mem_insert.mp hmem).resolve_left heq)

theorem startClients_setUp (events : List EventId) (pipe2 : EventId → Bool) :
    SetUp (startClients events pipe2 : Clients Sub) := by
  have hnew : (MonitoringServiceCore.new : MonitoringServiceCore Sub).HasCallbacks ∅ :=
    fun _ hmem ↦ absurd hmem (Finset.notMem_empty _)
  have hcallbacks := Runs.foldl_invariant
    (fun core : MonitoringServiceCore Sub ↦ core.HasCallbacks core.enabledEvents) hnew events
    fun core eventId h ↦ setUpEvent_hasCallbacks pipe2 eventId h
  exact ⟨rfl, hcallbacks, fun _ hmem ↦ absurd hmem List.not_mem_nil⟩

theorem setUpEvent_subscriptionMap (pipe2 : EventId → Bool) (core : MonitoringServiceCore Sub)
    (eventId : EventId) :
    (core.setUpEvent pipe2 eventId).subscriptionMap = core.subscriptionMap := by
  unfold MonitoringServiceCore.setUpEvent
  split_ifs
  · rfl
  · rfl

theorem clientStep_setUp {clients clients' : Clients Sub} {step : ClientStep Sub}
    (h : SetUp clients) (hstep : clientStep clients step = some clients') : SetUp clients' := by
  cases step with
  | accept requestedEvents =>
    obtain ⟨answer, hanswer, rfl⟩ := Option.map_eq_some_iff.mp hstep
    obtain ⟨hsetup, -, haccepted⟩ := acceptSubscription_cases hanswer
    refine hsetup.setUp h fun accepted hmem ↦ ?_
    exact (List.mem_append.mp hmem).elim (h.pending accepted) (haccepted accepted)
  | subscribe index sub =>
    obtain ⟨accepted, -, hstep⟩ := Option.bind_eq_some_iff.mp hstep
    obtain ⟨answer, hanswer, rfl⟩ := Option.map_eq_some_iff.mp hstep
    have hsetup : SameSetup clients.core answer.2 := by
      rcases addSubscription_cases hanswer with ⟨-, -, heq⟩ | ⟨-, -, hsetup, -⟩
      · exact heq ▸ .refl clients.core
      · exact hsetup
    exact hsetup.setUp h fun accepted hmem ↦ h.pending accepted (List.mem_of_mem_eraseIdx hmem)
  | cancel cid =>
    obtain ⟨core, hcore, rfl⟩ := Option.map_eq_some_iff.mp hstep
    exact (cancelSubscription_cases hcore).1.setUp h h.pending
  | setLimit limit =>
    obtain rfl := Option.some.inj hstep
    unfold MonitoringServiceCore.setLimit
    split_ifs
    · exact ⟨h.initialized, h.callbacks, h.pending⟩
    · exact h

theorem addSubscription_eq (cid : ClientId) (sub : Sub) (hinit : core.initialized = true)
    (hcallbacks : core.HasCallbacks events) :
    core.addSubscription cid sub events =
      some (true, { core.updateCallbacks events (.addClientSubscription cid sub) with
        subscriptionMap := insertNew core.subscriptionMap cid sub
        clientToEventIds := Function.update core.clientToEventIds cid
          (some ((core.clientToEventIds cid).getD events)) }) := by
  unfold MonitoringServiceCore.addSubscription
  rw [if_neg (by rw [hinit]; decide), if_neg (not_not_intro hcallbacks)]
  rfl

/-- A request for an enabled event is let through while the map has room. -/
theorem acceptSubscription_of_room {requestedEvents : EventIds} (hinit : core.initialized = true)
    (hevents : (core.enabledEvents ∩ requestedEvents).Nonempty)
    (hroom : size core.subscriptionMap < core.clientLimit.toNat) :
    core.acceptSubscription requestedEvents =
      some (⟨.ok, some core.currCid, some (core.enabledEvents ∩ requestedEvents)⟩,
        { core with
          currCid := core.currCid + 1 }) := by
  have henabled : core.enabledEvents.card ≠ 0 :=
    Finset.card_ne_zero.mpr (hevents.mono Finset.inter_subset_left)
  have hrequested : requestedEvents.card ≠ 0 :=
    Finset.card_ne_zero.mpr (hevents.mono Finset.inter_subset_right)
  unfold MonitoringServiceCore.acceptSubscription
  rw [if_neg (by rw [hinit]; decide), if_neg henabled, if_neg hrequested,
    if_neg (Nat.not_le.mpr hroom), if_neg (Finset.card_ne_zero.mpr hevents)]

theorem acceptSubscription_of_not {requestedEvents : EventIds} (hinit : core.initialized = true)
    (hnot : ¬ ((core.enabledEvents ∩ requestedEvents).Nonempty ∧
      size core.subscriptionMap < core.clientLimit.toNat)) :
    ∃ status, core.acceptSubscription requestedEvents = some (⟨status, none, none⟩, core) := by
  unfold MonitoringServiceCore.acceptSubscription
  rw [if_neg (by rw [hinit]; decide)]
  dsimp only
  split_ifs with henabled hrequested hfull hevents
  · exact ⟨_, rfl⟩
  · exact ⟨_, rfl⟩
  · exact ⟨_, rfl⟩
  · exact ⟨_, rfl⟩
  · exact absurd ⟨Finset.card_ne_zero.mp hevents, Nat.not_le.mp hfull⟩ hnot

/-- A client that was accepted enters the map. -/
theorem subscribe_ends {clients : Clients Sub} {index : ℕ} {accepted : ClientId × EventIds}
    (hindex : clients.pending[index]? = some accepted) (sub : Sub) (h : SetUp clients) :
    ∃ core', clientStep clients (.subscribe index sub) =
        some ⟨core', clients.pending.eraseIdx index⟩ ∧
      core'.clientLimit = clients.core.clientLimit ∧
      core'.subscriptionMap.keys = insert accepted.1 clients.core.subscriptionMap.keys := by
  have hcallbacks : clients.core.HasCallbacks accepted.2 := fun eventId hmem ↦
    h.callbacks eventId (h.pending accepted (List.mem_of_getElem? hindex) hmem)
  obtain ⟨core', hadd, hlimit, hmap⟩ : ∃ core',
      clients.core.addSubscription accepted.1 sub accepted.2 = some (true, core') ∧
        core'.clientLimit = clients.core.clientLimit ∧
        core'.subscriptionMap = insertNew clients.core.subscriptionMap accepted.1 sub :=
    ⟨_, addSubscription_eq accepted.1 sub h.initialized hcallbacks, rfl, rfl⟩
  refine ⟨core', ?_, hlimit, by rw [hmap, keys_insertNew]⟩
  rw [clientStep, hindex, Option.bind_some, MonitoringServiceCore.onClientSubscribed, hadd]
  rfl

theorem Fits.of_subset {clients clients' : Clients Sub} (h : Fits clients)
    (hlimit : clients'.core.clientLimit = clients.core.clientLimit)
    (hsubset : clients'.admitted ⊆ clients.admitted) : Fits clients' := by
  rw [Fits, hlimit]
  exact (Finset.card_le_card hsubset).trans h

theorem Fits.withinLimit {clients : Clients Sub} (h : Fits clients) : WithinLimit clients := by
  rw [WithinLimit, ← card_keys]
  exact (Finset.card_le_card Finset.subset_union_left).trans h

/-- Subscribing and cancelling let nobody in. -/
theorem subscribe_fits {clients clients' : Clients Sub} {index : ℕ} {sub : Sub}
    (hsetUp : SetUp clients) (h : Fits clients)
    (hstep : clientStep clients (.subscribe index sub) = some clients') : Fits clients' := by
  obtain ⟨accepted, hindex, -⟩ := Option.bind_eq_some_iff.mp hstep
  obtain ⟨core', hends, hlimit, hkeys⟩ := subscribe_ends hindex sub hsetUp
  obtain rfl := Option.some.inj (hends.symm.trans hstep)
  apply h.of_subset hlimit
  have haccepted : accepted.1 ∈ (clients.pending.map Prod.fst).toFinset :=
    List.mem_toFinset.mpr (List.mem_map_of_mem (List.mem_of_getElem? hindex))
  unfold Clients.admitted
  rw [hkeys]
  apply Finset.union_subset
  · exact Finset.insert_subset (Finset.mem_union_right _ haccepted) Finset.subset_union_left
  · apply Finset.Subset.trans _ Finset.subset_union_right
    intro cid hcid
    obtain ⟨entry, hentry, rfl⟩ := List.mem_map.mp (List.mem_toFinset.mp hcid)
    exact List.mem_toFinset.mpr (List.mem_map_of_mem (List.mem_of_mem_eraseIdx hentry))

theorem cancel_fits {clients clients' : Clients Sub} {cid : ClientId} (h : Fits clients)
    (hstep : clientStep clients (.cancel cid) = some clients') : Fits clients' := by
  obtain ⟨core, hcore, rfl⟩ := Option.map_eq_some_iff.mp hstep
  obtain ⟨hsetup, hmap⟩ := cancelSubscription_cases hcore
  apply h.of_subset hsetup.clientLimit
  unfold Clients.admitted
  rw [hmap, Finmap.keys_erase]
  exact Finset.union_subset_union_left (Finset.erase_subset _ _)

theorem accept_fits_iff {clients : Clients Sub} {requestedEvents : EventIds}
    (hsetUp : SetUp clients) (h : Fits clients) :
    LeavesRoom clients (.accept requestedEvents) ↔
      ∀ clients', clientStep clients (.accept requestedEvents) = some clients' →
        Fits clients' := by
  by_cases haccepted : (clients.core.enabledEvents ∩ requestedEvents).Nonempty ∧
      size clients.core.subscriptionMap < clients.core.clientLimit.toNat
  · have hstep : clientStep clients (.accept requestedEvents) =
        some ⟨{ clients.core with currCid := clients.core.currCid + 1 }, clients.pending ++
          [(clients.core.currCid, clients.core.enabledEvents ∩ requestedEvents)]⟩ := by
      rw [clientStep, acceptSubscription_of_room hsetUp.initialized haccepted.1 haccepted.2]
      rfl
    rw [Runs.forall_eq_some_iff hstep]
    have hadmitted : (⟨{ clients.core with currCid := clients.core.currCid + 1 },
        clients.pending ++ [(clients.core.currCid,
          clients.core.enabledEvents ∩ requestedEvents)]⟩ : Clients Sub).admitted =
        insert clients.core.currCid clients.admitted := by
      unfold Clients.admitted
      dsimp only
      rw [List.map_append, List.toFinset_append, ← Finset.union_assoc, Finset.union_comm,
        List.map_singleton, List.toFinset_cons, List.toFinset_nil, insert_empty_eq,
        Finset.singleton_union]
    rw [Fits, hadmitted]
    exact ⟨fun hroom ↦ hroom haccepted.1 haccepted.2, fun hroom _ _ ↦ hroom⟩
  · obtain ⟨status, hrejected⟩ := acceptSubscription_of_not hsetUp.initialized haccepted
    have hstep : clientStep clients (.accept requestedEvents) =
        some ⟨clients.core, clients.pending ++ []⟩ := by
      rw [clientStep, hrejected]
      rfl
    rw [Runs.forall_eq_some_iff hstep, List.append_nil]
    exact iff_of_true (fun hevents hroom ↦ absurd ⟨hevents, hroom⟩ haccepted) h

theorem setLimit_fits_iff {clients : Clients Sub} {limit : ClientId} (h : Fits clients) :
    LeavesRoom clients (.setLimit limit) ↔
      ∀ clients', clientStep clients (.setLimit limit) = some clients' → Fits clients' := by
  have hstep : clientStep clients (.setLimit limit) =
      some ⟨clients.core.setLimit limit, clients.pending⟩ := rfl
  rw [Runs.forall_eq_some_iff hstep, MonitoringServiceCore.setLimit]
  split_ifs with hsize
  · exact ⟨fun hroom ↦ hroom hsize, fun hroom _ ↦ hroom⟩
  · exact iff_of_true (fun hle ↦ absurd hle hsize) h

/-- A step keeps room for everybody that was let in if and only if it leaves room. -/
theorem clientStep_fits_iff (clients : Clients Sub) (step : ClientStep Sub)
    (hsetUp : SetUp clients) (h : Fits clients) :
    LeavesRoom clients step ↔
      ∀ clients', clientStep clients step = some clients' → Fits clients' := by
  cases step with
  | accept requestedEvents => exact accept_fits_iff hsetUp h
  | subscribe index sub => exact iff_of_true trivial fun _ ↦ subscribe_fits hsetUp h
  | cancel cid => exact iff_of_true trivial fun _ ↦ cancel_fits h
  | setLimit limit => exact setLimit_fits_iff h

/-- Everybody that was let in may call `onClientSubscribed` next. -/
theorem exists_subscribeAll [Inhabited Sub] {clients : Clients Sub} (h : SetUp clients) :
    ∃ (later : List (ClientStep Sub)) (clients' : Clients Sub),
      (∀ step ∈ later, step.IsSubscribe) ∧
      later.foldlM clientStep clients = some clients' ∧
      clients'.core.clientLimit = clients.core.clientLimit ∧
      clients'.core.subscriptionMap.keys = clients.admitted := by
  obtain ⟨core, pending⟩ := clients
  induction pending generalizing core with
  | nil =>
    refine ⟨[], ⟨core, []⟩, fun _ hmem ↦ absurd hmem List.not_mem_nil, rfl, rfl, ?_⟩
    exact (Finset.union_empty _).symm
  | cons accepted pending ih =>
    obtain ⟨core', hends, hlimit, hkeys⟩ :=
      @subscribe_ends Sub ⟨core, accepted :: pending⟩ 0 accepted rfl default h
    obtain ⟨later, clients', hsubscribe, hrun, hlimit', hkeys'⟩ :=
      ih core' (clientStep_setUp h hends)
    refine ⟨.subscribe 0 default :: later, clients', ?_, ?_, hlimit'.trans hlimit, ?_⟩
    · exact List.forall_mem_cons.mpr ⟨trivial, hsubscribe⟩
    · rw [List.foldlM_cons, hends]
      exact hrun
    · rw [hkeys']
      unfold Clients.admitted
      dsimp only at hkeys ⊢
      rw [hkeys, List.map_cons, List.toFinset_cons, Finset.insert_union, Finset.union_insert]

theorem startClients_fits (events : List EventId) (pipe2 : EventId → Bool) :
    Fits (startClients events pipe2 : Clients Sub) := by
  have hnew : (MonitoringServiceCore.new : MonitoringServiceCore Sub).subscriptionMap = ∅ := rfl
  have hempty := Runs.foldl_invariant
    (fun core : MonitoringServiceCore Sub ↦ core.subscriptionMap = ∅) hnew events
    fun core eventId h ↦ (setUpEvent_subscriptionMap pipe2 core eventId).trans h
  have hadmitted : (startClients events pipe2 : Clients Sub).admitted = ∅ := by
    change (events.foldl (MonitoringServiceCore.setUpEvent pipe2) .new).subscriptionMap.keys ∪ ∅ = ∅
    rw [hempty, Finmap.keys_empty, Finset.union_empty]
  rw [Fits, hadmitted, Finset.card_empty]
  exact Nat.zero_le _

/-- The limit holds along a run, and along whatever accepted clients do by subscribing after any
part of it, if and only if every step of the run leaves room. -/
theorem clientLimit_holds_iff [Inhabited Sub] (events : List EventId) (pipe2 : EventId → Bool)
    (steps : List (ClientStep Sub)) :
    (∀ earlier later : List (ClientStep Sub), earlier <+: steps →
      (∀ step ∈ later, step.IsSubscribe) →
      Runs.Always clientStep WithinLimit (startClients events pipe2) (earlier ++ later)) ↔
      Runs.Along clientStep LeavesRoom (startClients events pipe2) steps := by
  have hstart : SetUp (startClients events pipe2 : Clients Sub) := startClients_setUp events pipe2
  have hfits (steps : List (ClientStep Sub)) :
      Runs.Always clientStep Fits (startClients events pipe2) steps ↔
        Runs.Along clientStep LeavesRoom (startClients events pipe2) steps :=
    Runs.always_iff_along (fun _ _ _ h hstep ↦ clientStep_setUp h hstep) clientStep_fits_iff
      (startClients_fits events pipe2) hstart
  constructor
  · intro hlimit
    refine (hfits steps).mp fun earlier clients hprefix hrun ↦ ?_
    have hsetUp : SetUp clients := Runs.invariant (fun _ _ _ h ↦ clientStep_setUp h) hstart hrun
    obtain ⟨later, clients', hsubscribe, hlater, hsame, hkeys⟩ := exists_subscribeAll hsetUp
    have hwithin : WithinLimit clients' := by
      apply hlimit earlier later hprefix hsubscribe _ clients' (List.prefix_refl _)
      rw [List.foldlM_append, hrun]
      exact hlater
    rwa [WithinLimit, ← card_keys, hkeys, hsame] at hwithin
  · intro hroom earlier later hprefix hsubscribe
    have hlater : ∀ clients, Runs.Along clientStep LeavesRoom clients later := fun clients ↦
      (Runs.along_of_forall hsubscribe clients).mono fun _ step hstep ↦ by
        cases step with
        | subscribe => trivial
        | _ => cases hstep
    have halong := (hroom.of_prefix hprefix).append fun clients _ ↦ hlater clients
    exact ((hfits (earlier ++ later)).mpr halong).mono fun _ h ↦ h.withinLimit

/-- With a limit of one, two requests are accepted before the first client subscribes. -/
def twoAccepted : List (ClientStep Unit) :=
  [.setLimit 1, .accept {PACKET_TOOBIG}, .accept {PACKET_TOOBIG}, .subscribe 0 (),
    .subscribe 0 ()]

theorem twoAccepted_exceed_limit :
    ∃ t, twoAccepted.foldlM clientStep (startClients [PACKET_TOOBIG] fun _ ↦ true) = some t ∧
      t.core.clientLimit = 1 ∧ size t.core.subscriptionMap = 2 ∧ ¬ WithinLimit t := by
  have hend : (twoAccepted.foldlM clientStep (startClients [PACKET_TOOBIG] fun _ ↦ true)).map
      (fun t ↦ (t.core.clientLimit, size t.core.subscriptionMap)) = some (1, 2) := by
    decide +kernel
  obtain ⟨t, hrun, hsizes⟩ := Option.map_eq_some_iff.mp hend
  obtain ⟨hlimit, hsize⟩ := Prod.mk.inj hsizes
  refine ⟨t, hrun, hlimit, hsize, fun hwithin ↦ ?_⟩
  rw [WithinLimit, hlimit, hsize] at hwithin
  exact absurd hwithin (by decide)

end Vsoshlb.Monitoring
