import Vsoshlb.Monitoring.ClientLimit

/-!
# The clients of an event

The callback of an event holds the clients that it sends to. A cancellation leaves the events of the
client in their table, where `insert` finds them when the client subscribes again: what the client
subscribes to then is not what the core takes it to be subscribed to.
-/

namespace Vsoshlb.Monitoring

open HashTable

variable {Sub : Type}

/-- The calls of the clients. -/
inductive SubscriptionCall (Sub : Type) where
  | subscribed (cid : ClientId) (sub : Sub) (events : EventIds)
  | canceled (cid : ClientId)

def deliveryStep (core : MonitoringServiceCore Sub) :
    SubscriptionCall Sub → Option (MonitoringServiceCore Sub)
  | .subscribed cid sub events => (core.onClientSubscribed cid sub events).map Prod.snd
  | .canceled cid => core.onClientCanceled cid

/-- The callback of the event holds the client. -/
def Holds (core : MonitoringServiceCore Sub) (eventId : EventId) (cid : ClientId) : Prop :=
  ∃ cb, core.eventPipeCbs eventId = some cb ∧ (cb.cbSubsmap cid).isSome

/-- The callback of every enabled event holds the clients with a subscription to the event. -/
def DeliversToSubscribed (core : MonitoringServiceCore Sub) : Prop :=
  ∀ eventId ∈ core.enabledEvents, ∀ cid,
    Holds core eventId cid ↔ (core.getSubscriptionMapForEvent eventId cid).isSome

/-- No callback holds a client once it has cancelled. -/
def ReleasesClient (core : MonitoringServiceCore Sub) : SubscriptionCall Sub → Prop
  | .subscribed _ _ _ => True
  | .canceled cid => ∀ core', core.onClientCanceled cid = some core' →
      ∀ eventId, ¬ Holds core' eventId cid

/-- A client whose events are in the table subscribes to those events again, or to some of them
while it is still subscribed. -/
def RepeatsEvents (core : MonitoringServiceCore Sub) : SubscriptionCall Sub → Prop
  | .subscribed cid _ events => core.HasCallbacks events →
    ∀ recorded, core.clientToEventIds cid = some recorded →
      if (core.subscriptionMap.lookup cid).isSome then events ⊆ recorded else events = recorded
  | .canceled _ => True

/-- A core that has been initialized for a monitor with the given events. -/
def startCore (events : List EventId) (pipe2 : EventId → Bool) : MonitoringServiceCore Sub :=
  (MonitoringServiceCore.new.initializeWith (some events) pipe2).2

/-! ## What a call does to the callbacks -/

variable {core core' : MonitoringServiceCore Sub} {cid : ClientId} {sub : Sub} {events : EventIds}

theorem updateCallbacks_holds_iff (f : EventPipeCallback Sub → EventPipeCallback Sub)
    (eventId : EventId) (client : ClientId) :
    Holds (core.updateCallbacks events f) eventId client ↔
      ∃ cb, core.eventPipeCbs eventId = some cb ∧
        ((if eventId ∈ events then f cb else cb).cbSubsmap client).isSome := by
  unfold Holds MonitoringServiceCore.updateCallbacks
  split_ifs with hmem
  · simp only [hmem, if_true, Option.map_eq_some_iff, exists_exists_and_eq_and]
  · simp only [hmem, if_false]

theorem addClientSubscription_isSome_iff (cb : EventPipeCallback Sub) (client : ClientId) :
    ((cb.addClientSubscription cid sub).cbSubsmap client).isSome ↔
      (cb.cbSubsmap client).isSome ∨ client = cid := by
  unfold EventPipeCallback.addClientSubscription
  by_cases heq : client = cid
  · subst heq
    split_ifs with hsome
    · simp [hsome]
    · simp
  · split_ifs
    · simp [heq]
    · simp [heq]

theorem removeClientSubscription_isSome_iff (cb : EventPipeCallback Sub) (client : ClientId) :
    ((cb.removeClientSubscription cid).cbSubsmap client).isSome ↔
      (cb.cbSubsmap client).isSome ∧ client ≠ cid := by
  unfold EventPipeCallback.removeClientSubscription
  by_cases heq : client = cid
  · subst heq
    simp
  · simp [heq]

/-- The setup of a core: it is initialized, the events with callbacks are the enabled ones, the
events of clients are among them, and a subscribed client has events. -/
structure Consistent (core : MonitoringServiceCore Sub) : Prop where
  initialized : core.initialized = true
  callbacks : ∀ eventId, (core.eventPipeCbs eventId).isSome ↔ eventId ∈ core.enabledEvents
  recorded : ∀ cid events, core.clientToEventIds cid = some events → events ⊆ core.enabledEvents
  subscribed : ∀ cid, (core.subscriptionMap.lookup cid).isSome →
    (core.clientToEventIds cid).isSome

theorem Consistent.hasCallbacks_iff (h : Consistent core) :
    core.HasCallbacks events ↔ events ⊆ core.enabledEvents :=
  forall_congr' fun eventId ↦ imp_congr_right fun _ ↦ h.callbacks eventId

/-- How a subscription to enabled events ends. -/
structure Subscribed (core core' : MonitoringServiceCore Sub) (cid : ClientId)
    (events : EventIds) : Prop where
  setup : SameSetup core core'
  holds : ∀ eventId ∈ core.enabledEvents, ∀ client, Holds core' eventId client ↔
    Holds core eventId client ∨ (eventId ∈ events ∧ client = cid)
  recorded : ∀ client, core'.clientToEventIds client =
    if client = cid then some ((core.clientToEventIds cid).getD events)
    else core.clientToEventIds client
  map : ∀ client, (core'.subscriptionMap.lookup client).isSome ↔
    (core.subscriptionMap.lookup client).isSome ∨ client = cid

/-- How a cancellation ends. -/
structure Canceled (core core' : MonitoringServiceCore Sub) (cid : ClientId) : Prop where
  setup : SameSetup core core'
  holds : ∀ eventId client, Holds core' eventId client ↔
    Holds core eventId client ∧ ¬ (client = cid ∧
      ∀ events, core.clientToEventIds cid = some events → eventId ∈ events)
  recorded : core'.clientToEventIds = core.clientToEventIds
  map : ∀ client, (core'.subscriptionMap.lookup client).isSome ↔
    (core.subscriptionMap.lookup client).isSome ∧ client ≠ cid

theorem lookup_insertNew_isSome_iff (map : Finmap fun _ : ClientId ↦ Sub) (client : ClientId) :
    ((insertNew map cid sub).lookup client).isSome ↔
      (map.lookup client).isSome ∨ client = cid := by
  unfold insertNew
  split_ifs with hknown
  · exact (or_iff_left_of_imp fun heq ↦ heq ▸ hknown).symm
  · rw [lookup_insert_ite]
    split_ifs with heq
    · exact iff_of_true rfl (Or.inr heq)
    · exact (or_iff_left heq).symm

theorem lookup_erase_isSome_iff (map : Finmap fun _ : ClientId ↦ Sub) (client : ClientId) :
    ((map.erase cid).lookup client).isSome ↔ (map.lookup client).isSome ∧ client ≠ cid := by
  rw [lookup_erase_ite]
  split_ifs with heq
  · exact iff_of_false nofun fun h ↦ h.2 heq
  · exact (and_iff_left heq).symm

theorem onClientSubscribed_subscribed (h : Consistent core) (sub : Sub)
    (hcallbacks : core.HasCallbacks events) :
    ∃ core', core.onClientSubscribed cid sub events = some (true, core') ∧
      Subscribed core core' cid events := by
  have hadd := addSubscription_eq cid sub h.initialized hcallbacks
  have hsetup := updateCallbacks_sameSetup events (.addClientSubscription cid sub) core
  refine ⟨_, hadd,
    ⟨hsetup.initialized, hsetup.enabledEvents, hsetup.clientLimit, hsetup.callbacks⟩,
    fun eventId henabled client ↦ ?_, fun client ↦ ?_,
    lookup_insertNew_isSome_iff core.subscriptionMap⟩
  · obtain ⟨cb, hcb⟩ := Option.isSome_iff_exists.mp ((h.callbacks eventId).mpr henabled)
    apply (updateCallbacks_holds_iff (.addClientSubscription cid sub) eventId client).trans
    unfold Holds
    simp only [hcb, Option.some.injEq, exists_eq_left']
    split_ifs with hmem
    · rw [addClientSubscription_isSome_iff, and_iff_right hmem]
    · exact (or_iff_left fun h ↦ hmem h.1).symm
  · exact Function.update_apply ..

theorem removeFromCallbacks_canceled (h : Consistent core) (cid : ClientId) :
    ∃ core', core.removeFromCallbacks cid = some core' ∧ SameSetup core core' ∧
      core'.clientToEventIds = core.clientToEventIds ∧
      core'.subscriptionMap = core.subscriptionMap ∧
      ∀ eventId client, Holds core' eventId client ↔
        Holds core eventId client ∧ ¬ (client = cid ∧
          ∀ events, core.clientToEventIds cid = some events → eventId ∈ events) := by
  unfold MonitoringServiceCore.removeFromCallbacks
  cases hevents : core.clientToEventIds cid with
  | none =>
    refine ⟨_, rfl, ⟨rfl, rfl, rfl, fun _ ↦ Option.isSome_map⟩, rfl, rfl, fun eventId client ↦ ?_⟩
    have hall : ∀ events, (none : Option EventIds) = some events → eventId ∈ events := nofun
    unfold Holds
    simp only [Option.map_eq_some_iff, exists_exists_and_eq_and,
      removeClientSubscription_isSome_iff]
    rw [and_iff_left hall, ← exists_and_right]
    simp only [and_assoc, ne_eq]
  | some events =>
    have hcallbacks := h.hasCallbacks_iff.mpr (h.recorded cid events hevents)
    dsimp only
    rw [if_pos hcallbacks]
    refine ⟨_, rfl, updateCallbacks_sameSetup _ _ core, rfl, rfl, fun eventId client ↦ ?_⟩
    rw [Runs.forall_eq_some_iff rfl, updateCallbacks_holds_iff]
    unfold Holds
    split_ifs with hmem
    · simp only [removeClientSubscription_isSome_iff]
      rw [and_iff_left hmem, ← exists_and_right]
      simp only [and_assoc, ne_eq]
    · exact (and_iff_left fun h ↦ hmem h.2).symm

theorem onClientCanceled_canceled (h : Consistent core) (cid : ClientId) :
    ∃ core', core.onClientCanceled cid = some core' ∧ Canceled core core' cid := by
  obtain ⟨removed, hremoved, hsetup, hrecorded, hmap, hholds⟩ := removeFromCallbacks_canceled h cid
  refine ⟨{ removed with subscriptionMap := removed.subscriptionMap.erase cid }, ?_,
    ⟨hsetup.initialized, hsetup.enabledEvents, hsetup.clientLimit, hsetup.callbacks⟩, hholds,
    hrecorded, fun client ↦ ?_⟩
  · unfold MonitoringServiceCore.onClientCanceled MonitoringServiceCore.cancelSubscription
    rw [if_neg (by rw [h.initialized]; decide), hremoved]
    rfl
  · rw [hmap]
    exact lookup_erase_isSome_iff core.subscriptionMap client

/-! ## One call -/

theorem getSubscriptionMapForEvent_isSome_iff (core : MonitoringServiceCore Sub)
    (eventId : EventId) (cid : ClientId) :
    (core.getSubscriptionMapForEvent eventId cid).isSome ↔
      (∃ events, core.clientToEventIds cid = some events ∧ eventId ∈ events) ∧
        (core.subscriptionMap.lookup cid).isSome := by
  unfold MonitoringServiceCore.getSubscriptionMapForEvent
  cases core.clientToEventIds cid with
  | none => simp
  | some events =>
    by_cases hmem : eventId ∈ events
    · simp [hmem]
    · simp [hmem]

theorem Subscribed.consistent (h : Subscribed core core' cid events) (hcore : Consistent core)
    (hevents : events ⊆ core.enabledEvents) : Consistent core' where
  initialized := h.setup.initialized.trans hcore.initialized
  callbacks eventId := by
    rw [h.setup.callbacks, h.setup.enabledEvents]
    exact hcore.callbacks eventId
  recorded client recorded hrecorded := by
    rw [h.recorded] at hrecorded
    rw [h.setup.enabledEvents]
    split_ifs at hrecorded with heq
    · obtain rfl := Option.some.inj hrecorded
      cases hold : core.clientToEventIds cid with
      | none => exact hevents
      | some old => exact hcore.recorded cid old hold
    · exact hcore.recorded client recorded hrecorded
  subscribed client hclient := by
    rw [h.recorded]
    split_ifs with heq
    · rfl
    · exact hcore.subscribed client (((h.map client).mp hclient).resolve_right heq)

theorem Canceled.consistent (h : Canceled core core' cid) (hcore : Consistent core) :
    Consistent core' where
  initialized := h.setup.initialized.trans hcore.initialized
  callbacks eventId := by
    rw [h.setup.callbacks, h.setup.enabledEvents]
    exact hcore.callbacks eventId
  recorded client events hevents := by
    rw [h.recorded] at hevents
    rw [h.setup.enabledEvents]
    exact hcore.recorded client events hevents
  subscribed client hclient := by
    rw [h.recorded]
    exact hcore.subscribed client ((h.map client).mp hclient).1

/-- The delivery of one event to one client. -/
def DeliversTo (core : MonitoringServiceCore Sub) (eventId : EventId) (cid : ClientId) : Prop :=
  Holds core eventId cid ↔
    (∃ events, core.clientToEventIds cid = some events ∧ eventId ∈ events) ∧
      (core.subscriptionMap.lookup cid).isSome

theorem deliversToSubscribed_iff (core : MonitoringServiceCore Sub) :
    DeliversToSubscribed core ↔ ∀ eventId ∈ core.enabledEvents, ∀ cid,
      DeliversTo core eventId cid := by
  simp only [DeliversToSubscribed, getSubscriptionMapForEvent_isSome_iff, DeliversTo]

/-- Nothing changes for the other clients. -/
theorem Subscribed.deliversTo_of_ne (h : Subscribed core core' cid events) {eventId : EventId}
    (henabled : eventId ∈ core.enabledEvents) {client : ClientId} (hne : client ≠ cid) :
    DeliversTo core' eventId client ↔ DeliversTo core eventId client := by
  unfold DeliversTo
  rw [h.holds eventId henabled, h.recorded, if_neg hne, h.map, or_iff_left hne,
    or_iff_left fun hboth ↦ hne hboth.2]

/-- The events of the client itself are the recorded ones from now on. -/
theorem Subscribed.deliversTo_self (h : Subscribed core core' cid events) {eventId : EventId}
    (henabled : eventId ∈ core.enabledEvents) :
    DeliversTo core' eventId cid ↔
      (Holds core eventId cid ∨ eventId ∈ events ↔
        eventId ∈ (core.clientToEventIds cid).getD events) := by
  unfold DeliversTo
  rw [h.holds eventId henabled, h.recorded, if_pos rfl, h.map, and_iff_left rfl,
    and_iff_left (Or.inr rfl)]
  simp only [Option.some.injEq, exists_eq_left']

/-- A subscription keeps the delivery exact if and only if it does so for the client itself. -/
theorem Subscribed.delivers_iff_self (h : Subscribed core core' cid events)
    (hdelivers : ∀ eventId ∈ core.enabledEvents, ∀ client, DeliversTo core eventId client) :
    DeliversToSubscribed core' ↔
      ∀ eventId ∈ core.enabledEvents, (Holds core eventId cid ∨ eventId ∈ events ↔
        eventId ∈ (core.clientToEventIds cid).getD events) := by
  rw [deliversToSubscribed_iff, h.setup.enabledEvents]
  constructor
  · intro hall eventId henabled
    exact (h.deliversTo_self henabled).mp (hall eventId henabled cid)
  · intro hall eventId henabled client
    by_cases heq : client = cid
    · rw [heq]
      exact (h.deliversTo_self henabled).mpr (hall eventId henabled)
    · exact (h.deliversTo_of_ne henabled heq).mpr (hdelivers eventId henabled client)

/-- A subscription keeps the delivery exact if and only if it repeats recorded events. -/
theorem Subscribed.delivers_iff (h : Subscribed core core' cid events) (hcore : Consistent core)
    (hevents : events ⊆ core.enabledEvents) (hdelivers : DeliversToSubscribed core) :
    DeliversToSubscribed core' ↔
      ∀ recorded, core.clientToEventIds cid = some recorded →
        if (core.subscriptionMap.lookup cid).isSome then events ⊆ recorded
        else events = recorded := by
  rw [deliversToSubscribed_iff] at hdelivers
  rw [h.delivers_iff_self hdelivers]
  cases hrecorded : core.clientToEventIds cid with
  | none =>
    refine iff_of_true (fun eventId henabled ↦ or_iff_right fun hholds ↦ ?_) nofun
    obtain ⟨⟨recorded, hsome, -⟩, -⟩ := (hdelivers eventId henabled cid).mp hholds
    rw [hrecorded] at hsome
    cases hsome
  | some recorded =>
    have hholds : ∀ eventId ∈ core.enabledEvents, (Holds core eventId cid ↔
        eventId ∈ recorded ∧ (core.subscriptionMap.lookup cid).isSome) := by
      intro eventId henabled
      apply (hdelivers eventId henabled cid).trans
      rw [hrecorded]
      simp only [Option.some.injEq, exists_eq_left']
    have hsub := hcore.recorded cid recorded hrecorded
    rw [Runs.forall_eq_some_iff rfl, Option.getD_some]
    split_ifs with hmap
    · constructor
      · intro hall eventId hmem
        exact (hall eventId (hevents hmem)).mp (Or.inr hmem)
      · intro hsubset eventId henabled
        rw [hholds eventId henabled, and_iff_left hmap]
        exact or_iff_left_of_imp fun hmem ↦ hsubset hmem
    · have hreleased : ∀ eventId ∈ core.enabledEvents, ¬ Holds core eventId cid :=
        fun eventId henabled hheld ↦ hmap ((hholds eventId henabled).mp hheld).2
      constructor
      · intro hall
        ext eventId
        by_cases henabled : eventId ∈ core.enabledEvents
        · exact (or_iff_right (hreleased eventId henabled)).symm.trans (hall eventId henabled)
        · exact iff_of_false (fun hmem ↦ henabled (hevents hmem)) fun hmem ↦ henabled (hsub hmem)
      · rintro rfl eventId henabled
        exact or_iff_right (hreleased eventId henabled)

/-- A cancellation keeps the delivery exact and releases the client. -/
theorem Canceled.delivers (h : Canceled core core' cid) (hcore : Consistent core)
    (hdelivers : DeliversToSubscribed core) :
    DeliversToSubscribed core' ∧ ∀ eventId, ¬ Holds core' eventId cid := by
  rw [deliversToSubscribed_iff] at hdelivers ⊢
  have hreleased : ∀ eventId, ¬ Holds core' eventId cid := by
    intro eventId hholds
    obtain ⟨hheld, hnot⟩ := (h.holds eventId cid).mp hholds
    have henabled : eventId ∈ core.enabledEvents := by
      obtain ⟨cb, hcb, -⟩ := hheld
      exact (hcore.callbacks eventId).mp (hcb ▸ rfl)
    obtain ⟨⟨events, hevents, hmem⟩, -⟩ := (hdelivers eventId henabled cid).mp hheld
    exact hnot ⟨rfl, fun events' heq ↦ Option.some.inj (hevents.symm.trans heq) ▸ hmem⟩
  refine ⟨fun eventId henabled client ↦ ?_, hreleased⟩
  rw [h.setup.enabledEvents] at henabled
  unfold DeliversTo
  by_cases heq : client = cid
  · rw [heq, h.map]
    exact iff_of_false (hreleased eventId) fun hmap ↦ hmap.2.2 rfl
  · rw [h.holds, and_iff_left fun hboth ↦ heq hboth.1, h.recorded, h.map, and_iff_left heq]
    exact hdelivers eventId henabled client

/-! ## Every run -/

theorem addSubscription_refused (cid : ClientId) (sub : Sub) (hinit : core.initialized = true)
    (hcallbacks : ¬ core.HasCallbacks events) :
    core.addSubscription cid sub events = some (false, core) := by
  unfold MonitoringServiceCore.addSubscription
  rw [if_neg (by rw [hinit]; decide), if_pos hcallbacks]

/-- How the calls end: a subscription to other than enabled events is refused. -/
theorem deliveryStep_ends (h : Consistent core) (call : SubscriptionCall Sub) :
    ∃ core', deliveryStep core call = some core' ∧
      match call with
      | .subscribed cid _ events =>
        (¬ events ⊆ core.enabledEvents ∧ core' = core) ∨
          (events ⊆ core.enabledEvents ∧ Subscribed core core' cid events)
      | .canceled cid => Canceled core core' cid := by
  cases call with
  | subscribed cid sub events =>
    by_cases hcallbacks : core.HasCallbacks events
    · obtain ⟨core', hadd, hsubscribed⟩ := onClientSubscribed_subscribed h sub hcallbacks
      exact ⟨core', congrArg (Option.map Prod.snd) hadd,
        Or.inr ⟨h.hasCallbacks_iff.mp hcallbacks, hsubscribed⟩⟩
    · have hrefused := addSubscription_refused cid sub h.initialized hcallbacks
      exact ⟨core, congrArg (Option.map Prod.snd) hrefused,
        Or.inl ⟨mt h.hasCallbacks_iff.mpr hcallbacks, rfl⟩⟩
  | canceled cid => exact onClientCanceled_canceled h cid

theorem deliveryStep_consistent (h : Consistent core) {call : SubscriptionCall Sub}
    (hstep : deliveryStep core call = some core') : Consistent core' := by
  obtain ⟨core'', hends, hcall⟩ := deliveryStep_ends h call
  obtain rfl := Option.some.inj (hends.symm.trans hstep)
  cases call with
  | subscribed cid sub events =>
    rcases hcall with ⟨-, rfl⟩ | ⟨hevents, hsubscribed⟩
    · exact h
    · exact hsubscribed.consistent h hevents
  | canceled cid => exact Canceled.consistent hcall h

theorem deliveryStep_delivers_iff (core : MonitoringServiceCore Sub) (call : SubscriptionCall Sub)
    (h : Consistent core) (hdelivers : DeliversToSubscribed core) :
    RepeatsEvents core call ↔
      ∀ core', deliveryStep core call = some core' → DeliversToSubscribed core' := by
  obtain ⟨core', hends, hcall⟩ := deliveryStep_ends h call
  rw [Runs.forall_eq_some_iff hends]
  cases call with
  | subscribed cid sub events =>
    unfold RepeatsEvents
    rcases hcall with ⟨hevents, rfl⟩ | ⟨hevents, hsubscribed⟩
    · exact iff_of_true (fun hcallbacks ↦ absurd (h.hasCallbacks_iff.mp hcallbacks) hevents)
        hdelivers
    · rw [hsubscribed.delivers_iff h hevents hdelivers]
      exact forall_prop_of_true (h.hasCallbacks_iff.mpr hevents)
  | canceled cid => exact iff_of_true trivial (Canceled.delivers hcall h hdelivers).1

/-- A core without clients, whose enabled events are those with callbacks. -/
structure Fresh (core : MonitoringServiceCore Sub) : Prop where
  callbacks : ∀ eventId, (core.eventPipeCbs eventId).isSome ↔ eventId ∈ core.enabledEvents
  unheld : ∀ eventId cid, ¬ Holds core eventId cid
  clientToEventIds : core.clientToEventIds = fun _ ↦ none
  subscriptionMap : core.subscriptionMap = ∅

theorem setUpEvent_fresh (pipe2 : EventId → Bool) (core : MonitoringServiceCore Sub)
    (eventId : EventId) (h : Fresh core) : Fresh (core.setUpEvent pipe2 eventId) := by
  unfold MonitoringServiceCore.setUpEvent
  split_ifs
  · exact h
  refine ⟨fun other ↦ ?_, fun other cid ↦ ?_, h.clientToEventIds, h.subscriptionMap⟩
  · dsimp only
    rw [Finset.mem_insert]
    by_cases heq : other = eventId
    · rw [heq, Function.update_self]
      exact iff_of_true rfl (Or.inl rfl)
    · rw [Function.update_of_ne heq, or_iff_right heq]
      exact h.callbacks other
  · rintro ⟨cb, hcb, hheld⟩
    dsimp only at hcb
    by_cases heq : other = eventId
    · rw [heq, Function.update_self] at hcb
      obtain rfl := Option.some.inj hcb
      cases hold : core.eventPipeCbs eventId with
      | none =>
        rw [hold] at hheld
        cases hheld
      | some old =>
        rw [hold] at hheld
        exact h.unheld eventId cid ⟨old, hold, hheld⟩
    · rw [Function.update_of_ne heq] at hcb
      exact h.unheld other cid ⟨cb, hcb, hheld⟩

theorem startCore_fresh (events : List EventId) (pipe2 : EventId → Bool) :
    Fresh (startCore events pipe2 : MonitoringServiceCore Sub) := by
  have hnew : Fresh (MonitoringServiceCore.new : MonitoringServiceCore Sub) :=
    ⟨fun _ ↦ iff_of_false nofun (Finset.notMem_empty _), nofun, rfl, rfl⟩
  have hfresh := Runs.foldl_invariant Fresh hnew events (setUpEvent_fresh pipe2)
  exact ⟨hfresh.callbacks, hfresh.unheld, hfresh.clientToEventIds, hfresh.subscriptionMap⟩

theorem Fresh.consistent (h : Fresh core) (hinit : core.initialized = true) : Consistent core where
  initialized := hinit
  callbacks := h.callbacks
  recorded cid events hevents := by
    rw [h.clientToEventIds] at hevents
    cases hevents
  subscribed cid hcid := by
    rw [h.subscriptionMap, Finmap.lookup_empty] at hcid
    cases hcid

theorem Fresh.delivers (h : Fresh core) : DeliversToSubscribed core := by
  intro eventId _ cid
  refine iff_of_false (h.unheld eventId cid) fun hsubscribed ↦ ?_
  obtain ⟨⟨events, hevents, -⟩, -⟩ :=
    (getSubscriptionMapForEvent_isSome_iff core eventId cid).mp hsubscribed
  rw [h.clientToEventIds] at hevents
  cases hevents

theorem releasesClient (core : MonitoringServiceCore Sub) (call : SubscriptionCall Sub)
    (h : Consistent core ∧ DeliversToSubscribed core) : ReleasesClient core call := by
  cases call with
  | subscribed cid sub events => trivial
  | canceled cid =>
    intro core' hcancel
    obtain ⟨core'', hends, hcanceled⟩ := deliveryStep_ends h.1 (.canceled cid)
    obtain rfl := Option.some.inj (hends.symm.trans hcancel)
    exact (Canceled.delivers hcanceled h.1 h.2).2

/-- Along a run of subscriptions and cancellations, events are delivered to the subscribed clients
in every state and every cancellation releases its client, if and only if no client subscribes to
other events than those recorded for it. -/
theorem delivery_exact_iff (events : List EventId) (pipe2 : EventId → Bool)
    (calls : List (SubscriptionCall Sub)) :
    (Runs.Always deliveryStep DeliversToSubscribed (startCore events pipe2) calls ∧
        Runs.Along deliveryStep ReleasesClient (startCore events pipe2) calls) ↔
      Runs.Along deliveryStep RepeatsEvents (startCore events pipe2) calls := by
  have hfresh : Fresh (startCore events pipe2 : MonitoringServiceCore Sub) :=
    startCore_fresh events pipe2
  have hstart := hfresh.consistent rfl
  have hconsistent : Runs.Always deliveryStep Consistent (startCore events pipe2) calls :=
    fun pre core _ hrun ↦
      Runs.invariant (fun _ _ _ h hstep ↦ deliveryStep_consistent h hstep) hstart hrun
  have hreleases (hdelivers : Runs.Always deliveryStep DeliversToSubscribed
      (startCore events pipe2) calls) :
      Runs.Along deliveryStep ReleasesClient (startCore events pipe2) calls :=
    Runs.Always.along releasesClient
      fun pre core hpre hrun ↦ ⟨hconsistent pre core hpre hrun, hdelivers pre core hpre hrun⟩
  rw [and_iff_left_of_imp hreleases]
  exact Runs.always_iff_along (fun _ _ _ h hstep ↦ deliveryStep_consistent h hstep)
    deliveryStep_delivers_iff hfresh.delivers hstart

/-- A client subscribes, cancels, and subscribes to another event. -/
def resubscribed : List (SubscriptionCall Unit) :=
  [.subscribed 1 () {TCP_NONSYN_LRUMISS}, .canceled 1, .subscribed 1 () {PACKET_TOOBIG}]

/-- The subscription of a client that the callback of an event holds. -/
def heldSubscription (core : MonitoringServiceCore Sub) (eventId : EventId) (cid : ClientId) :
    Option Sub :=
  (core.eventPipeCbs eventId).bind fun cb ↦ cb.cbSubsmap cid

theorem holds_of_heldSubscription {eventId : EventId}
    (h : heldSubscription core eventId cid = some sub) : Holds core eventId cid := by
  obtain ⟨cb, hcb, hheld⟩ := Option.bind_eq_some_iff.mp h
  exact ⟨cb, hcb, hheld ▸ rfl⟩

/-- The callback of the new event holds the client; the core says that the client has the old event
alone. A second cancellation goes by the old event, and leaves the client with the callback. -/
theorem resubscribed_delivers_wrongly :
    ∃ core, resubscribed.foldlM deliveryStep
        (startCore [TCP_NONSYN_LRUMISS, PACKET_TOOBIG] fun _ ↦ true) = some core ∧
      PACKET_TOOBIG ∈ core.enabledEvents ∧ Holds core PACKET_TOOBIG 1 ∧
      core.getSubscriptionMapForEvent PACKET_TOOBIG 1 = none ∧ ¬ DeliversToSubscribed core ∧
      ¬ ReleasesClient core (.canceled 1) := by
  have hend : (resubscribed.foldlM deliveryStep
      (startCore [TCP_NONSYN_LRUMISS, PACKET_TOOBIG] fun _ ↦ true)).map (fun core ↦
        (decide (PACKET_TOOBIG ∈ core.enabledEvents), heldSubscription core PACKET_TOOBIG 1,
          core.getSubscriptionMapForEvent PACKET_TOOBIG 1,
          (core.onClientCanceled 1).map fun core' ↦ heldSubscription core' PACKET_TOOBIG 1)) =
      some (true, some (), none, some (some ())) := by decide +kernel
  obtain ⟨core, hrun, hcore⟩ := Option.map_eq_some_iff.mp hend
  simp only [Prod.mk.injEq, decide_eq_true_eq] at hcore
  obtain ⟨henabled, hheld, hmap, hcanceled⟩ := hcore
  have hholds := holds_of_heldSubscription hheld
  obtain ⟨core', hcancel, hstill⟩ := Option.map_eq_some_iff.mp hcanceled
  refine ⟨core, hrun, henabled, hholds, hmap, fun hdelivers ↦ ?_, fun hreleases ↦ ?_⟩
  · have hsome := (hdelivers PACKET_TOOBIG henabled 1).mp hholds
    rw [hmap] at hsome
    cases hsome
  · exact hreleases core' hcancel PACKET_TOOBIG (holds_of_heldSubscription hstill)

end Vsoshlb.Monitoring
