import Vsoshlb.Library.HashTable
import Mathlib.Logic.Function.Basic

/-!
# The subscriptions to monitoring events

`MonitoringServiceCore` keeps the subscribed clients in three tables: the map of the subscriptions,
the events of each client, and, in the callback of each event, the clients that it sends to. The
tables are filled by `insert`, which leaves an entry that is there.
-/

namespace Vsoshlb.Monitoring

open HashTable

/-- `EventId`, an enumeration over `uint8_t`. -/
abbrev EventId := BitVec 8

def TCP_NONSYN_LRUMISS : EventId := 0

def PACKET_TOOBIG : EventId := 1

def QUIC_PACKET_DROP_NO_REAL : EventId := 2

abbrev EventIds := Finset EventId

abbrev ClientId := BitVec 32

def kDefaultClientLimit : ClientId := 10

inductive ResponseStatus where
  | ok
  | notSupported
  | tooManyClients
  | internalError
deriving DecidableEq, Repr

/-- `SubscriptionResult`. A result with a client id also has the core as its callback. -/
structure SubscriptionResult where
  status : ResponseStatus
  cid : Option ClientId
  subscribedEvents : Option EventIds
deriving DecidableEq

variable {Sub : Type}

/-- The clients of an `EventPipeCallback`. -/
structure EventPipeCallback (Sub : Type) where
  cbSubsmap : ClientId → Option Sub

def EventPipeCallback.new : EventPipeCallback Sub := ⟨fun _ ↦ none⟩

def EventPipeCallback.addClientSubscription (cid : ClientId) (sub : Sub)
    (cb : EventPipeCallback Sub) : EventPipeCallback Sub :=
  if (cb.cbSubsmap cid).isSome then cb else ⟨Function.update cb.cbSubsmap cid (some sub)⟩

def EventPipeCallback.removeClientSubscription (cid : ClientId) (cb : EventPipeCallback Sub) :
    EventPipeCallback Sub :=
  ⟨Function.update cb.cbSubsmap cid none⟩

structure MonitoringServiceCore (Sub : Type) where
  initialized : Bool
  subscriptionMap : Finmap fun _ : ClientId ↦ Sub
  currCid : ClientId
  clientLimit : ClientId
  enabledEvents : EventIds
  clientToEventIds : ClientId → Option EventIds
  eventPipeCbs : EventId → Option (EventPipeCallback Sub)

namespace MonitoringServiceCore

def new : MonitoringServiceCore Sub where
  initialized := false
  subscriptionMap := ∅
  currCid := 0
  clientLimit := kDefaultClientLimit
  enabledEvents := ∅
  clientToEventIds _ := none
  eventPipeCbs _ := none

/-- One round of the loop over the events of the monitor. -/
def setUpEvent (pipe2 : EventId → Bool) (core : MonitoringServiceCore Sub) (eventId : EventId) :
    MonitoringServiceCore Sub :=
  if pipe2 eventId = false then
    core
  else
    { core with
      eventPipeCbs := Function.update core.eventPipeCbs eventId
        (some ((core.eventPipeCbs eventId).getD .new))
      enabledEvents := insert eventId core.enabledEvents }

/-- `initialize`, for a monitor with the given events, and with the outcome of `pipe2` for each. -/
def initializeWith (events : Option (List EventId)) (pipe2 : EventId → Bool)
    (core : MonitoringServiceCore Sub) : Bool × MonitoringServiceCore Sub :=
  if core.initialized then
    (true, core)
  else
    match events with
    | none => (false, core)
    | some events => (true, { events.foldl (setUpEvent pipe2) core with initialized := true })

/-- `acceptSubscription`. Without a result where the `CHECK` fails. -/
def acceptSubscription (requestedEvents : EventIds) (core : MonitoringServiceCore Sub) :
    Option (SubscriptionResult × MonitoringServiceCore Sub) :=
  if core.initialized = false then
    none
  else if core.enabledEvents.card = 0 then
    some (⟨.notSupported, none, none⟩, core)
  else if requestedEvents.card = 0 then
    some (⟨.ok, none, none⟩, core)
  else if size core.subscriptionMap ≥ core.clientLimit.toNat then
    some (⟨.tooManyClients, none, none⟩, core)
  else
    let subscribedEvents := core.enabledEvents ∩ requestedEvents
    if subscribedEvents.card = 0 then
      some (⟨.notSupported, none, none⟩, core)
    else
      some (⟨.ok, some core.currCid, some subscribedEvents⟩,
        { core with currCid := core.currCid + 1 })

/-- The callbacks of the given events, each after a change. -/
def updateCallbacks (events : EventIds) (f : EventPipeCallback Sub → EventPipeCallback Sub)
    (core : MonitoringServiceCore Sub) : MonitoringServiceCore Sub :=
  { core with
    eventPipeCbs := fun eventId ↦
      if eventId ∈ events then (core.eventPipeCbs eventId).map f else core.eventPipeCbs eventId }

/-- Every one of the events has a callback. -/
def HasCallbacks (core : MonitoringServiceCore Sub) (events : EventIds) : Prop :=
  ∀ eventId ∈ events, (core.eventPipeCbs eventId).isSome

instance (core : MonitoringServiceCore Sub) (events : EventIds) :
    Decidable (core.HasCallbacks events) :=
  inferInstanceAs (Decidable (∀ eventId ∈ events, _))

/-- `addSubscription`, which `onClientSubscribed` calls. -/
def addSubscription (cid : ClientId) (sub : Sub) (subscribedEvents : EventIds)
    (core : MonitoringServiceCore Sub) : Option (Bool × MonitoringServiceCore Sub) :=
  if core.initialized = false then
    none
  else if ¬ core.HasCallbacks subscribedEvents then
    some (false, core)
  else
    let core := core.updateCallbacks subscribedEvents (.addClientSubscription cid sub)
    some (true, { core with
      subscriptionMap := insertNew core.subscriptionMap cid sub
      clientToEventIds := Function.update core.clientToEventIds cid
        (some ((core.clientToEventIds cid).getD subscribedEvents)) })

/-- The callbacks that `cancelSubscription` takes the client from: those of its events, or all where
it has none. Without a result where the `CHECK` on an event's callback fails. -/
def removeFromCallbacks (cid : ClientId) (core : MonitoringServiceCore Sub) :
    Option (MonitoringServiceCore Sub) :=
  match core.clientToEventIds cid with
  | none => some { core with
      eventPipeCbs := fun eventId ↦
        (core.eventPipeCbs eventId).map (.removeClientSubscription cid) }
  | some events =>
    if core.HasCallbacks events then
      some (core.updateCallbacks events (.removeClientSubscription cid))
    else
      none

/-- `cancelSubscription`, which `onClientCanceled` calls. -/
def cancelSubscription (cid : ClientId) (core : MonitoringServiceCore Sub) :
    Option (MonitoringServiceCore Sub) :=
  if core.initialized = false then
    none
  else
    (core.removeFromCallbacks cid).map fun core ↦
      { core with subscriptionMap := core.subscriptionMap.erase cid }

def onClientSubscribed (cid : ClientId) (sub : Sub) (subscribedEvents : EventIds)
    (core : MonitoringServiceCore Sub) : Option (Bool × MonitoringServiceCore Sub) :=
  core.addSubscription cid sub subscribedEvents

def onClientCanceled (cid : ClientId) (core : MonitoringServiceCore Sub) :
    Option (MonitoringServiceCore Sub) :=
  core.cancelSubscription cid

def setLimit (limit : ClientId) (core : MonitoringServiceCore Sub) : MonitoringServiceCore Sub :=
  if limit.toNat ≥ size core.subscriptionMap then { core with clientLimit := limit } else core

/-- `getSubscriptionMapForEvent`: the subscriptions of the clients with the event. -/
def getSubscriptionMapForEvent (eventId : EventId) (core : MonitoringServiceCore Sub)
    (cid : ClientId) : Option Sub :=
  match core.clientToEventIds cid with
  | none => none
  | some events => if eventId ∈ events then core.subscriptionMap.lookup cid else none

end MonitoringServiceCore

end Vsoshlb.Monitoring
