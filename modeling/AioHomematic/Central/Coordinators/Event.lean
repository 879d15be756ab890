import AioHomematic.Central.Events.Bus.Subscriptions
import AioHomematic.Const

/-!
# The event coordinator

The subscriptions of data points at the event bus, over removals and
re-creations of their devices. `add_data_point_subscription` subscribes a new
data point under its key, for values and for the status, and keeps the
callbacks until `clear`. `remove` of a device makes a task for each of its data
points, which publishes the removal and then clears everything subscribed under
the unique id. A re-created data point has the key and the unique id of the
removed one.

`live` records what is left of the subscriptions, `cleared` how many data points
there were at the last `clear`, and `lost` the subscriptions that were cleared
under the unique id of an earlier data point. What the handlers of a removal do
are steps of their own.
-/

namespace AioHomematic.Central

open Lib

inductive EventType where
  | dataPointValueReceived
  | dataPointStatusReceived
  | dataPointStateChanged
  | deviceRemoved
deriving DecidableEq

/-- Those of `clear_external_subscriptions`. -/
def externalEventTypes : List EventType := [.dataPointStateChanged, .deviceRemoved]

inductive EventKey where
  | dpk (dpk : DataPointKey)
  | uniqueId (uniqueId : String)
deriving DecidableEq

inductive EventHandler where
  /-- Of a data point, by its number. -/
  | event (n : Nat)
  | updateStatus (n : Nat)
  /-- Of a subscriber of the `n`th data point. -/
  | subscriber (n : Nat)
deriving DecidableEq

/-- The data point that the coordinator has subscribed. -/
def EventHandler.dataPoint? : EventHandler → Option Nat
  | event n | updateStatus n => some n
  | subscriber _ => none

structure DataPointInfo where
  dpk : DataPointKey
  uniqueId : String
  /-- A `BaseParameterDataPointProtocol`. -/
  isBaseParameter : Bool := true
  /-- A `GenericDataPointProtocol` or a `GenericEventProtocol`. -/
  isGeneric : Bool := true
  isEventGroup : Bool := false
  isReadable : Bool := true
  hasEvents : Bool := true
  hasStatus : Bool := false

namespace DataPointInfo

def subscribesValue (i : DataPointInfo) : Bool :=
  i.isBaseParameter && i.isGeneric && (i.isReadable || i.hasEvents)

def subscribesStatus (i : DataPointInfo) : Bool := i.isBaseParameter && i.hasStatus

/-- The handlers that the coordinator subscribes for the `n`th data point. -/
def handlers (n : Nat) (i : DataPointInfo) : List (EventType × EventHandler) :=
  (if i.subscribesValue then [(.dataPointValueReceived, .event n)] else []) ++
    if i.subscribesStatus then [(.dataPointStatusReceived, .updateStatus n)] else []

end DataPointInfo

/-- A data point of the `device`th device that was made, which has the address. -/
structure CreatedDataPoint where
  info : DataPointInfo
  device : Nat
  address : String

/-- `d` is of a later device with the address. -/
def CreatedDataPoint.Succeeds (d p : CreatedDataPoint) : Prop :=
  d.address = p.address ∧ p.device < d.device

instance (d p : CreatedDataPoint) : Decidable (d.Succeeds p) :=
  inferInstanceAs (Decidable (_ ∧ _))

/-- Where `_publish_device_removed_and_cleanup` of a data point stands. -/
inductive RemovalPhase where
  | scheduled
  | publishing
  | ended
deriving DecidableEq

structure EventCoordinator where
  history : BusHistory EventType EventKey EventHandler := {}
  live : Live EventType EventKey EventHandler := {}
  dataPoints : List CreatedDataPoint := []
  /-- The numbers of the callbacks in `_data_point_unsubscribes` and `_status_unsubscribes`. -/
  unsubscribes : List Nat := []
  /-- The device registry, with the numbers of the devices. -/
  devices : Dict String Nat := .empty
  devicesMade : Nat := 0
  /-- The devices whose `remove` has run. -/
  removed : List Nat := []
  /-- The calls of `remove_device` that wait for the registry. -/
  removing : List String := []
  removals : List (Nat × RemovalPhase) := []
  cleared : Nat := 0
  lost : List (Subscription EventType EventKey EventHandler) := []

namespace EventCoordinator

/-! ## The bus -/

/-- A call of the bus. -/
def call (a : BusAction EventType EventKey EventHandler) (c : EventCoordinator) :
    EventCoordinator :=
  { c with
    history := (c.history.step externalEventTypes a).getD c.history
    live := c.live.step externalEventTypes a }

def subscribe (eventType : EventType) (eventKey : EventKey) (handler : EventHandler)
    (c : EventCoordinator) : EventCoordinator :=
  c.call (.subscribe eventType (some eventKey) handler .normal)

/-- `subscribe` of the coordinator, which keeps the callback. -/
def subscribeDataPoint (dpk : DataPointKey) (c : EventCoordinator)
    (e : EventType × EventHandler) : EventCoordinator :=
  { c.subscribe e.1 (.dpk dpk) e.2 with
    unsubscribes := c.unsubscribes ++ [c.history.callbacks.length] }

/-- A subscription under the unique id of `p` to a data point that succeeds `p`. -/
def isOfSuccessor (p : CreatedDataPoint) (c : EventCoordinator)
    (s : Subscription EventType EventKey EventHandler) : Bool :=
  match s.prioritizedHandler.handler with
  | .subscriber n =>
    s.eventKey = some (.uniqueId p.info.uniqueId) && (c.dataPoints[n]?).any (·.Succeeds p)
  | _ => false

def cleanupSubscriptions (c : EventCoordinator) (p : CreatedDataPoint) : EventCoordinator :=
  { c.call (.clearSubscriptionsByKey (some (.uniqueId p.info.uniqueId))) with
    lost := c.lost ++ c.live.subscriptions.filter (c.isOfSuccessor p) }

/-! ## Creation and removal -/

def addDataPointSubscription (n : Nat) (info : DataPointInfo) (c : EventCoordinator) :
    EventCoordinator :=
  (info.handlers n).foldl (subscribeDataPoint info.dpk) c

/-- `add_data_point` of a channel. -/
def addDataPoint (device : Nat) (address : String) (c : EventCoordinator) (info : DataPointInfo) :
    EventCoordinator :=
  { c.addDataPointSubscription c.dataPoints.length info with
    dataPoints := c.dataPoints ++ [{ info, device, address }] }

/-- One device of `create_devices`; the device is not added to the registry when the creation of
its data points raises. -/
def createDevice (address : String) (infos : List DataPointInfo) (raises : Bool)
    (c : EventCoordinator) : EventCoordinator :=
  if c.devices.contains address then c
  else
    { infos.foldl (addDataPoint c.devicesMade address) c with
      devices := if raises then c.devices else c.devices.set address c.devicesMade
      devicesMade := c.devicesMade + 1 }

/-- The data points of a device. -/
def ofDevice (device : Nat) (c : EventCoordinator) : List Nat :=
  (List.range c.dataPoints.length).filter fun n =>
    (c.dataPoints[n]?).any (·.device = device)

/-- `remove` of a device: its event groups are cleaned up at once. The second time, it has no data
points. -/
def remove (device : Nat) (c : EventCoordinator) : EventCoordinator :=
  if device ∈ c.removed then c
  else
    let groups := c.dataPoints.filter fun p => p.device = device && p.info.isEventGroup
    { groups.foldl cleanupSubscriptions c with
      removed := device :: c.removed
      removals := c.removals ++ (c.ofDevice device).map (·, .scheduled) }

/-- `remove_device` up to its `await`. -/
def removeDevice (address : String) (c : EventCoordinator) : EventCoordinator :=
  match c.devices.get? address with
  | none => c
  | some device => { c.remove device with removing := c.removing ++ [address] }

def resumeRemoval (i n : Nat) (c : EventCoordinator) : RemovalPhase → Option EventCoordinator
  | .scheduled => some { c with removals := c.removals.set i (n, .publishing) }
  | .publishing =>
    (c.dataPoints[n]?).map fun p =>
      { c.cleanupSubscriptions p with removals := c.removals.set i (n, .ended) }
  | .ended => none

def clear (c : EventCoordinator) : EventCoordinator :=
  { c.unsubscribes.foldl (fun c m => c.call (.unsubscribe m)) c with
    unsubscribes := []
    cleared := c.dataPoints.length }

/-- What `stop` of the central unit clears. -/
def stop (c : EventCoordinator) : EventCoordinator :=
  (c.clear.call .clearExternalSubscriptions).call (.clearSubscriptions none)

/-! ## Runs -/

inductive Action where
  | createDevice (address : String) (infos : List DataPointInfo) (raises : Bool)
  | removeDevice (address : String)
  /-- `remove_device` goes on with the registry. -/
  | unregister (address : String)
  /-- The `i`th removal of a data point goes on. -/
  | resume (i : Nat)
  /-- A subscription to changes or to the removal of the `n`th data point. -/
  | subscribe (eventType : EventType) (n : Nat)
  /-- The callback of the `m`th `subscribe`, by its subscriber. -/
  | unsubscribe (m : Nat)
  | clear
  | stop

/-- The `m`th callback belongs to a subscriber of a data point. -/
def hasCallback (m : Nat) (c : EventCoordinator) : Bool :=
  (c.history.callbacks[m]?).any fun s => s.prioritizedHandler.handler.dataPoint?.isNone

def step (c : EventCoordinator) : Action → Option EventCoordinator
  | .createDevice address infos raises => some (c.createDevice address infos raises)
  | .removeDevice address => some (c.removeDevice address)
  | .unregister address =>
    if address ∈ c.removing then
      some { c with
        removing := c.removing.erase address
        devices := c.devices.erase address }
    else none
  | .resume i =>
    match c.removals[i]? with
    | some (n, phase) => c.resumeRemoval i n phase
    | none => none
  | .subscribe eventType n =>
    if eventType ∈ externalEventTypes then
      (c.dataPoints[n]?).map fun d =>
        c.subscribe eventType (.uniqueId d.info.uniqueId) (.subscriber n)
    else none
  | .unsubscribe m => if c.hasCallback m then some (c.call (.unsubscribe m)) else none
  | .clear => some c.clear
  | .stop => some c.stop

def system : StepSystem EventCoordinator Action where
  init := {}
  step := step

/-! ## The property -/

/-- The `n`th data point belongs to the device of the registry, which has not been removed. -/
def Current (n : Nat) (c : EventCoordinator) : Prop :=
  ∃ p, c.dataPoints[n]? = some p ∧ c.devices.get? p.address = some p.device ∧ p.device ∉ c.removed

/-- The coordinator has subscribed the `n`th data point since the last `clear`. -/
def IsSubscribed (n : Nat) (c : EventCoordinator) : Prop :=
  c.cleared ≤ n ∧ ∃ p, c.dataPoints[n]? = some p ∧
    (p.info.subscribesValue ∨ p.info.subscribesStatus)

/-- An event under the key of a data point goes to current data points only. -/
def OnlyCurrent (c : EventCoordinator) : Prop :=
  ∀ (V : Type) (run : Handlers EventType EventKey V EventHandler)
    (event : Event EventType EventKey V) (dpk : DataPointKey), event.key = some (.dpk dpk) →
    ∀ call ∈ (c.history.bus.publish run event).2, ∀ n,
      call.1.handler.dataPoint? = some n → c.Current n

/-- The data point that an action subscribes to. -/
def Action.dataPoint? : Action → Option Nat
  | .subscribe _ n => some n
  | _ => none

/-- A subscription is made on a data point only when no clean-up of a predecessor with its unique
id is pending. -/
def Apart (c : EventCoordinator) (a : Action) : Prop :=
  ∀ n ∈ a.dataPoint?, ∀ d ∈ c.dataPoints[n]?, ∀ r ∈ c.removals, r.2 ≠ .ended →
    ∀ p ∈ c.dataPoints[r.1]?, d.Succeeds p → d.info.uniqueId ≠ p.info.uniqueId

instance : DecidableRel Apart := fun c a =>
  inferInstanceAs (Decidable (∀ n ∈ a.dataPoint?, ∀ d ∈ c.dataPoints[n]?, ∀ r ∈ c.removals,
    r.2 ≠ .ended → ∀ p ∈ c.dataPoints[r.1]?, d.Succeeds p → d.info.uniqueId ≠ p.info.uniqueId))

end EventCoordinator

end AioHomematic.Central
