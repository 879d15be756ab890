import Mathlib.Algebra.GroupWithZero.Nat
import Mathlib.Algebra.Order.Group.Int
import Mathlib.Data.List.Sort
import Mathlib.Data.Prod.Lex
import Mathlib.Order.Nat
import AioHomematic.Exceptions
import AioHomematic.Lib.Bisect
import AioHomematic.Lib.Dict

/-!
# The event bus

`EventBus` of `central/events/bus.py`. A bucket of handlers stands under an event
type and a key, `none` for the subscribers of every event of the type. The
handlers of an event are those of its key and those of `none`, sorted by
priority and order of subscription. `publish` makes one task for each and lets
`asyncio.gather` run them, which starts the tasks in the order in which they
were made.
-/

namespace AioHomematic.Central

open Lib

inductive EventPriority where
  | low
  | normal
  | high
  | critical
deriving DecidableEq

def EventPriority.value : EventPriority → Int
  | low => 0
  | normal => 50
  | high => 100
  | critical => 200

structure Event (T K V : Type*) where
  type : T
  key : Option K
  value : V

/-- `_PrioritizedHandler`; two of them are equal when all fields are. -/
structure PrioritizedHandler (H : Type*) where
  handler : H
  priority : EventPriority
  order : Nat
deriving DecidableEq

/-- Higher priority first, then the order of subscription. -/
def PrioritizedHandler.sortKey {H : Type*} (ph : PrioritizedHandler H) : Int ×ₗ Nat :=
  toLex (-ph.priority.value, ph.order)

structure HandlerStats where
  totalExecutions : Nat := 0
  totalErrors : Nat := 0

structure EventBus (T K H : Type*) where
  subscriptions : Dict T (Dict (Option K) (List (PrioritizedHandler H))) := .empty
  eventCount : Dict T Nat := .empty
  handlerOrderCounter : Nat := 0
  handlerStats : HandlerStats := {}

/-- What `subscribe` closes over in the callback that it returns. -/
structure Subscription (T K H : Type*) where
  eventType : T
  eventKey : Option K
  prioritizedHandler : PrioritizedHandler H

/-- What a call of a handler does: it may use the bus, and it may raise. -/
abbrev Handlers (T K V H : Type*) :=
  H → Event T K V → EventBus T K H → EventBus T K H × Except PyException Unit

/-- A task that calls a handler with an event. -/
abbrev HandlerCall (T K V H : Type*) := PrioritizedHandler H × Event T K V

namespace EventBus

variable {T K V H : Type*} [DecidableEq T] [DecidableEq K]

section Operations

variable (bus : EventBus T K H)

def bucket (eventType : T) (eventKey : Option K) : List (PrioritizedHandler H) :=
  (((bus.subscriptions.get? eventType).getD .empty).get? eventKey).getD []

def setBucket (eventType : T) (eventKey : Option K) (handlers : List (PrioritizedHandler H)) :
    EventBus T K H :=
  { bus with
    subscriptions := bus.subscriptions.set eventType
      (((bus.subscriptions.get? eventType).getD .empty).set eventKey handlers) }

def subscribe (eventType : T) (eventKey : Option K) (handler : H) (priority : EventPriority) :
    Subscription T K H × EventBus T K H :=
  let prioritizedHandler : PrioritizedHandler H :=
    { handler, priority, order := bus.handlerOrderCounter }
  ({ eventType, eventKey, prioritizedHandler },
    { bus with handlerOrderCounter := bus.handlerOrderCounter + 1 }.setBucket eventType eventKey
      (insort PrioritizedHandler.sortKey (bus.bucket eventType eventKey) prioritizedHandler))

/-- The callback that `subscribe` returns. -/
def unsubscribe [DecidableEq H] (subscription : Subscription T K H) : EventBus T K H :=
  bus.setBucket subscription.eventType subscription.eventKey
    ((bus.bucket subscription.eventType subscription.eventKey).erase
      subscription.prioritizedHandler)

def clearSubscriptions : Option T → EventBus T K H
  | none => { bus with subscriptions := .empty, eventCount := .empty }
  | some eventType => { bus with subscriptions := bus.subscriptions.set eventType .empty }

def clearSubscriptionsByKey (eventKey : Option K) : EventBus T K H :=
  { bus with
    subscriptions := bus.subscriptions.map fun keysHandlers =>
      keysHandlers.modify eventKey fun _ => [] }

def getSubscriptionCount (eventType : T) : Nat :=
  (((bus.subscriptions.get? eventType).getD .empty).values.map List.length).sum

/-- `clear_external_subscriptions`, for the types that it lists. -/
def clearExternalSubscriptions (externalEventTypes : List T) : EventBus T K H :=
  externalEventTypes.foldl (fun bus eventType =>
    if bus.getSubscriptionCount eventType > 0 then bus.clearSubscriptions (some eventType)
    else bus) bus

/-- The handlers that `publish` and `publish_batch` look up. -/
def prioritizedHandlers (eventType : T) (eventKey : Option K) : List (PrioritizedHandler H) :=
  match bus.subscriptions.get? eventType with
  | none => []
  | some eventSubs =>
    let wildcardHandlers := (eventSubs.get? none).getD []
    let specificHandlers :=
      match eventKey with
      | none => []
      | some key => (eventSubs.get? (some key)).getD []
    if specificHandlers ≠ [] ∧ wildcardHandlers ≠ [] then
      (specificHandlers ++ wildcardHandlers).insertionSort fun a b => a.sortKey ≤ b.sortKey
    else if specificHandlers ≠ [] then specificHandlers
    else wildcardHandlers

def countEvents (eventType : T) (n : Nat) : EventBus T K H :=
  { bus with
    eventCount := bus.eventCount.set eventType ((bus.eventCount.get? eventType).getD 0 + n) }

end Operations

/-- `_safe_call_handler`: what a handler raises is counted and goes no further. -/
def safeCallHandler (run : Handlers T K V H) (bus : EventBus T K H) (call : HandlerCall T K V H) :
    EventBus T K H :=
  let result := run call.1.handler call.2 bus
  let stats := result.1.handlerStats
  { result.1 with
    handlerStats :=
      { totalExecutions := stats.totalExecutions + 1
        totalErrors :=
          match result.2 with
          | .ok () => stats.totalErrors
          | .error exc => if exc.cls.isException then stats.totalErrors + 1
            else stats.totalErrors } }

/-- `asyncio.gather(*tasks, return_exceptions=True)`, with the calls it makes. -/
def gather (run : Handlers T K V H) (bus : EventBus T K H) :
    List (HandlerCall T K V H) → EventBus T K H × List (HandlerCall T K V H)
  | [] => (bus, [])
  | call :: tasks =>
    let rest := gather run (safeCallHandler run bus call) tasks
    (rest.1, call :: rest.2)

def publish (run : Handlers T K V H) (bus : EventBus T K H) (event : Event T K V) :
    EventBus T K H × List (HandlerCall T K V H) :=
  let handlers := bus.prioritizedHandlers event.type event.key
  if handlers = [] then (bus, [])
  else gather run (bus.countEvents event.type 1) (handlers.map fun ph => (ph, event))

end EventBus

end AioHomematic.Central
