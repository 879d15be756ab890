import AioHomematic.Lib.Heapq
import AioHomematic.Lib.StepSystem
import Mathlib.Data.Prod.Lex

/-!
# The command throttle

`CommandThrottle` as a state that `acquire()` calls, the worker task and
`stop()` change in turn. One action runs a coroutine from one suspension to the
next, so the interleavings of the event loop are the runs of `system`:

* `acquire` runs an `acquire()` call up to `await future` or to its end. The
  lock is only held in stretches without a suspension, so taking it never
  suspends, and neither do purge and push;
* `resume` and `cancelAcquire` end a call that waits on its future;
* `worker` runs the worker by one stretch. `top` and `granting` are points
  inside a stretch: while the worker is `running`, nothing else is;
* `cancelWorker` is `Task.cancel()` on the worker, which raises
  `CancelledError` where the worker is suspended; `stop` is `stop()`.

Futures are numbered in the order of their creation. Times are clock readings,
in any integral unit; `clock` is the last of them.
-/

namespace AioHomematic.Client

open Lib

inductive CommandPriority where
  | critical
  | high
  | low
deriving DecidableEq

def CommandPriority.value : CommandPriority → Nat
  | critical => 0
  | high => 1
  | low => 2

inductive FutureState where
  | pending
  | result
  | superseded
  | stopped
  | cancelled
deriving DecidableEq

/-- How an `acquire()` call ends: normally, with `CommandSupersededError` or with
`CancelledError`. -/
inductive AcquireResult where
  | returned
  | commandSuperseded
  | cancelledError
deriving DecidableEq

def FutureState.acquireResult : FutureState → Option AcquireResult
  | pending => none
  | result => some .returned
  | superseded => some .commandSuperseded
  | stopped => some .cancelledError
  | cancelled => some .cancelledError

structure PrioritizedCommand where
  priority : CommandPriority
  timestamp : Int
  future : Nat
  deviceAddress : String
deriving DecidableEq

/-- The comparison key: `priority`, then `timestamp`. -/
def PrioritizedCommand.sortKey (cmd : PrioritizedCommand) : Nat ×ₗ Int :=
  toLex (cmd.priority.value, cmd.timestamp)

/-- An `acquire()` call that waits, or waited, on a future. -/
structure Waiter where
  command : PrioritizedCommand
  future : FutureState := .pending
  result : Option AcquireResult := none
deriving DecidableEq

inductive Worker where
  | noTask
  | created
  | top
  | waiting
  | sleeping (cmd : PrioritizedCommand) (wakeAt : Int)
  | granting (cmd : PrioritizedCommand)
  | done
deriving DecidableEq

namespace Worker

def running : Worker → Bool
  | top => true
  | granting _ => true
  | _ => false

def alive : Worker → Bool
  | noTask => false
  | done => false
  | _ => true

/-- The command the worker has popped and not yet granted. -/
def held : Worker → List PrioritizedCommand
  | sleeping cmd _ => [cmd]
  | granting cmd => [cmd]
  | _ => []

@[simp] theorem held_noTask : noTask.held = [] := rfl
@[simp] theorem held_created : created.held = [] := rfl
@[simp] theorem held_top : top.held = [] := rfl
@[simp] theorem held_waiting : waiting.held = [] := rfl
@[simp] theorem held_sleeping (cmd : PrioritizedCommand) (wakeAt : Int) :
    (sleeping cmd wakeAt).held = [cmd] := rfl
@[simp] theorem held_granting (cmd : PrioritizedCommand) : (granting cmd).held = [cmd] := rfl
@[simp] theorem held_done : done.held = [] := rfl

end Worker

structure CommandThrottle.Config where
  interval : Int
  burstThreshold : Int := 5
  burstWindow : Int

structure CommandThrottle where
  clock : Int := 0
  lastCommandTime : Int := 0
  queue : List PrioritizedCommand := []
  commandAvailable : Bool := false
  stopped : Bool := false
  burstTimestamps : List Int := []
  throttledCount : Nat := 0
  criticalCount : Nat := 0
  burstCount : Nat := 0
  purgedCount : Nat := 0
  worker : Worker := .noTask
  cancelRequested : Bool := false
  waiters : List Waiter := []
deriving DecidableEq

/-! ## Futures -/

/-- `set_result` or `set_exception`, unless the future is done. -/
def Waiter.resolve (r : FutureState) (w : Waiter) : Waiter :=
  if w.future = .pending then { w with future := r } else w

def resolve (r : FutureState) (waiters : List Waiter) (cmd : PrioritizedCommand) : List Waiter :=
  waiters.modify cmd.future (Waiter.resolve r)

def resolveAll (r : FutureState) (waiters : List Waiter) (cmds : List PrioritizedCommand) :
    List Waiter :=
  cmds.foldl (resolve r) waiters

namespace CommandThrottle

def init (cfg : Config) : CommandThrottle :=
  { worker := if 0 < cfg.interval then .created else .noTask }

/-! ## `acquire()` -/

/-- An `acquire()` call after its first stretch: ended, or waiting on a future. -/
inductive Acquired where
  | ended (r : AcquireResult)
  | waiting (future : Nat)
deriving DecidableEq

def detectBurst (cfg : Config) (now : Int) (s : CommandThrottle) : Bool × CommandThrottle :=
  if cfg.burstThreshold = 0 then (false, s)
  else
    let stamps := (s.burstTimestamps ++ [now]).dropWhile (· < now - cfg.burstWindow)
    (cfg.burstThreshold < stamps.length, { s with burstTimestamps := stamps })

def purgeCommands (purgeAddresses : List String) (s : CommandThrottle) : CommandThrottle :=
  let purged := s.queue.filter (·.deviceAddress ∈ purgeAddresses)
  if purged = [] then s
  else
    { s with
      waiters := resolveAll .superseded s.waiters purged
      queue := Heapq.heapify PrioritizedCommand.sortKey
        (s.queue.filter (·.deviceAddress ∉ purgeAddresses))
      purgedCount := s.purgedCount + purged.length }

def bypass (purgeAddresses : List String) (s : CommandThrottle) : CommandThrottle :=
  let s := { s with criticalCount := s.criticalCount + 1 }
  if purgeAddresses = [] then s else s.purgeCommands purgeAddresses

/-- The priority a command is enqueued with: a burst makes `high` to `low`. -/
def downgrade (cfg : Config) (priority : CommandPriority) (now : Int) (s : CommandThrottle) :
    CommandPriority × CommandThrottle :=
  if priority = .high then
    let r := s.detectBurst cfg now
    if r.1 then (.low, { r.2 with burstCount := r.2.burstCount + 1 }) else (.high, r.2)
  else (priority, s)

def enqueue (priority : CommandPriority) (deviceAddress : String) (now : Int)
    (s : CommandThrottle) : CommandThrottle :=
  let cmd := { priority, timestamp := now, future := s.waiters.length, deviceAddress }
  { s with
    waiters := s.waiters ++ [{ command := cmd }]
    queue := Heapq.heappush PrioritizedCommand.sortKey s.queue cmd
    commandAvailable := true }

/-- `acquire()`; `tBurst` and `tStamp` are its clock readings in `_detect_burst` and for the
command's timestamp. -/
def acquire (cfg : Config) (priority : CommandPriority) (deviceAddress : String)
    (purgeAddresses : List String) (tBurst tStamp : Int) (s : CommandThrottle) :
    Acquired × CommandThrottle :=
  if cfg.interval = 0 then (.ended .returned, s)
  else if priority = .critical then (.ended .returned, s.bypass purgeAddresses)
  else
    let r := s.downgrade cfg priority tBurst
    if r.2.stopped then (.ended .cancelledError, r.2)
    else (.waiting r.2.waiters.length, r.2.enqueue r.1 deviceAddress tStamp)

/-- The call waiting on `future` goes on, with the future done. -/
def resume (future : Nat) (s : CommandThrottle) : Option CommandThrottle :=
  match s.waiters[future]? with
  | some { command := _, future := f, result := none } =>
    match f.acquireResult with
    | some r => some { s with waiters := s.waiters.modify future ({ · with result := some r }) }
    | none => none
  | _ => none

/-- The task of the call waiting on `future` is cancelled: so is its future, unless it is done,
and the call ends with `CancelledError` in any case. -/
def cancelAcquire (future : Nat) (s : CommandThrottle) : Option CommandThrottle :=
  match s.waiters[future]? with
  | some { command := _, future := _, result := none } =>
    some { s with
      waiters := s.waiters.modify future fun w =>
        { w.resolve .cancelled with result := some .cancelledError } }
  | _ => none

/-! ## The worker -/

/-- Pop the next command and start its throttle delay, if any. -/
def popNext (cfg : Config) (now : Int) (s : CommandThrottle) : CommandThrottle :=
  match Heapq.heappop PrioritizedCommand.sortKey s.queue with
  | none => { s with worker := .top }
  | some (cmd, rest) =>
    let elapsed := now - s.lastCommandTime
    if elapsed < cfg.interval then
      { s with
        queue := rest
        throttledCount := s.throttledCount + 1
        worker := .sleeping cmd (now + (cfg.interval - elapsed)) }
    else { s with queue := rest, worker := .granting cmd }

/-- What follows `await self._command_available.wait()`. -/
def afterWait (cfg : Config) (now : Int) (s : CommandThrottle) : CommandThrottle :=
  let s := { s with commandAvailable := false }
  if s.stopped then { s with worker := .done } else s.popNext cfg now

def grant (cmd : PrioritizedCommand) (now : Int) (s : CommandThrottle) : CommandThrottle :=
  { s with
    lastCommandTime := now
    waiters := resolve .result s.waiters cmd
    worker := .top }

/-- The worker at the head of its loop; `Event.wait()` on a set event does not suspend. -/
def loopTop (cfg : Config) (now : Int) (s : CommandThrottle) : CommandThrottle :=
  if s.stopped then { s with worker := .done }
  else if s.queue = [] then
    if s.commandAvailable then s.afterWait cfg now else { s with worker := .waiting }
  else s.popNext cfg now

def workerStep (cfg : Config) (now : Int) (s : CommandThrottle) : Option CommandThrottle :=
  match s.worker with
  | .noTask => none
  | .created => some { s with worker := if s.cancelRequested then .done else .top }
  | .top => some (s.loopTop cfg now)
  | .waiting =>
    if s.cancelRequested then some { s with worker := .done }
    else if s.commandAvailable then some (s.afterWait cfg now)
    else none
  | .sleeping cmd wakeAt =>
    if s.cancelRequested then some { s with worker := .done }
    else if wakeAt ≤ now then some { s with worker := .granting cmd }
    else none
  | .granting cmd => some (s.grant cmd now)
  | .done => none

def stop (s : CommandThrottle) : CommandThrottle :=
  if s.stopped then s
  else
    { s with
      stopped := true
      commandAvailable := true
      cancelRequested := s.cancelRequested || s.worker.alive
      waiters := resolveAll .stopped s.waiters (Heapq.drain PrioritizedCommand.sortKey s.queue)
      queue := [] }

/-! ## The step system -/

inductive Action where
  | acquire (priority : CommandPriority) (deviceAddress : String) (purgeAddresses : List String)
      (tBurst tStamp : Int)
  | resume (future : Nat)
  | cancelAcquire (future : Nat)
  | worker (now : Int)
  | cancelWorker
  | stop
deriving DecidableEq

def step (cfg : Config) (s : CommandThrottle) : Action → Option CommandThrottle
  | .worker now =>
    if s.clock ≤ now then (s.workerStep cfg now).map ({ · with clock := now }) else none
  | .acquire priority deviceAddress purgeAddresses tBurst tStamp =>
    if s.worker.running = false ∧ s.clock ≤ tBurst ∧ tBurst ≤ tStamp then
      some { (s.acquire cfg priority deviceAddress purgeAddresses tBurst tStamp).2 with
        clock := tStamp }
    else none
  | .resume future => if s.worker.running then none else s.resume future
  | .cancelAcquire future => if s.worker.running then none else s.cancelAcquire future
  | .cancelWorker =>
    if s.worker.running = false ∧ s.worker.alive then some { s with cancelRequested := true }
    else none
  | .stop => if s.worker.running then none else some s.stop

def system (cfg : Config) : StepSystem CommandThrottle Action where
  init := init cfg
  step := step cfg

end CommandThrottle

end AioHomematic.Client
