import AioHomematic.Exceptions
import AioHomematic.Lib.Dict
import AioHomematic.Lib.Future
import AioHomematic.Lib.StepSystem

/-!
# The request coalescer

`RequestCoalescer` with its `execute()` calls. The first call for a key leads:
it puts a future into the pending map and runs its executor. A call that finds
an entry waits on the entry's future. Futures and calls are numbered in the
order of their creation, and one action runs a call from one suspension to the
next:

* `execute` starts a call. The lock is only held in stretches without a
  suspension, so taking it never suspends, and a future that is done is not
  waited for;
* `executorEnded` goes on with a leader whose executor has ended with a value
  or an exception. Where the leader's task was cancelled, that is what its
  executor makes of the `CancelledError`;
* `resume` goes on with a waiter whose future is done;
* `cancelWaiter` is `Task.cancel()` on the task of a waiter: it cancels the
  future that the task waits on, unless that is done;
* `clear` is `clear()`.
-/

namespace AioHomematic.Client

open Lib

variable {V : Type*}

/-- `_PendingRequest`. -/
structure PendingRequest where
  future : Nat
  waiterCount : Nat := 1
deriving DecidableEq

/-- How an `execute()` call ends: with a value, with an exception, or with one that the handling
of the future or of the pending map raises. -/
inductive ExecuteResult (V : Type*) where
  | returned (value : V)
  | raised (exc : PyException)
  | invalidStateError
  | keyError
deriving DecidableEq

structure ExecuteCall (V : Type*) where
  key : String
  future : Nat
  leads : Bool
  /-- How the executor of a leader has ended. -/
  executor : Option (Except PyException V) := none
  /-- The task of a waiter was cancelled. -/
  cancelled : Bool := false
  result : Option (ExecuteResult V) := none

structure RequestCoalescer (V : Type*) where
  pending : Dict String PendingRequest := .empty
  totalRequests : Nat := 0
  executedRequests : Nat := 0
  futures : List (Future V PyException) := []
  calls : List (ExecuteCall V) := []

namespace ExecuteResult

def cancelledError : ExecuteResult V := .raised { cls := .cancelledError }

def ofOutcome : Except PyException V → ExecuteResult V
  | .ok value => returned value
  | .error exc => raised exc

/-- The call raises. -/
def fails : ExecuteResult V → Bool
  | returned _ => false
  | _ => true

/-- `await future`. -/
def ofFuture : Future V PyException → Option (ExecuteResult V)
  | .pending => none
  | .result value => some (returned value)
  | .exception exc => some (raised exc)
  | .cancelled => some cancelledError

end ExecuteResult

namespace RequestCoalescer

open ExecuteResult

/-! ## `execute()` -/

def execute (key : String) (s : RequestCoalescer V) : RequestCoalescer V :=
  let s := { s with totalRequests := s.totalRequests + 1 }
  match s.pending.get? key with
  | some request =>
    { s with
      pending := s.pending.set key { request with waiterCount := request.waiterCount + 1 }
      calls := s.calls ++ [
        { key
          future := request.future
          leads := false
          result := (s.futures[request.future]?).bind ofFuture }] }
  | none =>
    { s with
      pending := s.pending.set key { future := s.futures.length }
      executedRequests := s.executedRequests + 1
      futures := s.futures ++ [.pending]
      calls := s.calls ++ [{ key, future := s.futures.length, leads := true }] }

/-- The `try` of a leader: what becomes of its future, and how the call would end. An
`InvalidStateError` of `set_result` is caught, and `set_exception` raises it once more. -/
def complete (f : Future V PyException) :
    Except PyException V → Future V PyException × ExecuteResult V
  | .ok value =>
    match f.setResult value with
    | some f => (f, .returned value)
    | none => (f, .invalidStateError)
  | .error exc =>
    if exc.cls.isException then
      match f.setException exc with
      | some f => (f, .raised exc)
      | none => (f, .invalidStateError)
    else (f, .raised exc)

/-- The executor of the leader `i` has ended. In the `finally`, `del` raises `KeyError` where the
key is not there, in place of whatever the call would end with. -/
def executorEnded (i : Nat) (c : ExecuteCall V) (outcome : Except PyException V)
    (s : RequestCoalescer V) : RequestCoalescer V :=
  let r := complete ((s.futures[c.future]?).getD .pending) outcome
  { s with
    pending := s.pending.erase c.key
    futures := s.futures.set c.future r.1
    calls := s.calls.set i
      { c with
        executor := some outcome
        result := some (if s.pending.contains c.key then r.2 else .keyError) } }

def resume (i : Nat) (c : ExecuteCall V) (s : RequestCoalescer V) : Option (RequestCoalescer V) :=
  ((s.futures[c.future]?).bind ofFuture).map fun result =>
    { s with calls := s.calls.set i { c with result := some result } }

def cancelWaiter (i : Nat) (c : ExecuteCall V) (s : RequestCoalescer V) : RequestCoalescer V :=
  { s with
    futures := s.futures.modify c.future Future.cancel
    calls := s.calls.set i { c with cancelled := true, result := some cancelledError } }

def clear (s : RequestCoalescer V) : RequestCoalescer V :=
  { s with
    pending := .empty
    futures := s.pending.values.foldl (fun futures r => futures.modify r.future Future.cancel)
      s.futures }

/-! ## The step system -/

inductive Action (V : Type*) where
  | execute (key : String)
  | executorEnded (i : Nat) (outcome : Except PyException V)
  | resume (i : Nat)
  | cancelWaiter (i : Nat)
  | clear

/-- The call `i`, while it is executing as a leader or waiting as a waiter. -/
def unfinished (i : Nat) (leads : Bool) (s : RequestCoalescer V) : Option (ExecuteCall V) :=
  (s.calls[i]?).filter fun c => c.leads = leads && c.result.isNone

def step (s : RequestCoalescer V) : Action V → Option (RequestCoalescer V)
  | .execute key => some (s.execute key)
  | .executorEnded i outcome => (s.unfinished i true).map fun c => s.executorEnded i c outcome
  | .resume i => (s.unfinished i false).bind fun c => s.resume i c
  | .cancelWaiter i => (s.unfinished i false).map fun c => s.cancelWaiter i c
  | .clear => some s.clear

def system : StepSystem (RequestCoalescer V) (Action V) where
  init := {}
  step := step

end RequestCoalescer

end AioHomematic.Client
