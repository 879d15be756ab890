import Mathlib.Logic.Basic

/-!
# Exceptions

An exception as far as its handlers look at it: its class and, along the
`__cause__` chain, the `faultCode` attributes of its causes. Below the classes
of `exceptions.py` stand those Python classes that the modelled code tells
apart; `other` is any further subclass of `Exception`.
-/

namespace AioHomematic

inductive ExceptionClass where
  | clientException
  | unsupportedException
  | validationException
  | noConnectionException
  | circuitBreakerOpenException
  | noClientsException
  | authFailure
  | aioHomematicException
  | aioHomematicConfigException
  | internalBackendException
  | commandSupersededError
  | descriptionNotFoundException
  | timeoutError
  | cancelledError
  | other
deriving DecidableEq

namespace ExceptionClass

/-- A subclass of `BaseHomematicException`. -/
def isHomematic : ExceptionClass → Bool
  | timeoutError => false
  | cancelledError => false
  | other => false
  | _ => true

/-- A subclass of `Exception`; `CancelledError` is not. -/
def isException : ExceptionClass → Bool
  | cancelledError => false
  | _ => true

end ExceptionClass

structure PyException where
  cls : ExceptionClass
  /-- The `faultCode` of each exception of the `__cause__` chain, where it has one. -/
  causes : List (Option Int) := []
deriving DecidableEq

/-! ## The `inspector` decorator -/

/-- `@inspector(re_raise=False, no_raise_return=...)` around a coroutine that ends with
`outcome`. -/
def inspector {α : Type*} (noRaiseReturn : α) (outcome : Except PyException α) :
    Except PyException α :=
  match outcome with
  | .ok value => .ok value
  | .error exc => if exc.cls.isHomematic then .ok noRaiseReturn else .error exc

end AioHomematic
