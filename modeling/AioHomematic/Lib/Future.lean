import Mathlib.Logic.Basic

/-!
# Futures

`asyncio.Future`: pending until it gets a result or an exception or is
cancelled, and final from then on. `set_result` and `set_exception` raise
`InvalidStateError` on a future that is done (`none` here); `cancel` leaves
such a future as it is.
-/

namespace AioHomematic.Lib

inductive Future (ρ ε : Type*) where
  | pending
  | result (value : ρ)
  | exception (exc : ε)
  | cancelled
deriving DecidableEq

namespace Future

variable {ρ ε : Type*} {f g h : Future ρ ε}

def isPending : Future ρ ε → Bool
  | pending => true
  | _ => false

def setResult (value : ρ) : Future ρ ε → Option (Future ρ ε)
  | pending => some (result value)
  | _ => none

def setException (exc : ε) : Future ρ ε → Option (Future ρ ε)
  | pending => some (exception exc)
  | _ => none

def cancel : Future ρ ε → Future ρ ε
  | pending => cancelled
  | f => f

theorem isPending_iff : f.isPending = true ↔ f = pending := by
  cases f <;> simp [isPending]

/-- `g` is `f` later on. -/
def Later (f g : Future ρ ε) : Prop := f = pending ∨ g = f

theorem cancel_cancel (f : Future ρ ε) : f.cancel.cancel = f.cancel := by
  cases f <;> rfl

theorem cancel_of_done (h : f.isPending = false) : f.cancel = f := by
  cases f with
  | pending => cases h
  | _ => rfl

end Future

end AioHomematic.Lib
