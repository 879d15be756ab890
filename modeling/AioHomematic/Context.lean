import AioHomematic.Client.CommandThrottle
import AioHomematic.Const

/-!
# Request contexts

The context variable of `context.py`, in one task. A context is told from the
others by its `request_id`, which is numbered; `started_at` is left out. Of
`extra` it has the two keys that commands are sent with.
-/

namespace AioHomematic

open Client (CommandPriority)

structure RequestContext where
  requestId : Nat
  operation : String := ""
  deviceAddress : Option String := none
  interfaceId : Option String := none
  /-- `extra[CONTEXT_KEY_PRIORITY]`. -/
  priority : Option CommandPriority := none
  /-- `extra[CONTEXT_KEY_PURGE_ADDRESSES]`. -/
  purgeAddresses : Option (List String) := none
deriving DecidableEq

/-- The value that the variable had before it was set. -/
structure ContextToken where
  old : Option RequestContext
deriving DecidableEq

structure TaskContext where
  context : Option RequestContext := none
  nextRequestId : Nat := 0
  /-- The contexts that commands were sent with. -/
  sent : List (Option RequestContext) := []
deriving DecidableEq

namespace TaskContext

variable (s : TaskContext)

def isInService : Bool := s.context.any fun ctx => startsWith ctx.operation "service:"

/-- A new context, of the function that `make` describes. -/
def setRequestContext (make : Nat → RequestContext) : ContextToken × TaskContext :=
  (⟨s.context⟩, { s with
    context := some (make s.nextRequestId)
    nextRequestId := s.nextRequestId + 1 })

def resetRequestContext (token : ContextToken) : TaskContext := { s with context := token.old }

/-- A command is sent: its priority and its purge addresses are read from the context. -/
def send : TaskContext := { s with sent := s.sent ++ [s.context] }

end TaskContext

end AioHomematic
