import Mathlib.Logic.Basic

/-!
# Constants and keys

What the modules share of `const.py`: the interfaces, the paramset keys, the key of a data
point, and Python's `str.startswith` for addresses.
-/

namespace AioHomematic

inductive Interface where
  | bidcosRf
  | bidcosWired
  | ccuJack
  | cuxd
  | hmipRf
  | virtualDevices
deriving DecidableEq

/-- In `PRIMARY_CLIENT_CANDIDATE_INTERFACES`. -/
def Interface.isPrimaryClientCandidate (interface : Interface) : Bool :=
  interface ∈ [.hmipRf, .bidcosRf, .bidcosWired]

inductive ParamsetKey where
  | calculated
  | combined
  | dummy
  | link
  | master
  | service
  | values
deriving DecidableEq

structure DataPointKey where
  interfaceId : String
  channelAddress : String
  paramsetKey : ParamsetKey
  parameter : String
deriving DecidableEq

/-- `s.startswith(p)`. -/
def startsWith (s p : String) : Bool := p.toList.isPrefixOf s.toList

end AioHomematic
