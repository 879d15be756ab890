import AioHomematic.Lib.Nested
import AioHomematic.Lib.StepSystem
import AioHomematic.Store.Serialization
import Mathlib.Algebra.Order.Ring.Unbundled.Rat

/-!
# The session recorder

`SessionRecorder` of `store/persistent/session.py`: the responses of recorded calls, by RPC type,
method, frozen parameters and timestamp. An action is a method with what `_now()` gives it.

The JSON-RPC client cleans the script of a call before it records the call; the recorder itself
cleans scripts when it looks something up.
-/

namespace AioHomematic.Store.Persistent

open Lib StepSystem

variable {F : Type} [FiniteFloat F] {R : Type*}

structure SessionConfig where
  ttl : Rat
  nonneg : 0 ≤ ttl
  refreshOnGet : Bool

abbrev ByTimestamp (R : Type*) := Dict Int R

abbrev ByParameter (R : Type*) := Dict String (ByTimestamp R)

abbrev ByMethod (R : Type*) := Dict String (ByParameter R)

abbrev SessionStore (R : Type*) := Dict String (ByMethod R)

/-- The responses of a method, by frozen parameters and timestamp. -/
def parameterLevels (R : Type*) : Nested (String × Int) R (ByParameter R) := Nested.dict.under

/-- `store[rpc_type][method][frozen_params][timestamp]`. -/
def sessionLevels (R : Type*) : Nested (String × String × String × Int) R (SessionStore R) :=
  (parameterLevels R).under.under

/-- What a lookup gives. -/
inductive Answer (R : Type*) where
  | found (response : R)
  | default
  /-- A script that has no lines, or keys that cannot be sorted. -/
  | raised

inductive SessionOp (F : Type) (R : Type*) where
  | cleanup
  | clear
  | delete (rpcType method : String) (params : PyValue F)
  | get (rpcType method : String) (params : PyValue F)
  | getLatestByMethod (rpcType method : String)
  | getLatestByParams (rpcType method : String) (params : PyValue F)
  | peekTs (rpcType method : String) (params : PyValue F)
  | set (rpcType method : String) (params : PyValue F) (response : R) (ts : Option Int)

/-- The key that a lookup uses. -/
def lookupKey (py : PyText F) (params : PyValue F) : Option String :=
  (cleanupParamsForSession params).bind (freezeParams py)

namespace SessionStore

variable (config : SessionConfig) (py : PyText F) (now : Int) (store : SessionStore R)
  (rpcType method : String)

def isExpired (ts : Int) : Bool := config.ttl ≠ 0 ∧ config.ttl < ((now - ts : Int) : Rat)

/-- The bucket of a method, unless it is missing or empty. -/
def bucket? : Option (ByMethod R × ByParameter R) :=
  (store.get? rpcType).bind fun byMethod =>
    (byMethod.get? method).bind fun byParameter =>
      if byParameter.entries.isEmpty then none else some (byMethod, byParameter)

/-- What is left of a bucket. -/
def live (byParameter : ByParameter R) : ByParameter R :=
  byParameter.filterMap fun _ byTs =>
    let rest := byTs.filterKeys fun ts => !isExpired config now ts
    if rest.entries.isEmpty then none else some rest

def purgeExpiredAt : SessionStore R :=
  if config.ttl = 0 then store
  else
    match bucket? store rpcType method with
    | none => store
    | some (byMethod, byParameter) =>
      store.setFilled rpcType (byMethod.setFilled method (live config now byParameter))

/-- The response with the latest timestamp. -/
def latest? (byTs : ByTimestamp R) : Option (Int × R) :=
  byTs.keys.max?.bind fun ts => (byTs.get? ts).map fun response => (ts, response)

/-- The latest response to a call, for a lookup after the purge. -/
def lookup (params : PyValue F) : Answer (String × Int × R) :=
  match bucket? store rpcType method with
  | none => .default
  | some (_, byParameter) =>
    match lookupKey py params with
    | none => .raised
    | some frozenParam =>
      match (byParameter.get? frozenParam).bind latest? with
      | none => .default
      | some (ts, response) => .found (frozenParam, ts, response)

def get (params : PyValue F) : SessionStore R × Answer R :=
  let purged := purgeExpiredAt config now store rpcType method
  match lookup py purged rpcType method params with
  | .default => (purged, .default)
  | .raised => (purged, .raised)
  | .found (frozenParam, _, response) =>
    if config.refreshOnGet then
      ((sessionLevels R).put purged (rpcType, method, frozenParam, now) response, .found response)
    else (purged, .found response)

def getLatestByMethod : SessionStore R × List (Option (PyValue F) × R) :=
  let purged := purgeExpiredAt config now store rpcType method
  match bucket? purged rpcType method with
  | none => (purged, [])
  | some (_, byParameter) =>
    (purged, byParameter.entries.filterMap fun e =>
      (latest? e.2).map fun r => (unfreezeParams py e.1, r.2))

def getLatestByParams (params : PyValue F) : SessionStore R × Answer R :=
  let purged := purgeExpiredAt config now store rpcType method
  match lookup py purged rpcType method params with
  | .default => (purged, .default)
  | .raised => (purged, .raised)
  | .found (_, _, response) => (purged, .found response)

def peekTs (params : PyValue F) : SessionStore R × Answer Int :=
  let purged := purgeExpiredAt config now store rpcType method
  match lookup py purged rpcType method params with
  | .default => (purged, .default)
  | .raised => (purged, .raised)
  | .found (_, ts, _) => (purged, .found ts)

def delete (params : PyValue F) : SessionStore R × Answer Unit :=
  match bucket? store rpcType method with
  | none => (store, .default)
  | some (byMethod, byParameter) =>
    match lookupKey py params with
    | none => (store, .raised)
    | some frozenParam =>
      if byParameter.contains frozenParam then
        (store.setFilled rpcType (byMethod.setFilled method (byParameter.erase frozenParam)),
          .found ())
      else (store, .default)

/-- Nothing is recorded where the parameters cannot be frozen. -/
def set (params : PyValue F) (response : R) (ts : Option Int) : SessionStore R :=
  let purged := purgeExpiredAt config now store rpcType method
  match freezeParams py params with
  | none => purged
  | some frozenParam =>
    (sessionLevels R).put purged (rpcType, method, frozenParam, ts.getD now) response

def cleanup : SessionStore R :=
  store.entries.foldl (fun s e =>
    e.2.keys.foldl (fun s method => purgeExpiredAt config now s e.1 method) s) store

/-- What a method leaves in the store. -/
def perform : SessionOp F R → SessionStore R
  | .cleanup => cleanup config now store
  | .clear => .empty
  | .delete rpcType method params => (delete py store rpcType method params).1
  | .get rpcType method params => (get config py now store rpcType method params).1
  | .getLatestByMethod rpcType method => (getLatestByMethod config py now store rpcType method).1
  | .getLatestByParams rpcType method params =>
    (getLatestByParams config py now store rpcType method params).1
  | .peekTs rpcType method params => (peekTs config py now store rpcType method params).1
  | .set rpcType method params response ts =>
    set config py now store rpcType method params response ts

end SessionStore

/-- The recorder: an action is what `_now()` gives and a method. -/
def sessionRecorder (config : SessionConfig) (py : PyText F) (R : Type*) :
    StepSystem (SessionStore R) (Int × SessionOp F R) where
  init := .empty
  step store action := some (store.perform config py action.1 action.2)

end AioHomematic.Store.Persistent
