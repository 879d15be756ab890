import AioHomematic.Model.DataPoint
import AioHomematic.Store.Dynamic.Data

/-!
# Loading values

`load_data_point_value` of one data point, without `direct_call`, and the value
caches that answer it: the data cache of the central and the values that the
device has loaded (`_ValueCache`). A load runs from one `await` to the next: it
waits for the semaphore of the device, for the backend, and then for the paired
status in the same way. Between its steps there are events, fetches of all
values, and loads of the device's other data points, of which only the entries
they leave are kept.

`Held.keptAt` is the time a cache has kept for the value a load holds;
`lastEvent` and `replaced` record the last event and the writes of values that
came from a cache.
-/

namespace AioHomematic.Model

open Lib Store Support

inductive CallSource where
  | haInit
  | hmInit
  | manualOrScheduled
deriving DecidableEq

inductive ParameterStatus where
  | normal
  | unknown
  | overflow
  | underflow
  | error
  | invalid
  | unused
  | external
deriving DecidableEq

def DataPoint.isRefreshed {R P : Type*} (d : DataPoint R P) : Bool := initDatetime < d.refreshedAt

/-- What does not change over the life of the data point. -/
structure LoadInfo (R : Type*) where
  interface : String
  statusDpk : Option DataPointKey := none
  /-- Of the data point or of its device. -/
  ignoreOnInitialLoad : Bool := false
  isReadable : Bool := true
  /-- The interface is one of `INTERFACES_SKIPPING_INIT_GETVALUE_FALLBACK`. -/
  skipsGetValueFallback : Bool := false
  /-- The status that `update_status` makes of a value, unless it ignores it. -/
  statusOf : R → Option ParameterStatus := fun _ => none
  /-- Python's `None`. -/
  pyNone : R

/-- A value of a cache with the time kept for it; `none` is `_NO_VALUE_CACHE_ENTRY`. -/
structure Cached (R : Type*) where
  value : Option R
  refreshedAt : Int

/-- What `get_value` has delivered. -/
structure Held (R : Type*) where
  value : CacheEntry R
  keptAt : Option Int := none

namespace Cached

variable {R : Type*}

def held (c : Cached R) : Held R where
  value := c.value.elim .noCacheEntry .entry
  keptAt := some c.refreshedAt

end Cached

/-- Where a load stands; `unchanged` until an event comes after its check of `_refreshed_at`. -/
inductive LoadPhase (R : Type*) where
  /-- For the semaphore. -/
  | waiting (unchanged : Bool)
  | fetching
  /-- For the semaphore, to load the status. -/
  | statusWaiting (held : Held R)
  | statusFetching (held : Held R)
  | ended

namespace LoadPhase

variable {R : Type*}

def hasSemaphore : LoadPhase R → Bool
  | fetching | statusFetching _ => true
  | _ => false

/-- The time kept for the value of a cache that the load still has to write. -/
def keptAt : LoadPhase R → Option Int
  | statusWaiting held | statusFetching held => held.keptAt
  | _ => none

/-- Whether no event has come since the check that a waiting load has passed. -/
def unchanged : LoadPhase R → Option Bool
  | waiting unchanged => some unchanged
  | _ => none

/-- An event has come. -/
def changed : LoadPhase R → LoadPhase R
  | waiting _ => waiting false
  | phase => phase

end LoadPhase

/-- The write of a value that a cache has kept since `keptAt`. -/
structure Replacement where
  keptAt : Int
  lastEvent : Option Nat
deriving DecidableEq

structure Loading (R P : Type*) where
  now : Nat
  info : LoadInfo R
  dataPoint : DataPoint R P
  statusValue : Option ParameterStatus := none
  data : CentralDataCache R := {}
  deviceCache : Dict DataPointKey (Support.CacheEntry (Option R)) := .empty
  loads : List (LoadPhase R) := []
  lastEvent : Option Nat := none
  replaced : List Replacement := []

namespace Loading

variable {R P : Type*}

/-! ## The caches -/

/-- `get_data` of the data cache. -/
def getData (dpk : DataPointKey) (s : Loading R P) : Option R × CentralDataCache R :=
  s.data.getData s.now s.info.interface dpk.channelAddress dpk.parameter

def getGlobalValue (dpk : DataPointKey) (s : Loading R P) : Option (Cached R) :=
  if dpk.paramsetKey = .values then
    (s.getData dpk).1.map fun value =>
      { value := some value, refreshedAt := s.data.getRefreshedAt s.info.interface }
  else none

def getDeviceValue (dpk : DataPointKey) (s : Loading R P) : Option (Cached R) :=
  (s.deviceCache.get? dpk).bind fun entry =>
    if entry.isValid s.now then entry.value.map fun value => ⟨value, entry.refreshAt⟩ else none

/-- `_get_value_from_cache`; `none` is `NO_CACHE_ENTRY`. -/
def getValueFromCache (dpk : DataPointKey) (s : Loading R P) : Option (Cached R) :=
  (s.getGlobalValue dpk).or (s.getDeviceValue dpk)

/-- What a read of a value leaves of the data cache. -/
def checked (dpk : DataPointKey) (s : Loading R P) : Loading R P :=
  if dpk.paramsetKey = .values then { s with data := (s.getData dpk).2 } else s

/-- `_add_entry_to_device_cache` for each of the values; `none` is `_NO_VALUE_CACHE_ENTRY`. -/
def addEntries (dpk : DataPointKey) (values : Dict String (Option R)) (s : Loading R P) :
    Loading R P :=
  { s with
    deviceCache := values.entries.foldl
      (fun cache e => cache.set { dpk with parameter := e.1 } ⟨some e.2, s.now⟩) s.deviceCache }

/-- What `get_value` returns of the values it has got. -/
def fetched (dpk : DataPointKey) (values : Dict String (Option R)) (s : Loading R P) : Held R where
  value :=
    match values.get? dpk.parameter with
    | some value => value.elim .noCacheEntry .entry
    | none => .entry s.info.pyNone

/-- What `_get_values_for_cache` returns without asking the backend. -/
def valuesForCache (dpk : DataPointKey) (available : Bool) (s : Loading R P) :
    Option (Dict String (Option R)) :=
  if ¬available then some .empty
  else if dpk.paramsetKey = .values ∧ s.info.skipsGetValueFallback then
    some (Dict.empty.set dpk.parameter none)
  else none

/-- What the values are where the backend's answer is an exception. -/
def valuesOfResult (dpk : DataPointKey) (result : Option (Dict String R)) :
    Dict String (Option R) :=
  match result with
  | some values => values.map some
  | none => Dict.empty.set dpk.parameter none

/-! ## One load -/

variable [DecidableEq P]

def setLoad (n : Nat) (phase : LoadPhase R) (s : Loading R P) : Loading R P :=
  { s with loads := s.loads.set n phase }

def write (held : Held R) (s : Loading R P) : Loading R P :=
  { s with
    dataPoint := s.dataPoint.load held.value s.now
    replaced :=
      match held with
      | ⟨.entry _, some keptAt⟩ => s.replaced ++ [⟨keptAt, s.lastEvent⟩]
      | _ => s.replaced }

/-- After `get_value`. -/
def valueLoaded (n : Nat) (held : Held R) (s : Loading R P) : Loading R P :=
  match s.info.statusDpk with
  | some _ => s.setLoad n (.statusWaiting held)
  | none => (s.write held).setLoad n .ended

def updateStatus (status : CacheEntry R) (s : Loading R P) : Loading R P :=
  match status with
  | .entry value => { s with statusValue := (s.info.statusOf value).or s.statusValue }
  | .noCacheEntry => s

/-- After `_load_status_value`. -/
def statusLoaded (n : Nat) (held : Held R) (status : CacheEntry R) (s : Loading R P) :
    Loading R P :=
  let s := s.updateStatus status
  if s.statusValue = some .unknown ∧ s.dataPoint.isRefreshed then s.setLoad n .ended
  else (s.write held).setLoad n .ended

def semaphoreIsFree (s : Loading R P) : Bool := s.loads.all fun phase => !phase.hasSemaphore

/-- `get_value` has the semaphore, and goes on with `loaded` where it need not ask the backend. -/
def getValue (n : Nat) (dpk : DataPointKey) (available : Bool) (phase : LoadPhase R)
    (loaded : Held R → Loading R P → Loading R P) (s : Loading R P) : Loading R P :=
  let s' := s.checked dpk
  match s.getValueFromCache dpk with
  | some cached => loaded cached.held s'
  | none =>
    match s'.valuesForCache dpk available with
    | some values => loaded (s'.fetched dpk values) (s'.addEntries dpk values)
    | none => s'.setLoad n phase

/-- The backend has answered; `none` is a `BaseHomematicException`. -/
def valuesFetched (dpk : DataPointKey) (result : Option (Dict String R))
    (loaded : Held R → Loading R P → Loading R P) (s : Loading R P) : Loading R P :=
  let values := valuesOfResult dpk result
  loaded (s.fetched dpk values) (s.addEntries dpk values)

def ignores (callSource : CallSource) (s : Loading R P) : Bool :=
  s.info.ignoreOnInitialLoad && decide (callSource ∈ [CallSource.hmInit, .haInit])

/-- `load_data_point_value` up to its first `await`. -/
def loadDataPointValue (callSource : CallSource) (s : Loading R P) : Loading R P :=
  let dpk := s.dataPoint.info.dpk
  if s.ignores callSource then
    match s.getGlobalValue dpk with
    | some cached => (s.checked dpk).write cached.held
    | none => s.checked dpk
  else if changedWithinSeconds s.now s.dataPoint.refreshedAt maxCacheAge then s
  else if ¬s.info.isReadable then s
  else { s with loads := s.loads ++ [.waiting true] }

/-! ## Runs -/

inductive Action (R : Type*) where
  | load (callSource : CallSource)
  /-- Load `n` gets the semaphore. -/
  | acquired (n : Nat) (available : Bool)
  | answered (n : Nat) (result : Option (Dict String R))
  | cancel (n : Nat)
  | event (value : R) (receivedAt : Nat)
  | statusEvent (value : R)
  | fetchAllDeviceData (interface : String) (allDeviceData : Dict String R)
  | clearData (interface : String)
  | cleanupData
  | setInitializationComplete
  /-- By another load of the device. -/
  | addEntries (dpk : DataPointKey) (values : Dict String (Option R))

/-- An action at the time `s.now`. -/
def run (s : Loading R P) : Action R → Option (Loading R P)
  | .load callSource => some (s.loadDataPointValue callSource)
  | .acquired n available =>
    match s.semaphoreIsFree, s.loads[n]?, s.info.statusDpk with
    | true, some (.waiting _), _ =>
      some (s.getValue n s.dataPoint.info.dpk available .fetching (valueLoaded n))
    | true, some (.statusWaiting held), some dpk =>
      some (s.getValue n dpk available (.statusFetching held) fun status =>
        statusLoaded n held status.value)
    | _, _, _ => none
  | .answered n result =>
    match s.loads[n]?, s.info.statusDpk with
    | some .fetching, _ => some (s.valuesFetched s.dataPoint.info.dpk result (valueLoaded n))
    | some (.statusFetching held), some dpk =>
      some (s.valuesFetched dpk result fun status => statusLoaded n held status.value)
    | _, _ => none
  | .cancel n => (s.loads[n]?).map fun _ => s.setLoad n .ended
  | .event value receivedAt =>
    if 0 < receivedAt ∧ receivedAt ≤ s.now then
      some { s with
        dataPoint := s.dataPoint.event value receivedAt
        loads := s.loads.map LoadPhase.changed
        lastEvent := some receivedAt }
    else none
  | .statusEvent value => some (s.updateStatus (.entry value))
  | .fetchAllDeviceData interface allDeviceData =>
    some { s with data := s.data.addData s.now interface allDeviceData }
  | .clearData interface => some { s with data := s.data.clear interface }
  | .cleanupData => some { s with data := s.data.cleanup s.now }
  | .setInitializationComplete => some { s with data := s.data.setInitializationComplete }
  | .addEntries dpk values => some (s.addEntries dpk values)

/-- Actions with their times, which do not go back. -/
def system (info : LoadInfo R) (dataPoint : ParameterInfo R P) :
    StepSystem (Loading R P) (Nat × Action R) where
  init := { now := 0, info, dataPoint := { info := dataPoint } }
  step s a := if a.1 < s.now then none else { s with now := a.1 }.run a.2

end Loading

end AioHomematic.Model
