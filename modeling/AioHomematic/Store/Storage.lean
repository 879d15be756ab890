import Mathlib.Logic.Basic

/-!
# The storage of one file

`Storage` of `store/storage.py`, from one await to the next. `save`, `remove` and
`load` wait for the lock in the order of their calls; the head of `lock` holds
it, and its executor job runs while it does. `delay_save` leaves a function that
gives the data and starts a timer; the timer makes a task, and the task, or
`flush` before it, calls the function and saves what it returns.
-/

namespace AioHomematic.Store

/-- How data become a file. Data may refer to objects that change, so both depend on their state. -/
structure StorageConfig (W D F : Type*) where
  asZip : Bool
  /-- `_validate_serializable`. -/
  serializable : W → D → Bool
  /-- What `_save_sync` writes. -/
  toSave : W → D → F

/-- `{key}.json` and `{key}.json.zip`. -/
structure Files (F : Type*) where
  json : Option F := none
  zip : Option F := none

namespace Files

variable {F : Type*} (files : Files F)

/-- `_load_sync`. -/
def load : Option F :=
  match files.json with
  | none => files.zip
  | some file => some file

/-- `target_path`. -/
def target (asZip : Bool) : Option F := if asZip then files.zip else files.json

def save (asZip : Bool) (file : F) : Files F :=
  if asZip then { files with zip := some file } else { files with json := some file }

/-- `_remove_sync`. -/
def remove : Files F := { files with json := none }

end Files

inductive FileJob (D : Type*) where
  | save (data : D)
  | remove
  | load

inductive JobResult (F : Type*) where
  | done
  | loaded (data : Option F)
  | failed

/-- A coroutine at the lock; `result` is that of its executor job. -/
structure LockEntry (D F C : Type*) where
  job : FileJob D
  caller : C
  result : Option (JobResult F) := none

structure Storage (W D F C : Type*) where
  pendingDataFunc : Option (W → D) := none
  delayHandle : Option Nat := none
  /-- Timers that are still to fire. -/
  timers : List Nat := []
  nextTimer : Nat := 0
  /-- Tasks of `_execute_delayed_save` that are still to run. -/
  delayedTasks : Nat := 0
  lock : List (LockEntry D F C) := []
  files : Files F := {}

namespace Storage

variable {W D F C : Type*} (config : StorageConfig W D F) (storage : Storage W D F C)

def cancelTimer : Storage W D F C :=
  match storage.delayHandle with
  | none => storage
  | some timer => { storage with timers := storage.timers.erase timer, delayHandle := none }

theorem cancelTimer_keeps : storage.cancelTimer.pendingDataFunc = storage.pendingDataFunc ∧
    storage.cancelTimer.lock = storage.lock ∧ storage.cancelTimer.files = storage.files := by
  unfold cancelTimer
  split <;> exact ⟨rfl, rfl, rfl⟩

def delaySave (dataFunc : W → D) : Storage W D F C :=
  let cancelled := storage.cancelTimer
  { cancelled with
    pendingDataFunc := some dataFunc
    delayHandle := some cancelled.nextTimer
    timers := cancelled.timers ++ [cancelled.nextTimer]
    nextTimer := cancelled.nextTimer + 1 }

/-- `_trigger_delayed_save`, when a timer fires. -/
def triggerDelayedSave (timer : Nat) : Option (Storage W D F C) :=
  if timer ∈ storage.timers then
    some { storage with
      timers := storage.timers.erase timer, delayedTasks := storage.delayedTasks + 1 }
  else none

def acquire (job : FileJob D) (caller : C) : Storage W D F C :=
  { storage with lock := storage.lock ++ [{ job, caller }] }

/-- `save`, up to its await; `none` is the `StorageError` of the validation. -/
def save (w : W) (data : D) (caller : C) : Option (Storage W D F C) :=
  if config.serializable w data then some (storage.acquire (.save data) caller) else none

/-- `_execute_delayed_save`, and whether it waits; a `StorageError` is logged. -/
def executeDelayedSave (w : W) (caller : C) : Storage W D F C × Bool :=
  match storage.pendingDataFunc with
  | none => (storage, false)
  | some dataFunc =>
    let taken := { storage with pendingDataFunc := none, delayHandle := none }
    match taken.save config w (dataFunc w) caller with
    | none => (taken, false)
    | some saving => (saving, true)

section ExecuteDelayedSave

variable {config storage}

theorem executeDelayedSave_none (h : storage.pendingDataFunc = none) (w : W) (caller : C) :
    storage.executeDelayedSave config w caller = (storage, false) := by
  simp only [executeDelayedSave, h]

theorem executeDelayedSave_some {dataFunc : W → D} (h : storage.pendingDataFunc = some dataFunc)
    {w : W} (hserializable : config.serializable w (dataFunc w) = true) (caller : C) :
    storage.executeDelayedSave config w caller =
      ({ storage with pendingDataFunc := none, delayHandle := none }.acquire
        (.save (dataFunc w)) caller, true) := by
  simp only [executeDelayedSave, h, save, hserializable, if_true]

end ExecuteDelayedSave

/-- A task of `_execute_delayed_save` runs. -/
def runDelayedTask (w : W) (caller : C) : Option (Storage W D F C) :=
  match storage.delayedTasks with
  | 0 => none
  | n + 1 => some ({ storage with delayedTasks := n }.executeDelayedSave config w caller).1

/-- `flush`, and whether it waits. -/
def flush (w : W) (caller : C) : Storage W D F C × Bool :=
  storage.cancelTimer.executeDelayedSave config w caller

/-- The executor job; `ok` is false when the file system fails. -/
def runJob (w : W) (files : Files F) (ok : Bool) : FileJob D → Files F × JobResult F
  | .save data =>
    if ok then (files.save config.asZip (config.toSave w data), .done) else (files, .failed)
  | .remove => if ok then (files.remove, .done) else (files, .failed)
  | .load => if ok then (files, .loaded files.load) else (files, .failed)

/-- The job of the coroutine that holds the lock. -/
def work (w : W) (ok : Bool) : Option (Storage W D F C) :=
  match storage.lock with
  | [] => none
  | entry :: waiting =>
    match entry.result with
    | some _ => none
    | none =>
      let worked := runJob config w storage.files ok entry.job
      some { storage with
        files := worked.1, lock := { entry with result := some worked.2 } :: waiting }

/-- The coroutine that holds the lock releases it and goes on with the result. -/
def resume : Option (Storage W D F C × C × JobResult F) :=
  match storage.lock with
  | [] => none
  | entry :: waiting =>
    entry.result.map fun result => ({ storage with lock := waiting }, entry.caller, result)

/-! ## What the steps do -/

section Steps

variable {config : StorageConfig W D F} {storage storage' : Storage W D F C} {w : W} {caller : C}

theorem triggerDelayedSave_eq_some {timer : Nat}
    (h : storage.triggerDelayedSave timer = some storage') :
    storage' = { storage with
      timers := storage.timers.erase timer, delayedTasks := storage.delayedTasks + 1 } := by
  unfold triggerDelayedSave at h
  split at h
  · cases h
    rfl
  · cases h

theorem runDelayedTask_eq_some (h : storage.runDelayedTask config w caller = some storage') :
    ∃ n, storage' =
      ({ storage with delayedTasks := n }.executeDelayedSave config w caller).1 := by
  unfold runDelayedTask at h
  split at h
  · cases h
  next n _ => exact ⟨n, (Option.some.inj h).symm⟩

theorem work_eq_some {ok : Bool} (h : storage.work config w ok = some storage') :
    ∃ entry waiting, storage.lock = entry :: waiting ∧ entry.result = none ∧
      storage' = { storage with
        files := (runJob config w storage.files ok entry.job).1
        lock := { entry with
          result := some (runJob config w storage.files ok entry.job).2 } :: waiting } := by
  unfold work at h
  split at h
  · cases h
  next entry waiting hlock =>
    split at h
    · cases h
    next hresult => exact ⟨entry, waiting, hlock, hresult, (Option.some.inj h).symm⟩

theorem resume_eq_some {resumed : Storage W D F C × C × JobResult F}
    (h : storage.resume = some resumed) :
    ∃ entry waiting result, storage.lock = entry :: waiting ∧ entry.result = some result ∧
      resumed = ({ storage with lock := waiting }, entry.caller, result) := by
  unfold resume at h
  split at h
  · cases h
  next entry waiting hlock =>
    obtain ⟨result, hresult, rfl⟩ := Option.map_eq_some_iff.mp h
    exact ⟨entry, waiting, result, hlock, hresult, rfl⟩

end Steps

end Storage

end AioHomematic.Store
