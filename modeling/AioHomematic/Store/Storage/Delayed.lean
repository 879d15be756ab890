import AioHomematic.Lib.StepSystem
import AioHomematic.Store.Storage

/-!
# Delayed saves

Runs of one storage. Every `save`, `delay_save` and `remove` is numbered, and
the number goes along with the data, so that a file tells which request it
comes from; number 0 is a file from before. A run is judged by `Correct`. What a
step does to the requests, the pending slot, the lock and the files is one of
the moves of `Traffic.Move`; the invariants are kept by every move.
-/

namespace AioHomematic.Store

open Lib StepSystem

variable {W D F : Type*}

inductive Request (W D : Type*) where
  | save (data : D)
  | delaySave (dataFunc : W → D)
  | remove

namespace Request

/-- The data of a request. -/
def Gives : Request W D → D → Prop
  | .save data, data' => data' = data
  | .delaySave dataFunc, data => ∃ w, data = dataFunc w
  | .remove, _ => False

def isRemoval : Request W D → Bool
  | .save _ => false
  | .delaySave _ => false
  | .remove => true

end Request

inductive Caller where
  /-- A `save` or a `remove`, by its number. -/
  | request (number : Nat)
  | load
  | delayedTask
  /-- A `flush`, by the number of requests that had been made when it was called. -/
  | flush (made : Nat)

def Caller.flushed : Caller → Option Nat
  | .request _ => none
  | .load => none
  | .delayedTask => none
  | .flush made => some made

abbrev NumberedEntry (D F : Type*) := LockEntry (Nat × D) (Nat × F) Caller

namespace LockEntry

/-- The request whose data are saved. -/
def saves (entry : NumberedEntry D F) : Option Nat :=
  match entry.job with
  | .save data => some data.1
  | .remove => none
  | .load => none

/-- The request that is carried out. -/
def number (entry : NumberedEntry D F) : Option Nat :=
  match entry.job, entry.caller with
  | .save data, _ => some data.1
  | .remove, .request number => some number
  | _, _ => none

def removes (entry : NumberedEntry D F) : Bool :=
  match entry.job with
  | .save _ => false
  | .remove => true
  | .load => false

end LockEntry

/-- The same configuration for numbered data. -/
def StorageConfig.numbered (config : StorageConfig W D F) :
    StorageConfig W (Nat × D) (Nat × F) where
  asZip := config.asZip
  serializable w data := config.serializable w data.2
  toSave w data := (data.1, config.toSave w data.2)

structure StorageRun (W D F : Type*) where
  world : W
  storage : Storage W (Nat × D) (Nat × F) Caller := {}
  requests : List (Request W D) := []
  /-- The flush that returned in the last step. -/
  flushed : Option Nat := none

inductive StorageAction (W D : Type*) where
  | save (data : D)
  | delaySave (dataFunc : W → D)
  | remove
  | load
  | flush
  | fireTimer (timer : Nat)
  | runDelayedTask
  | work (ok : Bool)
  | resume
  /-- The objects change that the data refer to. -/
  | change (world : W)

namespace StorageRun

section Step

variable (config : StorageConfig W D F) (s : StorageRun W D F)

/-- A `save` of data that are not serializable raises and is no step. -/
def step : StorageAction W D → Option (StorageRun W D F)
  | .save data =>
    let number := s.requests.length + 1
    (s.storage.save config.numbered s.world (number, data) (.request number)).map fun storage =>
      { s with storage, requests := s.requests ++ [.save data], flushed := none }
  | .delaySave dataFunc =>
    let number := s.requests.length + 1
    some { s with
      storage := s.storage.delaySave fun w => (number, dataFunc w)
      requests := s.requests ++ [.delaySave dataFunc]
      flushed := none }
  | .remove =>
    some { s with
      storage := s.storage.acquire .remove (.request (s.requests.length + 1))
      requests := s.requests ++ [.remove]
      flushed := none }
  | .load => some { s with storage := s.storage.acquire .load .load, flushed := none }
  | .flush =>
    let made := s.requests.length
    let flushing := s.storage.flush config.numbered s.world (.flush made)
    some { s with storage := flushing.1, flushed := if flushing.2 then none else some made }
  | .fireTimer timer =>
    (s.storage.triggerDelayedSave timer).map fun storage => { s with storage, flushed := none }
  | .runDelayedTask =>
    (s.storage.runDelayedTask config.numbered s.world .delayedTask).map fun storage =>
      { s with storage, flushed := none }
  | .work ok =>
    (s.storage.work config.numbered s.world ok).map fun storage =>
      { s with storage, flushed := none }
  | .resume =>
    s.storage.resume.map fun resumed =>
      { s with storage := resumed.1, flushed := resumed.2.1.flushed }
  | .change world => some { s with world, flushed := none }

def init (world : W) (files : Files F) : StorageRun W D F where
  world
  storage := { files := { json := files.json.map (0, ·), zip := files.zip.map (0, ·) } }

def system (world : W) (files : Files F) : StepSystem (StorageRun W D F) (StorageAction W D) where
  init := init world files
  step := step config

/-- The pending data, if any, are those of the last request, and they can be saved. -/
def TakesLatest : Prop :=
  match s.storage.pendingDataFunc with
  | none => True
  | some dataFunc =>
    (dataFunc s.world).1 = s.requests.length ∧
      config.serializable s.world (dataFunc s.world).2 = true

/-- No save of the last request waits to be written. -/
def NothingUnderWay : Prop :=
  ∀ entry ∈ s.storage.lock, entry.result.isNone → entry.saves ≠ some s.requests.length

/-- What a removal does not unlink is not there. -/
def RemovesAll : Prop :=
  ∀ entry ∈ s.storage.lock.take 1, entry.removes → s.storage.files.zip.isNone

def Ok (s : StorageRun W D F) : StorageAction W D → Prop
  | .save _ => True
  | .delaySave _ => True
  | .remove => True
  | .load => True
  | .flush =>
    s.TakesLatest config ∧ (s.storage.pendingDataFunc.isNone → s.NothingUnderWay)
  | .fireTimer _ => True
  | .runDelayedTask => s.TakesLatest config
  | .work ok => ok = true ∧ s.RemovesAll
  | .resume => True
  | .change _ => True

instance : Decidable (s.TakesLatest config) :=
  match h : s.storage.pendingDataFunc with
  | none => .isTrue (by simp only [TakesLatest, h])
  | some dataFunc =>
    decidable_of_iff ((dataFunc s.world).1 = s.requests.length ∧
      config.serializable s.world (dataFunc s.world).2 = true) (by simp only [TakesLatest, h])

instance : Decidable s.NothingUnderWay := inferInstanceAs (Decidable (∀ _ ∈ _, _))

instance : Decidable s.RemovesAll := inferInstanceAs (Decidable (∀ _ ∈ _, _))

instance : DecidableRel (Ok config (W := W) (D := D) (F := F)) := fun s a =>
  match a with
  | .save _ => .isTrue trivial
  | .delaySave _ => .isTrue trivial
  | .remove => .isTrue trivial
  | .load => .isTrue trivial
  | .flush => inferInstanceAs (Decidable (_ ∧ (_ → _)))
  | .fireTimer _ => .isTrue trivial
  | .runDelayedTask => inferInstanceAs (Decidable (s.TakesLatest config))
  | .work _ => inferInstanceAs (Decidable (_ ∧ _))
  | .resume => .isTrue trivial
  | .change _ => .isTrue trivial

end Step

end StorageRun

/-! ## Moves -/

/-- What matters of a run: timers and tasks only decide when the pending data are taken. -/
structure Traffic (W D F : Type*) where
  requests : List (Request W D)
  pending : Option (W → Nat × D)
  lock : List (NumberedEntry D F)
  files : Files (Nat × F)

def StorageRun.traffic (s : StorageRun W D F) : Traffic W D F where
  requests := s.requests
  pending := s.storage.pendingDataFunc
  lock := s.storage.lock
  files := s.storage.files

namespace Traffic

/-- What one step can do. -/
inductive Move (config : StorageConfig W D F) : Traffic W D F → Traffic W D F → Prop
  | quiet (v) : Move config v v
  | save (v data) : Move config v { v with
      requests := v.requests ++ [.save data]
      lock := v.lock ++ [{ job := .save (v.requests.length + 1, data)
                           caller := .request (v.requests.length + 1) }] }
  | delaySave (v dataFunc) : Move config v { v with
      requests := v.requests ++ [.delaySave dataFunc]
      pending := some fun w => (v.requests.length + 1, dataFunc w) }
  | remove (v) : Move config v { v with
      requests := v.requests ++ [.remove]
      lock := v.lock ++ [{ job := .remove, caller := .request (v.requests.length + 1) }] }
  | load (v) : Move config v { v with lock := v.lock ++ [{ job := .load, caller := .load }] }
  /-- The pending data are taken, by the delayed task or by a flush. -/
  | take (v dataFunc w caller) : v.pending = some dataFunc →
      (dataFunc w).1 = v.requests.length →
      caller = .delayedTask ∨ caller = .flush v.requests.length →
      Move config v { v with
        pending := none, lock := v.lock ++ [{ job := .save (dataFunc w), caller }] }
  | work (v entry lock w) : v.lock = entry :: lock → entry.result = none →
      (entry.removes → v.files.zip = none) →
      Move config v { v with
        files := (Storage.runJob config.numbered w v.files true entry.job).1
        lock := { entry with
          result := some (Storage.runJob config.numbered w v.files true entry.job).2 } :: lock }
  | resume (v entry lock result) : v.lock = entry :: lock → entry.result = some result →
      Move config v { v with lock }

end Traffic

namespace StorageRun

variable {config : StorageConfig W D F} {s t : StorageRun W D F} {a : StorageAction W D}

theorem take_move {u : Storage W (Nat × D) (Nat × F) Caller}
    (hpending : u.pendingDataFunc = s.storage.pendingDataFunc) (hlock : u.lock = s.storage.lock)
    (hfiles : u.files = s.storage.files) (htake : s.TakesLatest config) {caller : Caller}
    (hcaller : caller = .delayedTask ∨ caller = .flush s.requests.length) (flushed : Option Nat) :
    s.traffic.Move config { s with
      storage := (u.executeDelayedSave config.numbered s.world caller).1
      flushed }.traffic := by
  have hsame : { s with storage := u, flushed }.traffic = s.traffic := by
    simp only [traffic, hpending, hlock, hfiles]
  cases hs : s.storage.pendingDataFunc with
  | none =>
    rw [Storage.executeDelayedSave_none (hpending.trans hs), hsame]
    exact .quiet _
  | some dataFunc =>
    simp only [TakesLatest, hs] at htake
    rw [Storage.executeDelayedSave_some (hpending.trans hs) htake.2]
    simp only [traffic, Storage.acquire, hlock, hfiles]
    exact .take s.traffic dataFunc s.world caller hs htake.1 hcaller

theorem move_of_step (hok : Ok config s a) (h : step config s a = some t) :
    s.traffic.Move config t.traffic := by
  cases a with
  | save data =>
    obtain ⟨storage, hsave, rfl⟩ := Option.map_eq_some_iff.mp h
    unfold Storage.save at hsave
    split at hsave
    · cases hsave
      exact .save s.traffic data
    · cases hsave
  | delaySave dataFunc =>
    cases h
    obtain ⟨-, hlock, hfiles⟩ := s.storage.cancelTimer_keeps
    simp only [traffic, Storage.delaySave, hlock, hfiles]
    exact .delaySave s.traffic dataFunc
  | remove =>
    cases h
    exact .remove s.traffic
  | load =>
    cases h
    exact .load s.traffic
  | flush =>
    cases h
    obtain ⟨hpending, hlock, hfiles⟩ := s.storage.cancelTimer_keeps
    exact take_move hpending hlock hfiles hok.1 (.inr rfl) _
  | fireTimer timer =>
    obtain ⟨storage, hfire, rfl⟩ := Option.map_eq_some_iff.mp h
    obtain rfl := Storage.triggerDelayedSave_eq_some hfire
    exact .quiet s.traffic
  | runDelayedTask =>
    obtain ⟨storage, hrun, rfl⟩ := Option.map_eq_some_iff.mp h
    obtain ⟨n, rfl⟩ := Storage.runDelayedTask_eq_some hrun
    exact take_move (u := { s.storage with delayedTasks := n }) rfl rfl rfl hok (.inl rfl) _
  | work ok =>
    obtain ⟨rfl, hremoves⟩ := hok
    obtain ⟨storage, hwork, rfl⟩ := Option.map_eq_some_iff.mp h
    obtain ⟨entry, lock, hlock, hresult, rfl⟩ := Storage.work_eq_some hwork
    refine .work s.traffic entry lock s.world hlock hresult fun hentry => ?_
    have hmem : entry ∈ s.storage.lock.take 1 := by simp [hlock]
    exact Option.isNone_iff_eq_none.mp (hremoves entry hmem hentry)
  | resume =>
    obtain ⟨resumed, hresume, rfl⟩ := Option.map_eq_some_iff.mp h
    obtain ⟨entry, lock, result, hlock, hresult, rfl⟩ := Storage.resume_eq_some hresume
    exact .resume s.traffic entry lock result hlock hresult
  | change world =>
    cases h
    exact .quiet s.traffic

end StorageRun

end AioHomematic.Store
