import AioHomematic.Store.Persistent.Base

/-!
# The incident store

`IncidentStore` of `store/persistent/incident.py`. The incidents are kept by
type; `_content` is the flat list of them that is saved, made anew by every
`record_incident` and replaced by what `load` finds. An incident is its id, its
type and its timestamp, whose order is that of the texts.
-/

namespace AioHomematic.Store.Persistent

open Lib StepSystem

variable {I τ H : Type*} [DecidableEq I] [LinearOrder τ] [DecidableEq H]

structure IncidentSnapshot (I τ : Type*) where
  incidentId : Nat
  timestampIso : τ
  incidentType : I
deriving DecidableEq

abbrev Incidents (I τ : Type*) := List (IncidentSnapshot I τ)

structure IncidentConfig (τ : Type*) where
  maxPerType : Nat
  /-- At a time: a timestamp can be read and is older than `max_age_days`. -/
  isExpired : Nat → τ → Bool

inductive IncidentCaller (I τ : Type*) where
  | save
  | delayedSave
  | flush
  /-- `_ensure_loaded`, with the incidents that it remembers. -/
  | load (session : Dict I (Incidents I τ))

/-- What is saved, as a function of the list in `_content`. -/
abbrev IncidentView (I τ : Type*) := Incidents I τ → Incidents I τ

/-- `_SCHEMA_VERSION` is 1, so every file is of the current schema. -/
def incidentStorage (I τ : Type*) :
    StorageConfig (Incidents I τ) (IncidentView I τ) (Incidents I τ) where
  asZip := false
  serializable _ _ := true
  toSave content data := data content

def sortByTimestamp (incidents : Incidents I τ) : Incidents I τ :=
  incidents.insertionSort fun i j => i.timestampIso ≤ j.timestampIso

/-- `pop(0)` while there are more than the limit. -/
def limited (maxPerType : Nat) (incidents : Incidents I τ) : Incidents I τ :=
  incidents.drop (incidents.length - maxPerType)

structure IncidentStore (I τ H : Type*) where
  incidentsByType : Dict I (Incidents I τ) := .empty
  loaded : Bool := false
  content : Incidents I τ := []
  cache : Cache (Incidents I τ) (IncidentView I τ) (Incidents I τ) H (IncidentCaller I τ) := {}

namespace IncidentStore

section Operations

variable (config : IncidentConfig τ) (digest : Incidents I τ → H) (store : IncidentStore I τ H)

def ofType (incidentType : I) : Incidents I τ := (store.incidentsByType.get? incidentType).getD []

def incidents : Incidents I τ := sortByTimestamp store.incidentsByType.values.flatten

def recordIncident (incident : IncidentSnapshot I τ) : IncidentStore I τ H :=
  let incidentType := incident.incidentType
  let typeIncidents := limited config.maxPerType (store.ofType incidentType ++ [incident])
  let recorded := { store with
    incidentsByType := store.incidentsByType.set incidentType typeIncidents }
  { recorded with content := recorded.incidents, cache := store.cache.saveDelayed id }

/-- `save`, up to its await. -/
def save : IncidentStore I τ H :=
  { store with
    cache := (store.cache.save (digest store.content) (incidentStorage I τ) store.content
      (fun _ => store.content) .save).1 }

/-- `_ensure_loaded`, up to its await. -/
def ensureLoaded : IncidentStore I τ H :=
  if store.loaded then store
  else
    { store with
      cache := { store.cache with
        storage := store.cache.storage.acquire .load (.load store.incidentsByType) } }

/-- `_process_loaded_content`. -/
def processLoadedContent (now : Nat) (data : Incidents I τ) : Dict I (Incidents I τ) :=
  (Dict.group IncidentSnapshot.incidentType
    (data.filter fun incident => !config.isExpired now incident.timestampIso)).map fun incidents =>
      limited config.maxPerType (sortByTimestamp incidents)

/-- `load`, after its await. -/
def load (now : Nat) (result : JobResult (Incidents I τ)) : IncidentStore I τ H :=
  match result with
  | .done => store
  | .failed => store
  | .loaded none => store
  | .loaded (some data) =>
    if some (digest data) = store.cache.lastHashSaved then store
    else
      { store with
        incidentsByType := processLoadedContent config now data
        content := data
        cache := { store.cache with lastHashSaved := some (digest data) } }

/-- The loop over `current_session_by_type`. -/
def mergeSession (session incidentsByType : Dict I (Incidents I τ)) : Dict I (Incidents I τ) :=
  session.entries.foldl (fun merged entry =>
    let typeIncidents := (merged.get? entry.1).getD []
    merged.set entry.1 (typeIncidents ++ entry.2.filter fun incident =>
      incident.incidentId ∉ typeIncidents.map IncidentSnapshot.incidentId)) incidentsByType

/-- `_ensure_loaded`, after its await. -/
def finishLoad (now : Nat) (session : Dict I (Incidents I τ))
    (result : JobResult (Incidents I τ)) : IncidentStore I τ H :=
  let read := store.load config digest now result
  { read with
    incidentsByType := (mergeSession session read.incidentsByType).map fun incidents =>
      limited config.maxPerType (sortByTimestamp incidents)
    loaded := true }

end Operations

end IncidentStore

/-! ## Runs -/

/-- The incidents on disk before a run, if there is a file. -/
structure IncidentFile (I τ : Type*) where
  file : Option (Incidents I τ)
  /-- The next id that is free. -/
  nextId : Nat
  unique : ((file.getD []).map IncidentSnapshot.incidentId).Nodup
  fresh : ∀ incident ∈ file.getD [], incident.incidentId < nextId

structure IncidentRun (I τ H : Type*) where
  store : IncidentStore I τ H
  now : Nat
  nextId : Nat
  /-- The incidents that were on disk or have been recorded. -/
  history : Incidents I τ

inductive IncidentAction (I τ : Type*) where
  | recordIncident (incidentType : I) (timestampIso : τ)
  | save
  | ensureLoaded
  | flush
  | fireTimer (timer : Nat)
  | runDelayedTask
  | work (ok : Bool)
  | resume
  | tick

namespace IncidentRun

section Step

variable (config : IncidentConfig τ) (digest : Incidents I τ → H) (s : IncidentRun I τ H)

abbrev storage : Storage (Incidents I τ) (IncidentView I τ) (Incidents I τ) (IncidentCaller I τ) :=
  s.store.cache.storage

def setStorage (storage : Storage (Incidents I τ) (IncidentView I τ) (Incidents I τ)
    (IncidentCaller I τ)) : IncidentRun I τ H :=
  { s with store := { s.store with cache := { s.store.cache with storage } } }

def step : IncidentAction I τ → Option (IncidentRun I τ H)
  | .recordIncident incidentType timestampIso =>
    let incident : IncidentSnapshot I τ := { incidentId := s.nextId, timestampIso, incidentType }
    some { s with
      store := s.store.recordIncident config incident
      nextId := s.nextId + 1
      history := s.history ++ [incident] }
  | .save => some { s with store := s.store.save digest }
  | .ensureLoaded => some { s with store := s.store.ensureLoaded }
  | .flush =>
    some (s.setStorage (s.storage.flush (incidentStorage I τ) s.store.content .flush).1)
  | .fireTimer timer => (s.storage.triggerDelayedSave timer).map s.setStorage
  | .runDelayedTask =>
    (s.storage.runDelayedTask (incidentStorage I τ) s.store.content .delayedSave).map s.setStorage
  | .work ok => (s.storage.work (incidentStorage I τ) s.store.content ok).map s.setStorage
  | .resume =>
    s.storage.resume.map fun (storage, caller, result) =>
      let released := s.setStorage storage
      match caller with
      | .save =>
        { released with
          store := { released.store with
            cache := (released.store.cache.saved (digest s.store.content) result).1 } }
      | .delayedSave => released
      | .flush => released
      | .load session =>
        { released with store := released.store.finishLoad config digest s.now session result }
  | .tick => some { s with now := s.now + 1 }

def init (disk : IncidentFile I τ) (useCaches : Bool) (now : Nat) : IncidentRun I τ H where
  store := { cache := { storage := { files := { json := disk.file } }, useCaches } }
  now
  nextId := disk.nextId
  history := disk.file.getD []

def system (disk : IncidentFile I τ) (useCaches : Bool) (now : Nat) :
    StepSystem (IncidentRun I τ H) (IncidentAction I τ) where
  init := init disk useCaches now
  step := step config digest

/-- What is on disk. -/
def persisted : Incidents I τ := s.storage.files.load.getD []

/-- Older than the maximum age by now, or one of a type of which more than the limit are at least as
new, itself included. -/
def Excused (incident : IncidentSnapshot I τ) : Prop :=
  (∃ time ≤ s.now, config.isExpired time incident.timestampIso = true) ∨
    config.maxPerType < (s.history.filter fun other =>
      other.incidentType = incident.incidentType ∧
        incident.timestampIso ≤ other.timestampIso).length

/-- No save is to come: whatever is on disk is final, as far as nothing else happens. -/
def Quiet : Prop := s.storage.pendingDataFunc.isNone ∧ s.storage.lock.isEmpty

/-- What the store promises: once quiet, every incident is on disk, once, or excused. -/
def Correct : Prop :=
  s.Quiet → (∀ incident ∈ s.history, s.Excused config incident ∨ incident ∈ s.persisted) ∧
    (s.persisted.map IncidentSnapshot.incidentId).Nodup

/-- The history on disk is in memory. -/
def HistoryKnown : Prop :=
  ∀ incident ∈ s.persisted, s.Excused config incident ∨
    incident ∈ s.store.ofType incident.incidentType

/-- What a load at the lock has read. -/
def readData (entry : LockEntry (IncidentView I τ) (Incidents I τ) (IncidentCaller I τ)) :
    Option (Incidents I τ) :=
  match entry.result with
  | none => none
  | some .done => none
  | some .failed => none
  | some (.loaded data) => data

/-- A load that goes on and replaces the content has read all that is in memory. -/
def ReadsMemory : Prop :=
  ∀ entry ∈ s.storage.lock.take 1, ∀ data ∈ readData entry,
    some (digest data) ≠ s.store.cache.lastHashSaved →
      ∀ incident ∈ s.store.incidents, incident ∈ data

def Ok (s : IncidentRun I τ H) : IncidentAction I τ → Prop
  | .recordIncident incidentType timestampIso =>
    s.store.cache.useCaches = true ∧ s.HistoryKnown config ∧
      ∀ incident ∈ s.store.ofType incidentType, incident.timestampIso ≤ timestampIso
  | .save => s.HistoryKnown config
  | .ensureLoaded => True
  | .flush => True
  | .fireTimer _ => True
  | .runDelayedTask => True
  | .work ok => ok = true
  | .resume => s.ReadsMemory digest
  | .tick => True

instance (incident : IncidentSnapshot I τ) : Decidable (s.Excused config incident) :=
  inferInstanceAs (Decidable ((∃ _ ≤ _, _) ∨ _))

instance : DecidableRel (Ok (I := I) (H := H) config digest)
  | s, .recordIncident .. =>
    inferInstanceAs (Decidable (_ ∧ (∀ _ ∈ s.persisted, _) ∧ (∀ _ ∈ s.store.ofType _, _)))
  | s, .save => inferInstanceAs (Decidable (∀ _ ∈ s.persisted, _))
  | _, .ensureLoaded => .isTrue trivial
  | _, .flush => .isTrue trivial
  | _, .fireTimer _ => .isTrue trivial
  | _, .runDelayedTask => .isTrue trivial
  | _, .work _ => inferInstanceAs (Decidable (_ = true))
  | s, .resume => inferInstanceAs (Decidable (∀ _ ∈ s.storage.lock.take 1, ∀ _ ∈ readData _, _))
  | _, .tick => .isTrue trivial

end Step

end IncidentRun

end AioHomematic.Store.Persistent
