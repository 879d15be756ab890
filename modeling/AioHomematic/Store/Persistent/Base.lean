import AioHomematic.Store.Storage
import AioHomematic.Store.Storage.Format
import AioHomematic.Lib.StepSystem

/-!
# Persistent caches

`BasePersistentCache` of `store/persistent/base.py`, from one await to the next.
`_content` is a dict whose values are objects of their own: the copy that `save`
makes has the keys of its time, and shares the objects. So the data of a save
are a function of the state of the content, evaluated when they are written.
-/

namespace AioHomematic.Store.Persistent

open Lib

inductive DataOperationResult where
  | loadFail
  | loadSuccess
  | saveFail
  | saveSuccess
  | noLoad
  | noSave
  | versionMismatch
deriving DecidableEq

/-- `_content`, and the objects under its keys. -/
structure Content where
  entries : Dict String Nat
  objects : Nat → Json

def Content.value (content : Content) : Dict String Json := content.entries.map content.objects

/-- Data that refer to the objects of the content. -/
abbrev View := Content → Dict String Json

/-- `{"_schema_version": SCHEMA_VERSION, **content}`. -/
def withSchemaVersion (schemaVersion : Int) (content : Dict String Json) : Dict String Json :=
  (Dict.empty.set "_schema_version" (.int schemaVersion)).merge content

/-- What `save` saves. -/
def saveData (schemaVersion : Int) (content : Content) : View := fun now =>
  withSchemaVersion schemaVersion (content.entries.map now.objects)

/-- What `save_delayed` saves: `_content` itself. -/
def delayedData : View := Content.value

/-- Files with these data; JSON values are always serializable. -/
def storageConfig (options : StorageOptions) (asZip : Bool) : StorageConfig Content View Json where
  asZip
  serializable _ _ := true
  toSave content data := options.toSave (data content)

/-- `SCHEMA_VERSION` and `_migrate_schema` of a class; the latter is `none` where it raises. -/
structure CacheClass where
  schemaVersion : Int
  migrateSchema : Dict String Json → Rat → Option (Dict String Json)

/-- `hash_sha256`; `digest` is that of the text of a JSON value. -/
def hashSha256 {H : Type*} (digest : Json → H) (value : Dict String Json) : H :=
  digest (Json.ofDict value).sortKeys

/-- A cache; `""` as the hash that was saved last is `none`. -/
structure Cache (W D F H C : Type*) where
  storage : Storage W D F C := {}
  lastHashSaved : Option H := none
  useCaches : Bool := true

namespace Cache

variable {W D F H C : Type*} [DecidableEq H] (cache : Cache W D F H C) (contentHash : H)

def hasUnsavedChanges : Bool := some contentHash ≠ cache.lastHashSaved

/-- `_should_save`. -/
def shouldSave : Bool := cache.useCaches && cache.hasUnsavedChanges contentHash

/-- `save`, up to its await, and its result when it has none. -/
def save (config : StorageConfig W D F) (content : W) (saveData : D) (caller : C) :
    Cache W D F H C × Option DataOperationResult :=
  if cache.shouldSave contentHash then
    match cache.storage.save config content saveData caller with
    | none => (cache, some .saveFail)
    | some storage => ({ cache with storage }, none)
  else (cache, some .noSave)

/-- `save`, after its await, with the hash of the content by then. -/
def saved (result : JobResult F) : Cache W D F H C × DataOperationResult :=
  let current := { cache with lastHashSaved := some contentHash }
  match result with
  | .failed => (cache, .saveFail)
  | .done => (current, .saveSuccess)
  | .loaded _ => (current, .saveSuccess)

/-- `clear`, up to its await. -/
def clear (caller : C) : Cache W D F H C :=
  { cache with storage := cache.storage.acquire .remove caller }

/-- `clear`, after its await, but for the content. -/
def cleared : Cache W D F H C := { cache with lastHashSaved := none }

/-- `save_delayed`; the data are `_content` itself. -/
def saveDelayed (content : D) : Cache W D F H C :=
  if cache.useCaches then { cache with storage := cache.storage.delaySave fun _ => content }
  else cache

end Cache

/-! ## Loading -/

structure LoadOutcome (H : Type*) where
  result : DataOperationResult
  content : Dict String Json
  lastHashSaved : Option H
  /-- The message `Schema outdated` is logged. -/
  outdated : Bool := false

variable {H : Type*} [DecidableEq H]

/-- The end of `load`, with the data in the schema of the class. -/
def loadCurrent (digest : Json → H) (content : Dict String Json) (lastHashSaved : Option H)
    (outdated : Bool) (data : Dict String Json) : LoadOutcome H :=
  let data := data.erase "_schema_version"
  let loadedHash := hashSha256 digest data
  if some loadedHash = lastHashSaved then { result := .noLoad, content, lastHashSaved, outdated }
  else { result := .loadSuccess, content := data, lastHashSaved := some loadedHash, outdated }

/-- `load`, after its await; `none` where it raises. The storage gives no file, fails, or gives
data. -/
def load (cls : CacheClass) (digest : Json → H) (content : Dict String Json)
    (lastHashSaved : Option H) (loaded : Option (Option Json)) : Option (LoadOutcome H) :=
  match loaded with
  | none => some { result := .loadFail, content, lastHashSaved }
  | some none => some { result := .noLoad, content, lastHashSaved }
  | some (some json) =>
    match json.asDict with
    | none => none
    | some data =>
      match ((data.get? "_schema_version").getD (.int 1)).asNumber with
      | none => none
      | some loadedVersion =>
        if loadedVersion < cls.schemaVersion then
          match cls.migrateSchema data loadedVersion with
          | none => some { result := .versionMismatch, content, lastHashSaved, outdated := true }
          | some migrated => some (loadCurrent digest content lastHashSaved true migrated)
        else some (loadCurrent digest content lastHashSaved false data)

end AioHomematic.Store.Persistent

/-!
## Saves while the content changes

Runs of `save` and `clear` of one cache, with any changes of the content in
between. A save copies the content, waits for its file to be written, and then
records the hash of the content as it is by then. Without unsaved changes the
file holds the content, as long as every save that goes on finds the content
that it wrote (`Ok`).
-/

namespace AioHomematic.Store.Persistent

open Lib StepSystem

/-- Equal as Python dicts: the keys may stand in another order. -/
def SameContent (d d' : Dict String Json) : Prop :=
  (Json.ofDict d).sortKeys = (Json.ofDict d').sortKeys

instance (d d' : Dict String Json) : Decidable (SameContent d d') :=
  inferInstanceAs (Decidable (_ = _))

inductive SaveCaller where
  /-- A `save`, by the content that it copied. -/
  | save (copied : Content)
  | clear

structure SaveRun (H : Type*) where
  cache : Cache Content View Json H SaveCaller
  content : Content
  /-- The content when the last job of the storage ran. -/
  written : Content

/-- `has_unsaved_changes`. -/
def SaveRun.hasUnsavedChanges {H : Type*} [DecidableEq H] (digest : Json → H) (s : SaveRun H) :
    Bool :=
  s.cache.hasUnsavedChanges (hashSha256 digest s.content.value)

inductive SaveAction where
  | mutate (content : Content)
  | save
  | clear
  | work (ok : Bool)
  /-- `empty` is the content after a `clear` that goes on. -/
  | resume (empty : Content)

namespace SaveRun

section Step

variable {H : Type*} [DecidableEq H] (options : StorageOptions) (asZip : Bool)
  (schemaVersion : Int) (digest : Json → H) (s : SaveRun H)

def step : SaveAction → Option (SaveRun H)
  | .mutate content => some { s with content }
  | .save =>
    some { s with
      cache := (s.cache.save (hashSha256 digest s.content.value) (storageConfig options asZip)
        s.content (saveData schemaVersion s.content) (.save s.content)).1 }
  | .clear => some { s with cache := s.cache.clear .clear }
  | .work ok =>
    (s.cache.storage.work (storageConfig options asZip) s.content ok).map fun storage =>
      { s with cache := { s.cache with storage }, written := s.content }
  | .resume empty =>
    s.cache.storage.resume.map fun (storage, caller, result) =>
      let cache := { s.cache with storage }
      match caller, result with
      | .save _, result =>
        { s with cache := (cache.saved (hashSha256 digest s.content.value) result).1 }
      | .clear, .failed => { s with cache }
      | .clear, _ => { s with cache := cache.cleared, content := empty }

def init (content : Content) (files : Files Json) (useCaches : Bool) : SaveRun H where
  cache := { storage := { files }, useCaches }
  content
  written := content

def system (content : Content) (files : Files Json) (useCaches : Bool) :
    StepSystem (SaveRun H) SaveAction where
  init := init content files useCaches
  step := step options asZip schemaVersion digest

/-- A save that goes on finds the content that it wrote: the keys of its copy, with the objects as
they were then. -/
def FindsWritten : Prop :=
  match s.cache.storage.lock with
  | { caller := .save copied, result := some .done, .. } :: _ =>
    SameContent (copied.entries.map s.written.objects) s.content.value
  | _ => True

def Ok (s : SaveRun H) : SaveAction → Prop
  | .mutate _ => True
  | .save => True
  | .clear => True
  | .work _ => True
  | .resume _ => s.FindsWritten

/-- Unless a job has run whose caller has not gone on: without unsaved changes the file is that of
the content. -/
def Correct : Prop :=
  (∀ entry ∈ s.cache.storage.lock, entry.result = none) →
    s.hasUnsavedChanges digest = false →
      ∃ saved, SameContent saved s.content.value ∧ s.cache.storage.files.target asZip =
        some (options.toSave (withSchemaVersion schemaVersion saved))

end Step

section Kept

variable {H : Type*} [DecidableEq H] {options : StorageOptions} {asZip : Bool}
  {schemaVersion : Int} {digest : Json → H} {s t : SaveRun H} {a : SaveAction}

/-- An entry at the lock is a save of its copy, or a removal. -/
def Expected (schemaVersion : Int) (entry : LockEntry View Json SaveCaller) : Prop :=
  match entry.caller with
  | .save copied => entry.job = .save (saveData schemaVersion copied)
  | .clear => entry.job = .remove

structure Kept (options : StorageOptions) (asZip : Bool) (schemaVersion : Int) (digest : Json → H)
    (s : SaveRun H) : Prop where
  entries : ∀ entry ∈ s.cache.storage.lock, Expected schemaVersion entry
  tail : ∀ entry ∈ s.cache.storage.lock.tail, entry.result = none
  saves : ∀ entry ∈ s.cache.storage.lock, ∀ data, entry.result ≠ some (.loaded data)
  /-- What the holder of the lock has written is still there. -/
  head : ∀ entry ∈ s.cache.storage.lock, entry.result = some .done → ∀ copied,
    entry.caller = .save copied → s.cache.storage.files.target asZip = some (options.toSave
      (withSchemaVersion schemaVersion (copied.entries.map s.written.objects)))
  /-- Unless a job has just run, the hash is that of the file. -/
  hash : (∀ entry ∈ s.cache.storage.lock, entry.result ≠ some .done) →
    ∀ h, s.cache.lastHashSaved = some h → ∃ saved, h = hashSha256 digest saved ∧
      s.cache.storage.files.target asZip =
        some (options.toSave (withSchemaVersion schemaVersion saved))

omit [DecidableEq H] in
theorem Kept.acquire (h : s.Kept options asZip schemaVersion digest) {job : FileJob View}
    {caller : SaveCaller} (hexpected : Expected schemaVersion ⟨job, caller, none⟩) :
    Kept options asZip schemaVersion digest { s with
      cache := { s.cache with storage := s.cache.storage.acquire job caller } } := by
  have hcases : ∀ entry ∈ s.cache.storage.lock ++ [⟨job, caller, none⟩],
      entry ∈ s.cache.storage.lock ∨ entry = ⟨job, caller, none⟩ := fun entry hentry =>
    (List.mem_append.mp hentry).imp_right List.mem_singleton.mp
  refine ⟨fun entry hentry => ?_, fun entry hentry => ?_, fun entry hentry => ?_,
    fun entry hentry => ?_, fun hnone => ?_⟩
  · rcases hcases entry hentry with hentry | rfl
    · exact h.entries entry hentry
    · exact hexpected
  · dsimp only [Storage.acquire] at hentry
    cases hlock : s.cache.storage.lock with
    | nil =>
      rw [hlock] at hentry
      cases hentry
    | cons holder waiting =>
      rw [hlock, List.cons_append, List.tail_cons, List.mem_append, List.mem_singleton] at hentry
      rcases hentry with hentry | rfl
      · exact h.tail entry (by rw [hlock]; exact hentry)
      · rfl
  · rcases hcases entry hentry with hentry | rfl
    · exact h.saves entry hentry
    · exact fun _ hresult => by cases hresult
  · rcases hcases entry hentry with hentry | rfl
    · exact h.head entry hentry
    · exact fun hresult => by cases hresult
  · exact h.hash fun entry hentry => hnone entry (List.mem_append_left _ hentry)

theorem target_save (files : Files Json) (file : Json) :
    (files.save asZip file).target asZip = some file := by
  unfold Files.save Files.target
  split <;> rfl

theorem Expected.cases {entry : LockEntry View Json SaveCaller}
    (h : Expected schemaVersion entry) :
    (∃ copied, entry.caller = .save copied ∧ entry.job = .save (saveData schemaVersion copied)) ∨
      entry.caller = .clear ∧ entry.job = .remove := by
  unfold Expected at h
  split at h
  next copied hcaller => exact .inl ⟨copied, hcaller, h⟩
  next hcaller => exact .inr ⟨hcaller, h⟩

omit [DecidableEq H] in
theorem Kept.work (h : s.Kept options asZip schemaVersion digest) {ok : Bool}
    {storage : Storage Content View Json SaveCaller}
    (hwork : s.cache.storage.work (storageConfig options asZip) s.content ok = some storage) :
    Kept options asZip schemaVersion digest
      { s with cache := { s.cache with storage }, written := s.content } := by
  obtain ⟨entry, waiting, hlock, hresult, rfl⟩ := Storage.work_eq_some hwork
  have hwaiting : ∀ e ∈ waiting, e.result = none := fun e he =>
    h.tail e (by rw [hlock]; exact he)
  have hidle : ∀ e ∈ s.cache.storage.lock, e.result ≠ some .done := by
    intro e he
    rw [hlock] at he
    rcases List.mem_cons.mp he with rfl | he
    · simp [hresult]
    · simp [hwaiting e he]
  have hexpected := h.entries entry (hlock ▸ List.mem_cons_self)
  have hkept : ∀ e ∈ ({ entry with result := some (Storage.runJob (storageConfig options asZip)
      s.content s.cache.storage.files ok entry.job).2 } :: waiting),
      Expected schemaVersion e := by
    intro e he
    rcases List.mem_cons.mp he with rfl | he
    · exact hexpected
    · exact h.entries e (hlock ▸ List.mem_cons_of_mem _ he)
  cases ok with
  | false =>
    have hfailed : Storage.runJob (storageConfig options asZip) s.content
        s.cache.storage.files false entry.job = (s.cache.storage.files, .failed) := by
      unfold Storage.runJob
      split <;> rfl
    rw [hfailed] at hkept ⊢
    refine ⟨hkept, hwaiting, fun e he => ?_, fun e he => ?_, fun _ => h.hash hidle⟩
    · rcases List.mem_cons.mp he with rfl | he
      · exact fun _ hloaded => by cases hloaded
      · simp [hwaiting e he]
    · rcases List.mem_cons.mp he with rfl | he
      · exact fun hdone => by cases hdone
      · simp [hwaiting e he]
  | true =>
    rcases hexpected.cases with ⟨copied, hcaller, hjob⟩ | ⟨hcaller, hjob⟩
    · rw [hjob] at hkept ⊢
      refine ⟨hkept, hwaiting, fun e he => ?_, fun e he => ?_, fun hnone => ?_⟩
      · rcases List.mem_cons.mp he with rfl | he
        · exact fun _ hloaded => by cases hloaded
        · simp [hwaiting e he]
      · rcases List.mem_cons.mp he with rfl | he
        · intro _ copied' hcopied
          cases hcaller.symm.trans hcopied
          exact target_save ..
        · simp [hwaiting e he]
      · exact absurd rfl (hnone _ List.mem_cons_self)
    · rw [hjob] at hkept ⊢
      refine ⟨hkept, hwaiting, fun e he => ?_, fun e he => ?_, fun hnone => ?_⟩
      · rcases List.mem_cons.mp he with rfl | he
        · exact fun _ hloaded => by cases hloaded
        · simp [hwaiting e he]
      · rcases List.mem_cons.mp he with rfl | he
        · exact fun _ _ hcopied => by cases hcaller.symm.trans hcopied
        · simp [hwaiting e he]
      · exact absurd rfl (hnone _ List.mem_cons_self)

theorem kept_of_step (h : s.Kept options asZip schemaVersion digest) (hok : s.Ok a)
    (hstep : step options asZip schemaVersion digest s a = some t) :
    t.Kept options asZip schemaVersion digest := by
  cases a with
  | mutate content =>
    cases hstep
    exact ⟨h.entries, h.tail, h.saves, h.head, h.hash⟩
  | save =>
    cases hstep
    unfold Cache.save
    split
    · exact h.acquire rfl
    · exact ⟨h.entries, h.tail, h.saves, h.head, h.hash⟩
  | clear =>
    cases hstep
    exact h.acquire rfl
  | work ok =>
    obtain ⟨storage, hwork, rfl⟩ := Option.map_eq_some_iff.mp hstep
    exact h.work hwork
  | resume empty =>
    obtain ⟨resumed, hresume, rfl⟩ := Option.map_eq_some_iff.mp hstep
    obtain ⟨entry, waiting, result, hlock, hresult, rfl⟩ := Storage.resume_eq_some hresume
    have hwaiting : ∀ e ∈ waiting, e.result = none := fun e he =>
      h.tail e (by rw [hlock]; exact he)
    have hentry : entry ∈ s.cache.storage.lock := hlock ▸ List.mem_cons_self
    have hreleased : ∀ (lastHashSaved : Option H) (content : Content),
        (∀ hash, lastHashSaved = some hash → ∃ saved, hash = hashSha256 digest saved ∧
          s.cache.storage.files.target asZip =
            some (options.toSave (withSchemaVersion schemaVersion saved))) →
        Kept options asZip schemaVersion digest { s with
          cache := { s.cache with
            storage := { s.cache.storage with lock := waiting }, lastHashSaved }
          content } := by
      intro lastHashSaved content hhash
      refine ⟨fun e he => ?_, fun e he => hwaiting e (List.mem_of_mem_tail he), fun e he => ?_,
        fun e he => ?_, fun _ => hhash⟩
      · exact h.entries e (hlock ▸ List.mem_cons_of_mem _ he)
      · simp [hwaiting e he]
      · simp [hwaiting e he]
    have hfailed : entry.result = some .failed → ∀ hash, s.cache.lastHashSaved = some hash →
        ∃ saved, hash = hashSha256 digest saved ∧ s.cache.storage.files.target asZip =
          some (options.toSave (withSchemaVersion schemaVersion saved)) := by
      refine fun hfailed => h.hash fun e he => ?_
      rw [hlock] at he
      rcases List.mem_cons.mp he with rfl | he
      · simp [hfailed]
      · simp [hwaiting e he]
    obtain ⟨job, caller, result'⟩ := entry
    cases hresult
    cases caller with
    | save copied =>
      cases result with
      | done =>
        refine hreleased _ s.content fun hash hsome => ?_
        have hfinds : SameContent (copied.entries.map s.written.objects) s.content.value := by
          simpa only [Ok, FindsWritten, hlock] using hok
        cases hsome
        exact ⟨_, congrArg digest hfinds.symm, h.head _ hentry rfl copied rfl⟩
      | loaded data => exact absurd rfl (h.saves _ hentry data)
      | failed => exact hreleased _ s.content (hfailed rfl)
    | clear =>
      cases result with
      | done => exact hreleased none empty fun _ hsome => by cases hsome
      | loaded data => exact absurd rfl (h.saves _ hentry data)
      | failed => exact hreleased _ s.content (hfailed rfl)

omit [DecidableEq H] in
theorem kept_init (content : Content) (files : Files Json) (useCaches : Bool) :
    (init content files useCaches : SaveRun H).Kept options asZip schemaVersion digest :=
  ⟨fun _ he => (by cases he), fun _ he => (by cases he), fun _ he => (by cases he),
    fun _ he => (by cases he), fun _ _ hsome => (by cases hsome)⟩

end Kept

/-- In every run in which each save that goes on finds the content that it wrote, a cache without
unsaved changes has its content in the file. -/
theorem save_correct_of_reach {H : Type*} [DecidableEq H] (options : StorageOptions) (asZip : Bool)
    (schemaVersion : Int) (digest : Json → H) (hdigest : ∀ a b, digest a = digest b → a = b)
    (content : Content) (files : Files Json) (useCaches : Bool) (s : SaveRun H)
    (h : (system options asZip schemaVersion digest content files useCaches).Reach Ok s) :
    s.Correct options asZip schemaVersion digest := by
  have hkept : s.Kept options asZip schemaVersion digest :=
    h.invariant (kept_init content files useCaches) fun _ _ _ hs hok hstep =>
      kept_of_step hs hok hstep
  intro hidle hclean
  have hsaved : s.cache.lastHashSaved = some (hashSha256 digest s.content.value) := by
    rw [hasUnsavedChanges, Cache.hasUnsavedChanges, decide_eq_false_iff_not, not_not] at hclean
    exact hclean.symm
  obtain ⟨saved, hhash, htarget⟩ :=
    hkept.hash (fun entry hentry => by simp [hidle entry hentry]) _ hsaved
  exact ⟨saved, (hdigest _ _ hhash).symm, htarget⟩

/-! ### Samples -/

def sampleOptions : StorageOptions where
  key := "devices"
  version := 1
  rawMode := true
  migrateFunc := none

/-- One key, and under it a list with this number. -/
def sampleContent (n : Int) : Content where
  entries := Dict.empty.set "interface" 0
  objects _ := .arr [.int n]

abbrev sampleSystem : StepSystem (SaveRun Json) SaveAction :=
  system sampleOptions false 2 id (sampleContent 1) {} true

theorem save_correct_of_reach_saved : ∃ s, sampleSystem.Reach Ok s ∧
    s.hasUnsavedChanges id = false ∧ s.Correct sampleOptions false 2 id := by
  have h : sampleSystem.Steps Ok sampleSystem.init
      [.mutate (sampleContent 2), .save, .work true, .resume (sampleContent 0)] _ :=
    .cons trivial rfl (.cons trivial rfl (.cons trivial rfl
      (.cons (show SameContent (sampleContent 2).value (sampleContent 2).value from rfl) rfl
        (.nil _))))
  exact ⟨_, ⟨_, h⟩, by decide, save_correct_of_reach sampleOptions false 2 id (fun _ _ => id) _ _ _ _
    ⟨_, h⟩⟩

/-- An object changes after the file has been written and before the save goes on. -/
def changedDuringSave : List SaveAction :=
  [.save, .work true, .mutate (sampleContent 2), .resume (sampleContent 0)]

theorem not_saved_changed : ∃ s, sampleSystem.Steps Free sampleSystem.init changedDuringSave s ∧
    s.cache.storage.lock.isEmpty ∧ s.hasUnsavedChanges id = false ∧
    s.cache.storage.files.json = some (sampleOptions.toSave
      (withSchemaVersion 2 (sampleContent 1).value)) ∧
    ¬ SameContent (sampleContent 1).value s.content.value := by
  obtain ⟨s, hs, htest⟩ := replay_any (p := fun s : SaveRun Json =>
      s.cache.storage.lock.isEmpty ∧ s.hasUnsavedChanges id = false ∧
        s.cache.storage.files.json = some (sampleOptions.toSave
          (withSchemaVersion 2 (sampleContent 1).value)) ∧
        ¬ SameContent (sampleContent 1).value s.content.value)
    (show (sampleSystem.replay Free sampleSystem.init changedDuringSave).any _ = true by decide)
  exact ⟨s, steps_of_replay hs, htest⟩

end SaveRun

end AioHomematic.Store.Persistent
