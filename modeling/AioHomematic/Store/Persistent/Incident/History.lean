import AioHomematic.Store.Persistent.Incident.Buckets

/-!
# What becomes of the incidents

Until the history on disk is in memory, nothing may be recorded or saved
(`Fresh`); from then on memory, `_content` and the last save to come lack only
what is excused (`Complete`). The lists are always parts of the history, in the
buckets of their types (`Sound`).
-/

namespace AioHomematic.Store.Persistent

open Lib StepSystem

variable {I τ H : Type*} [DecidableEq I] [LinearOrder τ]

/-! ## Invariants -/

namespace IncidentRun

section Invariants

variable (config : IncidentConfig τ) (v : IncidentRun I τ H)

/-- What an entry at the lock would save. -/
def saveView (entry : LockEntry (IncidentView I τ) (Incidents I τ) (IncidentCaller I τ)) :
    Option (IncidentView I τ) :=
  match entry.job with
  | .save view => some view
  | .remove => none
  | .load => none

/-- The saves that are still to be written. -/
def savesToCome : List (IncidentView I τ) :=
  (v.storage.lock.filter fun entry => entry.result.isNone).filterMap saveView

/-- What is on disk when the saves at the lock are written. -/
def finalContent : Incidents I τ :=
  match v.savesToCome.getLast? with
  | none => v.persisted
  | some view => view v.store.content

/-- A save of `_content` or of a copy of it, or a load. -/
def Expected (history : Incidents I τ)
    (entry : LockEntry (IncidentView I τ) (Incidents I τ) (IncidentCaller I τ)) : Prop :=
  match entry.job with
  | .save view =>
    (∀ session, entry.caller ≠ .load session) ∧
      (view = id ∨ ∃ copy, Part history copy ∧ view = fun _ => copy) ∧
      (entry.result = none ∨ entry.result = some .done)
  | .remove => False
  | .load =>
    (∃ session, entry.caller = .load session ∧
      ∀ incidentType, Bucket history incidentType (look session incidentType)) ∧
      (entry.result = none ∨
        ∃ data, entry.result = some (.loaded data) ∧ Part history (data.getD []))

structure Sound : Prop where
  ids : (v.history.map IncidentSnapshot.incidentId).Nodup
  fresh : ∀ i ∈ v.history, i.incidentId < v.nextId
  buckets : ∀ incidentType, Bucket v.history incidentType (v.store.ofType incidentType)
  content : Part v.history v.store.content
  persisted : Part v.history v.persisted
  pending : ∀ f, v.storage.pendingDataFunc = some f → ∀ w, f w = id
  entries : ∀ entry ∈ v.storage.lock, Expected v.history entry
  tail : ∀ entry ∈ v.storage.lock.tail, entry.result = none

/-- Nothing has been read and nothing recorded. -/
structure Fresh : Prop where
  memory : ∀ incidentType, v.store.ofType incidentType = []
  pending : v.storage.pendingDataFunc = none
  loads : ∀ entry ∈ v.storage.lock, saveView entry = none
  hash : v.store.cache.lastHashSaved = none
  persisted : v.persisted = v.history
  data : ∀ entry ∈ v.storage.lock, ∀ data, entry.result = some (.loaded data) →
    data.getD [] = v.history

/-- A list lacks only what is excused. -/
def Covers (l : Incidents I τ) : Prop := ∀ i ∈ v.history, v.Excused config i ∨ i ∈ l

structure Complete : Prop where
  memory : ∀ i ∈ v.history, v.Excused config i ∨ i ∈ v.store.ofType i.incidentType
  content : v.Covers config v.store.content
  final : v.storage.pendingDataFunc = none → v.Covers config v.finalContent

structure Kept : Prop where
  sound : v.Sound
  phase : v.Fresh ∨ v.Complete config

end Invariants

variable {config : IncidentConfig τ} {v : IncidentRun I τ H}

/-- Where the history is known, nothing is missing. -/
theorem Kept.complete (h : v.Kept config) (hknown : v.HistoryKnown config) :
    v.Complete config := by
  rcases h.phase with hfresh | hcomplete
  · have hexcused : ∀ i ∈ v.history, v.Excused config i := by
      intro i hi
      rcases hknown i (hfresh.persisted ▸ hi) with hexcused | hmem
      · exact hexcused
      · rw [hfresh.memory] at hmem
        cases hmem
    exact ⟨fun i hi => .inl (hexcused i hi), fun i hi => .inl (hexcused i hi),
      fun _ i hi => .inl (hexcused i hi)⟩
  · exact hcomplete

theorem Excused.mono {v' : IncidentRun I τ H} {i : IncidentSnapshot I τ}
    (h : v.Excused config i) (hnow : v.now ≤ v'.now) (later : Incidents I τ)
    (hhistory : v'.history = v.history ++ later) : v'.Excused config i := by
  rcases h with ⟨time, htime, hexpired⟩ | hlimit
  · exact .inl ⟨time, htime.trans hnow, hexpired⟩
  · refine .inr (hlimit.trans_le ?_)
    rw [hhistory, List.filter_append, List.length_append]
    exact Nat.le_add_right _ _

/-! ### Waiting for the lock -/

section Acquire

variable {e : LockEntry (IncidentView I τ) (Incidents I τ) (IncidentCaller I τ)}
  {pending : Option (Incidents I τ → IncidentView I τ)}

/-- Another entry at the lock, when the pending data are the same or gone. -/
theorem Sound.acquire (h : v.Sound) (hresult : e.result = none) (he : Expected v.history e)
    (hpending : pending = v.storage.pendingDataFunc ∨ pending = none) :
    (v.setStorage { v.storage with
      pendingDataFunc := pending, lock := v.storage.lock ++ [e] }).Sound where
  ids := h.ids
  fresh := h.fresh
  buckets := h.buckets
  content := h.content
  persisted := h.persisted
  pending f hf := by
    rcases hpending with rfl | rfl
    · exact h.pending f hf
    · cases hf
  entries entry hentry := by
    rcases List.mem_append.mp hentry with hentry | hentry
    · exact h.entries entry hentry
    · rw [List.mem_singleton.mp hentry]
      exact he
  tail entry hentry := by
    change entry ∈ (v.storage.lock ++ [e]).tail at hentry
    cases hlock : v.storage.lock with
    | nil => rw [hlock] at hentry; cases hentry
    | cons head lock =>
      rw [hlock, List.cons_append, List.tail_cons, List.mem_append, List.mem_singleton] at hentry
      rcases hentry with hentry | rfl
      · exact h.tail entry (hlock ▸ hentry)
      · exact hresult

omit [DecidableEq I] [LinearOrder τ] in
theorem savesToCome_acquire (hresult : e.result = none) :
    (v.setStorage { v.storage with
      pendingDataFunc := pending, lock := v.storage.lock ++ [e] }).savesToCome =
        v.savesToCome ++ (saveView e).toList := by
  change ((v.storage.lock ++ [e]).filter fun entry => entry.result.isNone).filterMap saveView = _
  rw [List.filter_append, List.filterMap_append, savesToCome]
  cases hview : saveView e with
  | none => simp [hresult, hview]
  | some view => simp [hresult, hview]

omit [LinearOrder τ] in
theorem Fresh.acquire (h : v.Fresh) (hresult : e.result = none) (hload : saveView e = none) :
    (v.setStorage { v.storage with lock := v.storage.lock ++ [e] }).Fresh where
  memory := h.memory
  pending := h.pending
  loads entry hentry := by
    rcases List.mem_append.mp hentry with hentry | hentry
    · exact h.loads entry hentry
    · rw [List.mem_singleton.mp hentry]
      exact hload
  hash := h.hash
  persisted := h.persisted
  data entry hentry := by
    rcases List.mem_append.mp hentry with hentry | hentry
    · exact h.data entry hentry
    · rw [List.mem_singleton.mp hentry, hresult]
      exact fun _ hdata => by cases hdata

theorem Complete.acquire (h : v.Complete config) (hresult : e.result = none)
    (hview : ∀ view, saveView e = some view → v.Covers config (view v.store.content))
    (hload : saveView e = none → pending = v.storage.pendingDataFunc) :
    (v.setStorage { v.storage with
      pendingDataFunc := pending, lock := v.storage.lock ++ [e] }).Complete config where
  memory := h.memory
  content := h.content
  final hnone := by
    rw [finalContent, savesToCome_acquire hresult]
    cases hsave : saveView e with
    | none =>
      rw [Option.toList_none, List.append_nil]
      exact h.final ((hload hsave).symm.trans hnone)
    | some view =>
      rw [Option.toList_some, List.getLast?_concat]
      exact hview view hsave

end Acquire

theorem Kept.load (h : v.Kept config) {session : Dict I (Incidents I τ)}
    (hsession : ∀ incidentType, Bucket v.history incidentType (look session incidentType)) :
    (v.setStorage { v.storage with
      lock := v.storage.lock ++ [⟨.load, .load session, none⟩] }).Kept config where
  sound := h.sound.acquire rfl ⟨⟨session, rfl, hsession⟩, .inl rfl⟩ (.inl rfl)
  phase := h.phase.imp (fun hfresh => hfresh.acquire rfl rfl) fun hcomplete =>
    hcomplete.acquire rfl (fun _ hview => by cases hview) fun _ => rfl

theorem Kept.save (h : v.Kept config) (hknown : v.HistoryKnown config) :
    (v.setStorage { v.storage with
      lock := v.storage.lock ++ [⟨.save fun _ => v.store.content, .save, none⟩] }).Kept config where
  sound := h.sound.acquire rfl
    ⟨fun _ hcaller => (by cases hcaller), .inr ⟨_, h.sound.content, rfl⟩, .inl rfl⟩ (.inl rfl)
  phase := by
    have hcomplete := h.complete hknown
    refine .inr (hcomplete.acquire rfl (fun view hview => ?_) fun hload => by cases hload)
    cases hview
    exact hcomplete.content

/-- The pending data are taken. -/
theorem Kept.take (h : v.Kept config) {f : Incidents I τ → IncidentView I τ}
    (hpending : v.storage.pendingDataFunc = some f) (w : Incidents I τ)
    {caller : IncidentCaller I τ} (hcaller : ∀ session, caller ≠ .load session) :
    (v.setStorage { v.storage with
      pendingDataFunc := none, lock := v.storage.lock ++ [⟨.save (f w), caller, none⟩] }).Kept
        config where
  sound := h.sound.acquire rfl ⟨hcaller, .inl (h.sound.pending f hpending w), .inl rfl⟩ (.inr rfl)
  phase := by
    rcases h.phase with hfresh | hcomplete
    · cases hpending.symm.trans hfresh.pending
    · refine .inr (hcomplete.acquire rfl (fun view hview => ?_) fun hload => by cases hload)
      cases hview
      rw [h.sound.pending f hpending w]
      exact hcomplete.content

theorem Kept.tick (h : v.Kept config) : Kept config { v with now := v.now + 1 } := by
  have hmono : ∀ i, v.Excused config i → Excused config { v with now := v.now + 1 } i :=
    fun _ hexcused => hexcused.mono (Nat.le_succ _) [] (List.append_nil _).symm
  refine ⟨⟨h.sound.ids, h.sound.fresh, h.sound.buckets, h.sound.content, h.sound.persisted,
    h.sound.pending, h.sound.entries, h.sound.tail⟩, ?_⟩
  rcases h.phase with hfresh | hcomplete
  · exact .inl ⟨hfresh.memory, hfresh.pending, hfresh.loads, hfresh.hash, hfresh.persisted,
      hfresh.data⟩
  · exact .inr ⟨fun i hi => (hcomplete.memory i hi).imp_left (hmono i),
      fun i hi => (hcomplete.content i hi).imp_left (hmono i),
      fun hnone i hi => (hcomplete.final hnone i hi).imp_left (hmono i)⟩

/-! ### Recording -/

theorem Expected.mono {history : Incidents I τ}
    {e : LockEntry (IncidentView I τ) (Incidents I τ) (IncidentCaller I τ)}
    (h : Expected history e) (later : Incidents I τ) : Expected (history ++ later) e := by
  have hsub : history ⊆ history ++ later := List.subset_append_left _ _
  unfold Expected at h ⊢
  split at h
  · obtain ⟨hcaller, hview, hresult⟩ := h
    refine ⟨hcaller, hview.imp_right ?_, hresult⟩
    rintro ⟨copy, hcopy, rfl⟩
    exact ⟨copy, hcopy.mono hsub, rfl⟩
  · exact h
  · obtain ⟨⟨session, hcaller, hsession⟩, hresult⟩ := h
    refine ⟨⟨session, hcaller, fun t => (hsession t).mono hsub⟩, hresult.imp_right ?_⟩
    rintro ⟨data, hdata, hpart⟩
    exact ⟨data, hdata, hpart.mono hsub⟩

/-- The state after `record_incident`. -/
def recorded (config : IncidentConfig τ) (v : IncidentRun I τ H) (incident : IncidentSnapshot I τ) :
    IncidentRun I τ H :=
  { v with
    store := { v.store.recordIncident config incident with
      cache := { v.store.cache with
        storage := { v.storage with pendingDataFunc := some fun _ => id } } }
    nextId := v.nextId + 1
    history := v.history ++ [incident] }

section Record

variable {incident : IncidentSnapshot I τ}

theorem ofType_recorded (incidentType : I) :
    (recorded config v incident).store.ofType incidentType =
      if incident.incidentType = incidentType then
        limited config.maxPerType (v.store.ofType incidentType ++ [incident])
      else v.store.ofType incidentType := by
  change ((v.store.incidentsByType.set incident.incidentType _).get? incidentType).getD [] = _
  rw [Dict.get?_set]
  split
  next heq =>
    subst heq
    rfl
  · rfl

/-- The list of its type with the new incident, before the limit. -/
theorem bucket_recorded (h : v.Sound) (hid : incident.incidentId = v.nextId)
    (hnewest : ∀ i ∈ v.store.ofType incident.incidentType,
      i.timestampIso ≤ incident.timestampIso) :
    Bucket (v.history ++ [incident]) incident.incidentType
      (v.store.ofType incident.incidentType ++ [incident]) := by
  have hold := h.buckets incident.incidentType
  have hnew : incident ∉ v.history := fun hmem => by
    have hlt := h.fresh incident hmem
    omega
  refine ⟨⟨fun i hi => ?_, ?_⟩, fun i hi => ?_, ?_⟩
  · rcases List.mem_append.mp hi with hi | hi
    · exact List.mem_append_left _ (hold.known hi)
    · exact List.mem_append_right _ hi
  · refine List.nodup_append.mpr ⟨hold.nodup, List.nodup_singleton _, fun i hi j hj => ?_⟩
    rintro rfl
    rw [List.mem_singleton.mp hj] at hi
    exact hnew (hold.known hi)
  · rcases List.mem_append.mp hi with hi | hi
    · exact hold.typed i hi
    · rw [List.mem_singleton.mp hi]
  · refine List.pairwise_append.mpr ⟨hold.sorted, List.pairwise_singleton _ _, fun i hi j hj => ?_⟩
    rw [List.mem_singleton.mp hj]
    exact hnewest i hi

theorem Kept.recorded (h : v.Kept config) (hknown : v.HistoryKnown config)
    (hid : incident.incidentId = v.nextId)
    (hnewest : ∀ i ∈ v.store.ofType incident.incidentType,
      i.timestampIso ≤ incident.timestampIso) : (recorded config v incident).Kept config := by
  have hbucket := bucket_recorded h.sound hid hnewest
  have hsub : v.history ⊆ v.history ++ [incident] := List.subset_append_left _ _
  have hbuckets : ∀ incidentType, Bucket (v.history ++ [incident]) incidentType
      ((IncidentRun.recorded config v incident).store.ofType incidentType) := by
    intro incidentType
    rw [ofType_recorded]
    split
    next heq =>
      subst heq
      exact hbucket.limited _
    · exact (h.sound.buckets incidentType).mono hsub
  have hmemory : ∀ i ∈ v.history ++ [incident],
      Excused config (IncidentRun.recorded config v incident) i ∨
        i ∈ (IncidentRun.recorded config v incident).store.ofType i.incidentType := by
    intro i hi
    rw [ofType_recorded]
    have hlimited : ∀ j ∈ v.store.ofType incident.incidentType ++ [incident],
        Excused config (IncidentRun.recorded config v incident) j ∨
          j ∈ limited config.maxPerType (v.store.ofType incident.incidentType ++ [incident]) :=
      fun j hj => (hbucket.mem_limited hj).symm.imp_left .inr
    rcases List.mem_append.mp hi with hi | hi
    · rcases (h.complete hknown).memory i hi with hexcused | hmem
      · exact .inl (hexcused.mono (Nat.le_refl _) [incident] rfl)
      · split
        next heq =>
          rw [← heq] at hmem ⊢
          exact hlimited i (List.mem_append_left _ hmem)
        · exact .inr hmem
    · rw [List.mem_singleton.mp hi, if_pos rfl]
      exact hlimited incident (List.mem_append_right _ (List.mem_singleton.mpr rfl))
  constructor
  · refine ⟨?_, fun i hi => ?_, hbuckets, part_incidents hbuckets, h.sound.persisted.mono hsub,
      fun f hf => ?_, fun e he => (h.sound.entries e he).mono _, h.sound.tail⟩
    · change ((v.history ++ [incident]).map IncidentSnapshot.incidentId).Nodup
      rw [List.map_append, List.nodup_append]
      refine ⟨h.sound.ids, List.nodup_singleton _, fun n hn m hm => ?_⟩
      obtain ⟨j, hj, rfl⟩ := List.mem_map.mp hn
      have hlt := h.sound.fresh j hj
      rw [List.mem_singleton.mp hm, hid]
      exact Nat.ne_of_lt hlt
    · change i.incidentId < v.nextId + 1
      rcases List.mem_append.mp hi with hi | hi
      · exact Nat.lt_succ_of_lt (h.sound.fresh i hi)
      · rw [List.mem_singleton.mp hi, hid]
        exact Nat.lt_succ_self _
    · cases hf
      exact fun _ => rfl
  · exact .inr ⟨hmemory, fun i hi => (hmemory i hi).imp_right fun hmem =>
      mem_incidents.mpr ⟨_, hmem⟩, fun hnone => by cases hnone⟩

end Record

/-! ### The holder of the lock -/

section Holder

variable {entry : LockEntry (IncidentView I τ) (Incidents I τ) (IncidentCaller I τ)}
  {lock : List (LockEntry (IncidentView I τ) (Incidents I τ) (IncidentCaller I τ))}

/-- The state after the job of the holder. -/
def worked (v : IncidentRun I τ H)
    (entry : LockEntry (IncidentView I τ) (Incidents I τ) (IncidentCaller I τ))
    (lock : List (LockEntry (IncidentView I τ) (Incidents I τ) (IncidentCaller I τ))) :
    IncidentRun I τ H :=
  let job := Storage.runJob (incidentStorage I τ) v.store.content v.storage.files true entry.job
  v.setStorage { v.storage with
    files := job.1, lock := { entry with result := some job.2 } :: lock }

omit [DecidableEq I] [LinearOrder τ] in
theorem savesToCome_cons (hlock : v.storage.lock = entry :: lock) (hresult : entry.result = none) :
    v.savesToCome = (saveView entry).toList ++ (v.worked entry lock).savesToCome := by
  have hworked : (v.worked entry lock).savesToCome =
      (lock.filter fun e => e.result.isNone).filterMap saveView := by
    rw [savesToCome, worked, setStorage]
    exact congrArg _ (List.filter_cons_of_neg (by simp))
  rw [hworked, savesToCome, hlock, List.filter_cons_of_pos (by simp [hresult]),
    List.filterMap_cons]
  cases saveView entry with
  | none => rfl
  | some view => rfl

theorem Kept.worked (h : v.Kept config) (hlock : v.storage.lock = entry :: lock)
    (hresult : entry.result = none) : (v.worked entry lock).Kept config := by
  have hentry := h.sound.entries entry (hlock ▸ List.mem_cons_self)
  have hwaiting : ∀ e ∈ lock, e.result = none := fun e he =>
    h.sound.tail e (by rw [hlock]; exact he)
  have hlater : ∀ e ∈ lock, e ∈ v.storage.lock := fun e he => hlock ▸ List.mem_cons_of_mem _ he
  have hsaves := savesToCome_cons hlock hresult
  have hsound : ∀ persisted : Part v.history (v.worked entry lock).persisted,
      Expected v.history { entry with result := some (Storage.runJob (incidentStorage I τ)
        v.store.content v.storage.files true entry.job).2 } → (v.worked entry lock).Sound := by
    intro hpersisted hexpected
    refine ⟨h.sound.ids, h.sound.fresh, h.sound.buckets, h.sound.content, hpersisted,
      h.sound.pending, fun e he => ?_, hwaiting⟩
    rcases List.mem_cons.mp he with rfl | he
    · exact hexpected
    · exact h.sound.entries e (hlater e he)
  obtain ⟨job, caller, result⟩ := entry
  cases hresult
  cases job with
  | save view =>
    obtain ⟨hcaller, hview, -⟩ := hentry
    have hpart : Part v.history (view v.store.content) := by
      rcases hview with rfl | ⟨copy, hcopy, rfl⟩
      · exact h.sound.content
      · exact hcopy
    refine ⟨hsound hpart ⟨hcaller, hview, .inr rfl⟩, ?_⟩
    rcases h.phase with hfresh | hcomplete
    · have hnone := hfresh.loads _ (hlock ▸ List.mem_cons_self)
      cases hnone
    · refine .inr ⟨hcomplete.memory, hcomplete.content, fun hnone => ?_⟩
      have hfinal := hcomplete.final hnone
      rw [finalContent, hsaves] at hfinal
      rw [finalContent]
      cases hlast : (v.worked ⟨.save view, caller, none⟩ lock).savesToCome.getLast? with
      | none =>
        rw [List.getLast?_eq_none_iff.mp hlast] at hfinal
        exact hfinal
      | some last =>
        rw [List.getLast?_append, hlast] at hfinal
        exact hfinal
  | remove => exact hentry.elim
  | load =>
    obtain ⟨hsession, -⟩ := hentry
    refine ⟨hsound h.sound.persisted ⟨hsession, .inr ⟨_, rfl, h.sound.persisted⟩⟩, ?_⟩
    rcases h.phase with hfresh | hcomplete
    · refine .inl ⟨hfresh.memory, hfresh.pending, fun e he => ?_, hfresh.hash, hfresh.persisted,
        fun e he data hdata => ?_⟩
      · rcases List.mem_cons.mp he with rfl | he
        · rfl
        · exact hfresh.loads e (hlater e he)
      · rcases List.mem_cons.mp he with rfl | he
        · cases hdata
          exact hfresh.persisted
        · rw [hwaiting e he] at hdata
          cases hdata
    · refine .inr ⟨hcomplete.memory, hcomplete.content, fun hnone => ?_⟩
      have hfinal := hcomplete.final hnone
      rw [finalContent, hsaves] at hfinal
      exact hfinal

omit [DecidableEq I] [LinearOrder τ] in
theorem savesToCome_release {result : JobResult (Incidents I τ)}
    (hlock : v.storage.lock = entry :: lock) (hresult : entry.result = some result) :
    v.savesToCome = (lock.filter fun e => e.result.isNone).filterMap saveView := by
  rw [savesToCome, hlock, List.filter_cons_of_neg (by simp [hresult])]

theorem saves_of_sound (h : v.Sound) {view : IncidentView I τ} (hview : view ∈ v.savesToCome) :
    view = id ∨ ∃ copy, Part v.history copy ∧ view = fun _ => copy := by
  obtain ⟨e, he, hsave⟩ := List.mem_filterMap.mp hview
  have hentry := h.entries e (List.mem_filter.mp he).1
  unfold Expected at hentry
  unfold saveView at hsave
  split at hentry
  next view' hjob =>
    rw [hjob] at hsave
    cases hsave
    exact hentry.2.1
  · exact hentry.elim
  next hjob =>
    rw [hjob] at hsave
    cases hsave

/-- A save goes on; it may have recorded a hash. -/
theorem Kept.released (h : v.Kept config) (hlock : v.storage.lock = entry :: lock)
    {result : JobResult (Incidents I τ)} (hresult : entry.result = some result)
    (hcaller : ∀ session, entry.caller ≠ .load session) (lastHashSaved : Option H) :
    Kept config { v with
      store := { v.store with
        cache := { v.store.cache with
          storage := { v.storage with lock }, lastHashSaved } } } := by
  have hlater : ∀ e ∈ lock, e ∈ v.storage.lock := fun e he => hlock ▸ List.mem_cons_of_mem _ he
  have hentry := h.sound.entries entry (hlock ▸ List.mem_cons_self)
  refine ⟨⟨h.sound.ids, h.sound.fresh, h.sound.buckets, h.sound.content, h.sound.persisted,
    h.sound.pending, fun e he => h.sound.entries e (hlater e he), fun e he => ?_⟩, ?_⟩
  · exact h.sound.tail e (by rw [hlock]; exact List.mem_of_mem_tail he)
  · rcases h.phase with hfresh | hcomplete
    · have hnone := hfresh.loads entry (hlock ▸ List.mem_cons_self)
      unfold saveView at hnone
      unfold Expected at hentry
      split at hentry
      next view hjob =>
        rw [hjob] at hnone
        cases hnone
      · exact hentry.elim
      · obtain ⟨⟨session, hload, -⟩, -⟩ := hentry
        exact absurd hload (hcaller session)
    · refine .inr ⟨hcomplete.memory, hcomplete.content, fun hnone => ?_⟩
      have hfinal := hcomplete.final hnone
      rw [finalContent, savesToCome_release hlock hresult] at hfinal
      exact hfinal

variable [DecidableEq H] {digest : Incidents I τ → H}

/-- The state after a load has gone on. -/
def finished (config : IncidentConfig τ) (digest : Incidents I τ → H) (v : IncidentRun I τ H)
    (lock : List (LockEntry (IncidentView I τ) (Incidents I τ) (IncidentCaller I τ)))
    (session : Dict I (Incidents I τ)) (result : JobResult (Incidents I τ)) : IncidentRun I τ H :=
  { v with
    store := (v.setStorage { v.storage with lock }).store.finishLoad config digest v.now session
      result }

/-- What `load` does to the content. -/
theorem load_cases (config : IncidentConfig τ) (digest : Incidents I τ → H)
    (store : IncidentStore I τ H) (now : Nat) (data : Option (Incidents I τ)) :
    (store.load config digest now (.loaded data) = store ∧
      ∀ read, data = some read → some (digest read) = store.cache.lastHashSaved) ∨
    ∃ read, data = some read ∧ some (digest read) ≠ store.cache.lastHashSaved ∧
      store.load config digest now (.loaded data) = { store with
        incidentsByType := IncidentStore.processLoadedContent config now read
        content := read
        cache := { store.cache with lastHashSaved := some (digest read) } } := by
  cases data with
  | none => exact .inl ⟨rfl, fun _ h => by cases h⟩
  | some read =>
    by_cases hhash : some (digest read) = store.cache.lastHashSaved
    · refine .inl ⟨if_pos hhash, fun read' h => ?_⟩
      cases h
      exact hhash
    · exact .inr ⟨read, rfl, hhash, if_neg hhash⟩

omit [DecidableEq H] in
/-- The merge and the limit after a load keep the invariants. -/
theorem Kept.settled (h : v.Sound) {session : Dict I (Incidents I τ)}
    (hsession : ∀ incidentType, Bucket v.history incidentType (look session incidentType))
    (hlock : v.storage.lock = entry :: lock) (read : IncidentStore I τ H)
    (hstorage : read.cache.storage = { v.storage with lock })
    (hbuckets : ∀ incidentType, Bucket v.history incidentType (read.ofType incidentType))
    (hcontent : Part v.history read.content)
    (hmemory : ∀ i ∈ v.history, v.Excused config i ∨ i ∈ read.ofType i.incidentType)
    (hcovers : v.Covers config read.content)
    (hfinal : v.storage.pendingDataFunc = none →
      Covers config { v with store := read } (finalContent { v with store := read })) :
    Kept config { v with store := { read with
      incidentsByType := (IncidentStore.mergeSession session read.incidentsByType).map
        fun incidents => limited config.maxPerType (sortByTimestamp incidents)
      loaded := true } } := by
  have hsettled := fun incidentType =>
    bucket_settled config (hbuckets incidentType) (hsession incidentType)
  have hlater : ∀ e ∈ lock, e ∈ v.storage.lock := fun e he => hlock ▸ List.mem_cons_of_mem _ he
  have hsound : Sound { v with store := read } := by
    refine ⟨h.ids, h.fresh, hbuckets, hcontent, ?_, ?_, ?_, ?_⟩
    · rw [persisted, storage, hstorage]
      exact h.persisted
    · rw [storage, hstorage]
      exact h.pending
    · rw [storage, hstorage]
      exact fun e he => h.entries e (hlater e he)
    · rw [storage, hstorage]
      exact fun e he => h.tail e (by rw [hlock]; exact List.mem_of_mem_tail he)
  refine ⟨⟨hsound.ids, hsound.fresh, fun t => (hsettled t).1, hsound.content, hsound.persisted,
    hsound.pending, hsound.entries, hsound.tail⟩, .inr ⟨fun i hi => ?_, hcovers, fun hnone => ?_⟩⟩
  · rcases hmemory i hi with hexcused | hmem
    · exact .inl hexcused
    · exact ((hsettled i.incidentType).2 i hmem).symm.imp_left .inr
  · refine hfinal ?_
    have hpending : read.cache.storage.pendingDataFunc = none := hnone
    rwa [hstorage] at hpending

theorem Kept.finished (h : v.Kept config) (hlock : v.storage.lock = entry :: lock)
    {result : JobResult (Incidents I τ)} (hresult : entry.result = some result)
    {session : Dict I (Incidents I τ)} (hcaller : entry.caller = .load session)
    (hreads : v.ReadsMemory digest) :
    (v.finished config digest lock session result).Kept config := by
  have hentry := h.sound.entries entry (hlock ▸ List.mem_cons_self)
  obtain ⟨hsession, data, hdata, hpart⟩ : (∀ incidentType,
      Bucket v.history incidentType (look session incidentType)) ∧
        ∃ data, result = .loaded data ∧ Part v.history (data.getD []) := by
    unfold Expected at hentry
    split at hentry
    · exact absurd hcaller (hentry.1 session)
    · exact hentry.elim
    · obtain ⟨⟨session', hload, hsession⟩, hloaded⟩ := hentry
      cases hload.symm.trans hcaller
      rw [hresult] at hloaded
      rcases hloaded with hnone | ⟨data, hsome, hpart⟩
      · cases hnone
      · exact ⟨hsession, data, Option.some.inj hsome, hpart⟩
  subst hdata
  have hreleased := savesToCome_release hlock hresult
  set released := (v.setStorage { v.storage with lock }).store with hdef
  rcases load_cases config digest released v.now data with
    ⟨hsame, hknown⟩ | ⟨read, rfl, hhash, hread⟩
  · -- nothing is read: there is no file, or the content is from this very data
    have hcomplete : v.Complete config := by
      rcases h.phase with hfresh | hcomplete
      · have hhistory := hfresh.data entry (hlock ▸ List.mem_cons_self) data hresult
        cases data with
        | none =>
          have hempty : ∀ i, i ∉ v.history := fun i hi => by
            rw [← hhistory] at hi
            cases hi
          exact ⟨fun i hi => absurd hi (hempty i), fun i hi => absurd hi (hempty i),
            fun _ i hi => absurd hi (hempty i)⟩
        | some read =>
          have hnone : some (digest read) = none := (hknown read rfl).trans hfresh.hash
          cases hnone
      · exact hcomplete
    rw [IncidentRun.finished, IncidentStore.finishLoad, hsame]
    refine Kept.settled h.sound hsession hlock released rfl h.sound.buckets h.sound.content
      hcomplete.memory hcomplete.content fun hnone => ?_
    have hfinal := hcomplete.final hnone
    rw [finalContent, hreleased] at hfinal
    exact hfinal
  · have hcontains : ∀ i ∈ v.history, v.Excused config i ∨ i ∈ read := by
      intro i hi
      rcases h.phase with hfresh | hcomplete
      · have hhistory := hfresh.data entry (hlock ▸ List.mem_cons_self) (some read) hresult
        rw [← hhistory] at hi
        exact .inr hi
      · refine (hcomplete.memory i hi).imp_right fun hmem => ?_
        have hhead : entry ∈ v.storage.lock.take 1 := by
          rw [hlock]
          exact List.mem_cons_self
        have hdata : read ∈ readData entry := by
          rw [readData, hresult]
          rfl
        exact hreads entry hhead read hdata hhash i (mem_incidents.mpr ⟨_, hmem⟩)
    have hprocessed := bucket_processed config v.now hpart
    rw [IncidentRun.finished, IncidentStore.finishLoad, hread]
    refine Kept.settled h.sound hsession hlock { released with
      incidentsByType := IncidentStore.processLoadedContent config v.now read
      content := read
      cache := { released.cache with lastHashSaved := some (digest read) } } rfl
      (fun t => (hprocessed t).1) hpart (fun i hi => ?_) hcontains fun hnone => ?_
    · rcases hcontains i hi with hexcused | hmem
      · exact .inl hexcused
      · rcases (hprocessed i.incidentType).2 i hmem rfl with hmem | hexpired | hlimit
        · exact .inr hmem
        · exact .inl (.inl ⟨v.now, Nat.le_refl _, hexpired⟩)
        · exact .inl (.inr hlimit)
    · have hcontent : finalContent { v with store := { released with
          incidentsByType := IncidentStore.processLoadedContent config v.now read
          content := read
          cache := { released.cache with lastHashSaved := some (digest read) } } } =
            match v.savesToCome.getLast? with
            | none => v.persisted
            | some view => view read := by
        rw [hreleased]
        rfl
      rw [hcontent]
      rcases h.phase with hfresh | hcomplete
      · have hnil : v.savesToCome = [] := by
          refine List.filterMap_eq_nil_iff.mpr fun e he => ?_
          exact hfresh.loads e (List.mem_filter.mp he).1
        rw [hnil]
        intro i hi
        refine .inr ?_
        change i ∈ v.persisted
        rw [hfresh.persisted]
        exact hi
      · have hfinal := hcomplete.final (show v.storage.pendingDataFunc = none from hnone)
        rw [finalContent] at hfinal
        cases hlast : v.savesToCome.getLast? with
        | none =>
          rw [hlast] at hfinal
          exact hfinal
        | some view =>
          rw [hlast] at hfinal
          obtain hview | ⟨copy, -, hview⟩ := saves_of_sound h.sound (List.mem_of_getLast? hlast)
          · rw [hview]
            exact hcontains
          · rw [hview] at hfinal ⊢
            exact hfinal

end Holder

/-! ### Steps -/

section Steps

variable [DecidableEq H] {digest : Incidents I τ → H} {s t : IncidentRun I τ H}
  {a : IncidentAction I τ}

/-- The state without the timers and the tasks. -/
def view (s : IncidentRun I τ H) : IncidentRun I τ H :=
  s.setStorage
    { pendingDataFunc := s.storage.pendingDataFunc, lock := s.storage.lock
      files := s.storage.files }

/-- `load` does not look at the timers. -/
theorem view_finished (lock : List (LockEntry (IncidentView I τ) (Incidents I τ)
    (IncidentCaller I τ))) (session : Dict I (Incidents I τ)) (result : JobResult (Incidents I τ)) :
    ({ s.setStorage { s.storage with lock } with
      store := (s.setStorage { s.storage with lock }).store.finishLoad config digest s.now session
        result } : IncidentRun I τ H).view = s.view.finished config digest lock session result := by
  cases result with
  | done => rfl
  | failed => rfl
  | loaded data =>
    cases data with
    | none => rfl
    | some data =>
      by_cases hhash : some (digest data) = s.store.cache.lastHashSaved
      · simp [finished, IncidentStore.finishLoad, IncidentStore.load, view, setStorage, storage,
          hhash]
      · simp [finished, IncidentStore.finishLoad, IncidentStore.load, view, setStorage, storage,
          hhash]

theorem kept_of_step (h : s.view.Kept config) (hok : s.Ok config digest a)
    (hstep : step config digest s a = some t) : t.view.Kept config := by
  have htake : ∀ (u : Storage (Incidents I τ) (IncidentView I τ) (Incidents I τ)
      (IncidentCaller I τ)) (caller : IncidentCaller I τ),
      u.pendingDataFunc = s.storage.pendingDataFunc → u.lock = s.storage.lock →
      u.files = s.storage.files → (∀ session, caller ≠ .load session) →
      (s.setStorage (u.executeDelayedSave (incidentStorage I τ) s.store.content caller).1).view.Kept
        config := by
    intro u caller hpending hlock hfiles hcaller
    cases hs : s.storage.pendingDataFunc with
    | none =>
      rw [Storage.executeDelayedSave_none (hpending.trans hs)]
      have hsame : (s.setStorage u).view = s.view := by
        simp only [view, setStorage, storage, hpending, hlock, hfiles]
      rw [hsame]
      exact h
    | some f =>
      rw [Storage.executeDelayedSave_some (hpending.trans hs) rfl]
      have hsame : (s.setStorage ({ u with pendingDataFunc := none, delayHandle := none }.acquire
          (.save (f s.store.content)) caller)).view = s.view.setStorage { s.view.storage with
            pendingDataFunc := none
            lock := s.view.storage.lock ++ [⟨.save (f s.store.content), caller, none⟩] } := by
        simp only [view, setStorage, storage, Storage.acquire, hlock, hfiles]
      rw [hsame]
      exact h.take hs s.store.content hcaller
  cases a with
  | recordIncident incidentType timestampIso =>
    obtain ⟨huse, hknown, hnewest⟩ := hok
    cases hstep
    obtain ⟨-, hlock, hfiles⟩ := s.storage.cancelTimer_keeps
    have hsame : ({ s with
        store := s.store.recordIncident config
          { incidentId := s.nextId, timestampIso, incidentType }
        nextId := s.nextId + 1
        history := s.history ++ [{ incidentId := s.nextId, timestampIso, incidentType }] } :
          IncidentRun I τ H).view =
        recorded config s.view { incidentId := s.nextId, timestampIso, incidentType } := by
      simp only [view, setStorage, storage, recorded, IncidentStore.recordIncident,
        Cache.saveDelayed, huse, if_true, Storage.delaySave, hlock, hfiles]
      rfl
    rw [hsame]
    exact h.recorded hknown rfl hnewest
  | save =>
    cases hstep
    have hsame : ({ s with store := s.store.save digest } : IncidentRun I τ H).view = s.view ∨
        ({ s with store := s.store.save digest } : IncidentRun I τ H).view =
          s.view.setStorage { s.view.storage with
            lock := s.view.storage.lock ++ [⟨.save fun _ => s.store.content, .save, none⟩] } := by
      unfold IncidentStore.save Cache.save
      split
      · exact .inr rfl
      · exact .inl rfl
    rcases hsame with hsame | hsame
    · rw [hsame]
      exact h
    · rw [hsame]
      exact h.save hok
  | ensureLoaded =>
    cases hstep
    unfold IncidentStore.ensureLoaded
    split
    · exact h
    · exact h.load h.sound.buckets
  | flush =>
    cases hstep
    obtain ⟨hpending, hlock, hfiles⟩ := s.storage.cancelTimer_keeps
    exact htake _ _ hpending hlock hfiles fun _ hcaller => by cases hcaller
  | fireTimer timer =>
    obtain ⟨storage, hfire, rfl⟩ := Option.map_eq_some_iff.mp hstep
    obtain rfl := Storage.triggerDelayedSave_eq_some hfire
    exact h
  | runDelayedTask =>
    obtain ⟨storage, hrun, rfl⟩ := Option.map_eq_some_iff.mp hstep
    obtain ⟨n, rfl⟩ := Storage.runDelayedTask_eq_some hrun
    exact htake { s.storage with delayedTasks := n } _ rfl rfl rfl
      fun _ hcaller => by cases hcaller
  | work ok =>
    cases hok
    obtain ⟨storage, hwork, rfl⟩ := Option.map_eq_some_iff.mp hstep
    obtain ⟨entry, lock, hlock, hresult, rfl⟩ := Storage.work_eq_some hwork
    exact h.worked (v := s.view) hlock hresult
  | resume =>
    obtain ⟨resumed, hresume, rfl⟩ := Option.map_eq_some_iff.mp hstep
    obtain ⟨entry, lock, result, hlock, hresult, rfl⟩ := Storage.resume_eq_some hresume
    obtain ⟨job, caller, result'⟩ := entry
    cases hresult
    cases caller with
    | save =>
      have hreleased := h.released (v := s.view) hlock rfl (fun _ hload => by cases hload)
      cases result with
      | done => exact hreleased _
      | loaded data => exact hreleased _
      | failed => exact hreleased _
    | delayedSave =>
      exact h.released (v := s.view) hlock rfl (fun _ hload => by cases hload) _
    | flush => exact h.released (v := s.view) hlock rfl (fun _ hload => by cases hload) _
    | load session =>
      rw [view_finished]
      exact h.finished (v := s.view) hlock rfl rfl hok
  | tick =>
    cases hstep
    exact h.tick

omit [DecidableEq H] in
theorem kept_init (disk : IncidentFile I τ) (useCaches : Bool) (now : Nat) :
    (init disk useCaches now : IncidentRun I τ H).view.Kept config := by
  have hpersisted : (init disk useCaches now : IncidentRun I τ H).view.persisted =
      disk.file.getD [] := by
    change (Files.load { json := disk.file }).getD [] = _
    unfold Files.load
    cases disk.file with
    | none => rfl
    | some file => rfl
  have hpart : Part (disk.file.getD []) (disk.file.getD []) :=
    ⟨List.Subset.refl _, List.Nodup.of_map _ disk.unique⟩
  constructor
  · exact ⟨disk.unique, disk.fresh, fun _ => Bucket.nil, ⟨List.nil_subset _, List.nodup_nil⟩,
      hpersisted ▸ hpart, fun _ hf => (by cases hf), fun _ he => (by cases he),
      fun _ he => (by cases he)⟩
  · exact .inl ⟨fun _ => rfl, rfl, fun _ he => (by cases he), rfl, hpersisted,
      fun _ he => (by cases he)⟩

end Steps

/-- In every run in which nothing is recorded or saved before the history is in memory, and a load
that replaces the content has read what is in memory, no incident is lost. -/
theorem history_correct_of_reach {I τ H : Type*} [DecidableEq I] [LinearOrder τ] [DecidableEq H]
    (config : IncidentConfig τ) (digest : Incidents I τ → H) (disk : IncidentFile I τ)
    (useCaches : Bool) (now : Nat) (s : IncidentRun I τ H)
    (h : (system config digest disk useCaches now).Reach (Ok config digest) s) :
    s.Correct config := by
  have hkept : s.view.Kept config :=
    h.invariant (P := fun s => s.view.Kept config) (kept_init disk useCaches now)
      fun _ _ _ hs hok hstep => kept_of_step hs hok hstep
  rintro ⟨hpending, hlock⟩
  have hnone : s.view.storage.pendingDataFunc = none := Option.isNone_iff_eq_none.mp hpending
  have hnil : s.view.storage.lock = [] := List.isEmpty_iff.mp hlock
  constructor
  · intro i hi
    rcases hkept.phase with hfresh | hcomplete
    · exact .inr (hfresh.persisted ▸ hi)
    · have hfinal := hcomplete.final hnone
      rw [finalContent, savesToCome, hnil] at hfinal
      exact hfinal i hi
  · have hpart := hkept.sound.persisted
    have hinj := List.inj_on_of_nodup_map hkept.sound.ids
    exact (List.nodup_map_iff_inj_on hpart.nodup).mpr fun i hi j hj =>
      hinj (hpart.known hi) (hpart.known hj)

/-! ### Samples -/

/-- Two incidents of each type, for a hundred days. -/
def sampleConfig : IncidentConfig Nat where
  maxPerType := 2
  isExpired now timestampIso := timestampIso + 100 < now

/-- One incident of type 0. -/
def sampleDisk : IncidentFile Nat Nat where
  file := some [⟨0, 1, 0⟩]
  nextId := 1
  unique := by decide
  fresh := by decide

abbrev sampleSystem :
    StepSystem (IncidentRun Nat Nat (Incidents Nat Nat)) (IncidentAction Nat Nat) :=
  system sampleConfig id sampleDisk true 0

theorem history_correct_of_reach_loaded : ∃ s, sampleSystem.Reach (Ok sampleConfig id) s ∧
    s.history.length = 2 ∧ s.persisted.length = 2 ∧ s.Correct sampleConfig := by
  obtain ⟨s, hs, hhistory, hpersisted⟩ := replay_any
    (p := fun s : IncidentRun Nat Nat (Incidents Nat Nat) =>
      s.history.length = 2 ∧ s.persisted.length = 2)
    (show (sampleSystem.replay (Ok sampleConfig id) sampleSystem.init
      [.ensureLoaded, .work true, .resume, .recordIncident 0 5, .fireTimer 0, .runDelayedTask,
        .work true, .resume]).any _ = true by decide)
  exact ⟨s, reach_of_replay hs, hhistory, hpersisted,
    history_correct_of_reach _ _ _ _ _ _ (reach_of_replay hs)⟩

/-- An incident is recorded before the history has been loaded, and saved. -/
def recordedBeforeLoad : List (IncidentAction Nat Nat) :=
  [.recordIncident 0 5, .fireTimer 0, .runDelayedTask, .work true, .resume]

theorem not_correct_recordedBeforeLoad :
    ∃ s, sampleSystem.Steps Free sampleSystem.init recordedBeforeLoad s ∧
      ¬ s.Correct sampleConfig := by
  obtain ⟨s, hs, hpending, hlock, hhistory, hexcused, hlost⟩ := replay_any
    (p := fun s : IncidentRun Nat Nat (Incidents Nat Nat) =>
      s.storage.pendingDataFunc.isNone ∧ s.storage.lock.isEmpty ∧ ⟨0, 1, 0⟩ ∈ s.history ∧
        ¬ s.Excused sampleConfig ⟨0, 1, 0⟩ ∧ ⟨0, 1, 0⟩ ∉ s.persisted)
    (show (sampleSystem.replay Free sampleSystem.init recordedBeforeLoad).any _ = true by decide)
  refine ⟨s, steps_of_replay hs, fun hcorrect => ?_⟩
  rcases (hcorrect ⟨hpending, hlock⟩).1 ⟨0, 1, 0⟩ hhistory with h | h
  · exact hexcused h
  · exact hlost h

end IncidentRun

end AioHomematic.Store.Persistent
