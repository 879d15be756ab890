import AioHomematic.Model.Hub

/-!
# What the hub has registered

After a fetch the registered data points are those of the fetch, the index points to registered
data points and every data point has been announced once. `Meets` says which fetches do this: an
empty one of programs keeps them all, a variable whose class does not carry the extended flag is
never the right one, and a value that cannot be converted ends the loop before the new data
points are announced.

`HubInvariant` holds in every run.
-/

namespace AioHomematic.Model.Hub

open Lib Central HubCoordinator

variable {F : Type} {model : Backend} {py : Conversions F} {s t u : HubCoordinator F}

/-! ## The invariant -/

/-- The index points to registered data points. -/
def Indexed (s : HubCoordinator F) : Prop :=
  ∀ path name, s.statePathToName.get? path = some name →
    (path = ProgramDataPoint.statePath name ∧ (s.programDataPoints.get? name).isSome = true) ∨
      (path = SysvarDataPoint.statePath name ∧ (s.sysvarDataPoints.get? name).isSome = true)

structure HubInvariant (s : HubCoordinator F) : Prop where
  programs : ∀ pid programDp, s.programDataPoints.get? pid = some programDp →
    programDp.button.pid = pid ∧ programDp.switch.pid = pid
  sysvars : ∀ vid dp, s.sysvarDataPoints.get? vid = some dp → dp.vid = vid
  indexed : Indexed s

theorem HubInvariant.init : HubInvariant ({} : HubCoordinator F) where
  programs pid programDp h := by simp at h
  sysvars vid dp h := by simp at h
  indexed path name h := by simp at h

theorem Indexed.erase_program (h : Indexed s) (pid : String) :
    Indexed { s with
      programDataPoints := s.programDataPoints.erase pid
      statePathToName := s.statePathToName.erase (ProgramDataPoint.statePath pid) } := by
  intro path name hget
  simp only [Dict.get?_erase] at hget ⊢
  split at hget
  · cases hget
  next hne =>
    obtain ⟨rfl, hsome⟩ | hsysvar := h path name hget
    · rw [if_neg fun heq => hne (by rw [heq])]
      exact .inl ⟨rfl, hsome⟩
    · exact .inr hsysvar

theorem Indexed.erase_sysvar (h : Indexed s) (vid : String) :
    Indexed { s with
      sysvarDataPoints := s.sysvarDataPoints.erase vid
      statePathToName := s.statePathToName.erase (SysvarDataPoint.statePath vid) } := by
  intro path name hget
  simp only [Dict.get?_erase] at hget ⊢
  split at hget
  · cases hget
  next hne =>
    obtain hprogram | ⟨rfl, hsome⟩ := h path name hget
    · exact .inl hprogram
    · rw [if_neg fun heq => hne (by rw [heq])]
      exact .inr ⟨rfl, hsome⟩

/-- More data points and more paths to them. -/
theorem Indexed.mono (h : Indexed s)
    (hprograms : ∀ pid, (s.programDataPoints.get? pid).isSome = true →
      (t.programDataPoints.get? pid).isSome = true)
    (hsysvars : ∀ vid, (s.sysvarDataPoints.get? vid).isSome = true →
      (t.sysvarDataPoints.get? vid).isSome = true)
    (hpaths : ∀ path name, t.statePathToName.get? path = some name →
      s.statePathToName.get? path = some name ∨
        (path = ProgramDataPoint.statePath name ∧ (t.programDataPoints.get? name).isSome = true) ∨
        (path = SysvarDataPoint.statePath name ∧ (t.sysvarDataPoints.get? name).isSome = true)) :
    Indexed t := by
  intro path name hget
  obtain hold | hnew := hpaths path name hget
  · obtain ⟨hpath, hsome⟩ | ⟨hpath, hsome⟩ := h path name hold
    · exact .inl ⟨hpath, hprograms name hsome⟩
    · exact .inr ⟨hpath, hsysvars name hsome⟩
  · exact hnew

theorem isSome_get?_set {ν : Type*} (d : Dict String ν) (k k' : String) (v : ν) :
    ((d.set k v).get? k').isSome = true ↔ k = k' ∨ (d.get? k').isSome = true := by
  rw [Dict.get?_set]
  split <;> simp_all

/-! ## Announcements -/

/-- The data points that have been announced as new. -/
def announced (log : List HubEvent) : List Nat :=
  log.flatMap fun
    | .hubRefreshed newDataPoints => newDataPoints.flatMap (·.2)
    | .deviceRemoved _ => []

/-- Every data point that has been created has been announced, and none twice. -/
def AnnouncedOnce (s : HubCoordinator F) : Prop :=
  (announced s.log).Perm (List.range s.nextRef)

theorem AnnouncedOnce.init : AnnouncedOnce ({} : HubCoordinator F) := .refl _

@[simp] theorem announced_append (log log' : List HubEvent) :
    announced (log ++ log') = announced log ++ announced log' := List.flatMap_append

theorem perm_flatMap_filter {α β : Type*} [DecidableEq β] (key : α → β) {cs : List β} {l : List α}
    (hnodup : cs.Nodup) (h : ∀ x ∈ l, key x ∈ cs) :
    (cs.flatMap fun c => l.filter fun x => key x = c).Perm l := by
  induction cs generalizing l with
  | nil =>
    have hnil : l = [] := List.eq_nil_iff_forall_not_mem.mpr fun x hx => List.not_mem_nil (h x hx)
    rw [hnil]
    exact .refl _
  | cons c cs ih =>
    obtain ⟨hc, hcs⟩ := List.nodup_cons.mp hnodup
    have hrest : ∀ x ∈ l.filter fun x => ¬ key x = c, key x ∈ cs := by
      intro x hx
      obtain ⟨hx, hne⟩ := List.mem_filter.mp hx
      exact (List.mem_cons.mp (h x hx)).resolve_left (of_decide_eq_true hne)
    have hfilter : (cs.flatMap fun c' => l.filter fun x => key x = c') =
        cs.flatMap fun c' => (l.filter fun x => ¬ key x = c).filter fun x => key x = c' := by
      refine List.flatMap_congr fun c' hc' => ?_
      rw [List.filter_filter]
      refine List.filter_congr fun x _ => ?_
      have hne : c' ≠ c := fun heq => hc (heq ▸ hc')
      by_cases hkey : key x = c' <;> simp_all
    rw [List.flatMap_cons, hfilter]
    refine ((ih hcs hrest).append_left _).trans ?_
    convert List.filter_append_perm (fun x => decide (key x = c)) l using 3
    simp

/-- New data points are all in the event. -/
theorem perm_getNewHubDataPoints {dataPoints : List HubDataPoint}
    (h : ∀ dp ∈ dataPoints, dp.isRegistered = false) :
    ((getNewHubDataPoints dataPoints).flatMap (·.2)).Perm (dataPoints.map (·.ref)) := by
  have hfilter : ∀ category, (dataPoints.filter fun dp =>
      !dp.isRegistered && dp.category = category) =
      dataPoints.filter fun dp => dp.category = category :=
    fun category => List.filter_congr fun dp hdp => by rw [h dp hdp]; rfl
  rw [getNewHubDataPoints, List.flatMap_map]
  simp only [hfilter]
  rw [← List.map_flatMap]
  exact (perm_flatMap_filter _ hubCategories_nodup fun dp _ => mem_hubCategories _).map _

/-- The data points that are created between two states, not announced yet. -/
structure Creates (s t : HubCoordinator F) (new : List HubDataPoint) : Prop where
  announced : announced t.log = announced s.log
  refs : List.range t.nextRef = List.range s.nextRef ++ new.map (·.ref)
  fresh : ∀ dp ∈ new, dp.isRegistered = false

theorem Creates.trans {new more : List HubDataPoint} (h : Creates s t new)
    (h' : Creates t u more) : Creates s u (new ++ more) where
  announced := h'.announced.trans h.announced
  refs := by rw [h'.refs, h.refs, List.map_append, List.append_assoc]
  fresh dp hdp := (List.mem_append.mp hdp).elim (h.fresh dp) (h'.fresh dp)

theorem Creates.nothing (hlog : Hub.announced t.log = Hub.announced s.log)
    (href : t.nextRef = s.nextRef) : Creates s t [] :=
  ⟨hlog, by simp [href], nofun⟩

theorem AnnouncedOnce.publishNew {new : List HubDataPoint} (h : AnnouncedOnce s)
    (hnew : Creates s t new) : AnnouncedOnce (publishNew t new) := by
  unfold AnnouncedOnce Hub.publishNew at *
  have hrefs := hnew.refs
  split
  next hnil =>
    rw [List.isEmpty_iff.mp hnil, List.map_nil, List.append_nil] at hrefs
    rw [hnew.announced, hrefs]
    exact h
  · show (announced (t.log ++ _)).Perm (List.range t.nextRef)
    rw [announced_append, hnew.announced, hrefs]
    refine h.append ?_
    show ([HubEvent.hubRefreshed (getNewHubDataPoints new)].flatMap _).Perm _
    rw [List.flatMap_singleton]
    exact perm_getNewHubDataPoints hnew.fresh

/-! ## Removing data points -/

/-- Data points of one registry are removed, and nothing else changes. -/
structure Removes {α β : Type*} (registry : HubCoordinator F → Dict String α)
    (other : HubCoordinator F → Dict String β) (s t : HubCoordinator F) (ids : List String) :
    Prop where
  invariant : HubInvariant t
  creates : Creates s t []
  other : other t = other s
  get? : ∀ id, (registry t).get? id =
    if id ∈ ids ∧ id ≠ "" then none else (registry s).get? id

theorem Removes.foldl {α β : Type*} {registry : HubCoordinator F → Dict String α}
    {other : HubCoordinator F → Dict String β}
    {remove : HubCoordinator F → String → HubCoordinator F}
    (hremove : ∀ s id, HubInvariant s → Removes registry other s (remove s id) [id])
    (h : HubInvariant s) (ids : List String) :
    Removes registry other s (ids.foldl remove s) ids := by
  induction ids generalizing s with
  | nil =>
    refine ⟨h, .nothing rfl rfl, rfl, fun id => ?_⟩
    rw [if_neg fun hmem => List.not_mem_nil hmem.1]
    rfl
  | cons first ids ih =>
    have hfirst := hremove s first h
    have hrest := ih hfirst.invariant
    refine ⟨hrest.invariant, hfirst.creates.trans hrest.creates,
      hrest.other.trans hfirst.other, fun id => ?_⟩
    rw [List.foldl_cons, hrest.get?, hfirst.get?]
    simp only [List.mem_cons, List.not_mem_nil, or_false]
    by_cases hmem : id ∈ ids ∧ id ≠ ""
    · rw [if_pos hmem, if_pos ⟨.inr hmem.1, hmem.2⟩]
    · rw [if_neg hmem]
      refine if_congr ?_ rfl rfl
      tauto

theorem removes_removeProgramButton (s : HubCoordinator F) (pid : String) (h : HubInvariant s) :
    Removes programDataPoints sysvarDataPoints s (s.removeProgramButton pid) [pid] := by
  have hfound := getProgramDataPoint_pid s pid
  unfold removeProgramButton
  split
  next hnone =>
    rw [hfound] at hnone
    refine ⟨h, .nothing rfl rfl, rfl, fun id => ?_⟩
    by_cases hid : id = pid
    · subst hid
      by_cases hempty : id = "" <;> simp_all
    · simp [hid]
  next programDp hsome =>
    rw [hfound, Option.ite_none_left_eq_some] at hsome
    obtain ⟨hempty, hget⟩ := hsome
    obtain ⟨hbutton, -⟩ := h.programs pid programDp hget
    refine ⟨⟨?_, h.sysvars, ?_⟩, .nothing ?_ rfl, rfl, fun id => ?_⟩
    · intro id other hother
      rw [Dict.get?_erase, Option.ite_none_left_eq_some] at hother
      exact h.programs id other hother.2
    · rw [hbutton]
      exact h.indexed.erase_program pid
    · rw [announced_append]
      exact List.append_nil _
    · show (s.programDataPoints.erase pid).get? id = _
      rw [Dict.get?_erase]
      by_cases hid : pid = id
      · subst hid
        simp [hempty]
      · simp [hid, Ne.symm hid]

theorem removes_removeSysvarDataPoint (s : HubCoordinator F) (vid : String) (h : HubInvariant s) :
    Removes sysvarDataPoints programDataPoints s (s.removeSysvarDataPoint vid) [vid] := by
  have hfound := getSysvarDataPoint_vid s vid
  unfold removeSysvarDataPoint
  split
  next hnone =>
    rw [hfound] at hnone
    refine ⟨h, .nothing rfl rfl, rfl, fun id => ?_⟩
    by_cases hid : id = vid
    · subst hid
      by_cases hempty : id = "" <;> simp_all
    · simp [hid]
  next sysvarDp hsome =>
    rw [hfound, Option.ite_none_left_eq_some] at hsome
    obtain ⟨hempty, hget⟩ := hsome
    have hvid := h.sysvars vid sysvarDp hget
    refine ⟨⟨h.programs, ?_, hvid ▸ h.indexed.erase_sysvar vid⟩, .nothing ?_ rfl, rfl, fun id => ?_⟩
    · intro id other hother
      rw [Dict.get?_erase, Option.ite_none_left_eq_some] at hother
      exact h.sysvars id other hother.2
    · rw [announced_append]
      exact List.append_nil _
    · show (s.sysvarDataPoints.erase vid).get? id = _
      rw [Dict.get?_erase]
      by_cases hid : vid = id
      · subst hid
        simp [hempty]
      · simp [hid, Ne.symm hid]

theorem mem_identifyMissingProgramIds (h : HubInvariant s) {programs : List ProgramData}
    {pid : String} : pid ∈ identifyMissingProgramIds s programs ↔
      (s.programDataPoints.get? pid).isSome = true ∧ pid ∉ programs.map (·.pid) := by
  have hvalues : pid ∈ s.programDataPointValues.map (·.pid) ↔
      (s.programDataPoints.get? pid).isSome = true := by
    rw [programDataPointValues, List.map_append, List.mem_append, List.map_map, List.map_map,
      Option.isSome_iff_exists]
    constructor
    · rintro (hmem | hmem) <;>
      · obtain ⟨programDp, hvalue, rfl⟩ := List.mem_map.mp hmem
        obtain ⟨⟨id, _⟩, he, rfl⟩ := List.mem_map.mp hvalue
        have hget := Dict.get?_eq_some.mpr he
        first
          | exact ⟨_, (h.programs _ _ hget).1 ▸ hget⟩
          | exact ⟨_, (h.programs _ _ hget).2 ▸ hget⟩
    · rintro ⟨programDp, hget⟩
      exact .inl (List.mem_map.mpr ⟨programDp,
        List.mem_map.mpr ⟨_, Dict.get?_eq_some.mp hget, rfl⟩, (h.programs _ _ hget).1⟩)
  rw [identifyMissingProgramIds, List.mem_eraseDups, List.mem_filter, hvalues, decide_eq_true_eq]

theorem mem_identifyMissingVariableIds (h : HubInvariant s)
    {sysvars : List (SystemVariableData F)} {vid : String} :
    vid ∈ identifyMissingVariableIds s sysvars ↔
      ∃ dp, s.sysvarDataPoints.get? vid = some dp ∧ isMissing sysvars dp = true := by
  rw [identifyMissingVariableIds, List.mem_eraseDups, List.mem_map]
  constructor
  · rintro ⟨dp, hmem, rfl⟩
    obtain ⟨hvalue, hmissing⟩ := List.mem_filter.mp hmem
    obtain ⟨⟨id, _⟩, he, rfl⟩ := List.mem_map.mp hvalue
    have hget := Dict.get?_eq_some.mpr he
    exact ⟨_, (h.sysvars _ _ hget) ▸ hget, hmissing⟩
  · rintro ⟨dp, hget, hmissing⟩
    exact ⟨dp, List.mem_filter.mpr ⟨List.mem_map.mpr ⟨_, Dict.get?_eq_some.mp hget, rfl⟩,
      hmissing⟩, h.sysvars _ _ hget⟩

/-! ## Programs -/

/-- Programs are updated or created. -/
structure SyncsPrograms (s t : HubCoordinator F) (pids : List String) : Prop where
  invariant : HubInvariant t
  sysvars : t.sysvarDataPoints = s.sysvarDataPoints
  isSome : ∀ pid, (t.programDataPoints.get? pid).isSome = true ↔
    pid ∈ pids ∨ (s.programDataPoints.get? pid).isSome = true

theorem syncs_syncProgram (h : HubInvariant s) (data : ProgramData) :
    SyncsPrograms s (syncProgram s data).1 [data.pid] ∧
      Creates s (syncProgram s data).1 (syncProgram s data).2 := by
  have hfound := getProgramDataPoint_pid s data.pid
  unfold syncProgram
  split
  next programDp hsome =>
    rw [hfound, Option.ite_none_left_eq_some] at hsome
    obtain ⟨-, hget⟩ := hsome
    refine ⟨⟨⟨?_, h.sysvars, ?_⟩, rfl, fun pid => ?_⟩, .nothing rfl rfl⟩
    · intro pid other hother
      rw [Dict.get?_set] at hother
      split at hother
      next hpid =>
        cases hother
        exact hpid ▸ h.programs data.pid programDp hget
      · exact h.programs pid other hother
    · exact h.indexed.mono (fun pid hold => (isSome_get?_set _ _ _ _).mpr (.inr hold))
        (fun vid hold => hold) fun path name hpath => .inl hpath
    · rw [isSome_get?_set, List.mem_singleton, eq_comm]
  next hnone =>
    refine ⟨⟨⟨?_, h.sysvars, ?_⟩, rfl, fun pid => ?_⟩, rfl, ?_, ?_⟩
    · intro pid other hother
      simp only [createProgramDp, addProgramDataPoint, Dict.get?_set] at hother
      split at hother
      next hpid =>
        cases hother
        exact ⟨hpid, hpid⟩
      · exact h.programs pid other hother
    · refine h.indexed.mono (fun pid hold => (isSome_get?_set _ _ _ _).mpr (.inr hold))
        (fun vid hold => hold) fun path name hpath => ?_
      simp only [createProgramDp, addProgramDataPoint, Dict.get?_set] at hpath
      split at hpath
      next heq =>
        cases hpath
        exact .inr (.inl ⟨heq.symm, (isSome_get?_set _ _ _ _).mpr (.inl rfl)⟩)
      · exact .inl hpath
    · show (_ : Bool) = true ↔ _
      rw [createProgramDp, addProgramDataPoint, isSome_get?_set, List.mem_singleton, eq_comm]
    · show List.range (s.nextRef + 2) = _
      rw [List.range_succ, List.range_succ, List.append_assoc]
      rfl
    · intro dp hdp
      obtain rfl | hdp := List.mem_cons.mp hdp
      · rfl
      · obtain rfl := List.mem_singleton.mp hdp
        rfl

theorem syncs_syncPrograms (h : HubInvariant s) (programs : List ProgramData) :
    SyncsPrograms s (syncPrograms s programs).1 (programs.map (·.pid)) ∧
      Creates s (syncPrograms s programs).1 (syncPrograms s programs).2 := by
  induction programs generalizing s with
  | nil => exact ⟨⟨h, rfl, fun pid => by simp [syncPrograms]⟩, .nothing rfl rfl⟩
  | cons data programs ih =>
    obtain ⟨hone, hnew⟩ := syncs_syncProgram h data
    obtain ⟨hrest, hmore⟩ := ih hone.invariant
    refine ⟨⟨hrest.invariant, hrest.sysvars.trans hone.sysvars, fun pid => ?_⟩, hnew.trans hmore⟩
    have hpid := hone.isSome pid
    rw [List.mem_singleton] at hpid
    rw [List.map_cons, List.mem_cons, or_assoc, or_left_comm, ← hpid]
    exact hrest.isSome pid

/-! ## System variables -/

/-- The same object, perhaps with other values. -/
structure SameObject (dp dp' : SysvarDataPoint F) : Prop where
  ref : dp'.ref = dp.ref
  cls : dp'.cls = dp.cls
  dataType : dp'.dataType = dp.dataType

/-- Variables are written or created. -/
structure SyncsSysvars (s t : HubCoordinator F) (sysvars : List (SystemVariableData F)) :
    Prop where
  invariant : HubInvariant t
  programs : t.programDataPoints = s.programDataPoints
  isSome : ∀ vid, (s.sysvarDataPoints.get? vid).isSome = true →
    (t.sysvarDataPoints.get? vid).isSome = true
  origin : ∀ vid dp, t.sysvarDataPoints.get? vid = some dp →
    (∃ old, s.sysvarDataPoints.get? vid = some old ∧ SameObject old dp ∧
      (vid = "" → vid ∉ sysvars.map (·.vid))) ∨
    ∃ sysvar ∈ sysvars, sysvar.vid = vid ∧ (vid = "" ∨ s.sysvarDataPoints.get? vid = none) ∧
      dp.cls = sysvarClass sysvar.dataType sysvar.extendedSysvar

theorem SyncsSysvars.refl (h : HubInvariant s) : SyncsSysvars s s [] :=
  ⟨h, rfl, fun _ hsome => hsome, fun _ dp hget =>
    .inl ⟨dp, hget, ⟨rfl, rfl, rfl⟩, fun _ => List.not_mem_nil⟩⟩

theorem SyncsSysvars.trans {sysvars sysvars' : List (SystemVariableData F)}
    (h : SyncsSysvars s t sysvars) (h' : SyncsSysvars t u sysvars') :
    SyncsSysvars s u (sysvars ++ sysvars') := by
  refine ⟨h'.invariant, h'.programs.trans h.programs,
    fun vid hsome => h'.isSome vid (h.isSome vid hsome), fun vid dp hget => ?_⟩
  obtain ⟨mid, hmid, hsame, hnot⟩ | ⟨sysvar, hmem, hvid, hnone, hcls⟩ := h'.origin vid dp hget
  · obtain ⟨old, hold, hsame', hnot'⟩ | ⟨sysvar, hmem, hvid, hnone, hcls⟩ := h.origin vid mid hmid
    · refine .inl ⟨old, hold, ⟨hsame.ref.trans hsame'.ref, hsame.cls.trans hsame'.cls,
        hsame.dataType.trans hsame'.dataType⟩, fun hempty => ?_⟩
      rw [List.map_append, List.mem_append]
      exact not_or.mpr ⟨hnot' hempty, hnot hempty⟩
    · exact .inr ⟨sysvar, List.mem_append_left _ hmem, hvid, hnone, hsame.cls.trans hcls⟩
  · refine .inr ⟨sysvar, List.mem_append_right _ hmem, hvid, hnone.imp_right fun hnone => ?_, hcls⟩
    rw [← Option.not_isSome_iff_eq_none] at hnone ⊢
    exact fun hsome => hnone (h.isSome vid hsome)

/-- One variable: its data point is written, or it is new. -/
theorem syncSysvar_cases {sysvar : SystemVariableData F} {new : List HubDataPoint}
    (h : syncSysvar py s sysvar = some (t, new)) :
    (∃ dp dp', sysvar.vid ≠ "" ∧ s.sysvarDataPoints.get? sysvar.vid = some dp ∧
      dp.writeValue py sysvar.value = some dp' ∧
      t = { s with sysvarDataPoints := s.sysvarDataPoints.set sysvar.vid dp' } ∧ new = []) ∨
    ((sysvar.vid = "" ∨ s.sysvarDataPoints.get? sysvar.vid = none) ∧
      t = (createSystemVariable s sysvar).1 ∧ new = [(createSystemVariable s sysvar).2.toHub]) := by
  have hfound := getSysvarDataPoint_vid s sysvar.vid
  unfold syncSysvar at h
  split at h
  next dp hsome =>
    rw [hfound, Option.ite_none_left_eq_some] at hsome
    obtain ⟨dp', hwrite, heq⟩ := Option.map_eq_some_iff.mp h
    cases heq
    exact .inl ⟨dp, dp', hsome.1, hsome.2, hwrite, rfl, rfl⟩
  next hnone =>
    cases h
    refine .inr ⟨?_, rfl, rfl⟩
    rw [hfound] at hnone
    by_cases hempty : sysvar.vid = ""
    · exact .inl hempty
    · rw [if_neg hempty] at hnone
      exact .inr hnone

theorem syncs_syncSysvar (h : HubInvariant s) {sysvar : SystemVariableData F}
    {new : List HubDataPoint} (hsync : syncSysvar py s sysvar = some (t, new)) :
    SyncsSysvars s t [sysvar] ∧ Creates s t new ∧
      (t.sysvarDataPoints.get? sysvar.vid).isSome = true := by
  obtain ⟨dp, dp', hempty, hget, hwrite, rfl, rfl⟩ | ⟨hnew, rfl, rfl⟩ := syncSysvar_cases hsync
  · obtain ⟨written, previous, -, rfl⟩ := SysvarDataPoint.writeValue_eq_some hwrite
    refine ⟨⟨⟨h.programs, ?_, ?_⟩, rfl, ?_, ?_⟩, .nothing rfl rfl,
      (isSome_get?_set _ _ _ _).mpr (.inl rfl)⟩
    · intro vid other hother
      rw [Dict.get?_set] at hother
      split at hother
      next hvid =>
        cases hother
        exact hvid ▸ h.sysvars sysvar.vid dp hget
      · exact h.sysvars vid other hother
    · exact h.indexed.mono (fun pid hold => hold)
        (fun vid hold => (isSome_get?_set _ _ _ _).mpr (.inr hold)) fun path name hpath =>
          .inl hpath
    · exact fun vid hold => (isSome_get?_set _ _ _ _).mpr (.inr hold)
    · intro vid other hother
      rw [Dict.get?_set] at hother
      split at hother
      next hvid =>
        cases hother
        exact .inl ⟨dp, hvid ▸ hget, ⟨rfl, rfl, rfl⟩, fun hempty' =>
          absurd (hvid.trans hempty') hempty⟩
      next hvid =>
        refine .inl ⟨other, hother, ⟨rfl, rfl, rfl⟩, fun _ hmem => ?_⟩
        exact hvid (List.mem_singleton.mp hmem).symm
  · refine ⟨⟨⟨h.programs, ?_, ?_⟩, rfl, ?_, ?_⟩, ⟨rfl, List.range_succ, ?_⟩,
      (isSome_get?_set _ _ _ _).mpr (.inl rfl)⟩
    · intro vid other hother
      simp only [createSystemVariable, addSysvarDataPoint, Dict.get?_set] at hother
      split at hother
      next hvid =>
        cases hother
        exact hvid
      · exact h.sysvars vid other hother
    · refine h.indexed.mono (fun pid hold => hold)
        (fun vid hold => (isSome_get?_set _ _ _ _).mpr (.inr hold)) fun path name hpath => ?_
      simp only [createSystemVariable, addSysvarDataPoint, Dict.get?_set] at hpath
      split at hpath
      next heq =>
        cases hpath
        exact .inr (.inr ⟨heq.symm, (isSome_get?_set _ _ _ _).mpr (.inl rfl)⟩)
      · exact .inl hpath
    · exact fun vid hold => (isSome_get?_set _ _ _ _).mpr (.inr hold)
    · intro vid other hother
      simp only [createSystemVariable, addSysvarDataPoint, Dict.get?_set] at hother
      split at hother
      next hvid =>
        cases hother
        refine .inr ⟨sysvar, List.mem_cons_self, hvid, ?_, rfl⟩
        rw [← show sysvar.vid = vid from hvid]
        exact hnew
      next hvid =>
        refine .inl ⟨other, hother, ⟨rfl, rfl, rfl⟩, fun _ hmem => ?_⟩
        exact hvid (List.mem_singleton.mp hmem).symm
    · intro dp hdp
      obtain rfl := List.mem_singleton.mp hdp
      rfl

variable (py) in
/-- The loop, as far as it comes. -/
theorem syncs_syncSysvars (h : HubInvariant s) (sysvars : List (SystemVariableData F)) :
    ∃ done, done <+: sysvars ∧ SyncsSysvars s (syncSysvars py s sysvars).1 done ∧
      ∀ new, (syncSysvars py s sysvars).2 = some new → done = sysvars ∧
        Creates s (syncSysvars py s sysvars).1 new ∧ ∀ sysvar ∈ sysvars,
          ((syncSysvars py s sysvars).1.sysvarDataPoints.get? sysvar.vid).isSome = true := by
  induction sysvars generalizing s with
  | nil =>
    refine ⟨[], List.prefix_rfl, .refl h, fun new hnew => ⟨rfl, ?_, fun _ hmem => ?_⟩⟩
    · cases hnew
      exact .nothing rfl rfl
    · cases hmem
  | cons sysvar sysvars ih =>
    rw [syncSysvars]
    split
    · refine ⟨[], List.nil_prefix, .refl h, fun new hnew => ?_⟩
      cases hnew
    next t new hsync =>
      obtain ⟨hone, hnew, hsome⟩ := syncs_syncSysvar h hsync
      obtain ⟨done, hdoneOf, hrest, hmore⟩ := ih hone.invariant
      refine ⟨sysvar :: done, List.cons_prefix_cons.mpr ⟨rfl, hdoneOf⟩, hone.trans hrest,
        fun all hall => ?_⟩
      obtain ⟨more, heq, rfl⟩ := Option.map_eq_some_iff.mp hall
      obtain ⟨rfl, hcreates, hget⟩ := hmore more heq
      refine ⟨rfl, hnew.trans hcreates, fun sysvar' hmem => ?_⟩
      obtain rfl | hmem := List.mem_cons.mp hmem
      · exact hrest.isSome _ hsome
      · exact hget sysvar' hmem

variable (py) in
/-- Where every variable has a data point, none is created. -/
theorem syncSysvars_of_found (h : HubInvariant s) {sysvars : List (SystemVariableData F)}
    (hfound : ∀ sysvar ∈ sysvars, sysvar.vid ≠ "" ∧
      (s.sysvarDataPoints.get? sysvar.vid).isSome = true) :
    Creates s (syncSysvars py s sysvars).1 [] ∧
      ∀ new, (syncSysvars py s sysvars).2 = some new → new = [] := by
  induction sysvars generalizing s with
  | nil => exact ⟨.nothing rfl rfl, fun new hnew => (Option.some_inj.mp hnew).symm⟩
  | cons sysvar sysvars ih =>
    rw [syncSysvars]
    split
    · exact ⟨.nothing rfl rfl, nofun⟩
    next t new hsync =>
      obtain ⟨hone, hnew, -⟩ := syncs_syncSysvar h hsync
      obtain ⟨hempty, hsome⟩ := hfound sysvar List.mem_cons_self
      have hnil : new = [] := by
        obtain ⟨_, _, -, -, -, -, hnil⟩ | ⟨hnone, -⟩ := syncSysvar_cases hsync
        · exact hnil
        · rw [hnone.resolve_left hempty] at hsome
          cases hsome
      obtain ⟨hcreates, hnone⟩ := ih hone.invariant fun sysvar' hmem =>
        (hfound sysvar' (List.mem_cons_of_mem _ hmem)).imp_right (hone.isSome _)
      subst hnil
      refine ⟨hnew.trans hcreates, fun all hall => ?_⟩
      obtain ⟨more, heq, rfl⟩ := Option.map_eq_some_iff.mp hall
      exact hnone more heq

/-! ## Values that can be converted -/

/-- The values fetched for one variable can be written one after the other; a variable without a
data point begins with its first value. -/
def FetchConverts (py : Conversions F) : Option (Option HubValueType × SysvarValue F) →
    List (SystemVariableData F) → Prop
  | _, [] => True
  | none, sysvar :: sysvars => FetchConverts py (some (sysvar.dataType, sysvar.value)) sysvars
  | some (dataType, value), sysvar :: sysvars =>
    ∃ written, py.writtenValue dataType value sysvar.value = some written ∧
      FetchConverts py (some (dataType, written)) sysvars

/-- The type and the value of a data point. -/
def typedValue (dp : SysvarDataPoint F) : Option HubValueType × SysvarValue F :=
  (dp.dataType, dp.currentValue)

/-- Then nothing is raised. -/
theorem syncSysvars_ne_none (h : HubInvariant s) {sysvars : List (SystemVariableData F)}
    (hconverts : ∀ vid, vid ≠ "" → FetchConverts py ((s.sysvarDataPoints.get? vid).map typedValue)
      (sysvars.filter fun sysvar => sysvar.vid = vid)) :
    (syncSysvars py s sysvars).2 ≠ none := by
  induction sysvars generalizing s with
  | nil => exact Option.some_ne_none _
  | cons sysvar sysvars ih =>
    -- the values of the other variables are not touched
    have hother : ∀ {t : HubCoordinator F} {dp : SysvarDataPoint F} {vid : String}, vid ≠ "" →
        t.sysvarDataPoints = s.sysvarDataPoints.set sysvar.vid dp → sysvar.vid ≠ vid →
        FetchConverts py ((t.sysvarDataPoints.get? vid).map typedValue)
          (sysvars.filter fun sysvar => sysvar.vid = vid) := by
      intro t dp vid hempty ht hvid
      have hthis := hconverts vid hempty
      rw [List.filter_cons, if_neg (by simpa using hvid)] at hthis
      rw [ht, Dict.get?_set_of_ne _ _ hvid]
      exact hthis
    have hthis : sysvar.vid ≠ "" → FetchConverts py
        ((s.sysvarDataPoints.get? sysvar.vid).map typedValue)
        (sysvar :: sysvars.filter fun sysvar' => sysvar'.vid = sysvar.vid) := by
      intro hempty
      have hthis := hconverts sysvar.vid hempty
      rwa [List.filter_cons, if_pos (decide_eq_true rfl)] at hthis
    rw [syncSysvars]
    split
    next hnone =>
      unfold syncSysvar at hnone
      split at hnone
      next dp hsome =>
        rw [getSysvarDataPoint_vid, Option.ite_none_left_eq_some] at hsome
        have hthis := hthis hsome.1
        rw [hsome.2] at hthis
        obtain ⟨written, hwritten, -⟩ := hthis
        have hisSome : (dp.writeValue py sysvar.value).isSome = _ :=
          SysvarDataPoint.writeValue_isSome
        rw [hwritten, Option.map_eq_none_iff.mp hnone] at hisSome
        cases hisSome
      · cases hnone
    next t new hsync =>
      have hinvariant := (syncs_syncSysvar h hsync).1.invariant
      refine mt Option.map_eq_none_iff.mp (ih hinvariant fun vid hempty => ?_)
      obtain ⟨dp, dp', hempty', hget, hwrite, rfl, -⟩ | ⟨hnew, rfl, -⟩ := syncSysvar_cases hsync
      · by_cases hvid : sysvar.vid = vid
        · subst hvid
          have hthis := hthis hempty
          rw [hget] at hthis
          obtain ⟨written, hwritten, hrest⟩ := hthis
          obtain ⟨written', previous, hwritten', rfl⟩ := SysvarDataPoint.writeValue_eq_some hwrite
          rw [Dict.get?_set_self]
          rw [hwritten, Option.some_inj] at hwritten'
          subst hwritten'
          exact hrest
        · exact hother hempty rfl hvid
      · by_cases hvid : sysvar.vid = vid
        · subst hvid
          have hthis := hthis hempty
          rw [hnew.resolve_left hempty] at hthis
          show FetchConverts py (((s.sysvarDataPoints.set sysvar.vid _).get? _).map _) _
          rw [Dict.get?_set_self]
          exact hthis
        · exact hother hempty rfl hvid

/-! ## Fetches that reconcile -/

/-- The data point that a fetched variable is written to. -/
def keptDataPoint (s : HubCoordinator F) (sysvars : List (SystemVariableData F)) (vid : String) :
    Option (SysvarDataPoint F) :=
  if vid = "" then none else (s.sysvarDataPoints.get? vid).filter fun dp => !isMissing sysvars dp

/-- A fetch of system variables that is carried out as a whole. -/
structure MeetsSysvars (py : Conversions F) (s : HubCoordinator F)
    (sysvars : List (SystemVariableData F)) : Prop where
  /-- What has no id cannot be removed. -/
  empty : ∀ dp, s.sysvarDataPoints.get? "" = some dp → isMissing sysvars dp = true →
    "" ∈ sysvars.map (·.vid)
  /-- A new variable with the extended flag has a class that carries it. -/
  extended : ∀ sysvar ∈ sysvars, keptDataPoint s sysvars sysvar.vid = none →
    sysvar.extendedSysvar = true → (sysvarClass sysvar.dataType true).isExtended = true
  /-- No variable is new, or no value makes the conversion raise. -/
  converts : (∀ sysvar ∈ sysvars, keptDataPoint s sysvars sysvar.vid ≠ none) ∨
    ∀ vid, vid ≠ "" → FetchConverts py ((keptDataPoint s sysvars vid).map typedValue)
      (sysvars.filter fun sysvar => sysvar.vid = vid)

/-- The fetches after which the registered data points are the fetched ones. -/
def Meets (model : Backend) (py : Conversions F) (s : HubCoordinator F) : Fetch F → Prop
  | .programs programs =>
    (programs = [] → ∀ pid, s.programDataPoints.get? pid = none) ∧
      (s.programDataPoints.get? "" ≠ none → "" ∈ programs.map (·.pid))
  | .sysvars none => True
  | .sysvars (some sysvars) => MeetsSysvars py s (keptVariables model sysvars)

/-- The registered data points are those of the fetch, and the others have not changed. A string
may be an old one. -/
def Registered (model : Backend) (s t : HubCoordinator F) : Fetch F → Prop
  | .programs programs =>
    (∀ pid, (t.programDataPoints.get? pid).isSome = true ↔ pid ∈ programs.map (·.pid)) ∧
      t.sysvarDataPoints = s.sysvarDataPoints
  | .sysvars none => t = s
  | .sysvars (some sysvars) =>
    (∀ sysvar ∈ keptVariables model sysvars,
      (t.sysvarDataPoints.get? sysvar.vid).isSome = true) ∧
      (∀ vid dp, t.sysvarDataPoints.get? vid = some dp →
        (∃ sysvar ∈ keptVariables model sysvars, sysvar.vid = vid ∧
          sysvar.extendedSysvar = dp.isExtended) ∨
        dp.dataType = some .string ∧
          ∃ old, s.sysvarDataPoints.get? vid = some old ∧ old.ref = dp.ref) ∧
      t.programDataPoints = s.programDataPoints

/-! ## After a fetch -/

theorem HubInvariant.publishNew {new : List HubDataPoint} (h : HubInvariant s) :
    HubInvariant (publishNew s new) := by
  unfold Hub.publishNew
  split
  · exact h
  · exact ⟨h.programs, h.sysvars, h.indexed⟩

theorem publishNew_programs (s : HubCoordinator F) (new : List HubDataPoint) :
    (publishNew s new).programDataPoints = s.programDataPoints := by
  unfold publishNew
  split <;> rfl

theorem publishNew_sysvars (s : HubCoordinator F) (new : List HubDataPoint) :
    (publishNew s new).sysvarDataPoints = s.sysvarDataPoints := by
  unfold publishNew
  split <;> rfl

theorem updateProgramDataPoints_spec (h : HubInvariant s) (programs : List ProgramData) :
    HubInvariant (updateProgramDataPoints s programs) ∧
      (AnnouncedOnce s → AnnouncedOnce (updateProgramDataPoints s programs)) ∧
      (updateProgramDataPoints s programs).sysvarDataPoints = s.sysvarDataPoints ∧
      ((programs = [] → ∀ pid, s.programDataPoints.get? pid = none) →
        (s.programDataPoints.get? "" ≠ none → "" ∈ programs.map (·.pid)) → ∀ pid,
        ((updateProgramDataPoints s programs).programDataPoints.get? pid).isSome = true ↔
          pid ∈ programs.map (·.pid)) := by
  unfold updateProgramDataPoints
  split
  next hnil =>
    have hnil := List.isEmpty_iff.mp hnil
    refine ⟨h, id, rfl, fun hnone _ pid => ?_⟩
    rw [hnone hnil pid, hnil]
    exact iff_of_false Bool.false_ne_true List.not_mem_nil
  · have hremoves := Removes.foldl removes_removeProgramButton h
      (identifyMissingProgramIds s programs)
    obtain ⟨hsyncs, hcreates⟩ := syncs_syncPrograms hremoves.invariant programs
    refine ⟨hsyncs.invariant.publishNew,
      fun honce => honce.publishNew (hremoves.creates.trans hcreates), ?_,
      fun _ hempties pid => ?_⟩
    · exact (publishNew_sysvars _ _).trans (hsyncs.sysvars.trans hremoves.other)
    · show ((publishNew _ _).programDataPoints.get? pid).isSome = true ↔ _
      rw [publishNew_programs]
      refine (hsyncs.isSome pid).trans ?_
      rw [or_iff_left_iff_imp, hremoves.get?]
      intro hsome
      by_contra hnot
      split at hsome
      · cases hsome
      next hkept =>
        have hempty : pid = "" := by
          by_contra hempty
          exact hkept ⟨(mem_identifyMissingProgramIds h).mpr ⟨hsome, hnot⟩, hempty⟩
        subst hempty
        exact hnot (hempties (Option.isSome_iff_ne_none.mp hsome))

section Sysvars

variable {sysvars : List (SystemVariableData F)}

theorem fetched_of_variableIds {vid : String} {extended : Bool}
    (h : (variableIds sysvars).get? vid = some extended) :
    ∃ sysvar ∈ sysvars, sysvar.vid = vid ∧ sysvar.extendedSysvar = extended := by
  rw [variableIds, Dict.get?_assign, Dict.get?_empty, Option.or_none] at h
  obtain ⟨e, he, rfl⟩ := Option.map_eq_some_iff.mp h
  obtain ⟨hmem, hvid⟩ := List.mem_filter.mp (List.mem_of_getLast? he)
  obtain ⟨sysvar, hsysvar, rfl⟩ := List.mem_map.mp hmem
  exact ⟨sysvar, hsysvar, of_decide_eq_true hvid, rfl⟩

theorem not_isMissing {dp : SysvarDataPoint F} (h : isMissing sysvars dp = false) :
    dp.dataType = some .string ∨
      ∃ sysvar ∈ sysvars, sysvar.vid = dp.vid ∧ sysvar.extendedSysvar = dp.isExtended := by
  rw [isMissing, Bool.and_eq_false_iff, decide_eq_false_iff_not, decide_eq_false_iff_not,
    not_not, not_not] at h
  exact h.imp_right fetched_of_variableIds

/-- The data points that are left are the kept ones. -/
theorem get?_removeSysvarDataPoints (h : HubInvariant s) {vid : String} (hempty : vid ≠ "") :
    (removeSysvarDataPoints s (identifyMissingVariableIds s sysvars)).sysvarDataPoints.get? vid =
      keptDataPoint s sysvars vid := by
  have hremoves := Removes.foldl removes_removeSysvarDataPoint h
    (identifyMissingVariableIds s sysvars)
  refine (hremoves.get? vid).trans ?_
  rw [keptDataPoint, if_neg hempty]
  split
  next hmissing =>
    obtain ⟨dp, hget, hmissing⟩ := (mem_identifyMissingVariableIds h).mp hmissing.1
    rw [hget, Option.filter_some_neg (by simp [hmissing])]
  next hnot =>
    cases hget : s.sysvarDataPoints.get? vid with
    | none => rfl
    | some dp =>
      rw [Option.filter_some_pos]
      by_contra hmissing
      refine hnot ⟨(mem_identifyMissingVariableIds h).mpr ⟨dp, hget, ?_⟩, hempty⟩
      simpa using hmissing

theorem isExtended_sysvarClass (dataType : Option HubValueType) :
    (sysvarClass dataType false).isExtended = false := by
  cases dataType with
  | none => rfl
  | some dataType => cases dataType <;> rfl

/-- Every data point has been fetched with its flag, or is a string that was there before. -/
theorem fetched_of_syncs (h : HubInvariant s) (hmeets : MeetsSysvars py s sysvars)
    {done : List (SystemVariableData F)} (hdoneOf : done <+: sysvars)
    (hdone : "" ∈ sysvars.map (·.vid) → "" ∈ done.map (·.vid))
    (hsyncs : SyncsSysvars (removeSysvarDataPoints s (identifyMissingVariableIds s sysvars)) t done)
    {vid : String} {dp : SysvarDataPoint F} (hget : t.sysvarDataPoints.get? vid = some dp) :
    (∃ sysvar ∈ sysvars, sysvar.vid = vid ∧ sysvar.extendedSysvar = dp.isExtended) ∨
      dp.dataType = some .string ∧
        ∃ old, s.sysvarDataPoints.get? vid = some old ∧ old.ref = dp.ref := by
  have hremoves := Removes.foldl removes_removeSysvarDataPoint h
    (identifyMissingVariableIds s sysvars)
  obtain ⟨old, hold, hsame, hnot⟩ | ⟨sysvar, hmem, hvid, hnew, hcls⟩ := hsyncs.origin vid dp hget
  · have hbefore : s.sysvarDataPoints.get? vid = some old := by
      have hget' := (hremoves.get? vid).symm.trans hold
      rw [Option.ite_none_left_eq_some] at hget'
      exact hget'.2
    have hkept : isMissing sysvars old = false := by
      by_cases hempty : vid = ""
      · rw [Bool.eq_false_iff]
        intro hmissing
        subst hempty
        exact hnot rfl (hdone (hmeets.empty old hbefore hmissing))
      · rw [get?_removeSysvarDataPoints h hempty, keptDataPoint, if_neg hempty,
          Option.filter_eq_some_iff] at hold
        simpa using hold.2
    have hextended : old.isExtended = dp.isExtended := congrArg SysvarClass.isExtended hsame.cls.symm
    obtain hstring | ⟨sysvar, hmem, hvid, hflag⟩ := not_isMissing hkept
    · exact .inr ⟨hsame.dataType.trans hstring, old, hbefore, hsame.ref.symm⟩
    · exact .inl ⟨sysvar, hmem, hvid.trans (h.sysvars vid old hbefore), hflag.trans hextended⟩
  · refine .inl ⟨sysvar, hdoneOf.subset hmem, hvid, ?_⟩
    have hnone : keptDataPoint s sysvars sysvar.vid = none := by
      obtain hempty | hnone := hnew
      · rw [hvid, hempty]
        rfl
      · by_cases hempty : vid = ""
        · rw [hvid, hempty]
          rfl
        · rw [hvid, ← get?_removeSysvarDataPoints h hempty]
          exact hnone
    show sysvar.extendedSysvar = dp.cls.isExtended
    rw [hcls]
    cases hflag : sysvar.extendedSysvar with
    | true => exact (hmeets.extended sysvar (hdoneOf.subset hmem) hnone hflag).symm
    | false => exact (isExtended_sysvarClass _).symm

/-- The invariant holds, whatever is fetched. -/
theorem HubInvariant.updateSysvarDataPoints (h : HubInvariant s)
    (fetched : Option (List (SystemVariableData F))) :
    HubInvariant (updateSysvarDataPoints model py s fetched) := by
  unfold Hub.updateSysvarDataPoints
  split
  · exact h
  next sysvars =>
    have hremoves := Removes.foldl removes_removeSysvarDataPoint h
      (identifyMissingVariableIds s (keptVariables model sysvars))
    have hloop : HubInvariant (syncSysvars py (removeSysvarDataPoints s
        (identifyMissingVariableIds s (keptVariables model sysvars)))
        (keptVariables model sysvars)).1 := by
      obtain ⟨done, -, hsyncs, -⟩ := syncs_syncSysvars py hremoves.invariant
        (keptVariables model sysvars)
      exact hsyncs.invariant
    dsimp only
    split
    next u new heq =>
      rw [heq] at hloop
      exact hloop.publishNew
    next u heq =>
      rw [heq] at hloop
      exact hloop

/-- The loop, after the missing variables have been removed. -/
theorem fetched_of_loop (h : HubInvariant s) (hmeets : MeetsSysvars py s sysvars)
    {new : Option (List HubDataPoint)}
    (hloop : syncSysvars py (removeSysvarDataPoints s (identifyMissingVariableIds s sysvars))
      sysvars = (t, new)) :
    Creates s t (new.getD []) ∧ t.programDataPoints = s.programDataPoints ∧
      (∀ sysvar ∈ sysvars, (t.sysvarDataPoints.get? sysvar.vid).isSome = true) ∧
      ∀ vid dp, t.sysvarDataPoints.get? vid = some dp →
        (∃ sysvar ∈ sysvars, sysvar.vid = vid ∧ sysvar.extendedSysvar = dp.isExtended) ∨
        dp.dataType = some .string ∧
          ∃ old, s.sysvarDataPoints.get? vid = some old ∧ old.ref = dp.ref := by
  have hremoves : Removes sysvarDataPoints programDataPoints s
      (removeSysvarDataPoints s (identifyMissingVariableIds s sysvars)) _ :=
    Removes.foldl removes_removeSysvarDataPoint h _
  have hsyncs := syncs_syncSysvars py hremoves.invariant sysvars
  rw [hloop] at hsyncs
  obtain ⟨done, hdoneOf, hsyncs, hnew⟩ := hsyncs
  cases new with
  | some new =>
    obtain ⟨rfl, hcreates, hsome⟩ := hnew new rfl
    exact ⟨hremoves.creates.trans hcreates, hsyncs.programs.trans hremoves.other, hsome,
      fun vid dp hget => fetched_of_syncs h hmeets hdoneOf id hsyncs hget⟩
  | none =>
    -- a value could not be converted, so nothing was new
    have hkept : ∀ sysvar ∈ sysvars, keptDataPoint s sysvars sysvar.vid ≠ none := by
      refine hmeets.converts.resolve_right fun hconverts => ?_
      refine syncSysvars_ne_none hremoves.invariant (fun vid hempty => ?_)
        (congrArg Prod.snd hloop)
      rw [get?_removeSysvarDataPoints h hempty]
      exact hconverts vid hempty
    have hfound : ∀ sysvar ∈ sysvars, sysvar.vid ≠ "" ∧
        ((removeSysvarDataPoints s (identifyMissingVariableIds s sysvars)).sysvarDataPoints.get?
          sysvar.vid).isSome = true := by
      intro sysvar hmem
      have hempty : sysvar.vid ≠ "" := by
        intro hempty
        refine hkept sysvar hmem ?_
        rw [hempty]
        rfl
      refine ⟨hempty, ?_⟩
      rw [get?_removeSysvarDataPoints h hempty]
      exact Option.isSome_iff_ne_none.mpr (hkept sysvar hmem)
    have hcreates := syncSysvars_of_found py hremoves.invariant hfound
    rw [hloop] at hcreates
    refine ⟨hremoves.creates.trans hcreates.1, hsyncs.programs.trans hremoves.other,
      fun sysvar hmem => hsyncs.isSome _ (hfound sysvar hmem).2,
      fun vid dp hget => fetched_of_syncs h hmeets hdoneOf (fun hmem => ?_) hsyncs hget⟩
    obtain ⟨sysvar, hmem, hvid⟩ := List.mem_map.mp hmem
    exact absurd hvid (hfound sysvar hmem).1

theorem updateSysvarDataPoints_spec (h : HubInvariant s)
    (hmeets : MeetsSysvars py s (keptVariables model sysvars)) :
    (AnnouncedOnce s → AnnouncedOnce (updateSysvarDataPoints model py s (some sysvars))) ∧
      Registered model s (updateSysvarDataPoints model py s (some sysvars))
        (.sysvars (some sysvars)) := by
  rw [Registered, updateSysvarDataPoints]
  split
  next t new hloop =>
    obtain ⟨hcreates, hprograms, hsome, hfetched⟩ := fetched_of_loop h hmeets hloop
    rw [publishNew_sysvars, publishNew_programs]
    exact ⟨fun honce => honce.publishNew hcreates, hsome, hfetched, hprograms⟩
  next t hloop =>
    obtain ⟨hcreates, hprograms, hsome, hfetched⟩ := fetched_of_loop h hmeets hloop
    exact ⟨fun honce => honce.publishNew hcreates, hsome, hfetched, hprograms⟩

end Sysvars

/-! ## Runs -/

theorem HubInvariant.applyFetch (h : HubInvariant s) (fetch : Fetch F) :
    HubInvariant (applyFetch model py s fetch) := by
  cases fetch with
  | programs programs => exact (updateProgramDataPoints_spec h programs).1
  | sysvars fetched => exact h.updateSysvarDataPoints fetched

/-- In every run the index points to registered data points. -/
theorem hubInvariant_of_reach {ok : HubCoordinator F → Fetch F → Prop}
    (h : (hub model py).Reach ok s) : HubInvariant s :=
  h.invariant .init fun _ fetch _ hs _ hstep => Option.some_inj.mp hstep ▸ hs.applyFetch fetch

/-- A step of a run: what is registered, and that it has been announced. -/
theorem applyFetch_spec (h : HubInvariant s) {fetch : Fetch F} (hmeets : Meets model py s fetch) :
    (AnnouncedOnce s → AnnouncedOnce (applyFetch model py s fetch)) ∧
      Registered model s (applyFetch model py s fetch) fetch := by
  cases fetch with
  | programs programs =>
    obtain ⟨-, honce, hsysvars, hprograms⟩ := updateProgramDataPoints_spec h programs
    exact ⟨honce, hprograms hmeets.1 hmeets.2, hsysvars⟩
  | sysvars fetched =>
    cases fetched with
    | none => exact ⟨id, rfl⟩
    | some sysvars => exact updateSysvarDataPoints_spec h hmeets

theorem announcedOnce_of_reach (h : (hub model py).Reach (Meets model py) s) :
    AnnouncedOnce s := by
  have hboth : HubInvariant s ∧ AnnouncedOnce s := by
    refine h.invariant (P := fun s => HubInvariant s ∧ AnnouncedOnce s) ⟨.init, .init⟩
      fun _ fetch _ hs hmeets hstep => ?_
    rw [← Option.some_inj.mp hstep]
    exact ⟨hs.1.applyFetch fetch, (applyFetch_spec hs.1 hmeets).1 hs.2⟩
  exact hboth.2

/-- Along a run of fetches that meet the condition, every fetch leaves the data points registered
that it gives, each announced once, and an index of registered data points. -/
theorem fetched_is_registered (h : (hub model py).Reach (Meets model py) s) {fetch : Fetch F}
    (hmeets : Meets model py s fetch) (hstep : (hub model py).step s fetch = some t) :
    Registered model s t fetch ∧ Indexed t ∧ AnnouncedOnce t := by
  have hreach := h.step hmeets hstep
  refine ⟨?_, (hubInvariant_of_reach hreach).indexed, announcedOnce_of_reach hreach⟩
  rw [← Option.some_inj.mp hstep]
  exact (applyFetch_spec (hubInvariant_of_reach h) hmeets).2

/-! ## Two fetches -/

/-- No floats, and no strings that are numbers. -/
def noFloats : Conversions Empty where
  floatOfInt _ := none
  floatOfStr _ := none
  intOfFloat := Empty.elim
  intOfStr _ := none
  isZero := Empty.elim
  str _ := ""
  eq v w := v = w

def morningProgram : ProgramData := ⟨"Morning", "1234", true, false, ""⟩

def alarmVariable : SystemVariableData Empty :=
  { legacyName := "Alarm", vid := "950", value := .bool false, dataType := some .alarm }

theorem kept_alarmVariable : keptVariables .ccu [alarmVariable] = [alarmVariable] := by
  rw [keptVariables, if_pos rfl, cleanVariables, List.filter_cons, if_pos (by decide)]
  rfl

/-- An alarm variable is new. -/
theorem fetched_is_registered_alarm :
    Registered .ccu {} (applyFetch .ccu noFloats {} (.sysvars (some [alarmVariable])))
        (.sysvars (some [alarmVariable])) ∧
      Indexed (applyFetch .ccu noFloats {} (.sysvars (some [alarmVariable]))) ∧
      AnnouncedOnce (applyFetch .ccu noFloats {} (.sysvars (some [alarmVariable]))) := by
  have hmeets : Meets .ccu noFloats {} (.sysvars (some [alarmVariable])) := by
    rw [Meets, kept_alarmVariable]
    refine ⟨fun dp h => by simp at h, fun sysvar hmem _ hextended => ?_, .inr fun vid hempty => ?_⟩
    · obtain rfl := List.mem_singleton.mp hmem
      cases hextended
    · rw [keptDataPoint, if_neg hempty, Dict.get?_empty, List.filter_cons]
      split <;> trivial
  exact fetched_is_registered .init hmeets rfl

/-- After an empty fetch the programs are still registered. -/
theorem not_fetched_is_registered :
    ¬ ∀ s t : HubCoordinator Empty, ∀ fetch, (hub .ccu noFloats).Reach StepSystem.Free s →
      (hub .ccu noFloats).step s fetch = some t → Registered .ccu s t fetch := by
  intro h
  have hreach : (hub .ccu noFloats).Reach StepSystem.Free
      (applyFetch .ccu noFloats {} (.programs [morningProgram])) :=
    StepSystem.Reach.init.step trivial rfl
  have hregistered := h _ _ (.programs []) hreach rfl
  have hnone := (hregistered.1 "1234").mp rfl
  cases hnone

end AioHomematic.Model.Hub
