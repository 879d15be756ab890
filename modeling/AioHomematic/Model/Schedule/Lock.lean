import AioHomematic.Model.Schedule.RoundTrip

/-!
# The round trip of a lock entry

The decoder takes the mode of a lock entry from its target channels and the
action or the permission from its level and duration. `lockRoundTrips_iff` says
which entries come back with the mode that they had.
-/

namespace AioHomematic.Model

open Lib

theorem startsWith_text (c : ScheduleActorChannel) :
    startsWith c.text "1_" = decide (c.actor = 0) := by
  have hall : ∀ actor channel, startsWith (ScheduleActorChannel.text ⟨actor, channel⟩) "1_" =
      decide (actor = 0) := by
    decide
  exact hall c.actor c.channel

theorem detectLockMode_eq_doorLock {targetChannels : List ScheduleActorChannel} :
    detectLockMode targetChannels = .doorLock ↔ ∃ c ∈ targetChannels, c.actor = 0 := by
  rw [detectLockMode]
  split
  next hany =>
    rw [List.any_eq_true] at hany
    obtain ⟨c, hc, hstarts⟩ := hany
    rw [startsWith_text, decide_eq_true_eq] at hstarts
    exact iff_of_true rfl ⟨c, hc, hstarts⟩
  next hany =>
    refine iff_of_false nofun ?_
    rintro ⟨c, hc, hactor⟩
    refine hany (List.any_eq_true.mpr ⟨c, hc, ?_⟩)
    rw [startsWith_text, hactor]
    rfl

theorem clamp_raw (action : LockAction) : clamp 0 1.01 action.raw.1 = action.raw.1 := by
  cases action <;> decide +kernel

theorem clamp_level (permission : LockPermission) :
    clamp 0 1.01 permission.level = permission.level := by
  cases permission <;> decide +kernel

@[simp] theorem detectLockAction_raw (action : LockAction) :
    detectLockAction action.raw.1 action.raw.2.1.value action.raw.2.2 = action := by
  cases action <;> decide +kernel

@[simp] theorem detectLockPermission_level (permission : LockPermission) :
    detectLockPermission permission.level = permission := by
  cases permission <;> decide +kernel

/-- What an accepted lock entry says beyond its days and time. -/
inductive LockOutput (e : EntryFields) : Prop where
  | doorLock (action : LockAction) (mode : e.lockMode = some .doorLock)
      (action_eq : e.lockAction = some action) (permission : e.permission = none)
  | userPermission (permission : LockPermission) (mode : e.lockMode = some .userPermission)
      (action : e.lockAction = none) (permission_eq : e.permission = some permission)

theorem lockOutput_of_accepted {e : EntryFields} (h : e.acceptedBy .lock = true) :
    LockOutput e := by
  simp only [EntryFields.acceptedBy, Bool.and_eq_true] at h
  obtain ⟨⟨⟨hmode, -⟩, -⟩, -⟩ := h
  split at hmode
  · cases hmode
  next hlock =>
    rw [Bool.and_eq_true, Option.isSome_iff_exists, Option.isNone_iff_eq_none] at hmode
    obtain ⟨⟨action, haction⟩, hpermission⟩ := hmode
    exact .doorLock action hlock haction hpermission
  next hlock =>
    rw [Bool.and_eq_true, Option.isSome_iff_exists, Option.isNone_iff_eq_none] at hmode
    obtain ⟨⟨permission, hpermission⟩, haction⟩ := hmode
    exact .userPermission permission hlock haction hpermission

/-- The level that is written for a lock entry, and what is shown as its action. -/
def decodedLock (e : EntryFields) : EntryFields :=
  let level := ((encodeOutput e).1).getD 0
  let mode := detectLockMode e.targetChannels
  { weekdays := e.weekdays
    time := pad e.time
    condition := e.condition
    astroType := if e.condition = .fixedTime then none else e.astroType
    astroOffsetMinutes := e.astroOffsetMinutes
    targetChannels := e.targetChannels
    level
    lockMode := some mode
    lockAction := if mode = .doorLock then
        some (detectLockAction level (((encodeOutput e).2.map fun d => d.1.value).getD 7)
          (((encodeOutput e).2.map fun d => d.2).getD 31))
      else none
    permission := if mode = .userPermission then some (detectLockPermission level) else none }

theorem level_encodeOutput {e : EntryFields} (h : LockOutput e) :
    ∃ level, (encodeOutput e).1 = some level ∧ clamp 0 1.01 level = level ∧
      0 ≤ level ∧ level ≤ 1.01 := by
  cases h with
  | doorLock action hmode haction =>
    refine ⟨action.raw.1, by simp [encodeOutput, hmode, haction], clamp_raw action, ?_⟩
    cases action <;> decide +kernel
  | userPermission permission hmode _ hpermission =>
    refine ⟨permission.level, by simp [encodeOutput, hmode, hpermission],
      clamp_level permission, ?_⟩
    cases permission <;> decide +kernel

theorem decodeFields_lock (e : SimpleScheduleEntry) (h : e.acceptedBy .lock = true) :
    decodeFields (convertSimpleEntryToRawGroup e) (some .lock) =
      some (decodedLock e.toEntryFields) := by
  have haccepted := EntryFields.accepted_iff.mp e.accepted
  obtain ⟨level, hlevel, hclamp, -⟩ := level_encodeOutput (lockOutput_of_accepted h)
  obtain ⟨⟨hour, minute⟩, htime⟩ := Option.isSome_iff_exists.mp haccepted.time
  have hpad : pad e.time = convertHourMinuteToTime hour minute := by
    simp only [pad, htime]
  have hramp : e.rampTime = none := by
    simp only [EntryFields.acceptedBy, Bool.and_eq_true, Option.isNone_iff_eq_none] at h
    exact h.1.2
  simp only [decodeFields, convertSimpleEntryToRawGroup, hlevel, htime, hramp, hclamp,
    Option.getD_some, Option.bind_none, Option.map_none, Option.bind_some, Option.map_some,
    ScheduleCondition.ofValue?_value, AstroType.ofValue?_value, if_true, extractDuration,
    weekdaysOrMonday_of_ne haccepted.weekdays, encoded_astroType haccepted, Option.some.injEq,
    dropUnsupported, decodedLock, hpad]

theorem accepted_decodedLock {e : EntryFields} (h : e.Accepted) (houtput : LockOutput e) :
    (decodedLock e).Accepted where
  weekdays := h.weekdays
  time := by
    have hpad := convertTimeToHourMinute_pad h.time
    simp only [decodedLock, hpad, h.time]
  astroOffset := h.astroOffset
  level := by
    obtain ⟨level, hlevel, -, hrange⟩ := level_encodeOutput houtput
    simp only [decodedLock, hlevel]
    exact hrange
  level2 := nofun
  duration := nofun
  rampTime := nofun
  astroType := by
    intro hcondition
    simp only [decodedLock] at hcondition ⊢
    rw [if_neg hcondition]
    exact h.astroType hcondition

/-- A lock entry has the same mode, action, permission and channels once it has been encoded and
decoded. -/
def LockRoundTrips (e : SimpleScheduleEntry) : Prop :=
  ∃ e', convertRawGroupToSimpleEntry (convertSimpleEntryToRawGroup e) (some .lock) = some e' ∧
    e'.lockMode = e.lockMode ∧ e'.lockAction = e.lockAction ∧ e'.permission = e.permission ∧
    e'.targetChannels = e.targetChannels

theorem lockRoundTrips_iff (e : SimpleScheduleEntry) (h : e.acceptedBy .lock = true) :
    LockRoundTrips e ↔ (e.lockMode = some .doorLock ↔ ∃ c ∈ e.targetChannels, c.actor = 0) := by
  have houtput := lockOutput_of_accepted h
  have haccepted := accepted_decodedLock (EntryFields.accepted_iff.mp e.accepted) houtput
  obtain ⟨e', hentry⟩ := Option.isSome_iff_exists.mp
    (SimpleScheduleEntry.isSome_ofFields?.mpr haccepted)
  have hdecode : convertRawGroupToSimpleEntry (convertSimpleEntryToRawGroup e) (some .lock) =
      some e' := by
    rw [convertRawGroupToSimpleEntry, decodeFields_lock e h, Option.bind_some, hentry]
  have hfields := SimpleScheduleEntry.of_ofFields? hentry
  rw [← detectLockMode_eq_doorLock]
  constructor
  · rintro ⟨e'', hdecode', hmode, -⟩
    obtain rfl := Option.some.inj (hdecode.symm.trans hdecode')
    rw [← hmode, hfields]
    exact ⟨Option.some.inj, congrArg some⟩
  · intro hmode
    refine ⟨e', hdecode, ?_⟩
    rw [hfields]
    cases houtput with
    | doorLock action hlock haction hpermission =>
      have hdetect := hmode.mp hlock
      simp [decodedLock, hdetect, hlock, haction, hpermission, encodeOutput]
    | userPermission permission hlock haction hpermission =>
      have hdetect : detectLockMode e.targetChannels = .userPermission := by
        cases hd : detectLockMode e.targetChannels with
        | doorLock => exact absurd ((hmode.mpr hd).symm.trans hlock) (by decide)
        | userPermission => rfl
      simp [decodedLock, hdetect, hlock, haction, hpermission, encodeOutput]

def locked : SimpleScheduleEntry where
  weekdays := [.monday]
  time := "22:00"
  targetChannels := lockedSwitch.targetChannels
  level := 0
  lockMode := some .doorLock
  lockAction := some .autorelockEnd
  accepted := by decide +kernel

theorem lockRoundTrips_iff_locked : LockRoundTrips locked ↔
    (locked.lockMode = some .doorLock ↔ ∃ c ∈ locked.targetChannels, c.actor = 0) :=
  lockRoundTrips_iff locked (by decide)

/-- A door-lock action without target channels, which the device chooses by itself then. -/
def lockedAnywhere : SimpleScheduleEntry where
  weekdays := [.monday]
  time := "22:00"
  level := 0
  lockMode := some .doorLock
  lockAction := some .unlockAutorelockEnd
  accepted := by decide +kernel

/-- It comes back as a permission. -/
theorem not_lockRoundTrips : lockedAnywhere.acceptedBy .lock = true ∧
    ¬ LockRoundTrips lockedAnywhere := by
  have hdecode : (convertRawGroupToSimpleEntry (convertSimpleEntryToRawGroup lockedAnywhere)
      (some .lock)).map (·.lockMode) = some (some .userPermission) := by
    decide +kernel
  refine ⟨by decide, ?_⟩
  rintro ⟨e', hentry, hmode, -⟩
  rw [hentry] at hdecode
  exact absurd ((Option.some.inj hdecode).symm.trans hmode) (by decide)

end AioHomematic.Model
