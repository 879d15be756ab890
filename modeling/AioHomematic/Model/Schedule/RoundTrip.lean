import AioHomematic.Model.Schedule.Group
import Mathlib.Tactic.NormNum

/-!
# The round trip of a schedule entry

What an entry says, whatever way it is written, and whether it says the same
once it has been encoded and decoded. `roundTrips_iff` is about the entries of
switches, lights, covers and valves.
-/

namespace AioHomematic.Model

open Lib

/-- What an entry says: days and channels in order and without repetitions, the time of day,
durations in steps of 100 ms, and no astro type where only the time counts. -/
@[ext] structure ScheduleRule where
  weekdays : List WeekdayInt
  time : Option (Nat × Nat)
  condition : ScheduleCondition
  astroType : Option AstroType
  astroOffsetMinutes : Int
  targetChannels : List ScheduleActorChannel
  level : Rat
  level2 : Option Rat
  duration : Option (Option Nat)
  rampTime : Option (Option Nat)
  lockMode : Option LockMode
  lockAction : Option LockAction
  permission : Option LockPermission
deriving DecidableEq

def EntryFields.rule (e : EntryFields) : ScheduleRule where
  weekdays := weekdayFlags.items.filter (· ∈ e.weekdays)
  time := convertTimeToHourMinute e.time
  condition := e.condition
  astroType := if e.condition = .fixedTime then none else e.astroType
  astroOffsetMinutes := e.astroOffsetMinutes
  targetChannels := channelFlags.items.filter (· ∈ e.targetChannels)
  level := e.level
  level2 := e.level2
  duration := e.duration.map durationIn100ms
  rampTime := e.rampTime.map durationIn100ms
  lockMode := e.lockMode
  lockAction := e.lockAction
  permission := e.permission

/-! ## The fields -/

theorem clamp_of_mem {low high x : Rat} (hlow : low ≤ x) (hhigh : x ≤ high) :
    clamp low high x = x := by
  rw [clamp, min_eq_right hhigh, max_eq_right hlow]

/-- The spelling that a duration is decoded to. -/
def recode (duration : String) : String :=
  match convertDurationToBaseFactor duration with
  | some (base, factor) => convertBaseFactorToDuration base factor
  | none => duration

theorem recode_of_isSome {duration : String}
    (h : (convertDurationToBaseFactor duration).isSome) :
    (convertDurationToBaseFactor (recode duration)).isSome ∧
      durationIn100ms (recode duration) = durationIn100ms duration := by
  obtain ⟨⟨base, factor⟩, hencode⟩ := Option.isSome_iff_exists.mp h
  obtain ⟨hfactor, htotal⟩ := of_convertDurationToBaseFactor hencode
  have hlt : factor < 32 := Nat.lt_of_le_of_lt hfactor (by decide)
  simp only [recode, hencode]
  rw [isSome_convertDurationToBaseFactor base hlt, durationIn100ms_duration base hlt, htotal]
  exact ⟨decide_eq_true hfactor, rfl⟩

/-- The encoded base and factor show the duration that was encoded. -/
theorem extractDuration_encoded {duration : Option String}
    (h : ∀ d ∈ duration, (convertDurationToBaseFactor d).isSome) :
    extractDuration ((duration.bind convertDurationToBaseFactor).map fun d => d.1.value)
      ((duration.bind convertDurationToBaseFactor).map fun d => (d.2 : Int)) =
      some (duration.map recode) := by
  cases duration with
  | none => rfl
  | some d =>
    obtain ⟨⟨base, factor⟩, hencode⟩ := Option.isSome_iff_exists.mp (h d rfl)
    simp [extractDuration, hencode, recode]

theorem map_durationIn100ms_recode {duration : Option String}
    (h : ∀ d ∈ duration, (convertDurationToBaseFactor d).isSome) :
    (duration.map recode).map durationIn100ms = duration.map durationIn100ms := by
  cases duration with
  | none => rfl
  | some d => exact congrArg some (recode_of_isSome (h d rfl)).2

/-! ## Domains other than locks -/

theorem lockMode_of_decodeFields {group : ScheduleGroup} {domain : Option ScheduleDomain}
    {e : EntryFields} (h : decodeFields group domain = some e) (hdomain : domain ≠ some .lock) :
    e.lockMode = none ∧ e.lockAction = none ∧ e.permission = none := by
  simp only [decodeFields, Option.bind_eq_some_iff, Option.map_eq_some_iff] at h
  obtain ⟨condition, -, astroType, -, duration, -, rampTime, -, rfl⟩ := h
  match domain, hdomain with
  | none, _ => exact ⟨rfl, rfl, rfl⟩
  | some .switch, _ => exact ⟨rfl, rfl, rfl⟩
  | some .light, _ => exact ⟨rfl, rfl, rfl⟩
  | some .cover, _ => exact ⟨rfl, rfl, rfl⟩
  | some .valve, _ => exact ⟨rfl, rfl, rfl⟩
  | some .lock, hlock => exact absurd rfl hlock

/-- The spelling that a time is decoded to. -/
def pad (time : String) : String :=
  match convertTimeToHourMinute time with
  | some (hour, minute) => convertHourMinuteToTime hour minute
  | none => time

theorem convertTimeToHourMinute_pad {time : String} (h : (convertTimeToHourMinute time).isSome) :
    convertTimeToHourMinute (pad time) = convertTimeToHourMinute time := by
  obtain ⟨⟨hour, minute⟩, htime⟩ := Option.isSome_iff_exists.mp h
  obtain ⟨hhour, hminute⟩ := convertTimeToHourMinute_lt htime
  simp only [pad, htime]
  exact convertTimeToHourMinute_time hhour hminute

/-- The fields that an entry of no lock comes back with. -/
def recoded (e : EntryFields) : EntryFields :=
  { e with
    time := pad e.time
    astroType := if e.condition = .fixedTime then none else e.astroType
    duration := e.duration.map recode
    rampTime := e.rampTime.map recode
    lockMode := none
    lockAction := none
    permission := none }

theorem accepted_recoded {e : EntryFields} (h : e.Accepted) : (recoded e).Accepted where
  weekdays := h.weekdays
  time := by
    have hpad := convertTimeToHourMinute_pad h.time
    simp only [recoded, hpad, h.time]
  astroOffset := h.astroOffset
  level := h.level
  level2 := h.level2
  duration := by
    intro d hd
    obtain ⟨d', hd', rfl⟩ := Option.map_eq_some_iff.mp hd
    exact (recode_of_isSome (h.duration d' hd')).1
  rampTime := by
    intro d hd
    obtain ⟨d', hd', rfl⟩ := Option.map_eq_some_iff.mp hd
    exact (recode_of_isSome (h.rampTime d' hd')).1
  astroType := by
    intro hcondition
    simp only [recoded] at hcondition ⊢
    rw [if_neg hcondition]
    exact h.astroType hcondition

theorem rule_recoded {e : EntryFields} (h : e.Accepted) :
    (recoded e).rule =
      { e.rule with lockMode := none, lockAction := none, permission := none } := by
  by_cases hcondition : e.condition = .fixedTime
  · simp only [EntryFields.rule, recoded, convertTimeToHourMinute_pad h.time, hcondition, if_true,
      map_durationIn100ms_recode h.duration, map_durationIn100ms_recode h.rampTime]
  · simp only [EntryFields.rule, recoded, convertTimeToHourMinute_pad h.time, hcondition, if_false,
      map_durationIn100ms_recode h.duration, map_durationIn100ms_recode h.rampTime]

theorem encoded_astroType {e : EntryFields} (h : e.Accepted) :
    (if e.condition = .fixedTime then none else some (e.astroType.getD .sunrise)) =
      if e.condition = .fixedTime then none else e.astroType := by
  split
  · rfl
  next hcondition =>
    obtain ⟨astroType, hastro⟩ := Option.isSome_iff_exists.mp (h.astroType hcondition)
    rw [hastro]
    rfl

theorem decodeFields_encoded (e : SimpleScheduleEntry) (hmode : e.lockMode = none)
    {domain : Option ScheduleDomain} (hdomain : domain ≠ some .lock) :
    decodeFields (convertSimpleEntryToRawGroup e) domain =
      some (dropUnsupported domain (recoded e.toEntryFields)) := by
  have haccepted := EntryFields.accepted_iff.mp e.accepted
  have hduration := extractDuration_encoded haccepted.duration
  have hramp := extractDuration_encoded haccepted.rampTime
  obtain ⟨⟨hour, minute⟩, htime⟩ := Option.isSome_iff_exists.mp haccepted.time
  have hlevel := clamp_of_mem haccepted.level.1 haccepted.level.2
  have hlevel2 : e.level2.map (clamp 0 1) = e.level2 := by
    cases hvalue : e.level2 with
    | none => rfl
    | some level2 =>
      obtain ⟨hlow, hhigh⟩ := haccepted.level2 level2 hvalue
      exact congrArg some (clamp_of_mem hlow hhigh)
  have hpad : pad e.time = convertHourMinuteToTime hour minute := by
    simp only [pad, htime]
  simp only [decodeFields, convertSimpleEntryToRawGroup, encodeOutput, hmode, Option.map_map,
    Function.comp_def, hduration, hramp, htime, Option.getD_some, ScheduleCondition.ofValue?_value,
    AstroType.ofValue?_value, Option.bind_some, Option.map_some, if_neg hdomain, hlevel, hlevel2,
    weekdaysOrMonday_of_ne haccepted.weekdays, encoded_astroType haccepted, reduceCtorEq, if_false,
    recoded, hpad]

theorem dropUnsupported_recoded {e : EntryFields} {domain : ScheduleDomain}
    (h : e.acceptedBy domain = true) (hlock : domain ≠ .lock) :
    dropUnsupported (some domain) (recoded e) = recoded e := by
  cases domain with
  | switch =>
    simp only [EntryFields.acceptedBy, Bool.and_eq_true, Option.isNone_iff_eq_none] at h
    simp [dropUnsupported, recoded, h]
  | light =>
    simp only [EntryFields.acceptedBy, Option.isNone_iff_eq_none] at h
    simp [dropUnsupported, recoded, h]
  | cover =>
    simp only [EntryFields.acceptedBy, Bool.and_eq_true, Option.isNone_iff_eq_none] at h
    simp [dropUnsupported, recoded, h]
  | valve =>
    simp only [EntryFields.acceptedBy, Bool.and_eq_true, Option.isNone_iff_eq_none] at h
    simp [dropUnsupported, recoded, h]
  | lock => exact absurd rfl hlock

/-- An entry says the same once it has been encoded and decoded. -/
def RoundTrips (e : SimpleScheduleEntry) (domain : Option ScheduleDomain) : Prop :=
  ∃ e', convertRawGroupToSimpleEntry (convertSimpleEntryToRawGroup e) domain = some e' ∧
    e'.rule = e.rule ∧ e'.targetChannels = e.targetChannels

/-- Whether the domain is given to the decoder or not, an entry comes back unless it has one of the
fields of a lock. -/
theorem roundTrips_iff (e : SimpleScheduleEntry) {domain : ScheduleDomain} (hlock : domain ≠ .lock)
    (haccepted : e.acceptedBy domain = true) {given : Option ScheduleDomain}
    (hgiven : given = none ∨ given = some domain) :
    RoundTrips e given ↔ e.lockMode = none ∧ e.lockAction = none ∧ e.permission = none := by
  have hdecoder : given ≠ some .lock := by
    obtain rfl | rfl := hgiven
    · exact nofun
    · exact fun h => hlock (Option.some.inj h)
  constructor
  · rintro ⟨e', hdecode, hrule, -⟩
    obtain ⟨fields, hfields, hentry⟩ := Option.bind_eq_some_iff.mp hdecode
    obtain ⟨hmode, haction, hpermission⟩ := lockMode_of_decodeFields hfields hdecoder
    rw [SimpleScheduleEntry.of_ofFields? hentry] at hrule
    exact ⟨(congrArg (·.lockMode) hrule).symm.trans hmode,
      (congrArg (·.lockAction) hrule).symm.trans haction,
      (congrArg (·.permission) hrule).symm.trans hpermission⟩
  · rintro ⟨hmode, haction, hpermission⟩
    have haccepts := EntryFields.accepted_iff.mp e.accepted
    have hdrop : dropUnsupported given (recoded e.toEntryFields) = recoded e.toEntryFields := by
      obtain rfl | rfl := hgiven
      · rfl
      · exact dropUnsupported_recoded haccepted hlock
    have hfields : decodeFields (convertSimpleEntryToRawGroup e) given =
        some (recoded e.toEntryFields) := hdrop ▸ decodeFields_encoded e hmode hdecoder
    obtain ⟨e', hentry⟩ := Option.isSome_iff_exists.mp
      (SimpleScheduleEntry.isSome_ofFields?.mpr (accepted_recoded haccepts))
    refine ⟨e', ?_, ?_, ?_⟩
    · rw [convertRawGroupToSimpleEntry, hfields, Option.bind_some, hentry]
    · rw [SimpleScheduleEntry.of_ofFields? hentry, rule_recoded haccepts, ← hmode, ← haction,
        ← hpermission]
      rfl
    · rw [SimpleScheduleEntry.of_ofFields? hentry]
      rfl

def dimmed : SimpleScheduleEntry where
  weekdays := [.friday, .monday, .friday]
  time := "7:30"
  condition := .astroIfBeforeFixed
  astroType := some .sunset
  astroOffsetMinutes := -30
  targetChannels := [⟨1, 0⟩, ⟨0, 2⟩]
  level := 0.4
  duration := some "60 s"
  rampTime := some "500ms"
  accepted := by decide +kernel

theorem roundTrips_iff_dimmed : RoundTrips dimmed (some .light) ↔
    dimmed.lockMode = none ∧ dimmed.lockAction = none ∧ dimmed.permission = none :=
  roundTrips_iff dimmed (by decide) (by decide) (.inr rfl)

/-- An entry of a switch that has fields of a lock. -/
def lockedSwitch : SimpleScheduleEntry where
  weekdays := [.monday]
  time := "07:30"
  targetChannels := [⟨0, 0⟩]
  level := 1
  lockMode := some .doorLock
  lockAction := some .lockAutorelockEnd
  accepted := by decide +kernel

/-- The duration of the action is not accepted, so the entry cannot be decoded. -/
theorem not_roundTrips : lockedSwitch.acceptedBy .switch = true ∧
    ¬ RoundTrips lockedSwitch none := by
  have hdecode : convertRawGroupToSimpleEntry (convertSimpleEntryToRawGroup lockedSwitch) none =
      none := by
    decide +kernel
  refine ⟨by decide, ?_⟩
  rintro ⟨e', hentry, -⟩
  exact absurd (hdecode.symm.trans hentry) nofun

end AioHomematic.Model
