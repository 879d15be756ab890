import AioHomematic.Model.WeekProfile.Default.Read

/-!
# What a device stores of a schedule

`put_paramset` changes only what is sent: fields that an entry leaves unset, and
fields that the device does not advertise, are not. A group that is read again
has the fields that were sent and, for the others, what the device had.
-/

namespace AioHomematic.Model

open Lib Support

/-- A field is sent if the device advertises it, or nothing is known of the device. -/
def Sends (supportedFields : List ScheduleField) (field : ScheduleField) : Prop :=
  supportedFields = [] ∨ field ∈ supportedFields

instance (supportedFields : List ScheduleField) (field : ScheduleField) :
    Decidable (Sends supportedFields field) :=
  inferInstanceAs (Decidable (_ ∨ _))

/-- The schedule parameters of a device have the names that the CCU gives them, and it advertises
their fields. -/
def OnDevice (supportedFields : List ScheduleField) (paramset : Dict String Rat) : Prop :=
  ∀ key ∈ paramset.keys, (matchSchedulePattern key).isSome → ∀ parsed ∈ parseKey key,
    Sends supportedFields parsed.2 ∧
      (isGroupNo parsed.1 = true → key = scheduleKey parsed.1 parsed.2)

instance (supportedFields : List ScheduleField) (paramset : Dict String Rat) :
    Decidable (OnDevice supportedFields paramset) :=
  inferInstanceAs (Decidable (∀ key ∈ paramset.keys, _))

variable {supportedFields : List ScheduleField} {previous : Dict String Rat} {s : SimpleSchedule}
  {domain : ScheduleDomain} {groupNo : Int} {field : ScheduleField}

/-! ## What is stored -/

theorem get?_convertScheduleEntries (hgroup : isGroupNo groupNo = true) (d : Dict String Rat) :
    (convertScheduleEntries d).get? (scheduleKey groupNo field) =
      d.get? (scheduleKey groupNo field) := by
  rw [convertScheduleEntries, Dict.get?_filterKeys, matchSchedulePattern_scheduleKey hgroup]
  rfl

theorem get?_sentValues (hgroup : isGroupNo groupNo = true) :
    (sentValues supportedFields s).get? (scheduleKey groupNo field) =
      if Sends supportedFields field then convertedValue s groupNo field else none := by
  rw [sentValues, filterRawScheduleBySupportedFields]
  split
  next hempty =>
    rw [get?_convertScheduleEntries hgroup, get?_convertDictToRawSchedule hgroup,
      if_pos (.inl hempty)]
  next hne =>
    rw [Dict.get?_filterKeys, get?_convertScheduleEntries hgroup,
      get?_convertDictToRawSchedule hgroup, matchSchedulePattern_scheduleKey hgroup,
      Option.bind_some, ofName?_name]
    simp [Sends, hne]

/-- Only parameters of groups from 1 to 24 are sent. -/
theorem key_of_sentValues {key : String} (h : key ∈ (sentValues supportedFields s).keys) :
    ∃ groupNo field, isGroupNo groupNo = true ∧ key = scheduleKey groupNo field := by
  obtain ⟨value, hvalue⟩ := Dict.mem_keys.mp h
  have hconverted : (convertScheduleEntries (convertDictToRawSchedule s)).get? key =
      some value := by
    rw [sentValues, filterRawScheduleBySupportedFields] at hvalue
    split at hvalue
    · exact hvalue
    · rw [Dict.get?_filterKeys, Option.ite_none_right_eq_some] at hvalue
      exact hvalue.2
  rw [convertScheduleEntries, Dict.get?_filterKeys, Option.ite_none_right_eq_some] at hconverted
  exact key_of_convertDictToRawSchedule hconverted.2

/-- The schedule that is read after it was written. -/
def rereadSchedule (supportedFields : List ScheduleField) (previous : Dict String Rat)
    (s : SimpleSchedule) : Dict String Rat :=
  convertScheduleEntries (setSchedule supportedFields previous s)

theorem fieldValue_eq_get? {rawSchedule : Dict String Rat} (hgroup : isGroupNo groupNo = true)
    (h : ∀ key ∈ rawSchedule.keys, parseKey key = some (groupNo, field) →
      key = scheduleKey groupNo field) :
    fieldValue rawSchedule groupNo field = rawSchedule.get? (scheduleKey groupNo field) := by
  have hfilter : ∀ e ∈ rawSchedule.entries,
      decide (parseKey e.1 = some (groupNo, field)) = decide (e.1 = scheduleKey groupNo field) := by
    intro e he
    refine decide_eq_decide.mpr ⟨h e.1 (List.mem_map_of_mem he), fun heq => ?_⟩
    rw [heq]
    exact parseKey_scheduleKey hgroup
  rw [fieldValue, List.filter_congr hfilter]
  exact Dict.getLast?_filter_entries rawSchedule _

theorem mem_keys_merge {key : String} {d d' : Dict String Rat} (h : key ∈ (d.merge d').keys) :
    key ∈ d.keys ∨ key ∈ d'.keys := by
  obtain ⟨value, hvalue⟩ := Dict.mem_keys.mp h
  rw [Dict.get?_merge] at hvalue
  cases hd' : d'.get? key with
  | some value' => exact .inr (Dict.mem_keys.mpr ⟨value', hd'⟩)
  | none =>
    rw [hd', Option.none_or] at hvalue
    exact .inl (Dict.mem_keys.mpr ⟨value, hvalue⟩)

/-- What a field of a group from 1 to 24 has after the schedule was written. -/
def storedValue (supportedFields : List ScheduleField) (previous : Dict String Rat)
    (s : SimpleSchedule) (groupNo : Int) (field : ScheduleField) : Option Rat :=
  if Sends supportedFields field then
    (convertedValue s groupNo field).or (previous.get? (scheduleKey groupNo field))
  else none

theorem get?_of_not_sends (hdevice : OnDevice supportedFields previous)
    (hgroup : isGroupNo groupNo = true) (hsends : ¬ Sends supportedFields field) :
    previous.get? (scheduleKey groupNo field) = none := by
  rw [Dict.get?_eq_none]
  intro hmem
  refine hsends (hdevice _ hmem ?_ (groupNo, field) (parseKey_scheduleKey hgroup)).1
  rw [matchSchedulePattern_scheduleKey hgroup]
  rfl

theorem fieldValue_reread (hdevice : OnDevice supportedFields previous)
    (hgroup : isGroupNo groupNo = true) :
    fieldValue (rereadSchedule supportedFields previous s) groupNo field =
      storedValue supportedFields previous s groupNo field := by
  rw [fieldValue_eq_get? hgroup, rereadSchedule, get?_convertScheduleEntries hgroup, setSchedule,
    Dict.get?_merge, get?_sentValues hgroup, storedValue]
  · split
    · rfl
    next hsends =>
      rw [Option.none_or]
      exact get?_of_not_sends hdevice hgroup hsends
  · intro key hkey hparse
    obtain ⟨value, hvalue⟩ := Dict.mem_keys.mp hkey
    rw [rereadSchedule, convertScheduleEntries, Dict.get?_filterKeys,
      Option.ite_none_right_eq_some] at hvalue
    obtain hprevious | hsent := mem_keys_merge (Dict.mem_keys.mpr ⟨value, hvalue.2⟩)
    · exact (hdevice key hprevious hvalue.1 (groupNo, field) hparse).2 hgroup
    · obtain ⟨groupNo', field', hgroup', rfl⟩ := key_of_sentValues hsent
      rw [parseKey_scheduleKey hgroup', Option.some.injEq, Prod.mk.injEq] at hparse
      rw [hparse.1, hparse.2]

/-- Other groups have what they had. -/
theorem fieldValue_reread_of_not (hgroup : isGroupNo groupNo = false) :
    fieldValue (rereadSchedule supportedFields previous s) groupNo field =
      fieldValue (convertScheduleEntries previous) groupNo field := by
  have hsent : ∀ key ∈ (sentValues supportedFields s).keys,
      (decide (parseKey key = some (groupNo, field)) && (matchSchedulePattern key).isSome) =
        false := by
    intro key hkey
    obtain ⟨groupNo', field', hgroup', rfl⟩ := key_of_sentValues hkey
    rw [Bool.and_eq_false_iff, decide_eq_false_iff_not, parseKey_scheduleKey hgroup',
      Option.some.injEq, Prod.mk.injEq]
    refine .inl ?_
    rintro ⟨rfl, -⟩
    exact absurd (hgroup.symm.trans hgroup') nofun
  have hmerge := Dict.filter_entries_merge
    (p := fun key => decide (parseKey key = some (groupNo, field)) &&
      (matchSchedulePattern key).isSome) previous hsent
  simp only [fieldValue, rereadSchedule, convertScheduleEntries, Dict.filterKeys, setSchedule]
  rw [List.filter_filter, List.filter_filter, hmerge]

/-! ## The group of an entry -/

/-- A value as it comes back: lists in order and without repetitions. -/
def canonicalValue : (field : ScheduleField) → field.Value → field.Value
  | .weekday, weekdays => weekdayFlags.items.filter (· ∈ weekdays)
  | .targetChannels, channels => channelFlags.items.filter (· ∈ channels)
  | _, value => value

theorem convertRawScheduleValue_raw (field : ScheduleField) (value : field.Value) :
    convertRawScheduleValue (rawScheduleValue field value) field = canonicalValue field value := by
  have hnat : ∀ n : Nat, truncate (n : Rat) = n := fun n => truncate_intCast n
  cases field with
  | weekday =>
    simp only [convertRawScheduleValue, rawScheduleValue, hnat]
    exact Flags.ofMask_toMask value
  | targetChannels =>
    simp only [convertRawScheduleValue, rawScheduleValue, hnat]
    exact Flags.ofMask_toMask value
  | level => rfl
  | level2 => rfl
  | _ => exact truncate_intCast value

variable {entry : SimpleScheduleEntry}

theorem groupOf_reread (hdevice : OnDevice supportedFields previous)
    (hentry : s.entries.get? groupNo = some entry) (field : ScheduleField) :
    groupOf (rereadSchedule supportedFields previous s) groupNo field =
      match convertSimpleEntryToRawGroup entry field with
      | some value =>
        if Sends supportedFields field then some (canonicalValue field value) else none
      | none =>
        (previous.get? (scheduleKey groupNo field)).map (convertRawScheduleValue · field) := by
  have hgroup := isGroupNo_of_get? hentry
  rw [groupOf, fieldValue_reread hdevice hgroup, storedValue]
  simp only [convertedValue, hentry]
  cases convertSimpleEntryToRawGroup entry field with
  | some value =>
    dsimp only [Option.map_some]
    split
    · exact congrArg some (convertRawScheduleValue_raw field value)
    · rfl
  | none =>
    dsimp only [Option.map_none]
    split
    · rw [Option.none_or]
    next hsends => rw [get?_of_not_sends hdevice hgroup hsends]

end AioHomematic.Model

/-!
## Writing a schedule and reading it back

`readsBack_iff` says which schedules are read as they were written, whatever the
device had before: an entry comes back unless a field that it leaves unset shows
what the device had, or a field that it sets is not sent.
-/

namespace AioHomematic.Model

open Lib Support

/-! ## One entry -/

/-- What the device had of a field. -/
def leftValue (previous : Dict String Rat) (groupNo : Int) (field : ScheduleField) : Option Int :=
  (previous.get? (scheduleKey groupNo field)).map truncate

/-- A duration that is set is sent, and one that is unset shows nothing of what the device had. -/
def DurationRestored (supportedFields : List ScheduleField) (previous : Dict String Rat)
    (groupNo : Int) (base factor : ScheduleField) (keeps : Bool) : Option String → Prop
  | some _ => Sends supportedFields base ∧ Sends supportedFields factor
  | none =>
    ∀ b ∈ leftValue previous groupNo base, (leftValue previous groupNo factor).isSome →
      keeps = false ∧ (TimeBase.ofValue? b).isSome

/-- What is sent of an entry, and what the device had, make the entry. -/
structure Restored (supportedFields : List ScheduleField) (previous : Dict String Rat)
    (domain : ScheduleDomain) (groupNo : Int) (e : EntryFields) : Prop where
  lock : e.lockMode = none ∧ e.lockAction = none ∧ e.permission = none
  weekday : Sends supportedFields .weekday
  time : ∀ hour minute, convertTimeToHourMinute e.time = some (hour, minute) →
    (Sends supportedFields .fixedHour ∨ hour = 0) ∧
      (Sends supportedFields .fixedMinute ∨ minute = 0)
  condition : Sends supportedFields .condition ∨ e.condition = .fixedTime
  astroType : Sends supportedFields .astroType ∨ e.condition = .fixedTime ∨
    e.astroType = some .sunrise
  astroOffset : Sends supportedFields .astroOffset ∨ e.astroOffsetMinutes = 0
  targetChannels : Sends supportedFields .targetChannels ∨ e.targetChannels = []
  level : Sends supportedFields .level ∨ e.level = 0
  level2 : if e.level2.isSome then Sends supportedFields .level2
    else keepsLevel2 (some domain) = true → previous.get? (scheduleKey groupNo .level2) = none
  duration : DurationRestored supportedFields previous groupNo .durationBase .durationFactor
    (keepsDuration (some domain)) e.duration
  rampTime : DurationRestored supportedFields previous groupNo .rampTimeBase .rampTimeFactor
    (keepsRampTime (some domain)) e.rampTime

/-- What is read of an entry that was written. -/
def readFields (supportedFields : List ScheduleField) (e : EntryFields) (hour minute : Nat)
    (level2 : Option Rat) (duration rampTime : Option String) : EntryFields :=
  let condition := if Sends supportedFields .condition then e.condition else .fixedTime
  let astroType := if Sends supportedFields .astroType then e.astroType.getD .sunrise else .sunrise
  { weekdays := weekdayFlags.items.filter (· ∈ e.weekdays)
    time := convertHourMinuteToTime
      (if Sends supportedFields .fixedHour then hour else 0 : Nat)
      (if Sends supportedFields .fixedMinute then minute else 0 : Nat)
    condition
    astroType := if condition = .fixedTime then none else some astroType
    astroOffsetMinutes := if Sends supportedFields .astroOffset then e.astroOffsetMinutes else 0
    targetChannels := if Sends supportedFields .targetChannels then
        channelFlags.items.filter (· ∈ e.targetChannels)
      else []
    level := if Sends supportedFields .level then e.level else 0
    level2
    duration
    rampTime }

variable {supportedFields : List ScheduleField} {previous : Dict String Rat} {s : SimpleSchedule}
  {domain : ScheduleDomain} {groupNo : Int} {entry : SimpleScheduleEntry}

/-- The duration of a group that was written. -/
def storedDuration (supportedFields : List ScheduleField) (previous : Dict String Rat)
    (groupNo : Int) (base factor : ScheduleField) : Option String → Option (Option String)
  | some duration =>
    if Sends supportedFields base ∧ Sends supportedFields factor then some (some (recode duration))
    else some none
  | none => extractDuration (leftValue previous groupNo base) (leftValue previous groupNo factor)

theorem extractDuration_none_right (base : Option Int) : extractDuration base none = some none := by
  cases base <;> rfl

theorem extractDuration_stored {base factor : ScheduleField} {duration : Option String}
    {b f : Option Int} (haccepted : ∀ d ∈ duration, (convertDurationToBaseFactor d).isSome)
    (hset : ∀ d ∈ duration, ∀ x n, convertDurationToBaseFactor d = some (x, n) →
      b = (if Sends supportedFields base then some x.value else none) ∧
        f = if Sends supportedFields factor then some (n : Int) else none)
    (hunset : duration = none → b = leftValue previous groupNo base ∧
      f = leftValue previous groupNo factor) :
    extractDuration b f =
      storedDuration supportedFields previous groupNo base factor duration := by
  cases duration with
  | none =>
    obtain ⟨rfl, rfl⟩ := hunset rfl
    rfl
  | some d =>
    obtain ⟨⟨x, n⟩, hencode⟩ := Option.isSome_iff_exists.mp (haccepted d rfl)
    obtain ⟨rfl, rfl⟩ := hset d rfl x n hencode
    rw [storedDuration]
    by_cases hfactor : Sends supportedFields factor
    · by_cases hbase : Sends supportedFields base
      · simp [extractDuration, hbase, hfactor, recode, hencode]
      · simp [extractDuration, hbase, hfactor]
    · simp only [hfactor, and_false, if_false]
      exact extractDuration_none_right _

section

variable (hdevice : OnDevice supportedFields previous)
  (hentry : s.entries.get? groupNo = some entry)

include hdevice hentry

theorem extractDuration_reread (hmode : entry.lockMode = none) :
    extractDuration (groupOf (rereadSchedule supportedFields previous s) groupNo .durationBase)
        (groupOf (rereadSchedule supportedFields previous s) groupNo .durationFactor) =
      storedDuration supportedFields previous groupNo .durationBase .durationFactor
        entry.duration := by
  have hbase := groupOf_reread hdevice hentry .durationBase
  have hfactor := groupOf_reread hdevice hentry .durationFactor
  simp only [convertSimpleEntryToRawGroup, encodeOutput, hmode] at hbase hfactor
  refine extractDuration_stored (EntryFields.accepted_iff.mp entry.accepted).duration ?_ ?_
  · intro d hd x n hencode
    rw [Option.mem_def] at hd
    rw [hbase, hfactor, hd, Option.bind_some, hencode]
    exact ⟨rfl, rfl⟩
  · intro hnone
    rw [hbase, hfactor, hnone]
    exact ⟨rfl, rfl⟩

theorem extractRampTime_reread :
    extractDuration (groupOf (rereadSchedule supportedFields previous s) groupNo .rampTimeBase)
        (groupOf (rereadSchedule supportedFields previous s) groupNo .rampTimeFactor) =
      storedDuration supportedFields previous groupNo .rampTimeBase .rampTimeFactor
        entry.rampTime := by
  have hbase := groupOf_reread hdevice hentry .rampTimeBase
  have hfactor := groupOf_reread hdevice hentry .rampTimeFactor
  simp only [convertSimpleEntryToRawGroup] at hbase hfactor
  refine extractDuration_stored (EntryFields.accepted_iff.mp entry.accepted).rampTime ?_ ?_
  · intro d hd x n hencode
    rw [Option.mem_def] at hd
    rw [hbase, hfactor, hd, Option.bind_some, hencode]
    exact ⟨rfl, rfl⟩
  · intro hnone
    rw [hbase, hfactor, hnone]
    exact ⟨rfl, rfl⟩

/-- The second level of a group that was written. -/
def storedLevel2 (supportedFields : List ScheduleField) (previous : Dict String Rat)
    (groupNo : Int) : Option Rat → Option Rat
  | some level2 => if Sends supportedFields .level2 then some level2 else none
  | none => previous.get? (scheduleKey groupNo .level2)

theorem decodeFields_reread (hmode : entry.lockMode = none) (hlock : domain ≠ .lock)
    (hweekday : Sends supportedFields .weekday) {hour minute : Nat}
    (htime : convertTimeToHourMinute entry.time = some (hour, minute)) :
    decodeFields (groupOf (rereadSchedule supportedFields previous s) groupNo) (some domain) =
      (storedDuration supportedFields previous groupNo .durationBase .durationFactor
        entry.duration).bind fun duration =>
      (storedDuration supportedFields previous groupNo .rampTimeBase .rampTimeFactor
        entry.rampTime).map fun rampTime =>
      dropUnsupported (some domain) (readFields supportedFields entry.toEntryFields hour minute
        ((storedLevel2 supportedFields previous groupNo entry.level2).map (clamp 0 1))
        duration rampTime) := by
  have hget := groupOf_reread hdevice hentry
  have hduration := extractDuration_reread hdevice hentry hmode
  have hramp := extractRampTime_reread hdevice hentry
  have haccepted := EntryFields.accepted_iff.mp entry.accepted
  generalize groupOf (rereadSchedule supportedFields previous s) groupNo = group at *
  have hdays : weekdaysOrMonday ((group .weekday).getD []) =
      weekdayFlags.items.filter (· ∈ entry.weekdays) := by
    rw [hget .weekday, convertSimpleEntryToRawGroup]
    dsimp only
    rw [if_pos hweekday]
    exact weekdaysOrMonday_of_ne (mt Flags.filter_items_eq_nil.mp haccepted.weekdays)
  have hhour : (group .fixedHour).getD 0 =
      (if Sends supportedFields .fixedHour then hour else 0 : Nat) := by
    rw [hget .fixedHour, convertSimpleEntryToRawGroup, htime]
    dsimp only [Option.map_some]
    split <;> rfl
  have hminute : (group .fixedMinute).getD 0 =
      (if Sends supportedFields .fixedMinute then minute else 0 : Nat) := by
    rw [hget .fixedMinute, convertSimpleEntryToRawGroup, htime]
    dsimp only [Option.map_some]
    split <;> rfl
  have hcondition : ScheduleCondition.ofValue? ((group .condition).getD 0) =
      some (if Sends supportedFields .condition then entry.condition else .fixedTime) := by
    rw [hget .condition, convertSimpleEntryToRawGroup]
    dsimp only
    split
    · exact ScheduleCondition.ofValue?_value entry.condition
    · rfl
  have hastro : AstroType.ofValue? ((group .astroType).getD 0) =
      some (if Sends supportedFields .astroType then entry.astroType.getD .sunrise
        else .sunrise) := by
    rw [hget .astroType, convertSimpleEntryToRawGroup]
    dsimp only
    split
    · exact AstroType.ofValue?_value _
    · rfl
  have hoffset : (group .astroOffset).getD 0 =
      if Sends supportedFields .astroOffset then entry.astroOffsetMinutes else 0 := by
    rw [hget .astroOffset, convertSimpleEntryToRawGroup]
    dsimp only
    split <;> rfl
  have hchannels : (group .targetChannels).getD [] =
      if Sends supportedFields .targetChannels then
        channelFlags.items.filter (· ∈ entry.targetChannels)
      else [] := by
    rw [hget .targetChannels, convertSimpleEntryToRawGroup]
    dsimp only
    split <;> rfl
  have hlevel : clamp 0 1.01 ((group .level).getD 0) =
      if Sends supportedFields .level then entry.level else 0 := by
    rw [hget .level, convertSimpleEntryToRawGroup]
    simp only [encodeOutput, hmode]
    split
    · exact clamp_of_mem haccepted.level.1 haccepted.level.2
    · decide +kernel
  have hlevel2 : group .level2 = storedLevel2 supportedFields previous groupNo entry.level2 := by
    rw [hget .level2, convertSimpleEntryToRawGroup]
    cases entry.level2 with
    | some level2 => rfl
    | none => exact Option.map_id'
  have hdomain : some domain ≠ some .lock := fun h => hlock (Option.some.inj h)
  simp only [decodeFields, hdays, hhour, hminute, hcondition, hastro, hoffset, hchannels, hlevel,
    hlevel2, hduration, hramp, if_neg hdomain, Option.bind_some, reduceCtorEq, if_false, readFields]

end

/-! ## What is read says what was written -/

theorem ite_eq_then_iff {α : Type*} {p : Prop} [Decidable p] {x y : α} :
    (if p then x else y) = x ↔ p ∨ x = y := by
  by_cases hp : p
  · simp [hp]
  · simp [hp, eq_comm]

theorem ite_none_ite {α : Type*} (p : Prop) [Decidable p] (x : Option α) :
    (if p then none else if p then none else x) = if p then none else x := by
  split <;> rfl

theorem time_read_iff {p q : Prop} [Decidable p] [Decidable q] {hour minute : Nat}
    (hhour : hour < 24) (hminute : minute < 60) :
    convertTimeToHourMinute (convertHourMinuteToTime (if p then hour else 0 : Nat)
        (if q then minute else 0 : Nat)) = some (hour, minute) ↔
      (p ∨ hour = 0) ∧ (q ∨ minute = 0) := by
  have hhour' : (if p then hour else 0) < 24 := by
    split
    · exact hhour
    · decide
  have hminute' : (if q then minute else 0) < 60 := by
    split
    · exact hminute
    · decide
  rw [convertTimeToHourMinute_time hhour' hminute', Option.some.injEq, Prod.mk.injEq,
    ite_eq_then_iff, ite_eq_then_iff]

theorem astroType_read_iff {p q : Prop} [Decidable p] [Decidable q] {e : EntryFields}
    (he : e.Accepted) :
    ((if p then e.condition else .fixedTime) = e.condition ∧
      (if (if p then e.condition else .fixedTime) = .fixedTime then none
        else some (if q then e.astroType.getD .sunrise else .sunrise)) =
        if e.condition = .fixedTime then none else e.astroType) ↔
      (p ∨ e.condition = .fixedTime) ∧
        (q ∨ e.condition = .fixedTime ∨ e.astroType = some .sunrise) := by
  rw [ite_eq_then_iff]
  refine and_congr_right fun hcondition => ?_
  rw [ite_eq_then_iff.mpr hcondition]
  by_cases hfixed : e.condition = .fixedTime
  · simp [hfixed]
  · obtain ⟨astroType, hastro⟩ := Option.isSome_iff_exists.mp (he.astroType hfixed)
    rw [if_neg hfixed, if_neg hfixed, hastro, Option.getD_some, Option.some.injEq,
      Option.some.injEq, ite_eq_then_iff]
    exact or_congr_right (or_iff_right hfixed).symm

/-- What a read entry says. -/
theorem rule_readFields (supportedFields : List ScheduleField) (domain : ScheduleDomain)
    (e : EntryFields) (hour minute : Nat) (level2 : Option Rat)
    (duration rampTime : Option String) :
    (dropUnsupported (some domain) (readFields supportedFields e hour minute level2 duration
      rampTime)).rule =
      { weekdays := weekdayFlags.items.filter (· ∈ e.weekdays)
        time := convertTimeToHourMinute (convertHourMinuteToTime
          (if Sends supportedFields .fixedHour then hour else 0 : Nat)
          (if Sends supportedFields .fixedMinute then minute else 0 : Nat))
        condition := if Sends supportedFields .condition then e.condition else .fixedTime
        astroType :=
          if (if Sends supportedFields .condition then e.condition else .fixedTime) =
              .fixedTime then
            none
          else some (if Sends supportedFields .astroType then e.astroType.getD .sunrise
            else .sunrise)
        astroOffsetMinutes := if Sends supportedFields .astroOffset then e.astroOffsetMinutes else 0
        targetChannels := if Sends supportedFields .targetChannels then
            channelFlags.items.filter (· ∈ e.targetChannels)
          else []
        level := if Sends supportedFields .level then e.level else 0
        level2 := if keepsLevel2 (some domain) then level2 else none
        duration := (if keepsDuration (some domain) then duration else none).map durationIn100ms
        rampTime := (if keepsRampTime (some domain) then rampTime else none).map durationIn100ms
        lockMode := none
        lockAction := none
        permission := none } := by
  have hchannels : channelFlags.items.filter (· ∈ if Sends supportedFields .targetChannels then
      channelFlags.items.filter (· ∈ e.targetChannels) else []) =
      if Sends supportedFields .targetChannels then
        channelFlags.items.filter (· ∈ e.targetChannels) else [] := by
    split
    · exact Flags.filter_filter_items _
    · exact List.filter_eq_nil_iff.mpr fun a _ => by simp
  rw [dropUnsupported_eq]
  refine ScheduleRule.ext (Flags.filter_filter_items _) rfl rfl (ite_none_ite _ _) rfl hchannels rfl
    rfl rfl rfl rfl rfl rfl

theorem rule_read_iff {e : EntryFields} (he : e.Accepted)
    (hlock : e.lockMode = none ∧ e.lockAction = none ∧ e.permission = none) {hour minute : Nat}
    (htime : convertTimeToHourMinute e.time = some (hour, minute)) {level2 : Option Rat}
    {duration rampTime : Option String} :
    (dropUnsupported (some domain) (readFields supportedFields e hour minute level2 duration
      rampTime)).rule = e.rule ↔
      ((Sends supportedFields .fixedHour ∨ hour = 0) ∧
          (Sends supportedFields .fixedMinute ∨ minute = 0)) ∧
        ((Sends supportedFields .condition ∨ e.condition = .fixedTime) ∧
          (Sends supportedFields .astroType ∨ e.condition = .fixedTime ∨
            e.astroType = some .sunrise)) ∧
        (Sends supportedFields .astroOffset ∨ e.astroOffsetMinutes = 0) ∧
        (Sends supportedFields .targetChannels ∨ e.targetChannels = []) ∧
        (Sends supportedFields .level ∨ e.level = 0) ∧
        (if keepsLevel2 (some domain) then level2 else none) = e.level2 ∧
        (if keepsDuration (some domain) then duration else none).map durationIn100ms =
          e.duration.map durationIn100ms ∧
        (if keepsRampTime (some domain) then rampTime else none).map durationIn100ms =
          e.rampTime.map durationIn100ms := by
  obtain ⟨hhour, hminute⟩ := convertTimeToHourMinute_lt htime
  rw [rule_readFields, ScheduleRule.ext_iff, ← time_read_iff hhour hminute, ← htime,
    ← astroType_read_iff he]
  simp only [EntryFields.rule, hlock, ite_eq_then_iff, Flags.filter_items_eq_nil, true_and,
    and_true, and_assoc]

/-! ## Optional fields -/

variable (supportedFields previous groupNo) in
theorem level2_read_iff {level2 : Option Rat} (hlevel2 : ∀ x ∈ level2, 0 ≤ x ∧ x ≤ 1)
    (hkeeps : level2.isSome → keepsLevel2 (some domain) = true) :
    (if keepsLevel2 (some domain) then
      (storedLevel2 supportedFields previous groupNo level2).map (clamp 0 1) else none) = level2 ↔
      if level2.isSome then Sends supportedFields .level2
      else keepsLevel2 (some domain) = true →
        previous.get? (scheduleKey groupNo .level2) = none := by
  cases level2 with
  | none =>
    simp only [storedLevel2, Option.isSome_none, Bool.false_eq_true, if_false]
    by_cases hdomain : keepsLevel2 (some domain) = true
    · simp [hdomain]
    · simp [hdomain]
  | some level2 =>
    obtain ⟨hlow, hhigh⟩ := hlevel2 level2 rfl
    simp only [hkeeps rfl, if_true, Option.isSome_some, storedLevel2]
    by_cases hsends : Sends supportedFields .level2
    · rw [if_pos hsends]
      exact iff_of_true (congrArg some (clamp_of_mem hlow hhigh)) hsends
    · rw [if_neg hsends]
      exact iff_of_false nofun hsends

variable (supportedFields previous groupNo) in
/-- A duration reads as it was, and can be read at all, if it is restored. -/
theorem duration_read_iff (base factor : ScheduleField) {keeps : Bool} {duration : Option String}
    (haccepted : ∀ d ∈ duration, (convertDurationToBaseFactor d).isSome)
    (hkeeps : duration.isSome → keeps = true) :
    (∃ shown, storedDuration supportedFields previous groupNo base factor duration = some shown ∧
      (if keeps then shown else none).map durationIn100ms = duration.map durationIn100ms) ↔
      DurationRestored supportedFields previous groupNo base factor keeps duration := by
  cases duration with
  | none =>
    simp only [storedDuration, DurationRestored, Option.map_none, Option.map_eq_none_iff]
    cases leftValue previous groupNo base with
    | none => exact iff_of_true ⟨none, rfl, ite_self none⟩ nofun
    | some b =>
      cases leftValue previous groupNo factor with
      | none => exact iff_of_true ⟨none, rfl, ite_self none⟩ nofun
      | some f =>
        cases hbase : TimeBase.ofValue? b with
        | none => simp [extractDuration, hbase]
        | some x => simp [extractDuration, hbase]
  | some d =>
    simp only [storedDuration, DurationRestored, hkeeps rfl, if_true]
    by_cases hsends : Sends supportedFields base ∧ Sends supportedFields factor
    · refine iff_of_true ⟨some (recode d), if_pos hsends, ?_⟩ hsends
      exact congrArg some (recode_of_isSome (haccepted d rfl)).2
    · refine iff_of_false ?_ hsends
      rintro ⟨shown, hshown, heq⟩
      rw [if_neg hsends] at hshown
      obtain rfl := Option.some.inj hshown
      cases heq

/-- What is shown of a duration is accepted if it reads as it was. -/
theorem accepted_of_read {base factor : ScheduleField} {keeps : Bool} {duration : Option String}
    (haccepted : ∀ d ∈ duration, (convertDurationToBaseFactor d).isSome)
    {shown : Option String}
    (hstored : storedDuration supportedFields previous groupNo base factor duration = some shown)
    (heq : (if keeps then shown else none).map durationIn100ms = duration.map durationIn100ms) :
    ∀ d ∈ if keeps then shown else none, (convertDurationToBaseFactor d).isSome := by
  intro d hd
  cases duration with
  | none =>
    rw [Option.map_none, Option.map_eq_none_iff] at heq
    rw [heq] at hd
    cases hd
  | some d' =>
    obtain ⟨-, hd⟩ := Option.mem_ite_none_right.mp hd
    simp only [storedDuration] at hstored
    split at hstored
    · obtain rfl := Option.some.inj hstored
      obtain rfl := Option.mem_some.mp hd
      exact (recode_of_isSome (haccepted d' rfl)).1
    · obtain rfl := Option.some.inj hstored
      cases hd

theorem keeps_of_acceptedBy {e : EntryFields} (hlock : domain ≠ .lock)
    (h : e.acceptedBy domain = true) :
    (e.level2.isSome → keepsLevel2 (some domain) = true) ∧
      (e.duration.isSome → keepsDuration (some domain) = true) ∧
      (e.rampTime.isSome → keepsRampTime (some domain) = true) := by
  cases domain with
  | lock => exact absurd rfl hlock
  | _ =>
    simp only [EntryFields.acceptedBy, Bool.and_eq_true, Option.isNone_iff_eq_none] at h
    simp [keepsLevel2, keepsDuration, keepsRampTime, h]

/-! ## One group -/

theorem isScheduleActive_reread (hdevice : OnDevice supportedFields previous)
    (hentry : s.entries.get? groupNo = some entry) :
    isScheduleActive (groupOf (rereadSchedule supportedFields previous s) groupNo) = true ↔
      Sends supportedFields .weekday := by
  have hne : weekdayFlags.items.filter (· ∈ entry.weekdays) ≠ [] :=
    mt Flags.filter_items_eq_nil.mp (EntryFields.accepted_iff.mp entry.accepted).weekdays
  rw [isScheduleActive, groupOf_reread hdevice hentry .weekday, convertSimpleEntryToRawGroup]
  dsimp only
  by_cases hsends : Sends supportedFields .weekday
  · rw [if_pos hsends]
    exact iff_of_true (by simpa [canonicalValue] using hne) hsends
  · rw [if_neg hsends]
    exact iff_of_false (by simp) hsends

variable (supportedFields) in
/-- What is read of an entry is accepted if what it shows of the durations is. -/
theorem accepted_readFields {e : EntryFields} (he : e.Accepted) {hour minute : Nat}
    (htime : convertTimeToHourMinute e.time = some (hour, minute)) (level2 : Option Rat)
    {duration rampTime : Option String}
    (hduration : ∀ d ∈ if keepsDuration (some domain) then duration else none,
      (convertDurationToBaseFactor d).isSome)
    (hramp : ∀ d ∈ if keepsRampTime (some domain) then rampTime else none,
      (convertDurationToBaseFactor d).isSome) :
    (dropUnsupported (some domain) (readFields supportedFields e hour minute
      (level2.map (clamp 0 1)) duration rampTime)).Accepted := by
  obtain ⟨hhour, hminute⟩ := convertTimeToHourMinute_lt htime
  rw [dropUnsupported_eq]
  refine ⟨mt Flags.filter_items_eq_nil.mp he.weekdays, ?_, ?_, ?_, ?_, hduration, hramp, ?_⟩
  · have hhour' : (if Sends supportedFields .fixedHour then hour else 0) < 24 := by
      split
      · exact hhour
      · decide
    have hminute' : (if Sends supportedFields .fixedMinute then minute else 0) < 60 := by
      split
      · exact hminute
      · decide
    exact Option.isSome_of_eq_some (convertTimeToHourMinute_time hhour' hminute')
  · simp only [readFields]
    split
    · exact he.astroOffset
    · decide
  · simp only [readFields]
    split
    · exact he.level
    · decide +kernel
  · intro x hx
    obtain ⟨-, hx⟩ := Option.mem_ite_none_right.mp hx
    obtain ⟨value, -, rfl⟩ := Option.map_eq_some_iff.mp hx
    exact clamp_mem (by decide) value
  · intro hcondition
    simp only [readFields] at hcondition ⊢
    rw [if_neg hcondition]
    rfl

theorem restored_iff (hdevice : OnDevice supportedFields previous)
    (hentry : s.entries.get? groupNo = some entry) (hlock : domain ≠ .lock)
    (haccepted : entry.acceptedBy domain = true) :
    (∃ e', activeEntry (some domain)
        (groupOf (rereadSchedule supportedFields previous s) groupNo) = some e' ∧
      e'.rule = entry.rule) ↔
      Restored supportedFields previous domain groupNo entry.toEntryFields := by
  have he := EntryFields.accepted_iff.mp entry.accepted
  obtain ⟨⟨hour, minute⟩, htime⟩ := Option.isSome_iff_exists.mp he.time
  obtain ⟨hkeeps2, hkeepsDuration, hkeepsRamp⟩ := keeps_of_acceptedBy hlock haccepted
  have hactive := isScheduleActive_reread hdevice hentry
  have hlevel2 := level2_read_iff supportedFields previous groupNo he.level2 hkeeps2
  have hduration := duration_read_iff supportedFields previous groupNo .durationBase
    .durationFactor he.duration hkeepsDuration
  have hramp := duration_read_iff supportedFields previous groupNo .rampTimeBase
    .rampTimeFactor he.rampTime hkeepsRamp
  constructor
  · rintro ⟨e', hread, hrule⟩
    obtain ⟨hsent, hconvert⟩ := Option.ite_none_right_eq_some.mp hread
    have hweekday := hactive.mp hsent
    obtain ⟨fields, hfields, hentry'⟩ := Option.bind_eq_some_iff.mp hconvert
    rw [SimpleScheduleEntry.of_ofFields? hentry'] at hrule
    obtain ⟨hmode', haction', hpermission'⟩ :=
      lockMode_of_decodeFields hfields fun h => hlock (Option.some.inj h)
    have hmodes : entry.lockMode = none ∧ entry.lockAction = none ∧ entry.permission = none :=
      ⟨(congrArg (·.lockMode) hrule).symm.trans hmode',
        (congrArg (·.lockAction) hrule).symm.trans haction',
        (congrArg (·.permission) hrule).symm.trans hpermission'⟩
    rw [decodeFields_reread hdevice hentry hmodes.1 hlock hweekday htime] at hfields
    obtain ⟨duration, hstored, hfields⟩ := Option.bind_eq_some_iff.mp hfields
    obtain ⟨rampTime, hstoredRamp, rfl⟩ := Option.map_eq_some_iff.mp hfields
    obtain ⟨htimes, ⟨hcondition, hastro⟩, hoffset, hchannels, hlevel, hsame2, hsameDuration,
      hsameRamp⟩ := (rule_read_iff he hmodes htime).mp hrule
    refine ⟨hmodes, hweekday, ?_, hcondition, hastro, hoffset, hchannels, hlevel,
      hlevel2.mp hsame2, hduration.mp ⟨duration, hstored, hsameDuration⟩,
      hramp.mp ⟨rampTime, hstoredRamp, hsameRamp⟩⟩
    intro hour' minute' htime'
    obtain ⟨rfl, rfl⟩ := Prod.mk.inj (Option.some.inj (htime.symm.trans htime'))
    exact htimes
  · intro h
    obtain ⟨duration, hstored, hsameDuration⟩ := hduration.mpr h.duration
    obtain ⟨rampTime, hstoredRamp, hsameRamp⟩ := hramp.mpr h.rampTime
    have hfields := decodeFields_reread hdevice hentry h.lock.1 hlock h.weekday htime
    rw [hstored, Option.bind_some, hstoredRamp, Option.map_some] at hfields
    have hreadable := accepted_readFields supportedFields he htime
      (storedLevel2 supportedFields previous groupNo entry.level2)
      (accepted_of_read he.duration hstored hsameDuration)
      (accepted_of_read he.rampTime hstoredRamp hsameRamp)
    obtain ⟨e', hentry'⟩ := Option.isSome_iff_exists.mp
      (SimpleScheduleEntry.isSome_ofFields?.mpr hreadable)
    refine ⟨e', Option.ite_none_right_eq_some.mpr ⟨hactive.mpr h.weekday, ?_⟩, ?_⟩
    · rw [convertRawGroupToSimpleEntry, hfields, Option.bind_some, hentry']
    · rw [SimpleScheduleEntry.of_ofFields? hentry']
      exact (rule_read_iff he h.lock htime).mpr ⟨h.time hour minute htime,
        ⟨h.condition, h.astroType⟩, h.astroOffset, h.targetChannels, h.level,
        hlevel2.mpr h.level2, hsameDuration, hsameRamp⟩

/-! ## The whole schedule -/

/-- A group without an entry is deactivated. -/
theorem activeEntry_reread_of_none (hdevice : OnDevice supportedFields previous)
    (hgroup : isGroupNo groupNo = true) (hnone : s.entries.get? groupNo = none) :
    activeEntry (some domain) (groupOf (rereadSchedule supportedFields previous s) groupNo) =
      none := by
  have hinactive : isScheduleActive (groupOf (rereadSchedule supportedFields previous s) groupNo) =
      false := by
    rw [isScheduleActive, groupOf, fieldValue_reread hdevice hgroup, storedValue]
    simp only [convertedValue, hnone]
    by_cases hsends : Sends supportedFields .weekday
    · have hempty : weekdayFlags.ofMask (truncate 0) = [] := by decide
      simp [hsends, convertRawScheduleValue, hempty]
    · rw [if_neg hsends]
      rfl
  rw [activeEntry, hinactive]
  rfl

/-- Something is read if something was sent or the device had something. -/
theorem entries_reread_ne_nil
    (hweekday : ∀ groupNo entry, s.entries.get? groupNo = some entry →
      Sends supportedFields .weekday) :
    (rereadSchedule supportedFields previous s).entries ≠ [] ↔
      Sends supportedFields .weekday ∨ Sends supportedFields .targetChannels ∨
        (convertScheduleEntries previous).entries ≠ [] := by
  have hgroup : isGroupNo 1 = true := by decide
  have hget : ∀ key, (rereadSchedule supportedFields previous s).get? key =
      if (matchSchedulePattern key).isSome then
        ((sentValues supportedFields s).get? key).or (previous.get? key)
      else none := fun key => by
    rw [rereadSchedule, convertScheduleEntries, Dict.get?_filterKeys, setSchedule, Dict.get?_merge]
  have hsent : ∀ field value, Sends supportedFields field → convertedValue s 1 field = some value →
      (rereadSchedule supportedFields previous s).entries ≠ [] := by
    intro field value hsends hvalue
    refine Dict.entries_ne_nil.mpr ⟨scheduleKey 1 field, value, ?_⟩
    rw [hget, matchSchedulePattern_scheduleKey hgroup, get?_sentValues hgroup, if_pos hsends,
      hvalue]
    rfl
  constructor
  · intro hne
    obtain ⟨key, value, hvalue⟩ := Dict.entries_ne_nil.mp hne
    rw [hget, Option.ite_none_right_eq_some] at hvalue
    obtain ⟨hpattern, hvalue⟩ := hvalue
    cases hkey : (sentValues supportedFields s).get? key with
    | none =>
      rw [hkey, Option.none_or] at hvalue
      refine .inr (.inr (Dict.entries_ne_nil.mpr ⟨key, value, ?_⟩))
      rw [convertScheduleEntries, Dict.get?_filterKeys, if_pos hpattern, hvalue]
    | some sent =>
      obtain ⟨groupNo, field, hgroupNo, rfl⟩ := key_of_sentValues (Dict.mem_keys.mpr ⟨sent, hkey⟩)
      rw [get?_sentValues hgroupNo, Option.ite_none_right_eq_some] at hkey
      obtain ⟨hsends, hconverted⟩ := hkey
      cases hentry : s.entries.get? groupNo with
      | some entry => exact .inl (hweekday groupNo entry hentry)
      | none =>
        simp only [convertedValue, hentry, Option.ite_none_right_eq_some] at hconverted
        obtain ⟨rfl | rfl, -⟩ := hconverted
        · exact .inl hsends
        · exact .inr (.inl hsends)
  · rintro (hsends | hsends | hne)
    · cases hentry : s.entries.get? 1 with
      | some entry =>
        refine hsent .weekday (weekdayFlags.toMask entry.weekdays : Nat) hsends ?_
        simp only [convertedValue, hentry]
        rfl
      | none => exact hsent .weekday 0 hsends (by simp [convertedValue, hentry])
    · cases hentry : s.entries.get? 1 with
      | some entry =>
        refine hsent .targetChannels (channelFlags.toMask entry.targetChannels : Nat) hsends ?_
        simp only [convertedValue, hentry]
        rfl
      | none => exact hsent .targetChannels 0 hsends (by simp [convertedValue, hentry])
    · obtain ⟨key, value, hvalue⟩ := Dict.entries_ne_nil.mp hne
      rw [convertScheduleEntries, Dict.get?_filterKeys, Option.ite_none_right_eq_some] at hvalue
      refine Dict.entries_ne_nil.mpr
        ⟨key, ((sentValues supportedFields s).get? key).getD value, ?_⟩
      rw [hget, if_pos hvalue.1, hvalue.2]
      cases (sentValues supportedFields s).get? key <;> rfl

/-- What is read has an entry for each active group, if there is anything to read. -/
theorem getSchedule_setSchedule_eq_some {s' : SimpleSchedule} :
    getSchedule (setSchedule supportedFields previous s) (some domain) = some s' ↔
      (rereadSchedule supportedFields previous s).entries ≠ [] ∧
        s'.entries = scheduleEntries (rereadSchedule supportedFields previous s)
          (some domain) := by
  rw [← convertRawToDictSchedule_eq_some]
  exact Option.ite_none_left_eq_some

/-- The same groups are read, and they say what was written. -/
def ReadsBack (supportedFields : List ScheduleField) (previous : Dict String Rat)
    (s : SimpleSchedule) (domain : ScheduleDomain) : Prop :=
  ∃ s', getSchedule (setSchedule supportedFields previous s) (some domain) = some s' ∧
    ∀ groupNo, (s'.entries.get? groupNo).map (·.rule) = (s.entries.get? groupNo).map (·.rule)

/-- A switch that turns on for good on Mondays at 07:30. -/
def switchOn : SimpleScheduleEntry where
  weekdays := [.monday]
  time := "07:30"
  targetChannels := lockedSwitch.targetChannels
  level := 1
  accepted := by decide +kernel

def switchSchedule : SimpleSchedule where
  entries := Dict.empty.set 1 switchOn
  accepted := by decide

theorem acceptedBy_switchSchedule : ∀ groupNo entry,
    switchSchedule.entries.get? groupNo = some entry → entry.acceptedBy .switch = true := by
  intro groupNo entry hentry
  rw [switchSchedule, Dict.get?_set, Dict.get?_empty, Option.ite_none_right_eq_some] at hentry
  obtain rfl := Option.some.inj hentry.2
  decide

/-- What the switch had: Mondays at 07:30, for ten minutes. -/
def tenMinutes : Dict String Rat :=
  Dict.empty.assign
    [("01_WP_WEEKDAY", 2), ("01_WP_FIXED_HOUR", 7), ("01_WP_FIXED_MINUTE", 30), ("01_WP_LEVEL", 1),
      ("01_WP_TARGET_CHANNELS", 1), ("01_WP_DURATION_BASE", 4), ("01_WP_DURATION_FACTOR", 10)]

end AioHomematic.Model
