import AioHomematic.Model.WeekProfile.Climate.Decode
import AioHomematic.Model.WeekProfile.Climate.ToSimple

/-!
# Reloading the schedule of a thermostat

What a reload raises is what the first day raises that cannot be converted.
`reloads_iff` says when that is an exception that the reload handles.
-/

namespace AioHomematic.Model

open Lib Support Collector

/-! ## What is raised -/

def raised {ε α : Type*} : Except ε α → Option ε
  | .ok _ => none
  | .error e => some e

theorem raised_map {ε α β : Type*} (f : α → β) (x : Except ε α) : raised (x.map f) = raised x := by
  cases x <;> rfl

/-- A fold raises what its first step raises that raises anything. -/
theorem raised_foldlM {ε α σ : Type} {step : σ → α → Except ε σ} {g : α → Option ε}
    (h : ∀ s a, raised (step s a) = g a) (l : List α) (s : σ) :
    raised (l.foldlM step s) = l.findSome? g := by
  induction l generalizing s with
  | nil => rfl
  | cons a l ih =>
    rw [List.foldlM_cons, List.findSome?_cons, ← h s a]
    cases step s a with
    | ok s' => exact ih s'
    | error e => rfl

theorem raised_schedule (bounds : Option (Rat × Rat)) (scheduleData : ScheduleData) :
    raised (validateAndConvertScheduleToSimple bounds scheduleData) =
      (weekdayTables scheduleData).findSome? fun weekdayData =>
        raised (validateAndConvertWeekdayToSimple bounds weekdayData) := by
  have hprofile : ∀ profileData : ProfileData,
      raised (validateAndConvertProfileToSimple bounds profileData) =
        profileData.values.findSome? fun weekdayData =>
          raised (validateAndConvertWeekdayToSimple bounds weekdayData) := by
    intro profileData
    rw [Dict.values, List.findSome?_map, validateAndConvertProfileToSimple]
    exact raised_foldlM
      (fun _ e => raised_map _ (validateAndConvertWeekdayToSimple bounds e.2)) _ _
  have hschedule : raised (validateAndConvertScheduleToSimple bounds scheduleData) =
      scheduleData.values.findSome? fun profileData =>
        raised (validateAndConvertProfileToSimple bounds profileData) := by
    rw [Dict.values, List.findSome?_map, validateAndConvertScheduleToSimple]
    exact raised_foldlM
      (fun _ e => raised_map _ (validateAndConvertProfileToSimple bounds e.2)) _ _
  rw [hschedule, weekdayTables]
  induction scheduleData.values with
  | nil => rfl
  | cons profileData profiles ih =>
    rw [List.findSome?_cons, List.flatMap_cons, List.findSome?_append, ← ih, hprofile]
    cases profileData.values.findSome? fun weekdayData =>
      raised (validateAndConvertWeekdayToSimple bounds weekdayData) <;> rfl

/-! ## Slots -/

/-- A slot's end, if it has one, is the text of minutes of the day. -/
def SlotInDay (slot : ScheduleSlot) : Prop :=
  ∀ endtime ∈ slot.endtime, ∃ n, (0 ≤ n ∧ n ≤ 1440) ∧ endtime = .text (timeStr n)

/-- The slots of a paramset in range. -/
theorem slotInDay_of_mem {rawData : Dict String RawValue} (h : EndtimesInRange rawData)
    {slots : List ScheduleSlot} (hslots : slots ∈ rawDays rawData) :
    ∀ slot ∈ slots, SlotInDay slot := by
  obtain ⟨profile, -, hday⟩ := List.mem_flatMap.mp hslots
  obtain ⟨weekday, -, rfl⟩ := List.mem_map.mp hday
  intro slot hslot endtime hendtime
  obtain ⟨slotNo, hslotNo, hraw⟩ := List.mem_filterMap.mp hslot
  rw [rawSlot, slotOf] at hraw
  split at hraw
  · cases hraw
  · obtain rfl := Option.some.inj hraw
    obtain ⟨value, hvalue, rfl⟩ := Option.map_eq_some_iff.mp hendtime
    have hname := parseSlotName_text ⟨profile, .endtime, weekday, slotNo⟩ hslotNo
    have hinDay := h _ (Dict.get?_eq_some.mp hvalue) _ hname rfl
    cases value with
    | float x => cases hinDay
    | int n => exact ⟨n, of_decide_eq_true hinDay, rfl⟩

/-- A slot of the day lacks its end or its temperature. -/
def Incomplete (slots : List ScheduleSlot) : Prop :=
  ∃ slot ∈ slots, slot.endtime = none ∨ slot.temperature = none

variable {weekdayData : Dict Int ScheduleSlot} {slot : ScheduleSlot} {minTemp maxTemp : Rat}

/-- A slot in the day says a span, or it lacks something. -/
theorem span?_cases (h : SlotInDay slot) :
    (∃ s, slot.span? = some s ∧ 0 ≤ s.stop ∧ s.stop ≤ 1440) ∧
        ¬ (slot.endtime = none ∨ slot.temperature = none) ∨
      slot.span? = none ∧ (slot.endtime = none ∨ slot.temperature = none) ∧
        ∀ st, addMinutes st slot = .error .key := by
  obtain ⟨endtime, temperature⟩ := slot
  cases endtime with
  | none => exact .inr ⟨rfl, .inl rfl, fun _ => rfl⟩
  | some endtime =>
    obtain ⟨n, hrange, rfl⟩ := h endtime rfl
    have hend := endtimeToMinutes_text (schedulerMinutes?_timeStr (lt_of_inDay hrange))
    cases temperature with
    | some x =>
      exact .inl ⟨⟨_, span?_text (schedulerMinutes?_timeStr (lt_of_inDay hrange)), hrange⟩,
        by simp⟩
    | none =>
      refine .inr ⟨?_, .inr rfl, fun st => ?_⟩
      · simp only [ScheduleSlot.span?, ScheduleSlot.readTemperature, orRaise]
        split <;> simp_all
      · rw [addMinutes, ScheduleSlot.endMinutes, ScheduleSlot.readTemperature]
        simp only [orRaise, bind, Except.bind, hend]

/-! ## Days -/

/-- A table has slots, and all of them end in the day. -/
structure DayInRange (weekdayData : Dict Int ScheduleSlot) : Prop where
  nonempty : weekdayData.entries ≠ []
  slots : ∀ slot ∈ slotsInOrder weekdayData, SlotInDay slot

/-- A complete day can be read. -/
theorem reads_daySpans (h : DayInRange weekdayData)
    (hcomplete : ¬ Incomplete (slotsInOrder weekdayData)) :
    Reads (slotsInOrder weekdayData) (daySpans weekdayData) ∧ daySpans weekdayData ≠ [] ∧
      ∀ s ∈ daySpans weekdayData, 0 ≤ s.stop ∧ s.stop ≤ 1440 := by
  have hslots : ∀ slot ∈ slotsInOrder weekdayData, ∃ s, slot.span? = some s ∧ 0 ≤ s.stop ∧
      s.stop ≤ 1440 := by
    intro slot hslot
    obtain ⟨hs, -⟩ | ⟨-, hlacks, -⟩ := span?_cases (h.slots slot hslot)
    · exact hs
    · exact absurd ⟨slot, hslot, hlacks⟩ hcomplete
  refine ⟨reads_iff.mpr ⟨fun slot hslot => ?_, rfl⟩, ?_, ?_⟩
  · obtain ⟨s, hs, -⟩ := hslots slot hslot
    exact Option.isSome_iff_exists.mpr ⟨s, hs⟩
  · obtain ⟨e, es, hentries⟩ := List.exists_cons_of_ne_nil h.nonempty
    have hmem : e.2 ∈ slotsInOrder weekdayData := by
      refine List.mem_map_of_mem ((List.mem_insertionSort _).mpr ?_)
      rw [hentries]
      exact List.mem_cons_self
    obtain ⟨s, hs, -⟩ := hslots e.2 hmem
    exact List.ne_nil_of_mem (List.mem_filterMap.mpr ⟨e.2, hmem, hs⟩)
  · intro s hs
    obtain ⟨slot, hslot, heq⟩ := List.mem_filterMap.mp hs
    obtain ⟨s', hs', hrange⟩ := hslots slot hslot
    obtain rfl := Option.some.inj (hs'.symm.trans heq)
    exact hrange

/-- An incomplete day raises a `KeyError`. -/
theorem identifyBaseTemperature_of_incomplete (h : DayInRange weekdayData)
    (hincomplete : Incomplete (slotsInOrder weekdayData)) :
    identifyBaseTemperature weekdayData = .error .key := by
  have hall : ∀ slot ∈ slotsInOrder weekdayData,
      slot.span?.isSome ∨ ∀ st, addMinutes st slot = .error .key := by
    intro slot hslot
    obtain ⟨⟨s, hs, -⟩, -⟩ | ⟨-, -, herror⟩ := span?_cases (h.slots slot hslot)
    · exact .inl (Option.isSome_iff_exists.mpr ⟨s, hs⟩)
    · exact .inr herror
  have hsome : ∃ slot ∈ slotsInOrder weekdayData, slot.span? = none := by
    obtain ⟨slot, hslot, hlacks⟩ := hincomplete
    obtain ⟨-, hhas⟩ | ⟨hnone, -⟩ := span?_cases (h.slots slot hslot)
    · exact absurd hlacks hhas
    · exact ⟨slot, hslot, hnone⟩
  rw [identifyBaseTemperature, if_neg h.nonempty, foldlM_addMinutes_error hall hsome]
  rfl

/-- A day that raises what a reload does not handle: a slot lacks something, or one that is empty
would start a period. -/
def Breaks (minTemp maxTemp : Rat) (slots : List ScheduleSlot) : Prop :=
  Incomplete slots ∨
    ∃ base, baseOf (slots.filterMap ScheduleSlot.span?) = some base ∧
      (minTemp ≤ base ∧ base ≤ maxTemp) ∧
      ¬ Fits base 0 none (sortSpans ((throughMax slots).filterMap ScheduleSlot.span?))

/-- A complete day whose base temperature is out of range. -/
def Refuses (minTemp maxTemp : Rat) (slots : List ScheduleSlot) : Prop :=
  ¬ Incomplete slots ∧ ∃ base, baseOf (slots.filterMap ScheduleSlot.span?) = some base ∧
    ¬ (minTemp ≤ base ∧ base ≤ maxTemp)

theorem day_cases (h : DayInRange weekdayData) (minTemp maxTemp : Rat) :
    (Breaks minTemp maxTemp (slotsInOrder weekdayData) ∧ ∃ error, error ≠ .validation ∧
        raised (validateAndConvertWeekdayToSimple (some (minTemp, maxTemp)) weekdayData) =
          some error) ∨
      ¬ Breaks minTemp maxTemp (slotsInOrder weekdayData) ∧
        (Refuses minTemp maxTemp (slotsInOrder weekdayData) ∧
            raised (validateAndConvertWeekdayToSimple (some (minTemp, maxTemp)) weekdayData) =
              some .validation ∨
          ¬ Refuses minTemp maxTemp (slotsInOrder weekdayData) ∧
            raised (validateAndConvertWeekdayToSimple (some (minTemp, maxTemp)) weekdayData) =
              none) := by
  by_cases hcomplete : Incomplete (slotsInOrder weekdayData)
  · refine .inl ⟨.inl hcomplete, .key, by decide, ?_⟩
    simp only [validateAndConvertWeekdayToSimple, requireTempBounds, orRaise, bind, Except.bind,
      identifyBaseTemperature_of_incomplete h hcomplete, raised]
  · obtain ⟨hreads, hne, hstops⟩ := reads_daySpans h hcomplete
    obtain ⟨base, hbase, hcases⟩ := toSimple_cases minTemp maxTemp hreads hne hstops
    rw [daySpans] at hbase
    have hbreaks : Breaks minTemp maxTemp (slotsInOrder weekdayData) ↔
        (minTemp ≤ base ∧ base ≤ maxTemp) ∧
          ¬ Fits base 0 none (sortSpans (relevantSpans weekdayData)) := by
      simp only [Breaks, hcomplete, hbase, false_or, Option.some.injEq, exists_eq_left',
        relevantSpans]
    have hrefuses : Refuses minTemp maxTemp (slotsInOrder weekdayData) ↔
        ¬ (minTemp ≤ base ∧ base ≤ maxTemp) := by
      simp only [Refuses, hcomplete, hbase, not_false_iff, true_and, Option.some.injEq,
        exists_eq_left']
    rw [hbreaks, hrefuses]
    obtain ⟨hout, herror⟩ | ⟨hin, ⟨hfits, s, c, hok, -⟩ | ⟨hfits, herror⟩⟩ := hcases
    · rw [herror]
      exact .inr ⟨fun hin => hout hin.1, .inl ⟨hout, rfl⟩⟩
    · rw [hok]
      exact .inr ⟨fun hnot => hnot.2 hfits, .inr ⟨not_not.mpr hin, rfl⟩⟩
    · rw [herror]
      exact .inl ⟨⟨hin, hfits⟩, .value, by decide, rfl⟩

/-! ## All days -/

/-- Days that are converted in order raise nothing but what a reload handles if each day that
breaks comes after one that is refused. -/
theorem raised_days_iff {days : List (Dict Int ScheduleSlot)}
    (hdays : ∀ weekdayData ∈ days, DayInRange weekdayData) :
    (∀ error ∈ days.findSome? fun weekdayData =>
        raised (validateAndConvertWeekdayToSimple (some (minTemp, maxTemp)) weekdayData),
      error = .validation) ↔
    ∀ before slots after, days.map slotsInOrder = before ++ slots :: after →
      Breaks minTemp maxTemp slots → ∃ earlier ∈ before, Refuses minTemp maxTemp earlier := by
  induction days with
  | nil => exact iff_of_true nofun fun before slots after hnil => by simp at hnil
  | cons day days ih =>
    obtain ⟨hday, hdays⟩ := List.forall_mem_cons.mp hdays
    rw [List.findSome?_cons, List.map_cons]
    obtain ⟨hbreaks, error, hne, hraised⟩ | ⟨hbreaks, ⟨hrefuses, hraised⟩ | ⟨hrefuses, hraised⟩⟩ :=
      day_cases hday minTemp maxTemp
    · rw [hraised]
      refine iff_of_false (fun hall => hne (hall error rfl)) fun hall => ?_
      obtain ⟨earlier, hmem, -⟩ := hall [] _ _ rfl hbreaks
      cases hmem
    · rw [hraised]
      refine iff_of_true (fun error herror => (Option.mem_some.mp herror).symm) ?_
      intro before slots after heq hbreaks'
      cases before with
      | nil =>
        obtain ⟨rfl, -⟩ := List.cons.inj heq
        exact absurd hbreaks' hbreaks
      | cons first before =>
        obtain ⟨rfl, -⟩ := List.cons.inj heq
        exact ⟨slotsInOrder day, List.mem_cons_self, hrefuses⟩
    · rw [hraised, ih hdays]
      constructor
      · intro hall before slots after heq hbreaks'
        cases before with
        | nil =>
          obtain ⟨rfl, -⟩ := List.cons.inj heq
          exact absurd hbreaks' hbreaks
        | cons first before =>
          obtain ⟨rfl, hrest⟩ := List.cons.inj heq
          obtain ⟨earlier, hmem, hearlier⟩ := hall before slots after hrest hbreaks'
          exact ⟨earlier, List.mem_cons_of_mem _ hmem, hearlier⟩
      · intro hall before slots after heq hbreaks'
        obtain ⟨earlier, hmem, hearlier⟩ :=
          hall (slotsInOrder day :: before) slots after (congrArg (_ :: ·) heq) hbreaks'
        obtain rfl | hmem := List.mem_cons.mp hmem
        · exact absurd hearlier hrefuses
        · exact ⟨earlier, hmem, hearlier⟩

/-! ## The reload -/

/-- Names that are no parameters of a schedule are skipped. -/
theorem convertRawToDictSchedule_filterKeys (rawData : Dict String RawValue) :
    ClimateWeekProfile.convertRawToDictSchedule
        (rawData.filterKeys fun key => (parseSlotName key).isSome) =
      ClimateWeekProfile.convertRawToDictSchedule rawData := by
  have hfold : ∀ (es : List (String × RawValue)) (scheduleData : ScheduleData),
      (es.filter fun e => (parseSlotName e.1).isSome).foldlM addRawSlotValue scheduleData =
        es.foldlM addRawSlotValue scheduleData := by
    intro es
    induction es with
    | nil => exact fun _ => rfl
    | cons e es ih =>
      intro scheduleData
      cases hname : parseSlotName e.1 with
      | none =>
        rw [List.filter_cons_of_neg (by simp [hname]), List.foldlM_cons, addRawSlotValue, hname]
        exact ih scheduleData
      | some name =>
        rw [List.filter_cons_of_pos (by simp [hname]), List.foldlM_cons, List.foldlM_cons]
        exact congrArg _ (funext ih)
  exact hfold rawData.entries .empty

/-- The tables of a paramset in range. -/
theorem convert_inRange {rawData : Dict String RawValue} (h : EndtimesInRange rawData) :
    ∃ scheduleData, ClimateWeekProfile.convertRawToDictSchedule rawData = .ok scheduleData ∧
      (weekdayTables scheduleData).map slotsInOrder = rawDays rawData ∧
      ∀ weekdayData ∈ weekdayTables scheduleData, DayInRange weekdayData := by
  obtain ⟨scheduleData, hconvert, hdecoded⟩ := decoded_convertRawToDictSchedule h
  have hdays := hdecoded.weekdayTables
  refine ⟨scheduleData, hconvert, hdays, fun weekdayData hmem => ⟨?_, ?_⟩⟩
  · obtain ⟨profileData, hprofile, hweekday⟩ := List.mem_flatMap.mp hmem
    obtain ⟨e, he, rfl⟩ := List.mem_map.mp hprofile
    obtain ⟨e', he', rfl⟩ := List.mem_map.mp hweekday
    exact hdecoded.nonempty e.1 e.2 (Dict.get?_eq_some.mpr he) e'.1 e'.2 (Dict.get?_eq_some.mpr he')
  · exact slotInDay_of_mem h (hdays ▸ List.mem_map_of_mem hmem)

/-- What is raised for a paramset. -/
theorem raised_getScheduleProfile {rawData : Dict String RawValue} {scheduleData : ScheduleData}
    (h : ClimateWeekProfile.convertRawToDictSchedule rawData = .ok scheduleData)
    (bounds : Option (Rat × Rat)) :
    raised (getScheduleProfile bounds (some rawData)) =
      (weekdayTables scheduleData).findSome? fun weekdayData =>
        raised (validateAndConvertWeekdayToSimple bounds weekdayData) := by
  rw [← raised_schedule]
  simp only [getScheduleProfile, getRawSchedule, Option.map_some, orRaise, bind, Except.bind,
    convertRawToDictSchedule_filterKeys, h]

/-- A reload handles what its conversion raises, and the cached schedule stays if it raises
anything. -/
def Reloads (hasSchedule : Bool) (bounds : Option (Rat × Rat))
    (paramset : Option (Dict String RawValue)) (scheduleCache : ClimateSchedule) : Prop :=
  (reloadAndCacheSchedule hasSchedule bounds paramset scheduleCache).1 = .ok () ∧
    (raised (getScheduleProfile bounds paramset) ≠ none →
      (reloadAndCacheSchedule hasSchedule bounds paramset scheduleCache).2 = scheduleCache)

variable {hasSchedule : Bool} {bounds : Option (Rat × Rat)}
  {paramset : Option (Dict String RawValue)} {scheduleCache : ClimateSchedule}

/-- The cached schedule stays whatever is raised. -/
theorem reloads_iff_raised : Reloads hasSchedule bounds paramset scheduleCache ↔
    (hasSchedule = true → ∀ error ∈ raised (getScheduleProfile bounds paramset),
      error = .validation) := by
  rw [Reloads, reloadAndCacheSchedule]
  cases hasSchedule with
  | false => exact iff_of_true ⟨rfl, fun _ => rfl⟩ nofun
  | true =>
    rw [if_pos rfl]
    cases getScheduleProfile bounds paramset with
    | ok newSchedule => exact iff_of_true ⟨rfl, fun hne => absurd rfl hne⟩ fun _ => nofun
    | error error =>
      cases error <;> simp [raised]

/-- Three slots of a Monday, the second until a minute. -/
def mondayParamset (minutes : Int) : Dict String RawValue where
  entries := [
    ("P1_TEMPERATURE_MONDAY_1", .float 18), ("P1_ENDTIME_MONDAY_1", .int 360),
    ("P1_TEMPERATURE_MONDAY_2", .float 21), ("P1_ENDTIME_MONDAY_2", .int minutes),
    ("P1_TEMPERATURE_MONDAY_3", .float 18), ("P1_ENDTIME_MONDAY_3", .int 1440)]
  nodup := by simp

end AioHomematic.Model
