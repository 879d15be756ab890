import AioHomematic.Lib.Dict
import AioHomematic.Lib.StepFunction
import AioHomematic.Model.Schedule.Duration
import AioHomematic.Support.Address
import Mathlib.Algebra.Order.Ring.Unbundled.Rat
import Mathlib.Data.List.Sort

/-!
# The week profile of a thermostat

`ClimateWeekProfile` of `model/week_profile.py` and the climate models of
`model/schedule_models.py`: the table of slots that the CCU has for a day, and the simple
form of a day, a base temperature and periods. Temperatures are only copied and
compared, so a decimal stands for its float.
-/

namespace AioHomematic.Model

open Lib Support

/-- What the conversions raise. -/
inductive ScheduleError where
  /-- `ValidationException`. -/
  | validation
  /-- pydantic's `ValidationError`, which is a `ValueError`. -/
  | value
  | key
  | attribute
deriving DecidableEq

def orRaise {α : Type*} (error : ScheduleError) : Option α → Except ScheduleError α
  | some a => .ok a
  | none => .error error

/-! ## Times -/

def climateMaxSchedulerTime : String := "24:00"

def climateMinSchedulerTime : String := "00:00"

/-- `[0-5][0-9]`. -/
def isSchedulerMinute (m m' : Char) : Bool := m ∈ ['0', '1', '2', '3', '4', '5'] && m'.isDigit

/-- `SCHEDULER_TIME_PATTERN`, which says only how a text begins. -/
def matchesSchedulerTime : List Char → Bool
  | h :: ':' :: m :: m' :: _ => h.isDigit && isSchedulerMinute m m'
  | h :: h' :: ':' :: m :: m' :: _ =>
    (h ∈ ['0', '1'] && h'.isDigit || h = '2' && h' ∈ ['0', '1', '2', '3', '4']) &&
      isSchedulerMinute m m'
  | _ => false

/-- The minutes of a text that `_convert_time_str_to_minutes` accepts. -/
def schedulerMinutes? (timeStr : String) : Option Int :=
  if matchesSchedulerTime timeStr.toList then
    (split1 ':' timeStr.toList).bind fun parts =>
      if ':' ∈ parts.2 then none
      else (int? parts.1).bind fun h => (int? parts.2).map fun m => h * 60 + m
  else none

def convertTimeStrToMinutes (timeStr : String) : Except ScheduleError Int :=
  orRaise .validation (schedulerMinutes? timeStr)

/-- Of a number; the source has `24:00` for anything else. -/
def convertMinutesToTimeStr (minutes : Int) : Except ScheduleError String :=
  let timeStr := convertHourMinuteToTime (minutes / 60) (minutes % 60)
  if matchesSchedulerTime timeStr.toList then .ok timeStr else .error .validation

/-! ## Slots -/

/-- An end time is a text or the number that the CCU gives; other numbers are passed on. -/
inductive Endtime where
  | minutes (n : Int)
  | text (s : String)
  | float (x : Rat)
deriving DecidableEq

/-- `_endtime_to_minutes`; a float has no `isdigit`. -/
def endtimeToMinutes : Endtime → Except ScheduleError Int
  | .minutes n => .ok n
  | .text s =>
    if s.toList ≠ [] ∧ s.toList.all isDigit = true then .ok (number s.toList)
    else convertTimeStrToMinutes s
  | .float _ => .error .attribute

/-- A slot of a table, which lacks what the paramset lacks. -/
structure ScheduleSlot where
  endtime : Option Endtime := none
  temperature : Option Rat := none
deriving DecidableEq

namespace ScheduleSlot

/-- `_endtime_to_minutes(endtime=slot["endtime"])`. -/
def endMinutes (slot : ScheduleSlot) : Except ScheduleError Int :=
  orRaise .key slot.endtime >>= endtimeToMinutes

/-- `float(slot["temperature"])`. -/
def readTemperature (slot : ScheduleSlot) : Except ScheduleError Rat :=
  orRaise .key slot.temperature

end ScheduleSlot

/-- `dict(enumerate(slots, start=1))`. -/
def numbered (slots : List ScheduleSlot) : Dict Int ScheduleSlot where
  entries := (slots.zipIdx 1).map fun e => ((e.2 : Int), e.1)
  nodup := by
    rw [List.map_map]
    refine List.Nodup.of_map Int.toNat ?_
    have hmap : (slots.zipIdx 1).map (Int.toNat ∘ Prod.fst ∘ fun e => ((e.2 : Int), e.1)) =
        (slots.zipIdx 1).map Prod.snd :=
      List.map_congr_left fun _ _ => rfl
    rw [List.map_map, hmap, List.zipIdx_map_snd]
    exact List.nodup_range'

/-- The slots by their numbers. -/
def slotsInOrder (weekdayData : Dict Int ScheduleSlot) : List ScheduleSlot :=
  (weekdayData.entries.insertionSort fun e e' => e.1 ≤ e'.1).map Prod.snd

/-! ## Simple days -/

/-- `_time_to_minutes`; `none` is a `ValueError`. -/
def timeToMinutes (timeStr : String) : Option Nat :=
  if timeStr = "24:00" then some 1440
  else (convertTimeToHourMinute timeStr).map fun t => t.1 * 60 + t.2

/-- The fields of a period, before they are validated. -/
structure PeriodFields where
  starttime : String
  endtime : String
  temperature : Rat
deriving DecidableEq

/-- `validate_time_format` and `validate_time_range`. -/
def PeriodFields.accepted (p : PeriodFields) : Bool :=
  match timeToMinutes p.starttime, timeToMinutes p.endtime with
  | some start, some stop => decide (start < stop)
  | _, _ => false

structure ClimateSchedulePeriod extends PeriodFields where
  accepted : toPeriodFields.accepted = true
deriving DecidableEq

namespace ClimateSchedulePeriod

def ofFields (p : PeriodFields) : Except ScheduleError ClimateSchedulePeriod :=
  if h : p.accepted = true then .ok ⟨p, h⟩ else .error .value

/-- The period in minutes. -/
def pulse (p : ClimateSchedulePeriod) : Pulse Int Rat where
  start := ((timeToMinutes p.starttime).getD 0 : Nat)
  stop := ((timeToMinutes p.endtime).getD 0 : Nat)
  value := p.temperature

end ClimateSchedulePeriod

/-- `validate_non_overlapping_periods`. -/
def nonOverlapping (periods : List ClimateSchedulePeriod) : Bool :=
  let sortedPeriods := periods.insertionSort fun p p' => p.pulse.start ≤ p'.pulse.start
  decide (sortedPeriods.IsChain fun p p' => p.pulse.stop ≤ p'.pulse.start)

structure ClimateWeekdaySchedule where
  baseTemperature : Rat
  periods : List ClimateSchedulePeriod
  accepted : nonOverlapping periods = true

def ClimateWeekdaySchedule.ofFields (baseTemperature : Rat)
    (periods : List ClimateSchedulePeriod) : Except ScheduleError ClimateWeekdaySchedule :=
  if h : nonOverlapping periods = true then .ok ⟨baseTemperature, periods, h⟩ else .error .value

/-- `_require_temp_bounds`. -/
def requireTempBounds (bounds : Option (Rat × Rat)) : Except ScheduleError (Rat × Rat) :=
  orRaise .validation bounds

/-- `sorted` by the minutes of the start times. -/
def sortPeriods (periods : List ClimateSchedulePeriod) :
    Except ScheduleError (List ClimateSchedulePeriod) := do
  let keyed ← periods.mapM fun p => (convertTimeStrToMinutes p.starttime).map (·, p)
  return (keyed.insertionSort fun e e' => e.1 ≤ e'.1).map Prod.snd

/-! ## From a simple day to slots -/

structure SlotState where
  weekdayData : Dict Int ScheduleSlot
  previousEndtime : String
  slotNo : Int

def SlotState.addSlot (st : SlotState) (endtime : String) (temperature : Rat) : SlotState where
  weekdayData := st.weekdayData.set st.slotNo ⟨some (.text endtime), some temperature⟩
  previousEndtime := endtime
  slotNo := st.slotNo + 1

/-- One period: what lies between the last one and it has the base temperature. -/
def addPeriod (minTemp maxTemp baseTemperature : Rat) (st : SlotState)
    (slot : ClimateSchedulePeriod) : Except ScheduleError SlotState := do
  let start ← convertTimeStrToMinutes slot.starttime
  let previous ← convertTimeStrToMinutes st.previousEndtime
  if start < previous then throw .validation
  else if ¬ (minTemp ≤ slot.temperature ∧ slot.temperature ≤ maxTemp) then throw .validation
  else
    let st := if previous < start then st.addSlot slot.starttime baseTemperature else st
    return st.addSlot slot.endtime slot.temperature

/-- `_CLIMATE_SCHEDULE_SLOT_IN_RANGE`. -/
def slotNumbers : List Int := (List.range 13).map fun n : Nat => (n : Int) + 1

def fillupWeekdayData (baseTemperature : Rat) (weekdayData : Dict Int ScheduleSlot) :
    Dict Int ScheduleSlot :=
  slotNumbers.foldl
    (fun d slotNo =>
      if d.contains slotNo then d
      else d.set slotNo ⟨some (.text climateMaxSchedulerTime), some baseTemperature⟩)
    weekdayData

def validateAndConvertSimpleToWeekday (bounds : Option (Rat × Rat)) (s : ClimateWeekdaySchedule) :
    Except ScheduleError (Dict Int ScheduleSlot) := do
  let (minTemp, maxTemp) ← requireTempBounds bounds
  if ¬ (minTemp ≤ s.baseTemperature ∧ s.baseTemperature ≤ maxTemp) then throw .validation
  else
    let sortedPeriods ← sortPeriods s.periods
    let st ← sortedPeriods.foldlM (addPeriod minTemp maxTemp s.baseTemperature)
      ⟨.empty, climateMinSchedulerTime, 1⟩
    return fillupWeekdayData s.baseTemperature st.weekdayData

/-! ## From slots to a simple day -/

def defaultClimateFillTemperature : Rat := 18

/-- The minutes of a slot are added to its temperature. -/
def addMinutes (st : Dict Rat Int × Int) (slot : ScheduleSlot) :
    Except ScheduleError (Dict Rat Int × Int) := do
  let endtimeMinutes ← slot.endMinutes
  let temperature ← slot.readTemperature
  let duration := endtimeMinutes - st.2
  return (st.1.set temperature ((st.1.get? temperature).getD 0 + duration), endtimeMinutes)

/-- `max` by the value, which is the first of equal ones. -/
def keyOfMax (key : Rat) (minutes : Int) : List (Rat × Int) → Rat
  | [] => key
  | e :: es => if minutes < e.2 then keyOfMax e.1 e.2 es else keyOfMax key minutes es

def identifyBaseTemperature (weekdayData : Dict Int ScheduleSlot) : Except ScheduleError Rat :=
  if weekdayData.entries = [] then .ok defaultClimateFillTemperature
  else do
    let (temperatureMinutes, _) ← (slotsInOrder weekdayData).foldlM addMinutes (.empty, 0)
    match temperatureMinutes.entries with
    | [] => return defaultClimateFillTemperature
    | e :: es => return keyOfMax e.1 e.2 es

/-- The slots to the first that ends at 24:00. -/
def throughMax : List ScheduleSlot → List ScheduleSlot
  | [] => []
  | slot :: slots =>
    if slot.endtime = some (.text climateMaxSchedulerTime) then [slot]
    else slot :: throughMax slots

def filterWeekdayEntries (weekdayData : Dict Int ScheduleSlot) : Dict Int ScheduleSlot :=
  if weekdayData.entries = [] then weekdayData else numbered (throughMax (slotsInOrder weekdayData))

/-- The table is filled with slots of the last temperature. -/
def fillSlots (slots : List ScheduleSlot) : List ScheduleSlot :=
  match slots.getLast? with
  | none => slots
  | some lastSlot =>
    slots ++ List.replicate (13 - slots.length)
      ⟨some (.text climateMaxSchedulerTime),
        some (lastSlot.temperature.getD defaultClimateFillTemperature)⟩

/-- `_normalize_weekday_data` of a table whose keys are numbers. -/
def normalizeWeekdayData (weekdayData : Dict Int ScheduleSlot) :
    Except ScheduleError (Dict Int ScheduleSlot) := do
  let keyed ← weekdayData.entries.mapM fun item => item.2.endMinutes.map (·, item.2)
  let sortedSlots := (keyed.insertionSort fun e e' => e.1 ≤ e'.1).map Prod.snd
  return numbered (fillSlots sortedSlots)

structure SimpleState where
  periods : List ClimateSchedulePeriod
  openRange : Option ClimateSchedulePeriod
  lastTemp : Option Rat
  previousEnd : String

/-- A range that is open until a slot's end. -/
def SimpleState.ofRange (periods : List ClimateSchedulePeriod) (starttime endtime : String)
    (temp : Rat) : Except ScheduleError SimpleState :=
  (ClimateSchedulePeriod.ofFields ⟨starttime, endtime, temp⟩).map fun openRange =>
    ⟨periods, some openRange, some temp, endtime⟩

/-- One slot: ranges of the same temperature are merged, and the base temperature is ignored. -/
def addSlot (baseTemperature : Rat) (st : SimpleState) (slot : ScheduleSlot) :
    Except ScheduleError SimpleState := do
  let endtimeMinutes ← slot.endMinutes
  let endtimeStr ← convertMinutesToTimeStr endtimeMinutes
  let temp ← slot.readTemperature
  let stop ← convertTimeStrToMinutes endtimeStr
  let previous ← convertTimeStrToMinutes st.previousEnd
  if stop < previous then throw .validation
  else if temp ≠ baseTemperature then
    match st.openRange with
    | none => SimpleState.ofRange st.periods st.previousEnd endtimeStr temp
    | some openRange =>
      if st.lastTemp = some temp then
        SimpleState.ofRange st.periods openRange.starttime endtimeStr temp
      else SimpleState.ofRange (st.periods ++ [openRange]) st.previousEnd endtimeStr temp
  else
    return ⟨st.periods ++ st.openRange.toList, none, none, endtimeStr⟩

def validateAndConvertWeekdayToSimple (bounds : Option (Rat × Rat))
    (weekdayData : Dict Int ScheduleSlot) : Except ScheduleError ClimateWeekdaySchedule := do
  let (minTemp, maxTemp) ← requireTempBounds bounds
  let baseTemperature ← identifyBaseTemperature weekdayData
  if ¬ (minTemp ≤ baseTemperature ∧ baseTemperature ≤ maxTemp) then throw .validation
  else
    let normalized ← normalizeWeekdayData (filterWeekdayEntries weekdayData)
    let st ← (slotsInOrder normalized).foldlM (addSlot baseTemperature)
      ⟨[], none, none, climateMinSchedulerTime⟩
    let periods ← sortPeriods (st.periods ++ st.openRange.toList)
    ClimateWeekdaySchedule.ofFields baseTemperature periods

end AioHomematic.Model

/-!
## Reading the schedule of a thermostat

The parameters `P1_ENDTIME_MONDAY_1` and `P1_TEMPERATURE_MONDAY_1` of a paramset,
the tables that they make, and the reload of the cached schedule. Events that tell
of a new schedule are left out.
-/

namespace AioHomematic.Model

open Lib Support

/-! ## Parameter names -/

inductive ScheduleProfile where
  | p1
  | p2
  | p3
  | p4
  | p5
  | p6
deriving DecidableEq

namespace ScheduleProfile

def all : List ScheduleProfile := [p1, p2, p3, p4, p5, p6]

def name : ScheduleProfile → String
  | p1 => "P1"
  | p2 => "P2"
  | p3 => "P3"
  | p4 => "P4"
  | p5 => "P5"
  | p6 => "P6"

end ScheduleProfile

inductive WeekdayStr where
  | monday
  | tuesday
  | wednesday
  | thursday
  | friday
  | saturday
  | sunday
deriving DecidableEq

namespace WeekdayStr

def all : List WeekdayStr := [monday, tuesday, wednesday, thursday, friday, saturday, sunday]

def name : WeekdayStr → String
  | monday => "MONDAY"
  | tuesday => "TUESDAY"
  | wednesday => "WEDNESDAY"
  | thursday => "THURSDAY"
  | friday => "FRIDAY"
  | saturday => "SATURDAY"
  | sunday => "SUNDAY"

end WeekdayStr

inductive SlotType where
  | endtime
  | temperature
deriving DecidableEq

def SlotType.name : SlotType → String
  | endtime => "ENDTIME"
  | temperature => "TEMPERATURE"

/-- What a parameter of a schedule is. -/
structure SlotName where
  profile : ScheduleProfile
  slotType : SlotType
  weekday : WeekdayStr
  slotNo : Int
deriving DecidableEq

/-- A name that `SCHEDULER_PROFILE_PATTERN` matches, taken apart. -/
def parseSlotName (slotName : String) : Option SlotName :=
  (split1 '_' slotName.toList).bind fun first =>
  (split1 '_' first.2).bind fun second =>
  (split1 '_' second.2).bind fun third =>
  (ScheduleProfile.all.find? (·.name.toList = first.1)).bind fun profile =>
  ([SlotType.endtime, .temperature].find? (·.name.toList = second.1)).bind fun slotType =>
  (WeekdayStr.all.find? (·.name.toList = third.1)).bind fun weekday =>
  (slotNumbers.find? (decimal · = third.2)).map fun slotNo =>
    ⟨profile, slotType, weekday, slotNo⟩

/-! ## The tables of a raw schedule -/

inductive RawValue where
  | int (n : Int)
  | float (x : Rat)
deriving DecidableEq

/-- A value as it is stored in a slot: an end time that is an integer becomes a text. -/
def storeValue (slot : ScheduleSlot) : SlotType → RawValue → Except ScheduleError ScheduleSlot
  | .endtime, .int n => do
    let timeStr ← convertMinutesToTimeStr n
    return { slot with endtime := some (.text timeStr) }
  | .endtime, .float x => .ok { slot with endtime := some (.float x) }
  | .temperature, .int n => .ok { slot with temperature := some n }
  | .temperature, .float x => .ok { slot with temperature := some x }

abbrev ProfileData := Dict WeekdayStr (Dict Int ScheduleSlot)

abbrev ScheduleData := Dict ScheduleProfile ProfileData

def addRawSlotValue (scheduleData : ScheduleData) (e : String × RawValue) :
    Except ScheduleError ScheduleData :=
  match parseSlotName e.1 with
  | none => .ok scheduleData
  | some name => do
    let profileData := (scheduleData.get? name.profile).getD .empty
    let weekdayData := (profileData.get? name.weekday).getD .empty
    let slot ← storeValue ((weekdayData.get? name.slotNo).getD {}) name.slotType e.2
    return scheduleData.set name.profile
      (profileData.set name.weekday (weekdayData.set name.slotNo slot))

/-- `convert_raw_to_dict_schedule`. -/
def ClimateWeekProfile.convertRawToDictSchedule (rawSchedule : Dict String RawValue) :
    Except ScheduleError ScheduleData :=
  rawSchedule.entries.foldlM addRawSlotValue .empty

/-! ## The simple schedule -/

abbrev ClimateProfileSchedule := Dict WeekdayStr ClimateWeekdaySchedule

abbrev ClimateSchedule := Dict ScheduleProfile ClimateProfileSchedule

def validateAndConvertProfileToSimple (bounds : Option (Rat × Rat)) (profileData : ProfileData) :
    Except ScheduleError ClimateProfileSchedule :=
  profileData.entries.foldlM
    (fun simpleProfile e => (validateAndConvertWeekdayToSimple bounds e.2).map
      (simpleProfile.set e.1))
    .empty

def validateAndConvertScheduleToSimple (bounds : Option (Rat × Rat)) (scheduleData : ScheduleData) :
    Except ScheduleError ClimateSchedule :=
  scheduleData.entries.foldlM
    (fun simpleSchedule e => (validateAndConvertProfileToSimple bounds e.2).map
      (simpleSchedule.set e.1))
    .empty

/-- `_get_raw_schedule`; there is no paramset where the device has no schedule channel or the client
raises. -/
def getRawSchedule (paramset : Option (Dict String RawValue)) :
    Except ScheduleError (Dict String RawValue) :=
  orRaise .validation (paramset.map fun rawData =>
    rawData.filterKeys fun key => (parseSlotName key).isSome)

/-- `_get_schedule_profile`. -/
def getScheduleProfile (bounds : Option (Rat × Rat)) (paramset : Option (Dict String RawValue)) :
    Except ScheduleError ClimateSchedule := do
  let rawSchedule ← getRawSchedule paramset
  let scheduleData ← ClimateWeekProfile.convertRawToDictSchedule rawSchedule
  validateAndConvertScheduleToSimple bounds scheduleData

/-- `reload_and_cache_schedule`: what it raises, and the cached schedule afterwards. -/
def reloadAndCacheSchedule (hasSchedule : Bool) (bounds : Option (Rat × Rat))
    (paramset : Option (Dict String RawValue)) (scheduleCache : ClimateSchedule) :
    Except ScheduleError Unit × ClimateSchedule :=
  if hasSchedule then
    match getScheduleProfile bounds paramset with
    | .ok newSchedule => (.ok (), newSchedule)
    | .error .validation => (.ok (), scheduleCache)
    | .error error => (.error error, scheduleCache)
  else (.ok (), scheduleCache)

end AioHomematic.Model
