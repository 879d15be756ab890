import AioHomematic.Model.Schedule.Group
import AioHomematic.Support.Address
import Mathlib.Data.Rat.Floor
import Mathlib.Logic.Function.Basic

/-!
# The week profile of a device that is no thermostat

`DefaultWeekProfile` of `model/week_profile.py`: the parameters `NN_WP_FIELD` of
a paramset and the entries of a `SimpleSchedule`, with what is written to the
device and what is read from it. Values are numbers, whether the CCU gives them
as integers or as floats.
-/

namespace AioHomematic.Model

open Lib Support

/-! ## Parameter names -/

namespace ScheduleField

/-- The name of a field, which is its value too. -/
def name : ScheduleField → String
  | astroOffset => "ASTRO_OFFSET"
  | astroType => "ASTRO_TYPE"
  | condition => "CONDITION"
  | durationBase => "DURATION_BASE"
  | durationFactor => "DURATION_FACTOR"
  | fixedHour => "FIXED_HOUR"
  | fixedMinute => "FIXED_MINUTE"
  | level => "LEVEL"
  | level2 => "LEVEL_2"
  | rampTimeBase => "RAMP_TIME_BASE"
  | rampTimeFactor => "RAMP_TIME_FACTOR"
  | targetChannels => "TARGET_CHANNELS"
  | weekday => "WEEKDAY"

/-- `ScheduleField[name]`; `none` is a `KeyError`. -/
def ofName? (name : List Char) : Option ScheduleField := all.find? (·.name.toList = name)

end ScheduleField

/-- `f"{group_no:02d}_WP_{field.value}"`. -/
def scheduleKey (groupNo : Int) (field : ScheduleField) : String :=
  String.ofList (decimal2 groupNo ++ '_' :: 'W' :: 'P' :: '_' :: field.name.toList)

/-- `key.split("_", 2)`, if there are three parts. -/
def split2 (key : String) : Option (List Char × List Char × List Char) :=
  (split1 '_' key.toList).bind fun parts => (split1 '_' parts.2).map (parts.1, ·)

/-- The group and the field of a parameter; `none` if the entry is skipped. -/
def parseKey (key : String) : Option (Int × ScheduleField) :=
  (split2 key).bind fun parts =>
    if parts.2.1 = ['W', 'P'] then
      (int? parts.1).bind fun groupNo => (ScheduleField.ofName? parts.2.2).map (groupNo, ·)
    else none

/-- What `SCHEDULE_PATTERN` leaves of a key that it matches. -/
def matchSchedulePattern (key : String) : Option (List Char) :=
  (split2 key).bind fun parts =>
    if parts.1 ≠ [] ∧ parts.1.all isDigit = true ∧ parts.2.1 = ['W', 'P'] then some parts.2.2
    else none

/-! ## Values -/

/-- `int(value)`. -/
def truncate (value : Rat) : Int := if 0 ≤ value then value.floor else value.ceil

/-- `_convert_raw_schedule_value`. -/
def convertRawScheduleValue (value : Rat) : (field : ScheduleField) → field.Value
  | .weekday => weekdayFlags.ofMask (truncate value)
  | .targetChannels => channelFlags.ofMask (truncate value)
  | .level => value
  | .level2 => value
  | .astroOffset => truncate value
  | .astroType => truncate value
  | .condition => truncate value
  | .durationBase => truncate value
  | .durationFactor => truncate value
  | .fixedHour => truncate value
  | .fixedMinute => truncate value
  | .rampTimeBase => truncate value
  | .rampTimeFactor => truncate value

/-- The number that is sent for a field. -/
def rawScheduleValue : (field : ScheduleField) → field.Value → Rat
  | .weekday, weekdays => weekdayFlags.toMask weekdays
  | .targetChannels, channels => channelFlags.toMask channels
  | .level, level => level
  | .level2, level2 => level2
  | .astroOffset, n => (n : Int)
  | .astroType, n => (n : Int)
  | .condition, n => (n : Int)
  | .durationBase, n => (n : Int)
  | .durationFactor, n => (n : Int)
  | .fixedHour, n => (n : Int)
  | .fixedMinute, n => (n : Int)
  | .rampTimeBase, n => (n : Int)
  | .rampTimeFactor, n => (n : Int)

/-! ## `SimpleSchedule` -/

/-- Groups are numbered from 1 to 24. -/
def isGroupNo (groupNo : Int) : Bool := decide (1 ≤ groupNo ∧ groupNo ≤ 24)

structure SimpleSchedule where
  entries : Dict Int SimpleScheduleEntry
  accepted : ∀ groupNo ∈ entries.keys, isGroupNo groupNo = true

namespace SimpleSchedule

/-- The constructor of the model; `none` is a `ValidationError`. -/
def ofEntries? (entries : Dict Int SimpleScheduleEntry) : Option SimpleSchedule :=
  if h : ∀ groupNo ∈ entries.keys, isGroupNo groupNo = true then some ⟨entries, h⟩ else none

end SimpleSchedule

/-! ## Writing -/

/-- The order in which `convert_simple_entry_to_raw_group` sets the fields. -/
def fieldOrder : List ScheduleField :=
  [.weekday, .fixedHour, .fixedMinute, .condition, .astroType, .astroOffset, .targetChannels,
    .level, .durationBase, .durationFactor, .level2, .rampTimeBase, .rampTimeFactor]

/-- The parameters of a group. -/
def groupValues (groupNo : Int) (group : ScheduleGroup) : List (String × Rat) :=
  fieldOrder.filterMap fun field =>
    (group field).map fun value => (scheduleKey groupNo field, rawScheduleValue field value)

/-- The parameters that deactivate a group. -/
def clearedValues (groupNo : Int) : List (String × Rat) :=
  [(scheduleKey groupNo .weekday, 0), (scheduleKey groupNo .targetChannels, 0)]

def groupNumbers : List Int := (List.range 24).map fun n : Nat => (n : Int) + 1

def convertDictToRawSchedule (s : SimpleSchedule) : Dict String Rat :=
  Dict.empty.assign
    ((s.entries.entries.flatMap fun e => groupValues e.1 (convertSimpleEntryToRawGroup e.2)) ++
      (groupNumbers.filter fun groupNo => !s.entries.contains groupNo).flatMap clearedValues)

/-! ## Reading -/

/-- A value is set in its group. -/
def addRawValue (groups : Dict Int ScheduleGroup) (e : String × Rat) : Dict Int ScheduleGroup :=
  match parseKey e.1 with
  | none => groups
  | some (groupNo, field) =>
    groups.set groupNo (Function.update ((groups.get? groupNo).getD fun _ => none) field
      (some (convertRawScheduleValue e.2 field)))

/-- The intermediate groups of a raw schedule. -/
def rawGroups (rawSchedule : Dict String Rat) : Dict Int ScheduleGroup :=
  rawSchedule.entries.foldl addRawValue .empty

def isScheduleActive (group : ScheduleGroup) : Bool := !((group .weekday).getD []).isEmpty

/-- The entry of an active group that can be converted. -/
def activeEntry (domain : Option ScheduleDomain) (group : ScheduleGroup) :
    Option SimpleScheduleEntry :=
  if isScheduleActive group then convertRawGroupToSimpleEntry group domain else none

/-- The entries of the groups; those that cannot be converted are left out. -/
def scheduleEntries (rawSchedule : Dict String Rat) (domain : Option ScheduleDomain) :
    Dict Int SimpleScheduleEntry :=
  (rawGroups rawSchedule).entries.foldl
    (fun entries e => entries.set? e.1 (activeEntry domain e.2)) .empty

/-- `none` is a `ValidationError`. -/
def convertRawToDictSchedule (rawSchedule : Dict String Rat) (domain : Option ScheduleDomain) :
    Option SimpleSchedule :=
  SimpleSchedule.ofEntries? (scheduleEntries rawSchedule domain)

/-! ## The device -/

/-- `_convert_schedule_entries`. -/
def convertScheduleEntries (values : Dict String Rat) : Dict String Rat :=
  values.filterKeys fun key => (matchSchedulePattern key).isSome

/-- `_filter_raw_schedule_by_supported_fields`. -/
def filterRawScheduleBySupportedFields (supportedFields : List ScheduleField)
    (rawSchedule : Dict String Rat) : Dict String Rat :=
  if supportedFields = [] then rawSchedule
  else rawSchedule.filterKeys fun key =>
    match (matchSchedulePattern key).bind ScheduleField.ofName? with
    | some field => decide (field ∈ supportedFields)
    | none => true

/-- The parameters that `set_schedule` sends. -/
def sentValues (supportedFields : List ScheduleField) (s : SimpleSchedule) : Dict String Rat :=
  filterRawScheduleBySupportedFields supportedFields
    (convertScheduleEntries (convertDictToRawSchedule s))

/-- The paramset of the device after `put_paramset`, which changes only what is sent. -/
def setSchedule (supportedFields : List ScheduleField) (paramset : Dict String Rat)
    (s : SimpleSchedule) : Dict String Rat :=
  paramset.merge (sentValues supportedFields s)

/-- `get_schedule` of a forced reload; `none` if there is nothing to read or it is not accepted. -/
def getSchedule (paramset : Dict String Rat) (domain : Option ScheduleDomain) :
    Option SimpleSchedule :=
  let schedule := convertScheduleEntries paramset
  if schedule.entries = [] then none else convertRawToDictSchedule schedule domain

end AioHomematic.Model
