import AioHomematic.Model.Schedule.Entry
import Mathlib.Algebra.Order.Ring.Unbundled.Rat

/-!
# Groups of a raw schedule

A group of `DEFAULT_SCHEDULE_GROUP` has the fields of a schedule that are
known, each of its own type; enumerations are the numbers that they stand for.
`convert_raw_group_to_simple_entry` and `convert_simple_entry_to_raw_group` of
`model/schedule_models.py` decode and encode it.
-/

namespace AioHomematic.Model

open Lib

inductive ScheduleField where
  | astroOffset
  | astroType
  | condition
  | durationBase
  | durationFactor
  | fixedHour
  | fixedMinute
  | level
  | level2
  | rampTimeBase
  | rampTimeFactor
  | targetChannels
  | weekday
deriving DecidableEq

namespace ScheduleField

def all : List ScheduleField :=
  [astroOffset, astroType, condition, durationBase, durationFactor, fixedHour, fixedMinute, level,
    level2, rampTimeBase, rampTimeFactor, targetChannels, weekday]

/-- The type of a field's value in a group. -/
abbrev Value : ScheduleField → Type
  | weekday => List WeekdayInt
  | targetChannels => List ScheduleActorChannel
  | level | level2 => Rat
  | _ => Int

end ScheduleField

abbrev ScheduleGroup := (field : ScheduleField) → Option field.Value

/-! ## Locks -/

namespace LockAction

def all : List LockAction :=
  [lockAutorelockEnd, lockAutorelockStart, unlockAutorelockEnd, autorelockEnd]

/-- `_LOCK_ACTION_TO_RAW`: level, duration base and duration factor. -/
def raw : LockAction → Rat × TimeBase × Int
  | lockAutorelockEnd => (0, .hour1, 31)
  | lockAutorelockStart => (0, .ms100, 0)
  | unlockAutorelockEnd => (1, .hour1, 31)
  | autorelockEnd => (1.01, .hour1, 31)

end LockAction

/-- `_LOCK_PERMISSION_TO_LEVEL`. -/
def LockPermission.level : LockPermission → Rat
  | granted => 1
  | notGranted => 0

def detectLockAction (level : Rat) (durBase durFactor : Int) : LockAction :=
  (LockAction.all.find? fun action =>
    level = action.raw.1 && durBase = action.raw.2.1.value && durFactor = action.raw.2.2).getD
      .lockAutorelockEnd

def detectLockMode (targetChannels : List ScheduleActorChannel) : LockMode :=
  if targetChannels.any fun c => startsWith c.text "1_" then .doorLock else .userPermission

def detectLockPermission (level : Rat) : LockPermission :=
  if 0.5 ≤ level then .granted else .notGranted

/-! ## Decoding -/

/-- What a base and a factor that are both set show; a base that is no `TimeBase` is an error. -/
def extractDuration (base factor : Option Int) : Option (Option String) :=
  match base, factor with
  | some base, some factor =>
    (TimeBase.ofValue? base).map fun base => some (convertBaseFactorToDuration base factor)
  | _, _ => some none

/-- The fields that `_DOMAIN_UNSUPPORTED_FIELDS` names for a domain are dropped. -/
def dropUnsupported : Option ScheduleDomain → EntryFields → EntryFields
  | none, e => e
  | some .switch, e => { e with level2 := none, rampTime := none }
  | some .light, e => { e with level2 := none }
  | some .cover, e => { e with rampTime := none, duration := none }
  | some .valve, e => { e with level2 := none, rampTime := none }
  | some .lock, e => { e with level2 := none, rampTime := none, duration := none }

def clamp (low high x : Rat) : Rat := max low (min high x)

/-- A group without weekdays is shown for Monday. -/
def weekdaysOrMonday : List WeekdayInt → List WeekdayInt
  | [] => [.monday]
  | weekdays => weekdays

theorem weekdaysOrMonday_of_ne {weekdays : List WeekdayInt} (h : weekdays ≠ []) :
    weekdaysOrMonday weekdays = weekdays := by
  cases weekdays with
  | nil => exact absurd rfl h
  | cons day days => rfl

theorem weekdaysOrMonday_ne_nil (weekdays : List WeekdayInt) : weekdaysOrMonday weekdays ≠ [] := by
  cases weekdays <;> exact List.cons_ne_nil _ _

/-- The fields that a group decodes to, `none` if one of them raises. -/
def decodeFields (group : ScheduleGroup) (domain : Option ScheduleDomain) : Option EntryFields :=
  let targetChannels := (group .targetChannels).getD []
  let level := clamp 0 1.01 ((group .level).getD 0)
  (ScheduleCondition.ofValue? ((group .condition).getD 0)).bind fun condition =>
  (AstroType.ofValue? ((group .astroType).getD 0)).bind fun astroType =>
  (if domain = some .lock then some none
    else extractDuration (group .durationBase) (group .durationFactor)).bind fun duration =>
  (extractDuration (group .rampTimeBase) (group .rampTimeFactor)).map fun rampTime =>
    let lockMode := if domain = some .lock then some (detectLockMode targetChannels) else none
    dropUnsupported domain
      { weekdays := weekdaysOrMonday ((group .weekday).getD [])
        time := convertHourMinuteToTime ((group .fixedHour).getD 0) ((group .fixedMinute).getD 0)
        condition
        astroType := if condition = .fixedTime then none else some astroType
        astroOffsetMinutes := (group .astroOffset).getD 0
        targetChannels
        level
        level2 := (group .level2).map (clamp 0 1)
        duration
        rampTime
        lockMode
        lockAction := if lockMode = some .doorLock then
            some (detectLockAction level ((group .durationBase).getD 7)
              ((group .durationFactor).getD 31))
          else none
        permission := if lockMode = some .userPermission then some (detectLockPermission level)
          else none }

/-- `none` is a `ValueError` or a `KeyError`. -/
def convertRawGroupToSimpleEntry (group : ScheduleGroup) (domain : Option ScheduleDomain) :
    Option SimpleScheduleEntry :=
  (decodeFields group domain).bind SimpleScheduleEntry.ofFields?

/-! ## Encoding -/

/-- The level and the duration of an entry; those of a lock follow from the action or the
permission, and there are none if the mode lacks it. -/
def encodeOutput (e : EntryFields) : Option Rat × Option (TimeBase × Int) :=
  match e.lockMode with
  | some .doorLock =>
    match e.lockAction with
    | some action => (some action.raw.1, some action.raw.2)
    | none => (none, none)
  | some .userPermission =>
    match e.permission with
    | some permission => (some permission.level, some (.hour1, 31))
    | none => (none, none)
  | none =>
    (some e.level, (e.duration.bind convertDurationToBaseFactor).map fun d => (d.1, d.2))

def convertSimpleEntryToRawGroup (e : SimpleScheduleEntry) : ScheduleGroup
  | .weekday => some e.weekdays
  | .fixedHour => (convertTimeToHourMinute e.time).map fun t => t.1
  | .fixedMinute => (convertTimeToHourMinute e.time).map fun t => t.2
  | .condition => some e.condition.value
  | .astroType => some (e.astroType.getD .sunrise).value
  | .astroOffset => some e.astroOffsetMinutes
  | .targetChannels => some e.targetChannels
  | .level => (encodeOutput e.toEntryFields).1
  | .durationBase => (encodeOutput e.toEntryFields).2.map fun d => d.1.value
  | .durationFactor => (encodeOutput e.toEntryFields).2.map fun d => d.2
  | .level2 => e.level2
  | .rampTimeBase => (e.rampTime.bind convertDurationToBaseFactor).map fun d => d.1.value
  | .rampTimeFactor => (e.rampTime.bind convertDurationToBaseFactor).map fun d => d.2

end AioHomematic.Model
