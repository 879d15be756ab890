import AioHomematic.Const
import AioHomematic.Lib.BitMask
import AioHomematic.Lib.Dict
import AioHomematic.Model.Schedule.Duration
import Mathlib.Data.Rat.Defs

/-!
# Schedule entries

`SimpleScheduleEntry` and `SimpleSchedule` of `model/schedule_models.py`, with
what their validators accept. The literals of the models are the enumerations
that they stand for. Levels are only copied and compared, so a decimal stands
for its float.
-/

namespace AioHomematic.Model

open Lib

/-! ## The enumerations -/

inductive WeekdayInt where
  | sunday
  | monday
  | tuesday
  | wednesday
  | thursday
  | friday
  | saturday
deriving DecidableEq

def weekdayFlags : Flags WeekdayInt where
  items := [.sunday, .monday, .tuesday, .wednesday, .thursday, .friday, .saturday]
  bit := fun
    | .sunday => 0
    | .monday => 1
    | .tuesday => 2
    | .wednesday => 3
    | .thursday => 4
    | .friday => 5
    | .saturday => 6
  mem_items := fun a => by cases a <;> decide
  bit_injective := fun a b => by cases a <;> cases b <;> decide

/-- `CHANNEL_X_Y` with `X` from 1 to 8 and `Y` from 1 to 3, both counted from 0 here. -/
structure ScheduleActorChannel where
  actor : Fin 8
  channel : Fin 3
deriving DecidableEq

def channelFlags : Flags ScheduleActorChannel where
  items := (List.finRange 8).flatMap fun actor => (List.finRange 3).map (⟨actor, ·⟩)
  bit := fun c => 3 * c.actor + c.channel
  mem_items := fun ⟨actor, channel⟩ => by
    simp [List.mem_flatMap]
  bit_injective := fun ⟨a, c⟩ ⟨a', c'⟩ h => by
    have ha := a.isLt
    have hc := c.isLt
    have hc' := c'.isLt
    simp only at h
    simp only [ScheduleActorChannel.mk.injEq, Fin.ext_iff]
    omega

/-- The text of a channel, as `_CHANNEL_ENUM_TO_STR` has it. -/
def ScheduleActorChannel.text (c : ScheduleActorChannel) : String :=
  String.ofList (Support.decimal (c.actor + 1) ++ '_' :: Support.decimal (c.channel + 1))

inductive ScheduleCondition where
  | fixedTime
  | astro
  | fixedIfBeforeAstro
  | astroIfBeforeFixed
  | fixedIfAfterAstro
  | astroIfAfterFixed
  | earliestOfFixedAndAstro
  | latestOfFixedAndAstro
deriving DecidableEq

namespace ScheduleCondition

def all : List ScheduleCondition :=
  [fixedTime, astro, fixedIfBeforeAstro, astroIfBeforeFixed, fixedIfAfterAstro, astroIfAfterFixed,
    earliestOfFixedAndAstro, latestOfFixedAndAstro]

def value : ScheduleCondition → Int
  | fixedTime => 0
  | astro => 1
  | fixedIfBeforeAstro => 2
  | astroIfBeforeFixed => 3
  | fixedIfAfterAstro => 4
  | astroIfAfterFixed => 5
  | earliestOfFixedAndAstro => 6
  | latestOfFixedAndAstro => 7

/-- `ScheduleCondition(value)`. -/
def ofValue? (n : Int) : Option ScheduleCondition := all.find? (·.value = n)

@[simp] theorem ofValue?_value (c : ScheduleCondition) : ofValue? c.value = some c := by
  cases c <;> decide

end ScheduleCondition

inductive AstroType where
  | sunrise
  | sunset
deriving DecidableEq

namespace AstroType

def value : AstroType → Int
  | sunrise => 0
  | sunset => 1

/-- `AstroType(value)`. -/
def ofValue? (n : Int) : Option AstroType := [sunrise, sunset].find? (·.value = n)

@[simp] theorem ofValue?_value (a : AstroType) : ofValue? a.value = some a := by
  cases a <;> decide

end AstroType

@[simp] theorem TimeBase.ofValue?_value (b : TimeBase) : ofValue? b.value = some b := by
  cases b <;> decide

inductive LockMode where
  | doorLock
  | userPermission
deriving DecidableEq

inductive LockAction where
  | lockAutorelockEnd
  | lockAutorelockStart
  | unlockAutorelockEnd
  | autorelockEnd
deriving DecidableEq

inductive LockPermission where
  | granted
  | notGranted
deriving DecidableEq

/-- `SCHEDULE_DOMAINS`. -/
inductive ScheduleDomain where
  | switch
  | light
  | cover
  | valve
  | lock
deriving DecidableEq

/-! ## `SimpleScheduleEntry` -/

/-- The fields of an entry, before they are validated. -/
structure EntryFields where
  weekdays : List WeekdayInt
  time : String
  condition : ScheduleCondition := .fixedTime
  astroType : Option AstroType := none
  astroOffsetMinutes : Int := 0
  targetChannels : List ScheduleActorChannel := []
  level : Rat
  level2 : Option Rat := none
  duration : Option String := none
  rampTime : Option String := none
  lockMode : Option LockMode := none
  lockAction : Option LockAction := none
  permission : Option LockPermission := none
deriving DecidableEq

namespace EntryFields

variable (e : EntryFields)

/-- `validate_duration_format`. -/
def durationAccepted (duration : Option String) : Bool :=
  duration.all fun text => (convertDurationToBaseFactor text).isSome

/-- What the fields and the validators of the model accept, whatever the domain. -/
def accepted : Bool :=
  decide (e.weekdays ≠ []) &&
    (convertTimeToHourMinute e.time).isSome &&
    decide (-720 ≤ e.astroOffsetMinutes ∧ e.astroOffsetMinutes ≤ 720) &&
    decide (0 ≤ e.level ∧ e.level ≤ 1.01) &&
    e.level2.all (fun level2 => decide (0 ≤ level2 ∧ level2 ≤ 1)) &&
    durationAccepted e.duration &&
    durationAccepted e.rampTime &&
    (decide (e.condition = .fixedTime) || e.astroType.isSome)

/-- The validator of a domain, as `_DOMAIN_VALIDATORS` has it. -/
def acceptedBy : ScheduleDomain → Bool
  | .switch => decide (e.level = 0 ∨ e.level = 1) && e.level2.isNone && e.rampTime.isNone
  | .light => e.level2.isNone
  | .cover => e.rampTime.isNone && e.duration.isNone
  | .valve => e.level2.isNone && e.rampTime.isNone
  | .lock =>
    (match e.lockMode with
      | none => false
      | some .doorLock => e.lockAction.isSome && e.permission.isNone
      | some .userPermission => e.permission.isSome && e.lockAction.isNone) &&
      e.level2.isNone && e.rampTime.isNone && e.duration.isNone

/-- What `accepted` tells of the fields. -/
structure Accepted (e : EntryFields) : Prop where
  weekdays : e.weekdays ≠ []
  time : (convertTimeToHourMinute e.time).isSome
  astroOffset : -720 ≤ e.astroOffsetMinutes ∧ e.astroOffsetMinutes ≤ 720
  level : 0 ≤ e.level ∧ e.level ≤ 1.01
  level2 : ∀ level2 ∈ e.level2, 0 ≤ level2 ∧ level2 ≤ 1
  duration : ∀ duration ∈ e.duration, (convertDurationToBaseFactor duration).isSome
  rampTime : ∀ rampTime ∈ e.rampTime, (convertDurationToBaseFactor rampTime).isSome
  astroType : e.condition ≠ .fixedTime → e.astroType.isSome

variable {e}

theorem accepted_iff : e.accepted = true ↔ e.Accepted := by
  simp only [accepted, durationAccepted, Bool.and_eq_true, decide_eq_true_eq, Option.all_eq_true,
    Bool.or_eq_true, or_iff_not_imp_left]
  constructor
  · rintro ⟨⟨⟨⟨⟨⟨⟨hweekdays, htime⟩, hoffset⟩, hlevel⟩, hlevel2⟩, hduration⟩, hramp⟩, hastro⟩
    exact ⟨hweekdays, htime, hoffset, hlevel, hlevel2, hduration, hramp, hastro⟩
  · rintro ⟨hweekdays, htime, hoffset, hlevel, hlevel2, hduration, hramp, hastro⟩
    exact ⟨⟨⟨⟨⟨⟨⟨hweekdays, htime⟩, hoffset⟩, hlevel⟩, hlevel2⟩, hduration⟩, hramp⟩, hastro⟩

end EntryFields

structure SimpleScheduleEntry extends EntryFields where
  accepted : toEntryFields.accepted = true
deriving DecidableEq

namespace SimpleScheduleEntry

/-- The constructor of the model; `none` is a `ValidationError`. -/
def ofFields? (e : EntryFields) : Option SimpleScheduleEntry :=
  if h : e.accepted = true then some ⟨e, h⟩ else none

theorem of_ofFields? {e : EntryFields} {entry : SimpleScheduleEntry}
    (h : ofFields? e = some entry) : entry.toEntryFields = e := by
  simp only [ofFields?] at h
  split at h
  · obtain rfl := Option.some.inj h
    rfl
  · cases h

theorem isSome_ofFields? {e : EntryFields} : (ofFields? e).isSome ↔ e.Accepted := by
  rw [← EntryFields.accepted_iff, ofFields?]
  split
  next h => simpa using h
  next h => simpa using h

end SimpleScheduleEntry

end AioHomematic.Model
