import AioHomematic.Support.Text

/-!
# Times and durations of a schedule

The conversions of `model/schedule_models.py` between the text of a time or a
duration and the numbers that the CCU keeps: hour and minute, and a time base
with a factor of at most 30. Texts have no white space around them (the models
strip it). `none` is a `ValueError`.
-/

namespace AioHomematic.Model

open Support

/-! ## Times -/

/-- `[01]?\d|2[0-3]`. -/
def hourPart : List Char → Option Nat
  | [h] => digit? h
  | [h, h'] =>
    if h = '0' then digit? h'
    else if h = '1' then (digit? h').map (10 + ·)
    else if h = '2' ∧ h' ∈ ['0', '1', '2', '3'] then (digit? h').map (20 + ·)
    else none
  | _ => none

/-- `[0-5]\d`. -/
def minutePart : List Char → Option Nat
  | [m, m'] =>
    if m ∈ ['0', '1', '2', '3', '4', '5'] then (digit? m').map (10 * number [m] + ·) else none
  | _ => none

/-- `convert_time_to_hour_minute`, of a text that matches `_TIME_PATTERN`. -/
def convertTimeToHourMinute (timeStr : String) : Option (Nat × Nat) :=
  (split1 ':' timeStr.toList).bind fun parts =>
    (hourPart parts.1).bind fun hour => (minutePart parts.2).map (hour, ·)

def convertHourMinuteToTime (hour minute : Int) : String :=
  String.ofList (decimal2 hour ++ ':' :: decimal2 minute)

theorem hourPart_decimal2 : ∀ hour < 24, hourPart (decimal2 (hour : Nat)) = some hour := by
  decide

theorem minutePart_decimal2 :
    ∀ minute < 60, minutePart (decimal2 (minute : Nat)) = some minute := by
  decide

theorem colon_not_mem_decimal2 : ∀ hour < 24, ':' ∉ decimal2 (hour : Nat) := by decide

theorem convertTimeToHourMinute_time {hour minute : Nat} (hh : hour < 24) (hm : minute < 60) :
    convertTimeToHourMinute (convertHourMinuteToTime hour minute) = some (hour, minute) := by
  rw [convertTimeToHourMinute, convertHourMinuteToTime, String.toList_ofList,
    split1_append (colon_not_mem_decimal2 hour hh), Option.bind_some]
  simp only [hourPart_decimal2 hour hh, minutePart_decimal2 minute hm, Option.bind_some,
    Option.map_some]

theorem hourPart_lt {s : List Char} {hour : Nat} (h : hourPart s = some hour) : hour < 24 := by
  unfold hourPart at h
  split at h
  · have := digit?_lt h
    omega
  · split at h
    · have := digit?_lt h
      omega
    split at h
    · obtain ⟨d, hd, rfl⟩ := Option.map_eq_some_iff.mp h
      have := digit?_lt hd
      omega
    split at h
    next hlast =>
      obtain ⟨d, hd, rfl⟩ := Option.map_eq_some_iff.mp h
      have hsmall : ∀ c ∈ ['0', '1', '2', '3'], (digit? c).all (· < 4) = true :=
        forall_mem_of_all (by decide)
      have := hsmall _ hlast.2
      rw [hd, Option.all_some, decide_eq_true_eq] at this
      omega
    · cases h
  · cases h

theorem minutePart_lt {s : List Char} {minute : Nat} (h : minutePart s = some minute) :
    minute < 60 := by
  unfold minutePart at h
  split at h
  next m m' =>
    split at h
    next hfirst =>
      obtain ⟨d, hd, rfl⟩ := Option.map_eq_some_iff.mp h
      have hlt := digit?_lt hd
      have htens : ∀ c ∈ ['0', '1', '2', '3', '4', '5'], number [c] < 6 :=
        forall_mem_of_all (by decide)
      have := htens m hfirst
      omega
    · cases h
  · cases h

/-- A time is a time of a day. -/
theorem convertTimeToHourMinute_lt {timeStr : String} {hour minute : Nat}
    (h : convertTimeToHourMinute timeStr = some (hour, minute)) : hour < 24 ∧ minute < 60 := by
  obtain ⟨parts, -, hparts⟩ := Option.bind_eq_some_iff.mp h
  obtain ⟨hour', hhour, hminute⟩ := Option.bind_eq_some_iff.mp hparts
  obtain ⟨minute', hpart, heq⟩ := Option.map_eq_some_iff.mp hminute
  obtain ⟨rfl, rfl⟩ := Prod.mk.injEq .. ▸ heq
  exact ⟨hourPart_lt hhour, minutePart_lt hpart⟩

/-! ## Durations -/

inductive TimeBase where
  | ms100
  | sec1
  | sec5
  | sec10
  | min1
  | min5
  | min10
  | hour1
deriving DecidableEq

namespace TimeBase

def value : TimeBase → Int
  | ms100 => 0
  | sec1 => 1
  | sec5 => 2
  | sec10 => 3
  | min1 => 4
  | min5 => 5
  | min10 => 6
  | hour1 => 7

/-- In ascending order, as `_TIME_BASE_IN_100MS` has them. -/
def all : List TimeBase := [ms100, sec1, sec5, sec10, min1, min5, min10, hour1]

/-- `TimeBase(value)`. -/
def ofValue? (n : Int) : Option TimeBase := all.find? (·.value = n)

/-- `_TIME_BASE_IN_100MS`. -/
def in100ms : TimeBase → Nat
  | ms100 => 1
  | sec1 => 10
  | sec5 => 50
  | sec10 => 100
  | min1 => 600
  | min5 => 3000
  | min10 => 6000
  | hour1 => 36000

end TimeBase

inductive DurationUnit where
  | ms
  | s
  | min
  | h
deriving DecidableEq

namespace DurationUnit

def chars : DurationUnit → List Char
  | ms => ['m', 's']
  | s => ['s']
  | min => ['m', 'i', 'n']
  | h => ['h']

def ofChars? (cs : List Char) : Option DurationUnit := [ms, s, min, h].find? (·.chars = cs)

/-- `_DURATION_UNIT_IN_100MS`; milliseconds are divided by 100 later. -/
def in100ms : DurationUnit → Nat
  | ms => 1
  | s => 10
  | min => 600
  | h => 36000

/-- `_NATURAL_BASE_INDEX`. -/
def naturalBaseIndex : DurationUnit → Nat
  | ms => 0
  | s => 1
  | min => 4
  | h => 7

end DurationUnit

/-- `_MAX_DURATION_FACTOR`. -/
def maxDurationFactor : Nat := 30

/-- `_DURATION_PATTERN`: a number, white space and a unit. -/
def durationParts (text : List Char) : Option (Nat × DurationUnit) :=
  let digits := text.takeWhile isDigit
  let rest := (text.dropWhile isDigit).dropWhile isSpace
  if digits = [] then none else (DurationUnit.ofChars? rest).map (number digits, ·)

/-- The steps of 100 ms that a number of units has. -/
def total100ms : Nat × DurationUnit → Option Nat
  | (value, .ms) => if value % 100 = 0 then some (value / 100) else none
  | (value, unit) => some (value * unit.in100ms)

/-- The first base from the natural one on that divides the total with a factor of at most 30. -/
def promote (unit : DurationUnit) (total : Nat) : Option (TimeBase × Nat) :=
  ((TimeBase.all.drop unit.naturalBaseIndex).find? fun base =>
    total % base.in100ms = 0 && total / base.in100ms ≤ maxDurationFactor).map
      fun base => (base, total / base.in100ms)

def convertDurationToBaseFactor (durationStr : String) : Option (TimeBase × Nat) :=
  (durationParts durationStr.toList).bind fun parts =>
    (total100ms parts).bind (promote parts.2)

/-- The unit and the multiplier of `base_to_unit`. -/
def TimeBase.unit : TimeBase → DurationUnit × Int
  | ms100 => (.ms, 100)
  | sec1 => (.s, 1)
  | sec5 => (.s, 5)
  | sec10 => (.s, 10)
  | min1 => (.min, 1)
  | min5 => (.min, 5)
  | min10 => (.min, 10)
  | hour1 => (.h, 1)

def convertBaseFactorToDuration (base : TimeBase) (factor : Int) : String :=
  String.ofList (decimal (factor * base.unit.2) ++ base.unit.1.chars)

/-- What a duration stands for, in steps of 100 ms. -/
def durationIn100ms (durationStr : String) : Option Nat :=
  (durationParts durationStr.toList).bind total100ms

theorem of_promote {unit : DurationUnit} {total : Nat} {base : TimeBase} {factor : Nat}
    (h : promote unit total = some (base, factor)) :
    factor ≤ maxDurationFactor ∧ total = factor * base.in100ms := by
  obtain ⟨base', hfind, heq⟩ := Option.map_eq_some_iff.mp h
  obtain ⟨rfl, rfl⟩ := Prod.mk.injEq .. ▸ heq
  have hfits := List.find?_some hfind
  simp only [Bool.and_eq_true, decide_eq_true_eq] at hfits
  exact ⟨hfits.2, (Nat.div_mul_cancel (Nat.dvd_of_mod_eq_zero hfits.1)).symm⟩

theorem of_convertDurationToBaseFactor {durationStr : String} {base : TimeBase} {factor : Nat}
    (h : convertDurationToBaseFactor durationStr = some (base, factor)) :
    factor ≤ maxDurationFactor ∧ durationIn100ms durationStr = some (factor * base.in100ms) := by
  obtain ⟨parts, hparts, h⟩ := Option.bind_eq_some_iff.mp h
  obtain ⟨total, htotal, h⟩ := Option.bind_eq_some_iff.mp h
  obtain ⟨hfactor, rfl⟩ := of_promote h
  refine ⟨hfactor, ?_⟩
  rw [durationIn100ms, hparts, Option.bind_some, htotal]

theorem durationParts_decimal : ∀ base ∈ TimeBase.all, ∀ factor < 32,
    durationParts (decimal ((factor : Nat) * base.unit.2) ++ base.unit.1.chars) =
      some (factor * base.unit.2.toNat, base.unit.1) := by
  decide

theorem total100ms_unit : ∀ base ∈ TimeBase.all, ∀ factor < 32,
    total100ms (factor * base.unit.2.toNat, base.unit.1) = some (factor * base.in100ms) := by
  decide

/-- A factor of at most 30 survives, 31 does for no base. -/
theorem promote_unit : ∀ base ∈ TimeBase.all, ∀ factor < 32,
    (promote base.unit.1 (factor * base.in100ms)).isSome = decide (factor ≤ maxDurationFactor) := by
  decide

theorem mem_all (base : TimeBase) : base ∈ TimeBase.all := by
  cases base <;> decide

theorem durationParts_duration (base : TimeBase) {factor : Nat} (h : factor < 32) :
    durationParts (convertBaseFactorToDuration base factor).toList =
      some (factor * base.unit.2.toNat, base.unit.1) := by
  rw [convertBaseFactorToDuration, String.toList_ofList]
  exact durationParts_decimal base (mem_all base) factor h

theorem durationIn100ms_duration (base : TimeBase) {factor : Nat} (h : factor < 32) :
    durationIn100ms (convertBaseFactorToDuration base factor) = some (factor * base.in100ms) := by
  rw [durationIn100ms, durationParts_duration base h, Option.bind_some]
  exact total100ms_unit base (mem_all base) factor h

theorem isSome_convertDurationToBaseFactor (base : TimeBase) {factor : Nat} (h : factor < 32) :
    (convertDurationToBaseFactor (convertBaseFactorToDuration base factor)).isSome =
      decide (factor ≤ maxDurationFactor) := by
  rw [convertDurationToBaseFactor, durationParts_duration base h, Option.bind_some,
    total100ms_unit base (mem_all base) factor h, Option.bind_some]
  exact promote_unit base (mem_all base) factor h

end AioHomematic.Model
