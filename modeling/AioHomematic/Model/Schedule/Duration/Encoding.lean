import AioHomematic.Model.Schedule.Duration
import Mathlib.Tactic.Ring

/-!
# Which durations can be encoded

`convert_duration_to_base_factor` of any text, with what the pattern and `int`
do at its edges. The search for a base starts at the natural one of the unit.
`isSome_promote_iff` says that no shorter base would have helped, and
`encodeDuration_iff` that the search finds a base whenever there is one.
-/

namespace AioHomematic.Model

open Support

/-! ## The parser -/

/-- `sys.int_info.default_max_str_digits`: `int` refuses more digits. -/
def maxStrDigits : Nat := 4300

/-- `$` also matches before a line break at the end of the text. -/
def withoutLineBreak (text : List Char) : List Char :=
  if text.getLast? = some '\n' then text.dropLast else text

/-- What the parser reads, `none` where it raises. -/
def matchDuration (durationStr : String) : Option (Nat × DurationUnit) :=
  let text := withoutLineBreak durationStr.toList
  if maxStrDigits < (text.takeWhile isDigit).length then none else durationParts text

/-- `convert_duration_to_base_factor`. -/
def encodeDuration (durationStr : String) : Option (TimeBase × Nat) :=
  (matchDuration durationStr).bind fun parts => (total100ms parts).bind (promote parts.2)

/-- The texts of the models, which are stripped. -/
theorem encodeDuration_eq {durationStr : String} (hbreak : durationStr.toList.getLast? ≠ some '\n')
    (hshort : durationStr.toList.length ≤ maxStrDigits) :
    encodeDuration durationStr = convertDurationToBaseFactor durationStr := by
  have hdigits : (durationStr.toList.takeWhile isDigit).length ≤ maxStrDigits :=
    Nat.le_trans (List.takeWhile_sublist isDigit).length_le hshort
  rw [encodeDuration, matchDuration, withoutLineBreak, if_neg hbreak,
    if_neg (Nat.not_lt.mpr hdigits)]
  rfl

/-! ## What a duration lasts -/

def DurationUnit.milliseconds : DurationUnit → Nat
  | ms => 1
  | s => 1000
  | min => 60000
  | h => 3600000

/-- The milliseconds of a number of units. -/
def milliseconds (parts : Nat × DurationUnit) : Nat := parts.1 * parts.2.milliseconds

def TimeBase.milliseconds (base : TimeBase) : Nat := 100 * base.in100ms

theorem total100ms_eq_some {parts : Nat × DurationUnit} {total : Nat} :
    total100ms parts = some total ↔ milliseconds parts = 100 * total := by
  obtain ⟨value, unit⟩ := parts
  cases unit with
  | ms =>
    simp only [total100ms, milliseconds, DurationUnit.milliseconds]
    split
    next h =>
      rw [Option.some_inj]
      omega
    next h => exact iff_of_false nofun (by omega)
  | s | min | h =>
    simp only [total100ms, milliseconds, DurationUnit.milliseconds, DurationUnit.in100ms,
      Option.some_inj]
    omega

/-! ## The search -/

/-- The base where the search starts. -/
def DurationUnit.naturalBase : DurationUnit → TimeBase
  | ms => .ms100
  | s => .sec1
  | min => .min1
  | h => .hour1

theorem naturalBase_mem : ∀ unit : DurationUnit,
    unit.naturalBase ∈ TimeBase.all.drop unit.naturalBaseIndex
  | .ms | .s | .min | .h => by decide

theorem in100ms_naturalBase : ∀ unit : DurationUnit, unit.naturalBase.in100ms = unit.in100ms
  | .ms | .s | .min | .h => rfl

/-- What comes before the natural base is shorter. -/
theorem mem_drop_or_shorter (unit : DurationUnit) (base : TimeBase) :
    base ∈ TimeBase.all.drop unit.naturalBaseIndex ∨ base.in100ms ≤ unit.in100ms := by
  cases unit <;> cases base <;> decide

theorem in100ms_pos (base : TimeBase) : 0 < base.in100ms := by
  cases base <;> decide

/-- A factor with a base is found if the search comes by the base. -/
theorem isSome_promote_of_mem {unit : DurationUnit} {base : TimeBase} {factor : Nat}
    (hbase : base ∈ TimeBase.all.drop unit.naturalBaseIndex) (hfactor : factor ≤ maxDurationFactor) :
    (promote unit (factor * base.in100ms)).isSome = true := by
  rw [promote, Option.isSome_map, List.find?_isSome]
  refine ⟨base, hbase, ?_⟩
  rw [Nat.mul_mod_left, Nat.mul_div_cancel _ (in100ms_pos base)]
  simpa using hfactor

/-- A total of whole units is found if there is any base for it. -/
theorem isSome_promote_iff {unit : DurationUnit} {total : Nat} (hunit : unit.in100ms ∣ total) :
    (promote unit total).isSome = true ↔
      ∃ (base : TimeBase) (factor : Nat), factor ≤ maxDurationFactor ∧
        factor * base.in100ms = total := by
  constructor
  · intro h
    obtain ⟨⟨base, factor⟩, hpromote⟩ := Option.isSome_iff_exists.mp h
    obtain ⟨hfactor, heq⟩ := of_promote hpromote
    exact ⟨base, factor, hfactor, heq.symm⟩
  · rintro ⟨base, factor, hfactor, heq⟩
    rcases mem_drop_or_shorter unit base with hbase | hshorter
    · exact heq ▸ isSome_promote_of_mem hbase hfactor
    · -- The total is then so short that the natural base has a factor for it.
      obtain ⟨value, rfl⟩ := hunit
      have hpos : 0 < unit.in100ms := in100ms_naturalBase unit ▸ in100ms_pos unit.naturalBase
      have hle : unit.in100ms * value ≤ unit.in100ms * maxDurationFactor := by
        calc unit.in100ms * value = factor * base.in100ms := heq.symm
          _ ≤ maxDurationFactor * unit.in100ms := Nat.mul_le_mul hfactor hshorter
          _ = unit.in100ms * maxDurationFactor := Nat.mul_comm _ _
      have hvalue : value ≤ maxDurationFactor := Nat.le_of_mul_le_mul_left hle hpos
      rw [Nat.mul_comm, ← in100ms_naturalBase]
      exact isSome_promote_of_mem (naturalBase_mem unit) hvalue

theorem in100ms_dvd {parts : Nat × DurationUnit} {total : Nat}
    (h : total100ms parts = some total) : parts.2.in100ms ∣ total := by
  obtain ⟨value, unit⟩ := parts
  cases unit with
  | ms => exact Nat.one_dvd total
  | s | min | h => exact ⟨value, by rw [← Option.some.inj h, Nat.mul_comm]⟩

/-! ## Encoding -/

theorem of_encodeDuration {durationStr : String} {parts : Nat × DurationUnit} {base : TimeBase}
    {factor : Nat} (hparts : matchDuration durationStr = some parts)
    (h : encodeDuration durationStr = some (base, factor)) :
    factor ≤ maxDurationFactor ∧ factor * base.milliseconds = milliseconds parts := by
  rw [encodeDuration, hparts, Option.bind_some] at h
  obtain ⟨total, htotal, hpromote⟩ := Option.bind_eq_some_iff.mp h
  obtain ⟨hfactor, rfl⟩ := of_promote hpromote
  refine ⟨hfactor, ?_⟩
  rw [total100ms_eq_some.mp htotal, TimeBase.milliseconds]
  ring

theorem isSome_encodeDuration_iff {durationStr : String} {parts : Nat × DurationUnit}
    (hparts : matchDuration durationStr = some parts) :
    (encodeDuration durationStr).isSome = true ↔
      ∃ (base : TimeBase) (factor : Nat), factor ≤ maxDurationFactor ∧
        factor * base.milliseconds = milliseconds parts := by
  constructor
  · intro h
    obtain ⟨⟨base, factor⟩, hencode⟩ := Option.isSome_iff_exists.mp h
    exact ⟨base, factor, of_encodeDuration hparts hencode⟩
  · rintro ⟨base, factor, hfactor, heq⟩
    have htotal : total100ms parts = some (factor * base.in100ms) := by
      rw [total100ms_eq_some, ← heq, TimeBase.milliseconds]
      ring
    rw [encodeDuration, hparts, Option.bind_some, htotal, Option.bind_some,
      isSome_promote_iff (in100ms_dvd htotal)]
    exact ⟨base, factor, hfactor, rfl⟩

/-- The texts that `convert_base_factor_to_duration` writes are short and have no line break. -/
theorem withoutLineBreak_decimal : ∀ base ∈ TimeBase.all, ∀ factor < 32,
    withoutLineBreak (decimal ((factor : Nat) * base.unit.2) ++ base.unit.1.chars) =
        decimal ((factor : Nat) * base.unit.2) ++ base.unit.1.chars ∧
      (decimal ((factor : Nat) * base.unit.2) ++ base.unit.1.chars).length ≤ maxStrDigits := by
  decide

theorem matchDuration_duration (base : TimeBase) {factor : Nat} (h : factor < 32) :
    matchDuration (convertBaseFactorToDuration base factor) =
      some (factor * base.unit.2.toNat, base.unit.1) := by
  obtain ⟨hbreak, hshort⟩ := withoutLineBreak_decimal base (mem_all base) factor h
  have hdigits : ((decimal ((factor : Nat) * base.unit.2) ++
      base.unit.1.chars).takeWhile isDigit).length ≤ maxStrDigits :=
    Nat.le_trans (List.takeWhile_sublist isDigit).length_le hshort
  rw [matchDuration, convertBaseFactorToDuration, String.toList_ofList, hbreak,
    if_neg (Nat.not_lt.mpr hdigits)]
  exact durationParts_decimal base (mem_all base) factor h

theorem milliseconds_duration (base : TimeBase) {factor : Nat} (h : factor < 32) :
    milliseconds (factor * base.unit.2.toNat, base.unit.1) = factor * base.milliseconds := by
  rw [total100ms_eq_some.mp (total100ms_unit base (mem_all base) factor h), TimeBase.milliseconds]
  ring

/-- A duration is encoded if any base has a factor for it, as this duration, and the text made of
base and factor is a text of this duration. -/
theorem encodeDuration_iff (durationStr : String) (parts : Nat × DurationUnit)
    (hparts : matchDuration durationStr = some parts) :
    ((encodeDuration durationStr).isSome = true ↔
        ∃ (base : TimeBase) (factor : Nat), factor ≤ maxDurationFactor ∧
          factor * base.milliseconds = milliseconds parts) ∧
      ∀ base factor, encodeDuration durationStr = some (base, factor) →
        factor ≤ maxDurationFactor ∧ factor * base.milliseconds = milliseconds parts ∧
        ∃ parts', matchDuration (convertBaseFactorToDuration base factor) = some parts' ∧
          milliseconds parts' = milliseconds parts := by
  refine ⟨isSome_encodeDuration_iff hparts, fun base factor h => ?_⟩
  obtain ⟨hfactor, heq⟩ := of_encodeDuration hparts h
  have hsmall : factor < 32 := Nat.lt_of_le_of_lt hfactor (by decide)
  refine ⟨hfactor, heq, _, matchDuration_duration base hsmall, ?_⟩
  rw [milliseconds_duration base hsmall, heq]

theorem encodeDuration_iff_45s : encodeDuration "45s" = some (.sec5, 9) ∧
    ((encodeDuration "45s").isSome = true ↔
        ∃ (base : TimeBase) (factor : Nat), factor ≤ maxDurationFactor ∧
          factor * base.milliseconds = milliseconds (45, .s)) ∧
      ∀ base factor, encodeDuration "45s" = some (base, factor) →
        factor ≤ maxDurationFactor ∧ factor * base.milliseconds = milliseconds (45, .s) ∧
        ∃ parts', matchDuration (convertBaseFactorToDuration base factor) = some parts' ∧
          milliseconds parts' = milliseconds (45, .s) :=
  ⟨by decide, encodeDuration_iff "45s" (45, .s) (by decide)⟩

end AioHomematic.Model
