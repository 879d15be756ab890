import AioHomematic.Model.Schedule.RoundTrip
import AioHomematic.Model.WeekProfile.Default.Lookup
import Mathlib.Tactic.IntervalCases

/-!
# Reading a schedule

A paramset with values in the ranges of the CCU: which groups that are active
on the device become entries. `readsAll_iff` says when all of them do, so that
writing the schedule back deactivates none.
-/

namespace AioHomematic.Model

open Lib Support

/-! ## Ranges -/

/-- The range of a field on the CCU; levels are clamped, so theirs does not matter. -/
def ScheduleField.range : ScheduleField → Option (Int × Int)
  | .astroOffset => some (-720, 720)
  | .astroType => some (0, 1)
  | .condition => some (0, 7)
  | .durationBase | .rampTimeBase => some (0, 7)
  | .durationFactor | .rampTimeFactor => some (0, 31)
  | .fixedHour => some (0, 23)
  | .fixedMinute => some (0, 59)
  | .weekday => some (0, 127)
  | .targetChannels => some (0, 2 ^ 24 - 1)
  | .level | .level2 => none

def ScheduleField.InRange (field : ScheduleField) (value : Rat) : Prop :=
  ∀ range ∈ field.range, value.den = 1 ∧ (range.1 : Rat) ≤ value ∧ value ≤ range.2

instance (field : ScheduleField) (value : Rat) : Decidable (field.InRange value) :=
  inferInstanceAs (Decidable (∀ range ∈ field.range, _))

def InRange (rawSchedule : Dict String Rat) : Prop :=
  ∀ e ∈ rawSchedule.entries, ∀ parsed ∈ parseKey e.1, parsed.2.InRange e.2

instance (rawSchedule : Dict String Rat) : Decidable (InRange rawSchedule) :=
  inferInstanceAs (Decidable (∀ e ∈ rawSchedule.entries, _))

theorem ScheduleField.InRange.exists_int {field : ScheduleField} {value : Rat}
    (h : field.InRange value) {low high : Int} (hrange : field.range = some (low, high)) :
    ∃ n : Int, value = n ∧ low ≤ n ∧ n ≤ high := by
  obtain ⟨hden, hlow, hhigh⟩ := h (low, high) hrange
  have hnum : value = value.num := (Rat.coe_int_num_of_den_eq_one hden).symm
  rw [hnum] at hlow hhigh
  exact ⟨value.num, hnum, Int.cast_le.mp hlow, Int.cast_le.mp hhigh⟩

variable {rawSchedule : Dict String Rat} {groupNo : Int} {field : ScheduleField}
  {domain : Option ScheduleDomain} {group : ScheduleGroup}

theorem inRange_fieldValue (h : InRange rawSchedule) {value : Rat}
    (hvalue : fieldValue rawSchedule groupNo field = some value) : field.InRange value := by
  obtain ⟨e, hlast, rfl⟩ := Option.map_eq_some_iff.mp hvalue
  have hmem := List.mem_of_getLast? hlast
  rw [List.mem_filter, decide_eq_true_eq] at hmem
  exact h e hmem.1 (groupNo, field) hmem.2

@[simp] theorem truncate_intCast (n : Int) : truncate n = n := by
  simp [truncate]

/-- The number of a field, `none` if the field is missing. -/
theorem truncate_fieldValue (field : ScheduleField) (h : InRange rawSchedule) {low high : Int}
    (hrange : field.range = some (low, high)) :
    ∀ n ∈ (fieldValue rawSchedule groupNo field).map truncate, low ≤ n ∧ n ≤ high := by
  intro n hn
  obtain ⟨value, hvalue, rfl⟩ := Option.map_eq_some_iff.mp hn
  obtain ⟨n, rfl, hlow, hhigh⟩ := (inRange_fieldValue h hvalue).exists_int hrange
  rw [truncate_intCast]
  exact ⟨hlow, hhigh⟩

/-- What the ranges say of a group. -/
structure GroupInRange (group : ScheduleGroup) : Prop where
  hour : 0 ≤ (group .fixedHour).getD 0 ∧ (group .fixedHour).getD 0 ≤ 23
  minute : 0 ≤ (group .fixedMinute).getD 0 ∧ (group .fixedMinute).getD 0 ≤ 59
  condition : 0 ≤ (group .condition).getD 0 ∧ (group .condition).getD 0 ≤ 7
  astroType : 0 ≤ (group .astroType).getD 0 ∧ (group .astroType).getD 0 ≤ 1
  astroOffset : -720 ≤ (group .astroOffset).getD 0 ∧ (group .astroOffset).getD 0 ≤ 720
  durationBase : ∀ base ∈ group .durationBase, 0 ≤ base ∧ base ≤ 7
  durationFactor : ∀ factor ∈ group .durationFactor, 0 ≤ factor ∧ factor ≤ 31
  rampTimeBase : ∀ base ∈ group .rampTimeBase, 0 ≤ base ∧ base ≤ 7
  rampTimeFactor : ∀ factor ∈ group .rampTimeFactor, 0 ≤ factor ∧ factor ≤ 31

theorem getD_of_forall {x : Option Int} {low high : Int} (h : ∀ n ∈ x, low ≤ n ∧ n ≤ high)
    (hzero : low ≤ 0 ∧ 0 ≤ high) : low ≤ x.getD 0 ∧ x.getD 0 ≤ high := by
  cases x with
  | none => exact hzero
  | some n => exact h n rfl

theorem groupInRange_groupOf (h : InRange rawSchedule) (groupNo : Int) :
    GroupInRange (groupOf rawSchedule groupNo) where
  hour := getD_of_forall (truncate_fieldValue .fixedHour h rfl) (by decide)
  minute := getD_of_forall (truncate_fieldValue .fixedMinute h rfl) (by decide)
  condition := getD_of_forall (truncate_fieldValue .condition h rfl) (by decide)
  astroType := getD_of_forall (truncate_fieldValue .astroType h rfl) (by decide)
  astroOffset := getD_of_forall (truncate_fieldValue .astroOffset h rfl) (by decide)
  durationBase := truncate_fieldValue .durationBase h rfl
  durationFactor := truncate_fieldValue .durationFactor h rfl
  rampTimeBase := truncate_fieldValue .rampTimeBase h rfl
  rampTimeFactor := truncate_fieldValue .rampTimeFactor h rfl

/-! ## Entries of groups in range -/

theorem isSome_condition {n : Int} (h : 0 ≤ n ∧ n ≤ 7) : (ScheduleCondition.ofValue? n).isSome := by
  obtain ⟨hlow, hhigh⟩ := h
  interval_cases n <;> decide

theorem isSome_astroType {n : Int} (h : 0 ≤ n ∧ n ≤ 1) : (AstroType.ofValue? n).isSome := by
  obtain ⟨hlow, hhigh⟩ := h
  interval_cases n <;> decide

theorem isSome_timeBase {n : Int} (h : 0 ≤ n ∧ n ≤ 7) : (TimeBase.ofValue? n).isSome := by
  obtain ⟨hlow, hhigh⟩ := h
  interval_cases n <;> decide

/-- No factor 31 with a base. -/
def Encodable (base factor : Option Int) : Prop := base.isSome → factor ≠ some 31

theorem extractDuration_inRange {base factor : Option Int} (hbase : ∀ n ∈ base, 0 ≤ n ∧ n ≤ 7)
    (hfactor : ∀ n ∈ factor, 0 ≤ n ∧ n ≤ 31) :
    ∃ shown, extractDuration base factor = some shown ∧
      ((∀ d ∈ shown, (convertDurationToBaseFactor d).isSome) ↔ Encodable base factor) := by
  cases base with
  | none => exact ⟨none, rfl, iff_of_true nofun nofun⟩
  | some base =>
    cases factor with
    | none => exact ⟨none, rfl, iff_of_true nofun nofun⟩
    | some factor =>
      obtain ⟨timeBase, htimeBase⟩ := Option.isSome_iff_exists.mp (isSome_timeBase (hbase base rfl))
      obtain ⟨hlow, hhigh⟩ := hfactor factor rfl
      obtain ⟨n, rfl⟩ := Int.eq_ofNat_of_zero_le hlow
      have hn : n < 32 := by omega
      have hencode := isSome_convertDurationToBaseFactor timeBase hn
      refine ⟨some (convertBaseFactorToDuration timeBase n), ?_, ?_⟩
      · rw [extractDuration, htimeBase]
        rfl
      · constructor
        · intro hall _ hfactor
          have hfits := hall _ rfl
          rw [hencode, decide_eq_true_eq] at hfits
          have hlast : (n : Int) = 31 := Option.some.inj hfactor
          simp only [maxDurationFactor] at hfits
          omega
        · intro hencodable d hd
          obtain rfl := Option.mem_some.mp hd
          have hne : (n : Int) ≠ 31 := fun hlast => hencodable rfl (congrArg some hlast)
          rw [hencode, decide_eq_true_eq, maxDurationFactor]
          omega

def keepsDuration : Option ScheduleDomain → Bool
  | some .cover | some .lock => false
  | _ => true

def keepsRampTime : Option ScheduleDomain → Bool
  | none | some .light => true
  | _ => false

def keepsLevel2 : Option ScheduleDomain → Bool
  | none | some .cover => true
  | _ => false

theorem dropUnsupported_eq (domain : Option ScheduleDomain) (e : EntryFields) :
    dropUnsupported domain e =
      { e with
        level2 := if keepsLevel2 domain then e.level2 else none
        duration := if keepsDuration domain then e.duration else none
        rampTime := if keepsRampTime domain then e.rampTime else none } := by
  match domain with
  | none => rfl
  | some .switch => rfl
  | some .light => rfl
  | some .cover => rfl
  | some .valve => rfl
  | some .lock => rfl

theorem clamp_mem {low high : Rat} (h : low ≤ high) (x : Rat) :
    low ≤ clamp low high x ∧ clamp low high x ≤ high :=
  ⟨le_max_left _ _, max_le h (min_le_left _ _)⟩

/-- An active group in range becomes an entry unless a duration that is kept has the factor 31. -/
theorem isSome_convertRawGroupToSimpleEntry (h : GroupInRange group) :
    (convertRawGroupToSimpleEntry group domain).isSome ↔
      (keepsDuration domain = true → Encodable (group .durationBase) (group .durationFactor)) ∧
        (keepsRampTime domain = true →
          Encodable (group .rampTimeBase) (group .rampTimeFactor)) := by
  obtain ⟨condition, hcondition⟩ := Option.isSome_iff_exists.mp (isSome_condition h.condition)
  obtain ⟨astroType, hastroType⟩ := Option.isSome_iff_exists.mp (isSome_astroType h.astroType)
  obtain ⟨rampTime, hramp, hrampTime⟩ := extractDuration_inRange h.rampTimeBase h.rampTimeFactor
  have hshown : ∃ duration, (if domain = some .lock then some none
      else extractDuration (group .durationBase) (group .durationFactor)) = some duration ∧
      (keepsDuration domain = true → ((∀ d ∈ duration, (convertDurationToBaseFactor d).isSome) ↔
        Encodable (group .durationBase) (group .durationFactor))) := by
    split
    next hlock =>
      rw [hlock]
      exact ⟨none, rfl, nofun⟩
    next =>
      obtain ⟨duration, hextract, hiff⟩ :=
        extractDuration_inRange h.durationBase h.durationFactor
      exact ⟨duration, hextract, fun _ => hiff⟩
  obtain ⟨duration, hextract, hduration⟩ := hshown
  obtain ⟨hour, hhour⟩ := Int.eq_ofNat_of_zero_le h.hour.1
  obtain ⟨minute, hminute⟩ := Int.eq_ofNat_of_zero_le h.minute.1
  have hhour24 : hour < 24 := by
    have hlast : (hour : Int) ≤ 23 := hhour ▸ h.hour.2
    omega
  have hminute60 : minute < 60 := by
    have hlast : (minute : Int) ≤ 59 := hminute ▸ h.minute.2
    omega
  have htime := convertTimeToHourMinute_time hhour24 hminute60
  have hlevel := clamp_mem (show (0 : Rat) ≤ 1.01 by decide +kernel) ((group .level).getD 0)
  have hlevel2 : ∀ level2 ∈ (group .level2).map (clamp 0 1), (0 : Rat) ≤ level2 ∧ level2 ≤ 1 := by
    intro level2 hmem
    obtain ⟨value, -, rfl⟩ := Option.map_eq_some_iff.mp hmem
    exact clamp_mem (by decide) value
  simp only [convertRawGroupToSimpleEntry, decodeFields, hcondition, hastroType, hramp, hextract,
    Option.bind_some, Option.map_some, dropUnsupported_eq, hhour, hminute]
  rw [SimpleScheduleEntry.isSome_ofFields?]
  constructor
  · intro haccepted
    constructor
    · intro hkeeps
      have := haccepted.duration
      simp only [hkeeps, if_true] at this
      exact (hduration hkeeps).mp this
    · intro hkeeps
      have := haccepted.rampTime
      simp only [hkeeps, if_true] at this
      exact hrampTime.mp this
  · rintro ⟨hfits, hrampFits⟩
    refine ⟨weekdaysOrMonday_ne_nil _, by simp only [htime, Option.isSome_some], h.astroOffset,
      hlevel, ?_, ?_, ?_, ?_⟩
    · intro level2 hmem
      exact hlevel2 level2 (Option.mem_ite_none_right.mp hmem).2
    · intro d hmem
      obtain ⟨hkeeps, hd⟩ := Option.mem_ite_none_right.mp hmem
      exact (hduration hkeeps).mpr (hfits hkeeps) d hd
    · intro d hmem
      obtain ⟨hkeeps, hd⟩ := Option.mem_ite_none_right.mp hmem
      exact hrampTime.mpr (hrampFits hkeeps) d hd
    · intro hcondition
      dsimp only at hcondition ⊢
      rw [if_neg hcondition]
      rfl

/-! ## Active groups -/

theorem weekday_bits : ∀ i < 7, ∃ a, weekdayFlags.bit a = i := by
  have hmap : weekdayFlags.items.map weekdayFlags.bit = List.range 7 := by decide
  intro i hi
  have hmem : i ∈ weekdayFlags.items.map weekdayFlags.bit := hmap ▸ List.mem_range.mpr hi
  obtain ⟨a, -, ha⟩ := List.mem_map.mp hmem
  exact ⟨a, ha⟩

/-- A group is active if its mask of weekdays is not zero. -/
theorem isScheduleActive_iff (h : InRange rawSchedule) :
    isScheduleActive (groupOf rawSchedule groupNo) = true ↔
      ∃ mask, fieldValue rawSchedule groupNo .weekday = some mask ∧ mask ≠ 0 := by
  simp only [isScheduleActive, groupOf]
  cases hvalue : fieldValue rawSchedule groupNo .weekday with
  | none => simp
  | some mask =>
    obtain ⟨n, rfl, hlow, hhigh⟩ := (inRange_fieldValue h hvalue).exists_int rfl
    have hnil := Flags.ofMask_eq_nil weekday_bits hlow (by omega)
    simp only [Option.map_some, Option.getD_some, convertRawScheduleValue, truncate_intCast, ne_eq,
      Option.some.injEq, exists_eq_left', Int.cast_eq_zero, Bool.not_eq_true',
      List.isEmpty_eq_false_iff]
    exact not_congr hnil

/-- The factor 31 of a duration whose base is set. -/
def DurationFits (rawSchedule : Dict String Rat) (groupNo : Int) (base factor : ScheduleField) :
    Prop :=
  (fieldValue rawSchedule groupNo base).isSome = true →
    fieldValue rawSchedule groupNo factor ≠ some 31

theorem encodable_iff (base factor : ScheduleField) (h : InRange rawSchedule) {low high : Int}
    (hrange : factor.range = some (low, high)) :
    Encodable ((fieldValue rawSchedule groupNo base).map truncate)
        ((fieldValue rawSchedule groupNo factor).map truncate) ↔
      DurationFits rawSchedule groupNo base factor := by
  rw [Encodable, DurationFits, Option.isSome_map]
  refine imp_congr_right fun _ => not_congr ?_
  cases hvalue : fieldValue rawSchedule groupNo factor with
  | none => simp
  | some value =>
    obtain ⟨n, rfl, -⟩ := (inRange_fieldValue h hvalue).exists_int hrange
    rw [Option.map_some, truncate_intCast, Option.some.injEq, Option.some.injEq]
    exact_mod_cast Iff.rfl

/-- No duration that the domain keeps has the factor 31. -/
def DurationsFit (rawSchedule : Dict String Rat) (groupNo : Int) (domain : Option ScheduleDomain) :
    Prop :=
  (keepsDuration domain = true →
      DurationFits rawSchedule groupNo .durationBase .durationFactor) ∧
    (keepsRampTime domain = true →
      DurationFits rawSchedule groupNo .rampTimeBase .rampTimeFactor)

theorem isSome_activeEntry (h : InRange rawSchedule) :
    (activeEntry domain (groupOf rawSchedule groupNo)).isSome ↔
      (∃ mask, fieldValue rawSchedule groupNo .weekday = some mask ∧ mask ≠ 0) ∧
        DurationsFit rawSchedule groupNo domain := by
  rw [activeEntry, ← isScheduleActive_iff h]
  split
  next hactive =>
    rw [isSome_convertRawGroupToSimpleEntry (groupInRange_groupOf h groupNo), and_iff_right hactive]
    exact and_congr (imp_congr_right fun _ => encodable_iff _ .durationFactor h rfl)
      (imp_congr_right fun _ => encodable_iff _ .rampTimeFactor h rfl)
  next hactive => exact iff_of_false nofun fun hfits => hactive hfits.1

/-! ## Reading and writing back -/

/-- The schedule is read with every active group, and what is written back keeps them active. -/
def ReadsAll (rawSchedule : Dict String Rat) (domain : Option ScheduleDomain) : Prop :=
  ∃ s, convertRawToDictSchedule rawSchedule domain = some s ∧
    ∀ groupNo mask, fieldValue rawSchedule groupNo .weekday = some mask → mask ≠ 0 →
      s.entries.contains groupNo = true ∧
        ∃ written, (convertDictToRawSchedule s).get? (scheduleKey groupNo .weekday) = some written ∧
          written ≠ 0

/-- An entry is written with its weekdays. -/
theorem written_of_get? {s : SimpleSchedule} {entry : SimpleScheduleEntry}
    (h : s.entries.get? groupNo = some entry) :
    ∃ written, (convertDictToRawSchedule s).get? (scheduleKey groupNo .weekday) = some written ∧
      written ≠ 0 := by
  refine ⟨(weekdayFlags.toMask entry.weekdays : Nat), ?_, ?_⟩
  · rw [get?_convertDictToRawSchedule (isGroupNo_of_get? h)]
    simp only [convertedValue, h]
    rfl
  · have hne := (EntryFields.accepted_iff.mp entry.accepted).weekdays
    exact_mod_cast fun hzero => hne (Flags.toMask_eq_zero.mp hzero)

/-- Every active group is read if their numbers are at most 24 and no duration that the domain keeps
has the factor 31. -/
theorem readsAll_iff (h : InRange rawSchedule) (domain : Option ScheduleDomain) :
    ReadsAll rawSchedule domain ↔
      ∀ groupNo mask, fieldValue rawSchedule groupNo .weekday = some mask → mask ≠ 0 →
        isGroupNo groupNo = true ∧ DurationsFit rawSchedule groupNo domain := by
  constructor
  · rintro ⟨s, hread, hall⟩ groupNo mask hmask hne
    obtain ⟨entry, hentry⟩ := Option.isSome_iff_exists.mp (hall groupNo mask hmask hne).1
    refine ⟨isGroupNo_of_get? hentry, ?_⟩
    have hactive : (activeEntry domain (groupOf rawSchedule groupNo)).isSome := by
      rw [← get?_scheduleEntries, ← convertRawToDictSchedule_eq_some.mp hread, hentry]
      rfl
    exact ((isSome_activeEntry h).mp hactive).2
  · intro hall
    have haccepted : ∀ groupNo ∈ (scheduleEntries rawSchedule domain).keys,
        isGroupNo groupNo = true := by
      intro groupNo hmem
      obtain ⟨entry, hentry⟩ := Dict.mem_keys.mp hmem
      rw [get?_scheduleEntries] at hentry
      obtain ⟨⟨mask, hmask, hne⟩, -⟩ :=
        (isSome_activeEntry h).mp (Option.isSome_iff_exists.mpr ⟨entry, hentry⟩)
      exact (hall groupNo mask hmask hne).1
    refine ⟨⟨scheduleEntries rawSchedule domain, haccepted⟩,
      convertRawToDictSchedule_eq_some.mpr rfl, fun groupNo mask hmask hne => ?_⟩
    have hactive : (activeEntry domain (groupOf rawSchedule groupNo)).isSome :=
      (isSome_activeEntry h).mpr ⟨⟨mask, hmask, hne⟩, (hall groupNo mask hmask hne).2⟩
    rw [← get?_scheduleEntries] at hactive
    obtain ⟨entry, hentry⟩ := Option.isSome_iff_exists.mp hactive
    exact ⟨hactive, written_of_get? hentry⟩

/-- A group of a switch that is active on Mondays at 07:30. -/
def rawSwitch (durationFactor : Rat) : Dict String Rat :=
  Dict.empty.assign
    [("01_WP_WEEKDAY", 2), ("01_WP_FIXED_HOUR", 7), ("01_WP_FIXED_MINUTE", 30),
      ("01_WP_LEVEL", 1), ("01_WP_DURATION_BASE", 7), ("01_WP_DURATION_FACTOR", durationFactor)]

theorem readsAll_iff_rawSwitch : ReadsAll (rawSwitch 30) (some .switch) ↔
    ∀ groupNo mask, fieldValue (rawSwitch 30) groupNo .weekday = some mask → mask ≠ 0 →
      isGroupNo groupNo = true ∧ DurationsFit (rawSwitch 30) groupNo (some .switch) :=
  readsAll_iff (by decide) (some .switch)

/-- A switch that stays on for good is dropped, and then deactivated. -/
theorem not_readsAll : InRange (rawSwitch 31) ∧ ¬ ReadsAll (rawSwitch 31) (some .switch) := by
  refine ⟨by decide, ?_⟩
  rintro ⟨s, hread, hall⟩
  have hmask : fieldValue (rawSwitch 31) 1 .weekday = some 2 := by decide
  have hdropped : (scheduleEntries (rawSwitch 31) (some .switch)).contains 1 = false := by
    decide +kernel
  have hkept := (hall 1 2 hmask (by decide)).1
  rw [convertRawToDictSchedule_eq_some.mp hread, hdropped] at hkept
  exact absurd hkept (by decide)

end AioHomematic.Model
