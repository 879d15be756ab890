import AioHomematic.Model.WeekProfile.Default

/-!
# The parameters and the groups of a schedule

Which parameters a schedule is converted to, and which group a field of a raw
schedule belongs to. Of several parameters for the same field of a group the
last one counts.
-/

namespace AioHomematic.Model

open Lib Support

/-! ## Parameter names -/

theorem isGroupNo_iff {groupNo : Int} : isGroupNo groupNo = true ↔ groupNo ∈ groupNumbers := by
  rw [isGroupNo, decide_eq_true_eq, groupNumbers, List.mem_map]
  constructor
  · rintro ⟨hlow, hhigh⟩
    refine ⟨(groupNo - 1).toNat, List.mem_range.mpr ?_, ?_⟩ <;> omega
  · rintro ⟨n, hn, rfl⟩
    have := List.mem_range.mp hn
    omega

theorem ofName?_name (field : ScheduleField) :
    ScheduleField.ofName? field.name.toList = some field := by
  cases field <;> decide

theorem underscore_not_mem_decimal2 : ∀ groupNo ∈ groupNumbers, '_' ∉ decimal2 groupNo := by
  decide

theorem int?_decimal2 : ∀ groupNo ∈ groupNumbers, int? (decimal2 groupNo) = some groupNo := by
  decide

theorem isDigit_decimal2 : ∀ groupNo ∈ groupNumbers,
    decimal2 groupNo ≠ [] ∧ (decimal2 groupNo).all isDigit = true := by
  decide

variable {groupNo : Int} {field : ScheduleField}

theorem split2_scheduleKey (hgroup : isGroupNo groupNo = true) :
    split2 (scheduleKey groupNo field) =
      some (decimal2 groupNo, ['W', 'P'], field.name.toList) := by
  have hfirst := split1_append (underscore_not_mem_decimal2 groupNo (isGroupNo_iff.mp hgroup))
    ('W' :: 'P' :: '_' :: field.name.toList)
  have hsecond := split1_append (show '_' ∉ ['W', 'P'] by decide) field.name.toList
  rw [split2, scheduleKey, String.toList_ofList, hfirst, Option.bind_some]
  exact congrArg _ hsecond

@[simp] theorem parseKey_scheduleKey (hgroup : isGroupNo groupNo = true) :
    parseKey (scheduleKey groupNo field) = some (groupNo, field) := by
  rw [parseKey, split2_scheduleKey hgroup]
  simp [int?_decimal2 groupNo (isGroupNo_iff.mp hgroup), ofName?_name]

theorem matchSchedulePattern_scheduleKey (hgroup : isGroupNo groupNo = true) :
    matchSchedulePattern (scheduleKey groupNo field) = some field.name.toList := by
  rw [matchSchedulePattern, split2_scheduleKey hgroup, Option.bind_some]
  obtain ⟨hne, hdigits⟩ := isDigit_decimal2 groupNo (isGroupNo_iff.mp hgroup)
  exact if_pos ⟨hne, hdigits, rfl⟩

theorem scheduleKey_injective {groupNo' : Int} {field' : ScheduleField}
    (hgroup : isGroupNo groupNo = true) (hgroup' : isGroupNo groupNo' = true)
    (h : scheduleKey groupNo field = scheduleKey groupNo' field') :
    groupNo = groupNo' ∧ field = field' := by
  have hparse : parseKey (scheduleKey groupNo field) = some (groupNo, field) :=
    parseKey_scheduleKey hgroup
  rw [h, parseKey_scheduleKey hgroup', Option.some.injEq, Prod.mk.injEq] at hparse
  exact ⟨hparse.1.symm, hparse.2.symm⟩

/-! ## The parameters of a schedule -/

variable {s : SimpleSchedule}

theorem isGroupNo_of_get? {entry : SimpleScheduleEntry}
    (h : s.entries.get? groupNo = some entry) : isGroupNo groupNo = true :=
  s.accepted groupNo (Dict.mem_keys.mpr ⟨entry, h⟩)

theorem mem_fieldOrder (field : ScheduleField) : field ∈ fieldOrder := by
  cases field <;> decide

theorem mem_groupValues {group : ScheduleGroup} {e : String × Rat} :
    e ∈ groupValues groupNo group ↔ ∃ field value, group field = some value ∧
      e = (scheduleKey groupNo field, rawScheduleValue field value) := by
  simp only [groupValues, List.mem_filterMap, Option.map_eq_some_iff]
  constructor
  · rintro ⟨field, -, value, hvalue, rfl⟩
    exact ⟨field, value, hvalue, rfl⟩
  · rintro ⟨field, value, hvalue, rfl⟩
    exact ⟨field, mem_fieldOrder field, value, hvalue, rfl⟩

/-- The parameter of a field after the conversion. -/
def convertedValue (s : SimpleSchedule) (groupNo : Int) (field : ScheduleField) : Option Rat :=
  match s.entries.get? groupNo with
  | some entry => (convertSimpleEntryToRawGroup entry field).map (rawScheduleValue field)
  | none => if field = .weekday ∨ field = .targetChannels then some 0 else none

/-- What `convert_dict_to_raw_schedule` assigns. -/
theorem mem_assigned {e : String × Rat} :
    e ∈ (s.entries.entries.flatMap fun e => groupValues e.1 (convertSimpleEntryToRawGroup e.2)) ++
      (groupNumbers.filter fun groupNo => !s.entries.contains groupNo).flatMap clearedValues ↔
    ∃ groupNo field value, isGroupNo groupNo = true ∧
      convertedValue s groupNo field = some value ∧ e = (scheduleKey groupNo field, value) := by
  rw [List.mem_append, List.mem_flatMap, List.mem_flatMap]
  constructor
  · rintro (⟨⟨groupNo, entry⟩, hentry, hvalue⟩ | ⟨groupNo, hcleared, hvalue⟩)
    · obtain ⟨field, value, hfield, rfl⟩ := mem_groupValues.mp hvalue
      have hget := Dict.get?_eq_some.mpr hentry
      refine ⟨groupNo, field, _, isGroupNo_of_get? hget, ?_, rfl⟩
      simp only [convertedValue, hget]
      exact congrArg _ hfield
    · obtain ⟨hgroup, hnone⟩ := List.mem_filter.mp hcleared
      have hget : s.entries.get? groupNo = none := by
        simpa [Dict.contains] using hnone
      have hgroup := isGroupNo_iff.mpr hgroup
      simp only [clearedValues, List.mem_cons, List.not_mem_nil, or_false] at hvalue
      obtain rfl | rfl := hvalue
      · exact ⟨groupNo, .weekday, 0, hgroup, by simp [convertedValue, hget], rfl⟩
      · exact ⟨groupNo, .targetChannels, 0, hgroup, by simp [convertedValue, hget], rfl⟩
  · rintro ⟨groupNo, field, value, hgroup, hvalue, rfl⟩
    simp only [convertedValue] at hvalue
    split at hvalue
    next entry hget =>
      obtain ⟨x, hx, rfl⟩ := Option.map_eq_some_iff.mp hvalue
      exact .inl ⟨(groupNo, entry), Dict.get?_eq_some.mp hget,
        mem_groupValues.mpr ⟨field, x, hx, rfl⟩⟩
    next hget =>
      split at hvalue
      next hfield =>
        obtain rfl := Option.some.inj hvalue
        refine .inr ⟨groupNo, List.mem_filter.mpr ⟨isGroupNo_iff.mp hgroup, ?_⟩, ?_⟩
        · simp [Dict.contains, hget]
        · obtain rfl | rfl := hfield <;> simp [clearedValues]
      · cases hvalue

theorem get?_convertDictToRawSchedule (hgroup : isGroupNo groupNo = true) :
    (convertDictToRawSchedule s).get? (scheduleKey groupNo field) =
      convertedValue s groupNo field := by
  cases hvalue : convertedValue s groupNo field with
  | some value =>
    have hassigned := mem_assigned.mpr ⟨groupNo, field, value, hgroup, hvalue, rfl⟩
    refine Dict.get?_assign_of_mem hassigned fun value' hmem => ?_
    obtain ⟨groupNo', field', value'', hgroup', hvalue', heq⟩ := mem_assigned.mp hmem
    obtain ⟨rfl, rfl⟩ := scheduleKey_injective hgroup hgroup' (congrArg Prod.fst heq)
    have hsame : value'' = value := Option.some.inj (hvalue'.symm.trans hvalue)
    exact (congrArg Prod.snd heq).trans hsame
  | none =>
    refine Dict.get?_assign_of_forall fun value hmem => ?_
    obtain ⟨groupNo', field', value', hgroup', hvalue', heq⟩ := mem_assigned.mp hmem
    obtain ⟨rfl, rfl⟩ := scheduleKey_injective hgroup hgroup' (congrArg Prod.fst heq)
    rw [hvalue] at hvalue'
    cases hvalue'

/-- Nothing else is converted. -/
theorem key_of_convertDictToRawSchedule {key : String} {value : Rat}
    (h : (convertDictToRawSchedule s).get? key = some value) :
    ∃ groupNo field, isGroupNo groupNo = true ∧ key = scheduleKey groupNo field := by
  by_contra hnone
  rw [convertDictToRawSchedule, Dict.get?_assign_of_forall] at h
  · cases h
  · intro value hmem
    obtain ⟨groupNo, field, _, hgroup, -, heq⟩ := mem_assigned.mp hmem
    exact hnone ⟨groupNo, field, hgroup, congrArg Prod.fst heq⟩

/-! ## The groups of a raw schedule -/

/-- The last value of a field. -/
def fieldValue (rawSchedule : Dict String Rat) (groupNo : Int) (field : ScheduleField) :
    Option Rat :=
  (rawSchedule.entries.filter fun e => parseKey e.1 = some (groupNo, field)).getLast?.map Prod.snd

/-- The group that the values of its fields make. -/
def groupOf (rawSchedule : Dict String Rat) (groupNo : Int) : ScheduleGroup :=
  fun field => (fieldValue rawSchedule groupNo field).map (convertRawScheduleValue · field)

theorem rawGroups_eq (rawSchedule : Dict String Rat) (groupNo : Int) :
    (((rawGroups rawSchedule).get? groupNo).getD fun _ => none) = groupOf rawSchedule groupNo := by
  funext field
  simp only [rawGroups, groupOf, fieldValue]
  induction rawSchedule.entries using List.reverseRecOn with
  | nil => rfl
  | append_singleton es e ih =>
    rw [List.foldl_append, List.foldl_cons, List.foldl_nil, List.filter_append]
    generalize es.foldl addRawValue Dict.empty = groups at ih ⊢
    simp only [addRawValue]
    cases hparse : parseKey e.1 with
    | none => simp [hparse, ih]
    | some parsed =>
      obtain ⟨groupNo', field'⟩ := parsed
      dsimp only
      rw [Dict.get?_set]
      by_cases hgroup : groupNo' = groupNo
      · subst hgroup
        rw [if_pos rfl, Option.getD_some]
        by_cases hfield : field' = field
        · subst hfield
          simp [hparse]
        · simp [hparse, hfield, Function.update_of_ne (Ne.symm hfield), ih]
      · simp [hparse, hgroup, ih]

theorem get?_scheduleEntries (rawSchedule : Dict String Rat) (domain : Option ScheduleDomain)
    (groupNo : Int) : (scheduleEntries rawSchedule domain).get? groupNo =
      activeEntry domain (groupOf rawSchedule groupNo) := by
  rw [scheduleEntries, Dict.get?_foldl_set? (fun _ => activeEntry domain), ← rawGroups_eq]
  cases (rawGroups rawSchedule).get? groupNo with
  | none => rfl
  | some group => simp

/-- The raw schedule is accepted if the entries that are read have group numbers. -/
theorem convertRawToDictSchedule_eq_some {rawSchedule : Dict String Rat}
    {domain : Option ScheduleDomain} :
    convertRawToDictSchedule rawSchedule domain = some s ↔
      s.entries = scheduleEntries rawSchedule domain := by
  simp only [convertRawToDictSchedule, SimpleSchedule.ofEntries?]
  constructor
  · intro h
    split at h
    · obtain rfl := Option.some.inj h
      rfl
    · cases h
  · intro h
    rw [dif_pos (h ▸ s.accepted)]
    cases s
    cases h
    rfl

end AioHomematic.Model
