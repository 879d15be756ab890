import AioHomematic.Lib.Nested
import AioHomematic.Model.WeekProfile.Climate.Decode

/-!
# Raw schedules of a thermostat

`convert_dict_to_raw_schedule` and `convert_raw_to_dict_schedule` as they stand, of any values
and of parameters with any names. `Climate.Raw` has the second one for the parameters that
`_get_raw_schedule` lets through; `convertRawToDictSchedule_eq` says that the tables are the
same.
-/

namespace AioHomematic.Model

open Lib Support

namespace RawSchedule

/-- A value of a slot or of a parameter. -/
inductive SlotValue where
  | int (n : Int)
  | float (x : Rat)
  | text (s : String)
deriving DecidableEq

abbrev SlotDict := Dict String SlotValue

/-- `_ClimateScheduleDictInternal`. -/
abbrev ClimateScheduleDictInternal := Dict ScheduleProfile (Dict WeekdayStr (Dict Int SlotDict))

/-! ## To a raw schedule -/

def rawProfileName (profile : ScheduleProfile) (slotType : String) (weekday : WeekdayStr)
    (slotNo : Int) : String :=
  String.ofList (profile.name.toList ++ '_' :: (slotType.toList.map Char.toUpper ++
    '_' :: (weekday.name.toList ++ '_' :: decimal slotNo)))

/-- `raw_value`. -/
def rawValue (slotType : String) : SlotValue → Except ScheduleError SlotValue
  | .text s => if slotType = "endtime" then (convertTimeStrToMinutes s).map .int else .ok (.text s)
  | slotValue => .ok slotValue

def addRawValue (profile : ScheduleProfile) (weekday : WeekdayStr) (slotNo : Int)
    (rawParamset : Dict String SlotValue) (slot : String × SlotValue) :
    Except ScheduleError (Dict String SlotValue) :=
  let name := rawProfileName profile slot.1 weekday slotNo
  if (parseSlotName name).isNone then .error .validation
  else (rawValue slot.1 slot.2).map (rawParamset.set name)

def convertDictToRawSchedule (scheduleData : ClimateScheduleDictInternal) :
    Except ScheduleError (Dict String SlotValue) :=
  scheduleData.entries.foldlM (fun rawParamset profile =>
    profile.2.entries.foldlM (fun rawParamset weekday =>
      weekday.2.entries.foldlM (fun rawParamset slot =>
        slot.2.entries.foldlM (addRawValue profile.1 weekday.1 slot.1) rawParamset)
        rawParamset)
      rawParamset)
    .empty

/-! ## From a raw schedule -/

/-- `int(s)`: underscores may stand between digits. -/
def intLiteral? (s : List Char) : Option Int :=
  let digits (s : List Char) : Option Int :=
    let groups := s.splitOn '_'
    if groups.all (fun group => group ≠ [] && group.all isDigit) then some (number groups.flatten)
    else none
  match (s.dropWhile isSpace).rdropWhile isSpace with
  | '+' :: cs => digits cs
  | '-' :: cs => (digits cs).map (-·)
  | cs => digits cs

/-- A parameter that is not skipped, and the place where its value goes. -/
def slotPlace (slotName : String) : Option (ScheduleProfile × WeekdayStr × Int × String) :=
  (split1 '_' slotName.toList).bind fun first =>
  (split1 '_' first.2).bind fun second =>
  (split1 '_' second.2).bind fun third =>
  (ScheduleProfile.all.find? (·.name.toList = first.1)).bind fun profile =>
  (WeekdayStr.all.find? (·.name.toList = third.1)).bind fun weekday =>
  (intLiteral? third.2).map fun slotNo =>
    (profile, weekday, slotNo, String.ofList (second.1.map Char.toLower))

/-- `final_value`. -/
def finalValue (slotType : String) : SlotValue → Except ScheduleError SlotValue
  | .int n => if slotType = "endtime" then (convertMinutesToTimeStr n).map .text else .ok (.int n)
  | slotValue => .ok slotValue

/-- `schedule_data[_profile][_weekday][_slot_no][_slot_type] = final_value`, with what is missing
on the way. -/
def store (scheduleData : ClimateScheduleDictInternal)
    (place : ScheduleProfile × WeekdayStr × Int × String) (value : SlotValue) :
    ClimateScheduleDictInternal :=
  let profileData := (scheduleData.get? place.1).getD .empty
  let weekdayData := (profileData.get? place.2.1).getD .empty
  let slot := (weekdayData.get? place.2.2.1).getD .empty
  scheduleData.set place.1 (profileData.set place.2.1 (weekdayData.set place.2.2.1
    (slot.set place.2.2.2 value)))

def addSlotValue (scheduleData : ClimateScheduleDictInternal) (e : String × SlotValue) :
    Except ScheduleError ClimateScheduleDictInternal :=
  match slotPlace e.1 with
  | none => .ok scheduleData
  | some place => (finalValue place.2.2.2 e.2).map (store scheduleData place)

def convertRawToDictSchedule (rawSchedule : Dict String SlotValue) :
    Except ScheduleError ClimateScheduleDictInternal :=
  rawSchedule.entries.foldlM addSlotValue .empty

/-! ## Places -/

/-- A schedule as values under places. -/
def places : Nested (ScheduleProfile × WeekdayStr × Int × String) SlotValue
    ClimateScheduleDictInternal :=
  Nested.under (Nested.under (Nested.under Nested.dict))

/-- A value and the place where it is. -/
abbrev Item := (ScheduleProfile × WeekdayStr × Int × String) × SlotValue

def addItem (rawParamset : Dict String SlotValue) (item : Item) :
    Except ScheduleError (Dict String SlotValue) :=
  addRawValue item.1.1 item.1.2.1 item.1.2.2.1 rawParamset (item.1.2.2.2, item.2)

theorem convertDictToRawSchedule_eq (scheduleData : ClimateScheduleDictInternal) :
    convertDictToRawSchedule scheduleData = (places.items scheduleData).foldlM addItem .empty := by
  rw [places, Nested.foldlM_items_under]
  simp only [Nested.foldlM_items_under]
  rfl

/-- The key of a slot. -/
def slotKey : SlotType → String
  | .endtime => "endtime"
  | .temperature => "temperature"

/-- The place of a parameter of a schedule. -/
def SlotName.place (name : SlotName) : ScheduleProfile × WeekdayStr × Int × String :=
  (name.profile, name.weekday, name.slotNo, slotKey name.slotType)

theorem upper_slotKey (slotType : SlotType) :
    (slotKey slotType).toList.map Char.toUpper = slotType.name.toList := by
  cases slotType <;> decide

theorem lower_name (slotType : SlotType) :
    slotType.name.toList.map Char.toLower = (slotKey slotType).toList := by
  cases slotType <;> decide

theorem intLiteral?_decimal :
    ∀ slotNo ∈ slotNumbers, intLiteral? (decimal slotNo) = some slotNo := by
  decide

theorem rawProfileName_place (name : SlotName) :
    rawProfileName name.profile (slotKey name.slotType) name.weekday name.slotNo = name.text := by
  rw [rawProfileName, upper_slotKey, SlotName.text]

theorem slotPlace_text (name : SlotName) (h : name.slotNo ∈ slotNumbers) :
    slotPlace name.text = some (SlotName.place name) := by
  obtain ⟨hprofile, hfindProfile⟩ := find?_scheduleProfile name.profile
  obtain ⟨hslotType, -⟩ := find?_slotType name.slotType
  obtain ⟨hweekday, hfindWeekday⟩ := find?_weekdayStr name.weekday
  simp only [slotPlace, SlotName.text, String.toList_ofList, split1_append hprofile,
    split1_append hslotType, split1_append hweekday, Option.bind_some, hfindProfile,
    hfindWeekday, intLiteral?_decimal name.slotNo h, Option.map_some, lower_name,
    String.ofList_toList, SlotName.place]

theorem slotPlace_of_parseSlotName {key : String} {name : SlotName}
    (h : parseSlotName key = some name) : slotPlace key = some (SlotName.place name) := by
  obtain ⟨rfl, hslotNo⟩ := parseSlotName_eq_some.mp h
  exact slotPlace_text name hslotNo

theorem slotKey_injective {slotType slotType' : SlotType}
    (h : slotKey slotType = slotKey slotType') : slotType = slotType' := by
  cases slotType <;> cases slotType' <;> first | rfl | exact absurd h (by decide)

theorem place_injective {name name' : SlotName} (h : SlotName.place name = SlotName.place name') :
    name = name' := by
  obtain ⟨profile, slotType, weekday, slotNo⟩ := name
  obtain ⟨profile', slotType', weekday', slotNo'⟩ := name'
  simp only [SlotName.place, Prod.mk.injEq] at h
  obtain ⟨rfl, rfl, rfl, hslotType⟩ := h
  rw [slotKey_injective hslotType]

/-! ## Values -/

/-- What `rawValue` gives. -/
def rawOf (slotType : String) : SlotValue → SlotValue
  | .text s => if slotType = "endtime" then .int ((schedulerMinutes? s).getD 0) else .text s
  | slotValue => slotValue

/-- What `finalValue` gives. -/
def finalOf (slotType : String) : SlotValue → SlotValue
  | .int n => if slotType = "endtime" then .text (timeStr n) else .int n
  | slotValue => slotValue

/-- The minutes that a time can have; the pattern goes on to 24:59. -/
def isClock (n : Int) : Bool := decide (0 ≤ n ∧ n < 1500)

namespace SlotValue

/-- The minutes of an end time. -/
def minutes? : SlotValue → Option Int
  | int n => some n
  | text s => schedulerMinutes? s
  | float _ => none

def isNumber : SlotValue → Bool
  | text _ => false
  | _ => true

end SlotValue

theorem rawValue_eq {slotType : String} {value : SlotValue}
    (h : slotType = "endtime" → ∀ s, value = .text s → schedulerMinutes? s ≠ none) :
    rawValue slotType value = .ok (rawOf slotType value) := by
  cases value with
  | int n => rfl
  | float x => rfl
  | text s =>
    rw [rawValue, rawOf]
    split
    next htype =>
      obtain ⟨n, hn⟩ := Option.ne_none_iff_exists'.mp (h htype s rfl)
      rw [convertTimeStrToMinutes, hn]
      rfl
    · rfl

theorem finalValue_eq {slotType : String} {value : SlotValue}
    (h : slotType = "endtime" → ∀ n, value = .int n → isClock n = true) :
    finalValue slotType value = .ok (finalOf slotType value) := by
  cases value with
  | text s => rfl
  | float x => rfl
  | int n =>
    rw [finalValue, finalOf]
    split
    next htype =>
      rw [convertMinutesToTimeStr_of_mem (of_decide_eq_true (h htype n rfl))]
      rfl
    · rfl

/-! ## From a schedule and back -/

/-- The slots are those that a device has, and their end times are times. -/
def Encodable (scheduleData : ClimateScheduleDictInternal) : Prop :=
  ∀ item ∈ places.items scheduleData, item.1.2.2.1 ∈ slotNumbers ∧
    (item.1.2.2.2 = "temperature" ∨
      item.1.2.2.2 = "endtime" ∧ item.2.minutes?.any isClock = true)

instance (scheduleData : ClimateScheduleDictInternal) : Decidable (Encodable scheduleData) :=
  inferInstanceAs (Decidable (∀ item ∈ places.items scheduleData, _))

/-- An end time as a text with two digits each for hour and minute. -/
def clockText (slotType : String) (value : SlotValue) : SlotValue :=
  match value.minutes? with
  | some n => if slotType = "endtime" then .text (timeStr n) else value
  | none => value

/-- The schedule with the texts of its end times, without slots, weekdays and profiles that have
nothing. -/
def clocked : ClimateScheduleDictInternal → ClimateScheduleDictInternal :=
  places.tidy fun place => clockText place.2.2.2

theorem temperature_ne_endtime : ("temperature" : String) ≠ "endtime" := by
  decide

theorem finalOf_rawOf {slotType : String} {value : SlotValue}
    (h : slotType = "temperature" ∨ slotType = "endtime" ∧ value.minutes?.any isClock = true) :
    finalOf slotType (rawOf slotType value) = clockText slotType value := by
  obtain rfl | ⟨rfl, hclock⟩ := h
  · cases value with
    | int n => rfl
    | float x => rfl
    | text s =>
      rw [rawOf, if_neg temperature_ne_endtime]
      show SlotValue.text s = clockText "temperature" (.text s)
      rw [clockText]
      split
      · rw [if_neg temperature_ne_endtime]
      · rfl
  · cases value with
    | int n => rfl
    | float x => rfl
    | text s =>
      obtain ⟨n, hn, -⟩ := (Option.any_eq_true _ _).mp hclock
      rw [SlotValue.minutes?] at hn
      rw [rawOf, if_pos rfl, hn, Option.getD_some, clockText, SlotValue.minutes?, hn]
      rfl

theorem isClock_of_rawOf {slotType : String} {value : SlotValue}
    (h : slotType = "temperature" ∨ slotType = "endtime" ∧ value.minutes?.any isClock = true)
    (htype : slotType = "endtime") {n : Int} (heq : rawOf slotType value = .int n) :
    isClock n = true := by
  obtain rfl | ⟨-, hclock⟩ := h
  · exact absurd htype temperature_ne_endtime
  · cases value with
    | int m =>
      obtain rfl := SlotValue.int.inj heq
      exact hclock
    | float x => cases heq
    | text s =>
      obtain ⟨m, hm, hm'⟩ := (Option.any_eq_true _ _).mp hclock
      rw [SlotValue.minutes?] at hm
      rw [rawOf, if_pos htype, hm, Option.getD_some] at heq
      exact SlotValue.int.inj heq ▸ hm'

/-- A value of a slot goes to its parameter. -/
theorem addItem_eq {name : SlotName} (hslotNo : name.slotNo ∈ slotNumbers)
    {value value' : SlotValue} (hvalue : rawValue (slotKey name.slotType) value = .ok value')
    (rawParamset : Dict String SlotValue) :
    addItem rawParamset (SlotName.place name, value) = .ok (rawParamset.set name.text value') := by
  simp only [addItem, addRawValue, SlotName.place, rawProfileName_place,
    parseSlotName_text name hslotNo, hvalue, Option.isNone_some, Bool.false_eq_true, if_false]
  rfl

/-- A parameter goes to the place of its value. -/
theorem addSlotValue_eq {key : String} {name : SlotName} (hname : parseSlotName key = some name)
    {value value' : SlotValue} (hvalue : finalValue (slotKey name.slotType) value = .ok value')
    (scheduleData : ClimateScheduleDictInternal) :
    addSlotValue scheduleData (key, value) =
      .ok (store scheduleData (SlotName.place name) value') := by
  have hplace : (SlotName.place name).2.2.2 = slotKey name.slotType := rfl
  simp only [addSlotValue, slotPlace_of_parseSlotName hname, hplace, hvalue]
  rfl

/-- The name of the parameter of a value. -/
def itemName (item : Item) : String :=
  rawProfileName item.1.1 item.1.2.2.2 item.1.2.1 item.1.2.2.1

theorem text_injective {name name' : SlotName} (h : name.slotNo ∈ slotNumbers)
    (h' : name'.slotNo ∈ slotNumbers) (heq : name.text = name'.text) : name = name' := by
  have hparse := parseSlotName_text name h
  rw [heq, parseSlotName_text name' h'] at hparse
  exact (Option.some.inj hparse).symm

/-- A schedule of which every value has a parameter. -/
structure Named (scheduleData : ClimateScheduleDictInternal) : Prop where
  names : ∀ item ∈ places.items scheduleData, ∃ name : SlotName,
    name.slotNo ∈ slotNumbers ∧ item.1 = SlotName.place name
  values : ∀ item ∈ places.items scheduleData,
    rawValue item.1.2.2.2 item.2 = .ok (rawOf item.1.2.2.2 item.2)

/-- The parameters of a schedule, in the order of its values. -/
def parameters (scheduleData : ClimateScheduleDictInternal) : List (String × SlotValue) :=
  (places.items scheduleData).map fun item => (itemName item, rawOf item.1.2.2.2 item.2)

namespace Named

variable {scheduleData : ClimateScheduleDictInternal} (h : Named scheduleData)

include h

theorem convertDictToRawSchedule :
    convertDictToRawSchedule scheduleData = .ok (Dict.assign .empty (parameters scheduleData)) := by
  rw [convertDictToRawSchedule_eq, Nested.foldlM_eq_ok (g := fun rawParamset item =>
    rawParamset.set (itemName item) (rawOf item.1.2.2.2 item.2)), Dict.assign, parameters,
    List.foldl_map]
  rintro ⟨place, value⟩ hitem rawParamset
  obtain ⟨name, hslotNo, rfl⟩ := h.names _ hitem
  rw [addItem_eq hslotNo (h.values _ hitem)]
  exact congrArg (fun key => Except.ok (rawParamset.set key _)) (rawProfileName_place name).symm

theorem nodup_parameters : ((parameters scheduleData).map Prod.fst).Nodup := by
  have hitems : (places.items scheduleData).Nodup := .of_map Prod.fst (places.nodup scheduleData)
  rw [parameters, List.map_map]
  refine hitems.map_on ?_
  rintro ⟨place, value⟩ hitem ⟨place', value'⟩ hitem' heq
  obtain ⟨name, hslotNo, rfl⟩ := h.names _ hitem
  obtain ⟨name', hslotNo', rfl⟩ := h.names _ hitem'
  have htext : name.text = name'.text :=
    (rawProfileName_place name).symm.trans (heq.trans (rawProfileName_place name'))
  refine List.inj_on_of_nodup_map (places.nodup scheduleData) hitem hitem' ?_
  rw [text_injective hslotNo hslotNo' htext]

end Named

theorem Encodable.named {scheduleData : ClimateScheduleDictInternal} (h : Encodable scheduleData) :
    Named scheduleData := by
  constructor
  · rintro ⟨⟨profile, weekday, slotNo, slotType⟩, value⟩ hitem
    obtain ⟨hslotNo, rfl | ⟨rfl, -⟩⟩ := h _ hitem
    · exact ⟨⟨profile, .temperature, weekday, slotNo⟩, hslotNo, rfl⟩
    · exact ⟨⟨profile, .endtime, weekday, slotNo⟩, hslotNo, rfl⟩
  · rintro ⟨⟨profile, weekday, slotNo, slotType⟩, value⟩ hitem
    refine rawValue_eq ?_
    rintro rfl s rfl hnone
    obtain ⟨-, hother | ⟨-, hclock⟩⟩ := h _ hitem
    · exact temperature_ne_endtime hother.symm
    · rw [SlotValue.minutes?, hnone] at hclock
      cases hclock

/-- There and back: the schedule with the texts of its end times. -/
theorem convertRawToDictSchedule_convertDictToRawSchedule
    {scheduleData : ClimateScheduleDictInternal} (h : Encodable scheduleData) :
    (convertDictToRawSchedule scheduleData >>= convertRawToDictSchedule) =
      .ok (clocked scheduleData) := by
  have hnamed := h.named
  rw [hnamed.convertDictToRawSchedule]
  show convertRawToDictSchedule _ = _
  rw [convertRawToDictSchedule, Dict.entries_assign_empty hnamed.nodup_parameters, parameters,
    List.foldlM_map, Nested.foldlM_eq_ok (g := fun scheduleData item =>
      places.put scheduleData item.1 (clockText item.1.2.2.2 item.2)), clocked,
    ← places.rebuild, List.foldl_map]
  · rfl
  · rintro ⟨place, value⟩ hitem scheduleData'
    obtain ⟨name, hslotNo, rfl⟩ := hnamed.names _ hitem
    have hclock : slotKey name.slotType = "temperature" ∨ slotKey name.slotType = "endtime" ∧
        value.minutes?.any isClock = true :=
      (h _ hitem).2
    have hfinal : finalValue (slotKey name.slotType) (rawOf (slotKey name.slotType) value) =
        .ok (clockText (slotKey name.slotType) value) := by
      rw [finalValue_eq fun htype n => isClock_of_rawOf hclock htype, finalOf_rawOf hclock]
    have hkey : itemName (SlotName.place name, value) = name.text := rawProfileName_place name
    rw [hkey]
    exact addSlotValue_eq (parseSlotName_text name hslotNo) hfinal scheduleData'

/-- No profile, weekday or slot is without values, and the end times are texts with two digits each
for hour and minute. -/
structure Canonical (scheduleData : ClimateScheduleDictInternal) : Prop where
  nonempty : ∀ e ∈ scheduleData.entries, e.2.entries ≠ [] ∧
    ∀ e' ∈ e.2.entries, e'.2.entries ≠ [] ∧ ∀ e'' ∈ e'.2.entries, e''.2.entries ≠ []
  clock : ∀ item ∈ places.items scheduleData, clockText item.1.2.2.2 item.2 = item.2

theorem clocked_eq_self {scheduleData : ClimateScheduleDictInternal} (h : Canonical scheduleData) :
    clocked scheduleData = scheduleData := by
  refine Nested.tidy_under_eq_self fun profile hprofile => ?_
  obtain ⟨hprofileData, hprofileData'⟩ := h.nonempty profile hprofile
  refine ⟨Nested.items_under_ne_nil hprofileData fun weekday hweekday =>
    Nested.items_under_ne_nil (hprofileData' weekday hweekday).1
      (hprofileData' weekday hweekday).2, ?_⟩
  refine Nested.tidy_under_eq_self fun weekday hweekday => ?_
  refine ⟨Nested.items_under_ne_nil (hprofileData' weekday hweekday).1
    (hprofileData' weekday hweekday).2, ?_⟩
  refine Nested.tidy_under_eq_self fun slot hslot => ?_
  refine ⟨(hprofileData' weekday hweekday).2 slot hslot, ?_⟩
  refine Nested.tidy_dict_eq_self fun value hvalue => ?_
  have hitem : ((profile.1, weekday.1, slot.1, value.1), value.2) ∈ places.items scheduleData :=
    (Nested.mem_underItems _).mpr ⟨_, Dict.get?_eq_some.mpr hprofile, (Nested.mem_underItems _).mpr
      ⟨_, Dict.get?_eq_some.mpr hweekday, (Nested.mem_underItems _).mpr
        ⟨_, Dict.get?_eq_some.mpr hslot, hvalue⟩⟩⟩
  exact h.clock _ hitem

/-! ## From a paramset and back -/

/-- A parameter of a schedule. -/
def isScheduleParameter (key : String) : Bool := (parseSlotName key).isSome

/-- The values are numbers, end times that are integers are times, and no name is taken that is
not one of a schedule. -/
def Restorable (rawParamset : Dict String SlotValue) : Prop :=
  ∀ e ∈ rawParamset.entries, (slotPlace e.1).isSome = true →
    isScheduleParameter e.1 = true ∧ e.2.isNumber = true ∧
      ∀ name ∈ parseSlotName e.1, name.slotType = .endtime → e.2.minutes?.all isClock = true

instance (rawParamset : Dict String SlotValue) : Decidable (Restorable rawParamset) :=
  inferInstanceAs (Decidable (∀ e ∈ rawParamset.entries, _))

/-- A parameter as a value under its place. -/
def itemOf (e : String × SlotValue) : Option Item :=
  (parseSlotName e.1).map fun name =>
    (SlotName.place name, finalOf (slotKey name.slotType) e.2)

theorem itemOf_eq_some {e : String × SlotValue} {item : Item} : itemOf e = some item ↔
    ∃ name : SlotName, parseSlotName e.1 = some name ∧
      item = (SlotName.place name, finalOf (slotKey name.slotType) e.2) := by
  rw [itemOf, Option.map_eq_some_iff]
  exact exists_congr fun name => and_congr_right fun _ => eq_comm

/-- What the parameters of a schedule make. -/
def scheduleOf (rawParamset : Dict String SlotValue) : ClimateScheduleDictInternal :=
  (rawParamset.entries.filterMap itemOf).foldl (fun s item => places.put s item.1 item.2)
    places.empty

variable {rawParamset : Dict String SlotValue}

theorem Restorable.convertRawToDictSchedule (h : Restorable rawParamset) :
    convertRawToDictSchedule rawParamset = .ok (scheduleOf rawParamset) := by
  rw [RawSchedule.convertRawToDictSchedule, scheduleOf, List.foldl_filterMap]
  refine Nested.foldlM_eq_ok (fun e he scheduleData => ?_) _
  cases hplace : slotPlace e.1 with
  | none =>
    have hname : parseSlotName e.1 = none := by
      by_contra hsome
      obtain ⟨name, hname⟩ := Option.ne_none_iff_exists'.mp hsome
      rw [slotPlace_of_parseSlotName hname] at hplace
      cases hplace
    rw [addSlotValue, hplace, itemOf, hname]
    rfl
  | some place =>
    obtain ⟨hparameter, hnumber, hclock⟩ := h e he (by rw [hplace]; rfl)
    obtain ⟨name, hname⟩ := Option.isSome_iff_exists.mp hparameter
    have hfinal : finalValue (slotKey name.slotType) e.2 =
        .ok (finalOf (slotKey name.slotType) e.2) := by
      refine finalValue_eq fun htype n hn => ?_
      have hendtime : name.slotType = .endtime := slotKey_injective htype
      have hall := hclock name hname hendtime
      rwa [hn] at hall
    rw [itemOf, hname]
    exact addSlotValue_eq hname hfinal scheduleData

theorem nodup_itemOf (rawParamset : Dict String SlotValue) :
    ((rawParamset.entries.filterMap itemOf).map Prod.fst).Nodup := by
  have hkeys : (rawParamset.entries.filterMap itemOf).map Prod.fst =
      rawParamset.keys.filterMap fun key => (parseSlotName key).map SlotName.place := by
    rw [Dict.keys, List.map_filterMap, List.filterMap_map]
    refine List.filterMap_congr fun e _ => ?_
    rw [itemOf, Option.map_map]
    rfl
  rw [hkeys]
  refine rawParamset.nodup.filterMap fun key key' place hplace hplace' => ?_
  obtain ⟨name, hname, rfl⟩ := Option.map_eq_some_iff.mp hplace
  obtain ⟨name', hname', heq⟩ := Option.map_eq_some_iff.mp hplace'
  rw [(parseSlotName_eq_some.mp hname).1, (parseSlotName_eq_some.mp hname').1,
    place_injective heq]

theorem mem_items_scheduleOf {item : Item} :
    item ∈ places.items (scheduleOf rawParamset) ↔
      ∃ e ∈ rawParamset.entries, itemOf e = some item := by
  rw [scheduleOf, places.mem_foldl_put (nodup_itemOf rawParamset), List.mem_filterMap]

theorem rawOf_finalOf {slotType : String} {value : SlotValue} (hnumber : value.isNumber = true)
    (hclock : slotType = "endtime" → value.minutes?.all isClock = true) :
    rawOf slotType (finalOf slotType value) = value := by
  cases value with
  | text s => cases hnumber
  | float x => rfl
  | int n =>
    rw [finalOf]
    split
    next htype =>
      have hrange : 0 ≤ n ∧ n < 1500 := of_decide_eq_true (hclock htype)
      rw [rawOf, if_pos htype, schedulerMinutes?_timeStr hrange]
      rfl
    · rfl

/-- What is known of a parameter whose value is in the schedule. -/
theorem Restorable.parameter (h : Restorable rawParamset) {e : String × SlotValue}
    (he : e ∈ rawParamset.entries) {name : SlotName} (hname : parseSlotName e.1 = some name) :
    e.2.isNumber = true ∧
      (slotKey name.slotType = "endtime" → e.2.minutes?.all isClock = true) := by
  have hplace : (slotPlace e.1).isSome = true := by
    rw [slotPlace_of_parseSlotName hname]
    rfl
  obtain ⟨-, hnumber, hclock⟩ := h e he hplace
  exact ⟨hnumber, fun htype => hclock name hname (slotKey_injective htype)⟩

theorem Restorable.named (h : Restorable rawParamset) : Named (scheduleOf rawParamset) := by
  constructor
  · intro item hitem
    obtain ⟨e, -, heq⟩ := mem_items_scheduleOf.mp hitem
    obtain ⟨name, hname, rfl⟩ := itemOf_eq_some.mp heq
    exact ⟨name, (parseSlotName_eq_some.mp hname).2, rfl⟩
  · intro item hitem
    obtain ⟨e, he, heq⟩ := mem_items_scheduleOf.mp hitem
    obtain ⟨name, hname, rfl⟩ := itemOf_eq_some.mp heq
    obtain ⟨hnumber, hclock⟩ := h.parameter he hname
    refine rawValue_eq fun (htype : slotKey name.slotType = "endtime") s hs => ?_
    cases hvalue : e.2 with
    | text s' =>
      rw [hvalue] at hnumber
      cases hnumber
    | float x =>
      rw [hvalue] at hs
      cases hs
    | int n =>
      have hrange : 0 ≤ n ∧ n < 1500 := by
        have hall := hclock htype
        rw [hvalue] at hall
        exact of_decide_eq_true hall
      have htext : finalOf (slotKey name.slotType) (.int n) = .text (timeStr n) := if_pos htype
      dsimp only at hs
      rw [hvalue, htext] at hs
      rw [← SlotValue.text.inj hs, schedulerMinutes?_timeStr hrange]
      exact Option.some_ne_none n

theorem mem_parameters_scheduleOf (h : Restorable rawParamset) {key : String} {value : SlotValue} :
    (key, value) ∈ parameters (scheduleOf rawParamset) ↔
      isScheduleParameter key = true ∧ rawParamset.get? key = some value := by
  rw [parameters, List.mem_map]
  constructor
  · rintro ⟨item, hitem, heq⟩
    obtain ⟨e, he, hitemOf⟩ := mem_items_scheduleOf.mp hitem
    obtain ⟨name, hname, rfl⟩ := itemOf_eq_some.mp hitemOf
    obtain ⟨hnumber, hclock⟩ := h.parameter he hname
    obtain ⟨rfl, rfl⟩ := Prod.mk.inj heq
    have hkey : e.1 = itemName (SlotName.place name, finalOf (slotKey name.slotType) e.2) :=
      (parseSlotName_eq_some.mp hname).1.trans (rawProfileName_place name).symm
    rw [← hkey]
    refine ⟨Option.isSome_iff_exists.mpr ⟨name, hname⟩, ?_⟩
    exact (Dict.get?_eq_some.mpr he).trans (congrArg some (rawOf_finalOf hnumber hclock).symm)
  · rintro ⟨hparameter, hget⟩
    obtain ⟨name, hname⟩ := Option.isSome_iff_exists.mp hparameter
    have he : (key, value) ∈ rawParamset.entries := Dict.get?_eq_some.mp hget
    obtain ⟨hnumber, hclock⟩ := h.parameter he hname
    refine ⟨_, mem_items_scheduleOf.mpr ⟨_, he, itemOf_eq_some.mpr ⟨name, hname, rfl⟩⟩, ?_⟩
    refine Prod.ext ?_ (rawOf_finalOf hnumber hclock)
    exact (rawProfileName_place name).trans (parseSlotName_eq_some.mp hname).1.symm

/-- There and back: the parameters of a schedule, and no others. -/
theorem convertDictToRawSchedule_convertRawToDictSchedule (h : Restorable rawParamset) :
    ∃ rawParamset',
      (convertRawToDictSchedule rawParamset >>= convertDictToRawSchedule) = .ok rawParamset' ∧
        ∀ key, rawParamset'.get? key =
          if isScheduleParameter key = true then rawParamset.get? key else none := by
  rw [h.convertRawToDictSchedule]
  refine ⟨_, h.named.convertDictToRawSchedule, fun key => Option.ext fun value => ?_⟩
  rw [Dict.get?_eq_some, Dict.entries_assign_empty h.named.nodup_parameters,
    mem_parameters_scheduleOf h, Option.ite_none_right_eq_some]

/-! ## The parameters that the reload takes -/

def ofRawValue : RawValue → SlotValue
  | .int n => .int n
  | .float x => .float x

def endtimeOf : SlotValue → Endtime
  | .int n => .minutes n
  | .float x => .float x
  | .text s => .text s

def temperatureOf : SlotValue → Option Rat
  | .int n => some n
  | .float x => some x
  | .text _ => none

def slotOfDict (slot : SlotDict) : ScheduleSlot where
  endtime := (slot.get? "endtime").map endtimeOf
  temperature := (slot.get? "temperature").bind temperatureOf

/-- The tables of a schedule. -/
def tablesOf (scheduleData : ClimateScheduleDictInternal) : ScheduleData :=
  scheduleData.map fun profileData => profileData.map fun weekdayData => weekdayData.map slotOfDict

theorem slotOfDict_set_endtime (slot : SlotDict) (value : SlotValue) :
    slotOfDict (slot.set "endtime" value) =
      { slotOfDict slot with endtime := some (endtimeOf value) } := by
  have hne : "endtime" ≠ "temperature" := by decide
  rw [slotOfDict, Dict.get?_set_self, Dict.get?_set_of_ne _ _ hne]
  rfl

theorem slotOfDict_set_temperature (slot : SlotDict) (value : SlotValue) :
    slotOfDict (slot.set "temperature" value) =
      { slotOfDict slot with temperature := temperatureOf value } := by
  rw [slotOfDict, Dict.get?_set_self, Dict.get?_set_of_ne _ _ temperature_ne_endtime]
  rfl

theorem storeValue_slotOfDict (slot : SlotDict) (slotType : SlotType) (value : RawValue) :
    storeValue (slotOfDict slot) slotType value =
      (finalValue (slotKey slotType) (ofRawValue value)).map fun finalValue =>
        slotOfDict (slot.set (slotKey slotType) finalValue) := by
  cases slotType with
  | temperature =>
    simp only [slotKey, slotOfDict_set_temperature]
    cases value <;> rfl
  | endtime =>
    simp only [slotKey, slotOfDict_set_endtime]
    cases value with
    | float x => rfl
    | int n =>
      rw [storeValue, ofRawValue, finalValue, if_pos rfl]
      cases convertMinutesToTimeStr n <;> rfl

/-- One more parameter. -/
theorem addRawSlotValue_tablesOf (scheduleData : ClimateScheduleDictInternal)
    {e : String × RawValue} (h : isScheduleParameter e.1 = true) :
    addRawSlotValue (tablesOf scheduleData) e =
      (addSlotValue scheduleData (e.1, ofRawValue e.2)).map tablesOf := by
  obtain ⟨name, hname⟩ := Option.isSome_iff_exists.mp h
  have hplace : (SlotName.place name).2.2.2 = slotKey name.slotType := rfl
  have hprofile : ((tablesOf scheduleData).get? name.profile).getD .empty =
      ((scheduleData.get? name.profile).getD .empty).map (·.map slotOfDict) :=
    Dict.getD_get?_map _ scheduleData name.profile .empty
  have hweekday (profileData : Dict WeekdayStr (Dict Int SlotDict)) :
      ((profileData.map (·.map slotOfDict)).get? name.weekday).getD .empty =
        ((profileData.get? name.weekday).getD .empty).map slotOfDict :=
    Dict.getD_get?_map _ profileData name.weekday .empty
  have hslot (weekdayData : Dict Int SlotDict) :
      ((weekdayData.map slotOfDict).get? name.slotNo).getD {} =
        slotOfDict ((weekdayData.get? name.slotNo).getD .empty) :=
    Dict.getD_get?_map slotOfDict weekdayData name.slotNo .empty
  simp only [addRawSlotValue, hname, hprofile, hweekday, hslot, storeValue_slotOfDict,
    addSlotValue, slotPlace_of_parseSlotName hname, hplace]
  cases finalValue (slotKey name.slotType) (ofRawValue e.2) with
  | error error => rfl
  | ok value =>
    simp only [Except.map, store, tablesOf, Dict.map_set]
    rfl

/-- The tables that the reload makes. -/
theorem convertRawToDictSchedule_eq {rawData : Dict String RawValue}
    (h : ∀ key ∈ rawData.keys, isScheduleParameter key = true) :
    ClimateWeekProfile.convertRawToDictSchedule rawData =
      (convertRawToDictSchedule (rawData.map ofRawValue)).map tablesOf := by
  have hfold : ∀ (es : List (String × RawValue)) (scheduleData : ClimateScheduleDictInternal),
      (∀ e ∈ es, isScheduleParameter e.1 = true) →
      es.foldlM addRawSlotValue (tablesOf scheduleData) =
        ((es.map fun e => (e.1, ofRawValue e.2)).foldlM addSlotValue scheduleData).map
          tablesOf := by
    intro es
    induction es with
    | nil => exact fun _ _ => rfl
    | cons e es ih =>
      intro scheduleData hes
      rw [List.foldlM_cons, List.map_cons, List.foldlM_cons,
        addRawSlotValue_tablesOf scheduleData (hes e List.mem_cons_self)]
      cases addSlotValue scheduleData (e.1, ofRawValue e.2) with
      | error error => rfl
      | ok scheduleData' => exact ih scheduleData' fun e' he' => hes e' (List.mem_cons_of_mem _ he')
  exact hfold rawData.entries .empty fun e he => h e.1 (List.mem_map_of_mem he)

/-! ## Both ways -/

theorem raw_round_trips (scheduleData : ClimateScheduleDictInternal)
    (rawParamset : Dict String SlotValue) (hs : Encodable scheduleData)
    (hraw : Restorable rawParamset) :
    (convertDictToRawSchedule scheduleData >>= convertRawToDictSchedule) =
        .ok (clocked scheduleData) ∧
      (Canonical scheduleData → clocked scheduleData = scheduleData) ∧
        ∃ rawParamset',
          (convertRawToDictSchedule rawParamset >>= convertDictToRawSchedule) = .ok rawParamset' ∧
            ∀ key, rawParamset'.get? key =
              if isScheduleParameter key = true then rawParamset.get? key else none :=
  ⟨convertRawToDictSchedule_convertDictToRawSchedule hs, clocked_eq_self,
    convertDictToRawSchedule_convertRawToDictSchedule hraw⟩

/-- A slot of Monday that ends at a time. -/
def mondaySlot (endtime : SlotValue) : ClimateScheduleDictInternal :=
  store (store .empty (.p1, .monday, 1, "endtime") endtime)
    (.p1, .monday, 1, "temperature") (.float 20)

def mondayParamset : Dict String SlotValue :=
  Dict.assign .empty [("TEMPERATURE_OFFSET", .float 1), ("P1_TEMPERATURE_MONDAY_1", .float 20),
    ("P1_ENDTIME_MONDAY_1", .int 1440)]

theorem raw_round_trips_monday :
    (convertDictToRawSchedule (mondaySlot (.text "24:00")) >>= convertRawToDictSchedule) =
        .ok (clocked (mondaySlot (.text "24:00"))) ∧
      ∃ rawParamset',
        (convertRawToDictSchedule mondayParamset >>= convertDictToRawSchedule) =
            .ok rawParamset' ∧
          ∀ key, rawParamset'.get? key =
            if isScheduleParameter key = true then mondayParamset.get? key else none :=
  have h := raw_round_trips (mondaySlot (.text "24:00")) mondayParamset (by decide) (by decide)
  ⟨h.1, h.2.2⟩

/-- Another text of a time comes back as the usual one, and a parameter that is no part of a
schedule is taken but not given back. -/
theorem not_raw_round_trips :
    Encodable (mondaySlot (.text "6:00")) ∧
      (convertDictToRawSchedule (mondaySlot (.text "6:00")) >>= convertRawToDictSchedule) =
          .ok (mondaySlot (.text "06:00")) ∧
        mondaySlot (.text "06:00") ≠ mondaySlot (.text "6:00") ∧
          (convertRawToDictSchedule (mondayParamset.set "P1_HUMIDITY_MONDAY_1" (.int 50)) >>=
            convertDictToRawSchedule) = .error .validation := by
  decide

end RawSchedule

end AioHomematic.Model
