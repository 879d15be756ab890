import AioHomematic.Model.WeekProfile.Climate.Times

/-!
# What a raw schedule has

`rawDays` reads the days of a paramset by looking its parameters up.
`convertRawToDictSchedule` takes the parameters one by one; `convert_rawDays` says
that its tables have the same slots.
-/

namespace AioHomematic.Model

open Lib Support

/-! ## Names -/

namespace SlotName

/-- The parameter of a slot. -/
def text (name : SlotName) : String :=
  String.ofList (name.profile.name.toList ++ '_' :: (name.slotType.name.toList ++ '_' ::
    (name.weekday.name.toList ++ '_' :: decimal name.slotNo)))

end SlotName

theorem find?_scheduleProfile (profile : ScheduleProfile) :
    '_' ∉ profile.name.toList ∧
      ScheduleProfile.all.find? (·.name.toList = profile.name.toList) = some profile := by
  cases profile <;> decide

theorem find?_slotType (slotType : SlotType) :
    '_' ∉ slotType.name.toList ∧
      [SlotType.endtime, .temperature].find? (·.name.toList = slotType.name.toList) =
        some slotType := by
  cases slotType <;> decide

theorem find?_weekdayStr (weekday : WeekdayStr) :
    '_' ∉ weekday.name.toList ∧
      WeekdayStr.all.find? (·.name.toList = weekday.name.toList) = some weekday := by
  cases weekday <;> decide

theorem find?_slotNumbers :
    ∀ slotNo ∈ slotNumbers, slotNumbers.find? (decimal · = decimal slotNo) = some slotNo := by
  decide

theorem parseSlotName_text (name : SlotName) (h : name.slotNo ∈ slotNumbers) :
    parseSlotName name.text = some name := by
  obtain ⟨hprofile, hfindProfile⟩ := find?_scheduleProfile name.profile
  obtain ⟨hslotType, hfindSlotType⟩ := find?_slotType name.slotType
  obtain ⟨hweekday, hfindWeekday⟩ := find?_weekdayStr name.weekday
  simp only [parseSlotName, SlotName.text, String.toList_ofList, split1_append hprofile,
    split1_append hslotType, split1_append hweekday, Option.bind_some, hfindProfile,
    hfindSlotType, hfindWeekday, find?_slotNumbers name.slotNo h, Option.map_some]

/-- A parameter has one name. -/
theorem parseSlotName_eq_some {key : String} {name : SlotName} :
    parseSlotName key = some name ↔ key = name.text ∧ name.slotNo ∈ slotNumbers := by
  constructor
  · intro h
    obtain ⟨first, hfirst, h⟩ := Option.bind_eq_some_iff.mp h
    obtain ⟨second, hsecond, h⟩ := Option.bind_eq_some_iff.mp h
    obtain ⟨third, hthird, h⟩ := Option.bind_eq_some_iff.mp h
    obtain ⟨profile, hprofile, h⟩ := Option.bind_eq_some_iff.mp h
    obtain ⟨slotType, hslotType, h⟩ := Option.bind_eq_some_iff.mp h
    obtain ⟨weekday, hweekday, h⟩ := Option.bind_eq_some_iff.mp h
    obtain ⟨slotNo, hslotNo, rfl⟩ := Option.map_eq_some_iff.mp h
    have hprofileName : profile.name.toList = first.1 := by simpa using List.find?_some hprofile
    have hslotTypeName : slotType.name.toList = second.1 := by
      simpa using List.find?_some hslotType
    have hweekdayName : weekday.name.toList = third.1 := by simpa using List.find?_some hweekday
    have hslotNoName : decimal slotNo = third.2 := by simpa using List.find?_some hslotNo
    refine ⟨?_, List.mem_of_find?_eq_some hslotNo⟩
    rw [SlotName.text, hprofileName, hslotTypeName, hweekdayName, hslotNoName,
      ← of_split1 hthird, ← of_split1 hsecond, ← of_split1 hfirst, String.ofList_toList]
  · rintro ⟨rfl, hslotNo⟩
    exact parseSlotName_text name hslotNo

/-! ## Slots -/

namespace RawValue

/-- An end time in a slot. -/
def asEndtime : RawValue → Endtime
  | int n => .text (timeStr n)
  | float x => .float x

/-- A temperature in a slot. -/
def asTemperature : RawValue → Rat
  | int n => n
  | float x => x

/-- An end time of the device's range. -/
def inDay : RawValue → Bool
  | int n => decide (0 ≤ n ∧ n ≤ 1440)
  | float _ => false

end RawValue

/-- The slot that has the values of its two parameters, if there is one. -/
def slotOf (value? : SlotType → Option RawValue) : Option ScheduleSlot :=
  if value? .endtime = none ∧ value? .temperature = none then none
  else some ⟨(value? .endtime).map (·.asEndtime), (value? .temperature).map (·.asTemperature)⟩

/-- One more value. -/
theorem storeValue_slotOf (value? value?' : SlotType → Option RawValue) {slotType : SlotType}
    {value : RawValue} (hvalue : slotType = .endtime → value.inDay = true)
    (hset : ∀ slotType', value?' slotType' =
      if slotType = slotType' then some value else value? slotType') :
    ∃ slot, storeValue ((slotOf value?).getD {}) slotType value = .ok slot ∧
      slotOf value?' = some slot := by
  have hold : (slotOf value?).getD {} =
      ⟨(value? .endtime).map (·.asEndtime), (value? .temperature).map (·.asTemperature)⟩ := by
    rw [slotOf]
    split
    next hnone =>
      rw [hnone.1, hnone.2]
      rfl
    · rfl
  have hendtime := hset .endtime
  have htemperature := hset .temperature
  rw [hold]
  cases slotType with
  | temperature =>
    rw [if_neg nofun] at hendtime
    rw [if_pos rfl] at htemperature
    simp only [slotOf, hendtime, htemperature, reduceCtorEq, and_false, if_false, Option.map_some]
    cases value <;> exact ⟨_, rfl, rfl⟩
  | endtime =>
    rw [if_pos rfl] at hendtime
    rw [if_neg nofun] at htemperature
    simp only [slotOf, hendtime, htemperature, reduceCtorEq, false_and, if_false, Option.map_some]
    cases value with
    | float x => cases hvalue rfl
    | int n =>
      refine ⟨_, ?_, rfl⟩
      rw [storeValue, convertMinutesToTimeStr_of_mem (lt_of_inDay (of_decide_eq_true (hvalue rfl)))]
      rfl

/-! ## Tables -/

/-- A slot of a schedule. -/
def slotAt (scheduleData : ScheduleData) (profile : ScheduleProfile) (weekday : WeekdayStr)
    (slotNo : Int) : Option ScheduleSlot :=
  ((((scheduleData.get? profile).getD .empty).get? weekday).getD .empty).get? slotNo

/-- The names of parameters. -/
def slotNames (keys : List String) : List SlotName := keys.filterMap parseSlotName

/-- The profiles in the order in which they occur first. -/
def profilesOf (names : List SlotName) : List ScheduleProfile := (names.map (·.profile)).eraseDups

/-- The days of a profile in the order in which they occur first. -/
def weekdaysOf (profile : ScheduleProfile) (names : List SlotName) : List WeekdayStr :=
  ((names.filter (·.profile = profile)).map (·.weekday)).eraseDups

/-- What a paramset has of a slot. -/
def rawSlot (rawData : Dict String RawValue) (profile : ScheduleProfile) (weekday : WeekdayStr)
    (slotNo : Int) : Option ScheduleSlot :=
  slotOf fun slotType => rawData.get? (SlotName.text ⟨profile, slotType, weekday, slotNo⟩)

/-- The days of a paramset, each with its slots by their numbers. -/
def rawDays (rawData : Dict String RawValue) : List (List ScheduleSlot) :=
  (profilesOf (slotNames rawData.keys)).flatMap fun profile =>
    (weekdaysOf profile (slotNames rawData.keys)).map fun weekday =>
      slotNumbers.filterMap (rawSlot rawData profile weekday)

/-- The end times are integers of the device's range, whatever the temperatures are. -/
def EndtimesInRange (rawData : Dict String RawValue) : Prop :=
  ∀ e ∈ rawData.entries, ∀ name ∈ parseSlotName e.1, name.slotType = .endtime → e.2.inDay = true

instance (rawData : Dict String RawValue) : Decidable (EndtimesInRange rawData) :=
  inferInstanceAs (Decidable (∀ e ∈ rawData.entries, _))

/-- The tables have what the parameters say that are taken. -/
structure Decoded (es : List (String × RawValue)) (scheduleData : ScheduleData) : Prop where
  profiles : scheduleData.keys = profilesOf (slotNames (es.map Prod.fst))
  weekdays : ∀ profile, ((scheduleData.get? profile).getD .empty).keys =
    weekdaysOf profile (slotNames (es.map Prod.fst))
  slots : ∀ profile weekday slotNo, slotAt scheduleData profile weekday slotNo =
    if slotNo ∈ slotNumbers then
      slotOf fun slotType =>
        Dict.lookup (SlotName.text ⟨profile, slotType, weekday, slotNo⟩) es
    else none
  nonempty : ∀ profile profileData, scheduleData.get? profile = some profileData →
    ∀ weekday weekdayData, profileData.get? weekday = some weekdayData → weekdayData.entries ≠ []

theorem slotNames_concat (keys : List String) (key : String) :
    slotNames (keys ++ [key]) = slotNames keys ++ (parseSlotName key).toList := by
  rw [slotNames, slotNames, List.filterMap_append]
  cases hname : parseSlotName key with
  | none => rw [List.filterMap_cons_none hname, List.filterMap_nil, Option.toList_none]
  | some name => rw [List.filterMap_cons_some hname, List.filterMap_nil, Option.toList_some]

theorem lookup_concat {es : List (String × RawValue)} {e : String × RawValue}
    (h : e.1 ∉ es.map Prod.fst) (key : String) :
    Dict.lookup key (es ++ [e]) = if e.1 = key then some e.2 else Dict.lookup key es := by
  rw [← Dict.lookup_store, Dict.store_of_not_mem h]

/-- A parameter that is not one of a schedule changes nothing. -/
theorem Decoded.concat_none {es : List (String × RawValue)} {scheduleData : ScheduleData}
    (h : Decoded es scheduleData) {e : String × RawValue} (hnew : e.1 ∉ es.map Prod.fst)
    (hname : parseSlotName e.1 = none) : Decoded (es ++ [e]) scheduleData := by
  have hnames : slotNames ((es ++ [e]).map Prod.fst) = slotNames (es.map Prod.fst) := by
    rw [List.map_append, List.map_singleton, slotNames_concat, hname, Option.toList_none,
      List.append_nil]
  refine ⟨hnames ▸ h.profiles, fun profile => hnames ▸ h.weekdays profile, ?_, h.nonempty⟩
  intro profile weekday slotNo
  rw [h.slots]
  split
  next hslotNo =>
    refine congrArg slotOf (funext fun slotType => ?_)
    rw [lookup_concat hnew, if_neg]
    intro heq
    rw [heq, parseSlotName_text ⟨profile, slotType, weekday, slotNo⟩ hslotNo] at hname
    cases hname
  · rfl

theorem slotAt_set (scheduleData : ScheduleData) (profile profile' : ScheduleProfile)
    (weekday weekday' : WeekdayStr) (slotNo slotNo' : Int) (slot : ScheduleSlot) :
    slotAt
        (scheduleData.set profile
          (((scheduleData.get? profile).getD .empty).set weekday
            (((((scheduleData.get? profile).getD .empty).get? weekday).getD .empty).set
              slotNo slot)))
        profile' weekday' slotNo' =
      if profile = profile' ∧ weekday = weekday' ∧ slotNo = slotNo' then some slot
      else slotAt scheduleData profile' weekday' slotNo' := by
  rw [slotAt, Dict.get?_set, slotAt]
  by_cases hprofile : profile = profile'
  · subst hprofile
    rw [if_pos rfl, Option.getD_some, Dict.get?_set]
    by_cases hweekday : weekday = weekday'
    · subst hweekday
      rw [if_pos rfl, Option.getD_some, Dict.get?_set]
      exact if_congr ⟨fun h => ⟨rfl, rfl, h⟩, fun h => h.2.2⟩ rfl rfl
    · rw [if_neg hweekday, if_neg fun h => hweekday h.2.1]
  · rw [if_neg hprofile, if_neg fun h => hprofile h.1]

/-- A value is stored in its slot, and nowhere else. -/
theorem Decoded.concat_some {es : List (String × RawValue)} {scheduleData : ScheduleData}
    (h : Decoded es scheduleData) {e : String × RawValue} (hnew : e.1 ∉ es.map Prod.fst)
    {name : SlotName} (hname : parseSlotName e.1 = some name)
    (hvalue : name.slotType = .endtime → e.2.inDay = true) :
    ∃ scheduleData', addRawSlotValue scheduleData e = .ok scheduleData' ∧
      Decoded (es ++ [e]) scheduleData' := by
  obtain ⟨hkey, hslotNo⟩ := parseSlotName_eq_some.mp hname
  have hnames : slotNames ((es ++ [e]).map Prod.fst) = slotNames (es.map Prod.fst) ++ [name] := by
    rw [List.map_append, List.map_singleton, slotNames_concat, hname, Option.toList_some]
  have hlookup : ∀ name' : SlotName, name'.slotNo ∈ slotNumbers →
      Dict.lookup name'.text (es ++ [e]) =
        if name = name' then some e.2 else Dict.lookup name'.text es := by
    intro name' hslotNo'
    rw [lookup_concat hnew]
    refine if_congr ⟨fun heq => ?_, fun heq => heq ▸ hkey⟩ rfl rfl
    exact Option.some.inj (hname.symm.trans (parseSlotName_eq_some.mpr ⟨heq, hslotNo'⟩))
  have hslots := h.slots name.profile name.weekday name.slotNo
  rw [if_pos hslotNo] at hslots
  obtain ⟨slot, hstore, hslot⟩ := storeValue_slotOf
    (fun slotType =>
      Dict.lookup (SlotName.text ⟨name.profile, slotType, name.weekday, name.slotNo⟩) es)
    (fun slotType =>
      Dict.lookup (SlotName.text ⟨name.profile, slotType, name.weekday, name.slotNo⟩) (es ++ [e]))
    hvalue fun slotType => by
      rw [hlookup ⟨name.profile, slotType, name.weekday, name.slotNo⟩ hslotNo]
      exact if_congr ⟨fun heq => congrArg SlotName.slotType heq, fun heq => heq ▸ rfl⟩ rfl rfl
  rw [addRawSlotValue, hname]
  dsimp only
  rw [← hslots, slotAt] at hstore
  rw [hstore]
  refine ⟨_, rfl, ?_, ?_, ?_, ?_⟩
  · rw [Dict.keys_set, h.profiles, hnames, profilesOf, profilesOf, List.map_append,
      List.map_singleton, eraseDups_concat]
  · intro profile
    have hweekdays := h.weekdays profile
    rw [weekdaysOf] at hweekdays
    rw [hnames, weekdaysOf, List.filter_append, List.map_append, Dict.get?_set]
    by_cases hprofile : name.profile = profile
    · subst hprofile
      rw [if_pos rfl, Option.getD_some, Dict.keys_set, hweekdays,
        List.filter_cons_of_pos (by simp), List.filter_nil, List.map_singleton,
        eraseDups_concat]
    · rw [if_neg hprofile, hweekdays, List.filter_cons_of_neg (by simpa using hprofile),
        List.filter_nil, List.map_nil, List.append_nil]
  · intro profile weekday slotNo
    rw [slotAt_set, h.slots]
    split
    next heq =>
      obtain ⟨rfl, rfl, rfl⟩ := heq
      rw [if_pos hslotNo, hslot]
    next hne =>
      split
      next hslotNo' =>
        refine congrArg slotOf (funext fun slotType => ?_)
        rw [hlookup ⟨profile, slotType, weekday, slotNo⟩ hslotNo', if_neg]
        rintro rfl
        exact hne ⟨rfl, rfl, rfl⟩
      · rfl
  · intro profile profileData hprofile weekday weekdayData hweekday
    rw [Dict.get?_set] at hprofile
    split at hprofile
    next heq =>
      obtain rfl := Option.some.inj hprofile
      rw [Dict.get?_set] at hweekday
      split at hweekday
      · obtain rfl := Option.some.inj hweekday
        exact Dict.entries_ne_nil.mpr ⟨name.slotNo, slot, Dict.get?_set_self _ _ _⟩
      · cases hold : scheduleData.get? name.profile with
        | none =>
          rw [hold] at hweekday
          cases hweekday
        | some old =>
          rw [hold] at hweekday
          exact h.nonempty name.profile old hold weekday weekdayData hweekday
    · exact h.nonempty profile profileData hprofile weekday weekdayData hweekday

theorem decoded_convertRawToDictSchedule {rawData : Dict String RawValue}
    (h : EndtimesInRange rawData) :
    ∃ scheduleData, ClimateWeekProfile.convertRawToDictSchedule rawData = .ok scheduleData ∧
      Decoded rawData.entries scheduleData := by
  have hfold : ∀ es : List (String × RawValue), (es.map Prod.fst).Nodup →
      (∀ e ∈ es, ∀ name ∈ parseSlotName e.1, name.slotType = .endtime → e.2.inDay = true) →
      ∃ scheduleData, es.foldlM addRawSlotValue .empty = .ok scheduleData ∧
        Decoded es scheduleData := by
    intro es
    induction es using List.reverseRecOn with
    | nil =>
      refine fun _ _ => ⟨.empty, rfl, rfl, fun _ => rfl, fun _ _ slotNo => ?_, nofun⟩
      exact (ite_self none).symm
    | append_singleton es e ih =>
      intro hnodup hvalues
      obtain ⟨hold, -, hne⟩ := List.nodup_append.mp (List.map_append ▸ hnodup)
      have hnew : e.1 ∉ es.map Prod.fst := fun hmem => hne e.1 hmem e.1 List.mem_cons_self rfl
      obtain ⟨scheduleData, hrun, hdecoded⟩ :=
        ih hold fun e' he' => hvalues e' (List.mem_append_left _ he')
      have hvalue := hvalues e (List.mem_append_right _ List.mem_cons_self)
      rw [List.foldlM_append, hrun]
      cases hname : parseSlotName e.1 with
      | none =>
        refine ⟨scheduleData, ?_, hdecoded.concat_none hnew hname⟩
        simp only [bind, Except.bind, List.foldlM_cons, List.foldlM_nil, addRawSlotValue, hname]
        rfl
      | some name =>
        obtain ⟨scheduleData', hadd, hdecoded'⟩ :=
          hdecoded.concat_some hnew hname (hvalue name hname)
        refine ⟨scheduleData', ?_, hdecoded'⟩
        simp only [bind, Except.bind, List.foldlM_cons, List.foldlM_nil, hadd]
        rfl
  exact hfold rawData.entries rawData.nodup h

/-! ## Days -/

/-- The slots of a table whose numbers are 1 to 13. -/
theorem slotsInOrder_eq {weekdayData : Dict Int ScheduleSlot}
    (h : ∀ slotNo slot, weekdayData.get? slotNo = some slot → slotNo ∈ slotNumbers) :
    slotsInOrder weekdayData = slotNumbers.filterMap weekdayData.get? := by
  have hmem : ∀ e : Int × ScheduleSlot, e ∈ weekdayData.entries ↔ e ∈ slotNumbers.filterMap
      fun slotNo => (weekdayData.get? slotNo).map (slotNo, ·) := by
    intro e
    rw [← Dict.get?_eq_some, List.mem_filterMap]
    constructor
    · exact fun hget => ⟨e.1, h e.1 e.2 hget, by rw [hget, Option.map_some]⟩
    · rintro ⟨slotNo, -, heq⟩
      obtain ⟨slot, hget, rfl⟩ := Option.map_eq_some_iff.mp heq
      exact hget
  have hpairwise : (slotNumbers.filterMap fun slotNo =>
      (weekdayData.get? slotNo).map (slotNo, ·)).Pairwise fun e e' => e.1 < e'.1 := by
    have hnumbers : slotNumbers.Pairwise (· < ·) := by decide
    refine hnumbers.filterMap _ fun slotNo slotNo' hlt e he e' he' => ?_
    obtain ⟨slot, -, rfl⟩ := Option.map_eq_some_iff.mp he
    obtain ⟨slot', -, rfl⟩ := Option.map_eq_some_iff.mp he'
    exact hlt
  have hnodup : (slotNumbers.filterMap fun slotNo =>
      (weekdayData.get? slotNo).map (slotNo, ·)).Nodup :=
    hpairwise.imp fun hlt heq => hlt.ne (congrArg Prod.fst heq)
  have hperm := (List.perm_insertionSort (fun e e' : Int × ScheduleSlot => e.1 ≤ e'.1)
    weekdayData.entries).trans ((List.perm_ext_iff_of_nodup (.of_map Prod.fst weekdayData.nodup)
      hnodup).mpr hmem)
  have hsorted : weekdayData.entries.insertionSort (fun e e' => e.1 ≤ e'.1) =
      slotNumbers.filterMap fun slotNo => (weekdayData.get? slotNo).map (slotNo, ·) := by
    refine hperm.eq_of_pairwise ?_ (List.pairwise_insertionSort _ _)
      (hpairwise.imp fun hlt => hlt.le)
    intro e e' he he' hle hle'
    have hget := Dict.get?_eq_some.mpr ((List.mem_insertionSort _).mp he)
    have hget' := Dict.get?_eq_some.mpr ((hmem e').mpr he')
    have hno : e.1 = e'.1 := le_antisymm hle hle'
    rw [hno, hget'] at hget
    exact Prod.ext hno (Option.some.inj hget).symm
  rw [slotsInOrder, hsorted, List.map_filterMap]
  refine List.filterMap_congr fun slotNo _ => ?_
  cases weekdayData.get? slotNo <;> rfl

/-- The days of a schedule in the order in which they are converted. -/
def weekdayTables (scheduleData : ScheduleData) : List (Dict Int ScheduleSlot) :=
  scheduleData.values.flatMap Dict.values

/-- The tables of a raw schedule have the slots of its days. -/
theorem Decoded.weekdayTables {rawData : Dict String RawValue} {scheduleData : ScheduleData}
    (h : Decoded rawData.entries scheduleData) :
    (weekdayTables scheduleData).map slotsInOrder = rawDays rawData := by
  rw [Model.weekdayTables, Dict.values_eq scheduleData .empty, h.profiles, List.map_flatMap,
    List.flatMap_map]
  refine List.flatMap_congr fun profile _ => ?_
  rw [Dict.values_eq _ .empty, h.weekdays, List.map_map]
  refine List.map_congr_left fun weekday _ => ?_
  have hget : ∀ slotNo, ((((scheduleData.get? profile).getD .empty).get? weekday).getD
      .empty).get? slotNo = if slotNo ∈ slotNumbers then rawSlot rawData profile weekday slotNo
        else none :=
    h.slots profile weekday
  rw [Function.comp_apply, slotsInOrder_eq]
  · refine List.filterMap_congr fun slotNo hslotNo => ?_
    rw [hget, if_pos hslotNo]
  · intro slotNo slot hslot
    rw [hget] at hslot
    by_contra hslotNo
    rw [if_neg hslotNo] at hslot
    cases hslot

end AioHomematic.Model
