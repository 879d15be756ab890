import AioHomematic.Model.WeekProfile.Climate.ToSimple

/-!
# A table, its simple day, and a table again

`dayRoundTrips_iff` says for which tables of a full day the way there and back
keeps the temperature at every minute.
-/

namespace AioHomematic.Model

open Lib Support Collector

variable {weekdayData : Dict Int ScheduleSlot} {spans : List (Span Int Rat)}
  {bounds : Option (Rat × Rat)}

/-! ## Full days -/

theorem pairwise_of_ascends {previous : Int} (h : Span.Ascends previous spans) :
    (∀ s ∈ spans, previous ≤ s.stop) ∧ spans.Pairwise fun s s' => s.stop ≤ s'.stop := by
  have hpairwise := List.pairwise_cons.mp (List.isChain_iff_pairwise.mp h)
  exact ⟨fun s hs => h.le_of_mem hs, List.pairwise_map.mp hpairwise.2⟩

/-- What is known of the spans of a full day. -/
structure FullSpans (weekdayData : Dict Int ScheduleSlot) (spans : List (Span Int Rat)) :
    Prop where
  reads : Reads (slotsInOrder weekdayData) spans
  length : spans.length = 13
  sorted : spans.Pairwise fun s s' => s.stop ≤ s'.stop
  stops : ∀ s ∈ spans, 0 ≤ s.stop ∧ s.stop ≤ 1440
  last : spans.getLast?.map (·.stop) = some 1440

theorem length_slotsInOrder (weekdayData : Dict Int ScheduleSlot) :
    (slotsInOrder weekdayData).length = weekdayData.keys.length := by
  rw [slotsInOrder, List.length_map, List.length_insertionSort, Dict.keys, List.length_map]

theorem FullDay.fullSpans (h : FullDay weekdayData) :
    FullSpans weekdayData (daySpans weekdayData) := by
  obtain ⟨spans, hday, hascends, hlast⟩ := h.day
  have hreads : Reads (slotsInOrder weekdayData) spans := mapM_eq_some_iff.mp hday
  obtain ⟨hfirst, hsorted⟩ := pairwise_of_ascends hascends
  obtain rfl : daySpans weekdayData = spans := (reads_iff.mp hreads).2
  refine ⟨hreads, ?_, hsorted, fun s hs => ⟨hfirst s hs, ?_⟩, hlast⟩
  · have hperm : weekdayData.keys.Perm slotNumbers := by
      refine (List.perm_ext_iff_of_nodup weekdayData.nodup (by decide)).mpr fun no => ?_
      have hcontains := h.numbers no
      rw [Dict.contains_iff, ne_eq, Dict.get?_eq_none, not_not] at hcontains
      refine hcontains.trans ?_
      rw [slotNumbers, List.mem_map]
      constructor
      · rintro ⟨hlow, hhigh⟩
        refine ⟨(no - 1).toNat, List.mem_range.mpr ?_, ?_⟩ <;> omega
      · rintro ⟨n, hn, rfl⟩
        have := List.mem_range.mp hn
        omega
    rw [← hreads.length_eq, length_slotsInOrder, hperm.length_eq]
    rfl
  · obtain ⟨last, hgetLast, hstop⟩ := Option.map_eq_some_iff.mp hlast
    obtain ⟨init, hinit⟩ := List.getLast?_eq_some_iff.mp hgetLast
    rw [hinit] at hs hsorted
    obtain hs | hs := List.mem_append.mp hs
    · exact ((List.pairwise_append.mp hsorted).2.2 s hs last List.mem_cons_self).trans hstop.le
    · obtain rfl := List.mem_singleton.mp hs
      exact hstop.le

theorem throughMax_cases (slots : List ScheduleSlot) :
    (∃ slot ∈ throughMax slots, slot.endtime = some (.text climateMaxSchedulerTime)) ∨
      throughMax slots = slots := by
  induction slots with
  | nil => exact .inr rfl
  | cons slot slots ih =>
    rw [throughMax]
    split
    next hmax => exact .inl ⟨slot, List.mem_cons_self, hmax⟩
    next =>
      obtain ⟨slot', hmem, hmax⟩ | heq := ih
      · exact .inl ⟨slot', List.mem_cons_of_mem slot hmem, hmax⟩
      · exact .inr (congrArg (slot :: ·) heq)

/-- The relevant spans reach 24:00. -/
theorem FullSpans.exists_max (h : FullSpans weekdayData spans) :
    ∃ s ∈ relevantSpans weekdayData, s.stop = 1440 := by
  obtain ⟨hrelevant, -⟩ := reads_relevantSpans h.reads
  obtain ⟨slot, hslot, hmax⟩ | heq := throughMax_cases (slotsInOrder weekdayData)
  · obtain ⟨s, hs⟩ := Option.isSome_iff_exists.mp (isSome_of_reads hrelevant slot hslot)
    refine ⟨s, List.mem_filterMap.mpr ⟨slot, hslot, hs⟩, ?_⟩
    have hend := (span?_eq_some.mp hs).1
    rw [ScheduleSlot.endMinutes, hmax] at hend
    exact (Except.ok.inj (hend.symm.trans (endtimeToMinutes_text schedulerMinutes?_max)))
  · have hall : relevantSpans weekdayData = spans := by
      rw [relevantSpans, heq]
      exact (reads_iff.mp h.reads).2
    obtain ⟨last, hgetLast, hstop⟩ := Option.map_eq_some_iff.mp h.last
    exact ⟨last, hall ▸ List.mem_of_getLast? hgetLast, hstop⟩

theorem valueAt_append_of_exists {l : List (Span Int Rat)} {minute : Int}
    (h : ∃ s ∈ l, minute < s.stop) (l' : List (Span Int Rat)) :
    Span.valueAt (l ++ l') minute = Span.valueAt l minute := by
  rw [Span.valueAt_append]
  cases hvalue : Span.valueAt l minute with
  | some x => rfl
  | none =>
    obtain ⟨s, hs, hlt⟩ := h
    exact absurd hlt (not_lt.mpr (Span.valueAt_eq_none.mp hvalue s hs))

theorem prefix_fillSpans (spans : List (Span Int Rat)) :
    spans <+: fillSpans spans := by
  rw [fillSpans]
  cases spans.getLast? with
  | none => exact List.prefix_rfl
  | some last => exact List.prefix_append _ _

/-- Filling adds no temperature, and up to 13 slots. -/
theorem fillSpans_spec (h : spans ≠ []) (hlength : spans.length ≤ 13) :
    (fillSpans spans).length = 13 ∧
      ∀ x, (∃ s ∈ fillSpans spans, s.value = x) ↔ ∃ s ∈ spans, s.value = x := by
  rw [fillSpans]
  cases hlast : spans.getLast? with
  | none => exact absurd (List.getLast?_eq_none_iff.mp hlast) h
  | some last =>
    dsimp only
    constructor
    · rw [List.length_append, List.length_replicate]
      omega
    · intro x
      constructor
      · rintro ⟨s, hs, rfl⟩
        obtain hs | hs := List.mem_append.mp hs
        · exact ⟨s, hs, rfl⟩
        · rw [List.eq_of_mem_replicate hs]
          exact ⟨last, List.mem_of_getLast? hlast, rfl⟩
      · rintro ⟨s, hs, rfl⟩
        exact ⟨s, List.mem_append_left _ hs, rfl⟩

/-- What is known of the spans that count. -/
theorem FullSpans.relevant (h : FullSpans weekdayData spans) :
    sortSpans (relevantSpans weekdayData) = relevantSpans weekdayData ∧
      relevantSpans weekdayData ≠ [] ∧ (relevantSpans weekdayData).length ≤ 13 ∧
      ∀ minute, minute < 1440 →
        Span.valueAt (fillSpans (relevantSpans weekdayData)) minute =
          Span.valueAt spans minute := by
  obtain ⟨-, hpre⟩ := reads_relevantSpans h.reads
  obtain ⟨s, hs, hstop⟩ := h.exists_max
  refine ⟨(h.sorted.sublist hpre.sublist).insertionSort_eq, List.ne_nil_of_mem hs,
    h.length ▸ hpre.length_le, fun minute hminute => ?_⟩
  have hlater : ∃ s ∈ relevantSpans weekdayData, minute < s.stop := ⟨s, hs, hstop ▸ hminute⟩
  obtain ⟨rest, hrest⟩ := hpre
  obtain ⟨rest', hrest'⟩ := prefix_fillSpans (relevantSpans weekdayData)
  rw [← hrest', ← hrest, valueAt_append_of_exists hlater, valueAt_append_of_exists hlater]

/-! ## There and back -/

/-- The table of the simple day has the same temperature at every minute of the day. -/
def DayRoundTrips (bounds : Option (Rat × Rat)) (weekdayData : Dict Int ScheduleSlot) : Prop :=
  ∃ s weekdayData', validateAndConvertWeekdayToSimple bounds weekdayData = .ok s ∧
    validateAndConvertSimpleToWeekday bounds s = .ok weekdayData' ∧
    ∀ minute, 0 ≤ minute → minute < 1440 →
      temperatureAt weekdayData' minute = temperatureAt weekdayData minute

variable {minTemp maxTemp base : Rat} {s : ClimateWeekdaySchedule} {c : Collector Int Rat}

theorem readable_of_inMinutes {p : ClimateSchedulePeriod} (h : InMinutes p) :
    (schedulerMinutes? p.starttime).isSome ∧ (schedulerMinutes? p.endtime).isSome := by
  obtain ⟨hlow, hlt, hhigh⟩ := pulse_mem p
  rw [h.1, h.2, schedulerMinutes?_timeStr (lt_of_inDay ⟨hlow, hlt.le.trans hhigh⟩),
    schedulerMinutes?_timeStr (lt_of_inDay ⟨hlow.trans hlt.le, hhigh⟩)]
  exact ⟨rfl, rfl⟩

/-- A collected day is taken if its temperatures are in range. -/
theorem accepts_of_collected (hbase : s.baseTemperature = base)
    (hin : minTemp ≤ base ∧ base ≤ maxTemp) (hpulses : s.pulses = c.pulses)
    (hcollected : Collected base 0 spans c) (htexts : ∀ p ∈ s.periods, InMinutes p) :
    Accepts (some (minTemp, maxTemp)) s ↔
      ∀ s ∈ spans, minTemp ≤ s.value ∧ s.value ≤ maxTemp := by
  have hvalues : ∀ x, (∃ p ∈ s.periods, p.temperature = x) ↔
      x ≠ base ∧ ∃ s ∈ spans, s.value = x := by
    intro x
    rw [← hcollected.values x, ← hpulses, ClimateWeekdaySchedule.pulses]
    simp only [List.mem_map, s.mem_sortedPeriods, exists_exists_and_eq_and, pulse_value]
  constructor
  · rintro ⟨_, _, heq, -, hall, -⟩ s' hs'
    obtain ⟨rfl, rfl⟩ := Prod.mk.inj (Option.some.inj heq)
    by_cases hvalue : s'.value = base
    · rw [hvalue]
      exact hin
    · obtain ⟨p, hp, heq⟩ := (hvalues s'.value).mpr ⟨hvalue, s', hs', rfl⟩
      rw [← heq]
      exact (hall p hp).1
  · intro hall
    refine ⟨minTemp, maxTemp, rfl, hbase ▸ hin, fun p hp =>
      ⟨?_, (readable_of_inMinutes (htexts p hp)).1⟩, fun p hp => (readable_of_inMinutes
        (htexts p (s.mem_sortedPeriods.mp (List.dropLast_subset _ hp)))).2⟩
    obtain ⟨-, s', hs', heq⟩ := (hvalues p.temperature).mp ⟨p, hp, rfl⟩
    rw [← heq]
    exact hall s' hs'

/-- Thirteen spans that reach 24:00 make periods that fit a table. -/
theorem fitsTable_of_collected (hpulses : s.pulses = c.pulses)
    (hcollected : Collected base 0 spans c) (hlength : spans.length = 13)
    (hmax : 1440 ≤ c.previous) : FitsTable s := by
  have hcount := hcollected.count
  rw [hlength, ← hpulses, Pulse.pieces] at hcount
  rw [FitsTable, ClimateWeekdaySchedule.slotCount]
  have hlast := lastStop_pulses_le s
  split at hcount <;> omega

/-- The way there and back keeps the temperatures if the temperatures of the slots up to 24:00 are
in range, and each of these slots that is empty has the base temperature or that of the slot before
it. -/
theorem dayRoundTrips_iff (hfull : FullDay weekdayData) : DayRoundTrips bounds weekdayData ↔
    ∃ minTemp maxTemp base, bounds = some (minTemp, maxTemp) ∧
      baseOf (daySpans weekdayData) = some base ∧
      (minTemp ≤ base ∧ base ≤ maxTemp) ∧
      (∀ s ∈ relevantSpans weekdayData, minTemp ≤ s.value ∧ s.value ≤ maxTemp) ∧
      Fits base 0 none (relevantSpans weekdayData) := by
  have hspans := hfull.fullSpans
  obtain ⟨hsorted, hne, hlength, hvalue⟩ := hspans.relevant
  obtain ⟨hfilled, hvalues⟩ := fillSpans_spec hne hlength
  obtain ⟨s24, hs24, hstop⟩ := hspans.exists_max
  match bounds with
  | none =>
    refine iff_of_false ?_ nofun
    rintro ⟨s, weekdayData', hsimple, -⟩
    cases hsimple
  | some (minTemp, maxTemp) =>
    have hday : daySpans weekdayData ≠ [] := fun hnil => by
      have hlength := hspans.length
      rw [hnil] at hlength
      cases hlength
    obtain ⟨base, hbase, hcases⟩ := toSimple_cases minTemp maxTemp
      hspans.reads hday hspans.stops
    rw [hsorted] at hcases
    constructor
    · rintro ⟨s, weekdayData', hsimple, hback, -⟩
      obtain ⟨-, herror⟩ | ⟨hin, ⟨hfits, s', c, hs', hsbase, hpulses, hcollected, htexts⟩ |
        ⟨-, herror⟩⟩ := hcases
      · cases herror.symm.trans hsimple
      · obtain rfl := Except.ok.inj (hs'.symm.trans hsimple)
        obtain ⟨haccepts, -⟩ | ⟨-, herror⟩ := convert_cases (some (minTemp, maxTemp)) s'
        · rw [accepts_of_collected hsbase hin hpulses hcollected htexts] at haccepts
          refine ⟨minTemp, maxTemp, base, rfl, hbase, hin, fun s hs => ?_, hfits⟩
          exact haccepts s ((prefix_fillSpans _).subset hs)
        · cases herror.symm.trans hback
      · cases herror.symm.trans hsimple
    · rintro ⟨_, _, base', heq, hbase', hin', hrange, hfits'⟩
      obtain ⟨rfl, rfl⟩ := Prod.mk.inj (Option.some.inj heq)
      obtain rfl := Option.some.inj (hbase.symm.trans hbase')
      obtain ⟨hout, -⟩ | ⟨hin, ⟨-, s, c, hs, hsbase, hpulses, hcollected, htexts⟩ | ⟨hfits, -⟩⟩ :=
        hcases
      · exact absurd hin' hout
      · have hinRange : ∀ s' ∈ fillSpans (relevantSpans weekdayData),
            minTemp ≤ s'.value ∧ s'.value ≤ maxTemp := by
          intro s' hs'
          obtain ⟨s'', hs'', heq⟩ := (hvalues s'.value).mp ⟨s', hs', rfl⟩
          rw [← heq]
          exact hrange s'' hs''
        have haccepts := (accepts_of_collected hsbase hin hpulses hcollected htexts).mpr hinRange
        have hmax : 1440 ≤ c.previous :=
          hstop ▸ hcollected.stops s24 ((prefix_fillSpans _).subset hs24)
        have hfitsTable := fitsTable_of_collected hpulses hcollected hfilled hmax
        obtain ⟨-, hback⟩ | ⟨hrefused, -⟩ := convert_cases (some (minTemp, maxTemp)) s
        · refine ⟨s, _, hs, hback, fun minute hlow hhigh => ?_⟩
          have hreadable := fun p hp => readable_of_inMinutes (htexts p hp)
          rw [temperatureAt_of_dayOf (dayOf_numbered.mpr (reads_filledSlots hreadable)),
            temperatureAt_of_dayOf (mapM_eq_some_iff.mpr hspans.reads),
            valueAt_filledSpans hfitsTable hlow hhigh, ← hvalue minute hhigh,
            hcollected.value minute hlow (hhigh.trans_le hmax), hsbase, hpulses]
        · exact absurd haccepts hrefused
      · exact absurd hfits' hfits

/-! ## Two mornings -/

/-- A day that starts with a slot until 06:00 and one with another temperature. -/
def morningSlots (endtime : String) : List ScheduleSlot :=
  [⟨some (.text "06:00"), some 18⟩, ⟨some (.text endtime), some 21⟩] ++
    List.replicate 11 ⟨some (.text climateMaxSchedulerTime), some 18⟩

theorem fullDay_morningSlots {endtime : String} {stop : Int}
    (h : schedulerMinutes? endtime = some stop) (hlow : 360 ≤ stop) (hhigh : stop ≤ 1440) :
    FullDay (numbered (morningSlots endtime)) := by
  have hreads : Reads (morningSlots endtime)
      ([⟨360, 18⟩, ⟨stop, 21⟩] ++ List.replicate 11 ⟨1440, 18⟩) :=
    .cons (by decide) (.cons (span?_text h) (reads_replicate 11 18))
  refine ⟨fun no => contains_numbered.trans ?_, _, dayOf_numbered.mpr hreads, ?_, rfl⟩
  · rfl
  · exact Span.ascends_cons.mpr ⟨by decide, Span.ascends_cons.mpr
      ⟨hlow, ascends_replicate hhigh 11 18⟩⟩

theorem dayRoundTrips_iff_morning :
    DayRoundTrips (some (5, 31)) (numbered (morningSlots "08:00")) ↔
      ∃ minTemp maxTemp base, some ((5, 31) : Rat × Rat) = some (minTemp, maxTemp) ∧
        baseOf (daySpans (numbered (morningSlots "08:00"))) = some base ∧
        (minTemp ≤ base ∧ base ≤ maxTemp) ∧
        (∀ s ∈ relevantSpans (numbered (morningSlots "08:00")),
          minTemp ≤ s.value ∧ s.value ≤ maxTemp) ∧
        Fits base 0 none (relevantSpans (numbered (morningSlots "08:00"))) :=
  dayRoundTrips_iff (fullDay_morningSlots
    (show schedulerMinutes? "08:00" = some 480 by decide) (by decide) (by decide))

/-- An empty slot makes a period that pydantic does not accept. -/
theorem not_dayRoundTrips : FullDay (numbered (morningSlots "06:00")) ∧
    ¬ DayRoundTrips (some (5, 31)) (numbered (morningSlots "06:00")) := by
  refine ⟨fullDay_morningSlots
    (show schedulerMinutes? "06:00" = some 360 by decide) (by decide) (by decide), ?_⟩
  rintro ⟨s, weekdayData', hsimple, -⟩
  have hnone : (validateAndConvertWeekdayToSimple (some (5, 31))
      (numbered (morningSlots "06:00"))).toOption.isNone = true := by
    decide
  rw [hsimple] at hnone
  cases hnone

end AioHomematic.Model
