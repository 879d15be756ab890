import AioHomematic.Model.WeekProfile.Climate.ToSlots

/-!
# Slots as a simple day

The conversion cuts the table after 24:00, sorts it by the ends, fills it again and
merges what has the same temperature into periods. The loop over the texts of the slots
collects the pulses of their spans; it fails where an empty slot would start a
period.
-/

namespace AioHomematic.Model

open Lib Support Collector

variable {slots : List ScheduleSlot} {slot : ScheduleSlot} {spans : List (Span Int Rat)}
  {s : Span Int Rat} {weekdayData : Dict Int ScheduleSlot}

/-! ## The slots that count -/

theorem throughMax_prefix (slots : List ScheduleSlot) : throughMax slots <+: slots := by
  induction slots with
  | nil => exact List.prefix_rfl
  | cons slot slots ih =>
    rw [throughMax]
    split
    · exact ⟨slots, rfl⟩
    · exact List.prefix_cons_inj slot |>.mpr ih

theorem filterWeekdayEntries_eq (weekdayData : Dict Int ScheduleSlot) :
    filterWeekdayEntries weekdayData = numbered (throughMax (slotsInOrder weekdayData)) := by
  rw [filterWeekdayEntries]
  split
  next hnil =>
    have hslots : slotsInOrder weekdayData = [] := by
      rw [slotsInOrder, hnil]
      rfl
    rw [hslots]
    exact Dict.ext hnil
  · rfl

/-- All spans of a table. -/
def daySpans (weekdayData : Dict Int ScheduleSlot) : List (Span Int Rat) :=
  (slotsInOrder weekdayData).filterMap ScheduleSlot.span?

/-- The spans up to the first slot that ends at 24:00. -/
def relevantSpans (weekdayData : Dict Int ScheduleSlot) : List (Span Int Rat) :=
  (throughMax (slotsInOrder weekdayData)).filterMap ScheduleSlot.span?

theorem reads_iff : Reads slots spans ↔
    (∀ slot ∈ slots, slot.span?.isSome) ∧ slots.filterMap ScheduleSlot.span? = spans := by
  constructor
  · intro h
    refine ⟨isSome_of_reads h, ?_⟩
    induction h with
    | nil => rfl
    | cons hslot _ ih => rw [List.filterMap_cons_some hslot, ih]
  · rintro ⟨hall, rfl⟩
    induction slots with
    | nil => exact .nil
    | cons slot slots ih =>
      obtain ⟨hslot, hslots⟩ := List.forall_mem_cons.mp hall
      obtain ⟨s, hs⟩ := Option.isSome_iff_exists.mp hslot
      rw [List.filterMap_cons_some hs]
      exact .cons hs (ih hslots)

theorem reads_relevantSpans (h : Reads (slotsInOrder weekdayData) spans) :
    Reads (throughMax (slotsInOrder weekdayData)) (relevantSpans weekdayData) ∧
      relevantSpans weekdayData <+: spans := by
  obtain ⟨hall, rfl⟩ := reads_iff.mp h
  have hpre := throughMax_prefix (slotsInOrder weekdayData)
  exact ⟨reads_iff.mpr ⟨fun slot hslot => hall slot (hpre.subset hslot), rfl⟩,
    hpre.filterMap _⟩

/-! ## Normalizing -/

def sortSpans (spans : List (Span Int Rat)) : List (Span Int Rat) :=
  spans.insertionSort fun s s' => s.stop ≤ s'.stop

/-- The spans of a table that is filled with its last temperature. -/
def fillSpans (spans : List (Span Int Rat)) : List (Span Int Rat) :=
  match spans.getLast? with
  | none => spans
  | some last => spans ++ List.replicate (13 - spans.length) ⟨1440, last.value⟩

theorem reads_fillSlots {pairs : List (ScheduleSlot × Span Int Rat)}
    (h : ∀ e ∈ pairs, e.1.span? = some e.2) :
    Reads (fillSlots (pairs.map Prod.fst)) (fillSpans (pairs.map Prod.snd)) := by
  have hreads : Reads (pairs.map Prod.fst) (pairs.map Prod.snd) :=
    List.forall₂_map_left_iff.mpr (List.forall₂_map_right_iff.mpr (List.forall₂_same.mpr h))
  rw [fillSlots, fillSpans, List.getLast?_map, List.getLast?_map]
  cases hlast : pairs.getLast? with
  | none => exact hreads
  | some last =>
    have hread := (span?_eq_some.mp (h last (List.mem_of_getLast? hlast))).2
    have htemperature : last.1.temperature = some last.2.value := by
      rw [ScheduleSlot.readTemperature] at hread
      cases htemperature : last.1.temperature with
      | none =>
        rw [htemperature] at hread
        cases hread
      | some x =>
        rw [htemperature] at hread
        exact congrArg some (Except.ok.inj hread)
    simp only [Option.map_some, htemperature, Option.getD_some, List.length_map]
    exact List.rel_append hreads (reads_replicate _ _)

theorem normalizeWeekdayData_of_reads (h : Reads slots spans) :
    ∃ slots', normalizeWeekdayData (numbered slots) = .ok (numbered slots') ∧
      Reads slots' (fillSpans (sortSpans spans)) := by
  have hslots : (numbered slots).entries.map Prod.snd = slots := by
    rw [numbered, List.map_map]
    exact List.zipIdx_map_fst 1 slots
  have hkeyed : (numbered slots).entries.mapM
      (fun item => item.2.endMinutes.map fun minutes => (minutes, item.2)) =
      .ok ((slots.zip spans).map fun e => (e.2.stop, e.1)) := by
    have hmap := List.mapM_map (m := Except ScheduleError) (l := (numbered slots).entries)
      (f := Prod.snd)
      (g := fun slot : ScheduleSlot => slot.endMinutes.map fun minutes => (minutes, slot))
    rw [hslots] at hmap
    refine hmap.symm.trans ?_
    clear hmap hslots
    induction h with
    | nil => rfl
    | cons hslot _ ih =>
      rw [List.mapM_cons, ih, (span?_eq_some.mp hslot).1]
      rfl
  have hlength := h.length_eq
  have hsort := List.map_insertionSort
    (r := fun e e' : ScheduleSlot × Span Int Rat => e.2.stop ≤ e'.2.stop)
    (s := fun e e' : Int × ScheduleSlot => e.1 ≤ e'.1) (fun e => (e.2.stop, e.1))
    (slots.zip spans) fun _ _ _ _ => Iff.rfl
  have hsort' := List.map_insertionSort
    (r := fun e e' : ScheduleSlot × Span Int Rat => e.2.stop ≤ e'.2.stop)
    (s := fun s s' : Span Int Rat => s.stop ≤ s'.stop) Prod.snd
    (slots.zip spans) fun _ _ _ _ => Iff.rfl
  rw [List.map_snd_zip (Nat.le_of_eq hlength.symm)] at hsort'
  refine ⟨fillSlots (((slots.zip spans).insertionSort fun e e' => e.2.stop ≤ e'.2.stop).map
    Prod.fst), ?_, ?_⟩
  · rw [normalizeWeekdayData, hkeyed]
    simp only [bind, Except.bind, pure, Except.pure]
    rw [← hsort, List.map_map]
    rfl
  · rw [sortSpans, ← hsort']
    exact reads_fillSlots fun e he => List.forall₂_zip h ((List.mem_insertionSort _).mp he)

/-! ## The loop over the slots -/

/-- The texts of a period are those of its minutes. -/
def InMinutes (p : ClimateSchedulePeriod) : Prop :=
  p.starttime = timeStr p.pulse.start ∧ p.endtime = timeStr p.pulse.stop

/-- The state of the loop has the pulses that are collected. -/
structure Denotes (st : SimpleState) (c : Collector Int Rat) : Prop where
  closed : st.periods.map (·.pulse) = c.closed
  opened : st.openRange.map (·.pulse) = c.opened
  lastTemp : st.lastTemp = st.openRange.map (·.temperature)
  previousEnd : st.previousEnd = timeStr c.previous
  previous : 0 ≤ c.previous ∧ c.previous ≤ 1440
  texts : ∀ p ∈ st.periods ++ st.openRange.toList, InMinutes p

theorem Denotes.pulses {st : SimpleState} {c : Collector Int Rat} (h : Denotes st c) :
    (st.periods ++ st.openRange.toList).map (·.pulse) = c.pulses := by
  rw [List.map_append, h.closed, Collector.pulses, ← h.opened]
  cases st.openRange <;> rfl

/-- A period between two times. -/
theorem ofFields_cases {start stop : Int} (hstart : 0 ≤ start ∧ start ≤ 1440)
    (hstop : 0 ≤ stop ∧ stop ≤ 1440) (temperature : Rat) :
    (∃ p, ClimateSchedulePeriod.ofFields ⟨timeStr start, timeStr stop, temperature⟩ = .ok p ∧
        pulse? start stop temperature = some p.pulse ∧ InMinutes p ∧
        p.temperature = temperature) ∨
      ClimateSchedulePeriod.ofFields ⟨timeStr start, timeStr stop, temperature⟩ = .error .value ∧
        pulse? start stop temperature = none := by
  have hminutes := timeToMinutes_timeStr hstart
  have hminutes' := timeToMinutes_timeStr hstop
  have haccepted : (PeriodFields.mk (timeStr start) (timeStr stop) temperature).accepted =
      decide (start < stop) := by
    simp only [PeriodFields.accepted, hminutes, hminutes', decide_eq_decide]
    omega
  rw [ClimateSchedulePeriod.ofFields, pulse?]
  by_cases hlt : start < stop
  · have hok : (PeriodFields.mk (timeStr start) (timeStr stop) temperature).accepted = true :=
      haccepted.trans (decide_eq_true hlt)
    have hpulse : ClimateSchedulePeriod.pulse ⟨⟨timeStr start, timeStr stop, temperature⟩, hok⟩ =
        ⟨start, stop, temperature⟩ := by
      simp only [ClimateSchedulePeriod.pulse, hminutes, hminutes', Option.getD_some,
        Int.toNat_of_nonneg hstart.1, Int.toNat_of_nonneg hstop.1]
    rw [dif_pos hok, if_pos hlt]
    refine .inl ⟨_, rfl, congrArg some hpulse.symm, ?_, rfl⟩
    rw [InMinutes, hpulse]
    exact ⟨rfl, rfl⟩
  · rw [dif_neg (by rw [haccepted, decide_eq_false hlt]; exact Bool.false_ne_true), if_neg hlt]
    exact .inr ⟨rfl, rfl⟩

variable {st : SimpleState} {c : Collector Int Rat} {base : Rat}

/-- A range is opened as a pulse is. -/
theorem ofRange_cases {periods : List ClimateSchedulePeriod} {start : Int}
    (hstart : 0 ≤ start ∧ start ≤ 1440) (hstop : 0 ≤ s.stop ∧ s.stop ≤ 1440)
    (htexts : ∀ p ∈ periods, InMinutes p) :
    (∃ c' st', (pulse? start s.stop s.value).map
          (⟨periods.map (·.pulse), some ·, s.stop⟩) = some c' ∧
        SimpleState.ofRange periods (timeStr start) (timeStr s.stop) s.value = .ok st' ∧
        Denotes st' c') ∨
      (pulse? start s.stop s.value).map
          (⟨periods.map (·.pulse), some ·, s.stop⟩ : Pulse Int Rat → Collector Int Rat) = none ∧
        SimpleState.ofRange periods (timeStr start) (timeStr s.stop) s.value = .error .value := by
  rw [SimpleState.ofRange]
  obtain ⟨p, hp, hpulse, hminutes, htemperature⟩ | ⟨herror, hnone⟩ :=
    ofFields_cases hstart hstop s.value
  · rw [hp, hpulse]
    refine .inl ⟨_, _, rfl, rfl, rfl, rfl, congrArg some htemperature.symm, rfl, hstop, ?_⟩
    intro q hq
    obtain hq | hq := List.mem_append.mp hq
    · exact htexts q hq
    · obtain rfl := Option.mem_some.mp (Option.mem_toList.mp hq)
      exact hminutes
  · rw [herror, hnone]
    exact .inr ⟨rfl, rfl⟩

variable (base) in
/-- A slot that can be read. -/
theorem addSlot_of_span (h : Denotes st c) (hslot : slot.span? = some s)
    (hs : c.previous ≤ s.stop) (hstop : s.stop ≤ 1440) :
    addSlot base st slot =
      if s.value ≠ base then
        match st.openRange with
        | none => SimpleState.ofRange st.periods (timeStr c.previous) (timeStr s.stop) s.value
        | some openRange =>
          if st.lastTemp = some s.value then
            SimpleState.ofRange st.periods openRange.starttime (timeStr s.stop) s.value
          else
            SimpleState.ofRange (st.periods ++ [openRange]) (timeStr c.previous) (timeStr s.stop)
              s.value
      else .ok ⟨st.periods ++ st.openRange.toList, none, none, timeStr s.stop⟩ := by
  obtain ⟨hend, htemp⟩ := span?_eq_some.mp hslot
  have hrange : 0 ≤ s.stop ∧ s.stop ≤ 1440 := ⟨h.previous.1.trans hs, hstop⟩
  rw [addSlot, hend, htemp, h.previousEnd]
  cases st.openRange <;>
    simp only [bind, Except.bind, convertMinutesToTimeStr_of_mem (lt_of_inDay hrange),
      convertTimeStrToMinutes, schedulerMinutes?_timeStr (lt_of_inDay hrange),
      schedulerMinutes?_timeStr (lt_of_inDay h.previous), orRaise, if_neg (not_lt.mpr hs), pure,
      Except.pure]

variable (base) in
/-- One slot. -/
theorem addSlot_cases (h : Denotes st c) (hslot : slot.span? = some s)
    (hs : c.previous ≤ s.stop) (hstop : s.stop ≤ 1440) :
    (∃ c' st', collect? base c s = some c' ∧ addSlot base st slot = .ok st' ∧ Denotes st' c') ∨
      collect? base c s = none ∧ addSlot base st slot = .error .value := by
  have hrange : 0 ≤ s.stop ∧ s.stop ≤ 1440 := ⟨h.previous.1.trans hs, hstop⟩
  rw [addSlot_of_span base h hslot hs hstop, collect?]
  by_cases hbase : s.value = base
  · rw [if_pos hbase, if_neg (not_not.mpr hbase)]
    refine .inl ⟨_, _, rfl, rfl, h.pulses, rfl, rfl, rfl, hrange, ?_⟩
    rw [Option.toList_none, List.append_nil]
    exact h.texts
  · rw [if_neg hbase, if_pos hbase]
    have hpulses := h.pulses
    have hopened := h.opened
    have hlast := h.lastTemp
    have htexts := h.texts
    cases hopen : st.openRange with
    | none =>
      rw [hopen] at hpulses hopened htexts
      rw [Option.toList_none, List.append_nil] at hpulses htexts
      rw [← hopened, ← hpulses]
      exact ofRange_cases h.previous hrange htexts
    | some openRange =>
      rw [hopen] at hpulses hopened htexts hlast
      obtain ⟨hstart, hend'⟩ := htexts openRange (by simp)
      rw [← hopened, ← hpulses, hlast, ← h.closed]
      dsimp only [Option.map_some, Option.toList_some]
      by_cases hsame : s.value = openRange.temperature
      · rw [if_pos (show s.value = openRange.pulse.value from hsame),
          if_pos (congrArg some hsame.symm), hstart]
        obtain ⟨hlow, hlt, hhigh⟩ := pulse_mem openRange
        exact ofRange_cases ⟨hlow, hlt.le.trans hhigh⟩ hrange fun p hp =>
          htexts p (List.mem_append_left _ hp)
      · rw [if_neg (show ¬ s.value = openRange.pulse.value from hsame),
          if_neg fun heq => hsame (Option.some.inj heq).symm]
        exact ofRange_cases h.previous hrange htexts

variable (base) in
/-- All slots. -/
theorem foldlM_addSlot (h : Denotes st c) (hreads : Reads slots spans)
    (hascends : Span.Ascends c.previous spans) (hstops : ∀ s ∈ spans, s.stop ≤ 1440) :
    (∃ c' st', spans.foldlM (collect? base) c = some c' ∧
        slots.foldlM (addSlot base) st = .ok st' ∧ Denotes st' c') ∨
      spans.foldlM (collect? base) c = none ∧
        slots.foldlM (addSlot base) st = .error .value := by
  induction hreads generalizing st c with
  | nil => exact .inl ⟨c, st, rfl, rfl, h⟩
  | @cons slot s slots spans hslot _ ih =>
    obtain ⟨hs, hrest⟩ := Span.ascends_cons.mp hascends
    obtain ⟨hstop, hstops⟩ := List.forall_mem_cons.mp hstops
    rw [List.foldlM_cons, List.foldlM_cons]
    obtain ⟨c', st', hcollect, hadd, hdenotes⟩ | ⟨hcollect, hadd⟩ :=
      addSlot_cases base h hslot hs hstop
    · rw [hcollect, hadd]
      exact ih hdenotes (previous_of_collect? hcollect ▸ hrest) hstops
    · rw [hcollect, hadd]
      exact .inr ⟨rfl, rfl⟩

/-! ## The periods -/

theorem isChain_of_chain {ps : List ClimateSchedulePeriod} {previous : Int}
    (h : Pulse.Chain previous (ps.map (·.pulse))) :
    ps.IsChain (fun p p' => p.pulse.stop ≤ p'.pulse.start) ∧
      ps.Pairwise fun p p' => p.pulse.start ≤ p'.pulse.start := by
  induction ps generalizing previous with
  | nil => exact ⟨.nil, .nil⟩
  | cons p ps ih =>
    obtain ⟨-, hlt, hrest⟩ := h
    obtain ⟨hchain, hsorted⟩ := ih hrest
    have hlater : ∀ q ∈ ps, p.pulse.stop ≤ q.pulse.start := fun q hq =>
      (hrest.mem (List.mem_map_of_mem hq)).1
    refine ⟨?_, .cons (fun q hq => hlt.le.trans (hlater q hq)) hsorted⟩
    cases ps with
    | nil => exact .singleton p
    | cons q ps => exact List.isChain_cons_cons.mpr ⟨hlater q List.mem_cons_self, hchain⟩

variable (base) in
/-- Collected periods are a simple day as they are. -/
theorem ofFields_of_chain {ps : List ClimateSchedulePeriod}
    (h : Pulse.Chain 0 (ps.map (·.pulse))) (htexts : ∀ p ∈ ps, InMinutes p) :
    sortPeriods ps = .ok ps ∧ ∃ s, ClimateWeekdaySchedule.ofFields base ps = .ok s ∧
      s.baseTemperature = base ∧ s.periods = ps ∧ s.sortedPeriods = ps := by
  obtain ⟨hchain, hsorted⟩ := isChain_of_chain h
  have hsort := hsorted.insertionSort_eq
  have haccepted : nonOverlapping ps = true := by
    rw [nonOverlapping, hsort]
    exact decide_eq_true hchain
  have hreadable : ∀ p ∈ ps, (schedulerMinutes? p.starttime).isSome := by
    intro p hp
    obtain ⟨hlow, hlt, hhigh⟩ := pulse_mem p
    rw [(htexts p hp).1, schedulerMinutes?_timeStr (lt_of_inDay ⟨hlow, hlt.le.trans hhigh⟩)]
    rfl
  refine ⟨by rw [sortPeriods_of_readable hreadable, hsort], ⟨base, ps, haccepted⟩, ?_, rfl, rfl,
    hsort⟩
  rw [ClimateWeekdaySchedule.ofFields, dif_pos haccepted]

/-! ## The whole table -/

theorem ascends_of_pairwise {previous : Int} (hfirst : ∀ s ∈ spans, previous ≤ s.stop)
    (h : spans.Pairwise fun s s' => s.stop ≤ s'.stop) : Span.Ascends previous spans := by
  induction spans generalizing previous with
  | nil => exact Span.ascends_nil
  | cons s spans ih =>
    obtain ⟨hlater, hrest⟩ := List.pairwise_cons.mp h
    exact Span.ascends_cons.mpr ⟨hfirst s List.mem_cons_self, ih hlater hrest⟩

/-- Filled spans end in the day, in order. -/
theorem fillSpans_sorted (h : ∀ s ∈ spans, 0 ≤ s.stop ∧ s.stop ≤ 1440) :
    Span.Ascends 0 (fillSpans (sortSpans spans)) ∧
      ∀ s ∈ fillSpans (sortSpans spans), s.stop ≤ 1440 := by
  have hsorted : (sortSpans spans).Pairwise fun s s' => s.stop ≤ s'.stop :=
    List.pairwise_insertionSort _ _
  have hmem : ∀ s ∈ sortSpans spans, 0 ≤ s.stop ∧ s.stop ≤ 1440 := fun s hs =>
    h s ((List.mem_insertionSort _).mp hs)
  rw [fillSpans]
  cases (sortSpans spans).getLast? with
  | none =>
    exact ⟨ascends_of_pairwise (fun s hs => (hmem s hs).1) hsorted, fun s hs => (hmem s hs).2⟩
  | some last =>
    dsimp only
    have hfilled : ∀ s ∈ List.replicate (13 - (sortSpans spans).length)
        (⟨1440, last.value⟩ : Span Int Rat), s.stop = 1440 := by
      intro s hs
      rw [List.eq_of_mem_replicate hs]
    constructor
    · refine ascends_of_pairwise ?_ (List.pairwise_append.mpr ⟨hsorted, ?_, ?_⟩)
      · intro s hs
        obtain hs | hs := List.mem_append.mp hs
        · exact (hmem s hs).1
        · rw [hfilled s hs]
          decide
      · exact List.pairwise_replicate.mpr (.inr le_rfl)
      · intro s hs s' hs'
        rw [hfilled s' hs']
        exact (hmem s hs).2
    · intro s hs
      obtain hs | hs := List.mem_append.mp hs
      · exact (hmem s hs).2
      · exact (hfilled s hs).le

/-- The slots that fill a table fit it. -/
theorem fits_fillSpans (base : Rat) (spans : List (Span Int Rat)) :
    Fits base 0 none (fillSpans spans) ↔ Fits base 0 none spans := by
  rw [fillSpans]
  cases hlast : spans.getLast? with
  | none => rfl
  | some last =>
    dsimp only
    rw [fits_append, hlast]
    refine and_iff_left ?_
    have hreplicate : ∀ n previous, Fits base previous (some last.value)
        (List.replicate n (⟨1440, last.value⟩ : Span Int Rat)) := by
      intro n
      induction n with
      | zero => exact fun _ => trivial
      | succ n ih => exact fun _ => ⟨.inr (.inr rfl), ih _⟩
    exact hreplicate (13 - spans.length) last.stop

/-- A table that can be read is converted if its base temperature is in range and its relevant
spans fit; otherwise the one or the other exception is raised. -/
theorem toSimple_cases (minTemp maxTemp : Rat) (hreads : Reads (slotsInOrder weekdayData) spans)
    (hne : spans ≠ []) (hstops : ∀ s ∈ spans, 0 ≤ s.stop ∧ s.stop ≤ 1440) :
    ∃ base, baseOf spans = some base ∧
      (¬ (minTemp ≤ base ∧ base ≤ maxTemp) ∧
          validateAndConvertWeekdayToSimple (some (minTemp, maxTemp)) weekdayData =
            .error .validation ∨
        (minTemp ≤ base ∧ base ≤ maxTemp) ∧
          (Fits base 0 none (sortSpans (relevantSpans weekdayData)) ∧
              (∃ s c,
                validateAndConvertWeekdayToSimple (some (minTemp, maxTemp)) weekdayData = .ok s ∧
                  s.baseTemperature = base ∧ s.pulses = c.pulses ∧
                  Collected base 0 (fillSpans (sortSpans (relevantSpans weekdayData))) c ∧
                  ∀ p ∈ s.periods, InMinutes p) ∨
            ¬ Fits base 0 none (sortSpans (relevantSpans weekdayData)) ∧
              validateAndConvertWeekdayToSimple (some (minTemp, maxTemp)) weekdayData =
                .error .value)) := by
  obtain ⟨base, hidentify, hbase⟩ := identifyBaseTemperature_of_reads hreads hne
  obtain ⟨hrelevant, hpre⟩ := reads_relevantSpans hreads
  obtain ⟨slots, hnormalize, hslots⟩ := normalizeWeekdayData_of_reads hrelevant
  obtain ⟨hascends, hfilled⟩ := fillSpans_sorted fun s hs => hstops s (hpre.subset hs)
  refine ⟨base, hbase, ?_⟩
  simp only [validateAndConvertWeekdayToSimple, requireTempBounds, orRaise, bind, Except.bind,
    hidentify, filterWeekdayEntries_eq, hnormalize, slotsInOrder_numbered]
  by_cases hin : minTemp ≤ base ∧ base ≤ maxTemp
  · refine .inr ⟨hin, ?_⟩
    rw [if_neg (not_not.mpr hin)]
    have hinit : Denotes ⟨[], none, none, climateMinSchedulerTime⟩ ⟨[], none, 0⟩ :=
      ⟨rfl, rfl, rfl, by decide, by decide, by simp⟩
    have hcollect := foldlM_collect? (collected_init base (0 : Int)) hascends
    rw [List.getLast?_nil, Option.map_none, List.nil_append, fits_fillSpans] at hcollect
    obtain ⟨c, st, hrun, hloop, hdenotes⟩ | ⟨hrun, hloop⟩ :=
      foldlM_addSlot base hinit hslots hascends hfilled
    · obtain ⟨hfits, c', hrun', hcollected⟩ | ⟨-, hrun'⟩ := hcollect
      · obtain rfl := Option.some.inj (hrun.symm.trans hrun')
        have hpulses := hdenotes.pulses
        obtain ⟨hsort, s, hs, hsbase, hsperiods, hssorted⟩ := ofFields_of_chain base
          (hpulses ▸ hcollected.chain) hdenotes.texts
        refine .inl ⟨hfits, s, c, ?_, hsbase, ?_, hcollected, ?_⟩
        · rw [hloop]
          dsimp only
          rw [hsort]
          exact hs
        · rw [ClimateWeekdaySchedule.pulses, hssorted, hpulses]
        · rw [hsperiods]
          exact hdenotes.texts
      · cases hrun.symm.trans hrun'
    · obtain ⟨-, c', hrun', -⟩ | ⟨hfits, -⟩ := hcollect
      · cases hrun.symm.trans hrun'
      · refine .inr ⟨hfits, ?_⟩
        rw [hloop]
  · refine .inl ⟨hin, ?_⟩
    rw [if_pos hin]
    rfl

end AioHomematic.Model
