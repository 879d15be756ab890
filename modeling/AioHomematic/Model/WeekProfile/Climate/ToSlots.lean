import AioHomematic.Model.WeekProfile.Climate.Table

/-!
# A simple day as slots

The conversion sorts the periods, fills the gaps before them and fills the table
up to 13 slots. It counts no slots: `converts_iff` says for which days the
table is one of a full day.
-/

namespace AioHomematic.Model

open Lib Support

/-! ## Periods -/

theorem pulse_spec (p : ClimateSchedulePeriod) : ∃ start stop : Nat,
    timeToMinutes p.starttime = some start ∧ timeToMinutes p.endtime = some stop ∧
      p.pulse = ⟨start, stop, p.temperature⟩ ∧ start < stop ∧ stop ≤ 1440 := by
  have haccepted := p.accepted
  simp only [PeriodFields.accepted] at haccepted
  split at haccepted
  next start stop hstart hstop =>
    refine ⟨start, stop, hstart, hstop, ?_, of_decide_eq_true haccepted, timeToMinutes_le hstop⟩
    rw [ClimateSchedulePeriod.pulse, hstart, hstop]
    rfl
  · cases haccepted

theorem pulse_value (p : ClimateSchedulePeriod) : p.pulse.value = p.temperature := rfl

theorem pulse_mem (p : ClimateSchedulePeriod) :
    0 ≤ p.pulse.start ∧ p.pulse.start < p.pulse.stop ∧ p.pulse.stop ≤ 1440 := by
  obtain ⟨start, stop, -, -, hpulse, hlt, hle⟩ := pulse_spec p
  rw [hpulse]
  dsimp only
  omega

theorem start_eq {p : ClimateSchedulePeriod} {m : Int}
    (h : schedulerMinutes? p.starttime = some m) : m = p.pulse.start := by
  obtain ⟨start, stop, hstart, -, hpulse, -⟩ := pulse_spec p
  rw [hpulse, schedulerMinutes?_of_timeToMinutes hstart h]

theorem stop_eq {p : ClimateSchedulePeriod} {m : Int}
    (h : schedulerMinutes? p.endtime = some m) : m = p.pulse.stop := by
  obtain ⟨start, stop, -, hstop, hpulse, -⟩ := pulse_spec p
  rw [hpulse, schedulerMinutes?_of_timeToMinutes hstop h]

namespace ClimateWeekdaySchedule

variable (s : ClimateWeekdaySchedule)

def sortedPeriods : List ClimateSchedulePeriod :=
  s.periods.insertionSort fun p p' => p.pulse.start ≤ p'.pulse.start

/-- The periods in minutes, one after the other. -/
def pulses : List (Pulse Int Rat) := s.sortedPeriods.map (·.pulse)

/-- How many slots the periods and the gaps before them take. -/
def slotCount : Nat := s.pulses.length + Pulse.gaps 0 s.pulses

theorem mem_sortedPeriods {p : ClimateSchedulePeriod} :
    p ∈ s.sortedPeriods ↔ p ∈ s.periods :=
  List.mem_insertionSort _

theorem chain_of_isChain {ps : List ClimateSchedulePeriod} {previous : Int}
    (h : ps.IsChain fun p p' => p.pulse.stop ≤ p'.pulse.start)
    (hfirst : ∀ p ∈ ps.head?, previous ≤ p.pulse.start) :
    Pulse.Chain previous (ps.map (·.pulse)) := by
  induction ps generalizing previous with
  | nil => trivial
  | cons p ps ih =>
    refine ⟨hfirst p rfl, (pulse_mem p).2.1, ih h.of_cons ?_⟩
    cases ps with
    | nil => exact nofun
    | cons q ps =>
      intro q' hq'
      obtain rfl := Option.mem_some.mp hq'
      exact (List.isChain_cons_cons.mp h).1

theorem chain_pulses : Pulse.Chain 0 s.pulses :=
  chain_of_isChain (of_decide_eq_true s.accepted) fun p _ => (pulse_mem p).1

end ClimateWeekdaySchedule

/-! ## Sorting -/

theorem sortPeriods_of_readable {ps : List ClimateSchedulePeriod}
    (h : ∀ p ∈ ps, (schedulerMinutes? p.starttime).isSome) :
    sortPeriods ps = .ok (ps.insertionSort fun p p' => p.pulse.start ≤ p'.pulse.start) := by
  have hkeyed : (ps.mapM fun p => (convertTimeStrToMinutes p.starttime).map (·, p)) =
      .ok (ps.map fun p => (p.pulse.start, p)) := by
    induction ps with
    | nil => rfl
    | cons p ps ih =>
      obtain ⟨m, hm⟩ := Option.isSome_iff_exists.mp (h p List.mem_cons_self)
      rw [List.mapM_cons, ih fun q hq => h q (List.mem_cons_of_mem p hq), convertTimeStrToMinutes,
        hm, start_eq hm]
      rfl
  have hsort := List.map_insertionSort (r := fun p p' => p.pulse.start ≤ p'.pulse.start)
    (s := fun e e' : Int × ClimateSchedulePeriod => e.1 ≤ e'.1) (fun p => (p.pulse.start, p)) ps
    fun _ _ _ _ => Iff.rfl
  rw [sortPeriods, hkeyed]
  simp only [bind, Except.bind, pure, Except.pure, Except.ok.injEq]
  rw [← hsort, List.map_map]
  exact List.map_id _

theorem sortPeriods_of_not_readable {ps : List ClimateSchedulePeriod} {p : ClimateSchedulePeriod}
    (hp : p ∈ ps) (h : schedulerMinutes? p.starttime = none) :
    sortPeriods ps = .error .validation := by
  have hkeyed : (ps.mapM fun p => (convertTimeStrToMinutes p.starttime).map (·, p)) =
      .error .validation := by
    induction ps with
    | nil => cases hp
    | cons q ps ih =>
      rw [List.mapM_cons]
      cases hq : schedulerMinutes? q.starttime with
      | none =>
        rw [convertTimeStrToMinutes, hq]
        rfl
      | some m =>
        obtain rfl | hp := List.mem_cons.mp hp
        · rw [hq] at h
          cases h
        · rw [convertTimeStrToMinutes, hq, ih hp]
          rfl
  rw [sortPeriods, hkeyed]
  rfl

/-! ## The loop over the periods -/

/-- The slots of periods, with the base temperature in the gaps. -/
def periodSlots (baseTemperature : Rat) (previous : Int) :
    List ClimateSchedulePeriod → List ScheduleSlot
  | [] => []
  | p :: ps =>
    (if previous < p.pulse.start then [⟨some (.text p.starttime), some baseTemperature⟩] else []) ++
      ⟨some (.text p.endtime), some p.temperature⟩ ::
        periodSlots baseTemperature p.pulse.stop ps

theorem length_periodSlots (baseTemperature : Rat) (previous : Int)
    (ps : List ClimateSchedulePeriod) :
    (periodSlots baseTemperature previous ps).length =
      (ps.map (·.pulse)).length + Pulse.gaps previous (ps.map (·.pulse)) := by
  induction ps generalizing previous with
  | nil => rfl
  | cons p ps ih =>
    rw [periodSlots, List.length_append, List.length_cons, ih, List.map_cons, List.length_cons,
      Pulse.gaps]
    split <;> simp <;> omega

/-- The periods that the loop takes after a time. -/
def Taken (minTemp maxTemp : Rat) (previousEndtime : String) : List ClimateSchedulePeriod → Prop
  | [] => True
  | p :: ps =>
    ((schedulerMinutes? p.starttime).isSome ∧ (schedulerMinutes? previousEndtime).isSome ∧
      minTemp ≤ p.temperature ∧ p.temperature ≤ maxTemp) ∧ Taken minTemp maxTemp p.endtime ps

variable {minTemp maxTemp baseTemperature : Rat} {previousEndtime : String} {previous : Int}
  {p : ClimateSchedulePeriod} {ps : List ClimateSchedulePeriod} {slots : List ScheduleSlot}

/-- The slots of one period are added. -/
theorem addSlots_numbered (baseTemperature : Rat) (slots : List ScheduleSlot)
    (previousEndtime : String) (previous : Int) (p : ClimateSchedulePeriod) :
    ((if previous < p.pulse.start then
        SlotState.addSlot ⟨numbered slots, previousEndtime, slots.length + 1⟩ p.starttime
          baseTemperature
      else ⟨numbered slots, previousEndtime, slots.length + 1⟩).addSlot p.endtime p.temperature) =
      ⟨numbered (slots ++ periodSlots baseTemperature previous [p]), p.endtime,
        (slots ++ periodSlots baseTemperature previous [p]).length + 1⟩ := by
  rw [periodSlots, periodSlots]
  split
  · have hgap := numbered_concat slots ⟨some (.text p.starttime), some baseTemperature⟩
    have hslot := numbered_concat
      (slots ++ [⟨some (.text p.starttime), some baseTemperature⟩])
      ⟨some (.text p.endtime), some p.temperature⟩
    rw [List.length_append, List.length_singleton] at hslot
    push_cast at hslot
    simp only [SlotState.addSlot, hgap, hslot, List.append_assoc, List.length_append,
      List.length_cons, List.length_nil, List.cons_append, List.nil_append, SlotState.mk.injEq,
      true_and]
    omega
  · have hslot := numbered_concat slots ⟨some (.text p.endtime), some p.temperature⟩
    simp only [SlotState.addSlot, hslot, List.nil_append, List.length_append, List.length_cons,
      List.length_nil, SlotState.mk.injEq, true_and]
    omega

variable (minTemp maxTemp baseTemperature slots) in
/-- One period. -/
theorem addPeriod_numbered
    (hprevious : ∀ m, schedulerMinutes? previousEndtime = some m → m = previous)
    (hstart : previous ≤ p.pulse.start) :
    addPeriod minTemp maxTemp baseTemperature ⟨numbered slots, previousEndtime, slots.length + 1⟩
        p =
      if (schedulerMinutes? p.starttime).isSome ∧ (schedulerMinutes? previousEndtime).isSome ∧
          minTemp ≤ p.temperature ∧ p.temperature ≤ maxTemp then
        .ok ⟨numbered (slots ++ periodSlots baseTemperature previous [p]), p.endtime,
          (slots ++ periodSlots baseTemperature previous [p]).length + 1⟩
      else .error .validation := by
  rw [addPeriod, convertTimeStrToMinutes, convertTimeStrToMinutes]
  cases hm : schedulerMinutes? p.starttime with
  | none => simp [orRaise, bind, Except.bind]
  | some m =>
    cases hm' : schedulerMinutes? previousEndtime with
    | none => simp [orRaise, bind, Except.bind]
    | some m' =>
      obtain rfl := start_eq hm
      obtain rfl := hprevious m' hm'
      have hadd := addSlots_numbered baseTemperature slots previousEndtime m' p
      simp only [orRaise, bind, Except.bind, if_neg (not_lt.mpr hstart), Option.isSome_some,
        true_and, pure, Except.pure, hadd]
      by_cases hin : minTemp ≤ p.temperature ∧ p.temperature ≤ maxTemp
      · rw [if_neg (not_not.mpr hin), if_pos hin]
      · rw [if_pos hin, if_neg hin]
        rfl

variable (minTemp maxTemp baseTemperature slots) in
/-- The loop takes all periods, or refuses the first that it does not take. -/
theorem foldlM_addPeriod
    (hprevious : ∀ m, schedulerMinutes? previousEndtime = some m → m = previous)
    (hchain : Pulse.Chain previous (ps.map (·.pulse))) :
    Taken minTemp maxTemp previousEndtime ps ∧
        (∃ st, ps.foldlM (addPeriod minTemp maxTemp baseTemperature)
            ⟨numbered slots, previousEndtime, slots.length + 1⟩ = .ok st ∧
          st.weekdayData = numbered (slots ++ periodSlots baseTemperature previous ps)) ∨
      ¬ Taken minTemp maxTemp previousEndtime ps ∧
        ps.foldlM (addPeriod minTemp maxTemp baseTemperature)
          ⟨numbered slots, previousEndtime, slots.length + 1⟩ = .error .validation := by
  induction ps generalizing slots previousEndtime previous with
  | nil => exact .inl ⟨trivial, _, rfl, by rw [periodSlots, List.append_nil]⟩
  | cons p ps ih =>
    obtain ⟨hstart, -, hrest⟩ := hchain
    have hstep := addPeriod_numbered minTemp maxTemp baseTemperature slots hprevious hstart
    rw [List.foldlM_cons, hstep]
    split
    next htaken =>
      have hsplit : periodSlots baseTemperature previous (p :: ps) =
          periodSlots baseTemperature previous [p] ++
            periodSlots baseTemperature p.pulse.stop ps := by
        rw [periodSlots, periodSlots, periodSlots, List.append_assoc]
        rfl
      have hrun := ih (slots ++ periodSlots baseTemperature previous [p])
        (fun m hm => stop_eq hm) hrest
      rw [hsplit, ← List.append_assoc]
      obtain ⟨hall, hst⟩ | ⟨hall, herror⟩ := hrun
      · exact .inl ⟨⟨htaken, hall⟩, hst⟩
      · exact .inr ⟨fun h => hall h.2, herror⟩
    next htaken => exact .inr ⟨fun h => htaken h.1, rfl⟩

theorem taken_iff : Taken minTemp maxTemp previousEndtime ps ↔
    (∀ p ∈ ps, (minTemp ≤ p.temperature ∧ p.temperature ≤ maxTemp) ∧
      (schedulerMinutes? p.starttime).isSome) ∧
    (ps ≠ [] → (schedulerMinutes? previousEndtime).isSome) ∧
    ∀ p ∈ ps.dropLast, (schedulerMinutes? p.endtime).isSome := by
  induction ps generalizing previousEndtime with
  | nil => exact iff_of_true trivial ⟨nofun, fun h => absurd rfl h, nofun⟩
  | cons p ps ih =>
    rw [Taken, ih, List.forall_mem_cons]
    cases ps with
    | nil =>
      simp only [ne_eq, List.cons_ne_nil, not_false_eq_true, forall_const, List.dropLast_singleton,
        List.not_mem_nil, not_true_eq_false, false_imp_iff, implies_true, and_true]
      tauto
    | cons q ps =>
      simp only [ne_eq, List.cons_ne_nil, not_false_eq_true, forall_const, List.dropLast_cons_cons,
        List.forall_mem_cons]
      tauto

/-! ## What the slots say -/

theorem reads_periodSlots (h : ∀ p ∈ ps, (schedulerMinutes? p.starttime).isSome ∧
      (schedulerMinutes? p.endtime).isSome) :
    Reads (periodSlots baseTemperature previous ps)
      (Pulse.fill baseTemperature previous (ps.map (·.pulse))) := by
  induction ps generalizing previous with
  | nil => exact .nil
  | cons p ps ih =>
    obtain ⟨hstart, hstop⟩ := h p List.mem_cons_self
    obtain ⟨start, hstart⟩ := Option.isSome_iff_exists.mp hstart
    obtain ⟨stop, hstop⟩ := Option.isSome_iff_exists.mp hstop
    rw [periodSlots, List.map_cons, Pulse.fill]
    refine List.rel_append ?_ (.cons ?_ (ih fun q hq => h q (List.mem_cons_of_mem p hq)))
    · split
      · exact .cons (start_eq hstart ▸ span?_text hstart) .nil
      · exact .nil
    · exact stop_eq hstop ▸ span?_text hstop

/-- The end of each period is in a slot. -/
theorem readable_of_isSome
    (hall : ∀ slot ∈ periodSlots baseTemperature previous ps, slot.span?.isSome) :
    ∀ p ∈ ps, (schedulerMinutes? p.endtime).isSome := by
  induction ps generalizing previous with
  | nil => exact nofun
  | cons q ps ih =>
    rw [periodSlots] at hall
    intro p hp
    obtain rfl | hp := List.mem_cons.mp hp
    · obtain ⟨span, hspan⟩ := Option.isSome_iff_exists.mp
        (hall _ (List.mem_append_right _ List.mem_cons_self))
      obtain ⟨start, stop, -, hstop, -⟩ := pulse_spec p
      rw [schedulerMinutes?_of_endtimeToMinutes hstop (span?_eq_some.mp hspan).1]
      rfl
    · exact ih (fun slot hslot =>
        hall slot (List.mem_append_right _ (List.mem_cons_of_mem _ hslot))) p hp

/-! ## The whole day -/

/-- The bounds and the texts that the conversion does not refuse. -/
def Accepts (bounds : Option (Rat × Rat)) (s : ClimateWeekdaySchedule) : Prop :=
  ∃ minTemp maxTemp, bounds = some (minTemp, maxTemp) ∧
    (minTemp ≤ s.baseTemperature ∧ s.baseTemperature ≤ maxTemp) ∧
    (∀ p ∈ s.periods, (minTemp ≤ p.temperature ∧ p.temperature ≤ maxTemp) ∧
      (schedulerMinutes? p.starttime).isSome) ∧
    ∀ p ∈ s.sortedPeriods.dropLast, (schedulerMinutes? p.endtime).isSome

/-- The table before it is numbered. -/
def filledSlots (s : ClimateWeekdaySchedule) : List ScheduleSlot :=
  periodSlots s.baseTemperature 0 s.sortedPeriods ++
    List.replicate (13 - s.slotCount)
      ⟨some (.text climateMaxSchedulerTime), some s.baseTemperature⟩

theorem length_filledSlots (s : ClimateWeekdaySchedule) :
    (filledSlots s).length = s.slotCount + (13 - s.slotCount) := by
  rw [filledSlots, List.length_append, List.length_replicate, length_periodSlots]
  rfl

theorem convert_cases (bounds : Option (Rat × Rat)) (s : ClimateWeekdaySchedule) :
    Accepts bounds s ∧
        validateAndConvertSimpleToWeekday bounds s = .ok (numbered (filledSlots s)) ∨
      ¬ Accepts bounds s ∧ validateAndConvertSimpleToWeekday bounds s = .error .validation := by
  match bounds with
  | none => exact .inr ⟨nofun, rfl⟩
  | some (minTemp, maxTemp) =>
    have haccepts : Accepts (some (minTemp, maxTemp)) s ↔
        (minTemp ≤ s.baseTemperature ∧ s.baseTemperature ≤ maxTemp) ∧
          (∀ p ∈ s.periods, (schedulerMinutes? p.starttime).isSome) ∧
          Taken minTemp maxTemp climateMinSchedulerTime s.sortedPeriods := by
      rw [taken_iff, schedulerMinutes?_min]
      simp only [Accepts, Option.some.injEq, Prod.mk.injEq, s.mem_sortedPeriods,
        Option.isSome_some, implies_true, true_and]
      constructor
      · rintro ⟨_, _, ⟨rfl, rfl⟩, hbase, hall, hends⟩
        exact ⟨hbase, fun p hp => (hall p hp).2, hall, hends⟩
      · rintro ⟨hbase, -, hall, hends⟩
        exact ⟨_, _, ⟨rfl, rfl⟩, hbase, hall, hends⟩
    rw [haccepts]
    simp only [validateAndConvertSimpleToWeekday, requireTempBounds, orRaise, bind, Except.bind]
    by_cases hbase : minTemp ≤ s.baseTemperature ∧ s.baseTemperature ≤ maxTemp
    · rw [if_neg (not_not.mpr hbase)]
      by_cases hstarts : ∀ p ∈ s.periods, (schedulerMinutes? p.starttime).isSome
      · rw [sortPeriods_of_readable hstarts]
        have hrun := foldlM_addPeriod minTemp maxTemp s.baseTemperature []
          (fun m hm => Option.some.inj (hm.symm.trans schedulerMinutes?_min)) s.chain_pulses
        have hsorted : s.periods.insertionSort (fun p p' => p.pulse.start ≤ p'.pulse.start) =
            s.sortedPeriods := rfl
        have hempty : (⟨numbered [], climateMinSchedulerTime, ([] : List ScheduleSlot).length + 1⟩ :
            SlotState) = ⟨.empty, climateMinSchedulerTime, 1⟩ := rfl
        rw [hempty] at hrun
        simp only [hsorted]
        obtain ⟨htaken, st, hst, hdata⟩ | ⟨htaken, herror⟩ := hrun
        · refine .inl ⟨⟨hbase, hstarts, htaken⟩, ?_⟩
          rw [hst]
          simp only [pure, Except.pure, Except.ok.injEq]
          rw [hdata, List.nil_append, fillup_numbered, length_periodSlots]
          rfl
        · refine .inr ⟨fun h => htaken h.2.2, ?_⟩
          rw [herror]
      · have hrefused : ∃ p ∈ s.periods, schedulerMinutes? p.starttime = none := by
          by_contra hnone
          exact hstarts fun p hp => Option.ne_none_iff_isSome.mp fun heq => hnone ⟨p, hp, heq⟩
        obtain ⟨p, hp, hnone⟩ := hrefused
        rw [sortPeriods_of_not_readable hp hnone]
        exact .inr ⟨fun h => hstarts h.2.1, rfl⟩
    · rw [if_pos hbase]
      exact .inr ⟨fun h => hbase h.1, rfl⟩

/-- At every minute of the day the table has the temperature of the period that lasts then, or the
base temperature. -/
def Shows (weekdayData : Dict Int ScheduleSlot) (s : ClimateWeekdaySchedule) : Prop :=
  ∀ minute, 0 ≤ minute → minute < 1440 →
    (∀ p ∈ s.periods, p.pulse.start ≤ minute → minute < p.pulse.stop →
      temperatureAt weekdayData minute = some p.temperature) ∧
    ((∀ p ∈ s.periods, ¬ (p.pulse.start ≤ minute ∧ minute < p.pulse.stop)) →
      temperatureAt weekdayData minute = some s.baseTemperature)

/-- The table is refused, or it is that of a full day and shows the periods. -/
def Converts (bounds : Option (Rat × Rat)) (s : ClimateWeekdaySchedule) : Prop :=
  match validateAndConvertSimpleToWeekday bounds s with
  | .error e => e = .validation
  | .ok weekdayData => FullDay weekdayData ∧ Shows weekdayData s

theorem lastStop_pulses_le (s : ClimateWeekdaySchedule) : Pulse.lastStop 0 s.pulses ≤ 1440 := by
  refine Pulse.lastStop_le (by decide) fun pulse hpulse => ?_
  obtain ⟨p, -, rfl⟩ := List.mem_map.mp hpulse
  exact (pulse_mem p).2.2

/-- The spans of the table. -/
def filledSpans (s : ClimateWeekdaySchedule) : List (Span Int Rat) :=
  Pulse.fill s.baseTemperature 0 s.pulses ++
    List.replicate (13 - s.slotCount) ⟨1440, s.baseTemperature⟩

/-- The periods take at most 12 slots, or 13 that reach 24:00. -/
def FitsTable (s : ClimateWeekdaySchedule) : Prop :=
  s.slotCount ≤ 12 ∨ s.slotCount = 13 ∧ Pulse.lastStop 0 s.pulses = 1440

theorem getLast?_filledSpans {s : ClimateWeekdaySchedule} (h : s.slotCount ≤ 13) :
    (filledSpans s).getLast?.map (·.stop) = some 1440 ↔ FitsTable s := by
  obtain hlt | heq := Nat.lt_or_eq_of_le h
  · have hpos : 13 - s.slotCount ≠ 0 := by omega
    refine iff_of_true ?_ (.inl (Nat.le_of_lt_succ hlt))
    rw [filledSpans, List.getLast?_append_of_ne_nil _ (by simpa using hpos),
      List.getLast?_replicate, if_neg hpos]
    rfl
  · have hne : s.pulses ≠ [] := by
      intro hnil
      rw [ClimateWeekdaySchedule.slotCount, hnil] at heq
      cases heq
    rw [filledSpans, heq, Nat.sub_self, List.replicate_zero, List.append_nil,
      Pulse.getLast?_fill _ _ hne, Option.some.injEq, FitsTable, heq]
    simp

theorem ascends_replicate {previous : Int} (h : previous ≤ 1440) (n : Nat) (x : Rat) :
    Span.Ascends previous (List.replicate n ⟨1440, x⟩) := by
  induction n generalizing previous with
  | zero => exact Span.ascends_nil
  | succ n ih => exact Span.ascends_cons.mpr ⟨h, ih le_rfl⟩

theorem ascends_filledSpans (s : ClimateWeekdaySchedule) :
    Span.Ascends 0 (filledSpans s) :=
  Pulse.ascends_fill s.chain_pulses (ascends_replicate (lastStop_pulses_le s) _ _)

theorem valueAt_filledSpans {s : ClimateWeekdaySchedule} (h : FitsTable s) {minute : Int}
    (hlow : 0 ≤ minute) (hhigh : minute < 1440) :
    Span.valueAt (filledSpans s) minute =
      some (Pulse.valueAt s.baseTemperature s.pulses minute) := by
  refine Pulse.valueAt_fill s.chain_pulses hlow fun hlast => ?_
  obtain hfew | ⟨-, hstop⟩ := h
  · obtain ⟨n, hn⟩ : ∃ n, 13 - s.slotCount = n + 1 := ⟨12 - s.slotCount, by omega⟩
    rw [hn, List.replicate_succ, Span.valueAt_cons, if_pos hhigh]
  · omega

theorem reads_filledSlots {s : ClimateWeekdaySchedule}
    (h : ∀ p ∈ s.periods, (schedulerMinutes? p.starttime).isSome ∧
      (schedulerMinutes? p.endtime).isSome) : Reads (filledSlots s) (filledSpans s) :=
  List.rel_append (reads_periodSlots fun p hp => h p (s.mem_sortedPeriods.mp hp))
    (reads_replicate _ _)

/-- A table that shows the temperatures of the pulses shows the periods. -/
theorem shows_of_valueAt {weekdayData : Dict Int ScheduleSlot} {s : ClimateWeekdaySchedule}
    (h : ∀ minute, 0 ≤ minute → minute < 1440 → temperatureAt weekdayData minute =
      some (Pulse.valueAt s.baseTemperature s.pulses minute)) : Shows weekdayData s := by
  intro minute hlow hhigh
  rw [h minute hlow hhigh]
  constructor
  · intro p hp hstart hstop
    have hmem : p.pulse ∈ s.pulses := List.mem_map_of_mem (s.mem_sortedPeriods.mpr hp)
    rw [Pulse.valueAt_of_mem s.chain_pulses hmem ⟨hstart, hstop⟩, pulse_value]
  · intro hnone
    rw [Pulse.valueAt_of_forall]
    intro pulse hpulse
    obtain ⟨p, hp, rfl⟩ := List.mem_map.mp hpulse
    exact hnone p (s.mem_sortedPeriods.mp hp)

/-- A day is converted as it should be if it is refused, or if its ends can be read and it fits the
table. -/
theorem converts_iff (bounds : Option (Rat × Rat)) (s : ClimateWeekdaySchedule) :
    Converts bounds s ↔
      ¬ Accepts bounds s ∨
        (∀ p ∈ s.periods, (schedulerMinutes? p.endtime).isSome) ∧ FitsTable s := by
  obtain ⟨haccepts, hconvert⟩ | ⟨haccepts, hconvert⟩ := convert_cases bounds s
  · rw [Converts, hconvert, or_iff_right (not_not.mpr haccepts)]
    obtain ⟨minTemp, maxTemp, -, -, hperiods, -⟩ := haccepts
    constructor
    · rintro ⟨hfull, -⟩
      obtain ⟨spans, hday, -, hlast⟩ := hfull.day
      have hends : ∀ p ∈ s.periods, (schedulerMinutes? p.endtime).isSome := fun p hp =>
        readable_of_isSome (fun slot hslot => isSome_of_reads (dayOf_numbered.mp hday) slot
          (List.mem_append_left _ hslot)) p (s.mem_sortedPeriods.mpr hp)
      have hreads := reads_filledSlots fun p hp => ⟨(hperiods p hp).2, hends p hp⟩
      obtain rfl := Option.some.inj (hday.symm.trans (dayOf_numbered.mpr hreads))
      have hnumbers := hfull.numbers s.slotCount
      rw [contains_numbered, length_filledSlots] at hnumbers
      exact ⟨hends, (getLast?_filledSpans (by omega)).mp hlast⟩
    · rintro ⟨hends, hfits⟩
      have hcount : s.slotCount ≤ 13 := by
        obtain hfew | ⟨hcount, -⟩ := hfits <;> omega
      have hreads := reads_filledSlots fun p hp => ⟨(hperiods p hp).2, hends p hp⟩
      have hday := dayOf_numbered.mpr hreads
      refine ⟨⟨fun no => ?_, filledSpans s, hday, ascends_filledSpans s,
        (getLast?_filledSpans hcount).mpr hfits⟩, ?_⟩
      · rw [contains_numbered, length_filledSlots]
        omega
      · refine shows_of_valueAt fun minute hlow hhigh => ?_
        rw [temperatureAt_of_dayOf hday, valueAt_filledSpans hfits hlow hhigh]
  · rw [Converts, hconvert]
    exact iff_of_true rfl (.inl haccepts)

/-- An hour of a day, each with its own temperature. -/
def hourPeriod (n : Nat) : PeriodFields := ⟨timeStr (60 * n), timeStr (60 * (n + 1)), 18 + n⟩

/-- The first thirteen hours of a day. -/
def thirteenHours : ClimateWeekdaySchedule where
  baseTemperature := 16
  periods := (List.range 13).filterMap fun n =>
    if h : (hourPeriod n).accepted = true then some ⟨hourPeriod n, h⟩ else none
  accepted := by decide

/-- They take all slots, so that the table ends at 13:00. -/
theorem not_converts : ¬ Converts (some (5, 31)) thirteenHours := by
  have hlast : ((validateAndConvertSimpleToWeekday (some (5, 31)) thirteenHours).toOption.bind
      dayOf).bind (fun spans => spans.getLast?.map (·.stop)) = some 780 := by
    decide +kernel
  intro h
  rw [Converts] at h
  cases hconvert : validateAndConvertSimpleToWeekday (some (5, 31)) thirteenHours with
  | error e =>
    rw [hconvert] at hlast
    cases hlast
  | ok weekdayData =>
    rw [hconvert] at h hlast
    obtain ⟨spans, hday, -, hend⟩ := h.1.day
    simp only [Except.toOption, Option.bind_some, hday, hend] at hlast
    exact absurd hlast (by decide)

end AioHomematic.Model
