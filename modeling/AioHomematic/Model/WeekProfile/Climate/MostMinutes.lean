import AioHomematic.Model.WeekProfile.Climate.Table

/-!
# The temperature of most minutes

The minutes that `identify_base_temperature` adds up for a temperature, against
those of the day at which it is in force. Each slot is counted with the minutes
at which it is the first that ends later if the end times never go back and
none is after 24:00 (`orderly_iff_eachCounted`); the two are then the same for
every temperature (`countP_valueAt`).
-/

namespace AioHomematic.Model

open Lib Support

def minutesPerDay : Nat := 1440

/-- The minutes of the day at which a temperature is in force. -/
def minutesInForce (weekdayData : Dict Int ScheduleSlot) (temperature : Rat) : Nat :=
  (List.range minutesPerDay).countP fun minute : Nat =>
    temperatureAt weekdayData minute = some temperature

/-- No temperature is in force for more minutes. -/
def MostMinutes (weekdayData : Dict Int ScheduleSlot) (base : Rat) : Prop :=
  ∀ temperature, minutesInForce weekdayData temperature ≤ minutesInForce weekdayData base

/-- The end times never go back, and none is after 24:00. -/
def Orderly (spans : List (Span Int Rat)) : Prop :=
  Span.Ascends 0 spans ∧ ∀ s ∈ spans, s.stop ≤ minutesPerDay

/-- The minutes of the day at which a span is the first that lasts longer. -/
def ownMinutes (done : List (Span Int Rat)) (s : Span Int Rat) : Nat :=
  (List.range minutesPerDay).countP fun minute : Nat =>
    Span.valueAt done (minute : Int) = none ∧ (minute : Int) < s.stop

/-- Each span is counted with its own minutes. -/
def EachCounted (spans : List (Span Int Rat)) : Prop :=
  ∀ done s rest, spans = done ++ s :: rest → s.stop - stopOf 0 done = ownMinutes done s

instance (spans : List (Span Int Rat)) : Decidable (Orderly spans) :=
  inferInstanceAs (Decidable (_ ∧ ∀ s ∈ spans, s.stop ≤ (minutesPerDay : Int)))

/-! ## Counting minutes -/

variable {n : Nat} {previous : Int} {s : Span Int Rat} {done spans : List (Span Int Rat)}

theorem countP_between (n : Nat) {start : Int} (hstart : 0 ≤ start) (stop : Int) :
    (((List.range n).countP fun minute : Nat =>
      start ≤ (minute : Int) ∧ (minute : Int) < stop : Nat) : Int) =
      max 0 (min stop n - start) := by
  induction n with
  | zero =>
    rw [List.range_zero, List.countP_nil]
    omega
  | succ n ih =>
    rw [List.range_succ, List.countP_append, List.countP_singleton, Nat.cast_add, ih]
    by_cases hin : start ≤ (n : Int) ∧ (n : Int) < stop
    · rw [if_pos (decide_eq_true hin)]
      omega
    · rw [if_neg fun h => hin (of_decide_eq_true h)]
      omega

/-- Of two tests that exclude each other, one or the other is met as often as both together. -/
theorem countP_or {α : Type*} {p q r : α → Prop} [DecidablePred p] [DecidablePred q]
    [DecidablePred r] (l : List α) (h : ∀ a, (p a ↔ q a ∨ r a) ∧ ¬ (q a ∧ r a)) :
    l.countP (fun a => p a) = l.countP (fun a => q a) + l.countP (fun a => r a) := by
  induction l with
  | nil => rfl
  | cons a l ih =>
    obtain ⟨hiff, hnot⟩ := h a
    rw [List.countP_cons, List.countP_cons, List.countP_cons, ih]
    by_cases hq : q a
    · have hr : ¬ r a := fun hr => hnot ⟨hq, hr⟩
      simp only [hiff, hq, hr, true_or, decide_true, decide_false, Bool.false_eq_true, if_true,
        if_false]
      omega
    · by_cases hr : r a
      · simp only [hiff, hq, hr, or_true, decide_true, decide_false, Bool.false_eq_true, if_true,
          if_false]
        omega
      · simp only [hiff, hq, hr, or_self, decide_false, Bool.false_eq_true, if_false]
        omega

/-- Spans in order have as many minutes of a temperature as they are counted with. -/
theorem countP_valueAt (hprevious : 0 ≤ previous) (hascends : Span.Ascends previous spans)
    (hday : ∀ s ∈ spans, s.stop ≤ n) (temperature : Rat) :
    (((List.range n).countP fun minute : Nat => previous ≤ (minute : Int) ∧
      Span.valueAt spans (minute : Int) = some temperature : Nat) : Int) =
      minutesOf previous temperature spans := by
  induction spans generalizing previous with
  | nil =>
    rw [minutesOf, Int.natCast_eq_zero, List.countP_eq_zero]
    intro minute _ h
    cases (of_decide_eq_true h).2
  | cons s spans ih =>
    obtain ⟨hstop, htail⟩ := Span.ascends_cons.mp hascends
    obtain ⟨hs, hspans⟩ := List.forall_mem_cons.mp hday
    rw [minutesOf, ← ih (Int.le_trans hprevious hstop) htail hspans]
    -- a minute before the end of the first span is its own, a later one is left to the others
    have hsplit := countP_or (List.range n)
      (p := fun minute : Nat => previous ≤ (minute : Int) ∧
        Span.valueAt (s :: spans) (minute : Int) = some temperature)
      (q := fun minute : Nat => s.value = temperature ∧
        previous ≤ (minute : Int) ∧ (minute : Int) < s.stop)
      (r := fun minute : Nat => s.stop ≤ (minute : Int) ∧
        Span.valueAt spans (minute : Int) = some temperature) ?_
    · rw [hsplit, Nat.cast_add]
      congr 1
      by_cases hvalue : s.value = temperature
      · simp only [hvalue, true_and, if_true]
        rw [countP_between n hprevious]
        omega
      · simp [hvalue]
    · intro minute
      rw [Span.valueAt_cons]
      by_cases hbefore : (minute : Int) < s.stop
      · rw [if_pos hbefore, Option.some_inj]
        refine ⟨?_, fun h => absurd hbefore (Int.not_lt.mpr h.2.1)⟩
        constructor
        · rintro ⟨hstart, hvalue⟩
          exact .inl ⟨hvalue, hstart, hbefore⟩
        · rintro (⟨hvalue, hstart, -⟩ | ⟨hafter, -⟩)
          · exact ⟨hstart, hvalue⟩
          · exact absurd hbefore (Int.not_lt.mpr hafter)
      · rw [if_neg hbefore]
        have hafter := Int.not_lt.mp hbefore
        refine ⟨?_, fun h => hbefore h.1.2.2⟩
        constructor
        · exact fun h => .inr ⟨hafter, h.2⟩
        · rintro (⟨-, -, hlt⟩ | ⟨-, hvalue⟩)
          · exact absurd hlt hbefore
          · exact ⟨Int.le_trans hstop hafter, hvalue⟩

/-! ## Each slot with its own minutes -/

theorem ascends_append {rest : List (Span Int Rat)} :
    Span.Ascends previous (done ++ rest) ↔
      Span.Ascends previous done ∧ Span.Ascends (stopOf previous done) rest := by
  induction done generalizing previous with
  | nil => simp [stopOf]
  | cons s done ih => rw [List.cons_append, Span.ascends_cons, Span.ascends_cons, ih, stopOf,
      and_assoc]

theorem le_stopOf (h : Span.Ascends previous spans) : previous ≤ stopOf previous spans := by
  induction spans generalizing previous with
  | nil => exact Int.le_refl previous
  | cons s spans ih =>
    obtain ⟨hstop, htail⟩ := Span.ascends_cons.mp h
    exact Int.le_trans hstop (ih htail)

theorem stopOf_le {bound : Int} (h : ∀ s ∈ spans, s.stop ≤ bound) (hprevious : previous ≤ bound) :
    stopOf previous spans ≤ bound := by
  induction spans generalizing previous with
  | nil => exact hprevious
  | cons s spans ih =>
    obtain ⟨hs, hspans⟩ := List.forall_mem_cons.mp h
    exact ih hspans hs

theorem Orderly.stopOf_bounds (h : Orderly spans) :
    0 ≤ stopOf 0 spans ∧ stopOf 0 spans ≤ minutesPerDay :=
  ⟨le_stopOf h.1, stopOf_le h.2 (Int.natCast_nonneg minutesPerDay)⟩

/-- After spans in order, none of them lasts longer than where they stop. -/
theorem valueAt_eq_none_iff_stopOf (hascends : Span.Ascends previous spans) {t : Int}
    (ht : previous ≤ t) : Span.valueAt spans t = none ↔ stopOf previous spans ≤ t := by
  induction spans generalizing previous with
  | nil => exact ⟨fun _ => ht, fun _ => rfl⟩
  | cons s spans ih =>
    obtain ⟨-, htail⟩ := Span.ascends_cons.mp hascends
    rw [Span.valueAt_cons, stopOf]
    by_cases hbefore : t < s.stop
    · rw [if_pos hbefore]
      refine ⟨fun hsome => absurd hsome (Option.some_ne_none _), fun hstop => ?_⟩
      have hle := le_stopOf htail
      omega
    · rw [if_neg hbefore, ih htail (Int.not_lt.mp hbefore)]

/-- The own minutes of a span after others in order. -/
theorem ownMinutes_of_orderly (h : Orderly done) (s : Span Int Rat) :
    (ownMinutes done s : Int) = max 0 (min s.stop minutesPerDay - stopOf 0 done) := by
  rw [← countP_between minutesPerDay h.stopOf_bounds.1, ownMinutes]
  congr 2
  funext minute
  exact decide_eq_decide.mpr
    (and_congr_left' (valueAt_eq_none_iff_stopOf h.1 (Int.natCast_nonneg minute)))

theorem orderly_concat :
    Orderly (done ++ [s]) ↔ Orderly done ∧ stopOf 0 done ≤ s.stop ∧ s.stop ≤ minutesPerDay := by
  rw [Orderly, ascends_append, Span.ascends_cons, List.forall_mem_append, List.forall_mem_singleton]
  constructor
  · rintro ⟨⟨hdone, hstop, -⟩, hall, hs⟩
    exact ⟨⟨hdone, hall⟩, hstop, hs⟩
  · rintro ⟨⟨hdone, hall⟩, hstop, hs⟩
    exact ⟨⟨hdone, hstop, Span.ascends_nil⟩, hall, hs⟩

/-- Spans in order go on in order as long as they are counted with their own minutes. -/
theorem orderly_of_eachCounted (hdone : Orderly done) (h : EachCounted (done ++ spans)) :
    Orderly (done ++ spans) := by
  induction spans generalizing done with
  | nil => rwa [List.append_nil]
  | cons s spans ih =>
    have hcounted := h done s spans rfl
    obtain ⟨-, hday⟩ := hdone.stopOf_bounds
    rw [ownMinutes_of_orderly hdone] at hcounted
    have hnext : Orderly (done ++ [s]) := orderly_concat.mpr ⟨hdone, by omega, by omega⟩
    rw [← List.singleton_append, ← List.append_assoc] at h ⊢
    exact ih hnext h

/-- The tables in which each slot is counted with the minutes that are its own. -/
theorem orderly_iff_eachCounted (spans : List (Span Int Rat)) :
    Orderly spans ↔ EachCounted spans := by
  constructor
  · rintro h done s rest rfl
    rw [Orderly, ascends_append, Span.ascends_cons, List.forall_mem_append,
      List.forall_mem_cons] at h
    obtain ⟨⟨hdone, hstop, -⟩, hall, hs, -⟩ := h
    rw [ownMinutes_of_orderly ⟨hdone, hall⟩, min_eq_left hs]
    omega
  · intro h
    have hrun : Orderly ([] ++ spans) := orderly_of_eachCounted ⟨Span.ascends_nil, nofun⟩ h
    exact hrun

/-! ## The most minutes -/

theorem minutesInForce_of_orderly {weekdayData : Dict Int ScheduleSlot}
    (hvalue : ∀ minute : Nat, temperatureAt weekdayData minute = Span.valueAt spans (minute : Int))
    (h : Orderly spans) (temperature : Rat) :
    (minutesInForce weekdayData temperature : Int) = minutesOf 0 temperature spans := by
  rw [← countP_valueAt (n := minutesPerDay) (Int.le_refl 0) h.1 h.2, minutesInForce]
  congr 2
  funext minute
  refine decide_eq_decide.mpr ?_
  rw [hvalue minute]
  exact (and_iff_right (Int.natCast_nonneg minute)).symm

theorem minutesOf_of_not_mem {temperature : Rat} (h : temperature ∉ spans.map (·.value)) :
    minutesOf previous temperature spans = 0 := by
  induction spans generalizing previous with
  | nil => rfl
  | cons s spans ih =>
    rw [List.map_cons, List.mem_cons, not_or] at h
    rw [minutesOf, if_neg (Ne.symm h.1), Int.zero_add, ih h.2]

/-- Of spans in order, the base temperature is in force for the most minutes. -/
theorem mostMinutes_of_orderly {weekdayData : Dict Int ScheduleSlot} {base : Rat}
    (hday : dayOf weekdayData = some spans) (h : Orderly spans) (hbase : baseOf spans = some base) :
    MostMinutes weekdayData base := by
  intro temperature
  have hforce := minutesInForce_of_orderly (fun minute => temperatureAt_of_dayOf hday minute) h
  rw [← Int.ofNat_le, hforce temperature, hforce base]
  by_cases hmem : temperature ∈ spans.map (·.value)
  · exact List.le_of_mem_argmax hmem hbase
  · rw [minutesOf_of_not_mem hmem, ← hforce base]
    exact Int.natCast_nonneg _

theorem addMinutes_of_none {slot : ScheduleSlot} (h : slot.span? = none) (st : Dict Rat Int × Int) :
    ∃ error, addMinutes st slot = .error error := by
  rw [addMinutes]
  cases hstop : slot.endMinutes with
  | error error => exact ⟨error, rfl⟩
  | ok stop =>
    cases hvalue : slot.readTemperature with
    | error error => exact ⟨error, rfl⟩
    | ok value =>
      have hspan : slot.span? = some ⟨stop, value⟩ := span?_eq_some.mpr ⟨hstop, hvalue⟩
      rw [hspan] at h
      cases h

theorem foldlM_addMinutes_of_none {slots : List ScheduleSlot}
    (h : slots.mapM ScheduleSlot.span? = none) (st : Dict Rat Int × Int) :
    ∃ error, slots.foldlM addMinutes st = .error error := by
  induction slots generalizing st with
  | nil => cases h
  | cons slot slots ih =>
    rw [List.foldlM_cons]
    cases hslot : slot.span? with
    | none =>
      obtain ⟨error, hadd⟩ := addMinutes_of_none hslot st
      exact ⟨error, by rw [hadd]; rfl⟩
    | some s =>
      rw [addMinutes_of_span hslot]
      refine ih ?_ _
      rw [List.mapM_cons, hslot] at h
      cases hrest : slots.mapM ScheduleSlot.span? with
      | none => rfl
      | some spans =>
        rw [hrest] at h
        cases h

/-- A table that cannot be read raises; of one that can be read, the base temperature is right
as long as the end times are in order. -/
theorem identifyBaseTemperature_mostMinutes (weekdayData : Dict Int ScheduleSlot) :
    match dayOf weekdayData with
    | none => ∃ error, identifyBaseTemperature weekdayData = .error error
    | some spans => ∃ base, identifyBaseTemperature weekdayData = .ok base ∧
        (Orderly spans → MostMinutes weekdayData base) ∧ (Orderly spans ↔ EachCounted spans) := by
  have hslots : slotsInOrder weekdayData = [] ↔ weekdayData.entries = [] := by
    rw [slotsInOrder, List.map_eq_nil_iff, ← List.length_eq_zero_iff, List.length_insertionSort,
      List.length_eq_zero_iff]
  cases hday : dayOf weekdayData with
  | none =>
    have hne : weekdayData.entries ≠ [] := by
      intro hnil
      rw [dayOf, hslots.mpr hnil] at hday
      cases hday
    obtain ⟨error, hrun⟩ := foldlM_addMinutes_of_none hday (.empty, 0)
    refine ⟨error, ?_⟩
    rw [identifyBaseTemperature, if_neg hne, hrun]
    rfl
  | some spans =>
    have hreads : Reads (slotsInOrder weekdayData) spans := mapM_eq_some_iff.mp hday
    cases spans with
    | nil =>
      refine ⟨defaultClimateFillTemperature, ?_, fun horderly temperature => ?_,
        orderly_iff_eachCounted []⟩
      · rw [identifyBaseTemperature, if_pos (hslots.mp (List.forall₂_nil_right_iff.mp hreads))]
      · have hforce := minutesInForce_of_orderly
          (fun minute => temperatureAt_of_dayOf hday minute) horderly
        rw [← Int.ofNat_le, hforce temperature, hforce defaultClimateFillTemperature]
        exact Int.le_refl 0
    | cons s spans =>
      obtain ⟨base, hrun, hbase⟩ :=
        identifyBaseTemperature_of_reads hreads (List.cons_ne_nil s spans)
      exact ⟨base, hrun, fun horderly => mostMinutes_of_orderly hday horderly hbase,
        orderly_iff_eachCounted (s :: spans)⟩

/-- The second slot ends before the first: 18 degrees until 13:20, then 25 degrees. -/
def backwards : Dict Int ScheduleSlot :=
  numbered [⟨some (.minutes 800), some 18⟩, ⟨some (.minutes 100), some 20⟩,
    ⟨some (.minutes 1440), some 25⟩]

/-- The third slot is counted with the minutes before the first one ends as well. -/
theorem not_mostMinutes_backwards :
    identifyBaseTemperature backwards = .ok 25 ∧ ¬ MostMinutes backwards 25 := by
  refine ⟨by decide, fun h => ?_⟩
  have hday : dayOf backwards = some [⟨800, 18⟩, ⟨100, 20⟩, ⟨1440, 25⟩] := by decide
  have hvalue : ∀ minute : Nat, temperatureAt backwards minute =
      Span.valueAt [⟨800, 18⟩, ⟨1440, 25⟩] (minute : Int) := by
    intro minute
    rw [temperatureAt_of_dayOf hday]
    simp only [Span.valueAt_cons]
    split
    · rfl
    · rw [if_neg]
      omega
  have hforce := minutesInForce_of_orderly hvalue (by decide)
  have hle := h 18
  rw [← Int.ofNat_le, hforce 18, hforce 25] at hle
  exact absurd hle (by decide)

end AioHomematic.Model
