import AioHomematic.Model.WeekProfile.Climate.Times
import Mathlib.Data.List.MinMax

/-!
# Tables of slots

A table whose slots are numbered from 1, and what a table says of a day: its
spans, each with the minute at which it ends, and the temperature at a minute.
-/

namespace AioHomematic.Model

open Lib Support

/-! ## Numbered slots -/

variable {slots : List ScheduleSlot} {slot : ScheduleSlot}

theorem keys_numbered (slots : List ScheduleSlot) :
    (numbered slots).keys = (List.range' 1 slots.length).map Int.ofNat := by
  rw [Dict.keys, numbered, List.map_map, ← List.zipIdx_map_snd, List.map_map]
  rfl

theorem contains_numbered {no : Int} :
    (numbered slots).contains no = true ↔ 1 ≤ no ∧ no ≤ slots.length := by
  rw [Dict.contains_iff, ne_eq, Dict.get?_eq_none, not_not, keys_numbered, List.mem_map]
  constructor
  · rintro ⟨n, hn, rfl⟩
    have hrange := List.mem_range'_1.mp hn
    simp only [Int.ofNat_eq_natCast]
    omega
  · rintro ⟨hlow, hhigh⟩
    refine ⟨no.toNat, List.mem_range'_1.mpr ?_, ?_⟩
    · omega
    · simp only [Int.ofNat_eq_natCast]
      omega

theorem slotsInOrder_numbered (slots : List ScheduleSlot) :
    slotsInOrder (numbered slots) = slots := by
  have hsorted : (numbered slots).entries.Pairwise fun e e' => e.1 ≤ e'.1 := by
    have hrange : ((numbered slots).entries.map Prod.fst).Pairwise (· ≤ ·) := by
      have hkeys := keys_numbered slots
      rw [Dict.keys] at hkeys
      rw [hkeys, List.pairwise_map]
      exact (List.pairwise_le_range' (s := 1) (n := slots.length)).imp fun h => Int.ofNat_le.mpr h
    exact List.pairwise_map.mp hrange
  rw [slotsInOrder, hsorted.insertionSort_eq, numbered, List.map_map]
  exact List.zipIdx_map_fst 1 slots

theorem numbered_concat (slots : List ScheduleSlot) (slot : ScheduleSlot) :
    (numbered slots).set (slots.length + 1) slot = numbered (slots ++ [slot]) := by
  have hnew : ((slots.length : Int) + 1) ∉ (numbered slots).entries.map Prod.fst := by
    intro hmem
    have hcontains := contains_numbered.mp (Dict.contains_iff.mpr fun hnone =>
      Dict.get?_eq_none.mp hnone hmem)
    omega
  refine Dict.ext ?_
  simp only [Dict.set]
  rw [Dict.store_of_not_mem hnew]
  simp only [numbered, List.zipIdx_append, List.map_append, List.zipIdx_singleton,
    List.map_singleton, Nat.cast_add, Nat.cast_one, Int.add_comm]

theorem fillup_numbered (baseTemperature : Rat) (slots : List ScheduleSlot) :
    fillupWeekdayData baseTemperature (numbered slots) =
      numbered (slots ++ List.replicate (13 - slots.length)
        ⟨some (.text climateMaxSchedulerTime), some baseTemperature⟩) := by
  rw [fillupWeekdayData, slotNumbers]
  induction 13 with
  | zero => simp
  | succ n ih =>
    rw [List.range_succ, List.map_append, List.foldl_append, ih, List.map_singleton,
      List.foldl_cons, List.foldl_nil]
    have hcontains := @contains_numbered (slots ++ List.replicate (n - slots.length)
      ⟨some (.text climateMaxSchedulerTime), some baseTemperature⟩) (n + 1)
    rw [List.length_append, List.length_replicate] at hcontains
    split
    next hfilled =>
      rw [hcontains] at hfilled
      have hle : n + 1 ≤ slots.length := by omega
      rw [Nat.sub_eq_zero_of_le hle, Nat.sub_eq_zero_of_le (Nat.le_of_succ_le hle)]
    next hnew =>
      rw [hcontains] at hnew
      have hlt : slots.length ≤ n := by omega
      have hlength : (slots ++ List.replicate (n - slots.length)
          (⟨some (.text climateMaxSchedulerTime), some baseTemperature⟩ : ScheduleSlot)).length =
          n := by
        rw [List.length_append, List.length_replicate]
        omega
      have hconcat := numbered_concat (slots ++ List.replicate (n - slots.length)
        (⟨some (.text climateMaxSchedulerTime), some baseTemperature⟩ : ScheduleSlot))
        ⟨some (.text climateMaxSchedulerTime), some baseTemperature⟩
      rw [hlength] at hconcat
      rw [hconcat, List.append_assoc, ← List.replicate_succ', Nat.succ_sub hlt]

/-! ## The spans of a table -/

theorem mapM_eq_some_iff {α β : Type*} {f : α → Option β} {l : List α} {l' : List β} :
    l.mapM f = some l' ↔ List.Forall₂ (fun a b => f a = some b) l l' := by
  induction l generalizing l' with
  | nil =>
    rw [List.mapM_nil, List.forall₂_nil_left_iff]
    exact ⟨fun h => (Option.some.inj h).symm, fun h => congrArg some h.symm⟩
  | cons a l ih =>
    rw [List.mapM_cons, Option.bind_eq_bind, Option.bind_eq_some_iff,
      List.forall₂_cons_left_iff]
    refine exists_congr fun b => ?_
    rw [Option.bind_eq_bind, Option.bind_eq_some_iff]
    constructor
    · rintro ⟨ha, bs, hbs, heq⟩
      exact ⟨bs, ha, ih.mp hbs, (Option.some.inj heq).symm⟩
    · rintro ⟨bs, ha, hbs, rfl⟩
      exact ⟨ha, bs, ih.mpr hbs, rfl⟩

/-- What a slot says: its end in minutes and its temperature. -/
def ScheduleSlot.span? (slot : ScheduleSlot) : Option (Span Int Rat) :=
  match slot.endMinutes, slot.readTemperature with
  | .ok stop, .ok value => some ⟨stop, value⟩
  | _, _ => none

theorem span?_eq_some {span : Span Int Rat} : slot.span? = some span ↔
    slot.endMinutes = .ok span.stop ∧ slot.readTemperature = .ok span.value := by
  rw [ScheduleSlot.span?]
  cases slot.endMinutes with
  | error e => simp
  | ok stop =>
    cases slot.readTemperature with
    | error e => simp
    | ok value =>
      simp only [Option.some.injEq, Except.ok.injEq]
      constructor
      · rintro rfl
        exact ⟨rfl, rfl⟩
      · rintro ⟨rfl, rfl⟩
        rfl

/-- The spans of a table, if all its slots can be read. -/
def dayOf (weekdayData : Dict Int ScheduleSlot) : Option (List (Span Int Rat)) :=
  (slotsInOrder weekdayData).mapM ScheduleSlot.span?

/-- A table with 13 slots whose ends are in order and reach 24:00. -/
structure FullDay (weekdayData : Dict Int ScheduleSlot) : Prop where
  numbers : ∀ no, weekdayData.contains no = true ↔ 1 ≤ no ∧ no ≤ 13
  day : ∃ spans, dayOf weekdayData = some spans ∧ Span.Ascends 0 spans ∧
    spans.getLast?.map (·.stop) = some 1440

/-- The temperature at a minute: that of the first slot that ends later. -/
def temperatureAt (weekdayData : Dict Int ScheduleSlot) (minute : Int) : Option Rat :=
  (dayOf weekdayData).bind fun spans => Span.valueAt spans minute

theorem temperatureAt_of_dayOf {weekdayData : Dict Int ScheduleSlot}
    {spans : List (Span Int Rat)} (h : dayOf weekdayData = some spans) (minute : Int) :
    temperatureAt weekdayData minute = Span.valueAt spans minute := by
  rw [temperatureAt, h, Option.bind_some]

/-- The slots are read as spans. -/
abbrev Reads : List ScheduleSlot → List (Span Int Rat) → Prop :=
  List.Forall₂ fun slot span => slot.span? = some span

theorem isSome_of_reads {spans : List (Span Int Rat)} (h : Reads slots spans) :
    ∀ slot ∈ slots, slot.span?.isSome := by
  induction h with
  | nil => exact nofun
  | cons hspan _ ih => exact List.forall_mem_cons.mpr ⟨Option.isSome_of_eq_some hspan, ih⟩

theorem dayOf_numbered {spans : List (Span Int Rat)} :
    dayOf (numbered slots) = some spans ↔ Reads slots spans := by
  rw [dayOf, slotsInOrder_numbered, mapM_eq_some_iff]

/-- A slot that ends at a time. -/
theorem span?_text {endtime : String} {stop : Int} {temperature : Rat}
    (h : schedulerMinutes? endtime = some stop) :
    ScheduleSlot.span? ⟨some (.text endtime), some temperature⟩ = some ⟨stop, temperature⟩ :=
  span?_eq_some.mpr ⟨endtimeToMinutes_text h, rfl⟩

theorem schedulerMinutes?_max : schedulerMinutes? climateMaxSchedulerTime = some 1440 := by
  decide

theorem schedulerMinutes?_min : schedulerMinutes? climateMinSchedulerTime = some 0 := by
  decide

/-- The slots that fill a table. -/
theorem reads_replicate (n : Nat) (temperature : Rat) :
    Reads (List.replicate n ⟨some (.text climateMaxSchedulerTime), some temperature⟩)
      (List.replicate n ⟨1440, temperature⟩) := by
  induction n with
  | zero => exact .nil
  | succ n ih => exact .cons (span?_text schedulerMinutes?_max) ih

end AioHomematic.Model

/-!
## The base temperature

`identify_base_temperature` adds the minutes up for each temperature and takes
the one with the most; of equal ones, the one that comes first in the table.
-/

namespace AioHomematic.Model

open Lib Support

/-- The minutes that spans after a time have a temperature. -/
def minutesOf (previous : Int) (temperature : Rat) : List (Span Int Rat) → Int
  | [] => 0
  | s :: spans =>
    (if s.value = temperature then s.stop - previous else 0) +
      minutesOf s.stop temperature spans

/-- Where spans after a time end. -/
def stopOf (previous : Int) : List (Span Int Rat) → Int
  | [] => previous
  | s :: spans => stopOf s.stop spans

theorem minutesOf_concat (previous : Int) (temperature : Rat) (spans : List (Span Int Rat))
    (s : Span Int Rat) :
    minutesOf previous temperature (spans ++ [s]) =
      minutesOf previous temperature spans +
        if s.value = temperature then s.stop - stopOf previous spans else 0 := by
  induction spans generalizing previous with
  | nil => simp [minutesOf, stopOf]
  | cons s' spans ih => rw [List.cons_append, minutesOf, minutesOf, ih, stopOf, Int.add_assoc]

theorem stopOf_concat (previous : Int) (spans : List (Span Int Rat)) (s : Span Int Rat) :
    stopOf previous (spans ++ [s]) = s.stop := by
  induction spans generalizing previous with
  | nil => rfl
  | cons s' spans ih => exact ih s'.stop

/-- The first element with the greatest value. -/
def firstMax {α β : Type*} [LinearOrder β] (f : α → β) (l : List α) : Option α := l.argmax f

/-- The temperature with the most minutes, the first of equal ones. -/
def baseOf (spans : List (Span Int Rat)) : Option Rat :=
  firstMax (fun temperature => minutesOf 0 temperature spans) (spans.map (·.value))

/-! ## The minutes of each temperature -/

/-- What `addMinutes` has after spans. -/
structure Counted (spans : List (Span Int Rat)) (st : Dict Rat Int × Int) : Prop where
  stop : st.2 = stopOf 0 spans
  mem : ∀ x, x ∈ st.1.keys ↔ x ∈ spans.map (·.value)
  first : ∀ f : Rat → Int, firstMax f st.1.keys = firstMax f (spans.map (·.value))
  minutes : ∀ x, (st.1.get? x).getD 0 = minutesOf 0 x spans

theorem firstMax_concat_of_mem {α β : Type*} [LinearOrder β] {f : α → β} {x : α} {l : List α}
    (h : x ∈ l) : firstMax f (l ++ [x]) = firstMax f l := by
  rw [firstMax, firstMax, List.argmax_concat]
  cases hmax : l.argmax f with
  | none =>
    rw [List.argmax_eq_none] at hmax
    rw [hmax] at h
    cases h
  | some m => exact if_neg (List.not_lt_of_mem_argmax h hmax)

theorem firstMax_concat_congr {α β : Type*} [LinearOrder β] {f : α → β} {l l' : List α}
    (h : firstMax f l = firstMax f l') (x : α) : firstMax f (l ++ [x]) = firstMax f (l' ++ [x]) := by
  rw [firstMax, firstMax] at h
  rw [firstMax, firstMax, List.argmax_concat, List.argmax_concat, h]

theorem Counted.concat {spans : List (Span Int Rat)} {st : Dict Rat Int × Int}
    (h : Counted spans st) (s : Span Int Rat) :
    Counted (spans ++ [s])
      (st.1.set s.value ((st.1.get? s.value).getD 0 + (s.stop - st.2)), s.stop) where
  stop := (stopOf_concat 0 spans s).symm
  mem := by
    intro x
    rw [Dict.keys_set]
    have hmem := h.mem x
    split
    next hold =>
      rw [hmem, List.map_append, List.mem_append, List.map_singleton, List.mem_singleton]
      refine (or_iff_left_of_imp ?_).symm
      rintro rfl
      exact (h.mem s.value).mp hold
    · rw [List.mem_append, hmem, List.map_append, List.mem_append, List.map_singleton]
  first := by
    intro f
    rw [Dict.keys_set, List.map_append, List.map_singleton]
    split
    next hold => rw [h.first f, firstMax_concat_of_mem ((h.mem s.value).mp hold)]
    · exact firstMax_concat_congr (h.first f) s.value
  minutes := by
    intro x
    rw [Dict.get?_set, minutesOf_concat, ← h.stop, ← h.minutes x]
    split
    next heq =>
      subst heq
      rfl
    · exact (Int.add_zero _).symm

variable {slots : List ScheduleSlot} {spans : List (Span Int Rat)}

theorem addMinutes_of_span {st : Dict Rat Int × Int} {slot : ScheduleSlot} {s : Span Int Rat}
    (h : slot.span? = some s) : addMinutes st slot =
      .ok (st.1.set s.value ((st.1.get? s.value).getD 0 + (s.stop - st.2)), s.stop) := by
  obtain ⟨hstop, hvalue⟩ := span?_eq_some.mp h
  rw [addMinutes, hstop, hvalue]
  rfl

theorem foldlM_addMinutes {done : List (Span Int Rat)} {st : Dict Rat Int × Int}
    (h : Reads slots spans) (hst : Counted done st) :
    ∃ st', slots.foldlM addMinutes st = .ok st' ∧ Counted (done ++ spans) st' := by
  induction h generalizing done st with
  | nil => exact ⟨st, rfl, by rwa [List.append_nil]⟩
  | @cons slot s slots spans hslot _ ih =>
    obtain ⟨st', hrun, hcounted⟩ := ih (hst.concat s)
    refine ⟨st', ?_, ?_⟩
    · rw [List.foldlM_cons, addMinutes_of_span hslot]
      exact hrun
    · rwa [List.append_assoc, List.singleton_append] at hcounted

/-- The first slot that cannot be read ends the count. -/
theorem foldlM_addMinutes_error {slots : List ScheduleSlot} {error : ScheduleError}
    (hall : ∀ slot ∈ slots, slot.span?.isSome ∨ ∀ st, addMinutes st slot = .error error)
    (hsome : ∃ slot ∈ slots, slot.span? = none) (st : Dict Rat Int × Int) :
    slots.foldlM addMinutes st = .error error := by
  induction slots generalizing st with
  | nil =>
    obtain ⟨slot, hslot, -⟩ := hsome
    cases hslot
  | cons slot slots ih =>
    rw [List.foldlM_cons]
    obtain hslot | hslot := hall slot List.mem_cons_self
    · obtain ⟨s, hs⟩ := Option.isSome_iff_exists.mp hslot
      rw [addMinutes_of_span hs]
      refine ih (fun slot' h => hall slot' (List.mem_cons_of_mem slot h)) ?_ _
      obtain ⟨slot', hslot', hnone⟩ := hsome
      obtain rfl | hslot' := List.mem_cons.mp hslot'
      · rw [hs] at hnone
        cases hnone
      · exact ⟨slot', hslot', hnone⟩
    · rw [hslot st]
      rfl

/-! ## The most minutes -/

theorem foldl_argAux {f : Rat → Int} {es : List (Rat × Int)} (h : ∀ e ∈ es, e.2 = f e.1)
    {key : Rat} {minutes : Int} (hkey : minutes = f key) :
    (es.map Prod.fst).foldl (List.argAux fun b c => f c < f b) (some key) =
      some (keyOfMax key minutes es) := by
  induction es generalizing key minutes with
  | nil => rfl
  | cons e es ih =>
    obtain ⟨he, hes⟩ := List.forall_mem_cons.mp h
    rw [List.map_cons, List.foldl_cons, keyOfMax, hkey, he]
    dsimp only [List.argAux]
    split
    · exact ih hes rfl
    · exact ih hes rfl

/-- The base temperature of a table that can be read. -/
theorem identifyBaseTemperature_of_reads {weekdayData : Dict Int ScheduleSlot}
    (h : Reads (slotsInOrder weekdayData) spans) (hne : spans ≠ []) :
    ∃ base, identifyBaseTemperature weekdayData = .ok base ∧ baseOf spans = some base := by
  have hentries : weekdayData.entries ≠ [] := by
    intro hnil
    rw [slotsInOrder, hnil] at h
    exact hne (List.forall₂_nil_left_iff.mp h)
  have hinit : Counted [] (.empty, 0) :=
    ⟨rfl, fun _ => Iff.rfl, fun _ => rfl, fun _ => rfl⟩
  obtain ⟨⟨temperatureMinutes, previousMinutes⟩, hrun, hcounted⟩ := foldlM_addMinutes h hinit
  rw [List.nil_append] at hcounted
  have hminutes : ∀ e ∈ temperatureMinutes.entries, e.2 = minutesOf 0 e.1 spans := by
    intro e he
    have hget : temperatureMinutes.get? e.1 = some e.2 := Dict.get?_eq_some.mpr he
    rw [← hcounted.minutes e.1, hget]
    rfl
  have hfirst := hcounted.first fun x => minutesOf 0 x spans
  rw [identifyBaseTemperature, if_neg hentries, hrun]
  simp only [bind, Except.bind]
  cases hdata : temperatureMinutes.entries with
  | nil =>
    rw [Dict.keys, hdata, List.map_nil, firstMax, firstMax, List.argmax_nil] at hfirst
    have hnone := List.argmax_eq_none.mp hfirst.symm
    exact absurd (List.map_eq_nil_iff.mp hnone) hne
  | cons e es =>
    rw [hdata] at hminutes
    obtain ⟨he, hes⟩ := List.forall_mem_cons.mp hminutes
    refine ⟨keyOfMax e.1 e.2 es, rfl, ?_⟩
    rw [baseOf, ← hfirst, Dict.keys, hdata, List.map_cons, firstMax, List.argmax, List.foldl_cons]
    exact foldl_argAux hes he

end AioHomematic.Model
