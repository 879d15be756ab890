import AioHomematic.Model.WeekProfile.Climate
import Mathlib.Data.List.ProdSigma
import Mathlib.Tactic.IntervalCases

/-!
# Times of a thermostat's day

Two patterns decide which texts are times: that of the models and that of the
CCU's tables. Where both accept a text it means the same minutes, and the texts
of minutes are accepted by both.
-/

namespace AioHomematic.Model

open Lib Support

def asciiDigits : List Char := ['0', '1', '2', '3', '4', '5', '6', '7', '8', '9']

theorem mem_asciiDigits {c : Char} (h : c.isDigit = true) : c ∈ asciiDigits := by
  obtain ⟨hlow, hhigh⟩ := Char.isDigit_iff_toNat.mp h
  have hchar : ∀ n, 48 ≤ n → n ≤ 57 → Char.ofNat n ∈ asciiDigits := by
    intro n hlow hhigh
    interval_cases n <;> decide
  rw [← Char.ofNat_toNat c]
  exact hchar c.toNat hlow hhigh

/-! ## Both patterns -/

theorem int?_hourPart1 : ∀ c ∈ asciiDigits, (hourPart [c]).map Int.ofNat = int? [c] :=
  forall_mem_of_all (by decide)

theorem int?_hourPart2 : ∀ p ∈ asciiDigits ×ˢ asciiDigits, ∀ n ∈ hourPart [p.1, p.2],
    int? [p.1, p.2] = some (Int.ofNat n) :=
  forall_mem_of_all (by decide)

theorem int?_minutePart : ∀ p ∈ asciiDigits ×ˢ asciiDigits, ∀ n ∈ minutePart [p.1, p.2],
    int? [p.1, p.2] = some (Int.ofNat n) :=
  forall_mem_of_all (by decide)

theorem hourPart_cases {s : List Char} {hour : Nat} (h : hourPart s = some hour) :
    (∃ c, s = [c]) ∨ ∃ c c', s = [c, c'] := by
  match s with
  | [c] => exact .inl ⟨c, rfl⟩
  | [c, c'] => exact .inr ⟨c, c', rfl⟩
  | [] => cases h
  | _ :: _ :: _ :: _ => cases h

theorem minutePart_cases {s : List Char} {minute : Nat} (h : minutePart s = some minute) :
    ∃ c c', s = [c, c'] := by
  match s with
  | [c, c'] => exact ⟨c, c', rfl⟩
  | [] => cases h
  | [_] => cases h
  | _ :: _ :: _ :: _ => cases h

theorem isDigit_of_isSchedulerMinute {m m' : Char} (h : isSchedulerMinute m m' = true) :
    m.isDigit = true ∧ m'.isDigit = true := by
  simp only [isSchedulerMinute, Bool.and_eq_true, decide_eq_true_eq] at h
  have hfirst : ∀ c ∈ ['0', '1', '2', '3', '4', '5'], c.isDigit = true :=
    forall_mem_of_all (by decide)
  exact ⟨hfirst m h.1, h.2⟩

theorem int?_of_matches {hour minute : List Char} {h m : Nat}
    (hmatches : matchesSchedulerTime (hour ++ ':' :: minute) = true)
    (hhour : hourPart hour = some h) (hminute : minutePart minute = some m) :
    int? hour = some (h : Int) ∧ int? minute = some (m : Int) := by
  obtain ⟨d, d', rfl⟩ := minutePart_cases hminute
  obtain ⟨c, rfl⟩ | ⟨c, c', rfl⟩ := hourPart_cases hhour
  · simp only [List.cons_append, List.nil_append, matchesSchedulerTime,
      Bool.and_eq_true] at hmatches
    obtain ⟨hc, hminutes⟩ := hmatches
    obtain ⟨hd, hd'⟩ := isDigit_of_isSchedulerMinute hminutes
    have hone := int?_hourPart1 c (mem_asciiDigits hc)
    rw [hhour] at hone
    exact ⟨hone.symm, int?_minutePart (d, d')
      (List.mem_product.mpr ⟨mem_asciiDigits hd, mem_asciiDigits hd'⟩) m hminute⟩
  · have hsecond : matchesSchedulerTime [c, c', ':', d, d'] = true →
        (c ∈ asciiDigits ∧ c' ∈ asciiDigits) ∧ isSchedulerMinute d d' = true := by
      have htwo : '2' ∈ asciiDigits ∧ ['0', '1'] ⊆ asciiDigits ∧
          ['0', '1', '2', '3', '4'] ⊆ asciiDigits :=
        ⟨by decide, forall_mem_of_all (by decide), forall_mem_of_all (by decide)⟩
      simp only [matchesSchedulerTime]
      split
      next heq =>
        -- the second character would be a colon, and the first minute one, too
        simp only [List.cons.injEq] at heq
        obtain ⟨-, -, rfl, -⟩ := heq
        exact fun hfirst => absurd hfirst (by simp [isSchedulerMinute])
      next heq =>
        simp only [List.cons.injEq] at heq
        obtain ⟨rfl, rfl, -, rfl, rfl, -⟩ := heq
        simp only [Bool.and_eq_true, Bool.or_eq_true, decide_eq_true_eq]
        rintro ⟨⟨hc, hc'⟩ | ⟨rfl, hc'⟩, hminutes⟩
        · exact ⟨⟨htwo.2.1 hc, mem_asciiDigits hc'⟩, hminutes⟩
        · exact ⟨⟨htwo.1, htwo.2.2 hc'⟩, hminutes⟩
      · exact nofun
    obtain ⟨⟨hc, hc'⟩, hminutes⟩ := hsecond hmatches
    obtain ⟨hd, hd'⟩ := isDigit_of_isSchedulerMinute hminutes
    exact ⟨int?_hourPart2 (c, c') (List.mem_product.mpr ⟨hc, hc'⟩) h hhour,
      int?_minutePart (d, d') (List.mem_product.mpr ⟨mem_asciiDigits hd, mem_asciiDigits hd'⟩) m
        hminute⟩

/-- A time that both patterns accept. -/
theorem schedulerMinutes?_of_timeToMinutes {timeStr : String} {n : Nat} {m : Int}
    (hn : timeToMinutes timeStr = some n) (hm : schedulerMinutes? timeStr = some m) : m = n := by
  rw [timeToMinutes] at hn
  split at hn
  next hmax =>
    subst hmax
    have hmax : schedulerMinutes? "24:00" = some 1440 := by decide
    obtain rfl := Option.some.inj hn
    exact Option.some.inj (hm.symm.trans hmax)
  next =>
    obtain ⟨⟨hour, minute⟩, htime, rfl⟩ := Option.map_eq_some_iff.mp hn
    obtain ⟨⟨h, m⟩, hsplit, htime⟩ := Option.bind_eq_some_iff.mp htime
    obtain ⟨hour', hhour, htime⟩ := Option.bind_eq_some_iff.mp htime
    obtain ⟨minute', hminute, heq⟩ := Option.map_eq_some_iff.mp htime
    obtain ⟨rfl, rfl⟩ := Prod.mk.inj heq
    rw [schedulerMinutes?, Option.ite_none_right_eq_some, hsplit, Option.bind_some,
      Option.ite_none_left_eq_some, of_split1 hsplit] at hm
    obtain ⟨hmatches, -, hparts⟩ := hm
    obtain ⟨hint, hint'⟩ := int?_of_matches hmatches hhour hminute
    rw [hint, hint', Option.bind_some, Option.map_some] at hparts
    obtain rfl := Option.some.inj hparts
    push_cast
    rfl

theorem timeToMinutes_le {timeStr : String} {n : Nat} (h : timeToMinutes timeStr = some n) :
    n ≤ 1440 := by
  rw [timeToMinutes] at h
  split at h
  · obtain rfl := Option.some.inj h
    exact le_rfl
  · obtain ⟨⟨hour, minute⟩, htime, rfl⟩ := Option.map_eq_some_iff.mp h
    obtain ⟨hhour, hminute⟩ := convertTimeToHourMinute_lt htime
    dsimp only
    omega

/-! ## The text of minutes -/

def timeStr (n : Int) : String := convertHourMinuteToTime (n / 60) (n % 60)

theorem matchesSchedulerTime_decimal2 : ∀ hour < 25, ∀ minute < 60,
    matchesSchedulerTime (decimal2 (hour : Nat) ++ ':' :: decimal2 (minute : Nat)) = true := by
  decide

theorem decimal2_lt : ∀ n < 60,
    ':' ∉ decimal2 (n : Nat) ∧ int? (decimal2 (n : Nat)) = some (n : Int) := by
  decide

theorem lt_of_inDay {n : Int} (h : 0 ≤ n ∧ n ≤ 1440) : 0 ≤ n ∧ n < 1500 := by
  omega

/-- The hour and the minute of a time; the pattern goes on to 24:59. -/
theorem hour_minute {n : Int} (h : 0 ≤ n ∧ n < 1500) :
    ∃ hour minute : Nat, hour < 25 ∧ minute < 60 ∧ n / 60 = hour ∧ n % 60 = minute ∧
      n = hour * 60 + minute := by
  refine ⟨(n / 60).toNat, (n % 60).toNat, ?_, ?_, ?_, ?_, ?_⟩ <;> omega

theorem convertMinutesToTimeStr_of_mem {n : Int} (h : 0 ≤ n ∧ n < 1500) :
    convertMinutesToTimeStr n = .ok (timeStr n) := by
  obtain ⟨hour, minute, hhour, hminute, hn, hn', -⟩ := hour_minute h
  have hmatches := matchesSchedulerTime_decimal2 hour hhour minute hminute
  simp only [convertMinutesToTimeStr, timeStr, convertHourMinuteToTime, hn, hn',
    String.toList_ofList, hmatches, if_true]

theorem schedulerMinutes?_timeStr {n : Int} (h : 0 ≤ n ∧ n < 1500) :
    schedulerMinutes? (timeStr n) = some n := by
  obtain ⟨hour, minute, hhour, hminute, hn, hn', heq⟩ := hour_minute h
  have hmatches := matchesSchedulerTime_decimal2 hour hhour minute hminute
  obtain ⟨hcolon, hint⟩ := decimal2_lt hour (by omega)
  obtain ⟨hcolon', hint'⟩ := decimal2_lt minute hminute
  have hsplit := split1_append hcolon (decimal2 (minute : Nat))
  simp only [schedulerMinutes?, timeStr, convertHourMinuteToTime, hn, hn', String.toList_ofList,
    hmatches, if_true, hsplit, Option.bind_some, if_neg hcolon', hint, hint', Option.map_some]
  rw [heq]

theorem timeToMinutes_timeStr {n : Int} (h : 0 ≤ n ∧ n ≤ 1440) :
    timeToMinutes (timeStr n) = some n.toNat := by
  rw [timeToMinutes]
  split
  next hmax =>
    have hminutes := schedulerMinutes?_timeStr (lt_of_inDay h)
    have hlast : schedulerMinutes? "24:00" = some 1440 := by decide
    rw [hmax, hlast] at hminutes
    obtain rfl := Option.some.inj hminutes
    rfl
  next hne =>
    obtain ⟨hour, minute, hhour, hminute, hn, hn', heq⟩ := hour_minute (lt_of_inDay h)
    have hlast : hour ≠ 24 := by
      rintro rfl
      have hn : n = 1440 := by omega
      subst hn
      exact hne (by decide)
    rw [timeStr, hn, hn', convertTimeToHourMinute_time (by omega) hminute, Option.map_some,
      Option.some.injEq]
    omega

/-! ## End times -/

/-- A text with a colon is no number. -/
theorem endtimeToMinutes_of_colon {endtime : String} (h : ':' ∈ endtime.toList) :
    endtimeToMinutes (.text endtime) = convertTimeStrToMinutes endtime := by
  have hdigits : ¬ (endtime.toList ≠ [] ∧ endtime.toList.all isDigit = true) := fun hall =>
    absurd (List.all_eq_true.mp hall.2 ':' h) (by decide)
  rw [endtimeToMinutes, if_neg hdigits]

theorem endtimeToMinutes_text {endtime : String} {n : Int}
    (h : schedulerMinutes? endtime = some n) : endtimeToMinutes (.text endtime) = .ok n := by
  have hcolon : ':' ∈ endtime.toList := by
    rw [schedulerMinutes?, Option.ite_none_right_eq_some] at h
    obtain ⟨⟨hour, minute⟩, hsplit, -⟩ := Option.bind_eq_some_iff.mp h.2
    rw [of_split1 hsplit]
    simp
  rw [endtimeToMinutes_of_colon hcolon, convertTimeStrToMinutes, h]
  rfl

/-- The end of a period is read with the pattern of the tables. -/
theorem schedulerMinutes?_of_endtimeToMinutes {endtime : String} {n : Nat} {m : Int}
    (hn : timeToMinutes endtime = some n) (hm : endtimeToMinutes (.text endtime) = .ok m) :
    schedulerMinutes? endtime = some m := by
  have hcolon : ':' ∈ endtime.toList := by
    rw [timeToMinutes] at hn
    split at hn
    next hmax =>
      subst hmax
      decide
    next =>
      obtain ⟨⟨hour, minute⟩, htime, -⟩ := Option.map_eq_some_iff.mp hn
      obtain ⟨⟨h, m⟩, hsplit, -⟩ := Option.bind_eq_some_iff.mp htime
      rw [of_split1 hsplit]
      simp
  rw [endtimeToMinutes_of_colon hcolon, convertTimeStrToMinutes] at hm
  cases hminutes : schedulerMinutes? endtime with
  | none =>
    rw [hminutes] at hm
    cases hm
  | some m' =>
    rw [hminutes] at hm
    exact congrArg some (Except.ok.inj hm)

end AioHomematic.Model
