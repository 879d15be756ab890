import Mathlib.Algebra.Order.Field.Rat
import Mathlib.Data.Rat.Floor
import Mathlib.Tactic.Linarith
import Mathlib.Tactic.NormNum
import Mathlib.Tactic.Ring

/-!
# Timers with a unit

The timer of a data point (`set_timer_on_time`, `get_and_start_timer`), its way through
`CustomDpDimmer.turn_on`, and `CombinedDpTimerAction.send_value`, which sends a time in seconds as a
unit and a value. Times are rational numbers of seconds; a time of the clock counts from the start.

`recalc_unit_timer` knows a timer that is not used by the number 111600, which is a duration as
well: `sendValue_duration_iff` says which durations are sent as what they are.
-/

namespace AioHomematic.Model

/-! ## The timer of a data point -/

/-- The timer of a `BaseDataPoint`. An end of `none` is `INIT_DATETIME`. -/
structure OnTimer where
  timerOnTime : Option ℚ := none
  timerOnTimeEnd : Option ℚ := none
deriving DecidableEq

namespace OnTimer

def timerOnTimeRunning (now : ℚ) (timer : OnTimer) : Bool :=
  timer.timerOnTimeEnd.any (now ≤ ·)

def setTimerOnTime (onTime : ℚ) (_ : OnTimer) : OnTimer := { timerOnTime := some onTime }

def resetTimerOnTime (_ : OnTimer) : OnTimer := {}

def getAndStartTimer (now : ℚ) (timer : OnTimer) : Option ℚ × OnTimer :=
  if timer.timerOnTimeRunning now ∧ timer.timerOnTime.any (· ≤ 0) then
    (some (-1), timer.resetTimerOnTime)
  else match timer.timerOnTime with
    | none => (none, timer.resetTimerOnTime)
    | some onTime => (some onTime, { timerOnTimeEnd := some (now + onTime) })

/-- A time that waits for its start has no end yet. -/
def Waiting (timer : OnTimer) : Prop := timer.timerOnTime.isSome → timer.timerOnTimeEnd = none

theorem waiting_set (onTime : ℚ) (timer : OnTimer) : (timer.setTimerOnTime onTime).Waiting :=
  fun _ => rfl

theorem waiting_reset (timer : OnTimer) : timer.resetTimerOnTime.Waiting := fun _ => rfl

theorem waiting_getAndStart (now : ℚ) (timer : OnTimer) :
    (timer.getAndStartTimer now).2.Waiting := by
  unfold getAndStartTimer
  split
  · exact waiting_reset timer
  · cases timer.timerOnTime with
    | none => exact waiting_reset timer
    | some onTime => exact fun h => absurd h (by simp)

/-- A timer starts with the time that was set: the answer for a timer that is over and still runs is
never given. -/
theorem getAndStart_fst {timer : OnTimer} (h : timer.Waiting) (now : ℚ) :
    (timer.getAndStartTimer now).1 = timer.timerOnTime := by
  unfold getAndStartTimer
  cases ht : timer.timerOnTime with
  | none => simp
  | some onTime =>
    have hend : timer.timerOnTimeEnd = none := h (by simp [ht])
    simp [timerOnTimeRunning, hend]

end OnTimer

/-! ## Units -/

inductive TimeUnit where
  | seconds
  | minutes
  | hours
deriving DecidableEq

namespace TimeUnit

/-- What a device counts in the unit, in seconds. -/
def length : TimeUnit → ℚ
  | seconds => 1
  | minutes => 60
  | hours => 3600

end TimeUnit

/-- `_TIMER_NOT_USED`, and `_NOT_USED` of the lights. -/
def timerNotUsed : ℚ := 111600

/-- `_TIME_UNIT_THRESHOLD`. -/
def timeUnitThreshold : ℚ := 16343

/-- `recalc_unit_timer`. Durations are exact numbers here; the rounding of floats is left out. -/
def recalcUnitTimer (time : ℚ) : ℚ × TimeUnit :=
  if time = timerNotUsed then (time, .hours)
  else
    let (time, timeUnit) :=
      if timeUnitThreshold < time then (time / 60, TimeUnit.minutes) else (time, .seconds)
    if timeUnitThreshold < time then (time / 60, .hours) else (time, timeUnit)

/-- The duration that a value stands for in its unit. -/
def duration (sent : ℚ × TimeUnit) : ℚ := sent.1 * sent.2.length

/-- What tells a device that a timer is not used. -/
def notUsedMarker : ℚ × TimeUnit := (timerNotUsed, .hours)

theorem recalcUnitTimer_notUsed : recalcUnitTimer timerNotUsed = notUsedMarker := by
  simp [recalcUnitTimer, notUsedMarker]

theorem recalcUnitTimer_seconds {time : ℚ} (h : time ≤ timeUnitThreshold) :
    recalcUnitTimer time = (time, .seconds) := by
  have hne : time ≠ timerNotUsed := by
    rintro rfl
    norm_num [timerNotUsed, timeUnitThreshold] at h
  simp [recalcUnitTimer, hne, not_lt.mpr h]

theorem recalcUnitTimer_minutes {time : ℚ} (hne : time ≠ timerNotUsed)
    (hlow : timeUnitThreshold < time) (hhigh : time / 60 ≤ timeUnitThreshold) :
    recalcUnitTimer time = (time / 60, .minutes) := by
  simp [recalcUnitTimer, hne, hlow, not_lt.mpr hhigh]

theorem recalcUnitTimer_hours {time : ℚ} (hne : time ≠ timerNotUsed)
    (hlow : timeUnitThreshold < time) (hhigh : timeUnitThreshold < time / 60) :
    recalcUnitTimer time = (time / 60 / 60, .hours) := by
  simp [recalcUnitTimer, hne, hlow, hhigh]

/-- The three ranges of times other than the marker's number. -/
theorem recalcUnitTimer_cases {time : ℚ} (hne : time ≠ timerNotUsed) :
    (time ≤ timeUnitThreshold ∧ recalcUnitTimer time = (time, .seconds)) ∨
    (time / 60 ≤ timeUnitThreshold ∧ recalcUnitTimer time = (time / 60, .minutes)) ∨
    (timeUnitThreshold < time / 60 ∧ recalcUnitTimer time = (time / 60 / 60, .hours)) := by
  rcases le_or_gt time timeUnitThreshold with hlow | hlow
  · exact .inl ⟨hlow, recalcUnitTimer_seconds hlow⟩
  rcases le_or_gt (time / 60) timeUnitThreshold with hhigh | hhigh
  · exact .inr (.inl ⟨hhigh, recalcUnitTimer_minutes hne hlow hhigh⟩)
  · exact .inr (.inr ⟨hhigh, recalcUnitTimer_hours hne hlow hhigh⟩)

theorem duration_recalcUnitTimer {time : ℚ} (hne : time ≠ timerNotUsed) :
    duration (recalcUnitTimer time) = time := by
  rcases recalcUnitTimer_cases hne with ⟨-, h⟩ | ⟨-, h⟩ | ⟨-, h⟩
  · rw [h, duration, TimeUnit.length, mul_one]
  · rw [h, duration, TimeUnit.length]
    ring
  · rw [h, duration, TimeUnit.length]
    ring

/-- A value is above the threshold only in the largest unit. -/
theorem lt_of_threshold_lt {time : ℚ} (hne : time ≠ timerNotUsed)
    (h : timeUnitThreshold < (recalcUnitTimer time).1) : timeUnitThreshold * 3600 < time := by
  rcases recalcUnitTimer_cases hne with ⟨hle, heq⟩ | ⟨hle, heq⟩ | ⟨-, heq⟩
  · rw [heq] at h
    exact absurd hle (not_le.mpr h)
  · rw [heq] at h
    exact absurd hle (not_le.mpr h)
  · rw [heq] at h
    simp only [timeUnitThreshold] at h ⊢
    linarith

/-- The marker is also what a duration of as many hours is sent as. -/
theorem recalcUnitTimer_eq_marker_iff {time : ℚ} (hne : time ≠ timerNotUsed) :
    recalcUnitTimer time = notUsedMarker ↔ time = timerNotUsed * 3600 := by
  constructor
  · intro h
    have := duration_recalcUnitTimer hne
    rw [h] at this
    exact this.symm
  · rintro rfl
    rw [recalcUnitTimer_hours hne (by norm_num [timeUnitThreshold, timerNotUsed])
      (by norm_num [timeUnitThreshold, timerNotUsed]), notUsedMarker]
    norm_num [timerNotUsed]

/-! ## Sending -/

/-- A value on its way to one of the two data points. -/
inductive TimerSend where
  | unit (timeUnit : TimeUnit)
  | value (value : ℚ)
deriving DecidableEq

structure CombinedDpTimerAction where
  /-- The unit data point is not a dummy. -/
  hasUnit : Bool
  currentValue : Option ℚ := none
deriving DecidableEq

namespace CombinedDpTimerAction

def sendValue (value : ℚ) (dp : CombinedDpTimerAction) :
    List TimerSend × CombinedDpTimerAction :=
  let sends :=
    if dp.hasUnit then
      let (convertedValue, timeUnit) := recalcUnitTimer value
      [.unit timeUnit, .value convertedValue]
    else [.value value]
  (sends, { dp with currentValue := some value })

theorem sendValue_unit {dp : CombinedDpTimerAction} (h : dp.hasUnit = true) (value : ℚ) :
    (dp.sendValue value).1 =
      [.unit (recalcUnitTimer value).2, .value (recalcUnitTimer value).1] := by
  simp [sendValue, h]

end CombinedDpTimerAction

/-- What is sent for a duration says this duration, in a range of values that only durations beyond
the largest unit leave, and is not the marker. -/
structure SentFor (time : ℚ) (sent : ℚ × TimeUnit) : Prop where
  duration : duration sent = time
  inRange : timeUnitThreshold < sent.1 → timeUnitThreshold * 3600 < time
  used : sent ≠ notUsedMarker

theorem sentFor_recalcUnitTimer_iff (time : ℚ) :
    SentFor time (recalcUnitTimer time) ↔
      time ≠ timerNotUsed ∧ time ≠ timerNotUsed * 3600 := by
  constructor
  · intro h
    have hne : time ≠ timerNotUsed := by
      rintro rfl
      exact h.used recalcUnitTimer_notUsed
    exact ⟨hne, fun heq => h.used ((recalcUnitTimer_eq_marker_iff hne).mpr heq)⟩
  · rintro ⟨hne, hhours⟩
    exact
      { duration := duration_recalcUnitTimer hne
        inRange := lt_of_threshold_lt hne
        used := fun h => hhours ((recalcUnitTimer_eq_marker_iff hne).mp h) }

/-- Two durations are sent as what they are, in their order, exactly when neither is the number of
the marker, in seconds or in hours. -/
theorem sendValue_duration_iff {dp : CombinedDpTimerAction} (hunit : dp.hasUnit = true)
    (time₁ time₂ : ℚ) :
    (∃ unit₁ value₁ unit₂ value₂,
      (dp.sendValue time₁).1 = [.unit unit₁, .value value₁] ∧
      (dp.sendValue time₂).1 = [.unit unit₂, .value value₂] ∧
      SentFor time₁ (value₁, unit₁) ∧ SentFor time₂ (value₂, unit₂) ∧
      (time₁ ≤ time₂ → duration (value₁, unit₁) ≤ duration (value₂, unit₂))) ↔
      ∀ time ∈ [time₁, time₂], time ≠ timerNotUsed ∧ time ≠ timerNotUsed * 3600 := by
  simp only [List.forall_mem_cons, ← sentFor_recalcUnitTimer_iff]
  constructor
  · rintro ⟨unit₁, value₁, unit₂, value₂, h₁, h₂, hsent₁, hsent₂, -⟩
    rw [CombinedDpTimerAction.sendValue_unit hunit] at h₁ h₂
    simp only [List.cons.injEq, TimerSend.unit.injEq, TimerSend.value.injEq, and_true] at h₁ h₂
    obtain ⟨rfl, rfl⟩ := h₁
    obtain ⟨rfl, rfl⟩ := h₂
    exact ⟨hsent₁, hsent₂, by simp⟩
  · rintro ⟨hsent₁, hsent₂, -⟩
    refine ⟨_, _, _, _, CombinedDpTimerAction.sendValue_unit hunit _,
      CombinedDpTimerAction.sendValue_unit hunit _, hsent₁, hsent₂, fun hle => ?_⟩
    rw [hsent₁.duration, hsent₂.duration]
    exact hle

/-- Five hours and a day. -/
theorem sendValue_duration_hours :
    ∃ unit₁ value₁ unit₂ value₂,
      (CombinedDpTimerAction.sendValue 18000 { hasUnit := true }).1 = [.unit unit₁, .value value₁] ∧
      (CombinedDpTimerAction.sendValue 86400 { hasUnit := true }).1 = [.unit unit₂, .value value₂] ∧
      SentFor 18000 (value₁, unit₁) ∧ SentFor 86400 (value₂, unit₂) ∧
      ((18000 : ℚ) ≤ 86400 → duration (value₁, unit₁) ≤ duration (value₂, unit₂)) :=
  (@sendValue_duration_iff { hasUnit := true } rfl 18000 86400).mpr
    (by norm_num [timerNotUsed])

/-- 31 hours are sent as the marker, which says 111600 hours to a reader of values and units, and
more than a day later does. -/
theorem not_sendValue_duration_marker :
    (CombinedDpTimerAction.sendValue 111600 { hasUnit := true }).1 =
        [.unit .hours, .value 111600] ∧
      ¬ SentFor 111600 (111600, .hours) ∧
      (CombinedDpTimerAction.sendValue 111601 { hasUnit := true }).1 =
        [.unit .minutes, .value (111601 / 60)] ∧
      duration (111601 / 60, .minutes) < duration (111600, .hours) := by
  refine ⟨?_, fun h => ?_, ?_, ?_⟩
  · rw [CombinedDpTimerAction.sendValue_unit rfl]
    exact congrArg (fun sent => [TimerSend.unit sent.2, .value sent.1]) recalcUnitTimer_notUsed
  · exact h.used (by norm_num [notUsedMarker, timerNotUsed])
  · rw [CombinedDpTimerAction.sendValue_unit rfl, recalcUnitTimer_minutes
      (by norm_num [timerNotUsed]) (by norm_num [timeUnitThreshold])
      (by norm_num [timeUnitThreshold])]
  · norm_num [duration, TimeUnit.length]

/-! ## The value data point -/

/-- `DpActionFloat` and `DpActionInteger`. -/
inductive NumberType where
  | float
  | integer
deriving DecidableEq

/-- The conversion before a value is sent, which is not validated here. -/
def NumberType.convert : NumberType → ℚ → ℚ
  | float, value => value
  | integer, value => (if 0 ≤ value then ⌊value⌋ else ⌈value⌉ : ℤ)

theorem TimeUnit.length_pos (timeUnit : TimeUnit) : 0 < timeUnit.length := by
  cases timeUnit <;> norm_num [length]

/-- What an integer data point makes of a value is less than one unit too short. -/
theorem duration_convert {value : ℚ} (h : 0 ≤ value) (numberType : NumberType)
    (timeUnit : TimeUnit) :
    duration (numberType.convert value, timeUnit) ≤ duration (value, timeUnit) ∧
      duration (value, timeUnit) <
        duration (numberType.convert value, timeUnit) + timeUnit.length := by
  have hpos := timeUnit.length_pos
  cases numberType with
  | float => exact ⟨le_rfl, lt_add_of_pos_right _ hpos⟩
  | integer =>
    have hle : (⌊value⌋ : ℚ) ≤ value := Int.floor_le value
    have hlt : value < ⌊value⌋ + 1 := Int.lt_floor_add_one value
    simp only [NumberType.convert, if_pos h, duration]
    constructor
    · exact mul_le_mul_of_nonneg_right hle hpos.le
    · have := mul_lt_mul_of_pos_right hlt hpos
      linarith

/-! ## The timers of a light -/

structure LightOnArgs where
  onTime : Option ℚ := none
  rampTime : Option ℚ := none
deriving DecidableEq

/-- The timers of a `CustomDpDimmer`. -/
structure DimmerTimers where
  timer : OnTimer := {}
  dpOnTime : CombinedDpTimerAction
  dpRampTime : CombinedDpTimerAction
  resetsOnTimeOnTurnOn : Bool := false
deriving DecidableEq

/-- What goes to the timers of the on time and of the ramp time, in this order. -/
abbrev DimmerSends := List TimerSend × List TimerSend

namespace DimmerTimers

/-- `is_state_change` of a `turn_on`; `other` is what the light's state and the other arguments
say. -/
def isStateChange (now : ℚ) (args : LightOnArgs) (other : Bool) (d : DimmerTimers) : Bool :=
  d.timer.timerOnTimeRunning now || d.timer.timerOnTime.isSome || args.onTime.isSome ||
    args.rampTime.isSome || other

def takeOnTime (args : LightOnArgs) (d : DimmerTimers) : DimmerTimers :=
  args.onTime.elim d fun onTime => { d with timer := d.timer.setTimerOnTime onTime }

/-- What becomes of the on time, with what `get_and_start_timer` gave. -/
def sendOnTime (started : Option ℚ) (d : DimmerTimers) : List TimerSend × CombinedDpTimerAction :=
  match started with
  | some time => d.dpOnTime.sendValue time
  | none =>
    if d.resetsOnTimeOnTurnOn && d.dpOnTime.hasUnit then d.dpOnTime.sendValue timerNotUsed
    else ([], d.dpOnTime)

/-- A ramp time of 0 counts as none. -/
def sendRampTime (args : LightOnArgs) (d : DimmerTimers) :
    List TimerSend × CombinedDpTimerAction :=
  match args.rampTime with
  | some time => if time = 0 then ([], d.dpRampTime) else d.dpRampTime.sendValue time
  | none => ([], d.dpRampTime)

def turnOn (now : ℚ) (args : LightOnArgs) (other : Bool) (d : DimmerTimers) :
    DimmerSends × DimmerTimers :=
  let d := d.takeOnTime args
  if !d.isStateChange now args other then (([], []), d)
  else
    let (started, timer) := d.timer.getAndStartTimer now
    let (onTimeSends, dpOnTime) := d.sendOnTime started
    let (rampTimeSends, dpRampTime) := d.sendRampTime args
    ((onTimeSends, rampTimeSends), { d with timer, dpOnTime, dpRampTime })

/-- The on time that a `turn_on` asks for: the argument, or the time that was set before. -/
def requestedOnTime (args : LightOnArgs) (d : DimmerTimers) : Option ℚ :=
  args.onTime <|> d.timer.timerOnTime

theorem takeOnTime_timerOnTime (args : LightOnArgs) (d : DimmerTimers) :
    (d.takeOnTime args).timer.timerOnTime = d.requestedOnTime args := by
  cases h : args.onTime <;> simp [takeOnTime, requestedOnTime, h, OnTimer.setTimerOnTime]

theorem waiting_takeOnTime {d : DimmerTimers} (h : d.timer.Waiting) (args : LightOnArgs) :
    (d.takeOnTime args).timer.Waiting := by
  cases harg : args.onTime with
  | none => simpa [takeOnTime, harg] using h
  | some onTime => simpa [takeOnTime, harg] using OnTimer.waiting_set onTime d.timer

@[simp] theorem takeOnTime_dpOnTime (args : LightOnArgs) (d : DimmerTimers) :
    (d.takeOnTime args).dpOnTime = d.dpOnTime := by
  cases h : args.onTime <;> simp [takeOnTime, h]

@[simp] theorem takeOnTime_resets (args : LightOnArgs) (d : DimmerTimers) :
    (d.takeOnTime args).resetsOnTimeOnTurnOn = d.resetsOnTimeOnTurnOn := by
  cases h : args.onTime <;> simp [takeOnTime, h]

@[simp] theorem takeOnTime_dpRampTime (args : LightOnArgs) (d : DimmerTimers) :
    (d.takeOnTime args).dpRampTime = d.dpRampTime := by
  cases h : args.onTime <;> simp [takeOnTime, h]

theorem turnOn_of_not_isStateChange {now : ℚ} {args : LightOnArgs} {other : Bool}
    {d : DimmerTimers} (h : (d.takeOnTime args).isStateChange now args other = false) :
    d.turnOn now args other = (([], []), d.takeOnTime args) := by
  simp [turnOn, h]

theorem turnOn_of_isStateChange {now : ℚ} {args : LightOnArgs} {other : Bool} {d : DimmerTimers}
    (h : (d.takeOnTime args).isStateChange now args other = true) :
    (d.turnOn now args other).1 =
        (((d.takeOnTime args).sendOnTime ((d.takeOnTime args).timer.getAndStartTimer now).1).1,
          ((d.takeOnTime args).sendRampTime args).1) ∧
      (d.turnOn now args other).2.timer =
        ((d.takeOnTime args).timer.getAndStartTimer now).2 := by
  simp [turnOn, h]

/-- The on time that is asked for is sent as it is. -/
theorem turnOn_onTime {d : DimmerTimers} (hw : d.timer.Waiting) {args : LightOnArgs} {time : ℚ}
    (h : d.requestedOnTime args = some time) (now : ℚ) (other : Bool) :
    (d.turnOn now args other).1.1 = (d.dpOnTime.sendValue time).1 := by
  have htimer : (d.takeOnTime args).timer.timerOnTime = some time := by
    rw [takeOnTime_timerOnTime, h]
  have hchange : (d.takeOnTime args).isStateChange now args other = true := by
    simp [isStateChange, htimer]
  have hstart : ((d.takeOnTime args).timer.getAndStartTimer now).1 = some time := by
    rw [OnTimer.getAndStart_fst (waiting_takeOnTime hw args), htimer]
  rw [(turnOn_of_isStateChange hchange).1, hstart, sendOnTime, takeOnTime_dpOnTime]

/-- So is the ramp time. -/
theorem turnOn_rampTime (d : DimmerTimers) {args : LightOnArgs} {time : ℚ}
    (h : args.rampTime = some time) (h0 : time ≠ 0) (now : ℚ) (other : Bool) :
    (d.turnOn now args other).1.2 = (d.dpRampTime.sendValue time).1 := by
  have hchange : (d.takeOnTime args).isStateChange now args other = true := by
    simp [isStateChange, h]
  rw [(turnOn_of_isStateChange hchange).1, sendRampTime, h, takeOnTime_dpRampTime]
  exact congrArg Prod.fst (if_neg h0)

/-- Without an on time, only a light that resets it sends something: that the timer is not used. -/
theorem turnOn_notUsed {d : DimmerTimers} (hw : d.timer.Waiting) {args : LightOnArgs}
    (h : d.requestedOnTime args = none) (now : ℚ) (other : Bool) :
    (d.turnOn now args other).1.1 = [] ∨
      d.resetsOnTimeOnTurnOn = true ∧
        (d.turnOn now args other).1.1 = [.unit notUsedMarker.2, .value notUsedMarker.1] := by
  have hstart : ((d.takeOnTime args).timer.getAndStartTimer now).1 = none := by
    rw [OnTimer.getAndStart_fst (waiting_takeOnTime hw args), takeOnTime_timerOnTime, h]
  cases hchange : (d.takeOnTime args).isStateChange now args other with
  | false => exact .inl (by rw [turnOn_of_not_isStateChange hchange])
  | true =>
    rw [(turnOn_of_isStateChange hchange).1, hstart, sendOnTime, takeOnTime_resets,
      takeOnTime_dpOnTime]
    cases hreset : d.resetsOnTimeOnTurnOn && d.dpOnTime.hasUnit with
    | false => exact .inl rfl
    | true =>
      obtain ⟨hreset, hunit⟩ := Bool.and_eq_true_iff.mp hreset
      refine .inr ⟨hreset, ?_⟩
      rw [if_pos rfl, CombinedDpTimerAction.sendValue_unit hunit, recalcUnitTimer_notUsed]

theorem waiting_turnOn {d : DimmerTimers} (hw : d.timer.Waiting) (now : ℚ) (args : LightOnArgs)
    (other : Bool) : (d.turnOn now args other).2.timer.Waiting := by
  cases hchange : (d.takeOnTime args).isStateChange now args other with
  | false =>
    rw [turnOn_of_not_isStateChange hchange]
    exact waiting_takeOnTime hw args
  | true =>
    rw [(turnOn_of_isStateChange hchange).2]
    exact OnTimer.waiting_getAndStart now (d.takeOnTime args).timer

end DimmerTimers

end AioHomematic.Model
