import AioHomematic.Client.InterfaceClient
import AioHomematic.Model.Optimistic

/-!
# Data points

`BaseParameterDataPoint` and `GenericDataPoint` as far as they keep values: the
value the backend has confirmed, the unconfirmed value of a data point that is
polled, and the optimistic value. `ParameterInfo` is what does not change over
the life of a data point. The conversion of raw values (`R`) to values of the
parameter (`P`, or `None`) and the preparation of an input differ from one kind
of data point to the next, and no function here depends on what they do.

`sendValue` is a direct send up to `await set_value(...)`, `sendValueEnded` the
rest of it. The published update events, the follow-ups of a changed value
(`CONFIG_PENDING`, `UN_REACH`) and the log lines are left out.
-/

namespace AioHomematic.Model

open Client

/-- `INIT_DATETIME`, from which times are counted. -/
def initDatetime : Nat := 0

/-- What the value caches answer: a value, or `NO_CACHE_ENTRY`. -/
inductive CacheEntry (R : Type*) where
  | noCacheEntry
  | entry (value : R)
deriving DecidableEq

structure ParameterInfo (R P : Type*) where
  dpk : DataPointKey
  /-- The category is one of `ACTION_DATA_POINT_CATEGORIES`. -/
  isAction : Bool := false
  hasEvents : Bool := true
  isWritable : Bool := true
  /-- `capabilities.rpc_callback` of the client. -/
  rpcCallback : Bool := true
  retryable : Bool := true
  validateStateChange : Bool := true
  default : Option P := none
  convertValue : R → Option P
  /-- `_prepare_value_for_sending`; `none` where it raises `ValueError` or
  `ValidationException`. -/
  prepareValueForSending : (doValidate : Bool) → R → Option R := fun _ value => some value

structure DataPoint (R P : Type*) where
  info : ParameterInfo R P
  currentValue : Option P := none
  lastNonDefaultValue : Option P := none
  unconfirmedValue : Option P := none
  optimistic : OptimisticValueTracker P := {}
  stateUncertain : Bool := true
  modifiedAt : Nat := initDatetime
  refreshedAt : Nat := initDatetime
  unconfirmedModifiedAt : Nat := initDatetime
  unconfirmedRefreshedAt : Nat := initDatetime

namespace DataPoint

variable {R P : Type*}

/-- `_value`. -/
def storedValue (d : DataPoint R P) : Option P :=
  if d.refreshedAt < d.unconfirmedRefreshedAt then d.unconfirmedValue else d.currentValue

/-- The `value` property: the optimistic value first. Kinds of data points with a `_get_value` of
their own (switches, selects, sensors and others) show the stored value instead. -/
def value (d : DataPoint R P) : Option P :=
  if d.optimistic.isActive then d.optimistic.value else d.storedValue

def isOptimistic (d : DataPoint R P) : Bool := d.optimistic.isActive

/-- The `refreshed_at` property. -/
def lastRefreshedAt (d : DataPoint R P) : Nat :=
  if d.refreshedAt < d.unconfirmedRefreshedAt then d.unconfirmedRefreshedAt else d.refreshedAt

/-! ## Writing values -/

def resetUnconfirmedValue (d : DataPoint R P) : DataPoint R P :=
  { d with
    unconfirmedValue := none
    unconfirmedModifiedAt := initDatetime
    unconfirmedRefreshedAt := initDatetime }

variable [DecidableEq P]

def writeUnconfirmedValue (value : R) (writeAt : Nat) (d : DataPoint R P) : DataPoint R P :=
  let d := d.resetUnconfirmedValue
  let tempValue := d.info.convertValue value
  if d.storedValue = tempValue then
    { d with unconfirmedRefreshedAt := writeAt, unconfirmedValue := tempValue }
  else
    { d with
      unconfirmedModifiedAt := writeAt
      unconfirmedRefreshedAt := writeAt
      stateUncertain := true
      unconfirmedValue := tempValue }

/-- The old and the new value, and the data point afterwards. -/
def writeValue (value : CacheEntry R) (writeAt : Nat) (d : DataPoint R P) :
    (Option P × Option P) × DataPoint R P :=
  let d := d.resetUnconfirmedValue
  let oldValue := d.currentValue
  match value with
  | .noCacheEntry =>
    ((oldValue, none),
      if d.lastRefreshedAt ≠ initDatetime then { d with stateUncertain := true } else d)
  | .entry value =>
    let newValue := d.info.convertValue value
    ((oldValue, newValue),
      if oldValue = newValue then { d with refreshedAt := writeAt, stateUncertain := false }
      else
        { d with
          modifiedAt := writeAt
          refreshedAt := writeAt
          currentValue := newValue
          lastNonDefaultValue :=
            if newValue ≠ d.info.default then newValue else d.lastNonDefaultValue
          stateUncertain := false })

/-! ## Optimistic values -/

/-- Whether `apply_optimistic_value` applies anything: the backend has to confirm it. -/
def appliesOptimistic (i : ParameterInfo R P) : Bool := !i.isAction && i.hasEvents && i.rpcCallback

def applyOptimisticValue (value : Option P) (now : Nat) (d : DataPoint R P) : DataPoint R P :=
  if appliesOptimistic d.info then
    { d with optimistic := (d.optimistic.apply value d.storedValue now).scheduleRollback }
  else d

def rollbackOptimisticValue (d : DataPoint R P) : DataPoint R P :=
  if d.optimistic.isActive then
    { d.resetUnconfirmedValue with
      currentValue := d.optimistic.rollback.1.2
      optimistic := d.optimistic.rollback.2 }
  else d

/-- The rollback timer fires. -/
def rollbackTimeout (d : DataPoint R P) : Option (DataPoint R P) :=
  if d.optimistic.timeoutHandle then
    some { d with optimistic := d.optimistic.cancelTimer }.rollbackOptimisticValue
  else none

/-- The confirmation at the start of `event`. -/
def confirmOptimistic (d : DataPoint R P) : DataPoint R P :=
  if d.optimistic.isActive then
    let optimistic := d.optimistic.confirmOne.2
    { d with optimistic := if d.optimistic.confirmOne.1 then optimistic.clear else optimistic }
  else d

def event (value : R) (receivedAt : Nat) (d : DataPoint R P) : DataPoint R P :=
  (d.confirmOptimistic.writeValue (.entry value) receivedAt).2

/-- The end of `load_data_point_value`. -/
def load (value : CacheEntry R) (writeAt : Nat) (d : DataPoint R P) : DataPoint R P :=
  (d.writeValue value writeAt).2

/-! ## Sending -/

/-- What `send_value` sends for an input, if it sends or collects anything. -/
def convertForSending (value : R) (doValidate : Bool) (d : DataPoint R P) : Option (Option P) :=
  if d.info.isWritable then
    (d.info.prepareValueForSending doValidate value).map d.info.convertValue
  else none

def isStateChange (value : Option P) (d : DataPoint R P) : Bool :=
  value ≠ d.storedValue || d.stateUncertain

/-- The context and the arguments of a direct send, besides its value. -/
structure SendContext where
  doValidate : Bool := true
  retry : Option Bool := none
  priority : CommandPriority := .high
  purgeAddresses : List String := []
  now : Nat := initDatetime

def sendRequest (converted : Option P) (ctx : SendContext) (d : DataPoint R P) :
    Request (Option P) :=
  Request.ofSetValue d.info.dpk.channelAddress d.info.dpk.paramsetKey d.info.dpk.parameter converted
    (some ctx.priority) ctx.purgeAddresses (ctx.retry.getD d.info.retryable)

/-- A direct send: the data point with its optimistic value and the call of `set_value` it waits
for, or `none` where it returns before it has changed anything. -/
def sendValue (value : R) (ctx : SendContext) (d : DataPoint R P) :
    Option (DataPoint R P × Request (Option P)) :=
  match d.convertForSending value ctx.doValidate with
  | none => none
  | some converted =>
    if d.info.validateStateChange && !d.isStateChange converted then none
    else if d.optimistic.isActive && d.optimistic.value = converted then none
    else some (d.applyOptimisticValue converted ctx.now, d.sendRequest converted ctx)

/-- `set_value` has ended: an `Exception` rolls the optimistic value back. -/
def sendValueEnded (result : Except PyException CallResult) (d : DataPoint R P) : DataPoint R P :=
  match result with
  | .ok _ => d
  | .error exc => if exc.cls.isException then d.rollbackOptimisticValue else d

/-! ## What the operations do -/

section Lemmas

variable (d : DataPoint R P)

@[simp] theorem info_writeValue (v : CacheEntry R) (t : Nat) : (d.writeValue v t).2.info = d.info := by
  unfold writeValue
  cases v <;> dsimp only <;> split <;> rfl

@[simp] theorem optimistic_writeValue (v : CacheEntry R) (t : Nat) :
    (d.writeValue v t).2.optimistic = d.optimistic := by
  unfold writeValue
  cases v <;> dsimp only <;> split <;> rfl

@[simp] theorem info_writeUnconfirmedValue (v : R) (t : Nat) :
    (d.writeUnconfirmedValue v t).info = d.info := by
  unfold writeUnconfirmedValue
  dsimp only
  split <;> rfl

@[simp] theorem optimistic_writeUnconfirmedValue (v : R) (t : Nat) :
    (d.writeUnconfirmedValue v t).optimistic = d.optimistic := by
  unfold writeUnconfirmedValue
  dsimp only
  split <;> rfl

@[simp] theorem unconfirmedRefreshedAt_writeValue (v : CacheEntry R) (t : Nat) :
    (d.writeValue v t).2.unconfirmedRefreshedAt = initDatetime := by
  unfold writeValue
  cases v <;> dsimp only <;> split <;> rfl

@[simp] theorem currentValue_writeValue_noCacheEntry (t : Nat) :
    (d.writeValue .noCacheEntry t).2.currentValue = d.currentValue := by
  unfold writeValue
  dsimp only
  split <;> rfl

@[simp] theorem currentValue_writeValue_entry (v : R) (t : Nat) :
    (d.writeValue (.entry v) t).2.currentValue = d.info.convertValue v := by
  unfold writeValue
  dsimp only
  split
  · assumption
  · rfl

omit [DecidableEq P] in
/-- Without an unconfirmed value, the confirmed one is read. -/
theorem storedValue_eq_currentValue {d : DataPoint R P}
    (h : d.unconfirmedRefreshedAt = initDatetime) : d.storedValue = d.currentValue :=
  if_neg (h ▸ Nat.not_lt_zero _)

omit [DecidableEq P] in
theorem value_of_inactive {d : DataPoint R P} (h : d.optimistic.isActive = false) :
    d.value = d.storedValue := by
  rw [value, h]
  rfl

omit [DecidableEq P] in
theorem applyOptimisticValue_of_applies {d : DataPoint R P} (h : appliesOptimistic d.info)
    (v : Option P) (now : Nat) :
    d.applyOptimisticValue v now =
      { d with optimistic := (d.optimistic.apply v d.storedValue now).scheduleRollback } :=
  if_pos h

omit [DecidableEq P] in
@[simp] theorem info_applyOptimisticValue (v : Option P) (now : Nat) :
    (d.applyOptimisticValue v now).info = d.info := by
  unfold applyOptimisticValue
  split <;> rfl

omit [DecidableEq P] in
@[simp] theorem storedValue_applyOptimisticValue (v : Option P) (now : Nat) :
    (d.applyOptimisticValue v now).storedValue = d.storedValue := by
  unfold applyOptimisticValue
  split <;> rfl

omit [DecidableEq P] in
@[simp] theorem info_confirmOptimistic : d.confirmOptimistic.info = d.info := by
  unfold confirmOptimistic
  split <;> rfl

omit [DecidableEq P] in
@[simp] theorem pendingSends_confirmOptimistic :
    d.confirmOptimistic.optimistic.pendingSends =
      if d.optimistic.isActive then d.optimistic.pendingSends - 1
      else d.optimistic.pendingSends := by
  unfold confirmOptimistic
  split
  · dsimp only
    split <;> rfl
  · rfl

omit [DecidableEq P] in
@[simp] theorem isActive_confirmOptimistic :
    d.confirmOptimistic.optimistic.isActive =
      (d.optimistic.isActive && decide (d.optimistic.pendingSends - 1 ≠ 0)) := by
  unfold confirmOptimistic
  cases hactive : d.optimistic.isActive
  · simpa using hactive
  · by_cases hfinal : d.optimistic.pendingSends - 1 = 0
    · simp [hfinal]
    · simp [hfinal, hactive]

omit [DecidableEq P] in
/-- Before the final confirmation, `event` keeps the value to go back to and the timer. -/
theorem confirmOptimistic_of_pending {d : DataPoint R P}
    (h : d.confirmOptimistic.optimistic.pendingSends ≠ 0) :
    d.confirmOptimistic.optimistic.previousValue = d.optimistic.previousValue ∧
      d.confirmOptimistic.optimistic.timeoutHandle = d.optimistic.timeoutHandle := by
  rw [pendingSends_confirmOptimistic] at h
  unfold confirmOptimistic
  split
  · rename_i hactive
    rw [if_pos hactive] at h
    rw [OptimisticValueTracker.confirmOne_fst, decide_eq_false h]
    exact ⟨rfl, rfl⟩
  · exact ⟨rfl, rfl⟩

omit [DecidableEq P] in
/-- The final confirmation cancels the timer. -/
theorem timeoutHandle_confirmOptimistic :
    d.confirmOptimistic.optimistic.timeoutHandle =
      if d.optimistic.isActive = true ∧ d.optimistic.pendingSends - 1 = 0 then false
      else d.optimistic.timeoutHandle := by
  unfold confirmOptimistic
  by_cases hactive : d.optimistic.isActive = true
  · rw [if_pos hactive, OptimisticValueTracker.confirmOne_fst]
    by_cases hfinal : d.optimistic.pendingSends - 1 = 0
    · rw [if_pos ⟨hactive, hfinal⟩, decide_eq_true hfinal]
      rfl
    · rw [if_neg fun h => hfinal h.2, decide_eq_false hfinal]
      rfl
  · rw [if_neg hactive, if_neg fun h => hactive h.1]

@[simp] theorem info_event (v : R) (t : Nat) : (d.event v t).info = d.info := by
  simp [event]

@[simp] theorem optimistic_event (v : R) (t : Nat) :
    (d.event v t).optimistic = d.confirmOptimistic.optimistic :=
  optimistic_writeValue ..

@[simp] theorem currentValue_event (v : R) (t : Nat) :
    (d.event v t).currentValue = d.info.convertValue v := by
  simp [event]

@[simp] theorem unconfirmedRefreshedAt_event (v : R) (t : Nat) :
    (d.event v t).unconfirmedRefreshedAt = initDatetime :=
  unconfirmedRefreshedAt_writeValue ..

omit [DecidableEq P] in
theorem rollbackOptimisticValue_of_inactive {d : DataPoint R P}
    (h : d.optimistic.isActive = false) : d.rollbackOptimisticValue = d :=
  if_neg (h ▸ Bool.false_ne_true)

omit [DecidableEq P] in
@[simp] theorem isActive_rollbackOptimisticValue :
    d.rollbackOptimisticValue.optimistic.isActive = false := by
  unfold rollbackOptimisticValue
  split
  · exact OptimisticValueTracker.isActive_rollback _
  · exact Bool.eq_false_of_not_eq_true ‹_›

omit [DecidableEq P] in
theorem rollbackOptimisticValue_idem :
    d.rollbackOptimisticValue.rollbackOptimisticValue = d.rollbackOptimisticValue :=
  rollbackOptimisticValue_of_inactive (isActive_rollbackOptimisticValue d)

omit [DecidableEq P] in
@[simp] theorem info_rollbackOptimisticValue : d.rollbackOptimisticValue.info = d.info := by
  unfold rollbackOptimisticValue
  split <;> rfl

omit [DecidableEq P] in
/-- A rollback restores the value captured at the start of the burst and forgets its sends. -/
theorem rollbackOptimisticValue_of_active {d : DataPoint R P} (h : d.optimistic.isActive = true) :
    d.rollbackOptimisticValue.currentValue = d.optimistic.previousValue ∧
      d.rollbackOptimisticValue.unconfirmedRefreshedAt = initDatetime ∧
      d.rollbackOptimisticValue.optimistic.pendingSends = 0 ∧
      d.rollbackOptimisticValue.optimistic.timeoutHandle = false := by
  obtain ⟨hvalues, hpending, htimer⟩ := OptimisticValueTracker.rollback_of_active h
  rw [rollbackOptimisticValue, if_pos h]
  exact ⟨by simp [hvalues], rfl, hpending, htimer⟩

omit [DecidableEq P] in
/-- A timeout that rolls nothing back is over all the same. -/
theorem rollbackTimeout_eq {d d' : DataPoint R P} (h : d.rollbackTimeout = some d') :
    d' = if d.optimistic.isActive then d.rollbackOptimisticValue
      else { d with optimistic := d.optimistic.cancelTimer } := by
  unfold rollbackTimeout at h
  split at h
  · cases h
    split
    · rename_i hactive
      have hactive' : d.optimistic.cancelTimer.isActive = true := hactive
      rw [rollbackOptimisticValue, rollbackOptimisticValue, if_pos hactive, if_pos hactive',
        OptimisticValueTracker.rollback_cancelTimer hactive]
      rfl
    · exact if_neg ‹_›
  · cases h

/-- What a direct send does to the data point before it waits for `set_value`. -/
theorem sendValue_eq {d d' : DataPoint R P} {value : R} {ctx : SendContext}
    {request : Request (Option P)} (h : d.sendValue value ctx = some (d', request)) :
    ∃ converted, d.convertForSending value ctx.doValidate = some converted ∧
      d' = d.applyOptimisticValue converted ctx.now ∧ request = d.sendRequest converted ctx := by
  unfold sendValue at h
  split at h
  · cases h
  · rename_i converted hconverted
    refine ⟨converted, hconverted, ?_⟩
    split at h
    · cases h
    · split at h
      · cases h
      · cases h
        exact ⟨rfl, rfl⟩

end Lemmas

end DataPoint

end AioHomematic.Model
