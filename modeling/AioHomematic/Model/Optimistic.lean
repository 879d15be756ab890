import Mathlib.Order.Lattice

/-!
# Optimistic values

`OptimisticValueTracker`: the value a data point shows until the backend has
confirmed what was sent, and the value it goes back to. `None` is a value like
any other to `apply`, which counts it, but a tracker that holds `None` is not
active. `timeoutHandle` says whether a rollback timer is scheduled. Times are
counted from `INIT_DATETIME`.
-/

namespace AioHomematic.Model

structure OptimisticValueTracker (P : Type*) where
  value : Option P := none
  previousValue : Option P := none
  timeoutHandle : Bool := false
  sentAt : Option Nat := none
  pendingSends : Nat := 0
deriving DecidableEq

namespace OptimisticValueTracker

variable {P : Type*}

def isActive (o : OptimisticValueTracker P) : Bool := o.value.isSome

/-- Only the first send of a burst captures the value to go back to. -/
def apply (value currentValue : Option P) (now : Nat) (o : OptimisticValueTracker P) :
    OptimisticValueTracker P :=
  { o with
    previousValue := if o.pendingSends = 0 then currentValue else o.previousValue
    pendingSends := o.pendingSends + 1
    value := value
    sentAt := some now }

def cancelTimer (o : OptimisticValueTracker P) : OptimisticValueTracker P :=
  { o with timeoutHandle := false }

def scheduleRollback (o : OptimisticValueTracker P) : OptimisticValueTracker P :=
  { o.cancelTimer with timeoutHandle := true }

/-- `pending_sends` stays as it is. -/
def clear (o : OptimisticValueTracker P) : OptimisticValueTracker P :=
  cancelTimer { o with value := none, previousValue := none, sentAt := none }

/-- The first component is whether this was the final confirmation. -/
def confirmOne (o : OptimisticValueTracker P) : Bool × OptimisticValueTracker P :=
  (o.pendingSends - 1 = 0, { o with pendingSends := o.pendingSends - 1 })

/-- The rolled back value and the restored one, and the tracker afterwards. -/
def rollback (o : OptimisticValueTracker P) :
    (Option P × Option P) × OptimisticValueTracker P :=
  match o.value with
  | none => ((none, none), o)
  | some value =>
    ((some value, o.previousValue),
      cancelTimer { o with value := none, sentAt := none, pendingSends := 0, previousValue := none })

/-! ## What the operations do -/

variable (o : OptimisticValueTracker P)

@[simp] theorem isActive_apply (v c : Option P) (now : Nat) : (o.apply v c now).isActive = v.isSome :=
  rfl

@[simp] theorem pendingSends_apply (v c : Option P) (now : Nat) :
    (o.apply v c now).pendingSends = o.pendingSends + 1 := rfl

@[simp] theorem value_scheduleRollback : o.scheduleRollback.value = o.value := rfl

@[simp] theorem isActive_scheduleRollback : o.scheduleRollback.isActive = o.isActive := rfl

@[simp] theorem pendingSends_scheduleRollback : o.scheduleRollback.pendingSends = o.pendingSends :=
  rfl

@[simp] theorem previousValue_scheduleRollback :
    o.scheduleRollback.previousValue = o.previousValue := rfl

@[simp] theorem confirmOne_fst : o.confirmOne.1 = decide (o.pendingSends - 1 = 0) := rfl

@[simp] theorem pendingSends_confirmOne : o.confirmOne.2.pendingSends = o.pendingSends - 1 := rfl

@[simp] theorem isActive_confirmOne : o.confirmOne.2.isActive = o.isActive := rfl

@[simp] theorem pendingSends_clear : o.clear.pendingSends = o.pendingSends := rfl

@[simp] theorem isActive_clear : o.clear.isActive = false := rfl

@[simp] theorem isActive_rollback : o.rollback.2.isActive = false := by
  unfold rollback
  split
  · simp [isActive, *]
  · rfl

theorem rollback_of_active {o : OptimisticValueTracker P} (h : o.isActive = true) :
    o.rollback.1 = (o.value, o.previousValue) ∧ o.rollback.2.pendingSends = 0 ∧
      o.rollback.2.timeoutHandle = false := by
  obtain ⟨v, hv⟩ := Option.isSome_iff_exists.mp h
  unfold rollback
  rw [hv]
  exact ⟨rfl, rfl, rfl⟩

theorem rollback_cancelTimer {o : OptimisticValueTracker P} (h : o.isActive = true) :
    o.cancelTimer.rollback = o.rollback := by
  obtain ⟨v, hv⟩ := Option.isSome_iff_exists.mp h
  have hv' : o.cancelTimer.value = some v := hv
  unfold rollback
  rw [hv, hv']
  rfl

theorem isActive_eq_false : o.isActive = false ↔ o.value = none := by
  simp [isActive]

end OptimisticValueTracker

end AioHomematic.Model
