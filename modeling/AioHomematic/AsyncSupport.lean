import AioHomematic.Lib.StepSystem
import Mathlib.Algebra.Order.Floor.Ring
import Mathlib.Data.Rat.Floor
import Mathlib.Tactic.Linarith

/-!
# The looper

`create_task`, `block_till_done` and `_await_and_log_pending` of `async_support`. Times are seconds
of `monotonic()`. The event loop runs the tasks while `block_till_done` is suspended, and only then.
How late a wait is resumed, and how long the code takes until it computes the time that is left, is
up to the run. `blockTillDone_iff` says which runs wait as they should.
-/

namespace AioHomematic.AsyncSupport

open Lib StepSystem

/-! ## Creating tasks -/

/-- What the event loop runs: the creation of a task, or its first step. -/
inductive Handle (τ : Type*) where
  | create (target : τ)
  | run (task : Nat) (target : τ)
deriving DecidableEq

namespace Handle

variable {τ : Type*}

def target : Handle τ → τ
  | create target => target
  | run _ target => target

def task : Handle τ → Option Nat
  | create _ => none
  | run task _ => some task

end Handle

/-- `ready` is run in this order. -/
structure Looper (τ : Type*) where
  ready : List (Handle τ) := []
  nextTask : Nat := 0

namespace Looper

variable {τ : Type*} (target : τ) (looper : Looper τ)

/-- The creation is scheduled only. What is returned is no task. -/
def createTask : Option Nat × Looper τ :=
  (none, { looper with ready := looper.ready ++ [.create target] })

def asyncCreateTask : Looper τ where
  ready := looper.ready ++ [.run looper.nextTask target]
  nextTask := looper.nextTask + 1

/-- A task that is cancelled before its first step is not run. -/
def cancel (task : Nat) : Looper τ :=
  { looper with ready := looper.ready.filter (·.task ≠ some task) }

end Looper

/-! ## Waiting for them -/

def blockLogTimeout : ℚ := 60

/-- A task is known to the looper from `created` on. `completes` is when it is done, if ever, as
long as the event loop is free to run it. -/
structure Task where
  created : ℚ
  completes : Option ℚ
deriving DecidableEq

namespace Task

/-- The loop has run it up to a time. -/
def done (task : Task) (ran : ℚ) : Bool := task.completes.any (· ≤ ran)

def pending (task : Task) (ran : ℚ) : Bool := decide (task.created ≤ ran) && !task.done ran

end Task

/-- Where `block_till_done` is. -/
inductive Point where
  /-- At the head of the outer loop. -/
  | collecting
  /-- At the head of the inner loop. -/
  | reading (pending : List Task)
  /-- In `asyncio.wait`, up to a time. -/
  | waiting (pending : List Task) (timeout : ℚ)
  | returned
deriving DecidableEq

structure Blocking where
  now : ℚ
  /-- Up to when the event loop has run the tasks. -/
  ran : ℚ
  point : Point

inductive BlockingStep where
  | collect
  /-- Computing the time that is left, a while after the last look at the clock. -/
  | read (busy : ℚ)
  /-- Resumed from `asyncio.wait`. -/
  | wake (now : ℚ)

namespace Blocking

variable (tasks : List Task) (deadline : Option ℚ)

def overdue (now : ℚ) : Bool := deadline.any (· ≤ now)

/-- The timeout of the next `asyncio.wait`, which has to be whole seconds. -/
def timeout (now : ℚ) : ℚ :=
  match deadline with
  | none => blockLogTimeout
  | some deadline => min blockLogTimeout ⌊max 0 (deadline - now)⌋

def collect (s : Blocking) : Blocking :=
  match tasks.filter (·.pending s.ran) with
  | [] => { s with point := .returned }
  | task :: pending =>
    if overdue deadline s.now then { s with point := .returned }
    else { s with point := .reading (task :: pending) }

/-- Without a timeout the inner loop is left, and the outer one goes on before the deadline. -/
def read (pending : List Task) (now : ℚ) (s : Blocking) : Blocking :=
  if timeout deadline now = 0 then
    { s with now := now, point := if overdue deadline now then .returned else .collecting }
  else { s with now := now, point := .waiting pending (now + timeout deadline now) }

def wake (pending : List Task) (now : ℚ) : Blocking where
  now := now
  ran := now
  point :=
    match pending.filter (! ·.done now) with
    | [] => .collecting
    | task :: pending =>
      if overdue deadline now then .returned else .reading (task :: pending)

/-- `asyncio.wait` is resumed when all is done, or after its timeout. -/
def step (s : Blocking) : BlockingStep → Option Blocking
  | .collect => if s.point = .collecting then some (s.collect tasks deadline) else none
  | .read busy =>
    match s.point with
    | .reading pending => if 0 ≤ busy then some (s.read deadline pending (s.now + busy)) else none
    | _ => none
  | .wake now =>
    match s.point with
    | .waiting pending timeout =>
      if s.now ≤ now ∧ (pending.all (·.done now) = true ∨ timeout ≤ now) then
        some (wake deadline pending now)
      else none
    | _ => none

end Blocking

/-- `block_till_done` from the time `start` on, when `asyncio.sleep(0)` returns. `tasks` are those of
the looper, without the caller and those that are being cancelled. -/
def blockTillDone (tasks : List Task) (waitTime : Option ℚ) (start : ℚ) :
    StepSystem Blocking BlockingStep where
  init := { now := start, ran := start, point := .collecting }
  step := Blocking.step tasks (waitTime.map (start + ·))

namespace Blocking

variable (tasks : List Task) (deadline : Option ℚ)

/-! ## What a wait is for -/

/-- An iteration before the deadline is suspended. -/
def Suspends (s : Blocking) (a : BlockingStep) : Prop :=
  ∀ busy, a = .read busy → overdue deadline s.now = false → ∃ pending timeout,
    (step tasks deadline s a).map point = some (.waiting pending timeout)

/-- The tasks that would complete before the deadline are complete in the end. -/
def Complete (s : Blocking) : Prop :=
  s.point = .returned → ∀ task ∈ tasks, task.created ≤ s.ran →
    ∀ completes, task.completes = some completes → (∀ d, deadline = some d → completes < d) →
      task.done s.ran = true

/-- Where the time that is left is computed, a second of it is left. -/
def Ample (s : Blocking) (a : BlockingStep) : Prop :=
  ∀ busy, a = .read busy → ∀ d, deadline = some d → 1 ≤ d - (s.now + busy)

/-- The inner loop is not entered after the deadline. -/
def InTime (s : Blocking) : Prop :=
  ∀ pending, s.point = .reading pending → overdue deadline s.now = false

/-- Without a busy wait the loop has run the tasks up to the head of each outer iteration. -/
structure Ran (s : Blocking) : Prop where
  collecting : s.point = .collecting → s.now = s.ran
  complete : Complete tasks deadline s

variable {tasks deadline} {s t : Blocking} {a : BlockingStep}

/-- Less than a second is no timeout. -/
theorem timeout_ne_zero_iff {now : ℚ} :
    timeout deadline now ≠ 0 ↔ ∀ d, deadline = some d → 1 ≤ d - now := by
  cases deadline with
  | none => simp [timeout, blockLogTimeout]
  | some d =>
    have hfloor : (0 : ℚ) < ⌊max 0 (d - now)⌋ ↔ 1 ≤ d - now := by
      rw [Int.cast_pos, Int.floor_pos, le_max_iff]
      norm_num
    have hnonneg : (0 : ℚ) ≤ timeout (some d) now :=
      le_min (by norm_num [blockLogTimeout])
        (Int.cast_nonneg (Int.floor_nonneg.mpr (le_max_left _ _)))
    rw [← hnonneg.lt_iff_ne', timeout, lt_min_iff, hfloor]
    norm_num [blockLogTimeout]

theorem done_iff {task : Task} {ran : ℚ} :
    task.done ran = true ↔ ∃ completes, task.completes = some completes ∧ completes ≤ ran := by
  simp [Task.done, Option.any_eq_true]

/-! ## What a step does -/

theorem step_read {busy : ℚ} (h : step tasks deadline s (.read busy) = some t) :
    ∃ pending, s.point = .reading pending ∧ 0 ≤ busy ∧
      t = s.read deadline pending (s.now + busy) := by
  unfold step at h
  dsimp only at h
  split at h
  next pending hpoint =>
    split at h
    next hbusy =>
      cases h
      exact ⟨pending, hpoint, hbusy, rfl⟩
    · cases h
  · cases h

theorem step_wake {now : ℚ} (h : step tasks deadline s (.wake now) = some t) :
    ∃ pending, t = wake deadline pending now := by
  unfold step at h
  dsimp only at h
  split at h
  next pending _ _ =>
    split at h
    · cases h
      exact ⟨pending, rfl⟩
    · cases h
  · cases h

theorem step_collect (h : step tasks deadline s .collect = some t) :
    s.point = .collecting ∧ t = s.collect tasks deadline := by
  unfold step at h
  dsimp only at h
  split at h
  next hpoint =>
    cases h
    exact ⟨hpoint, rfl⟩
  · cases h

theorem InTime.step (h : step tasks deadline s a = some t) : InTime deadline t := by
  cases a with
  | collect =>
    obtain ⟨-, rfl⟩ := step_collect h
    intro pending hpoint
    unfold collect at hpoint ⊢
    split at hpoint
    · cases hpoint
    · split at hpoint
      · cases hpoint
      next hdue =>
        rw [if_neg hdue]
        exact Bool.eq_false_of_not_eq_true hdue
  | read busy =>
    obtain ⟨pending, -, -, rfl⟩ := step_read h
    intro pending hpoint
    unfold read at hpoint
    split at hpoint
    · dsimp only at hpoint
      split at hpoint <;> cases hpoint
    · cases hpoint
  | wake now =>
    obtain ⟨pending, rfl⟩ := step_wake h
    intro pending hpoint
    unfold wake at hpoint ⊢
    dsimp only at hpoint
    split at hpoint
    · cases hpoint
    · split at hpoint
      · cases hpoint
      next hdue => exact Bool.eq_false_of_not_eq_true hdue

/-- An iteration is suspended if and only if a second is left. -/
theorem suspends_iff (hin : InTime deadline s) (h : step tasks deadline s a = some t) :
    Suspends tasks deadline s a ↔ Ample deadline s a := by
  unfold Suspends Ample
  refine forall_congr' fun busy => forall_congr' fun ha => ?_
  subst ha
  obtain ⟨pending, hpoint, hbusy, rfl⟩ := step_read h
  rw [h, ← timeout_ne_zero_iff]
  have hdue := hin pending hpoint
  constructor
  · intro hwaiting hzero
    obtain ⟨pending', timeout', hread⟩ := hwaiting hdue
    rw [Option.map_some, read, if_pos hzero] at hread
    dsimp only at hread
    split at hread <;> cases hread
  · intro hne _
    rw [read, if_neg hne]
    exact ⟨pending, _, rfl⟩

theorem complete_of_ne_returned (h : s.point ≠ .returned) : Complete tasks deadline s :=
  fun hreturned => absurd hreturned h

/-- After the deadline the loop has run what was to be complete before. -/
theorem complete_of_overdue (h : overdue deadline s.ran = true) : Complete tasks deadline s := by
  intro _ task _ _ completes hcompletes hbefore
  obtain ⟨d, hd, hran⟩ := (Option.any_eq_true _ _).mp h
  have hlt := hbefore d hd
  have hle : d ≤ s.ran := of_decide_eq_true hran
  exact done_iff.mpr ⟨completes, hcompletes, by linarith⟩

theorem complete_of_none_pending (h : tasks.filter (·.pending s.ran) = []) :
    Complete tasks deadline s := by
  intro _ task htask hcreated _ _ _
  have hpending := List.filter_eq_nil_iff.mp h task htask
  simpa [Task.pending, hcreated] using hpending

theorem Ran.step (hran : Ran tasks deadline s) (hample : Ample deadline s a)
    (h : step tasks deadline s a = some t) : Ran tasks deadline t := by
  cases a with
  | collect =>
    obtain ⟨hpoint, rfl⟩ := step_collect h
    have hnow := hran.collecting hpoint
    unfold collect
    split
    next hnone => exact ⟨nofun, complete_of_none_pending hnone⟩
    · split
      next hdue => exact ⟨nofun, complete_of_overdue (hnow ▸ hdue)⟩
      · exact ⟨nofun, complete_of_ne_returned nofun⟩
  | read busy =>
    obtain ⟨pending, -, -, rfl⟩ := step_read h
    rw [read, if_neg (timeout_ne_zero_iff.mpr (hample busy rfl))]
    exact ⟨nofun, complete_of_ne_returned nofun⟩
  | wake now =>
    obtain ⟨pending, rfl⟩ := step_wake h
    refine ⟨fun _ => rfl, ?_⟩
    by_cases hdue : overdue deadline now = true
    · exact complete_of_overdue hdue
    · refine complete_of_ne_returned ?_
      unfold wake
      dsimp only
      split
      · exact nofun
      · rw [if_neg hdue]
        exact nofun

end Blocking

/-! ## Runs -/

open Blocking

variable (tasks : List Task) (waitTime : Option ℚ) (start : ℚ)

/-- A run waits as it should if and only if a second is left whenever the time that is left is
computed. -/
theorem blockTillDone_iff (steps : List BlockingStep) (t : Blocking) :
    (blockTillDone tasks waitTime start).Steps (Suspends tasks (waitTime.map (start + ·)))
        (blockTillDone tasks waitTime start).init steps t ∧
        Complete tasks (waitTime.map (start + ·)) t ↔
      (blockTillDone tasks waitTime start).Steps (Ample (waitTime.map (start + ·)))
        (blockTillDone tasks waitTime start).init steps t := by
  have hinTime : InTime (waitTime.map (start + ·)) (blockTillDone tasks waitTime start).init :=
    nofun
  constructor
  · rintro ⟨hsuspends, -⟩
    exact hsuspends.mono_of_invariant (fun _ _ _ _ _ h => InTime.step h)
      (fun _ _ _ hin hok h => (suspends_iff hin h).mp hok) hinTime
  · intro hample
    have hran : Ran tasks (waitTime.map (start + ·)) (blockTillDone tasks waitTime start).init :=
      ⟨fun _ => rfl, complete_of_ne_returned nofun⟩
    refine ⟨?_, (hample.invariant (fun _ _ _ hran hok h => hran.step hok h) hran).complete⟩
    exact hample.mono_of_invariant (fun _ _ _ _ _ h => InTime.step h)
      (fun _ _ _ hin hok h => (suspends_iff hin h).mpr hok) hinTime

def quarter : Task := { created := 0, completes := some (1 / 4) }

/-- Half a second is not waited for: the loops spin, and the task of a quarter is not done. -/
theorem not_blockTillDone_complete : ¬ ∀ (tasks : List Task) (waitTime : Option ℚ) (start : ℚ)
    (steps : List BlockingStep) (t : Blocking),
    (blockTillDone tasks waitTime start).Steps Free (blockTillDone tasks waitTime start).init
        steps t → Complete tasks (waitTime.map (start + ·)) t := by
  intro h
  have hrun : ∃ t, (blockTillDone [quarter] (some (1 / 2)) 0).replay Free
      (blockTillDone [quarter] (some (1 / 2)) 0).init
      [.collect, .read 0, .collect, .read (1 / 2)] = some t ∧
      t.point = .returned ∧ t.ran = 0 := replay_any (by decide +kernel)
  obtain ⟨t, ht, hpoint, hran⟩ := hrun
  have hbefore : ∀ d, (some (1 / 2 : ℚ)).map (0 + ·) = some d → 1 / 4 < d := by
    intro d hd
    cases hd
    norm_num
  have hdone := h [quarter] (some (1 / 2)) 0 _ t (steps_of_replay ht) hpoint quarter
    (List.mem_singleton.mpr rfl) hran.ge (1 / 4) rfl hbefore
  rw [hran] at hdone
  revert hdone
  decide +kernel

end AioHomematic.AsyncSupport
