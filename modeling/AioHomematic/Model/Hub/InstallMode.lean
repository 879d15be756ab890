import AioHomematic.AsyncSupport
import AioHomematic.Support.Age

/-!
# The loops of the install mode sensor

`InstallModeDpSensor` of `model/hub/install_mode.py`. Its coroutines with the lock await nothing
while they hold it, so that each is one step. The sensor keeps what `create_task` returns as its
running loops, which is nothing: `unreferenced` is what the sensor knows of them, and
`loops_of_reach` when there are nevertheless not too many.
-/

namespace AioHomematic.Model

open Lib StepSystem Support AsyncSupport

/-! ## The sensor -/

inductive LoopKind where
  | countdown
  | sync
deriving DecidableEq

/-- What the sensor creates tasks for. -/
inductive InstallModeTarget where
  | startTasks
  | stopTasks
  | ensureTasks
  | loop (kind : LoopKind)
deriving DecidableEq

/-- Where a loop is suspended: asleep, or waiting for the answer of the backend. -/
inductive LoopPoint where
  | asleep (kind : LoopKind)
  | asking
deriving DecidableEq

def LoopPoint.kind : LoopPoint → LoopKind
  | asleep kind => kind
  | asking => .sync

structure LoopTask where
  task : Nat
  point : LoopPoint
deriving DecidableEq

inductive InstallModeCall where
  | startCountdown
  | stopCountdown
  | syncFromBackend
deriving DecidableEq

/-- The sensor with the looper and the loops that are alive. `now` and `countdownEnd` are
microseconds since `INIT_DATETIME`. -/
structure InstallModeDpSensor where
  now : Nat := 0
  countdownEnd : Int := Support.initDatetime
  countdownTask : Option Nat := none
  syncTask : Option Nat := none
  looper : Looper InstallModeTarget := {}
  loops : List LoopTask := []
  lastCall : Option InstallModeCall := none

namespace InstallModeDpSensor

variable (s : InstallModeDpSensor)

def value : Int :=
  if s.countdownEnd ≤ s.now then 0
  else max 0 ((s.countdownEnd - s.now) / microsecondsPerSecond)

def isActive : Bool := decide (0 < s.value)

def countDown (seconds : Int) : InstallModeDpSensor :=
  { s with countdownEnd := s.now + seconds * microsecondsPerSecond }

/-! ### Tasks -/

def createTask (target : InstallModeTarget) : InstallModeDpSensor :=
  { s with looper := (s.looper.createTask target).2 }

def createCountdownTask : InstallModeDpSensor :=
  { s.createTask (.loop .countdown) with
    countdownTask := (s.looper.createTask (.loop .countdown)).1 }

def createSyncTask : InstallModeDpSensor :=
  { s.createTask (.loop .sync) with syncTask := (s.looper.createTask (.loop .sync)).1 }

/-- `task.done()`. -/
def isDone (task : Nat) : Bool :=
  s.loops.all (·.task ≠ task) && s.looper.ready.all (·.task ≠ some task)

def isRunning (task : Option Nat) : Bool := task.any (! s.isDone ·)

/-- A loop that is cancelled is not resumed any more. -/
def cancel (task : Option Nat) : InstallModeDpSensor :=
  match task with
  | none => s
  | some task =>
    { s with loops := s.loops.filter (·.task ≠ task), looper := s.looper.cancel task }

def stopCountdownTaskUnlocked : InstallModeDpSensor :=
  { (if s.isRunning s.countdownTask then s.cancel s.countdownTask else s) with
    countdownTask := none }

def stopSyncTaskUnlocked : InstallModeDpSensor :=
  { (if s.isRunning s.syncTask then s.cancel s.syncTask else s) with syncTask := none }

def startTasksLocked : InstallModeDpSensor :=
  s.stopCountdownTaskUnlocked.stopSyncTaskUnlocked.createCountdownTask.createSyncTask

def stopTasksLocked : InstallModeDpSensor := s.stopCountdownTaskUnlocked.stopSyncTaskUnlocked

def ensureTasksRunningLocked : InstallModeDpSensor :=
  let s := if s.isRunning s.countdownTask then s else s.createCountdownTask
  if s.isRunning s.syncTask then s else s.createSyncTask

/-! ### Calls -/

def startCountdown (seconds : Int) : InstallModeDpSensor :=
  { (s.countDown seconds).createTask .startTasks with lastCall := some .startCountdown }

def stopCountdown : InstallModeDpSensor :=
  { { s with countdownEnd := Support.initDatetime }.createTask .stopTasks with
    lastCall := some .stopCountdown }

/-- A drift of up to three seconds is none. -/
def resync (remainingSeconds : Int) : InstallModeDpSensor :=
  if 3 < |s.value - remainingSeconds| then s.countDown remainingSeconds else s

def syncFromBackend (remainingSeconds : Int) : InstallModeDpSensor :=
  if remainingSeconds ≤ 0 then s.stopCountdown
  else
    { (s.resync remainingSeconds).createTask .ensureTasks with lastCall := some .syncFromBackend }

/-! ### The loops -/

/-- The head of a loop. -/
def goOn (task : Nat) (kind : LoopKind) : InstallModeDpSensor :=
  let loops := s.loops.filter (·.task ≠ task)
  if s.isActive then { s with loops := loops ++ [⟨task, .asleep kind⟩] }
  else { s with loops := loops }

/-- A loop that stops the countdown ends. -/
def stopFrom (task : Nat) : InstallModeDpSensor :=
  { s.stopCountdown with loops := s.loops.filter (·.task ≠ task) }

/-- The countdown loop after its sleep. -/
def wakeCountdown (task : Nat) : InstallModeDpSensor :=
  if s.value ≤ 0 then s.stopFrom task else s.goOn task .countdown

/-- The sync loop after its sleep. Without a client it fails. -/
def wakeSync (task : Nat) (client : Bool) : InstallModeDpSensor :=
  if client then { s with loops := s.loops.filter (·.task ≠ task) ++ [⟨task, .asking⟩] }
  else s.stopFrom task

/-- The sync loop after the answer, which is `none` where the backend fails. -/
def answer (task : Nat) (backendRemaining : Option Int) : InstallModeDpSensor :=
  match backendRemaining with
  | none => s.stopFrom task
  | some remaining =>
    if remaining = 0 then s.stopFrom task else (s.resync remaining).goOn task .sync

def run (task : Nat) : InstallModeTarget → InstallModeDpSensor
  | .startTasks => s.startTasksLocked
  | .stopTasks => s.stopTasksLocked
  | .ensureTasks => s.ensureTasksRunningLocked
  | .loop kind => s.goOn task kind

/-- The event loop runs the next handle. -/
def tick : Option InstallModeDpSensor :=
  match s.looper.ready with
  | [] => none
  | .create target :: ready =>
    some { s with looper := { s.looper with ready := ready }.asyncCreateTask target }
  | .run task target :: ready =>
    some ({ s with looper := { s.looper with ready := ready } }.run task target)

end InstallModeDpSensor

/-- A call, the event loop going on, time passing, or a loop being resumed. -/
inductive InstallModeStep where
  | startCountdown (seconds : Int)
  | stopCountdown
  | syncFromBackend (remainingSeconds : Int)
  | tick
  | elapse (microseconds : Nat)
  | wakeCountdown (task : Nat)
  | wakeSync (task : Nat) (client : Bool)
  | answer (task : Nat) (backendRemaining : Option Int)
deriving DecidableEq

namespace InstallModeDpSensor

def step (s : InstallModeDpSensor) : InstallModeStep → Option InstallModeDpSensor
  | .startCountdown seconds => some (s.startCountdown seconds)
  | .stopCountdown => some s.stopCountdown
  | .syncFromBackend remainingSeconds => some (s.syncFromBackend remainingSeconds)
  | .tick => s.tick
  | .elapse microseconds => some { s with now := s.now + microseconds }
  | .wakeCountdown task =>
    if ⟨task, .asleep .countdown⟩ ∈ s.loops then some (s.wakeCountdown task) else none
  | .wakeSync task client =>
    if ⟨task, .asleep .sync⟩ ∈ s.loops then some (s.wakeSync task client) else none
  | .answer task backendRemaining =>
    if ⟨task, .asking⟩ ∈ s.loops then some (s.answer task backendRemaining) else none

def system : StepSystem InstallModeDpSensor InstallModeStep where
  init := {}
  step := step

variable {s t : InstallModeDpSensor} {a : InstallModeStep} {kind : LoopKind} {task : Nat}

/-! ## What the sensor knows -/

@[simp] theorem isRunning_none : s.isRunning none = false := rfl

/-- What the sensor keeps of its loops is nothing. -/
structure Unreferenced (s : InstallModeDpSensor) : Prop where
  countdown : s.countdownTask = none
  sync : s.syncTask = none

/-- So it takes them for not running. -/
theorem Unreferenced.ensureTasksRunningLocked (h : s.Unreferenced) :
    s.ensureTasksRunningLocked = s.createCountdownTask.createSyncTask := by
  have hsync : s.createCountdownTask.isRunning s.createCountdownTask.syncTask = false := by
    rw [show s.createCountdownTask.syncTask = none from h.sync]
    rfl
  unfold InstallModeDpSensor.ensureTasksRunningLocked
  rw [h.countdown]
  simp [hsync]

/-- Nor has it a loop to cancel. -/
theorem Unreferenced.stopTasksLocked (h : s.Unreferenced) : s.stopTasksLocked = s := by
  obtain ⟨hcountdown, hsync⟩ := h
  cases s
  cases hcountdown
  cases hsync
  rfl

theorem Unreferenced.startTasksLocked (h : s.Unreferenced) :
    s.startTasksLocked = s.createCountdownTask.createSyncTask := by
  have hstop := h.stopTasksLocked
  unfold InstallModeDpSensor.stopTasksLocked at hstop
  rw [InstallModeDpSensor.startTasksLocked, hstop]

theorem Unreferenced.goOn (h : s.Unreferenced) : (s.goOn task kind).Unreferenced := by
  unfold InstallModeDpSensor.goOn
  dsimp only
  split <;> exact ⟨h.countdown, h.sync⟩

theorem Unreferenced.resync (h : s.Unreferenced) (remainingSeconds : Int) :
    (s.resync remainingSeconds).Unreferenced := by
  unfold InstallModeDpSensor.resync
  split <;> exact ⟨h.countdown, h.sync⟩

theorem Unreferenced.run (h : s.Unreferenced) (target : InstallModeTarget) :
    (s.run task target).Unreferenced := by
  unfold InstallModeDpSensor.run
  cases target with
  | startTasks =>
    dsimp only
    rw [h.startTasksLocked]
    exact ⟨rfl, rfl⟩
  | stopTasks =>
    dsimp only
    rwa [h.stopTasksLocked]
  | ensureTasks =>
    dsimp only
    rw [h.ensureTasksRunningLocked]
    exact ⟨rfl, rfl⟩
  | loop kind => exact h.goOn

theorem Unreferenced.tick (h : s.Unreferenced) (htick : s.tick = some t) : t.Unreferenced := by
  unfold InstallModeDpSensor.tick at htick
  split at htick
  · cases htick
  · cases htick
    exact ⟨h.countdown, h.sync⟩
  next task target ready _ =>
    cases htick
    have hrest : Unreferenced { s with looper := { s.looper with ready := ready } } :=
      ⟨h.countdown, h.sync⟩
    exact hrest.run target

theorem Unreferenced.answer (h : s.Unreferenced) (backendRemaining : Option Int) :
    (s.answer task backendRemaining).Unreferenced := by
  unfold InstallModeDpSensor.answer
  cases backendRemaining with
  | none => exact ⟨h.countdown, h.sync⟩
  | some remaining =>
    dsimp only
    split
    · exact ⟨h.countdown, h.sync⟩
    · exact (h.resync remaining).goOn

theorem Unreferenced.step (h : s.Unreferenced) (hstep : s.step a = some t) : t.Unreferenced := by
  cases a with
  | startCountdown seconds => cases hstep; exact ⟨h.countdown, h.sync⟩
  | stopCountdown => cases hstep; exact ⟨h.countdown, h.sync⟩
  | syncFromBackend remainingSeconds =>
    cases hstep
    unfold InstallModeDpSensor.syncFromBackend
    split
    · exact ⟨h.countdown, h.sync⟩
    · have hresync := h.resync remainingSeconds
      exact ⟨hresync.countdown, hresync.sync⟩
  | tick => exact h.tick hstep
  | elapse microseconds => cases hstep; exact ⟨h.countdown, h.sync⟩
  | wakeCountdown task =>
    obtain ⟨-, hwake⟩ := Option.ite_none_right_eq_some.mp hstep
    cases hwake
    unfold InstallModeDpSensor.wakeCountdown
    split
    · exact ⟨h.countdown, h.sync⟩
    · exact h.goOn
  | wakeSync task client =>
    obtain ⟨-, hwake⟩ := Option.ite_none_right_eq_some.mp hstep
    cases hwake
    unfold InstallModeDpSensor.wakeSync
    split <;> exact ⟨h.countdown, h.sync⟩
  | answer task backendRemaining =>
    obtain ⟨-, hanswer⟩ := Option.ite_none_right_eq_some.mp hstep
    cases hanswer
    exact h.answer backendRemaining

/-- In every run the sensor knows of no loop. -/
theorem unreferenced (h : system.Reach Free t) : t.Unreferenced :=
  h.invariant ⟨rfl, rfl⟩ fun _ _ _ hs _ hstep => hs.step hstep

/-! ## How many loops there are -/

def alive (loops : List LoopTask) (kind : LoopKind) : Nat := loops.countP (·.point.kind = kind)

/-- Those that are still to be started. -/
def scheduled (looper : Looper InstallModeTarget) (kind : LoopKind) : Nat :=
  looper.ready.countP (·.target = .loop kind)

def total (s : InstallModeDpSensor) (kind : LoopKind) : Nat :=
  alive s.loops kind + scheduled s.looper kind

/-- The tasks that are started are one loop of each kind. -/
theorem total_createTasks : s.createCountdownTask.createSyncTask.total kind = s.total kind + 1 := by
  have hready : s.createCountdownTask.createSyncTask.looper.ready =
      s.looper.ready ++ [.create (.loop .countdown), .create (.loop .sync)] :=
    List.append_assoc ..
  unfold total scheduled
  rw [hready, List.countP_append]
  cases kind <;> rfl

/-- What else is created is no loop. -/
theorem scheduled_createTask {looper : Looper InstallModeTarget} {target : InstallModeTarget}
    (h : target ≠ .loop kind) :
    scheduled (looper.createTask target).2 kind = scheduled looper kind := by
  have hnone : [Handle.create target].countP (·.target = .loop kind) = 0 := by
    refine List.countP_eq_zero.mpr fun handle hmem hloop => ?_
    cases List.mem_singleton.mp hmem
    exact h (of_decide_eq_true hloop)
  rw [scheduled, Looper.createTask, List.countP_append, hnone]
  rfl

/-- A loop that is resumed is one of those that are alive. -/
theorem alive_filter_add_le {loops : List LoopTask} {point : LoopPoint}
    (h : ⟨task, point⟩ ∈ loops) :
    alive (loops.filter (·.task ≠ task)) kind + (if point.kind = kind then 1 else 0) ≤
      alive loops kind := by
  unfold alive
  have hsplit := List.countP_eq_countP_filter_add loops (·.point.kind = kind) (·.task ≠ task)
  split
  next hkind =>
    have hpos : 0 < (loops.filter fun loop => ! decide (loop.task ≠ task)).countP
        (·.point.kind = kind) :=
      List.countP_pos_iff.mpr ⟨_, List.mem_filter.mpr ⟨h, by simp⟩, decide_eq_true hkind⟩
    omega
  · omega

theorem alive_goOn_le {kind' : LoopKind} : alive (s.goOn task kind').loops kind ≤
    alive (s.loops.filter (·.task ≠ task)) kind + if kind' = kind then 1 else 0 := by
  have hsingle : alive [⟨task, .asleep kind'⟩] kind = if kind' = kind then 1 else 0 := by
    cases kind' <;> cases kind <;> rfl
  unfold goOn
  dsimp only
  split
  · exact (List.countP_append.trans (congrArg _ hsingle)).le
  · exact Nat.le_add_right _ _

theorem looper_goOn : (s.goOn task kind).looper = s.looper := by
  unfold goOn
  dsimp only
  split <;> rfl

theorem total_goOn_le {point : LoopPoint} (h : ⟨task, point⟩ ∈ s.loops) :
    (s.goOn task point.kind).total kind ≤ s.total kind := by
  have hgoOn := @alive_goOn_le s kind task point.kind
  have hresumed := @alive_filter_add_le kind task s.loops point h
  rw [total, total, looper_goOn]
  omega

theorem total_stopFrom_le : (s.stopFrom task).total kind ≤ s.total kind := by
  have hfilter : alive (s.stopFrom task).loops kind ≤ alive s.loops kind :=
    List.filter_sublist.countP_le
  have hcreate : scheduled (s.stopFrom task).looper kind = scheduled s.looper kind :=
    scheduled_createTask nofun
  rw [total, total]
  omega

theorem total_createTask {target : InstallModeTarget} (h : target ≠ .loop kind) :
    (s.createTask target).total kind = s.total kind :=
  congrArg _ (scheduled_createTask h)

theorem total_stopCountdown : s.stopCountdown.total kind = s.total kind :=
  @total_createTask { s with countdownEnd := Support.initDatetime } kind .stopTasks nofun

theorem total_resync (remainingSeconds : Int) :
    (s.resync remainingSeconds).total kind = s.total kind := by
  unfold resync
  split <;> rfl

theorem loops_resync (remainingSeconds : Int) : (s.resync remainingSeconds).loops = s.loops := by
  unfold resync
  split <;> rfl

theorem total_answer_le (h : ⟨task, .asking⟩ ∈ s.loops) (backendRemaining : Option Int) :
    (s.answer task backendRemaining).total kind ≤ s.total kind := by
  unfold answer
  cases backendRemaining with
  | none => exact total_stopFrom_le
  | some remaining =>
    dsimp only
    split
    · exact total_stopFrom_le
    · have hresync : ⟨task, .asking⟩ ∈ (s.resync remaining).loops := by rwa [loops_resync]
      exact (total_goOn_le hresync).trans (total_resync remaining).le

theorem total_wakeSync_le (h : ⟨task, .asleep .sync⟩ ∈ s.loops) (client : Bool) :
    (s.wakeSync task client).total kind ≤ s.total kind := by
  unfold wakeSync
  split
  · have hsingle : alive [⟨task, .asking⟩] kind = if LoopKind.sync = kind then 1 else 0 := by
      cases kind <;> rfl
    have hresumed := @alive_filter_add_le kind task s.loops _ h
    refine Nat.add_le_add_right ?_ _
    exact (List.countP_append.trans (congrArg _ hsingle)).le.trans hresumed
  · exact total_stopFrom_le

theorem total_wakeCountdown_le (h : ⟨task, .asleep .countdown⟩ ∈ s.loops) :
    (s.wakeCountdown task).total kind ≤ s.total kind := by
  unfold wakeCountdown
  split
  · exact total_stopFrom_le
  · exact total_goOn_le h

/-! ### One step -/

/-- The event loop is about to run the task of a call that starts loops. -/
def startsTasks (s : InstallModeDpSensor) : Bool :=
  match s.looper.ready with
  | .run _ target :: _ => decide (target = .startTasks ∨ target = .ensureTasks)
  | _ => false

/-- The task of a call that starts loops is run while there is no loop. -/
def Unaccompanied (s : InstallModeDpSensor) (a : InstallModeStep) : Prop :=
  a = .tick → s.startsTasks = true → s.total .countdown = 0 ∧ s.total .sync = 0

/-- The event loop runs no loop but the one it takes from its queue. -/
theorem total_run_le (h : s.Unreferenced) (target : InstallModeTarget) :
    (s.run task target).total kind ≤ s.total kind +
      (if target = .startTasks ∨ target = .ensureTasks then 1 else 0) +
      if target = .loop kind then 1 else 0 := by
  unfold run
  cases target with
  | startTasks =>
    dsimp only
    rw [h.startTasksLocked, total_createTasks]
    exact le_refl _
  | stopTasks =>
    dsimp only
    rw [h.stopTasksLocked]
    exact Nat.le_add_right _ _
  | ensureTasks =>
    dsimp only
    rw [h.ensureTasksRunningLocked, total_createTasks]
    exact le_refl _
  | loop kind' =>
    have hfilter : alive (s.loops.filter (·.task ≠ task)) kind ≤ alive s.loops kind :=
      List.filter_sublist.countP_le
    have hgoOn := @alive_goOn_le s kind task kind'
    simp only [total, looper_goOn, InstallModeTarget.loop.injEq, reduceCtorEq, or_self]
    omega

theorem countP_target_cons {handle : Handle InstallModeTarget}
    {ready : List (Handle InstallModeTarget)} :
    (handle :: ready).countP (·.target = .loop kind) =
      ready.countP (·.target = .loop kind) + if handle.target = .loop kind then 1 else 0 :=
  List.countP_cons.trans (congrArg _ (if_congr decide_eq_true_iff rfl rfl))

theorem total_tick_le (h : s.Unreferenced) (hok : Unaccompanied s .tick)
    (hle : ∀ kind, s.total kind ≤ 1) (htick : s.tick = some t) (kind : LoopKind) :
    t.total kind ≤ 1 := by
  have hle := hle kind
  unfold tick at htick
  split at htick
  · cases htick
  next target ready hready =>
    cases htick
    refine le_of_eq_of_le ?_ hle
    unfold total scheduled Looper.asyncCreateTask
    rw [hready, List.countP_append, countP_target_cons, countP_target_cons]
    exact congrArg _ (congrArg _ (Nat.zero_add _))
  next task target ready hready =>
    cases htick
    have hrest : Unreferenced { s with looper := { s.looper with ready := ready } } :=
      ⟨h.countdown, h.sync⟩
    have hrun := @total_run_le _ kind task hrest target
    have hpop : total { s with looper := { s.looper with ready := ready } } kind +
        (if target = .loop kind then 1 else 0) = s.total kind := by
      unfold total scheduled
      rw [hready, countP_target_cons, Nat.add_assoc]
      rfl
    by_cases hstart : target = .startTasks ∨ target = .ensureTasks
    · have hstarts : s.startsTasks = true := by
        rw [startsTasks, hready]
        exact decide_eq_true hstart
      obtain ⟨hcountdown, hsync⟩ := hok rfl hstarts
      have hzero : s.total kind = 0 := by cases kind <;> assumption
      rw [if_pos hstart] at hrun
      omega
    · rw [if_neg hstart] at hrun
      omega

/-- There is at most one loop of each kind, and the sensor knows of none. -/
structure Single (s : InstallModeDpSensor) : Prop extends Unreferenced s where
  total_le : ∀ kind, s.total kind ≤ 1

theorem Single.step (h : s.Single) (hok : Unaccompanied s a) (hstep : s.step a = some t) :
    t.Single := by
  refine ⟨h.toUnreferenced.step hstep, fun kind => ?_⟩
  cases a with
  | startCountdown seconds =>
    cases hstep
    have hcreate := @total_createTask (s.countDown seconds) kind .startTasks nofun
    exact hcreate.le.trans (h.total_le kind)
  | stopCountdown =>
    cases hstep
    exact total_stopCountdown.le.trans (h.total_le kind)
  | syncFromBackend remainingSeconds =>
    cases hstep
    unfold syncFromBackend
    split
    · exact total_stopCountdown.le.trans (h.total_le kind)
    · have hcreate := @total_createTask (s.resync remainingSeconds) kind .ensureTasks nofun
      exact hcreate.le.trans ((total_resync remainingSeconds).le.trans (h.total_le kind))
  | tick => exact total_tick_le h.toUnreferenced hok h.total_le hstep kind
  | elapse microseconds =>
    cases hstep
    exact h.total_le kind
  | wakeCountdown task =>
    obtain ⟨hmem, hwake⟩ := Option.ite_none_right_eq_some.mp hstep
    cases hwake
    exact (total_wakeCountdown_le hmem).trans (h.total_le kind)
  | wakeSync task client =>
    obtain ⟨hmem, hwake⟩ := Option.ite_none_right_eq_some.mp hstep
    cases hwake
    exact (total_wakeSync_le hmem client).trans (h.total_le kind)
  | answer task backendRemaining =>
    obtain ⟨hmem, hanswer⟩ := Option.ite_none_right_eq_some.mp hstep
    cases hanswer
    exact (total_answer_le hmem backendRemaining).trans (h.total_le kind)

/-! ### Stopping -/

/-- The step calls `stop_countdown`. -/
def callsStop (s : InstallModeDpSensor) : InstallModeStep → Bool
  | .stopCountdown => true
  | .syncFromBackend remainingSeconds => decide (remainingSeconds ≤ 0)
  | .wakeCountdown _ => decide (s.value ≤ 0)
  | .wakeSync _ client => ! client
  | .answer _ backendRemaining => decide (backendRemaining = none ∨ backendRemaining = some 0)
  | _ => false

/-- The loop that takes the step. -/
def resumed : InstallModeStep → Option Nat
  | .wakeCountdown task => some task
  | .wakeSync task _ => some task
  | .answer task _ => some task
  | _ => none

/-- `stop_countdown` is called while no other loop is alive. -/
def StopsAlone (s : InstallModeDpSensor) (a : InstallModeStep) : Prop :=
  s.callsStop a = true → ∀ loop ∈ s.loops, resumed a = some loop.task

/-- Once the countdown is stopped no loop is alive, and none will go on. -/
def Stopped (s : InstallModeDpSensor) : Prop :=
  s.lastCall = some .stopCountdown → s.loops = [] ∧ s.countdownEnd = Support.initDatetime

theorem isActive_of_init (h : s.countdownEnd = Support.initDatetime) : s.isActive = false := by
  have hpast : s.countdownEnd ≤ s.now := h.trans_le (Int.natCast_nonneg _)
  rw [isActive, value, if_pos hpast]
  rfl

theorem stopped_stopFrom (h : ∀ loop ∈ s.loops, some task = some loop.task) :
    (s.stopFrom task).Stopped := by
  refine fun _ => ⟨List.filter_eq_nil_iff.mpr fun loop hloop => ?_, rfl⟩
  simp [Option.some.inj (h loop hloop)]

theorem stopped_of_lastCall (h : s.lastCall ≠ some .stopCountdown) : s.Stopped :=
  fun hlast => absurd hlast h

/-- A loop that is still alive was not stopped. -/
theorem Stopped.lastCall_ne (h : s.Stopped) {loop : LoopTask} (hloop : loop ∈ s.loops) :
    s.lastCall ≠ some .stopCountdown := by
  intro hlast
  rw [(h hlast).1] at hloop
  cases hloop

theorem lastCall_goOn : (s.goOn task kind).lastCall = s.lastCall := by
  unfold goOn
  dsimp only
  split <;> rfl

theorem lastCall_resync (remainingSeconds : Int) :
    (s.resync remainingSeconds).lastCall = s.lastCall := by
  unfold resync
  split <;> rfl

theorem Stopped.goOn (h : s.Stopped) : (s.goOn task kind).Stopped := by
  intro hlast
  rw [lastCall_goOn] at hlast
  obtain ⟨hloops, hend⟩ := h hlast
  unfold InstallModeDpSensor.goOn
  rw [isActive_of_init hend, hloops]
  exact ⟨rfl, hend⟩

theorem Stopped.run (h : s.Stopped) (hknown : s.Unreferenced) (target : InstallModeTarget) :
    (s.run task target).Stopped := by
  unfold InstallModeDpSensor.run
  cases target with
  | startTasks =>
    dsimp only
    rwa [hknown.startTasksLocked]
  | stopTasks =>
    dsimp only
    rwa [hknown.stopTasksLocked]
  | ensureTasks =>
    dsimp only
    rwa [hknown.ensureTasksRunningLocked]
  | loop kind => exact h.goOn

theorem Stopped.tick (h : s.Stopped) (hknown : s.Unreferenced) (htick : s.tick = some t) :
    t.Stopped := by
  unfold InstallModeDpSensor.tick at htick
  split at htick
  · cases htick
  · cases htick
    exact h
  next task target ready _ =>
    cases htick
    have hrest : Stopped { s with looper := { s.looper with ready := ready } } := h
    exact hrest.run ⟨hknown.countdown, hknown.sync⟩ target

theorem Stopped.answer (h : s.Stopped) {backendRemaining : Option Int}
    (hok : StopsAlone s (.answer task backendRemaining)) (hloop : ⟨task, .asking⟩ ∈ s.loops) :
    (s.answer task backendRemaining).Stopped := by
  unfold InstallModeDpSensor.answer
  cases backendRemaining with
  | none => exact stopped_stopFrom (hok rfl)
  | some remaining =>
    dsimp only
    split
    next hzero => exact stopped_stopFrom (hok (decide_eq_true (.inr (congrArg some hzero))))
    · refine stopped_of_lastCall ?_
      rw [lastCall_goOn, lastCall_resync]
      exact h.lastCall_ne hloop

theorem Stopped.step (h : s.Stopped) (hknown : s.Unreferenced) (hok : StopsAlone s a)
    (hstep : s.step a = some t) : t.Stopped := by
  cases a with
  | startCountdown seconds =>
    cases hstep
    exact stopped_of_lastCall nofun
  | stopCountdown =>
    cases hstep
    refine fun _ => ⟨List.eq_nil_iff_forall_not_mem.mpr fun loop hloop => ?_, rfl⟩
    cases hok rfl loop hloop
  | syncFromBackend remainingSeconds =>
    cases hstep
    unfold syncFromBackend
    split
    next hle =>
      refine fun _ => ⟨List.eq_nil_iff_forall_not_mem.mpr fun loop hloop => ?_, rfl⟩
      cases hok (decide_eq_true hle) loop hloop
    · exact stopped_of_lastCall nofun
  | tick => exact h.tick hknown hstep
  | elapse microseconds =>
    cases hstep
    exact h
  | wakeCountdown task =>
    obtain ⟨hmem, hwake⟩ := Option.ite_none_right_eq_some.mp hstep
    cases hwake
    unfold wakeCountdown
    split
    next hle => exact stopped_stopFrom (hok (decide_eq_true hle))
    · exact h.goOn
  | wakeSync task client =>
    obtain ⟨hmem, hwake⟩ := Option.ite_none_right_eq_some.mp hstep
    cases hwake
    cases client with
    | true => exact stopped_of_lastCall (h.lastCall_ne hmem)
    | false => exact stopped_stopFrom (hok rfl)
  | answer task backendRemaining =>
    obtain ⟨hmem, hanswer⟩ := Option.ite_none_right_eq_some.mp hstep
    cases hanswer
    exact h.answer hok hmem

/-! ## Runs -/

/-- There is at most one loop of each kind where the tasks of a call are started while there is
none, and after `stop_countdown` there is none where no other loop is alive when it is called. -/
theorem loops_of_reach (t : InstallModeDpSensor) :
    (system.Reach Unaccompanied t → ∀ kind, alive t.loops kind ≤ 1) ∧
      (system.Reach StopsAlone t → t.lastCall = some .stopCountdown → t.loops = []) := by
  constructor
  · intro h kind
    have hsingle := h.invariant (P := Single) ⟨⟨rfl, rfl⟩, fun _ => Nat.zero_le _⟩
      fun _ _ _ hs hok hstep => hs.step hok hstep
    exact (Nat.le_add_right _ _).trans (hsingle.total_le kind)
  · intro h hlast
    have hstopped := h.invariant (P := fun s => s.Unreferenced ∧ s.Stopped) ⟨⟨rfl, rfl⟩, nofun⟩
      fun _ _ _ hs hok hstep => ⟨hs.1.step hstep, hs.2.step hs.1 hok hstep⟩
    exact (hstopped.2 hlast).1

instance : DecidableRel Unaccompanied := fun s a =>
  inferInstanceAs (Decidable (a = .tick → s.startsTasks = true →
    s.total .countdown = 0 ∧ s.total .sync = 0))

instance : DecidableRel StopsAlone := fun s a =>
  inferInstanceAs (Decidable (s.callsStop a = true → ∀ loop ∈ s.loops, resumed a = some loop.task))

/-- A countdown of 20 seconds, until its loops have ended one after the other. -/
def countedDown : List InstallModeStep :=
  [.startCountdown 20, .tick, .tick, .tick, .tick, .tick, .tick, .wakeSync 2 true,
    .elapse 20000000, .answer 2 (some 1), .wakeCountdown 1, .tick, .tick]

theorem loops_of_reach_countedDown : ∃ t : InstallModeDpSensor,
    t.lastCall = some .stopCountdown ∧ (∀ kind, alive t.loops kind ≤ 1) ∧ t.loops = [] := by
  have hrun : ∃ t, system.replay (fun s a => Unaccompanied s a ∧ StopsAlone s a) system.init
      countedDown = some t ∧ t.lastCall = some .stopCountdown := replay_any (by decide +kernel)
  obtain ⟨t, ht, hlast⟩ := hrun
  have hsteps := steps_of_replay ht
  have hstarts : system.Reach Unaccompanied t := ⟨_, hsteps.mono fun _ _ hok => hok.1⟩
  have hstops : system.Reach StopsAlone t := ⟨_, hsteps.mono fun _ _ hok => hok.2⟩
  exact ⟨t, hlast, (loops_of_reach t).1 hstarts, (loops_of_reach t).2 hstops hlast⟩

/-- Two starts and a stop. -/
def startedTwice : List InstallModeStep :=
  [.startCountdown 60, .tick, .tick, .tick, .tick, .tick, .tick,
    .startCountdown 60, .tick, .tick, .tick, .tick, .tick, .tick, .stopCountdown, .tick, .tick]

/-- They leave two countdown loops, once everything that was scheduled has run. -/
theorem not_loops_of_reach : ¬ ∀ t : InstallModeDpSensor, system.Reach Free t →
    t.looper.ready = [] → (∀ kind, alive t.loops kind ≤ 1) ∧
      (t.lastCall = some .stopCountdown → t.loops = []) := by
  intro h
  have hrun : ∃ t, system.replay Free system.init startedTwice = some t ∧
      t.looper.ready = [] ∧ alive t.loops .countdown = 2 := replay_any (by decide +kernel)
  obtain ⟨t, ht, hready, htwo⟩ := hrun
  have hone := (h t (reach_of_replay ht) hready).1 .countdown
  omega

end InstallModeDpSensor

end AioHomematic.Model
