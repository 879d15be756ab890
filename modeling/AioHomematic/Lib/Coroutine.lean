import AioHomematic.Lib.StepSystem

/-!
# Coroutines on one event loop

A coroutine over a shared state runs from one point to the next without
interruption; at a point it may have to wait, and others run. Jobs arrive one
after the other, each with a task of its own; tasks start in the order of their
jobs and go on in any order. There is one semaphore, with one permit, that
serves those who wait for it in the order in which they came.
-/

namespace AioHomematic.Lib

open StepSystem

variable {S J : Type*}

inductive Point where
  /-- Waiting for anything but the semaphore. -/
  | await
  | acquire
  /-- The semaphore is released, without waiting. -/
  | release
deriving DecidableEq

/-- What happens from a point to the next one: an effect on the state, and how the coroutine goes
on. -/
inductive Coroutine (S : Type*) where
  | done
  | step (point : Point) (effect : S → S) (next : S → Coroutine S)

/-- A part that runs without interruption. -/
abbrev Segment (S : Type*) := S → S × Coroutine S

namespace Coroutine

def after (point : Point) (segment : Segment S) : Coroutine S :=
  .step point (fun s => (segment s).1) (fun s => (segment s).2)

/-- The coroutine alone, to its end. -/
def run : Coroutine S → S → S
  | .done, s => s
  | .step _ effect next, s => (next s).run (effect s)

def isDone : Coroutine S → Bool
  | .done => true
  | .step .. => false

theorem eq_done_of_isDone {task : Coroutine S} (h : task.isDone = true) : task = .done := by
  cases task with
  | done => rfl
  | step => cases h

end Coroutine

namespace Segment

def finish : Segment S := fun s => (s, .done)

/-- Nothing is done before the point. -/
def pause (point : Point) (segment : Segment S) : Segment S :=
  fun s => (s, .after point segment)

/-- The part, and what comes after it, alone. -/
def run (segment : Segment S) (s : S) : S := (segment s).2.run (segment s).1

/-- Neither the part nor what comes after it changes this of the state. -/
def Leaves {A : Type*} (f : S → A) (segment : Segment S) : Prop :=
  ∀ s, f (segment.run s) = f s

theorem leaves_finish {A : Type*} (f : S → A) : (finish : Segment S).Leaves f := fun _ => rfl

theorem Leaves.pause {A : Type*} {f : S → A} {segment : Segment S} (h : segment.Leaves f)
    (point : Point) : (segment.pause point).Leaves f := h

end Segment

structure Pool (J S : Type*) where
  shared : S
  holder : Option Nat := none
  /-- The tasks that wait for the semaphore. -/
  waiters : List Nat := []
  jobs : List J := []
  tasks : List (Coroutine S) := []
  /-- The tasks before this one have started. -/
  started : Nat := 0

inductive PoolAction (J : Type*) where
  | arrive (job : J)
  | start
  | resume (i : Nat)

namespace Pool

def rest (p : Pool J S) (i : Nat) (task : Coroutine S) : Pool J S :=
  { p with tasks := p.tasks.set i task }

/-- A task runs on until it has to wait. -/
def settle (i : Nat) : Coroutine S → Pool J S → Pool J S
  | .done, p => p.rest i .done
  | .step .await effect next, p => p.rest i (.step .await effect next)
  | .step .acquire effect next, p =>
    if p.holder.isSome ∨ p.waiters ≠ [] then
      { p with waiters := p.waiters ++ [i] }.rest i (.step .acquire effect next)
    else settle i (next p.shared) { p with shared := effect p.shared, holder := some i }
  | .step .release effect next, p =>
    settle i (next p.shared) { p with shared := effect p.shared, holder := none }

def step (program : J → Coroutine S) (p : Pool J S) : PoolAction J → Option (Pool J S)
  | .arrive job =>
    some { p with jobs := p.jobs ++ [job], tasks := p.tasks ++ [program job] }
  | .start =>
    p.tasks[p.started]?.map fun task =>
      let starting := { p with started := p.started + 1 }
      match task with
      | .step .await effect next =>
        settle p.started (next p.shared) { starting with shared := effect p.shared }
      | task => settle p.started task starting
  | .resume i =>
    if i < p.started then
      match p.tasks[i]? with
      | some (.step .await effect next) =>
        some (settle i (next p.shared) { p with shared := effect p.shared })
      | some (.step .acquire effect next) =>
        if p.holder = none ∧ p.waiters.head? = some i then
          some (settle i (next p.shared)
            { p with
              shared := effect p.shared, holder := some i, waiters := p.waiters.tail })
        else none
      | some (.step .release ..) => none
      | some .done => none
      | none => none
    else none

def system (program : J → Coroutine S) (s : S) : StepSystem (Pool J S) (PoolAction J) where
  init := { shared := s }
  step := step program

/-- Every job has arrived at its end. -/
def ended (p : Pool J S) : Bool :=
  p.started = p.jobs.length && p.tasks.all Coroutine.isDone

end Pool

/-- The jobs one after the other, each alone. -/
def serial (program : J → Coroutine S) (s : S) (jobs : List J) : S :=
  jobs.foldl (fun s job => (program job).run s) s

theorem serial_concat (program : J → Coroutine S) (s : S) (jobs : List J) (job : J) :
    serial program s (jobs ++ [job]) = (program job).run (serial program s jobs) := by
  rw [serial, List.foldl_append]
  rfl

end AioHomematic.Lib

/-!
## What a job touches

Every job touches some places of the state, its footprint. A place may be
`Calm`; whoever holds the semaphore can rely on all places but its own being
so. `Twin` says that a coroutine among others does the same to its places as one
that runs alone, and nothing to other places; `Mirrors` says it of a part that
runs without interruption and what comes after it.
-/

namespace AioHomematic.Lib

open StepSystem

variable {J S L : Type*}

/-- The places of a state, and what jobs touch of them. -/
structure Locality (J S L : Type*) where
  Agree : L → S → S → Prop
  Calm : L → S → Prop
  Valid : S → Prop
  /-- The jobs that may arrive. -/
  Admits : J → Prop
  footprint : J → List L
  /-- The job does all its work under the semaphore. -/
  exclusive : J → Bool
  refl : ∀ l s, Agree l s s
  symm : ∀ {l s t}, Agree l s t → Agree l t s
  trans : ∀ {l s t u}, Agree l s t → Agree l t u → Agree l s u
  calm : ∀ {l s t}, Agree l s t → Calm l s → Calm l t

/-- The point may come, for a task that holds the semaphore or not. -/
def Point.Enabled : Point → Bool → Prop
  | .await, _ => True
  | .acquire, holds => holds = false
  | .release, holds => holds = true

/-- The task holds the semaphore after the point. -/
def Point.holds : Point → Bool → Bool
  | .await, holds => holds
  | .acquire, _ => true
  | .release, _ => false

/-- The semaphore is held to the last point, which releases it. -/
def Coroutine.Held : Coroutine S → Prop
  | .done => False
  | .step .await _ next => ∀ s, (next s).Held
  | .step .acquire .. => False
  | .step .release _ next => ∀ s, next s = .done

/-- After the part the semaphore is held to the last point. -/
def Segment.Held (segment : Segment S) : Prop := ∀ s, (segment s).2.Held

/-- All work is done under the semaphore. -/
def Coroutine.Exclusive : Coroutine S → Prop
  | .done => False
  | .step .await .. => False
  | .step .acquire _ next => ∀ s, (next s).Held
  | .step .release .. => False

theorem Segment.Held.await {segment : Segment S} (h : segment.Held) :
    (segment.pause .await).Held := fun _ => h

theorem Segment.held_release : (Segment.pause .release (Segment.finish (S := S))).Held :=
  fun _ _ => rfl

theorem Coroutine.Held.next {point : Point} {effect : S → S} {next : S → Coroutine S}
    (h : (Coroutine.step point effect next).Held) (s : S) (hrest : (next s).isDone = false) :
    point = .await ∧ (next s).Held := by
  cases point with
  | await => exact ⟨rfl, h s⟩
  | acquire => exact h.elim
  | release =>
    rw [h s] at hrest
    cases hrest

theorem Coroutine.Exclusive.eq_acquire {task : Coroutine S} (h : task.Exclusive) :
    ∃ effect next, task = .step .acquire effect next ∧ ∀ s, (next s).Held := by
  cases task with
  | done => exact h.elim
  | step point effect next =>
    cases point with
    | acquire => exact ⟨effect, next, rfl, h⟩
    | await | release => exact h.elim

namespace Locality

variable (M : Locality J S L)

def AgreeIn (A : List L) (s t : S) : Prop := ∀ l ∈ A, M.Agree l s t

def AgreeOut (A : List L) (s t : S) : Prop := ∀ l, l ∉ A → M.Agree l s t

def CalmIn (A : List L) (s : S) : Prop := ∀ l ∈ A, M.Calm l s

def CalmOut (A : List L) (s : S) : Prop := ∀ l, l ∉ A → M.Calm l s

/-- From `s` to `s'` and from `t` to `t'` the same was done to the places `A`, and nothing to
others. -/
structure Alike (A : List L) (s t s' t' : S) : Prop where
  same : M.AgreeOut A s s'
  same' : M.AgreeOut A t t'
  agree : M.AgreeIn A s' t'
  valid : M.Valid s'
  valid' : M.Valid t'

/-- Whatever others do to places not in `A` while `task` waits: it does the same to `A` as `task'`
alone, from any state with the places `A` of `s₀`. A step of the one may be several steps of the
other, or none. -/
def Twin (A : List L) : Bool → Coroutine S → Coroutine S → S → Prop
  | holds, .done, task', s₀ => task' = .done ∧ holds = false ∧ M.CalmIn A s₀
  | holds, .step point effect next, task', s₀ =>
    point.Enabled holds ∧ (holds = false ∨ point = .release → M.CalmIn A s₀) ∧
      ∀ s t, M.Valid s → M.Valid t → M.AgreeIn A s₀ s → M.AgreeIn A s₀ t →
        (holds = true ∨ point.holds holds = true → M.CalmOut A s ∧ M.CalmOut A t) →
          ∃ t' task'', task''.run t' = task'.run t ∧ M.Alike A s t (effect s) t' ∧
            Twin A (point.holds holds) (next s) task'' (effect s)

/-- A part from `s`, with all that comes after it, does the same as is done alone from `t` to the
end `r`. -/
def Mirrors (A : List L) (holds : Bool) (segment : Segment S) (s t r : S) : Prop :=
  ∃ t' task', Coroutine.run task' t' = r ∧ M.Alike A s t (segment s).1 t' ∧
    M.Twin A holds (segment s).2 task' (segment s).1

/-- A part mirrors itself, from any state with `P` in which it may come. -/
def Follows (A : List L) (holds : Bool) (P : S → Prop) (segment : Segment S) : Prop :=
  ∀ s t, M.Valid s → M.Valid t → M.AgreeIn A s t →
    (holds = true → M.CalmOut A s ∧ M.CalmOut A t) → P s →
    M.Mirrors A holds segment s t (segment.run t)

/-- A part that may come where the semaphore is not held. -/
abbrev FollowsFree (A : List L) (segment : Segment S) : Prop :=
  M.Follows A false (M.CalmIn A) segment

/-- The jobs touch their footprints only. -/
structure Respects (program : J → Coroutine S) : Prop where
  twin : ∀ job s, M.Admits job → M.Valid s → M.CalmIn (M.footprint job) s →
    M.Twin (M.footprint job) false (program job) (program job) s
  exclusive : ∀ job, M.exclusive job = true → (program job).Exclusive

/-- Jobs that touch their footprints only, and a state from which they may run. -/
structure Ready (program : J → Coroutine S) (s : S) : Prop extends M.Respects program where
  valid : M.Valid s
  allCalm : ∀ l, M.Calm l s

variable {M} {A : List L} {s t u : S} {holds : Bool} {task task' : Coroutine S}

theorem AgreeIn.symm (h : M.AgreeIn A s t) : M.AgreeIn A t s := fun l hl => M.symm (h l hl)

theorem AgreeIn.trans (h : M.AgreeIn A s t) (h' : M.AgreeIn A t u) : M.AgreeIn A s u :=
  fun l hl => M.trans (h l hl) (h' l hl)

theorem AgreeOut.trans (h : M.AgreeOut A s t) (h' : M.AgreeOut A t u) : M.AgreeOut A s u :=
  fun l hl => M.trans (h l hl) (h' l hl)

theorem AgreeIn.refl (s : S) : M.AgreeIn A s s := fun l _ => M.refl l s

theorem AgreeIn.calm (h : M.AgreeIn A s t) (hcalm : M.CalmIn A s) : M.CalmIn A t :=
  fun l hl => M.calm (h l hl) (hcalm l hl)

theorem AgreeOut.calm (h : M.AgreeOut A s t) (hcalm : M.CalmOut A s) : M.CalmOut A t :=
  fun l hl => M.calm (h l hl) (hcalm l hl)

/-- Only the places of the state matter. -/
theorem Twin.congr (h : M.Twin A holds task task' s) (hagree : M.AgreeIn A s t) :
    M.Twin A holds task task' t := by
  cases task with
  | done =>
    obtain ⟨hdone, hfree, hcalm⟩ := h
    exact ⟨hdone, hfree, hagree.calm hcalm⟩
  | step point effect next =>
    obtain ⟨henabled, hcalm, hstep⟩ := h
    exact ⟨henabled, fun hrest => hagree.calm (hcalm hrest),
      fun s' t' hs ht hs' ht' => hstep s' t' hs ht (hagree.trans hs') (hagree.trans ht')⟩

/-- Where the semaphore is not held, or about to be released, the places of a task are calm. -/
theorem Twin.calm (h : M.Twin A false task task' s) : M.CalmIn A s := by
  cases task with
  | done => exact h.2.2
  | step point effect next => exact h.2.1 (.inl rfl)

theorem Twin.isDone_eq_false (h : M.Twin A true task task' s) : task.isDone = false := by
  cases task with
  | done => cases h.2.1
  | step => rfl

theorem Twin.eq_done (h : M.Twin A holds task task' s) (hdone : task.isDone = true) :
    task' = .done := by
  cases task with
  | done => exact h.1
  | step => cases hdone

/-- A coroutine that runs alone. -/
theorem Twin.run (h : M.Twin A holds task task' s) (hvalid : M.Valid s) (hout : M.CalmOut A s) :
    M.AgreeOut A s (task.run s) ∧ M.Valid (task.run s) ∧ M.CalmIn A (task.run s) := by
  induction task generalizing holds task' s with
  | done => exact ⟨fun l _ => M.refl l s, hvalid, h.2.2⟩
  | step point effect next ih =>
    obtain ⟨t', task'', -, halike, hnext⟩ :=
      h.2.2 s s hvalid hvalid (.refl s) (.refl s) fun _ => ⟨hout, hout⟩
    obtain ⟨hrest, hend⟩ := ih s hnext halike.valid (halike.same.calm hout)
    exact ⟨halike.same.trans hrest, hend⟩

/-! ## Parts that run without interruption -/

section Segments

variable {s' t' s'' t'' r : S} {point : Point} {segment part : Segment S}

theorem Alike.refl (hagree : M.AgreeIn A s t) (hs : M.Valid s) (ht : M.Valid t) :
    M.Alike A s t s t where
  same := fun l _ => M.refl l s
  same' := fun l _ => M.refl l t
  agree := hagree
  valid := hs
  valid' := ht

theorem Alike.trans (h : M.Alike A s t s' t') (h' : M.Alike A s' t' s'' t'') :
    M.Alike A s t s'' t'' where
  same := h.same.trans h'.same
  same' := h.same'.trans h'.same'
  agree := h'.agree
  valid := h'.valid
  valid' := h'.valid'

/-- A part that begins with something alike. -/
theorem Mirrors.begin (halike : M.Alike A s t s' t') (h : M.Mirrors A holds segment s' t' r)
    (hpart : part s = segment s') : M.Mirrors A holds part s t r := by
  obtain ⟨t'', task', hrun, halike', htwin⟩ := h
  rw [Mirrors, hpart]
  exact ⟨t'', task', hrun, halike.trans halike', htwin⟩

theorem Twin.after (henabled : point.Enabled holds)
    (hcalm : holds = false ∨ point = .release → M.CalmIn A u)
    (h : ∀ s t, M.Valid s → M.Valid t → M.AgreeIn A u s → M.AgreeIn A u t →
      (holds = true ∨ point.holds holds = true → M.CalmOut A s ∧ M.CalmOut A t) →
      M.Mirrors A (point.holds holds) segment s t (task'.run t)) :
    M.Twin A holds (.after point segment) task' u :=
  ⟨henabled, hcalm, h⟩

/-- A part that waits at once, where the task alone goes on as `task'`. -/
theorem Mirrors.await (task' : Coroutine S) (hagree : M.AgreeIn A s t) (hs : M.Valid s)
    (ht : M.Valid t) (hcalm : holds = false → M.CalmIn A s) (hr : task'.run t = r)
    (h : ∀ s' t', M.Valid s' → M.Valid t' → M.AgreeIn A s s' → M.AgreeIn A s t' →
      (holds = true → M.CalmOut A s' ∧ M.CalmOut A t') →
      M.Mirrors A holds segment s' t' (task'.run t')) :
    M.Mirrors A holds (segment.pause .await) s t r :=
  ⟨t, task', hr, .refl hagree hs ht, .after trivial (fun h => hcalm (h.resolve_right (by simp)))
    fun s' t' hs' ht' hss' hst' hout => h s' t' hs' ht' hss' hst' fun hh => hout (.inl hh)⟩

/-- A part that releases the semaphore at once. -/
theorem Mirrors.release (task' : Coroutine S) (hagree : M.AgreeIn A s t) (hs : M.Valid s)
    (ht : M.Valid t) (hcalm : M.CalmIn A s) (hr : task'.run t = r)
    (h : ∀ s' t', M.Valid s' → M.Valid t' → M.AgreeIn A s s' → M.AgreeIn A s t' →
      M.CalmOut A s' → M.CalmOut A t' → M.Mirrors A false segment s' t' (task'.run t')) :
    M.Mirrors A true (segment.pause .release) s t r :=
  ⟨t, task', hr, .refl hagree hs ht, .after rfl (fun _ => hcalm)
    fun s' t' hs' ht' hss' hst' hout =>
      h s' t' hs' ht' hss' hst' (hout (.inl rfl)).1 (hout (.inl rfl)).2⟩

theorem follows_finish : M.Follows A false (M.CalmIn A) Segment.finish :=
  fun _ t hs ht hagree _ hcalm => ⟨t, .done, rfl, .refl hagree hs ht, rfl, rfl, hcalm⟩

theorem Follows.await {P Q : S → Prop} (hcalm : holds = false → ∀ s, P s → M.CalmIn A s)
    (hP : ∀ s s', M.AgreeIn A s s' → P s → Q s') (h : M.Follows A holds Q segment) :
    M.Follows A holds P (segment.pause .await) :=
  fun s _ hs ht hagree _ hp =>
    .await (.after .await segment) hagree hs ht (fun hholds => hcalm hholds s hp) rfl
      fun s' t' hs' ht' hss' hst' hout =>
        h s' t' hs' ht' (hss'.symm.trans hst') hout (hP s s' hss' hp)

theorem Follows.release {P : S → Prop} (hP : ∀ s, P s → M.CalmIn A s)
    (h : M.FollowsFree A segment) : M.Follows A true P (segment.pause .release) :=
  fun s t hs ht hagree _ hp =>
    .release (.after .release segment) hagree hs ht (hP s hp) rfl
      fun s' t' hs' ht' hss' hst' _ _ =>
        h s' t' hs' ht' (hss'.symm.trans hst') (by simp) (hss'.calm (hP s hp))

theorem Follows.acquire (h : M.Follows A true (M.CalmIn A) segment) :
    M.FollowsFree A (segment.pause .acquire) :=
  fun _ t hs ht hagree _ hcalm =>
    ⟨t, .after .acquire segment, rfl, .refl hagree hs ht, .after rfl (fun _ => hcalm)
      fun s' t' hs' ht' hss' hst' hout =>
        h s' t' hs' ht' (hss'.symm.trans hst') (fun _ => hout (.inr rfl)) (hss'.calm hcalm)⟩

/-- An effect on the places of `A` may come before a part. -/
theorem Follows.begin {P Q : S → Prop} {effect : S → S}
    (halike : ∀ s t, M.AgreeIn A s t → M.Valid s → M.Valid t → P s →
      M.Alike A s t (effect s) (effect t))
    (hP : ∀ s, M.Valid s → P s → Q (effect s)) (h : M.Follows A holds Q segment) :
    M.Follows A holds P fun s => segment (effect s) := by
  intro s t hs ht hagree hout hp
  have heffect := halike s t hagree hs ht hp
  refine .begin heffect (h _ _ heffect.valid heffect.valid' heffect.agree (fun hholds => ?_)
    (hP s hs hp)) rfl
  exact ⟨heffect.same.calm (hout hholds).1, heffect.same'.calm (hout hholds).2⟩

/-- Parts that are chosen by the places of `A`. -/
theorem Follows.of_eq {P : S → Prop}
    (h : ∀ s t, M.AgreeIn A s t → M.Valid s → M.Valid t → P s → ∃ part Q, part s = segment s ∧
      part t = segment t ∧ Q s ∧ M.Follows A holds Q part) : M.Follows A holds P segment := by
  intro s t hs ht hagree hout hp
  obtain ⟨part, Q, hpart, hpart', hq, hfollows⟩ := h s t hagree hs ht hp
  have hmirrors := hfollows s t hs ht hagree hout hq
  rw [Segment.run, hpart'] at hmirrors
  exact .begin (.refl hagree hs ht) hmirrors hpart.symm

theorem Follows.twin (point : Point) (henabled : point.Enabled false)
    (h : M.Follows A (point.holds false) (M.CalmIn A) segment) (hcalm : M.CalmIn A u) :
    M.Twin A false (.after point segment) (.after point segment) u :=
  .after henabled (fun _ => hcalm) fun s t hs ht hus hut hout =>
    h s t hs ht (hus.symm.trans hut) (fun hholds => hout (.inr hholds)) (hus.calm hcalm)

end Segments

/-! ## One after the other -/

section Serial

variable {program : J → Coroutine S}

theorem Ready.agreeOut (h : M.Ready program s) {job : J} (hjob : M.Admits job) :
    M.AgreeOut (M.footprint job) s ((program job).run s) :=
  ((h.twin job s hjob h.valid fun l _ => h.allCalm l).run h.valid fun l _ => h.allCalm l).1

theorem Ready.run (h : M.Ready program s) {job : J} (hjob : M.Admits job) :
    M.Ready program ((program job).run s) := by
  obtain ⟨hsame, hvalid, hin⟩ :=
    (h.twin job s hjob h.valid fun l _ => h.allCalm l).run h.valid fun l _ => h.allCalm l
  refine ⟨h.toRespects, hvalid, fun l => ?_⟩
  by_cases hl : l ∈ M.footprint job
  · exact hin l hl
  · exact M.calm (hsame l hl) (h.allCalm l)

theorem Ready.serial (h : M.Ready program s) {jobs : List J} (hjobs : ∀ job ∈ jobs, M.Admits job) :
    M.Ready program (serial program s jobs) := by
  induction jobs generalizing s with
  | nil => exact h
  | cons job jobs ih =>
    have hrun := h.run (hjobs job List.mem_cons_self)
    exact ih hrun fun job' hjob' => hjobs job' (List.mem_cons_of_mem _ hjob')

end Serial

end Locality

end AioHomematic.Lib
