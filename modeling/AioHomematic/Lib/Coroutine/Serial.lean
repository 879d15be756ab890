import Mathlib.Order.Basic
import Mathlib.Data.Nat.Find
import AioHomematic.Lib.Coroutine

/-!
# Jobs that might as well run one after the other

Where jobs with a common place do not overlap, unless both do all their work
under the semaphore, the state at the end is that of the jobs one after the
other (`agree_of_ended`). A task is touched from its first effect on: at a place
that no running task has touched the state is that of the jobs that have ended
(`Kept.clean`), and a running task would do the same alone (`Kept.running`).
-/

namespace AioHomematic.Lib

open StepSystem Locality

variable {J S L : Type*}

namespace Pool

section

variable (M : Locality J S L) (program : J → Coroutine S) (s₀ : S) (p : Pool J S)

def footprint (i : Nat) : List L := (p.jobs[i]?.map M.footprint).getD []

def exclusive (i : Nat) : Bool := (p.jobs[i]?.map M.exclusive).getD false

def hasEnded (i : Nat) : Bool := (p.tasks[i]?.map Coroutine.isDone).getD false

/-- A task starts only where those that have started and not ended have no place in common with it,
or both do all their work under the semaphore. -/
def Apart [DecidableEq L] (p : Pool J S) : PoolAction J → Prop
  | .arrive job => M.Admits job
  | .start => ∀ j < p.started, p.hasEnded j = true ∨
      (∀ l ∈ p.footprint M j, l ∉ p.footprint M p.started) ∨
        (p.exclusive M j = true ∧ p.exclusive M p.started = true)
  | .resume _ => True

instance [DecidableEq L] [DecidablePred M.Admits] : DecidableRel (Apart (S := S) M)
  | _, .arrive job => inferInstanceAs (Decidable (M.Admits job))
  | _, .start => inferInstanceAs (Decidable (∀ j < _, _))
  | _, .resume _ => .isTrue trivial

/-- The state after the first `m` jobs, one after the other. -/
def after (m : Nat) : S := serial program s₀ (p.jobs.take m)

/-- `T` are the tasks that have touched the state; the task in `hand`, if any, is running. -/
structure Kept (hand : Option Nat) (T : Nat → Prop) : Prop where
  admitted : ∀ job ∈ p.jobs, M.Admits job
  length : p.tasks.length = p.jobs.length
  started_le : p.started ≤ p.jobs.length
  valid : M.Valid p.shared
  unstarted : ∀ i job, p.started ≤ i → p.jobs[i]? = some job → p.tasks[i]? = some (program job)
  touched : ∀ i, T i → i < p.started
  untouched : ∀ i job, hand ≠ some i → i < p.started → ¬ T i → p.jobs[i]? = some job →
    M.exclusive job = true ∧ p.tasks[i]? = some (program job) ∧ i ∈ p.waiters
  waiting : ∀ i ∈ p.waiters, i < p.started
  fifo : p.waiters.Pairwise fun i j => ¬ T i → ¬ T j → i < j
  /-- A task touches the state after all earlier ones with a common place have ended. -/
  apart : ∀ i j l, i < j → T j → l ∈ p.footprint M i → l ∈ p.footprint M j →
    T i ∧ p.hasEnded i = true
  compatible : ∀ i j l, i < j → j < p.started → l ∈ p.footprint M i → l ∈ p.footprint M j →
    p.hasEnded i = true ∨ (p.exclusive M i = true ∧ p.exclusive M j = true)
  /-- A place that no running task has touched is as the ended jobs leave it. -/
  clean : ∀ l m, m ≤ p.jobs.length →
    (∀ i < m, l ∈ p.footprint M i → T i ∧ p.hasEnded i = true) →
      (∀ i, m ≤ i → l ∈ p.footprint M i → ¬ T i) → M.Agree l p.shared (p.after program s₀ m)
  /-- A running task would do the same alone. -/
  running : ∀ i task, T i → p.tasks[i]? = some task → task.isDone = false →
    ∃ u task', M.Twin (p.footprint M i) (p.holder = some i) task task' p.shared ∧ M.Valid u ∧
      M.AgreeOut (p.footprint M i) (p.after program s₀ i) u ∧
      M.AgreeIn (p.footprint M i) p.shared u ∧ task'.run u = p.after program s₀ (i + 1)
  exclusiveHeld : ∀ i task, hand ≠ some i → T i → p.exclusive M i = true →
    p.tasks[i]? = some task → task.isDone = false → task.Held ∧ p.holder = some i
  holder : ∀ i, p.holder = some i → T i ∧ p.hasEnded i = false

end

variable {M : Locality J S L} {program : J → Coroutine S} {s₀ : S} {p : Pool J S}
  {hand : Option Nat} {T : Nat → Prop} {i j m : Nat} {l : L} {job : J} {task : Coroutine S}

theorem footprint_eq (h : p.jobs[i]? = some job) : p.footprint M i = M.footprint job := by
  simp [footprint, h]

theorem exclusive_eq (h : p.jobs[i]? = some job) : p.exclusive M i = M.exclusive job := by
  simp [exclusive, h]

theorem hasEnded_eq (h : p.tasks[i]? = some task) : p.hasEnded i = task.isDone := by
  simp [hasEnded, h]

theorem getElem?_of_hasEnded (h : p.hasEnded i = true) : p.tasks[i]? = some .done := by
  cases htask : p.tasks[i]? with
  | none => simp [hasEnded, htask] at h
  | some task =>
    rw [hasEnded_eq htask] at h
    rw [Coroutine.eq_done_of_isDone h]

theorem lt_of_mem_footprint (h : l ∈ p.footprint M i) : i < p.jobs.length := by
  cases hjob : p.jobs[i]? with
  | none => simp [footprint, hjob] at h
  | some job => exact (List.getElem?_eq_some_iff.mp hjob).1

theorem exists_job_of_lt (h : i < p.jobs.length) : ∃ job, p.jobs[i]? = some job :=
  ⟨_, List.getElem?_eq_getElem h⟩

/-! ## The jobs alone -/

theorem after_succ (h : p.jobs[i]? = some job) :
    p.after program s₀ (i + 1) = (program job).run (p.after program s₀ i) := by
  obtain ⟨hi, rfl⟩ := List.getElem?_eq_some_iff.mp h
  rw [after, List.take_succ_eq_append_getElem hi, serial_concat]
  rfl

section Ready

variable (hready : M.Ready program s₀) (hadmitted : ∀ job ∈ p.jobs, M.Admits job)

include hready hadmitted

theorem ready_after (m : Nat) : M.Ready program (p.after program s₀ m) :=
  hready.serial fun job hjob => hadmitted job (List.mem_of_mem_take hjob)

/-- Jobs leave a place alone that is not theirs. -/
theorem agree_after (him : i ≤ m) (h : ∀ k, i ≤ k → k < m → l ∉ p.footprint M k) :
    M.Agree l (p.after program s₀ i) (p.after program s₀ m) := by
  induction m, him using Nat.le_induction with
  | base => exact M.refl l _
  | succ m him ih =>
    refine M.trans (ih fun k hik hkm => h k hik (by omega)) ?_
    cases hjob : p.jobs[m]? with
    | none =>
      have hlen : p.jobs.length ≤ m := List.getElem?_eq_none_iff.mp hjob
      simp only [after, List.take_of_length_le hlen,
        List.take_of_length_le (Nat.le_succ_of_le hlen)]
      exact M.refl l _
    | some job =>
      rw [after_succ hjob]
      refine (ready_after hready hadmitted m).agreeOut
        (hadmitted job (List.mem_of_getElem? hjob)) l ?_
      rw [← footprint_eq hjob]
      exact h m him (Nat.lt_succ_self m)

end Ready

/-! ## Where a run stands -/

namespace Kept

variable (hkept : p.Kept M program s₀ hand T)

include hkept

theorem exists_task (hi : T i) : ∃ task, p.tasks[i]? = some task := by
  have hlt : i < p.tasks.length := by
    rw [hkept.length]
    exact Nat.lt_of_lt_of_le (hkept.touched i hi) hkept.started_le
  exact ⟨_, List.getElem?_eq_getElem hlt⟩

/-- Two running tasks have no place in common. -/
theorem disjoint (hi : T i) (hj : T j) (hrest : p.hasEnded i = false)
    (hrest' : p.hasEnded j = false) (hne : i ≠ j) (hl : l ∈ p.footprint M i) :
    l ∉ p.footprint M j := by
  intro hl'
  obtain hlt | hlt := Nat.lt_or_gt_of_ne hne
  · have hend := (hkept.apart i j l hlt hj hl hl').2
    rw [hrest] at hend
    cases hend
  · have hend := (hkept.apart j i l hlt hi hl' hl).2
    rw [hrest'] at hend
    cases hend

theorem exists_agree (h : ∀ k, T k → l ∈ p.footprint M k → p.hasEnded k = true) :
    ∃ m, M.Agree l p.shared (p.after program s₀ m) := by
  classical
  by_cases hfirst : ∃ k, l ∈ p.footprint M k ∧ ¬ T k
  · -- up to the first job that has not touched its places
    obtain ⟨hl, hnot⟩ := Nat.find_spec hfirst
    refine ⟨Nat.find hfirst, hkept.clean l _ (lt_of_mem_footprint hl).le ?_ ?_⟩
    · intro i hi hli
      have hti : T i := by
        by_contra hti
        exact Nat.find_min hfirst hi ⟨hli, hti⟩
      exact ⟨hti, h i hti hli⟩
    · intro i hi hli hti
      obtain heq | hlt := hi.eq_or_lt
      · exact hnot (heq ▸ hti)
      · exact hnot (hkept.apart _ i l hlt hti hl hli).1
  · have hall : ∀ k, l ∈ p.footprint M k → T k := by
      intro k hl
      by_contra hnot
      exact hfirst ⟨k, hl, hnot⟩
    refine ⟨_, hkept.clean l p.jobs.length le_rfl ?_ ?_⟩
    · intro i _ hl
      exact ⟨hall i hl, h i (hall i hl) hl⟩
    · intro i hi hl
      exact absurd (lt_of_mem_footprint hl) (by omega)

/-- Whoever holds the semaphore, or might take it, can rely on the places of others. -/
theorem calmOut (hready : M.Ready program s₀) (hholder : ∀ k, p.holder = some k → k = i) :
    M.CalmOut (p.footprint M i) p.shared := by
  intro l hl
  by_cases hquiet : ∀ k, T k → l ∈ p.footprint M k → p.hasEnded k = true
  · obtain ⟨m, hm⟩ := hkept.exists_agree hquiet
    exact M.calm (M.symm hm) ((ready_after hready hkept.admitted m).allCalm l)
  · simp only [not_forall] at hquiet
    obtain ⟨k, hk, hlk, hrest⟩ := hquiet
    obtain ⟨task, htask⟩ := hkept.exists_task hk
    rw [hasEnded_eq htask, Bool.not_eq_true] at hrest
    obtain ⟨u, task', htwin, -⟩ := hkept.running k task hk htask hrest
    have hfree : ¬ p.holder = some k := fun h => hl (hholder k h ▸ hlk)
    rw [decide_eq_false hfree] at htwin
    exact htwin.calm l hlk

end Kept

/-! ## One effect -/

/-- Who holds the semaphore after the point of task `i`. -/
def handover (point : Point) (i : Nat) (holder : Option Nat) : Option Nat :=
  match point with
  | .await => holder
  | .acquire => some i
  | .release => none

/-- Task `i` goes on as `task`. -/
def go (p : Pool J S) (i : Nat) (s : S) (holder : Option Nat) (task : Coroutine S) : Pool J S :=
  { p with shared := s, holder := holder, tasks := p.tasks.set i task }

section Go

variable {s : S} {holder : Option Nat} {point : Point}

theorem tasks_go_ne (h : j ≠ i) : (p.go i s holder task).tasks[j]? = p.tasks[j]? :=
  List.getElem?_set_ne h.symm

theorem tasks_go_self (h : i < p.tasks.length) :
    (p.go i s holder task).tasks[i]? = some task := by
  simp [go, h]

theorem hasEnded_go_ne (h : j ≠ i) : (p.go i s holder task).hasEnded j = p.hasEnded j := by
  rw [hasEnded, hasEnded, tasks_go_ne h]

theorem handover_self (holder : Option Nat) :
    decide (handover point i holder = some i) = point.holds (decide (holder = some i)) := by
  cases point with
  | await => rfl
  | acquire => simp [handover, Point.holds]
  | release => simp [handover, Point.holds]

theorem handover_ne (hacquire : point = .acquire → holder = none)
    (hrelease : point = .release → holder = some i) (h : j ≠ i) :
    handover point i holder = some j ↔ holder = some j := by
  cases point with
  | await => exact Iff.rfl
  | acquire => simp [handover, hacquire rfl, h.symm]
  | release => simp [handover, hrelease rfl, h.symm]

end Go

namespace Kept

variable {point : Point} {effect : S → S} {next : S → Coroutine S}

/-- The effect of a running task, and of the same task alone. -/
theorem own_effect (hkept : p.Kept M program s₀ hand T) (hready : M.Ready program s₀) (hi : T i)
    (htask : p.tasks[i]? = some (.step point effect next))
    (hacquire : point = .acquire → p.holder = none) :
    M.AgreeOut (p.footprint M i) p.shared (effect p.shared) ∧ M.Valid (effect p.shared) ∧
      (point = .release → p.holder = some i) ∧
      ∃ u task', M.Twin (p.footprint M i) (handover point i p.holder = some i) (next p.shared)
        task' (effect p.shared) ∧ M.Valid u ∧
        M.AgreeOut (p.footprint M i) (p.after program s₀ i) u ∧
        M.AgreeIn (p.footprint M i) (effect p.shared) u ∧
        task'.run u = p.after program s₀ (i + 1) := by
  obtain ⟨u, task', htwin, hu, hout, hin, hrun⟩ := hkept.running i _ hi htask rfl
  obtain ⟨henabled, -, hstep⟩ := htwin
  have hfree : (decide (p.holder = some i) = true ∨
      point.holds (decide (p.holder = some i)) = true) → ∀ k, p.holder = some k → k = i := by
    intro h k hk
    cases point with
    | acquire => rw [hacquire rfl] at hk; cases hk
    | await | release =>
      simp only [Point.holds, decide_eq_true_eq, or_self, Bool.false_eq_true, or_false] at h
      rw [h] at hk
      exact (Option.some.inj hk).symm
  obtain ⟨u', task'', hrun', halike, hnext⟩ :=
    hstep p.shared u hkept.valid hu (.refl _) hin fun h =>
      ⟨hkept.calmOut hready (hfree h),
        hout.calm fun l _ => (ready_after hready hkept.admitted i).allCalm l⟩
  refine ⟨halike.same, halike.valid, fun h => ?_, u', task'', ?_, halike.valid',
    hout.trans halike.same', halike.agree, hrun'.trans hrun⟩
  · subst h
    exact of_decide_eq_true henabled
  · rw [handover_self]
    exact hnext

/-- The jobs that come after a running task leave its places alone. -/
theorem agree_after_own (hkept : p.Kept M program s₀ hand T) (hready : M.Ready program s₀)
    (hrest : p.hasEnded i = false) (him : i < m) (hl : l ∈ p.footprint M i)
    (h : ∀ k < m, l ∈ p.footprint M k → T k) :
    M.Agree l (p.after program s₀ (i + 1)) (p.after program s₀ m) := by
  refine agree_after hready hkept.admitted him fun k hik hkm hlk => ?_
  have hend := (hkept.apart i k l hik (h k hkm hlk) hl hlk).2
  rw [hrest] at hend
  cases hend

/-- A running task makes its next effect. -/
theorem advance (hkept : p.Kept M program s₀ (some i) T) (hready : M.Ready program s₀) (hi : T i)
    (htask : p.tasks[i]? = some (.step point effect next))
    (hacquire : point = .acquire → p.holder = none) :
    (p.go i (effect p.shared) (handover point i p.holder) (next p.shared)).Kept M program s₀
      (some i) T := by
  obtain ⟨hsame, hvalid, hrelease, u, task', htwin, hu, hout, hin, hrun⟩ :=
    hkept.own_effect hready hi htask hacquire
  have hlt : i < p.tasks.length := (List.getElem?_eq_some_iff.mp htask).1
  have hrest : p.hasEnded i = false := hasEnded_eq htask
  have hended : ∀ j, p.hasEnded j = true →
      (p.go i (effect p.shared) (handover point i p.holder) (next p.shared)).hasEnded j = true := by
    intro j hj
    have hne : j ≠ i := fun h => by
      rw [h, hrest] at hj
      cases hj
    rw [hasEnded_go_ne hne]
    exact hj
  exact {
    admitted := hkept.admitted
    length := by simpa [go] using hkept.length
    started_le := hkept.started_le
    valid := hvalid
    unstarted := fun j job hj hjob => by
      have hne : j ≠ i := Nat.ne_of_gt (Nat.lt_of_lt_of_le (hkept.touched i hi) hj)
      rw [tasks_go_ne hne]
      exact hkept.unstarted j job hj hjob
    touched := hkept.touched
    untouched := fun j job hhand hj hnot hjob => by
      have hne : j ≠ i := fun h => hnot (h ▸ hi)
      rw [tasks_go_ne hne]
      exact hkept.untouched j job hhand hj hnot hjob
    waiting := hkept.waiting
    fifo := hkept.fifo
    apart := fun j k l hjk hk hl hl' => by
      obtain ⟨hj, hend⟩ := hkept.apart j k l hjk hk hl hl'
      exact ⟨hj, hended j hend⟩
    compatible := fun j k l hjk hk hl hl' => by
      obtain hend | hex := hkept.compatible j k l hjk hk hl hl'
      · exact .inl (hended j hend)
      · exact .inr hex
    clean := fun l m hm hbefore hafter => by
      by_cases hl : l ∈ p.footprint M i
      · have him : i < m := Nat.lt_of_not_le fun h => hafter i h hl hi
        have hend := (hbefore i him hl).2
        rw [hasEnded_eq (tasks_go_self hlt)] at hend
        have hu' : u = p.after program s₀ (i + 1) := by
          rw [← hrun, htwin.eq_done hend]
          rfl
        refine M.trans (hin l hl) (hu' ▸ ?_)
        exact hkept.agree_after_own hready hrest him hl fun k hk hlk => (hbefore k hk hlk).1
      · refine M.trans (M.symm (hsame l hl)) (hkept.clean l m hm (fun j hj hlj => ?_) hafter)
        have hne : j ≠ i := fun h => hl (h ▸ hlj)
        obtain ⟨hj, hend⟩ := hbefore j hj hlj
        rw [hasEnded_go_ne hne] at hend
        exact ⟨hj, hend⟩
    running := fun j task hj hjtask hrest' => by
      by_cases hne : j = i
      · subst hne
        rw [tasks_go_self hlt] at hjtask
        obtain rfl := Option.some.inj hjtask
        exact ⟨u, task', htwin, hu, hout, hin, hrun⟩
      · rw [tasks_go_ne hne] at hjtask
        obtain ⟨v, task'', htwin', hv, hout', hin', hrun'⟩ := hkept.running j task hj hjtask hrest'
        have hagree : M.AgreeIn (p.footprint M j) p.shared (effect p.shared) := fun l hl =>
          hsame l (hkept.disjoint hj hi (by rw [hasEnded_eq hjtask, hrest']) hrest hne hl)
        refine ⟨v, task'', ?_, hv, hout', hagree.symm.trans hin', hrun'⟩
        simp only [go, handover_ne hacquire hrelease hne]
        exact htwin'.congr hagree
    exclusiveHeld := fun j task hhand hj hex hjtask hrest' => by
      have hne : j ≠ i := fun h => hhand (h ▸ rfl)
      rw [tasks_go_ne hne] at hjtask
      obtain ⟨hheld, hholder⟩ := hkept.exclusiveHeld j task hhand hj hex hjtask hrest'
      exact ⟨hheld, (handover_ne hacquire hrelease hne).mpr hholder⟩
    holder := fun j hj => by
      by_cases hne : j = i
      · subst hne
        refine ⟨hi, ?_⟩
        rw [hasEnded_eq (tasks_go_self hlt)]
        have hholds : decide (handover point j p.holder = some j) = true := decide_eq_true hj
        rw [hholds] at htwin
        exact htwin.isDone_eq_false
      · rw [hasEnded_go_ne hne]
        exact hkept.holder j ((handover_ne hacquire hrelease hne).mp hj)
  }

end Kept

/-! ## Tasks that start, wait and go on -/

namespace Kept

variable {point : Point} {effect : S → S} {next : S → Coroutine S}

/-- A task that has ended has touched its places. -/
theorem touched_of_ended (hkept : p.Kept M program s₀ hand T) (hready : M.Ready program s₀)
    (hi : i < p.started) (hhand : hand ≠ some i) (hend : p.hasEnded i = true) : T i := by
  by_contra hnot
  obtain ⟨job, hjob⟩ := exists_job_of_lt (Nat.lt_of_lt_of_le hi hkept.started_le)
  obtain ⟨hex, htask, -⟩ := hkept.untouched i job hhand hi hnot hjob
  have hexclusive := hready.exclusive job hex
  rw [getElem?_of_hasEnded hend] at htask
  rw [← Option.some.inj htask] at hexclusive
  exact hexclusive

theorem take (hkept : p.Kept M program s₀ none T) (i : Nat) :
    p.Kept M program s₀ (some i) T :=
  { hkept with
    untouched := fun j job _ => hkept.untouched j job (by simp)
    exclusiveHeld := fun j task _ => hkept.exclusiveHeld j task (by simp) }

theorem put (hkept : p.Kept M program s₀ (some i) T)
    (huntouched : ¬ T i → ∀ job, p.jobs[i]? = some job →
      M.exclusive job = true ∧ p.tasks[i]? = some (program job) ∧ i ∈ p.waiters)
    (hheld : ∀ task, T i → p.exclusive M i = true → p.tasks[i]? = some task →
      task.isDone = false → task.Held ∧ p.holder = some i) :
    p.Kept M program s₀ none T :=
  { hkept with
    untouched := fun j job _ hj hnot hjob => by
      by_cases hne : j = i
      · subst hne
        exact huntouched hnot job hjob
      · exact hkept.untouched j job (by simpa using Ne.symm hne) hj hnot hjob
    exclusiveHeld := fun j task _ hj hex htask hrest => by
      by_cases hne : j = i
      · subst hne
        exact hheld task hj hex htask hrest
      · exact hkept.exclusiveHeld j task (by simpa using Ne.symm hne) hj hex htask hrest }

theorem wait (hkept : p.Kept M program s₀ (some i) T) (hi : i < p.started)
    (hlast : ∀ j ∈ p.waiters, ¬ T j → ¬ T i → j < i) :
    Kept M program s₀ { p with waiters := p.waiters ++ [i] } (some i) T :=
  { hkept with
    untouched := fun j job hhand hj hnot hjob => by
      obtain ⟨hex, htask, hwaits⟩ := hkept.untouched j job hhand hj hnot hjob
      exact ⟨hex, htask, List.mem_append_left _ hwaits⟩
    waiting := fun j hj => by
      obtain hj | hj := List.mem_append.mp hj
      · exact hkept.waiting j hj
      · exact List.mem_singleton.mp hj ▸ hi
    fifo := by
      refine List.pairwise_append.mpr ⟨hkept.fifo, List.pairwise_singleton .., ?_⟩
      intro j hj k hk
      rw [List.mem_singleton.mp hk]
      exact hlast j hj }

theorem serve (hkept : p.Kept M program s₀ (some i) T) (hhead : p.waiters.head? = some i) :
    Kept M program s₀ { p with waiters := p.waiters.tail } (some i) T := by
  obtain ⟨rest, hwaiters⟩ := List.head?_eq_some_iff.mp hhead
  exact { hkept with
    untouched := fun j job hhand hj hnot hjob => by
      obtain ⟨hex, htask, hwaits⟩ := hkept.untouched j job hhand hj hnot hjob
      rw [hwaiters] at hwaits
      refine ⟨hex, htask, ?_⟩
      simp only [hwaiters, List.tail_cons]
      exact (List.mem_cons.mp hwaits).resolve_left fun h => hhand (h ▸ rfl)
    waiting := fun j hj => hkept.waiting j (List.mem_of_mem_tail hj)
    fifo := hkept.fifo.tail }

/-- The task in hand is about to make its first effect. -/
theorem touch (hkept : p.Kept M program s₀ (some i) T) (hready : M.Ready program s₀)
    (hi : i < p.started) (hnot : ¬ T i) (hjob : p.jobs[i]? = some job)
    (htask : p.tasks[i]? = some (program job))
    (hbefore : ∀ j l, j < i → l ∈ p.footprint M j → l ∈ p.footprint M i →
      T j ∧ p.hasEnded j = true) :
    p.Kept M program s₀ (some i) fun k => T k ∨ k = i := by
  have hlater : ∀ k l, i < k → l ∈ p.footprint M i → l ∈ p.footprint M k → ¬ T k :=
    fun k l hik hl hl' hk => hnot (hkept.apart i k l hik hk hl hl').1
  have hclean : ∀ l ∈ p.footprint M i, M.Agree l p.shared (p.after program s₀ i) := by
    intro l hl
    refine hkept.clean l i (Nat.le_of_lt (Nat.lt_of_lt_of_le hi hkept.started_le))
      (fun j hj hlj => hbefore j l hj hlj hl) fun k hk hlk => ?_
    obtain rfl | hlt := hk.eq_or_lt
    · exact hnot
    · exact hlater k l hlt hl hlk
  exact { hkept with
    touched := fun k hk => by
      obtain hk | rfl := hk
      · exact hkept.touched k hk
      · exact hi
    untouched := fun k job' hhand hk hnot' hjob' =>
      hkept.untouched k job' hhand hk (fun h => hnot' (.inl h)) hjob'
    fifo := hkept.fifo.imp fun h hj hk => h (fun h => hj (.inl h)) fun h => hk (.inl h)
    apart := fun j k l hjk hk hl hl' => by
      obtain hk | rfl := hk
      · obtain ⟨hj, hend⟩ := hkept.apart j k l hjk hk hl hl'
        exact ⟨.inl hj, hend⟩
      · obtain ⟨hj, hend⟩ := hbefore j l hjk hl hl'
        exact ⟨.inl hj, hend⟩
    clean := fun l m hm hfirst hrest => by
      by_cases hl : l ∈ p.footprint M i
      · -- the task in hand may have ended before it did anything
        have him : i < m := Nat.lt_of_not_le fun h => hrest i h hl (.inr rfl)
        have hdone := getElem?_of_hasEnded (hfirst i him hl).2
        rw [htask] at hdone
        have hsame : p.after program s₀ (i + 1) = p.after program s₀ i := by
          rw [after_succ hjob, Option.some.inj hdone]
          rfl
        refine M.trans (hclean l hl) (hsame ▸
          agree_after hready hkept.admitted him fun k hik hkm hlk => ?_)
        obtain hk | rfl := (hfirst k hkm hlk).1
        · exact hlater k l hik hl hlk hk
        · exact absurd hik (Nat.lt_irrefl k)
      · refine hkept.clean l m hm (fun j hj hlj => ?_) fun k hk hlk h => hrest k hk hlk (.inl h)
        obtain ⟨hj | rfl, hend⟩ := hfirst j hj hlj
        · exact ⟨hj, hend⟩
        · exact absurd hlj hl
    running := fun k task hk hktask hrest => by
      obtain hk | rfl := hk
      · exact hkept.running k task hk hktask hrest
      · rw [htask] at hktask
        obtain rfl := Option.some.inj hktask
        have hfree : ¬ p.holder = some k := fun h => hnot (hkept.holder k h).1
        have hcalm : M.CalmIn (M.footprint job) p.shared := fun l hl =>
          M.calm (M.symm (hclean l (footprint_eq hjob ▸ hl)))
            ((ready_after hready hkept.admitted k).allCalm l)
        refine ⟨p.after program s₀ k, program job, ?_, (ready_after hready hkept.admitted k).valid,
          fun l _ => M.refl l _, hclean, (after_succ hjob).symm⟩
        rw [decide_eq_false hfree, footprint_eq hjob]
        exact hready.twin job p.shared (hkept.admitted job (List.mem_of_getElem? hjob)) hkept.valid
          hcalm
    exclusiveHeld := fun k task hhand hk hex hktask hrest => by
      obtain hk | rfl := hk
      · exact hkept.exclusiveHeld k task hhand hk hex hktask hrest
      · exact absurd rfl hhand
    holder := fun k hk => by
      obtain ⟨hk, hrest⟩ := hkept.holder k hk
      exact ⟨.inl hk, hrest⟩ }

theorem rest_eq (htask : p.tasks[i]? = some task) : p.rest i task = p := by
  obtain ⟨hi, rfl⟩ := List.getElem?_eq_some_iff.mp htask
  simp [rest]

theorem put_rest (hi : T i) (hkept : (p.rest i task).Kept M program s₀ (some i) T)
    (hheld : p.exclusive M i = true → task.isDone = false → task.Held ∧ p.holder = some i) :
    (p.rest i task).Kept M program s₀ none T := by
  refine hkept.put (fun h => absurd hi h) fun task' _ hex htask hrest => ?_
  have hlt : i < p.tasks.length := by
    simpa [rest] using (List.getElem?_eq_some_iff.mp htask).1
  simp only [rest, List.getElem?_set_self hlt, Option.some.injEq] at htask
  subst htask
  exact hheld hex hrest

/-- A task that has touched its places runs on until it has to wait. -/
theorem settle (hready : M.Ready program s₀) (hi : T i)
    (hkept : (p.rest i task).Kept M program s₀ (some i) T)
    (hheld : p.exclusive M i = true → task.isDone = false → task.Held ∧ p.holder = some i) :
    (Pool.settle i task p).Kept M program s₀ none T := by
  induction task generalizing p with
  | done => exact hkept.put_rest hi hheld
  | step point effect next ih =>
    have hlt : i < p.tasks.length := by
      obtain ⟨task, htask⟩ := hkept.exists_task hi
      simpa [rest] using (List.getElem?_eq_some_iff.mp htask).1
    have htask : (p.rest i (.step point effect next)).tasks[i]? = some (.step point effect next) :=
      List.getElem?_set_self hlt
    cases point with
    | await => exact hkept.put_rest hi hheld
    | acquire =>
      simp only [Pool.settle]
      split
      · have hwait := hkept.wait (hkept.touched i hi) fun _ _ _ h => absurd hi h
        exact put_rest (p := { p with waiters := p.waiters ++ [i] }) hi hwait hheld
      · next hfree =>
        have hnone : p.holder = none := by simpa using (not_or.mp hfree).1
        have hnext := hkept.advance hready hi htask fun _ => hnone
        refine ih p.shared (by simpa [go, rest, handover] using hnext) ?_
        intro hex _
        exact (hheld hex rfl).1.elim
    | release =>
      have hnext := hkept.advance hready hi htask (by simp)
      refine ih p.shared (by simpa [go, rest, handover] using hnext) ?_
      intro hex hrest
      cases ((hheld hex rfl).1.next _ hrest).1

/-- A task that has touched its places makes an effect and runs on. -/
theorem advance_settle (hkept : p.Kept M program s₀ (some i) T) (hready : M.Ready program s₀)
    (hi : T i) (htask : p.tasks[i]? = some (.step point effect next))
    (hacquire : point = .acquire → p.holder = none)
    (hheld : p.exclusive M i = true → (next p.shared).isDone = false →
      (next p.shared).Held ∧ handover point i p.holder = some i) :
    (Pool.settle i (next p.shared) { p with
      shared := effect p.shared, holder := handover point i p.holder }).Kept M program s₀ none T :=
  settle hready hi (hkept.advance hready hi htask hacquire) hheld

/-- Nothing is left to do before the task in hand, where it does not wait for the semaphore. -/
theorem ended_before (hkept : p.Kept M program s₀ (some i) T) (hready : M.Ready program s₀)
    (hi : i < p.started) (hfree : p.exclusive M i = true → p.holder = none)
    (hfirst : p.exclusive M i = true → ∀ j < i, ¬ T j → j ∉ p.waiters) (j : Nat) (l : L)
    (hj : j < i) (hl : l ∈ p.footprint M j) (hl' : l ∈ p.footprint M i) :
    T j ∧ p.hasEnded j = true := by
  have hhand : (some i : Option Nat) ≠ some j := by simpa using Nat.ne_of_gt hj
  obtain hend | ⟨hex, hex'⟩ := hkept.compatible j i l hj hi hl hl'
  · exact ⟨hkept.touched_of_ended hready (hj.trans hi) hhand hend, hend⟩
  · have htouched : T j := by
      by_contra hnot
      obtain ⟨job, hjob⟩ := exists_job_of_lt (lt_of_mem_footprint hl)
      exact hfirst hex' j hj hnot (hkept.untouched j job hhand (hj.trans hi) hnot hjob).2.2
    refine ⟨htouched, ?_⟩
    by_contra hrest
    obtain ⟨task, htask⟩ := hkept.exists_task htouched
    rw [hasEnded_eq htask, Bool.not_eq_true] at hrest
    have hholder := (hkept.exclusiveHeld j task hhand htouched hex htask hrest).2
    rw [hfree hex'] at hholder
    cases hholder

theorem begin [DecidableEq L] (hkept : p.Kept M program s₀ none T) (hapart : Apart M p .start)
    (hjob : p.jobs[p.started]? = some job) :
    Kept M program s₀ { p with started := p.started + 1 } (some p.started) T :=
  { hkept.take p.started with
    started_le := (List.getElem?_eq_some_iff.mp hjob).1
    unstarted := fun i job hi => hkept.unstarted i job (Nat.le_of_succ_le hi)
    touched := fun i hi => Nat.lt_succ_of_lt (hkept.touched i hi)
    waiting := fun i hi => Nat.lt_succ_of_lt (hkept.waiting i hi)
    untouched := fun i job hhand hi hnot hjob => by
      have hne : i ≠ p.started := fun h => hhand (h ▸ rfl)
      exact hkept.untouched i job (by simp) (Nat.lt_of_le_of_ne (Nat.le_of_lt_succ hi) hne) hnot
        hjob
    compatible := fun i j l hij hj hl hl' => by
      obtain hlt | rfl := Nat.lt_succ_iff_lt_or_eq.mp hj
      · exact hkept.compatible i j l hij hlt hl hl'
      · obtain hend | hdisjoint | hex := hapart i hij
        · exact .inl hend
        · exact absurd hl' (hdisjoint l hl)
        · exact .inr hex }

/-- The task in hand has not touched its places; it is its turn. -/
theorem acquire_settle (hkept : p.Kept M program s₀ (some i) T) (hready : M.Ready program s₀)
    (hi : i < p.started) (hnot : ¬ T i) (hjob : p.jobs[i]? = some job)
    (htask : p.tasks[i]? = some (program job)) (hex : M.exclusive job = true)
    (hfree : p.holder = none) (hfirst : ∀ j < i, ¬ T j → j ∉ p.waiters)
    (heq : program job = .step .acquire effect next) :
    (Pool.settle i (next p.shared) { p with
      shared := effect p.shared, holder := some i }).Kept M program s₀ none
        fun k => T k ∨ k = i := by
  have hbefore := hkept.ended_before hready hi (fun _ => hfree) fun _ => hfirst
  have htouched := hkept.touch hready hi hnot hjob htask hbefore
  have hheld := hready.exclusive job hex
  rw [heq] at htask hheld
  exact htouched.advance_settle hready (.inr rfl) htask (fun _ => hfree)
    fun _ _ => ⟨hheld p.shared, rfl⟩

theorem start_exclusive (hkept : p.Kept M program s₀ (some i) T) (hready : M.Ready program s₀)
    (hi : i + 1 = p.started) (hnot : ¬ T i) (hjob : p.jobs[i]? = some job)
    (htask : p.tasks[i]? = some (program job)) (hex : M.exclusive job = true)
    (hwaiters : ∀ j ∈ p.waiters, j < i) :
    ∃ T', (Pool.settle i (program job) p).Kept M program s₀ none T' := by
  obtain ⟨effect, next, heq, -⟩ := (hready.exclusive job hex).eq_acquire
  rw [heq, Pool.settle]
  split
  · have hwait := hkept.wait (by omega) fun j hj _ _ => hwaiters j hj
    rw [← heq, rest_eq (p := { p with waiters := p.waiters ++ [i] }) htask]
    refine ⟨T, hwait.put (fun _ job' hjob' => ?_) fun task hi _ _ _ => absurd hi hnot⟩
    rw [hjob] at hjob'
    obtain rfl := Option.some.inj hjob'
    exact ⟨hex, htask, by simp⟩
  · next hfree =>
    rw [not_or, Option.not_isSome_iff_eq_none, ne_eq, not_not] at hfree
    refine ⟨_, hkept.acquire_settle hready (by omega) hnot hjob htask hex hfree.1 ?_ heq⟩
    simp [hfree.2]

theorem start [DecidableEq L] (hkept : p.Kept M program s₀ none T) (hready : M.Ready program s₀)
    (hapart : Apart M p .start) {p' : Pool J S} (hstep : p.step program .start = some p') :
    ∃ T', p'.Kept M program s₀ none T' := by
  simp only [step, Option.map_eq_some_iff] at hstep
  obtain ⟨task, htask, hp'⟩ := hstep
  have hlt : p.started < p.jobs.length := by
    rw [← hkept.length]
    exact (List.getElem?_eq_some_iff.mp htask).1
  obtain ⟨job, hjob⟩ := exists_job_of_lt hlt
  have hprogram := hkept.unstarted p.started job le_rfl hjob
  rw [htask, Option.some.injEq] at hprogram
  subst hprogram
  have hnot : ¬ T p.started := fun h => Nat.lt_irrefl _ (hkept.touched _ h)
  have hbegin := hkept.begin hapart hjob
  by_cases hex : M.exclusive job = true
  · obtain ⟨effect, next, heq, -⟩ := (hready.exclusive job hex).eq_acquire
    have hgoes := hbegin.start_exclusive hready rfl hnot hjob htask hex hkept.waiting
    rw [heq] at hp' hgoes
    exact hp' ▸ hgoes
  · have hnex : ∀ {P : Prop},
        ({ p with started := p.started + 1 } : Pool J S).exclusive M p.started = true → P :=
      fun h => absurd (exclusive_eq hjob ▸ h) hex
    have htouched := hbegin.touch hready (Nat.lt_succ_self _) hnot hjob htask
      (hbegin.ended_before hready (Nat.lt_succ_self _) hnex hnex)
    refine ⟨fun k => T k ∨ k = p.started, ?_⟩
    rw [← hp']
    split
    · next effect next heq =>
      rw [heq] at htask
      exact htouched.advance_settle hready (.inr rfl) htask (by simp) hnex
    · refine settle hready (.inr rfl) ?_ hnex
      rw [rest_eq (p := { p with started := p.started + 1 }) htask]
      exact htouched

theorem resume {p' : Pool J S} (hkept : p.Kept M program s₀ none T) (hready : M.Ready program s₀)
    (hstep : p.step program (.resume i) = some p') : ∃ T', p'.Kept M program s₀ none T' := by
  simp only [step] at hstep
  split at hstep
  case isFalse => cases hstep
  case isTrue hi =>
  obtain ⟨job, hjob⟩ := exists_job_of_lt (Nat.lt_of_lt_of_le hi hkept.started_le)
  split at hstep
  · next effect next htask =>
    cases hstep
    have htouched : T i := by
      by_contra hnot
      obtain ⟨hex, htask', -⟩ := hkept.untouched i job (by simp) hi hnot hjob
      have hexclusive := hready.exclusive job hex
      rw [htask, Option.some.injEq] at htask'
      rw [← htask'] at hexclusive
      exact hexclusive
    refine ⟨T, (hkept.take i).advance_settle hready htouched htask (by simp) fun hex hrest => ?_⟩
    obtain ⟨hheld, hholder⟩ := hkept.exclusiveHeld i _ (by simp) htouched hex htask rfl
    exact ⟨(hheld.next _ hrest).2, hholder⟩
  · next effect next htask =>
    split at hstep
    case isFalse => cases hstep
    case isTrue hturn =>
    obtain ⟨hfree, hhead⟩ := hturn
    cases hstep
    have hserve := (hkept.take i).serve hhead
    by_cases htouched : T i
    · refine ⟨T, hserve.advance_settle hready htouched htask (fun _ => hfree) fun hex _ => ?_⟩
      exact (hkept.exclusiveHeld i _ (by simp) htouched hex htask rfl).1.elim
    · obtain ⟨hex, htask', -⟩ := hkept.untouched i job (by simp) hi htouched hjob
      have heq : program job = .step .acquire effect next := by
        rw [htask, Option.some.injEq] at htask'
        exact htask'.symm
      refine ⟨_, hserve.acquire_settle hready hi htouched hjob htask' hex hfree ?_ heq⟩
      -- those that wait behind it have arrived after it
      intro j hj hnot hwaits
      obtain ⟨rest, hwaiters⟩ := List.head?_eq_some_iff.mp hhead
      have hfifo := hkept.fifo
      rw [hwaiters] at hfifo hwaits
      exact Nat.lt_asymm hj ((List.pairwise_cons.mp hfifo).1 j hwaits htouched hnot)
  all_goals cases hstep

end Kept

/-! ### A job arrives -/

/-- The pool with one more job. -/
def add (program : J → Coroutine S) (job : J) (p : Pool J S) : Pool J S :=
  { p with jobs := p.jobs ++ [job], tasks := p.tasks ++ [program job] }

theorem footprint_add (hi : i < p.jobs.length) :
    (p.add program job).footprint M i = p.footprint M i := by
  simp [footprint, add, List.getElem?_append_left hi]

theorem exclusive_add (hi : i < p.jobs.length) :
    (p.add program job).exclusive M i = p.exclusive M i := by
  simp [exclusive, add, List.getElem?_append_left hi]

theorem tasks_add (hi : i < p.tasks.length) : (p.add program job).tasks[i]? = p.tasks[i]? :=
  List.getElem?_append_left hi

theorem hasEnded_add (hi : i < p.tasks.length) :
    (p.add program job).hasEnded i = p.hasEnded i := by
  rw [hasEnded, hasEnded, tasks_add hi]

theorem after_add (hm : m ≤ p.jobs.length) :
    (p.add program job).after program s₀ m = p.after program s₀ m := by
  simp [after, add, List.take_append_of_le_length hm]

namespace Kept

/-- The new job has touched nothing. -/
theorem clean_add (hkept : p.Kept M program s₀ none T) (hready : M.Ready program s₀)
    (hadmitted : ∀ job' ∈ (p.add program job).jobs, M.Admits job')
    (hm : m ≤ p.jobs.length + 1)
    (hbefore : ∀ i < m, l ∈ (p.add program job).footprint M i →
      T i ∧ (p.add program job).hasEnded i = true)
    (hafter : ∀ i, m ≤ i → l ∈ (p.add program job).footprint M i → ¬ T i) :
    M.Agree l p.shared ((p.add program job).after program s₀ m) := by
  have hold : ∀ m ≤ p.jobs.length, (∀ i < m, l ∈ (p.add program job).footprint M i →
      T i ∧ (p.add program job).hasEnded i = true) →
      (∀ i, m ≤ i → l ∈ (p.add program job).footprint M i → ¬ T i) →
      M.Agree l p.shared (p.after program s₀ m) := by
    intro m hm hbefore hafter
    refine hkept.clean l m hm (fun i hi hl => ?_) fun i hi hl => ?_
    · have hlt : i < p.jobs.length := Nat.lt_of_lt_of_le hi hm
      obtain ⟨htouched, hend⟩ := hbefore i hi ((footprint_add hlt).symm ▸ hl)
      rw [hasEnded_add (hkept.length ▸ hlt)] at hend
      exact ⟨htouched, hend⟩
    · exact hafter i hi ((footprint_add (lt_of_mem_footprint hl)).symm ▸ hl)
  obtain hm | rfl := Nat.le_succ_iff.mp hm
  · rw [after_add hm]
    exact hold m hm hbefore hafter
  · have hnew : l ∉ (p.add program job).footprint M p.jobs.length := fun hl =>
      absurd (hkept.touched _ (hbefore _ (Nat.lt_succ_self _) hl).1) (by
        have := hkept.started_le
        omega)
    have hlast : M.Agree l (p.after program s₀ p.jobs.length)
        ((p.add program job).after program s₀ (p.jobs.length + 1)) := by
      rw [← after_add le_rfl]
      refine agree_after (p := p.add program job) hready hadmitted (Nat.le_succ _)
        fun k hk hk' => ?_
      rw [show k = p.jobs.length by omega]
      exact hnew
    refine M.trans (hold _ le_rfl (fun i hi => hbefore i (Nat.lt_succ_of_lt hi)) ?_) hlast
    intro i hi hl
    obtain rfl | hlt := hi.eq_or_lt
    · exact absurd hl hnew
    · exact hafter i hlt hl

theorem add (hkept : p.Kept M program s₀ none T) (hready : M.Ready program s₀)
    (hjob : M.Admits job) : (p.add program job).Kept M program s₀ none T := by
  have hjobs : ∀ {i}, i < p.started → i < p.jobs.length := fun h =>
    Nat.lt_of_lt_of_le h hkept.started_le
  have htasks : ∀ {i}, i < p.started → i < p.tasks.length := fun h => hkept.length ▸ hjobs h
  have hadmitted : ∀ job' ∈ (p.add program job).jobs, M.Admits job' := by
    intro job' hjob'
    obtain hold | hnew := List.mem_append.mp hjob'
    · exact hkept.admitted job' hold
    · exact List.mem_singleton.mp hnew ▸ hjob
  exact {
    admitted := hadmitted
    length := by simp [Pool.add, hkept.length]
    started_le := by simpa [Pool.add] using Nat.le_succ_of_le hkept.started_le
    valid := hkept.valid
    unstarted := fun i job' hi hjob' => by
      simp only [Pool.add] at hjob' ⊢
      obtain hlt | heq | hgt := Nat.lt_trichotomy i p.jobs.length
      · rw [List.getElem?_append_left hlt] at hjob'
        rw [List.getElem?_append_left (hkept.length ▸ hlt)]
        exact hkept.unstarted i job' hi hjob'
      · subst heq
        rw [List.getElem?_concat_length, Option.some.injEq] at hjob'
        rw [← hkept.length, List.getElem?_concat_length, hjob']
      · rw [List.getElem?_eq_none (by simpa using Nat.succ_le_of_lt hgt)] at hjob'
        cases hjob'
    touched := hkept.touched
    untouched := fun i job' _ hi hnot hjob' => by
      rw [tasks_add (htasks hi)]
      refine hkept.untouched i job' (by simp) hi hnot ?_
      simpa [Pool.add, List.getElem?_append_left (hjobs hi)] using hjob'
    waiting := hkept.waiting
    fifo := hkept.fifo
    apart := fun i j l hij hj hl hl' => by
      have hjlt := hkept.touched j hj
      have hilt := hij.trans hjlt
      rw [footprint_add (hjobs hilt)] at hl
      rw [footprint_add (hjobs hjlt)] at hl'
      rw [hasEnded_add (htasks hilt)]
      exact hkept.apart i j l hij hj hl hl'
    compatible := fun i j l hij hj hl hl' => by
      have hilt := hij.trans hj
      rw [footprint_add (hjobs hilt)] at hl
      rw [footprint_add (hjobs hj)] at hl'
      rw [hasEnded_add (htasks hilt), exclusive_add (hjobs hilt), exclusive_add (hjobs hj)]
      exact hkept.compatible i j l hij hj hl hl'
    clean := fun l m hm => hkept.clean_add hready hadmitted (by simpa [Pool.add] using hm)
    running := fun i task hi htask hrest => by
      have hlt := hkept.touched i hi
      rw [tasks_add (htasks hlt)] at htask
      rw [footprint_add (hjobs hlt), after_add (hjobs hlt).le, after_add (hjobs hlt)]
      exact hkept.running i task hi htask hrest
    exclusiveHeld := fun i task _ hi hex htask hrest => by
      have hlt := hkept.touched i hi
      rw [tasks_add (htasks hlt)] at htask
      rw [exclusive_add (hjobs hlt)] at hex
      exact hkept.exclusiveHeld i task (by simp) hi hex htask hrest
    holder := fun i hi => by
      obtain ⟨htouched, hrest⟩ := hkept.holder i hi
      rw [hasEnded_add (htasks (hkept.touched i htouched))]
      exact ⟨htouched, hrest⟩
  }

end Kept

theorem kept_step [DecidableEq L] (hready : M.Ready program s₀) {p p' : Pool J S}
    {a : PoolAction J} (hkept : ∃ T, p.Kept M program s₀ none T) (hapart : Apart M p a)
    (hstep : p.step program a = some p') : ∃ T, p'.Kept M program s₀ none T := by
  obtain ⟨T, hkept⟩ := hkept
  cases a with
  | arrive job =>
    cases hstep
    exact ⟨T, hkept.add hready hapart⟩
  | start => exact hkept.start hready hapart hstep
  | resume i => exact hkept.resume hready hstep

theorem kept_init (hready : M.Ready program s₀) :
    Kept M program s₀ { shared := s₀ } none fun _ => False where
  admitted := by simp
  length := rfl
  started_le := le_rfl
  valid := hready.valid
  unstarted := by simp
  touched := by simp
  untouched := by simp
  waiting := by simp
  fifo := .nil
  apart := by simp
  compatible := by simp
  clean := fun l m hm _ _ => by
    obtain rfl : m = 0 := Nat.le_zero.mp hm
    exact M.refl l s₀
  running := by simp
  exclusiveHeld := by simp
  holder := by simp

/-- Where jobs with a common place do not overlap, unless they exclude each other, it is as if they
had run one after the other. -/
theorem agree_of_ended [DecidableEq L] (hready : M.Ready program s₀) {p : Pool J S}
    (hreach : (system program s₀).Reach (Apart M) p) (hended : p.ended = true) (l : L) :
    M.Agree l p.shared (serial program s₀ p.jobs) := by
  obtain ⟨T, hkept⟩ := hreach.invariant ⟨_, kept_init hready⟩ fun _ _ _ => kept_step hready
  simp only [ended, Bool.and_eq_true, decide_eq_true_eq, List.all_eq_true] at hended
  obtain ⟨hstarted, hall⟩ := hended
  have hserial := hkept.clean l p.jobs.length le_rfl (fun i hi _ => ?_) fun i hi hl =>
    absurd (lt_of_mem_footprint hl) (by omega)
  · rwa [after, List.take_length] at hserial
  · have hend : p.hasEnded i = true := by
      have hlt : i < p.tasks.length := hkept.length ▸ hi
      rw [hasEnded_eq (List.getElem?_eq_getElem hlt)]
      exact hall _ (List.getElem_mem hlt)
    exact ⟨hkept.touched_of_ended hready (hstarted ▸ hi) (by simp) hend, hend⟩

end Pool

end AioHomematic.Lib
