import AioHomematic.Model.DataPoint

/-!
# Waiting for a confirmation

`set_value` of the interface client from its backend call on, with `wait_for_callback`, and
`client/state_change.py`. An event of the backend updates the data point at once; that it has is
published by a task of its own, whose handlers are tasks again. All of them and the answer of the
backend come in any order. `waits_iff` says in which runs no confirmation is lost.
-/

namespace AioHomematic.Client

open Lib StepSystem Model

/-- One call of `set_value`: the values that it sets, how the waits compare a value with what a data
point has, and which data points are polled. -/
structure SetValueCall (R P : Type*) where
  dpkValues : Dict DataPointKey R
  isClose : R → Option P → Bool
  requiresPolling : DataPointKey → Bool

/-- Where the wait for a data point is. `waiting` holds the flag of its `asyncio.Event`. -/
inductive WaitPoint where
  | idle
  | scheduled
  | waiting (isSet : Bool)
  | ended
deriving DecidableEq

/-- A `DataPointStateChangedEvent` on its way. `confirms` is whether an event of the backend has
caused it that made the value match after the command was handed over. -/
structure Publication where
  dpk : DataPointKey
  confirms : Bool := false

/-- `confirmed` holds the data points for which such an event was processed to its end. -/
structure StateChange (R P : Type*) where
  dataPoints : DataPointKey → DataPoint R P
  handedOver : Bool := false
  ended : Bool := false
  published : List Publication := []
  called : List Publication := []
  point : DataPointKey → WaitPoint := fun _ => .idle
  confirmed : DataPointKey → Bool := fun _ => false

inductive StateChangeStep (R P : Type*) where
  | handOver
  | answer (now : Nat)
  | fail
  | event (dpk : DataPointKey) (value : R) (receivedAt : Nat)
  /-- Anything else that changes a data point. -/
  | write (dpk : DataPointKey) (dataPoint : DataPoint R P)
  | begin (dpk : DataPointKey)
  | publish (n : Nat)
  | handle (n : Nat)
  | wake (dpk : DataPointKey)
  | timeout (dpk : DataPointKey)

namespace StateChange

variable {R P : Type*} [DecidableEq P] (call : SetValueCall R P) (s : StateChange R P)

/-- The data point has a value that is waited for. -/
def isMatching (dpk : DataPointKey) : Bool :=
  (call.dpkValues.get? dpk).any (call.isClose · (s.dataPoints dpk).value)

def setDataPoint (dpk : DataPointKey) (d : DataPoint R P) : StateChange R P :=
  { s with dataPoints := Function.update s.dataPoints dpk d }

def setPoint (dpk : DataPointKey) (point : WaitPoint) : StateChange R P :=
  { s with point := Function.update s.point dpk point }

def publishLater (publication : Publication) : StateChange R P :=
  { s with published := s.published ++ [publication] }

/-- One round of the loop of `_write_unconfirmed_value`. -/
def writeUnconfirmedValue (now : Nat) (s : StateChange R P) (dpkValue : DataPointKey × R) :
    StateChange R P :=
  if call.requiresPolling dpkValue.1 then
    (s.setDataPoint dpkValue.1
      ((s.dataPoints dpkValue.1).writeUnconfirmedValue dpkValue.2 now)).publishLater
      { dpk := dpkValue.1 }
  else s

/-- The answer has arrived. `asyncio.gather` makes a task for each wait. -/
def answer (now : Nat) : StateChange R P :=
  let s := call.dpkValues.entries.foldl (writeUnconfirmedValue call now) s
  { s with
    ended := true
    point := fun dpk => if dpk ∈ call.dpkValues.keys then .scheduled else s.point dpk }

def event (dpk : DataPointKey) (value : R) (receivedAt : Nat) : StateChange R P :=
  let s := s.setDataPoint dpk ((s.dataPoints dpk).event value receivedAt)
  s.publishLater { dpk, confirms := s.handedOver && s.isMatching call dpk }

/-- The task of the wait starts. The wait subscribes only if there are events. -/
def begin (dpk : DataPointKey) : StateChange R P :=
  s.setPoint dpk (if (s.dataPoints dpk).info.hasEvents then .waiting false else .ended)

def isSubscribed (dpk : DataPointKey) : Bool :=
  match s.point dpk with
  | .waiting _ => true
  | _ => false

/-- Nothing more comes of a publication. -/
def processed (publication : Publication) : StateChange R P :=
  if publication.confirms then
    { s with confirmed := Function.update s.confirmed publication.dpk true }
  else s

/-- The handlers are looked up. -/
def publish (publication : Publication) : StateChange R P :=
  if s.isSubscribed publication.dpk then { s with called := s.called ++ [publication] }
  else s.processed publication

/-- `_async_event_changed`, which looks at the value that the data point has by now. -/
def handle (publication : Publication) : StateChange R P :=
  let s := s.processed publication
  if s.isSubscribed publication.dpk = true ∧ s.isMatching call publication.dpk = true then
    s.setPoint publication.dpk (.waiting true)
  else s

def step (s : StateChange R P) : StateChangeStep R P → Option (StateChange R P)
  | .handOver => if s.ended then none else some { s with handedOver := true }
  | .answer now => if s.handedOver && !s.ended then some (s.answer call now) else none
  | .fail => if s.ended then none else some { s with ended := true }
  | .event dpk value receivedAt => some (s.event call dpk value receivedAt)
  | .write dpk d => some ((s.setDataPoint dpk d).publishLater { dpk })
  | .begin dpk => if s.point dpk = .scheduled then some (s.begin dpk) else none
  | .publish n =>
    s.published[n]?.map fun publication =>
      { s with published := s.published.eraseIdx n }.publish publication
  | .handle n =>
    s.called[n]?.map fun publication =>
      { s with called := s.called.eraseIdx n }.handle call publication
  | .wake dpk => if s.point dpk = .waiting true then some (s.setPoint dpk .ended) else none
  | .timeout dpk => if s.point dpk = .waiting false then some (s.setPoint dpk .ended) else none

def system (dataPoints : DataPointKey → DataPoint R P) :
    StepSystem (StateChange R P) (StateChangeStep R P) where
  init := { dataPoints }
  step := step call

/-! ## What a wait is for -/

/-- No wait goes on once a confirming event was processed. -/
def NoneLost : Prop := ∀ dpk, s.confirmed dpk = true → s.point dpk ≠ .waiting false

/-- The step loses no confirmation, and ends no wait by its timeout where there was one. -/
structure Wakes (s : StateChange R P) (a : StateChangeStep R P) : Prop where
  noneLost : ∀ t, s.step call a = some t → t.NoneLost
  timeout : ∀ dpk, a = .timeout dpk → s.confirmed dpk = false

/-- The wait begins before a confirming event was processed, and where the handler of one is called
while it goes on, the value still matches. -/
structure InTime (s : StateChange R P) (a : StateChangeStep R P) : Prop where
  begin : ∀ dpk, a = .begin dpk → (s.dataPoints dpk).info.hasEvents = true →
    s.confirmed dpk = false
  handle : ∀ n publication, a = .handle n → s.called[n]? = some publication →
    publication.confirms = true → s.point publication.dpk = .waiting false →
      s.isMatching call publication.dpk = true

variable {call s} {t : StateChange R P} {a : StateChangeStep R P}

omit [DecidableEq P] in
theorem NoneLost.of_eq (h : s.NoneLost) (hpoint : t.point = s.point)
    (hconfirmed : t.confirmed = s.confirmed) : t.NoneLost := by
  unfold NoneLost
  rwa [hpoint, hconfirmed]

omit [DecidableEq P] in
/-- A wait that does not go on is not lost. -/
theorem NoneLost.setPoint (h : s.NoneLost) {dpk : DataPointKey} {point : WaitPoint}
    (hpoint : s.confirmed dpk = true → point ≠ .waiting false) :
    (s.setPoint dpk point).NoneLost := by
  intro dpk' hconfirmed
  by_cases heq : dpk' = dpk
  · subst heq
    exact (Function.update_self dpk' point s.point).trans_ne (hpoint hconfirmed)
  · exact (Function.update_of_ne heq point s.point).trans_ne (h dpk' hconfirmed)

omit [DecidableEq P] in
theorem NoneLost.processed (h : s.NoneLost) {publication : Publication}
    (hpoint : publication.confirms = true → s.point publication.dpk ≠ .waiting false) :
    (s.processed publication).NoneLost := by
  unfold StateChange.processed
  split
  next hconfirms =>
    intro dpk hconfirmed
    by_cases heq : dpk = publication.dpk
    · exact heq ▸ hpoint hconfirms
    · exact h dpk ((Function.update_of_ne heq true s.confirmed).symm.trans hconfirmed)
  · exact h

omit [DecidableEq P] in
theorem point_processed (publication : Publication) :
    (s.processed publication).point = s.point := by
  unfold StateChange.processed
  split <;> rfl

omit [DecidableEq P] in
theorem dataPoints_processed (publication : Publication) :
    (s.processed publication).dataPoints = s.dataPoints := by
  unfold StateChange.processed
  split <;> rfl

/-- The answer leaves alone what is waited for already, which is nothing. -/
theorem foldl_writeUnconfirmedValue (now : Nat) (dpkValues : List (DataPointKey × R)) :
    (dpkValues.foldl (writeUnconfirmedValue call now) s).point = s.point ∧
      (dpkValues.foldl (writeUnconfirmedValue call now) s).confirmed = s.confirmed := by
  induction dpkValues generalizing s with
  | nil => exact ⟨rfl, rfl⟩
  | cons dpkValue dpkValues ih =>
    obtain ⟨hpoint, hconfirmed⟩ := @ih (writeUnconfirmedValue call now s dpkValue)
    have hround : (writeUnconfirmedValue call now s dpkValue).point = s.point ∧
        (writeUnconfirmedValue call now s dpkValue).confirmed = s.confirmed := by
      unfold writeUnconfirmedValue
      split <;> exact ⟨rfl, rfl⟩
    exact ⟨hpoint.trans hround.1, hconfirmed.trans hround.2⟩

theorem NoneLost.answer (h : s.NoneLost) (now : Nat) : (s.answer call now).NoneLost := by
  obtain ⟨hpoint, hconfirmed⟩ :=
    @foldl_writeUnconfirmedValue R P _ call s now call.dpkValues.entries
  have hfold := h.of_eq hpoint hconfirmed
  intro dpk hdpk
  by_cases hmem : dpk ∈ call.dpkValues.keys
  · exact ne_of_eq_of_ne (if_pos hmem) nofun
  · exact ne_of_eq_of_ne (if_neg hmem) (hfold dpk hdpk)

omit [DecidableEq P] in
theorem setPoint_processed (publication : Publication) (dpk : DataPointKey) (point : WaitPoint) :
    (s.processed publication).setPoint dpk point =
      (s.setPoint dpk point).processed publication := by
  unfold StateChange.processed
  split <;> rfl

omit [DecidableEq P] in
theorem NoneLost.publish (h : s.NoneLost) (publication : Publication) :
    (s.publish publication).NoneLost := by
  unfold StateChange.publish
  split
  · exact h
  next hunsubscribed =>
    refine h.processed fun _ hwaiting => hunsubscribed ?_
    rw [isSubscribed, hwaiting]

omit [DecidableEq P] in
theorem isMatching_processed (publication : Publication) (dpk : DataPointKey) :
    (s.processed publication).isMatching call dpk = s.isMatching call dpk := by
  unfold isMatching
  rw [dataPoints_processed]

omit [DecidableEq P] in
theorem NoneLost.handle (h : s.NoneLost) {publication : Publication}
    (hok : publication.confirms = true → s.point publication.dpk = .waiting false →
      s.isMatching call publication.dpk = true) :
    (s.handle call publication).NoneLost := by
  unfold StateChange.handle
  dsimp only
  split
  · rw [setPoint_processed]
    have hset : (s.setPoint publication.dpk (.waiting true)).NoneLost := h.setPoint nofun
    refine hset.processed fun _ => ?_
    exact (Function.update_self publication.dpk _ s.point).trans_ne nofun
  next hunset =>
    refine h.processed fun hconfirms hwaiting => hunset ⟨?_, ?_⟩
    · rw [isSubscribed, point_processed, hwaiting]
    · rw [isMatching_processed]
      exact hok hconfirms hwaiting

theorem NoneLost.step (h : s.NoneLost) (hok : InTime call s a) (hstep : s.step call a = some t) :
    t.NoneLost := by
  cases a with
  | handOver =>
    obtain ⟨-, hhandOver⟩ := Option.ite_none_left_eq_some.mp hstep
    cases hhandOver
    exact h
  | answer now =>
    obtain ⟨-, hanswer⟩ := Option.ite_none_right_eq_some.mp hstep
    cases hanswer
    exact h.answer now
  | fail =>
    obtain ⟨-, hfail⟩ := Option.ite_none_left_eq_some.mp hstep
    cases hfail
    exact h
  | event dpk value receivedAt =>
    cases hstep
    exact h.of_eq rfl rfl
  | write dpk d =>
    cases hstep
    exact h.of_eq rfl rfl
  | begin dpk =>
    obtain ⟨-, hbegin⟩ := Option.ite_none_right_eq_some.mp hstep
    cases hbegin
    refine h.setPoint fun hconfirmed => ?_
    split
    next hevents =>
      have hnone := hok.begin dpk rfl hevents
      cases hconfirmed.symm.trans hnone
    · exact nofun
  | publish n =>
    obtain ⟨publication, -, rfl⟩ := Option.map_eq_some_iff.mp hstep
    have hrest : NoneLost { s with published := s.published.eraseIdx n } := h.of_eq rfl rfl
    exact hrest.publish publication
  | handle n =>
    obtain ⟨publication, hn, rfl⟩ := Option.map_eq_some_iff.mp hstep
    have hrest : NoneLost { s with called := s.called.eraseIdx n } := h.of_eq rfl rfl
    exact hrest.handle (hok.handle n publication rfl hn)
  | wake dpk =>
    obtain ⟨-, hwake⟩ := Option.ite_none_right_eq_some.mp hstep
    cases hwake
    exact h.setPoint nofun
  | timeout dpk =>
    obtain ⟨-, htimeout⟩ := Option.ite_none_right_eq_some.mp hstep
    cases htimeout
    exact h.setPoint nofun

omit [DecidableEq P] in
theorem confirmed_handle {publication : Publication} (h : publication.confirms = true) :
    (s.handle call publication).confirmed publication.dpk = true := by
  have hconfirmed : (s.processed publication).confirmed publication.dpk = true := by
    rw [StateChange.processed, if_pos h]
    exact Function.update_self ..
  unfold StateChange.handle
  dsimp only
  split <;> exact hconfirmed

omit [DecidableEq P] in
theorem point_handle_of_not_matching {publication : Publication}
    (h : ¬ s.isMatching call publication.dpk = true) :
    (s.handle call publication).point = s.point := by
  rw [← @isMatching_processed R P call s publication] at h
  rw [StateChange.handle, if_neg (not_and_of_not_right _ h), point_processed]

/-- A step that wakes whom it should is in time, and the other way round where nobody was lost. -/
theorem InTime.of_wakes (h : Wakes call s a) (hstep : s.step call a = some t) :
    InTime call s a := by
  have hlost := h.noneLost t hstep
  constructor
  · rintro dpk rfl hevents
    obtain ⟨-, hbegin⟩ := Option.ite_none_right_eq_some.mp hstep
    cases hbegin
    by_contra hconfirmed
    refine hlost dpk (Bool.eq_true_of_not_eq_false hconfirmed) ?_
    rw [StateChange.begin, if_pos hevents]
    exact Function.update_self ..
  · rintro n publication rfl hn hconfirms hwaiting
    obtain ⟨publication', hn', rfl⟩ := Option.map_eq_some_iff.mp hstep
    cases hn.symm.trans hn'
    by_contra hmatching
    have hpoint := @point_handle_of_not_matching R P call
      { s with called := s.called.eraseIdx n } publication hmatching
    exact hlost publication.dpk (confirmed_handle hconfirms)
      ((congrFun hpoint publication.dpk).trans hwaiting)

theorem InTime.wakes (h : s.NoneLost) (hok : InTime call s a) (hstep : s.step call a = some t) :
    Wakes call s a := by
  constructor
  · intro t ht
    exact h.step hok ht
  · rintro dpk rfl
    obtain ⟨hwaiting, -⟩ := Option.ite_none_right_eq_some.mp hstep
    by_contra hconfirmed
    exact h dpk (Bool.eq_true_of_not_eq_false hconfirmed) hwaiting

/-! ## Runs -/

/-- A run loses no confirmation if and only if its steps are in time. -/
theorem waits_iff (call : SetValueCall R P) (dataPoints : DataPointKey → DataPoint R P)
    (steps : List (StateChangeStep R P)) (t : StateChange R P) :
    (system call dataPoints).Steps (Wakes call) (system call dataPoints).init steps t ↔
      (system call dataPoints).Steps (InTime call) (system call dataPoints).init steps t := by
  constructor
  · intro h
    exact h.mono_of_invariant (P := fun _ => True) (fun _ _ _ _ _ _ => trivial)
      (fun _ _ _ _ hwakes hstep => .of_wakes hwakes hstep) trivial
  · intro h
    have hnone : (system call dataPoints).init.NoneLost := nofun
    exact h.mono_of_invariant (fun _ _ _ hs hok hstep => hs.step hok hstep)
      (fun _ _ _ hs hok hstep => hok.wakes hs hstep) hnone

def level : DataPointKey where
  interfaceId := "HmIP-RF"
  channelAddress := "VCU0000001:1"
  paramsetKey := .values
  parameter := "LEVEL"

def setLevel : SetValueCall Int Int where
  dpkValues := Dict.empty.set level 1
  isClose value actual := decide (actual = some value)
  requiresPolling _ := false

def levels (dpk : DataPointKey) : DataPoint Int Int where
  info := { dpk, convertValue := some }

/-- The confirmation that overtakes the answer is lost. -/
theorem not_waits : ¬ ∀ (call : SetValueCall Int Int)
    (dataPoints : DataPointKey → DataPoint Int Int) (t : StateChange Int Int),
    (system call dataPoints).Reach Free t → t.NoneLost := by
  intro h
  have hrun : ∃ t, (system setLevel levels).replay Free (system setLevel levels).init
      [.handOver, .event level 1 1, .publish 0, .answer 2, .begin level] = some t ∧
      t.confirmed level = true ∧ t.point level = .waiting false := replay_any (by decide +kernel)
  obtain ⟨t, ht, hconfirmed, hwaiting⟩ := hrun
  exact h setLevel levels t (reach_of_replay ht) level hconfirmed hwaiting

end StateChange

end AioHomematic.Client
