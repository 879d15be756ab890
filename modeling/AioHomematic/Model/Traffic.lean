import AioHomematic.Model.Collector

/-!
# Sends and answers

All data points of a client, the collectors that are being filled, the sends in
progress, and the backend's answers, in any order. A send in progress waits for
`set_value` or `put_paramset` with the paramset it is at; `reached` says whether
that command has been handed to the backend. `unanswered` counts, for each data
point, the commands that the backend has and has not yet answered with an event.

The steps follow `send_value`, `add_data_point` and `send_data` from one `await`
to the next; a collector is not added to while it is being sent. An event either
answers a command or comes on its own account.
-/

namespace AioHomematic.Model

open Client Lib

variable {R P : Type*}

inductive Send (P : Type*) where
  | direct (dpk : DataPointKey)
  | collected (index : Nat) (c : CallParameterCollector P) (s : ParamsetSend P)
      (rest : List (ParamsetSend P))

structure SendCall (P : Type*) where
  send : Send P
  reached : Bool := false

structure Traffic (R P : Type*) where
  dataPoints : DataPoints R P
  collectors : List (CallParameterCollector P) := []
  /-- `none` where the send has ended. -/
  sends : List (Option (SendCall P)) := []
  unanswered : DataPointKey → Nat := fun _ => 0

/-- The paramset carries a value of the data point. -/
def CallParameterCollector.Carries (c : CallParameterCollector P) (s : ParamsetSend P)
    (dpk : DataPointKey) : Prop :=
  c.collectedFor dpk ≠ [] ∧ s.Covers dpk

instance (c : CallParameterCollector P) (s : ParamsetSend P) (dpk : DataPointKey) :
    Decidable (c.Carries s dpk) :=
  inferInstanceAs (Decidable (_ ∧ _))

namespace SendCall

/-- The command that the send is at is one for the data point. -/
def Carries (call : SendCall P) (dpk : DataPointKey) : Prop :=
  match call.send with
  | .direct dpk' => dpk = dpk'
  | .collected _ c s _ => c.Carries s dpk

instance (call : SendCall P) (dpk : DataPointKey) : Decidable (call.Carries dpk) := by
  unfold Carries
  split <;> infer_instance

/-- The commands for the data point that come after the one that the send is at. -/
def later (call : SendCall P) (dpk : DataPointKey) : Nat :=
  match call.send with
  | .direct _ => 0
  | .collected _ c _ rest => rest.countP fun s => c.Carries s dpk

/-- The commands for the data point that have not reached the backend. -/
def unsent (call : SendCall P) (dpk : DataPointKey) : Nat :=
  (if call.reached = false ∧ call.Carries dpk then 1 else 0) + call.later dpk

def dataPoints (call : SendCall P) : List DataPointKey :=
  match call.send with
  | .direct dpk => [dpk]
  | .collected _ c _ _ => c.collectedDataPoints.map (·.dpk)

def collector (call : SendCall P) : Option Nat :=
  match call.send with
  | .direct _ => none
  | .collected index _ _ _ => some index

/-- The commands for the data point that are still to come once the call has ended. -/
def kept (call : SendCall P) (result : Except PyException CallResult) (dpk : DataPointKey) : Nat :=
  match result with
  | .ok _ => call.later dpk
  | .error _ => 0

end SendCall

namespace Traffic

inductive Action (R : Type*) where
  | sendValue (dpk : DataPointKey) (value : R) (ctx : DataPoint.SendContext)
  | newCollector (priority : Option CommandPriority)
  | collectValue (index : Nat) (dpk : DataPointKey) (value : R) (collectorOrder : Int)
      (doValidate : Bool) (retry : Option Bool)
  | sendData (index now : Nat)
  | reached (i : Nat)
  | ended (i : Nat) (result : Except PyException CallResult)
  | event (dpk : DataPointKey) (value : R) (receivedAt : Nat) (answers : Bool)
  | load (dpk : DataPointKey) (value : CacheEntry R) (writeAt : Nat)
  | writeUnconfirmedValue (dpk : DataPointKey) (value : R) (writeAt : Nat)
  | rollbackTimeout (dpk : DataPointKey)

/-- The commands for the data point that were applied and have not reached the backend. -/
def unsent (x : Traffic R P) (dpk : DataPointKey) : Nat :=
  (x.sends.map fun call => call.elim 0 (·.unsent dpk)).sum

def setDataPoint (dpk : DataPointKey) (d : DataPoint R P) (x : Traffic R P) : Traffic R P :=
  { x with dataPoints := Function.update x.dataPoints dpk d }

/-- The call that the send `i` waits for has ended. -/
def callEnded (i : Nat) (result : Except PyException CallResult) (x : Traffic R P) :
    Send P → Traffic R P
  | .direct dpk =>
    { x.setDataPoint dpk ((x.dataPoints dpk).sendValueEnded result) with
      sends := x.sends.set i none }
  | .collected index c s rest =>
    match result, rest with
    | .ok _, [] => { x with sends := x.sends.set i none }
    | .ok _, s' :: rest =>
      { x with sends := x.sends.set i (some { send := .collected index c s' rest }) }
    | .error exc, _ =>
      { x with
        dataPoints := c.paramsetFailed s exc x.dataPoints
        sends := x.sends.set i none }

variable [DecidableEq P]

def step (x : Traffic R P) : Action R → Option (Traffic R P)
  | .sendValue dpk value ctx =>
    match (x.dataPoints dpk).sendValue value ctx with
    | none => some x
    | some (d, _) =>
      some { x.setDataPoint dpk d with sends := x.sends ++ [some { send := .direct dpk }] }
  | .newCollector priority => some { x with collectors := x.collectors ++ [{ priority }] }
  | .collectValue index dpk value collectorOrder doValidate retry =>
    match x.collectors[index]? with
    | some c =>
      if x.sends.any (fun call => call.any (·.collector = some index)) then none
      else
        some { x with
          collectors := x.collectors.set index
            ((x.dataPoints dpk).collectValue value collectorOrder doValidate retry c) }
    | none => none
  | .sendData index now =>
    match x.collectors[index]? with
    | some c =>
      let x := { x with dataPoints := c.applyOptimistic now x.dataPoints }
      match c.orderedParamsets with
      | [] => some x
      | s :: rest => some { x with sends := x.sends ++ [some { send := .collected index c s rest }] }
    | none => none
  | .reached i =>
    match x.sends[i]? with
    | some (some call) =>
      some { x with
        sends := x.sends.set i (some { call with reached := true })
        unanswered := fun dpk => x.unanswered dpk + if call.Carries dpk then 1 else 0 }
    | _ => none
  | .ended i result =>
    match x.sends[i]? with
    | some (some call) => some (x.callEnded i result call.send)
    | _ => none
  | .event dpk value receivedAt answers =>
    if answers = true ∧ x.unanswered dpk = 0 then none
    else
      some { x.setDataPoint dpk ((x.dataPoints dpk).event value receivedAt) with
        unanswered :=
          if answers then Function.update x.unanswered dpk (x.unanswered dpk - 1)
          else x.unanswered }
  | .load dpk value writeAt => some (x.setDataPoint dpk ((x.dataPoints dpk).load value writeAt))
  | .writeUnconfirmedValue dpk value writeAt =>
    some (x.setDataPoint dpk ((x.dataPoints dpk).writeUnconfirmedValue value writeAt))
  | .rollbackTimeout dpk => (x.dataPoints dpk).rollbackTimeout.map (x.setDataPoint dpk)

def init (infos : DataPointKey → ParameterInfo R P) : Traffic R P where
  dataPoints dpk := { info := { infos dpk with dpk } }

def system (infos : DataPointKey → ParameterInfo R P) : StepSystem (Traffic R P) (Action R) where
  init := init infos
  step := step

variable {infos : DataPointKey → ParameterInfo R P}

/-- The calls of a collected send, answered one after the other, are the loop of `send_data`. -/
theorem steps_sendParamsets (answer : Nat → Except PyException CallResult) {i index : Nat}
    {c : CallParameterCollector P} (rest : List (ParamsetSend P)) :
    ∀ {s : ParamsetSend P} {x : Traffic R P} (call : SendCall P) (n : Nat),
      x.sends[i]? = some (some call) → call.send = .collected index c s rest →
      ∃ as y, (system infos).Steps StepSystem.Free x as y ∧ y.sends[i]? = some none ∧
        y.dataPoints = (c.sendParamsets answer n (s :: rest) x.dataPoints).2 := by
  induction rest with
  | nil =>
    intro s x call n hcall hsend
    have hi := (List.getElem?_eq_some_iff.mp hcall).1
    have hstep : (system infos).step x (.ended i (answer n)) =
        some (x.callEnded i (answer n) (.collected index c s [])) := by
      simp only [system, step, hcall, hsend]
    refine ⟨_, _, .single trivial hstep, ?_, ?_⟩
    · cases hanswer : answer n <;> simp [callEnded, hi]
    · cases hanswer : answer n <;> simp [callEnded, CallParameterCollector.sendParamsets, hanswer]
  | cons s' rest ih =>
    intro s x call n hcall hsend
    have hi := (List.getElem?_eq_some_iff.mp hcall).1
    have hstep : (system infos).step x (.ended i (answer n)) =
        some (x.callEnded i (answer n) (.collected index c s (s' :: rest))) := by
      simp only [system, step, hcall, hsend]
    cases hanswer : answer n with
    | error exc =>
      refine ⟨_, _, .single trivial hstep, ?_, ?_⟩ <;> rw [hanswer]
      · simp [callEnded, hi]
      · simp [callEnded, CallParameterCollector.sendParamsets, hanswer]
    | ok r =>
      rw [hanswer] at hstep
      obtain ⟨as, y, hsteps, hended, hdps⟩ := ih (s := s') (x := { x with
        sends := x.sends.set i (some { send := .collected index c s' rest }) })
        { send := .collected index c s' rest } (n + 1) (by simp [hi]) rfl
      refine ⟨_, y, .cons trivial hstep hsteps, hended, hdps.trans ?_⟩
      have hloop : c.sendParamsets answer n (s :: s' :: rest) x.dataPoints =
          c.sendParamsets answer (n + 1) (s' :: rest) x.dataPoints := by
        rw [CallParameterCollector.sendParamsets, hanswer]
      rw [hloop]

end Traffic

end AioHomematic.Model
