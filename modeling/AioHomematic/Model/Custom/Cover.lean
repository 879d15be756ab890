import AioHomematic.Model.DataPoint
import AioHomematic.Store.Dynamic.Command

/-!
# Blinds

`CustomDpBlind` and its commands, which each send a level and a tilt level. What a command leaves
open is the target that is still pending: the optimistic value, the value in flight, or the value
sent last; otherwise what the blind shows. A command runs from one `await` to the next: it waits for
the lock, for five seconds at most, for the STOP that precedes new coordinates of a moving blind, and
for `set_value` or `put_paramset`. Between its steps come events, loads and rollback timers.

Levels are of any type, with the conversions from and to positions. Commands that are given a
collector of the caller are left out.

`movement` is the last level that was sent, until it is reported or a STOP has been sent, and
`reported` the level that was reported last. `tiltOnly` records the level of each command that does
not say one, with the level that it is expected to send.
-/

namespace AioHomematic.Model

open Client Lib Store Support

/-- A parameter of the blind's channel that takes levels. -/
structure LevelParameter (L : Type*) where
  parameter : String
  isWritable : Bool := true
  hasEvents : Bool := true
  /-- The level is within the parameter's range. -/
  accepts : L → Bool := fun _ => true

/-- What does not change over the life of a blind. -/
structure BlindInfo (L : Type*) where
  interfaceId : String
  channelAddress : String
  level : LevelParameter L
  /-- LEVEL_2 or LEVEL_SLATS. -/
  tilt : LevelParameter L
  parameter_ne : level.parameter ≠ tilt.parameter
  isReadable : Bool := true
  rpcCallback : Bool := true
  requiresPolling : Bool := false
  /-- `_use_group_channel_for_cover_state`, for a primary data point. -/
  usesGroupChannel : Bool := false
  positionToLevel : Int → L
  levelToPosition : L → Int
  closedLevel : L
  openLevel : L
  openTiltLevel : L
  /-- Where the blind has a combined parameter, the levels that its value stands for. -/
  combined : Option (L → L → L × L) := none

namespace BlindInfo

variable {L : Type*} (i : BlindInfo L)

def dpk (parameter : String) : DataPointKey := ⟨i.interfaceId, i.channelAddress, .values, parameter⟩

def parameterInfo (p : LevelParameter L) : ParameterInfo L L where
  dpk := i.dpk p.parameter
  hasEvents := p.hasEvents
  isWritable := p.isWritable
  rpcCallback := i.rpcCallback
  convertValue := some
  prepareValueForSending _ value := if p.accepts value then some value else none

end BlindInfo

/-- What a command sends, or `none` for a parameter that does not accept it: `staged` once it is handed
to the backend, and `reported` once the level has been reported since. A command with nothing to send
ends without that. -/
structure BlindSend (L : Type*) where
  level : Option L
  tilt : Option L
  staged : Bool := false
  reported : Bool := false
deriving DecidableEq

/-- The movement after the backend has taken the levels. -/
def BlindSend.movement {L : Type*} (now : Nat) (before : Option (CachedCommand L))
    (send : BlindSend L) : Option (CachedCommand L) :=
  match send.level with
  | some value => if send.reported then none else some ⟨value, now⟩
  | none => before

/-- Where a command stands. -/
inductive BlindPhase (L : Type*) where
  /-- `_set_level`, for the lock. -/
  | waiting (level tilt : Option L)
  /-- For the STOP before the levels. -/
  | stopping (level tilt : L)
  | sending (send : BlindSend L)
  /-- `stop`, for the lock. -/
  | stopWaiting
  | stopSending
  | ended
deriving DecidableEq

namespace BlindPhase

variable {L : Type*}

def setsLevels : BlindPhase L → Bool
  | stopping .. | sending _ => true
  | _ => false

/-- The level has been reported. -/
def levelReported [DecidableEq L] (value : L) : BlindPhase L → BlindPhase L
  | sending send =>
    sending { send with
      reported := send.reported || (send.staged && decide (send.level = some value)) }
  | phase => phase

end BlindPhase

/-- A command that does not say a level. -/
structure TiltOnly (L : Type*) where
  level : L
  expected : L
deriving DecidableEq

structure Blind (L : Type*) where
  now : Nat
  info : BlindInfo L
  level : DataPoint L L
  tilt : DataPoint L L
  groupLevelValue : Option L := none
  groupTiltValue : Option L := none
  inFlight : Dict DataPointKey L := .empty
  tracker : CommandTracker L
  calls : List (BlindPhase L) := []
  lockHolder : Option Nat := none
  reported : Option L := none
  movement : Option (CachedCommand L) := none
  tiltOnly : List (TiltOnly L) := []

namespace Blind

variable {L : Type*}

def levelKey (s : Blind L) : DataPointKey := s.info.dpk s.info.level.parameter

def tiltKey (s : Blind L) : DataPointKey := s.info.dpk s.info.tilt.parameter

/-! ## What the blind shows -/

def shown (groupValue : Option L) (d : DataPoint L L) (s : Blind L) : L :=
  ((if s.info.usesGroupChannel then groupValue else none).or d.value).getD s.info.closedLevel

def groupLevel (s : Blind L) : L := s.shown s.groupLevelValue s.level

def groupTiltLevel (s : Blind L) : L := s.shown s.groupTiltValue s.tilt

def currentPosition (s : Blind L) : Int := s.info.levelToPosition s.groupLevel

def currentTiltPosition (s : Blind L) : Int := s.info.levelToPosition s.groupTiltLevel

structure StateChangeArgs where
  position : Option Int := none
  tiltPosition : Option Int := none
  opens : Bool := false
  closes : Bool := false
  tiltOpens : Bool := false
  tiltCloses : Bool := false

def isStateChange [DecidableEq L] (args : StateChangeArgs) (s : Blind L) : Bool :=
  args.tiltPosition.any (· ≠ s.currentTiltPosition) ||
    (args.tiltOpens && decide (s.currentTiltPosition ≠ 100)) ||
    (args.tiltCloses && decide (s.currentTiltPosition ≠ 0)) ||
    (args.opens && decide (s.groupLevel ≠ s.info.openLevel)) ||
    (args.closes && decide (s.groupLevel ≠ s.info.closedLevel)) ||
    args.position.any (· ≠ s.currentPosition) ||
    (s.info.isReadable && s.level.stateUncertain)

/-! ## What is expected -/

/-- The last report of the channel that the blind's level is read from. -/
def reportedLevel (s : Blind L) : L :=
  ((if s.info.usesGroupChannel then s.groupLevelValue else none).or s.reported).getD
    s.info.closedLevel

/-- Whether `_group_level` reads the group channel. -/
def readsGroup (s : Blind L) : Bool := s.info.usesGroupChannel && s.groupLevelValue.isSome

/-- The unconfirmed value, where the blind shows it. -/
def unconfirmedShown (s : Blind L) : Option L :=
  if s.readsGroup then none
  else if s.level.refreshedAt < s.level.unconfirmedRefreshedAt then s.level.unconfirmedValue
  else none

/-- The command was sent within the last minute. -/
def Recent (c : CachedCommand L) (s : Blind L) : Prop :=
  (s.now : Int) < c.sentAt + lastCommandSendStoreTimeout * microsecondsPerSecond

instance (c : CachedCommand L) (s : Blind L) : Decidable (s.Recent c) :=
  inferInstanceAs (Decidable (_ < _))

variable [DecidableEq L]

/-- For a minute, or as long as its level is an optimistic or unconfirmed value. -/
def Pending (m : CachedCommand L) (s : Blind L) : Prop :=
  s.Recent m ∨ s.level.optimistic.value = some m.value ∨ s.unconfirmedShown = some m.value

instance (m : CachedCommand L) (s : Blind L) : Decidable (s.Pending m) :=
  inferInstanceAs (Decidable (_ ∨ _ ∨ _))

/-- The level of the last movement, if it is pending, and the level reported last otherwise. -/
def expectedLevel (s : Blind L) : L :=
  match s.movement with
  | some m => if s.Pending m then m.value else s.reportedLevel
  | none => s.reportedLevel

/-! ## Targets -/

/-- `unconfirmed_last_value_send`; the tracker forgets a value that has expired. -/
def unconfirmedLastValueSend (dpk : DataPointKey) (s : Blind L) : Option L × Blind L :=
  match s.inFlight.get? dpk with
  | some value => (some value, s)
  | none =>
    let last := s.tracker.getLastValueSend s.now dpk lastCommandSendStoreTimeout
    (last.1, { s with tracker := last.2 })

/-- `_target_level` and `_target_tilt_level`. -/
def target (d : DataPoint L L) (s : Blind L) : Option L × Blind L :=
  if d.isOptimistic && d.value.isSome then (d.value, s)
  else s.unconfirmedLastValueSend d.info.dpk

/-- A coordinate of a command and whether it is a target that is pending. -/
def coordinate (given : Option L) (d : DataPoint L L) (shown : L) (s : Blind L) :
    (L × Bool) × Blind L :=
  match given with
  | some value => ((value, false), s)
  | none =>
    match s.target d with
    | (some value, s) => ((value, true), s)
    | (none, s) => ((shown, false), s)

/-! ## Commands -/

def setCall (n : Nat) (phase : BlindPhase L) (s : Blind L) : Blind L :=
  { s with calls := s.calls.set n phase }

/-- The command ends and releases the lock, if it has it. -/
def endCall (n : Nat) (s : Blind L) : Blind L :=
  { s.setCall n .ended with lockHolder := if s.lockHolder = some n then none else s.lockHolder }

/-- What is sent of the levels: `send_value` takes what the data point accepts. -/
def carried (level tilt : L) (s : Blind L) : BlindSend L :=
  match s.info.combined with
  | some combined =>
    { level := some (combined level tilt).1, tilt := some (combined level tilt).2 }
  | none =>
    { level := (s.level.convertForSending level true).join
      tilt := (s.tilt.convertForSending tilt true).join }

/-- The optimistic value of a data point that has been collected. -/
def applyCollected (value : Option L) (now : Nat) (d : DataPoint L L) : DataPoint L L :=
  match value with
  | some value => d.applyOptimisticValue (some value) now
  | none => d

/-- `_send_level`, up to its `await`; a combined parameter has no optimistic value. -/
def sendLevel (n : Nat) (level tilt : L) (s : Blind L) : Blind L :=
  let send := s.carried level tilt
  if s.info.combined.isSome then s.setCall n (.sending send)
  else
    { s with
      tilt := applyCollected send.tilt s.now s.tilt
      level := applyCollected send.level s.now s.level }.setCall n (.sending send)

def recorded (level : Option L) (sent : L) (s : Blind L) : List (TiltOnly L) :=
  match level with
  | some _ => s.tiltOnly
  | none => s.tiltOnly ++ [{ level := sent, expected := s.expectedLevel }]

/-- `_set_level`, once it has the lock or has waited too long. -/
def setLevel (n : Nat) (level tilt : Option L) (s : Blind L) : Blind L :=
  let forLevel := s.coordinate level s.level s.groupLevel
  let forTilt := forLevel.2.coordinate tilt s.tilt s.groupTiltLevel
  let s' := { forTilt.2 with tiltOnly := s.recorded level forLevel.1.1 }
  if forLevel.1.2 || forTilt.1.2 then s'.setCall n (.stopping forLevel.1.1 forTilt.1.1)
  else s'.sendLevel n forLevel.1.1 forTilt.1.1

/-- A command goes on after it has waited for the lock. -/
def proceed (n : Nat) (s : Blind L) : Option (Blind L) :=
  match s.calls[n]? with
  | some (.waiting level tilt) => some (s.setLevel n level tilt)
  | some .stopWaiting => some (s.setCall n .stopSending)
  | _ => none

inductive Command where
  | setPosition (position tiltPosition : Option Int)
  | openCover
  | closeCover
  | openTilt
  | closeTilt
  /-- `stop` and `stop_tilt`. -/
  | stop

def positionLevel (position : Int) (s : Blind L) : L :=
  s.info.positionToLevel (min 100 (max 0 position))

def addCall (phase : BlindPhase L) (s : Blind L) : Blind L := { s with calls := s.calls ++ [phase] }

/-- A command up to its wait for the lock. -/
def command (s : Blind L) : Command → Blind L
  | .setPosition position tiltPosition =>
    if s.isStateChange { position, tiltPosition } then
      s.addCall (.waiting (position.map s.positionLevel) (tiltPosition.map s.positionLevel))
    else s
  | .openCover =>
    if s.isStateChange { opens := true, tiltOpens := true } then
      s.addCall (.waiting (some s.info.openLevel) (some s.info.openTiltLevel))
    else s
  | .closeCover =>
    if s.isStateChange { closes := true, tiltCloses := true } then
      s.addCall (.waiting (some s.info.closedLevel) (some s.info.closedLevel))
    else s
  | .openTilt =>
    if s.isStateChange { tiltOpens := true } then
      s.addCall (.waiting none (some s.info.openTiltLevel))
    else s
  | .closeTilt =>
    if s.isStateChange { tiltCloses := true } then
      s.addCall (.waiting none (some s.info.closedLevel))
    else s
  | .stop => s.addCall .stopWaiting

/-- `send_value` for STOP has ended. -/
def stopEnded (n : Nat) (result : Except PyException CallResult) (s : Blind L) :
    Option (Blind L) :=
  let s' := match result with
    | .ok .sent => { s with movement := none }
    | _ => s
  match s.calls[n]?, result with
  | some (.stopping level tilt), .ok _ => some (s'.sendLevel n level tilt)
  | some (.stopping ..), .error _ => some (s'.endCall n)
  | some .stopSending, _ => some (s'.endCall n)
  | _, _ => none

/-! ## Sending -/

/-- `_stage_in_flight_value` and `_stage_in_flight_paramset`. -/
def stage (send : BlindSend L) (s : Blind L) : Blind L :=
  if s.info.combined.isSome then s
  else { s with inFlight := (s.inFlight.set? s.levelKey send.level).set? s.tiltKey send.tilt }

def clearValue (dpk : DataPointKey) (value : Option L) (inFlight : Dict DataPointKey L) :
    Dict DataPointKey L :=
  if value.isSome ∧ inFlight.get? dpk = value then inFlight.erase dpk else inFlight

/-- `_clear_in_flight_value` and `_clear_in_flight_paramset`. -/
def clearInFlight (send : BlindSend L) (s : Blind L) : Blind L :=
  if s.info.combined.isSome ∨ send.staged = false then s
  else
    { s with
      inFlight := clearValue s.tiltKey send.tilt (clearValue s.levelKey send.level s.inFlight) }

/-- The values of a send, as the tracker gets them. -/
def sentValues (send : BlindSend L) (s : Blind L) : Dict String L :=
  (Dict.empty.set? s.info.tilt.parameter send.tilt).set? s.info.level.parameter send.level

/-- `_write_unconfirmed_value`. -/
def writeUnconfirmed (value : Option L) (d : DataPoint L L) (s : Blind L) : DataPoint L L :=
  match value with
  | some value => if s.info.requiresPolling then d.writeUnconfirmedValue value s.now else d
  | none => d

/-- The backend has taken the levels. -/
def sent (send : BlindSend L) (s : Blind L) : Blind L :=
  { s with
    tracker := s.tracker.addPutParamset s.now s.info.channelAddress .values (s.sentValues send)
    level := s.writeUnconfirmed send.level s.level
    tilt := s.writeUnconfirmed send.tilt s.tilt
    movement := send.movement s.now s.movement }

def rollback (value : Option L) (d : DataPoint L L) : DataPoint L L :=
  if value.isSome then d.rollbackOptimisticValue else d

/-- The backend has not taken the levels; an `Exception` rolls the optimistic values back. -/
def notSent (send : BlindSend L) (result : Except PyException CallResult) (s : Blind L) : Blind L :=
  match result with
  | .error exc =>
    if s.info.combined.isNone ∧ exc.cls.isException then
      { s with level := rollback send.level s.level, tilt := rollback send.tilt s.tilt }
    else s
  | .ok _ => s

/-- `set_value` or `put_paramset` has ended. -/
def sendEnded (n : Nat) (result : Except PyException CallResult) (s : Blind L) :
    Option (Blind L) :=
  match s.calls[n]? with
  | some (.sending send) =>
    match result with
    | .ok .sent => if send.staged then some (((s.clearInFlight send).sent send).endCall n) else none
    | _ => some (((s.clearInFlight send).notSent send result).endCall n)
  | _ => none

/-! ## Reports -/

/-- The level is reported, and `level` is its data point afterwards. -/
def levelReported (value : L) (level : DataPoint L L) (s : Blind L) : Blind L :=
  { s with
    level
    reported := some value
    movement := s.movement.filter (·.value ≠ value)
    calls := s.calls.map (·.levelReported value) }

/-- `event` of a data point forgets the command that it confirms. -/
def confirmed (dpk : DataPointKey) (value : L) (s : Blind L) : Blind L :=
  { s with
    tracker := s.tracker.removeLastValueSend s.now dpk (some value) lastCommandSendStoreTimeout }

/-! ## Runs -/

inductive Action (L : Type*) where
  | command (c : Command)
  | acquired (n : Nat)
  /-- Command `n` has waited for five seconds and goes on without the lock. -/
  | timedOut (n : Nat)
  | cancel (n : Nat)
  | stopEnded (n : Nat) (result : Except PyException CallResult)
  | staged (n : Nat)
  | sendEnded (n : Nat) (result : Except PyException CallResult)
  | levelEvent (value : L) (receivedAt : Nat)
  | levelLoad (value : L)
  | tiltEvent (value : L) (receivedAt : Nat)
  | tiltLoad (value : L)
  | groupLevelEvent (value : L)
  | groupTiltEvent (value : L)
  | levelRollback
  | tiltRollback

/-- An action at the time `s.now`. -/
def run (s : Blind L) : Action L → Option (Blind L)
  | .command c => some (s.command c)
  | .acquired n => if s.lockHolder = none then { s with lockHolder := some n }.proceed n else none
  | .timedOut n => s.proceed n
  | .cancel n =>
    match s.calls[n]? with
    | some (.waiting ..) | some .stopWaiting => some (s.setCall n .ended)
    | _ => none
  | .stopEnded n result => s.stopEnded n result
  | .staged n =>
    match s.calls[n]? with
    | some (.sending send) =>
      if send.level.isSome || send.tilt.isSome then
        some ((s.stage send).setCall n (.sending { send with staged := true }))
      else none
    | _ => none
  | .sendEnded n result => s.sendEnded n result
  | .levelEvent value receivedAt =>
    some ((s.confirmed s.levelKey value).levelReported value (s.level.event value receivedAt))
  | .levelLoad value => some (s.levelReported value (s.level.load (.entry value) s.now))
  | .tiltEvent value receivedAt =>
    some { s.confirmed s.tiltKey value with tilt := s.tilt.event value receivedAt }
  | .tiltLoad value => some { s with tilt := s.tilt.load (.entry value) s.now }
  | .groupLevelEvent value => some { s with groupLevelValue := some value }
  | .groupTiltEvent value => some { s with groupTiltValue := some value }
  | .levelRollback => s.level.rollbackTimeout.map fun level => { s with level }
  | .tiltRollback => s.tilt.rollbackTimeout.map fun tilt => { s with tilt }

def init (info : BlindInfo L) : Blind L where
  now := 1
  info
  level := { info := info.parameterInfo info.level }
  tilt := { info := info.parameterInfo info.tilt }
  tracker := { interfaceId := info.interfaceId }

/-- Actions with their times, which do not go back. -/
def system (info : BlindInfo L) : StepSystem (Blind L) (Nat × Action L) where
  init := init info
  step s a := if a.1 < s.now then none else { s with now := a.1 }.run a.2

end Blind

end AioHomematic.Model
