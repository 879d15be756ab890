import AioHomematic.Lib.Dict
import AioHomematic.Model.Hub.DataPoint

/-!
# The hub data points of a central

`HubCoordinator`: the programs and the system variables that are registered, and an index of both
by state path. `log` is what has been published or scheduled: a `HUB_REFRESHED` event with new
data points, or the event that a data point is removed.
-/

namespace AioHomematic.Central

open Lib Model.Hub

variable {F : Type}

inductive HubEvent where
  | hubRefreshed (newDataPoints : List (HubCategory × List Nat))
  | deviceRemoved (ref : Nat)
deriving DecidableEq

structure HubCoordinator (F : Type) where
  sysvarDataPoints : Dict String (SysvarDataPoint F) := .empty
  programDataPoints : Dict String ProgramDpType := .empty
  statePathToName : Dict String String := .empty
  /-- The `ref` of the next data point. -/
  nextRef : Nat := 0
  log : List HubEvent := []

/-- A string that counts as true. -/
def truthy (s : Option String) : Option String := s.filter (· ≠ "")

@[simp] theorem truthy_none : truthy none = none := rfl

@[simp] theorem truthy_some (s : String) : truthy (some s) = if s = "" then none else some s := by
  by_cases h : s = "" <;> simp [truthy, h]

namespace HubCoordinator

/-- The buttons and then the switches. -/
def programDataPointValues (s : HubCoordinator F) : List ProgramDataPoint :=
  s.programDataPoints.values.map (·.button) ++ s.programDataPoints.values.map (·.switch)

def addProgramDataPoint (s : HubCoordinator F) (programDp : ProgramDpType) : HubCoordinator F :=
  { s with
    programDataPoints := s.programDataPoints.set programDp.pid programDp
    statePathToName := s.statePathToName.set (ProgramDataPoint.statePath programDp.button.pid)
      programDp.pid }

def addSysvarDataPoint (s : HubCoordinator F) (sysvarDp : SysvarDataPoint F) :
    HubCoordinator F :=
  { s with
    sysvarDataPoints := s.sysvarDataPoints.set sysvarDp.vid sysvarDp
    statePathToName := s.statePathToName.set (SysvarDataPoint.statePath sysvarDp.vid)
      sysvarDp.vid }

/-- A state path that is known decides; another one hides the id. -/
def getProgramDataPoint (s : HubCoordinator F) (pid legacyName statePath : Option String) :
    Option ProgramDpType :=
  match truthy ((truthy statePath).bind s.statePathToName.get?) with
  | some pid => s.programDataPoints.get? pid
  | none =>
    ((truthy (if (truthy statePath).isSome then none else pid)).bind
      s.programDataPoints.get?).or
      ((truthy legacyName).bind fun legacyName =>
        s.programDataPoints.values.find? fun program =>
          legacyName = program.button.legacyName ∨ legacyName = program.switch.legacyName)

/-- The same for system variables. -/
def getSysvarDataPoint (s : HubCoordinator F) (vid legacyName statePath : Option String) :
    Option (SysvarDataPoint F) :=
  match truthy ((truthy statePath).bind s.statePathToName.get?) with
  | some vid => s.sysvarDataPoints.get? vid
  | none =>
    ((truthy (if (truthy statePath).isSome then none else vid)).bind
      s.sysvarDataPoints.get?).or
      ((truthy legacyName).bind fun legacyName =>
        s.sysvarDataPoints.values.find? fun sysvar => sysvar.legacyName = legacyName)

/-- Nothing is found under an empty id. -/
theorem getProgramDataPoint_pid (s : HubCoordinator F) (pid : String) :
    s.getProgramDataPoint (some pid) none none =
      if pid = "" then none else s.programDataPoints.get? pid := by
  by_cases h : pid = "" <;> simp [getProgramDataPoint, h]

theorem getSysvarDataPoint_vid (s : HubCoordinator F) (vid : String) :
    s.getSysvarDataPoint (some vid) none none =
      if vid = "" then none else s.sysvarDataPoints.get? vid := by
  by_cases h : vid = "" <;> simp [getSysvarDataPoint, h]

def removeProgramButton (s : HubCoordinator F) (pid : String) : HubCoordinator F :=
  match s.getProgramDataPoint (some pid) none none with
  | none => s
  | some programDp =>
    { s with
      log := s.log ++ [.deviceRemoved programDp.button.ref, .deviceRemoved programDp.switch.ref]
      programDataPoints := s.programDataPoints.erase pid
      statePathToName := s.statePathToName.erase
        (ProgramDataPoint.statePath programDp.button.pid) }

def removeSysvarDataPoint (s : HubCoordinator F) (vid : String) : HubCoordinator F :=
  match s.getSysvarDataPoint (some vid) none none with
  | none => s
  | some sysvarDp =>
    { s with
      log := s.log ++ [.deviceRemoved sysvarDp.ref]
      sysvarDataPoints := s.sysvarDataPoints.erase vid
      statePathToName := s.statePathToName.erase (SysvarDataPoint.statePath sysvarDp.vid) }

end HubCoordinator

end AioHomematic.Central
