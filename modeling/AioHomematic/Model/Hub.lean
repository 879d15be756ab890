import AioHomematic.Central.Coordinators.Hub
import AioHomematic.Lib.StepSystem
import Mathlib.Data.List.Infix

/-!
# The hub

`Hub` creates, updates and removes the data points of the programs and of the system variables
that a fetch gives. Everything after the fetch runs without a suspension, so a run of the hub is
a sequence of fetches. The ids of a Python set are gone through in one order of many.
-/

namespace AioHomematic.Model.Hub

open Lib Central

variable {F : Type}

inductive Backend where
  | ccu
  | homegear
  | pydevccu
deriving DecidableEq

/-! ## Creating data points -/

/-- The class of a system variable. -/
def sysvarClass (dataType : Option HubValueType) (extendedSysvar : Bool) : SysvarClass :=
  match dataType, extendedSysvar with
  | some .alarm, true | some .logic, true => .sysvarDpSwitch
  | some .alarm, false | some .logic, false => .sysvarDpBinarySensor
  | some .list, true => .sysvarDpSelect
  | some .float, true | some .integer, true => .sysvarDpNumber
  | some .string, true => .sysvarDpText
  | _, _ => .sysvarDpSensor

/-- `_create_sysvar_data_point`. -/
def createSysvarDataPoint (ref : Nat) (data : SystemVariableData F) : SysvarDataPoint F where
  ref := ref
  cls := sysvarClass data.dataType data.extendedSysvar
  legacyName := data.legacyName
  vid := data.vid
  dataType := data.dataType
  currentValue := data.value

def createSystemVariable (s : HubCoordinator F) (data : SystemVariableData F) :
    HubCoordinator F × SysvarDataPoint F :=
  let sysvarDp := createSysvarDataPoint s.nextRef data
  ({ s with nextRef := s.nextRef + 1 }.addSysvarDataPoint sysvarDp, sysvarDp)

def createProgramDataPoint (ref : Nat) (category : HubCategory) (data : ProgramData) :
    ProgramDataPoint where
  ref := ref
  category := category
  legacyName := data.legacyName
  pid := data.pid
  isActive := data.isActive
  isInternal := data.isInternal
  lastExecuteTime := data.lastExecuteTime

/-- `_create_program_dp`. -/
def createProgramDp (s : HubCoordinator F) (data : ProgramData) :
    HubCoordinator F × ProgramDpType :=
  let programDp : ProgramDpType :=
    { pid := data.pid
      button := createProgramDataPoint s.nextRef .hubButton data
      switch := createProgramDataPoint (s.nextRef + 1) .hubSwitch data }
  ({ s with nextRef := s.nextRef + 2 }.addProgramDataPoint programDp, programDp)

/-! ## Announcing data points -/

/-- What `_get_new_hub_data_points` asks of a data point. -/
structure HubDataPoint where
  ref : Nat
  category : HubCategory
  isRegistered : Bool

def SysvarDataPoint.toHub (dp : SysvarDataPoint F) : HubDataPoint :=
  ⟨dp.ref, dp.cls.category, dp.isRegistered⟩

def ProgramDataPoint.toHub (dp : ProgramDataPoint) : HubDataPoint :=
  ⟨dp.ref, dp.category, dp.isRegistered⟩

def getNewHubDataPoints (dataPoints : List HubDataPoint) : List (HubCategory × List Nat) :=
  hubCategories.map fun category =>
    (category, (dataPoints.filter fun dp =>
      !dp.isRegistered && dp.category = category).map (·.ref))

/-- `publish_system_event`, if there are new data points. -/
def publishNew (s : HubCoordinator F) (dataPoints : List HubDataPoint) : HubCoordinator F :=
  if dataPoints.isEmpty then s
  else { s with log := s.log ++ [.hubRefreshed (getNewHubDataPoints dataPoints)] }

/-! ## Programs -/

/-- `_identify_missing_program_ids`. -/
def identifyMissingProgramIds (s : HubCoordinator F) (programs : List ProgramData) : List String :=
  ((s.programDataPointValues.map (·.pid)).filter fun pid =>
    pid ∉ programs.map (·.pid)).eraseDups

def removeProgramDataPoint (s : HubCoordinator F) (ids : List String) : HubCoordinator F :=
  ids.foldl HubCoordinator.removeProgramButton s

/-- A program is updated, or a new one is created; with the new data points. -/
def syncProgram (s : HubCoordinator F) (data : ProgramData) :
    HubCoordinator F × List HubDataPoint :=
  match s.getProgramDataPoint (some data.pid) none none with
  | some programDp =>
    -- the objects are changed in place
    ({ s with
      programDataPoints := s.programDataPoints.set data.pid
        { programDp with
          button := programDp.button.updateData data
          switch := programDp.switch.updateData data } }, [])
  | none =>
    let (s, programDp) := createProgramDp s data
    (s, [programDp.button.toHub, programDp.switch.toHub])

/-- The loop over the programs. -/
def syncPrograms (s : HubCoordinator F) : List ProgramData → HubCoordinator F × List HubDataPoint
  | [] => (s, [])
  | data :: programs =>
    let (s, new) := syncProgram s data
    let (s, more) := syncPrograms s programs
    (s, new ++ more)

/-- An empty tuple of programs counts as a fetch that failed. -/
def updateProgramDataPoints (s : HubCoordinator F) (programs : List ProgramData) :
    HubCoordinator F :=
  if programs.isEmpty then s
  else
    let (s, newPrograms) :=
      syncPrograms (removeProgramDataPoint s (identifyMissingProgramIds s programs)) programs
    publishNew s newPrograms

/-! ## System variables -/

/-- `_EXCLUDED`. -/
def excludedMarkers : List String := ["OldVal", "pcCCUID"]

def isExcluded (variableName : String) (excludes : List String) : Bool :=
  excludes.any fun marker => marker.toList <:+: variableName.toList

def cleanVariables (sysvars : List (SystemVariableData F)) : List (SystemVariableData F) :=
  sysvars.filter fun sv => !isExcluded sv.legacyName excludedMarkers

/-- The extended flags of the variables; the last one of an id decides. -/
def variableIds (sysvars : List (SystemVariableData F)) : Dict String Bool :=
  Dict.empty.assign (sysvars.map fun x => (x.vid, x.extendedSysvar))

/-- A registered variable is missing unless it is a string or has been fetched with its flag. -/
def isMissing (sysvars : List (SystemVariableData F)) (dp : SysvarDataPoint F) : Bool :=
  dp.dataType ≠ some .string && (variableIds sysvars).get? dp.vid ≠ some dp.isExtended

/-- `_identify_missing_variable_ids`. -/
def identifyMissingVariableIds (s : HubCoordinator F) (sysvars : List (SystemVariableData F)) :
    List String :=
  ((s.sysvarDataPoints.values.filter (isMissing sysvars)).map (·.vid)).eraseDups

/-- `_remove_sysvar_data_point`. -/
def removeSysvarDataPoints (s : HubCoordinator F) (ids : List String) : HubCoordinator F :=
  ids.foldl HubCoordinator.removeSysvarDataPoint s

/-- A value is written, or a new variable is created; nothing where the write raises. -/
def syncSysvar (py : Conversions F) (s : HubCoordinator F) (sysvar : SystemVariableData F) :
    Option (HubCoordinator F × List HubDataPoint) :=
  match s.getSysvarDataPoint (some sysvar.vid) none none with
  | some dp =>
    (dp.writeValue py sysvar.value).map fun dp =>
      ({ s with sysvarDataPoints := s.sysvarDataPoints.set sysvar.vid dp }, [])
  | none =>
    let (s, dp) := createSystemVariable s sysvar
    some (s, [dp.toHub])

/-- The loop over the variables; what is raised ends it, and the new data points are lost. -/
def syncSysvars (py : Conversions F) (s : HubCoordinator F) :
    List (SystemVariableData F) → HubCoordinator F × Option (List HubDataPoint)
  | [] => (s, some [])
  | sysvar :: sysvars =>
    match syncSysvar py s sysvar with
    | none => (s, none)
    | some (s, new) =>
      let (s, more) := syncSysvars py s sysvars
      (s, more.map (new ++ ·))

/-- The variables that are left of a fetch. -/
def keptVariables (model : Backend) (sysvars : List (SystemVariableData F)) :
    List (SystemVariableData F) :=
  if model = .ccu then cleanVariables sysvars else sysvars

def updateSysvarDataPoints (model : Backend) (py : Conversions F) (s : HubCoordinator F)
    (sysvars : Option (List (SystemVariableData F))) : HubCoordinator F :=
  match sysvars with
  | none => s
  | some sysvars =>
    let sysvars := keptVariables model sysvars
    match syncSysvars py
      (removeSysvarDataPoints s (identifyMissingVariableIds s sysvars)) sysvars with
    | (s, some newSysvars) => publishNew s newSysvars
    -- what a conversion raises leaves the fetch, and the rest of the update is skipped
    | (s, none) => s

/-! ## Fetches -/

inductive Fetch (F : Type) where
  | programs (programs : List ProgramData)
  | sysvars (sysvars : Option (List (SystemVariableData F)))

def applyFetch (model : Backend) (py : Conversions F) (s : HubCoordinator F) :
    Fetch F → HubCoordinator F
  | .programs programs => updateProgramDataPoints s programs
  | .sysvars sysvars => updateSysvarDataPoints model py s sysvars

def hub (model : Backend) (py : Conversions F) : StepSystem (HubCoordinator F) (Fetch F) where
  init := {}
  step s fetch := some (applyFetch model py s fetch)

end AioHomematic.Model.Hub
