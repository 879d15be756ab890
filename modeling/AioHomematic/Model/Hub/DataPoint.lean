import Mathlib.Logic.Basic

/-!
# Data points of the hub

Programs and system variables of the backend. A data point is an object; `ref` tells it from
others of the same program or variable. The floats are a parameter, with what Python's
conversions make of them (`Conversions`): a conversion that raises gives nothing.
-/

namespace AioHomematic.Model.Hub

variable {F : Type}

/-! ## System variables -/

inductive HubValueType where
  | alarm
  | float
  | integer
  | list
  | logic
  | number
  | string
deriving DecidableEq

/-- `SYSVAR_TYPE`. -/
inductive SysvarValue (F : Type) where
  | bool (b : Bool)
  | float (x : F)
  | int (n : Int)
  | none
  | str (s : String)
deriving DecidableEq

/-- What the fetch of a system variable gives. -/
structure SystemVariableData (F : Type) where
  legacyName : String
  vid : String
  value : SysvarValue F
  dataType : Option HubValueType := none
  extendedSysvar : Bool := false

/-- Python's conversions and its `==`. -/
structure Conversions (F : Type) where
  floatOfInt : Int → Option F
  floatOfStr : String → Option F
  intOfFloat : F → Option Int
  intOfStr : String → Option Int
  isZero : F → Bool
  str : SysvarValue F → String
  eq : SysvarValue F → SysvarValue F → Bool

namespace Conversions

variable (py : Conversions F)

/-- `to_bool`. -/
def toBool : SysvarValue F → Option (SysvarValue F)
  | .bool b => some (.bool b)
  | .str s => some (.bool (s.toLower ∈ ["y", "yes", "t", "true", "on", "1"]))
  | _ => none

/-- `bool`. -/
def bool : SysvarValue F → SysvarValue F
  | .bool b => .bool b
  | .float x => .bool (!py.isZero x)
  | .int n => .bool (n ≠ 0)
  | .none => .bool false
  | .str s => .bool (s ≠ "")

/-- `float`. -/
def float : SysvarValue F → Option (SysvarValue F)
  | .bool b => (py.floatOfInt (if b then 1 else 0)).map .float
  | .float x => some (.float x)
  | .int n => (py.floatOfInt n).map .float
  | .none => none
  | .str s => (py.floatOfStr s).map .float

/-- `int`. -/
def int : SysvarValue F → Option (SysvarValue F)
  | .bool b => some (.int (if b then 1 else 0))
  | .float x => (py.intOfFloat x).map .int
  | .int n => some (.int n)
  | .none => none
  | .str s => (py.intOfStr s).map .int

def parseSysVar (dataType : HubValueType) (rawValue : SysvarValue F) : Option (SysvarValue F) :=
  match dataType with
  | .alarm | .logic => toBool rawValue
  | .float => py.float rawValue
  | .integer | .list => py.int rawValue
  | .number | .string => some rawValue

/-- `_convert_value`. -/
def convertValue (dataType : Option HubValueType) (oldValue newValue : SysvarValue F) :
    Option (SysvarValue F) :=
  if newValue matches .none then some .none
  else
    match dataType, oldValue with
    | some dataType, _ => py.parseSysVar dataType newValue
    | none, .bool _ => some (py.bool newValue)
    | none, .int _ => py.int newValue
    | none, .str _ => some (.str (py.str newValue))
    | none, .float _ => py.float newValue
    | none, .none => some newValue

/-- The value after a write: an equal one is not replaced. -/
def writtenValue (dataType : Option HubValueType) (oldValue newValue : SysvarValue F) :
    Option (SysvarValue F) :=
  (py.convertValue dataType oldValue newValue).map fun newValue =>
    if py.eq oldValue newValue then oldValue else newValue

end Conversions

/-- The categories of hub data points, `HUB_CATEGORIES`. -/
inductive HubCategory where
  | hubBinarySensor
  | hubButton
  | hubNumber
  | hubSelect
  | hubSensor
  | hubSwitch
  | hubText
  | hubUpdate
deriving DecidableEq

def hubCategories : List HubCategory :=
  [.hubBinarySensor, .hubButton, .hubNumber, .hubSelect, .hubSensor, .hubSwitch, .hubText,
    .hubUpdate]

theorem mem_hubCategories (c : HubCategory) : c ∈ hubCategories := by cases c <;> decide

theorem hubCategories_nodup : hubCategories.Nodup := by decide

/-- The classes of system variables. -/
inductive SysvarClass where
  | sysvarDpBinarySensor
  | sysvarDpNumber
  | sysvarDpSelect
  | sysvarDpSensor
  | sysvarDpSwitch
  | sysvarDpText
deriving DecidableEq

namespace SysvarClass

/-- `_category`. -/
def category : SysvarClass → HubCategory
  | sysvarDpBinarySensor => .hubBinarySensor
  | sysvarDpNumber => .hubNumber
  | sysvarDpSelect => .hubSelect
  | sysvarDpSensor => .hubSensor
  | sysvarDpSwitch => .hubSwitch
  | sysvarDpText => .hubText

/-- `_is_extended`. -/
def isExtended : SysvarClass → Bool
  | sysvarDpBinarySensor => false
  | sysvarDpSensor => false
  | _ => true

end SysvarClass

/-- `GenericSysvarDataPoint`. -/
structure SysvarDataPoint (F : Type) where
  ref : Nat
  cls : SysvarClass
  legacyName : String
  vid : String
  dataType : Option HubValueType
  currentValue : SysvarValue F
  previousValue : SysvarValue F := .none
  stateUncertain : Bool := true
  isRegistered : Bool := false

namespace SysvarDataPoint

def statePath (vid : String) : String := "sysvar/status/" ++ vid

def isExtended (dp : SysvarDataPoint F) : Bool := dp.cls.isExtended

/-- Nothing where the conversion raises. -/
def writeValue (py : Conversions F) (value : SysvarValue F) (dp : SysvarDataPoint F) :
    Option (SysvarDataPoint F) :=
  (py.convertValue dp.dataType dp.currentValue value).map fun newValue =>
    if py.eq dp.currentValue newValue then { dp with stateUncertain := false }
    else
      { dp with
        previousValue := dp.currentValue, currentValue := newValue, stateUncertain := false }

/-- A write leaves everything but the values and `state_uncertain`. -/
theorem writeValue_eq_some {py : Conversions F} {value : SysvarValue F}
    {dp dp' : SysvarDataPoint F} (h : dp.writeValue py value = some dp') :
    ∃ written previous, py.writtenValue dp.dataType dp.currentValue value = some written ∧
      dp' = { dp with
        previousValue := previous, currentValue := written, stateUncertain := false } := by
  obtain ⟨newValue, hconvert, rfl⟩ := Option.map_eq_some_iff.mp h
  rw [Conversions.writtenValue, hconvert]
  by_cases heq : py.eq dp.currentValue newValue = true
  · exact ⟨dp.currentValue, dp.previousValue, by simp [heq], by simp [heq]⟩
  · exact ⟨newValue, dp.currentValue, by simp [heq], by simp [heq]⟩

theorem writeValue_isSome {py : Conversions F} {value : SysvarValue F} {dp : SysvarDataPoint F} :
    (dp.writeValue py value).isSome =
      (py.writtenValue dp.dataType dp.currentValue value).isSome := by
  rw [writeValue, Conversions.writtenValue, Option.isSome_map, Option.isSome_map]

end SysvarDataPoint

/-! ## Programs -/

/-- What the fetch of a program gives. -/
structure ProgramData where
  legacyName : String
  pid : String
  isActive : Bool
  isInternal : Bool
  lastExecuteTime : String
deriving DecidableEq

/-- `GenericProgramDataPoint`. -/
structure ProgramDataPoint where
  ref : Nat
  category : HubCategory
  legacyName : String
  pid : String
  isActive : Bool
  isInternal : Bool
  lastExecuteTime : String
  isRegistered : Bool := false
deriving DecidableEq

namespace ProgramDataPoint

def statePath (pid : String) : String := "program/status/" ++ pid

def updateData (data : ProgramData) (dp : ProgramDataPoint) : ProgramDataPoint :=
  { dp with
    isActive := data.isActive
    isInternal := data.isInternal
    lastExecuteTime := data.lastExecuteTime }

end ProgramDataPoint

/-- `ProgramDpType`. -/
structure ProgramDpType where
  pid : String
  button : ProgramDataPoint
  switch : ProgramDataPoint
deriving DecidableEq

end AioHomematic.Model.Hub
