import AioHomematic.Exceptions
import AioHomematic.Model.ConvertValue

/-!
# Parameter tools

The validators of `parameter_tools.py`: a value against its description, a paramset against its
descriptions, and the rules between the parameters of a paramset. What a validator allows is said
without its texts by `Allows` and `Satisfied` (`passes_validateValue_iff`,
`entries_validateParamset_eq_nil`, `entries_validateCrossParameters_eq_nil`).

A comparison that Python refuses raises `TypeError`, and a number that is too long to write raises
`ValueError` where a text is made of it.
-/

namespace AioHomematic.ParameterTools

open Lib Model.ConvertValue

variable {F O : Type}

/-- Python, with `type(value).__name__` of objects of other types. -/
structure Runtime (F O : Type) extends Python F O where
  typeName : O → String

def raised : PyException := { cls := .other }

/-! ## Values -/

section Values

variable [Floats F]

def Magnitude.lt : Value.Magnitude → Value.Magnitude → Bool
  | .negInf, .negInf => false
  | .negInf, _ => true
  | .finite x, .finite y => x < y
  | .finite _, .inf => true
  | _, _ => false

/-- `type(value).__name__`. -/
def typeOf (py : Runtime F O) : Value F O → String
  | .none => "NoneType"
  | .bool _ => "bool"
  | .int _ => "int"
  | .float _ => "float"
  | .str _ => "str"
  | .tuple _ => "tuple"
  | .object o => py.typeName o

/-- `isinstance(value, (int, float))`. -/
def isNumber : Value F O → Bool
  | .bool _ | .int _ | .float _ => true
  | _ => false

/-- `v < w` of numbers; every comparison with a NaN fails. -/
def lessThan (v w : Value F O) : Bool :=
  match v.magnitude?, w.magnitude? with
  | some a, some b => Magnitude.lt a b
  | _, _ => false

/-- `v == w`; a NaN is not equal to itself. -/
def equals [DecidableEq O] (v w : Value F O) : Bool :=
  match v with
  | .float (.nan _) => false
  | _ => v.keyEq w

/-- The text of a value in an f-string. -/
def format (py : Runtime F O) (v : Value F O) : Except PyException String :=
  match v.toStr py.toPython with
  | .ok text => .ok text
  | .error _ => .error raised

end Values

/-! ## Values and their descriptions -/

/-- `ParameterData`; a bound is missing where it is `None`. -/
structure ParameterData (F O : Type) where
  type : Option ParameterType := none
  operations : Nat := 0
  min : Option (Value F O) := none
  max : Option (Value F O) := none
  valueList : Option (List String) := none

def isParameterWritable (parameterData : ParameterData F O) : Bool :=
  parameterData.operations &&& 2 ≠ 0

structure ValidationResult where
  valid : Bool
  reason : String := ""
deriving DecidableEq

def invalid (reason : String) : ValidationResult := { valid := false, reason }

section Validate

variable [Floats F] (py : Runtime F O)

/-- The value is compared with a bound, if there is one; `words` say where it lies then. -/
def checkBound (value : Value F O) (bound : Option (Value F O)) (isBeyond : Value F O → Bool)
    (words : String) : Except PyException (Option ValidationResult) :=
  match bound with
  | none => .ok none
  | some bound =>
    if !isNumber bound then .error raised
    else if isBeyond bound then do
      let v ← format py value
      let b ← format py bound
      .ok (some (invalid s!"Value {v} is {words} {b}."))
    else .ok none

def validateRange (parameterData : ParameterData F O) (value : Value F O) :
    Except PyException ValidationResult := do
  let below ← checkBound py value parameterData.min (lessThan value ·) "below minimum"
  match below with
  | some failure => .ok failure
  | none =>
    let above ← checkBound py value parameterData.max (lessThan · value) "above maximum"
    .ok (above.getD { valid := true })

/-- An index of an `ENUM`; a Boolean is an integer. -/
def validateIndex (parameterData : ParameterData F O) (value : Value F O) (index : Int) :
    Except PyException ValidationResult :=
  match parameterData.valueList with
  | some values =>
    if 0 ≤ index ∧ index < values.length then .ok { valid := true }
    else do
      let v ← format py value
      let last := (values.length : Int) - 1
      .ok (invalid s!"Enum index {v} out of range [0, {last}].")
  | none => .ok { valid := true }

def validateValue (parameterData : ParameterData F O) (value : Value F O) :
    Except PyException ValidationResult :=
  let got := typeOf py value
  match parameterData.type.getD .empty with
  | .action | .dummy | .empty => .ok { valid := true }
  | .bool =>
    match value with
    | .bool _ => .ok { valid := true }
    | _ => .ok (invalid s!"Expected bool, got {got}.")
  | .integer | .float =>
    if isNumber value then validateRange py parameterData value
    else .ok (invalid s!"Expected numeric value, got {got}.")
  | .string =>
    match value with
    | .str _ => .ok { valid := true }
    | _ => .ok (invalid s!"Expected str, got {got}.")
  | .enum =>
    match value with
    | .bool b => validateIndex py parameterData value (if b then 1 else 0)
    | .int n => validateIndex py parameterData value n
    | .str s =>
      if parameterData.valueList.all (s ∈ ·) then .ok { valid := true }
      else .ok (invalid s!"Value '{s}' not in VALUE_LIST.")
    | _ => .ok (invalid s!"Expected int (index) or str (value) for ENUM, got {got}.")

/-- What comes of one entry of a paramset. -/
def checkParameter (descriptions : Dict String (ParameterData F O)) (entry : String × Value F O) :
    Except PyException (Option (String × ValidationResult)) :=
  match descriptions.get? entry.1 with
  | none =>
    let parameter := entry.1
    .ok (some (parameter, invalid s!"Unknown parameter '{parameter}'."))
  | some parameterData => do
    let result ← validateValue py parameterData entry.2
    .ok (if result.valid then none else some (entry.1, result))

/-- The failures, one for each parameter that fails. -/
def validateParamset (descriptions : Dict String (ParameterData F O))
    (values : Dict String (Value F O)) : Except PyException (Dict String ValidationResult) :=
  Dict.collectFrom (checkParameter py descriptions) .empty values.entries

end Validate

/-! ## Rules between parameters -/

inductive RuleKind where
  | gte
  | lte
  | between
  | notEqual
  | unknown
deriving DecidableEq

/-- `CrossValidationRule`; a parameter may be missing or empty. -/
structure CrossValidationRule where
  appliesToParams : List String
  rule : RuleKind
  errorKey : String
  paramA : Option String := none
  paramB : Option String := none
  param : Option String := none
  minParam : Option String := none
  maxParam : Option String := none

/-- The name, if there is one and it is not empty. -/
def named (param : Option String) : Option String := param.filter (· ≠ "")

/-- `merged[param]`. -/
def lookup (merged : Dict String (Value F O)) (param : String) : Except PyException (Value F O) :=
  (merged.get? param).elim (.error raised) .ok

namespace CrossValidationRule

variable [Floats F] [DecidableEq O] (rule : CrossValidationRule) (merged : Dict String (Value F O))

/-- All the parameters that the rule refers to are there. -/
def applies : Bool := rule.appliesToParams.all merged.contains

/-- The parameters that the rule compares: the one that is blamed, and the bounds. -/
def operands : Option (String × List String) :=
  match rule.rule with
  | .gte | .lte | .notEqual =>
    (named rule.paramA).bind fun a => (named rule.paramB).map fun b => (a, [b])
  | .between =>
    (named rule.param).bind fun p => (named rule.minParam).bind fun low =>
      (named rule.maxParam).map fun high => (p, [low, high])
  | .unknown => none

/-- The comparison fails. -/
def fails (val : Value F O) (bounds : List (Value F O)) : Bool :=
  match rule.rule, bounds with
  | .gte, [b] => isNumber val && isNumber b && lessThan val b
  | .lte, [b] => isNumber val && isNumber b && lessThan b val
  | .notEqual, [b] => equals val b
  | .between, [low, high] => isNumber val && isNumber low && isNumber high &&
      (lessThan val low || lessThan high val)
  | _, _ => false

/-- The parameter that is blamed where the rule is broken. -/
def violation : Except PyException (Option String) :=
  match rule.operands with
  | none => .ok none
  | some (param, bounds) => do
    let val ← lookup merged param
    let vals ← bounds.mapM (lookup merged)
    .ok (if rule.fails val vals then some param else none)

end CrossValidationRule

/-- What comes of one rule: the parameter that is blamed, and the key of the error. -/
def checkRule [Floats F] [DecidableEq O] (merged : Dict String (Value F O))
    (rule : CrossValidationRule) : Except PyException (Option (String × String)) :=
  if rule.applies merged then do
    let violation ← rule.violation merged
    .ok (violation.map fun param => (param, rule.errorKey))
  else .ok none

/-- `validate_cross_parameters`, with the rules of the easymode data. -/
def validateCrossParameters [Floats F] [DecidableEq O] (rules : List CrossValidationRule)
    (values currentValues : Dict String (Value F O)) : Except PyException (Dict String String) :=
  Dict.collectFrom (checkRule (currentValues.merge values)) .empty rules

/-! ## What the validators allow -/

section Allows

variable [Floats F] {py : Runtime F O} {parameterData : ParameterData F O} {value : Value F O}

structure InRange (parameterData : ParameterData F O) (value : Value F O) : Prop where
  min : ∀ pMin, parameterData.min = some pMin → isNumber pMin = true ∧ lessThan value pMin = false
  max : ∀ pMax, parameterData.max = some pMax → isNumber pMax = true ∧ lessThan pMax value = false

/-- An index into the values, where there are any. -/
def IsIndex (parameterData : ParameterData F O) (index : Int) : Prop :=
  ∀ values, parameterData.valueList = some values → 0 ≤ index ∧ index < values.length

/-- What a description says of the values of its parameter. -/
def Allows (parameterData : ParameterData F O) (value : Value F O) : Prop :=
  match parameterData.type.getD .empty with
  | .action | .dummy | .empty => True
  | .bool => ∃ b, value = .bool b
  | .integer | .float => isNumber value = true ∧ InRange parameterData value
  | .string => ∃ s, value = .str s
  | .enum => (∃ index, value.int? = some index ∧ IsIndex parameterData index) ∨
      ∃ s, value = .str s ∧ ∀ values, parameterData.valueList = some values → s ∈ values

def Passes (outcome : Except PyException ValidationResult) : Prop :=
  ∃ result, outcome = .ok result ∧ result.valid = true

theorem passes_valid : Passes (.ok { valid := true }) := ⟨_, rfl, rfl⟩

theorem not_passes_invalid (reason : String) : ¬Passes (.ok (invalid reason)) := by
  rintro ⟨result, h, hvalid⟩
  cases h
  cases hvalid

theorem checkBound_cases (py : Runtime F O) (value : Value F O) (bound : Option (Value F O))
    (isBeyond : Value F O → Bool) (words : String) :
    (∀ b, bound = some b → isNumber b = true ∧ isBeyond b = false) ∧
        checkBound py value bound isBeyond words = .ok none ∨
      ¬(∀ b, bound = some b → isNumber b = true ∧ isBeyond b = false) ∧
        ((∃ exc, checkBound py value bound isBeyond words = .error exc) ∨
          ∃ reason, checkBound py value bound isBeyond words = .ok (some (invalid reason))) := by
  cases bound with
  | none => exact .inl ⟨fun b hb => (by cases hb), rfl⟩
  | some bound =>
    rw [checkBound]
    cases hnumber : isNumber bound with
    | false =>
      refine .inr ⟨fun h => ?_, .inl ⟨raised, rfl⟩⟩
      rw [(h bound rfl).1] at hnumber
      cases hnumber
    | true =>
      cases hbeyond : isBeyond bound with
      | false =>
        refine .inl ⟨fun b hb => ?_, rfl⟩
        cases hb
        exact ⟨hnumber, hbeyond⟩
      | true =>
        refine .inr ⟨fun h => ?_, ?_⟩
        · rw [(h bound rfl).2] at hbeyond
          cases hbeyond
        · cases format py value with
          | error exc => exact .inl ⟨exc, rfl⟩
          | ok v =>
            cases format py bound with
            | error exc => exact .inl ⟨exc, rfl⟩
            | ok b => exact .inr ⟨_, rfl⟩

theorem not_passes_error (exc : PyException) : ¬Passes (.error exc) := by
  rintro ⟨result, h, -⟩
  cases h

theorem passes_validateRange_iff :
    Passes (validateRange py parameterData value) ↔ InRange parameterData value := by
  unfold validateRange
  rcases checkBound_cases py value parameterData.min (lessThan value ·) "below minimum" with
    ⟨hmin, heq⟩ | ⟨hmin, hbelow⟩
  · rw [heq]
    rcases checkBound_cases py value parameterData.max (lessThan · value) "above maximum" with
      ⟨hmax, heq'⟩ | ⟨hmax, habove⟩
    · rw [heq']
      exact iff_of_true passes_valid ⟨hmin, hmax⟩
    · refine iff_of_false ?_ fun h => hmax h.max
      rcases habove with ⟨exc, heq'⟩ | ⟨reason, heq'⟩
      · rw [heq']
        exact not_passes_error exc
      · rw [heq']
        exact not_passes_invalid reason
  · refine iff_of_false ?_ fun h => hmin h.min
    rcases hbelow with ⟨exc, heq⟩ | ⟨reason, heq⟩
    · rw [heq]
      exact not_passes_error exc
    · rw [heq]
      exact not_passes_invalid reason

theorem passes_validateIndex_iff {index : Int} :
    Passes (validateIndex py parameterData value index) ↔ IsIndex parameterData index := by
  unfold validateIndex IsIndex
  cases parameterData.valueList with
  | none => exact iff_of_true passes_valid fun _ h => (by cases h)
  | some values =>
    dsimp only
    split
    next hindex =>
      refine iff_of_true passes_valid fun values' h => ?_
      cases h
      exact hindex
    next hindex =>
      refine iff_of_false ?_ fun h => hindex (h values rfl)
      cases format py value with
      | error exc => exact not_passes_error exc
      | ok v => exact not_passes_invalid _

/-- A value passes its validation iff its description allows it. -/
theorem passes_validateValue_iff :
    Passes (validateValue py parameterData value) ↔ Allows parameterData value := by
  unfold validateValue Allows
  dsimp only
  cases parameterData.type.getD .empty with
  | action | dummy | empty => exact iff_of_true passes_valid trivial
  | bool =>
    cases value with
    | bool b => exact iff_of_true passes_valid ⟨b, rfl⟩
    | _ => exact iff_of_false (not_passes_invalid _) (by simp)
  | integer | float =>
    dsimp only
    split
    next hnumber => exact passes_validateRange_iff.trans (and_iff_right hnumber).symm
    next hnumber => exact iff_of_false (not_passes_invalid _) fun h => hnumber h.1
  | string =>
    cases value with
    | str s => exact iff_of_true passes_valid ⟨s, rfl⟩
    | _ => exact iff_of_false (not_passes_invalid _) (by simp)
  | enum =>
    cases value with
    | bool b => exact passes_validateIndex_iff.trans (by simp [Value.int?])
    | int n => exact passes_validateIndex_iff.trans (by simp [Value.int?])
    | str s =>
      dsimp only
      split
      next hmem =>
        refine iff_of_true passes_valid (.inr ⟨s, rfl, fun values hvalues => ?_⟩)
        rw [hvalues, Option.all_some] at hmem
        exact of_decide_eq_true hmem
      next hmem =>
        refine iff_of_false (not_passes_invalid _) ?_
        rintro (⟨index, h, -⟩ | ⟨s', h, hall⟩)
        · cases h
        · cases h
          refine hmem ?_
          cases hlist : parameterData.valueList with
          | none => rfl
          | some values => exact decide_eq_true (hall values hlist)
    | _ => exact iff_of_false (not_passes_invalid _) (by simp [Value.int?])

/-! ## Paramsets -/

/-- Every value has a description, which allows it. -/
def AllowsAll (descriptions : Dict String (ParameterData F O)) (values : Dict String (Value F O)) :
    Prop :=
  ∀ parameter value, values.get? parameter = some value →
    ∃ parameterData, descriptions.get? parameter = some parameterData ∧ Allows parameterData value

variable {descriptions : Dict String (ParameterData F O)}

theorem checkParameter_eq_none_iff {entry : String × Value F O} :
    checkParameter py descriptions entry = .ok none ↔
      ∃ parameterData, descriptions.get? entry.1 = some parameterData ∧
        Allows parameterData entry.2 := by
  unfold checkParameter
  cases descriptions.get? entry.1 with
  | none => exact iff_of_false (fun h => by cases h) (by simp)
  | some parameterData =>
    dsimp only
    rw [show (∃ data, some parameterData = some data ∧ Allows data entry.2) ↔
      Passes (validateValue py parameterData entry.2) by simp [passes_validateValue_iff]]
    cases validateValue py parameterData entry.2 with
    | error exc => exact iff_of_false (fun h => by cases h) (not_passes_error exc)
    | ok result =>
      obtain ⟨valid, reason⟩ := result
      cases valid with
      | true => exact iff_of_true rfl ⟨_, rfl, rfl⟩
      | false => exact iff_of_false (fun h => by cases h) (not_passes_invalid reason)

/-- A paramset without failures has only values that are allowed. -/
theorem entries_validateParamset_eq_nil {values : Dict String (Value F O)}
    {failures : Dict String ValidationResult}
    (h : validateParamset py descriptions values = .ok failures) :
    failures.entries = [] ↔ AllowsAll descriptions values := by
  rw [Dict.entries_collectFrom_eq_nil h]
  constructor
  · rintro ⟨-, hall⟩ parameter value hvalue
    exact checkParameter_eq_none_iff.mp (hall (parameter, value) (Dict.get?_eq_some.mp hvalue))
  · refine fun hall => ⟨rfl, fun entry hentry => ?_⟩
    exact checkParameter_eq_none_iff.mpr (hall entry.1 entry.2 (Dict.get?_eq_some.mpr hentry))

end Allows

/-! ## Rules that hold -/

section Rules

variable [Floats F] [DecidableEq O] {rule : CrossValidationRule} {rules : List CrossValidationRule}
  {merged : Dict String (Value F O)}

namespace CrossValidationRule

/-- The values that the rule compares are there, and the comparison holds. -/
def Satisfied (rule : CrossValidationRule) (merged : Dict String (Value F O)) : Prop :=
  ∀ param bounds, rule.operands = some (param, bounds) →
    ∃ val vals, merged.get? param = some val ∧ bounds.mapM merged.get? = some vals ∧
      rule.fails val vals = false

end CrossValidationRule

/-- Every rule holds whose parameters are all there. -/
def Consistent (rules : List CrossValidationRule) (merged : Dict String (Value F O)) : Prop :=
  ∀ rule ∈ rules, rule.applies merged = true → rule.Satisfied merged

omit [Floats F] [DecidableEq O] in
theorem mapM_lookup (merged : Dict String (Value F O)) (params : List String) :
    params.mapM (lookup merged) = (params.mapM merged.get?).elim (.error raised) .ok := by
  induction params with
  | nil => rfl
  | cons param params ih =>
    rw [List.mapM_cons, List.mapM_cons, ih, lookup]
    cases merged.get? param with
    | none => rfl
    | some val => cases params.mapM merged.get? <;> rfl

theorem violation_eq_none_iff : rule.violation merged = .ok none ↔ rule.Satisfied merged := by
  unfold CrossValidationRule.violation CrossValidationRule.Satisfied
  cases rule.operands with
  | none => exact iff_of_true rfl fun _ _ h => by cases h
  | some operands =>
    obtain ⟨param, bounds⟩ := operands
    constructor
    · intro h param' bounds' hoperands
      cases hoperands
      dsimp only at h
      rw [lookup, mapM_lookup] at h
      cases hval : merged.get? param with
      | none =>
        rw [hval] at h
        cases h
      | some val =>
        rw [hval] at h
        cases hvals : bounds.mapM merged.get? with
        | none =>
          rw [hvals] at h
          cases h
        | some vals =>
          rw [hvals] at h
          refine ⟨val, vals, rfl, rfl, ?_⟩
          cases hfails : rule.fails val vals with
          | false => rfl
          | true =>
            have hblamed : (Except.ok (if rule.fails val vals = true then some param else none) :
                Except PyException (Option String)) = .ok none := h
            rw [hfails] at hblamed
            cases hblamed
    · intro h
      obtain ⟨val, vals, hval, hvals, hfails⟩ := h param bounds rfl
      dsimp only
      rw [lookup, hval, mapM_lookup, hvals]
      show (Except.ok (if rule.fails val vals = true then some param else none) :
        Except PyException (Option String)) = .ok none
      rw [hfails]
      rfl

theorem checkRule_eq_none_iff :
    checkRule merged rule = .ok none ↔ (rule.applies merged = true → rule.Satisfied merged) := by
  unfold checkRule
  rw [← violation_eq_none_iff]
  split
  next happlies =>
    rw [happlies, forall_prop_of_true rfl]
    cases rule.violation merged with
    | error exc => exact iff_of_false (fun h => by cases h) (fun h => by cases h)
    | ok violation =>
      cases violation with
      | none => exact iff_of_true rfl rfl
      | some param => exact iff_of_false (fun h => by cases h) (fun h => by cases h)
  next happlies => exact iff_of_true rfl fun h => absurd h happlies

/-- Without errors every rule holds of the values merged into the current ones. -/
theorem entries_validateCrossParameters_eq_nil {values currentValues : Dict String (Value F O)}
    {errors : Dict String String}
    (h : validateCrossParameters rules values currentValues = .ok errors) :
    errors.entries = [] ↔ Consistent rules (currentValues.merge values) := by
  rw [Dict.entries_collectFrom_eq_nil h]
  exact (and_iff_right rfl).trans (forall₂_congr fun rule _ => checkRule_eq_none_iff)

/-- The rules look at the values only. -/
theorem consistent_congr {merged' : Dict String (Value F O)}
    (h : ∀ parameter, merged.get? parameter = merged'.get? parameter) :
    Consistent rules merged ↔ Consistent rules merged' := by
  have hget : merged.get? = merged'.get? := funext h
  have hcontains : merged.contains = merged'.contains := by
    funext parameter
    rw [Dict.contains, Dict.contains, h parameter]
  unfold Consistent CrossValidationRule.applies CrossValidationRule.Satisfied
  rw [hget, hcontains]

end Rules

end AioHomematic.ParameterTools
