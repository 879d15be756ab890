import AioHomematic.Const
import AioHomematic.Lib.Numbered
import AioHomematic.Lib.StepSystem
import AioHomematic.ParameterTools

/-!
# The configuration coordinator

`ConfigurationCoordinator.put_paramset` and `copy_paramset`, with the paramsets of the backend that
they read and write. A call waits at each read and at its write; there other calls and anyone else
may change a paramset, and a read or a write may raise. The client answers a write that failed like
one that did not, so a write is delivered any number of times before it ends, retries included.

A validated write is checked against the values that the call has read (`delivered_validated`), so
the rules between the parameters hold of the backend where no one else writes in between
(`serial_consistent`). A copy accounts for every value of its source (`copy_accounts`).
-/

namespace AioHomematic.Central

open Lib ParameterTools Model.ConvertValue

structure ParamsetPlace where
  interfaceId : String
  channelAddress : String
  paramsetKey : ParamsetKey
deriving DecidableEq

structure PutParamsetResult where
  success : Bool
  validated : Bool
  validationErrors : Dict String String

structure CopyParamsetResult where
  success : Bool
  validated : Bool
  validationErrors : Dict String String
  parametersCopied : Nat
  parametersSkipped : Nat

variable {F O : Type}

abbrev Paramset (F O : Type) := Dict String (Value F O)

/-- What the calls refer to: the rules of the easymode data, and the cached descriptions. -/
structure ConfigurationData (F O : Type) where
  py : Runtime F O
  rules : List CrossValidationRule
  descriptions : ParamsetPlace → Dict String (ParameterData F O)

/-- The arguments of `put_paramset`. -/
structure Put (F O : Type) where
  place : ParamsetPlace
  values : Paramset F O
  validate : Bool

/-- The local variables of `copy_paramset`, once it has read its source. -/
structure Copy (F O : Type) where
  source : ParamsetPlace
  target : ParamsetPlace
  sourceValues : Paramset F O
  filteredValues : Paramset F O
  skipped : Nat

/-- Where a call is; a `put_paramset` may be part of a copy, which has read `oldValues`. -/
inductive ConfigurationCall (F O : Type) where
  | readSource (source target : ParamsetPlace)
  | readOld (copy : Copy F O)
  | readCurrent (put : Put F O) (caller : Option (Copy F O × Paramset F O))
  | write (put : Put F O) (current : Option (Paramset F O))
      (caller : Option (Copy F O × Paramset F O))
  | putDone (put : Put F O) (result : PutParamsetResult)
  | copyDone (copy : Copy F O) (result : CopyParamsetResult) (oldValues copiedValues : Paramset F O)
  | raised (exc : PyException)

structure Configuration (F O : Type) where
  paramsets : Dict ParamsetPlace (Paramset F O)
  calls : List (ConfigurationCall F O) := []

namespace Configuration

variable [Floats F] [DecidableEq O] (data : ConfigurationData F O)

/-- `put_paramset` returns, to a copy if it is part of one. -/
def returned (put : Put F O) (caller : Option (Copy F O × Paramset F O))
    (result : PutParamsetResult) : ConfigurationCall F O :=
  match caller with
  | none => .putDone put result
  | some (copy, oldValues) =>
    .copyDone copy
      { success := result.success
        validated := result.validated
        validationErrors := result.validationErrors
        parametersCopied := if result.success then copy.filteredValues.entries.length else 0
        parametersSkipped := copy.skipped }
      oldValues (if result.success then copy.filteredValues else .empty)

def failed (validationErrors : Dict String String) : PutParamsetResult :=
  { success := false, validated := true, validationErrors }

/-- `put_paramset` up to its first `await`. -/
def putParamset (put : Put F O) (caller : Option (Copy F O × Paramset F O)) :
    ConfigurationCall F O :=
  if put.validate then
    match validateParamset data.py (data.descriptions put.place) put.values with
    | .error exc => .raised exc
    | .ok failures =>
      if failures.entries = [] then .readCurrent put caller
      else returned put caller (failed (failures.map ValidationResult.reason))
  else .write put none caller

/-- `put_paramset`, once it has the current values. -/
def checkCurrent (put : Put F O) (caller : Option (Copy F O × Paramset F O))
    (currentValues : Paramset F O) : ConfigurationCall F O :=
  match validateCrossParameters data.rules put.values currentValues with
  | .error exc => .raised exc
  | .ok crossErrors =>
    if crossErrors.entries = [] then .write put (some currentValues) caller
    else returned put caller (failed crossErrors)

/-- The parameter is present in the descriptions and writable. -/
def isCopied (descriptions : Dict String (ParameterData F O)) (parameter : String) : Bool :=
  (descriptions.get? parameter).any isParameterWritable

def filter (source target : ParamsetPlace) (sourceValues : Paramset F O) : Copy F O where
  source := source
  target := target
  sourceValues := sourceValues
  filteredValues := sourceValues.filterKeys (isCopied (data.descriptions target))
  skipped := (sourceValues.entries.filter
    fun e => !isCopied (data.descriptions target) e.1).length

/-- `copy_paramset`, once it has the values of the source. -/
def copyParamset (source target : ParamsetPlace) (sourceValues : Paramset F O) :
    ConfigurationCall F O :=
  let copy := filter data source target sourceValues
  if copy.filteredValues.entries = [] then
    .copyDone copy
      { success := true
        validated := true
        validationErrors := .empty
        parametersCopied := 0
        parametersSkipped := copy.skipped } .empty .empty
  else .readOld copy

/-- `copy_paramset` goes on to write, once it has read the target or failed to. -/
def putCopy (copy : Copy F O) (oldValues : Paramset F O) : ConfigurationCall F O :=
  putParamset data { place := copy.target, values := copy.filteredValues, validate := true }
    (some (copy, oldValues))

/-- What the call awaits is read. -/
def read (paramsets : Dict ParamsetPlace (Paramset F O)) :
    ConfigurationCall F O → Option (ConfigurationCall F O)
  | .readSource source target => (paramsets.get? source).map (copyParamset data source target)
  | .readOld copy => (paramsets.get? copy.target).map (putCopy data copy)
  | .readCurrent put caller => (paramsets.get? put.place).map (checkCurrent data put caller)
  | _ => none

/-- What the call awaits raises. -/
def readFailed (exc : PyException) : ConfigurationCall F O → Option (ConfigurationCall F O)
  | .readOld copy => some (if exc.cls.isHomematic then putCopy data copy .empty else .raised exc)
  | .readSource _ _ | .readCurrent _ _ | .write _ _ _ => some (.raised exc)
  | _ => none

/-- The client returns from the write, whether or not the backend has taken it. -/
def written : ConfigurationCall F O → Option (ConfigurationCall F O)
  | .write put _ caller =>
    some (returned put caller
      { success := true, validated := put.validate, validationErrors := .empty })
  | _ => none

inductive Action (F O : Type) where
  | put (place : ParamsetPlace) (values : Paramset F O) (validate : Bool)
  | copy (source target : ParamsetPlace)
  | read (i : Nat)
  | failed (i : Nat) (exc : PyException)
  | deliver (i : Nat)
  | written (i : Nat)
  /-- Someone else changes a paramset. -/
  | changed (place : ParamsetPlace) (values : Paramset F O)

/-- A call goes on. -/
def resume (s : Configuration F O) (i : Nat)
    (next : ConfigurationCall F O → Option (ConfigurationCall F O)) : Option (Configuration F O) :=
  ((s.calls[i]?).bind next).map fun call => { s with calls := s.calls.set i call }

/-- The backend takes the values of a paramset. -/
def store (s : Configuration F O) (place : ParamsetPlace) (values : Paramset F O) :
    Configuration F O :=
  { s with
    paramsets := s.paramsets.set place (((s.paramsets.get? place).getD .empty).merge values) }

def step (s : Configuration F O) : Action F O → Option (Configuration F O)
  | .put place values validate =>
    some { s with calls := s.calls ++ [putParamset data { place, values, validate } none] }
  | .copy source target => some { s with calls := s.calls ++ [.readSource source target] }
  | .read i => s.resume i (read data s.paramsets)
  | .failed i exc => s.resume i (readFailed data exc)
  | .deliver i =>
    match s.calls[i]? with
    | some (.write put _ _) => some (s.store put.place put.values)
    | _ => none
  | .written i => s.resume i written
  | .changed place values => some { s with paramsets := s.paramsets.set place values }

def system (paramsets : Dict ParamsetPlace (Paramset F O)) :
    StepSystem (Configuration F O) (Action F O) where
  init := { paramsets }
  step := step data

/-! ## What a call knows -/

section Knows

variable {data : ConfigurationData F O} {s t : Configuration F O} {a : Action F O}
  {was was' : ParamsetPlace → Paramset F O → Prop}

/-- A copy has split the values that its source had. -/
structure FromSource (data : ConfigurationData F O) (was : ParamsetPlace → Paramset F O → Prop)
    (copy : Copy F O) : Prop where
  was : was copy.source copy.sourceValues
  filtered : copy.filteredValues =
    copy.sourceValues.filterKeys (isCopied (data.descriptions copy.target))
  accounts : copy.filteredValues.entries.length + copy.skipped =
    copy.sourceValues.entries.length

/-- The values that the target had; none where they could not be read. -/
def IsOld (was : ParamsetPlace → Paramset F O → Prop) (copy : Copy F O)
    (oldValues : Paramset F O) : Prop :=
  was copy.target oldValues ∨ oldValues = .empty

/-- A copy that writes has its filtered values written. -/
def CalledBy (data : ConfigurationData F O) (was : ParamsetPlace → Paramset F O → Prop)
    (put : Put F O) (caller : Option (Copy F O × Paramset F O)) : Prop :=
  ∀ copy oldValues, caller = some (copy, oldValues) →
    FromSource data was copy ∧ IsOld was copy oldValues ∧ put.validate = true ∧
      put.place = copy.target ∧ put.values = copy.filteredValues

/-- A validated write fits its descriptions, and the rules hold with the values that were read. -/
def Checked (data : ConfigurationData F O) (was : ParamsetPlace → Paramset F O → Prop)
    (put : Put F O) (current : Option (Paramset F O)) : Prop :=
  AllowsAll (data.descriptions put.place) put.values ∧
    ∃ values, current = some values ∧ was put.place values ∧
      Consistent data.rules (values.merge put.values)

structure CopyResult (copy : Copy F O) (result : CopyParamsetResult)
    (copiedValues : Paramset F O) : Prop where
  skipped : result.parametersSkipped = copy.skipped
  succeeds : result.success = true → copiedValues = copy.filteredValues ∧
    result.parametersCopied = copy.filteredValues.entries.length ∧
    result.validationErrors.entries = []
  fails : result.success = false → copiedValues = .empty ∧ result.parametersCopied = 0 ∧
    result.validationErrors.entries ≠ []

/-- What holds of a call, where `was` says what the paramsets of the backend have been. -/
def Knows (data : ConfigurationData F O) (was : ParamsetPlace → Paramset F O → Prop) :
    ConfigurationCall F O → Prop
  | .readSource _ _ | .raised _ => True
  | .readOld copy => FromSource data was copy
  | .readCurrent put caller => put.validate = true ∧
      AllowsAll (data.descriptions put.place) put.values ∧ CalledBy data was put caller
  | .write put current caller =>
      (put.validate = true → Checked data was put current) ∧ CalledBy data was put caller
  | .putDone put result => result.validated = put.validate ∧
      (result.success = true ↔ result.validationErrors.entries = [])
  | .copyDone copy result oldValues copiedValues =>
      FromSource data was copy ∧ IsOld was copy oldValues ∧ CopyResult copy result copiedValues

omit [Floats F] [DecidableEq O] in
theorem FromSource.mono (hwas : ∀ place values, was place values → was' place values)
    {copy : Copy F O} (h : FromSource data was copy) : FromSource data was' copy :=
  ⟨hwas _ _ h.was, h.filtered, h.accounts⟩

omit [Floats F] [DecidableEq O] in
theorem IsOld.mono (hwas : ∀ place values, was place values → was' place values) {copy : Copy F O}
    {oldValues : Paramset F O} (h : IsOld was copy oldValues) : IsOld was' copy oldValues :=
  h.imp_left (hwas _ _)

omit [Floats F] [DecidableEq O] in
theorem CalledBy.mono (hwas : ∀ place values, was place values → was' place values) {put : Put F O}
    {caller : Option (Copy F O × Paramset F O)} (h : CalledBy data was put caller) :
    CalledBy data was' put caller := by
  intro copy oldValues hcaller
  obtain ⟨hsource, hold, hput⟩ := h copy oldValues hcaller
  exact ⟨hsource.mono hwas, hold.mono hwas, hput⟩

/-- What the paramsets have been, they have been later. -/
theorem Knows.mono (hwas : ∀ place values, was place values → was' place values)
    {call : ConfigurationCall F O} (h : Knows data was call) : Knows data was' call := by
  cases call with
  | readSource | raised => trivial
  | readOld copy => exact FromSource.mono hwas h
  | readCurrent put caller => exact ⟨h.1, h.2.1, h.2.2.mono hwas⟩
  | write put current caller =>
    refine ⟨fun hvalidate => ?_, h.2.mono hwas⟩
    obtain ⟨hallows, values, hcurrent, hvalues, hconsistent⟩ := h.1 hvalidate
    exact ⟨hallows, values, hcurrent, hwas _ _ hvalues, hconsistent⟩
  | putDone => exact h
  | copyDone copy result oldValues copiedValues =>
    exact ⟨h.1.mono hwas, h.2.1.mono hwas, h.2.2⟩

/-! ## What each part of a call does -/

theorem knows_returned {put : Put F O} {caller : Option (Copy F O × Paramset F O)}
    {result : PutParamsetResult} (hcaller : CalledBy data was put caller)
    (hvalidated : result.validated = put.validate)
    (hresult : result.success = true ↔ result.validationErrors.entries = []) :
    Knows data was (returned put caller result) := by
  cases caller with
  | none => exact ⟨hvalidated, hresult⟩
  | some caller =>
    obtain ⟨copy, oldValues⟩ := caller
    obtain ⟨hsource, hold, -⟩ := hcaller copy oldValues rfl
    refine ⟨hsource, hold, rfl, fun hsuccess => ?_, fun hfails => ?_⟩
    · have hsuccess' : result.success = true := hsuccess
      simp only [hsuccess', if_true]
      exact ⟨trivial, trivial, hresult.mp hsuccess'⟩
    · have hfails' : result.success = false := hfails
      refine ⟨by rw [hfails']; rfl, by rw [hfails']; rfl, fun hnil => ?_⟩
      rw [hresult.mpr hnil] at hfails'
      cases hfails'

theorem knows_failed {put : Put F O} {caller : Option (Copy F O × Paramset F O)}
    {validationErrors : Dict String String} (hvalidate : put.validate = true)
    (hcaller : CalledBy data was put caller) (herrors : validationErrors.entries ≠ []) :
    Knows data was (returned put caller (failed validationErrors)) :=
  knows_returned hcaller hvalidate.symm
    (iff_of_false Bool.false_ne_true herrors)

theorem knows_putParamset {put : Put F O} {caller : Option (Copy F O × Paramset F O)}
    (hcaller : CalledBy data was put caller) : Knows data was (putParamset data put caller) := by
  unfold putParamset
  split
  next hvalidate =>
    cases hfailures : validateParamset data.py (data.descriptions put.place) put.values with
    | error exc => trivial
    | ok failures =>
      have hallows := entries_validateParamset_eq_nil hfailures
      dsimp only
      split
      next hnil => exact ⟨hvalidate, hallows.mp hnil, hcaller⟩
      next hne =>
        refine knows_failed hvalidate hcaller fun hnil => hne ?_
        exact List.map_eq_nil_iff.mp hnil
  next hvalidate => exact ⟨fun h => absurd h hvalidate, hcaller⟩

theorem knows_checkCurrent {put : Put F O} {caller : Option (Copy F O × Paramset F O)}
    {values : Paramset F O} (hvalidate : put.validate = true)
    (hallows : AllowsAll (data.descriptions put.place) put.values)
    (hcaller : CalledBy data was put caller) (hwas : was put.place values) :
    Knows data was (checkCurrent data put caller values) := by
  unfold checkCurrent
  cases herrors : validateCrossParameters data.rules put.values values with
  | error exc => trivial
  | ok errors =>
    have hconsistent := entries_validateCrossParameters_eq_nil herrors
    dsimp only
    split
    next hnil =>
      exact ⟨fun _ => ⟨hallows, values, rfl, hwas, hconsistent.mp hnil⟩, hcaller⟩
    next hne => exact knows_failed hvalidate hcaller hne

omit [Floats F] [DecidableEq O] in
theorem fromSource_filter {source target : ParamsetPlace} {values : Paramset F O}
    (hwas : was source values) : FromSource data was (filter data source target values) where
  was := hwas
  filtered := rfl
  accounts := (List.length_eq_length_filter_add fun e : String × Value F O =>
    isCopied (data.descriptions target) e.1).symm

theorem knows_copyParamset {source target : ParamsetPlace} {values : Paramset F O}
    (hwas : was source values) : Knows data was (copyParamset data source target values) := by
  have hsource : FromSource data was (filter data source target values) := fromSource_filter hwas
  unfold copyParamset
  dsimp only
  split
  next hnil =>
    refine ⟨hsource, .inr rfl, rfl, fun _ => ⟨?_, ?_, rfl⟩, fun h => Bool.noConfusion h⟩
    · exact Dict.ext hnil.symm
    · exact (congrArg List.length hnil).symm
  · exact hsource

theorem knows_putCopy {copy : Copy F O} {oldValues : Paramset F O}
    (hsource : FromSource data was copy) (hold : IsOld was copy oldValues) :
    Knows data was (putCopy data copy oldValues) := by
  refine knows_putParamset fun copy' oldValues' hcaller => ?_
  cases hcaller
  exact ⟨hsource, hold, rfl, rfl, rfl⟩

theorem Knows.read {call call' : ConfigurationCall F O} {paramsets : Dict ParamsetPlace _}
    (h : Knows data was call)
    (hwas : ∀ place values, paramsets.get? place = some values → was place values)
    (hread : read data paramsets call = some call') : Knows data was call' := by
  cases call with
  | readSource source target =>
    obtain ⟨values, hvalues, rfl⟩ := Option.map_eq_some_iff.mp hread
    exact knows_copyParamset (hwas _ _ hvalues)
  | readOld copy =>
    obtain ⟨values, hvalues, rfl⟩ := Option.map_eq_some_iff.mp hread
    exact knows_putCopy h (.inl (hwas _ _ hvalues))
  | readCurrent put caller =>
    obtain ⟨values, hvalues, rfl⟩ := Option.map_eq_some_iff.mp hread
    exact knows_checkCurrent h.1 h.2.1 h.2.2 (hwas _ _ hvalues)
  | _ => cases hread

theorem Knows.readFailed {call call' : ConfigurationCall F O} {exc : PyException}
    (h : Knows data was call) (hfailed : readFailed data exc call = some call') :
    Knows data was call' := by
  cases call with
  | readOld copy =>
    cases hfailed
    split
    · exact knows_putCopy h (.inr rfl)
    · trivial
  | readSource | readCurrent | write =>
    cases hfailed
    trivial
  | _ => cases hfailed

theorem Knows.written {call call' : ConfigurationCall F O} (h : Knows data was call)
    (hwritten : written call = some call') : Knows data was call' := by
  cases call with
  | write put current caller =>
    cases hwritten
    exact knows_returned h.2 rfl (iff_of_true rfl rfl)
  | _ => cases hwritten

end Knows

/-! ## Samples -/

def sampleSource : ParamsetPlace := ⟨"CCU-HmIP-RF", "VCU1:1", .master⟩

def sampleTarget : ParamsetPlace := ⟨"CCU-HmIP-RF", "VCU2:1", .master⟩

/-- Two temperatures, the first not below the second, and a parameter that cannot be written. -/
def sampleData : ConfigurationData Empty Empty where
  py := { samplePython with typeName := Empty.elim }
  rules := [{ appliesToParams := ["MAX", "MIN"], rule := .gte, errorKey := "max_below_min",
              paramA := some "MAX", paramB := some "MIN" }]
  descriptions _ := ((Dict.empty.set "MAX" { type := some .integer, operations := 7 }).set "MIN"
    { type := some .integer, operations := 7, min := some (.int 5) }).set "STATE"
    { type := some .bool, operations := 5 }

def sampleValues (max min : Int) : Paramset Empty Empty :=
  ((Dict.empty.set "MAX" (.int max)).set "MIN" (.int min)).set "STATE" (.bool true)

def sampleParamsets : Dict ParamsetPlace (Paramset Empty Empty) :=
  (Dict.empty.set sampleSource (sampleValues 30 10)).set sampleTarget (sampleValues 20 5)

/-! ## Runs -/

section Runs

variable {data : ConfigurationData F O} {paramsets : Dict ParamsetPlace (Paramset F O)}
  {s t : Configuration F O} {a : Action F O} {as : List (Action F O)} {i : Nat}

omit [Floats F] [DecidableEq O] in
theorem resume_eq_some {next : ConfigurationCall F O → Option (ConfigurationCall F O)}
    (h : s.resume i next = some t) : ∃ call call', s.calls[i]? = some call ∧
      next call = some call' ∧ t = { s with calls := s.calls.set i call' } := by
  obtain ⟨call', hcall', rfl⟩ := Option.map_eq_some_iff.mp h
  obtain ⟨call, hcall, hnext⟩ := Option.bind_eq_some_iff.mp hcall'
  exact ⟨call, call', hcall, hnext, rfl⟩

/-- A call goes on with the action. -/
inductive Continues (data : ConfigurationData F O) (s : Configuration F O) (i : Nat)
    (call call' : ConfigurationCall F O) : Action F O → Prop where
  | read (h : read data s.paramsets call = some call') : Continues data s i call call' (.read i)
  | failed (exc : PyException) (h : readFailed data exc call = some call') :
      Continues data s i call call' (.failed i exc)
  | written (h : written call = some call') : Continues data s i call call' (.written i)

/-- Where a call is after a step: it has not moved, it is new, or it goes on. -/
inductive Moves (data : ConfigurationData F O) (s : Configuration F O) (a : Action F O) (i : Nat)
    (call' : ConfigurationCall F O) : Prop where
  | same (h : s.calls[i]? = some call')
  | put (place : ParamsetPlace) (values : Paramset F O) (validate : Bool) (hi : i = s.calls.length)
      (h : call' = putParamset data { place, values, validate } none)
  | copy (source target : ParamsetPlace) (hi : i = s.calls.length)
      (h : call' = .readSource source target)
  | continues (call : ConfigurationCall F O) (hcall : s.calls[i]? = some call)
      (h : Continues data s i call call' a)

theorem step_moves {call' : ConfigurationCall F O} (h : step data s a = some t)
    (hcall' : t.calls[i]? = some call') : Moves data s a i call' := by
  have hresume {j : Nat} {next : ConfigurationCall F O → Option (ConfigurationCall F O)}
      (hj : s.resume j next = some t)
      (hcontinues : ∀ call, next call = some call' → j = i → Continues data s i call call' a) :
      Moves data s a i call' := by
    obtain ⟨call, call'', hcall, hnext, rfl⟩ := resume_eq_some hj
    have hset := hcall'
    rw [getElem?_set_of_some hcall] at hset
    split at hset
    next hij =>
      subst hij
      cases hset
      exact .continues call hcall (hcontinues call hnext rfl)
    · exact .same hset
  cases a with
  | put place values validate =>
    cases h
    rcases getElem?_concat_cases hcall' with hsame | ⟨hi, rfl⟩
    · exact .same hsame
    · exact .put place values validate hi rfl
  | copy source target =>
    cases h
    rcases getElem?_concat_cases hcall' with hsame | ⟨hi, rfl⟩
    · exact .same hsame
    · exact .copy source target hi rfl
  | read j =>
    refine hresume h fun call hnext hj => ?_
    subst hj
    exact .read hnext
  | failed j exc =>
    refine hresume h fun call hnext hj => ?_
    subst hj
    exact .failed exc hnext
  | written j =>
    refine hresume h fun call hnext hj => ?_
    subst hj
    exact .written hnext
  | deliver j =>
    rw [step] at h
    split at h
    · cases h
      exact .same hcall'
    · cases h
  | changed place values =>
    cases h
    exact .same hcall'

/-- The backend has had these values at this place in the run. -/
def Was (data : ConfigurationData F O) (paramsets : Dict ParamsetPlace (Paramset F O))
    (as : List (Action F O)) (place : ParamsetPlace) (values : Paramset F O) : Prop :=
  ∃ before after u, as = before ++ after ∧
    (system data paramsets).Steps StepSystem.Free (system data paramsets).init before u ∧
    u.paramsets.get? place = some values

/-- A run, with what its calls know. -/
structure Known (data : ConfigurationData F O) (paramsets : Dict ParamsetPlace (Paramset F O))
    (as : List (Action F O)) (s : Configuration F O) : Prop where
  steps : (system data paramsets).Steps StepSystem.Free (system data paramsets).init as s
  knows : ∀ (i : Nat) (call : ConfigurationCall F O), s.calls[i]? = some call →
    Knows data (Was data paramsets as) call

omit [Floats F] [DecidableEq O] in
theorem calledBy_none (put : Put F O) (was : ParamsetPlace → Paramset F O → Prop) :
    CalledBy data was put none := by
  intro copy oldValues h
  cases h

theorem Known.step (hs : Known data paramsets as s) (h : step data s a = some t) :
    Known data paramsets (as ++ [a]) t := by
  have hwas : ∀ place values, Was data paramsets as place values →
      Was data paramsets (as ++ [a]) place values := by
    rintro place values ⟨before, after, u, rfl, hu, hvalues⟩
    exact ⟨before, after ++ [a], u, List.append_assoc _ _ _, hu, hvalues⟩
  refine ⟨hs.steps.snoc trivial h, fun i call' hcall' => ?_⟩
  cases step_moves h hcall' with
  | same hsame => exact (hs.knows i call' hsame).mono hwas
  | put place values validate hi heq =>
    rw [heq]
    exact knows_putParamset (calledBy_none _ _)
  | copy source target hi heq =>
    rw [heq]
    trivial
  | continues call hcall hcontinues =>
    have hknows := (hs.knows i call hcall).mono hwas
    cases hcontinues with
    | read hread =>
      exact hknows.read (fun place values hvalues => ⟨as, [.read i], s, rfl, hs.steps, hvalues⟩)
        hread
    | failed exc hfailed => exact hknows.readFailed hfailed
    | written hwritten => exact hknows.written hwritten

theorem known_of_steps
    (h : (system data paramsets).Steps StepSystem.Free (system data paramsets).init as s) :
    Known data paramsets as s := by
  have hinit : Known data paramsets [] (system data paramsets).init :=
    ⟨.nil _, fun i call hcall => by cases hcall⟩
  exact h.history (fun _ _ _ _ hs _ hstep => hs.step hstep) hinit

theorem step_deliver (h : step data s (.deliver i) = some t) :
    ∃ put current caller, s.calls[i]? = some (.write put current caller) ∧
      t = s.store put.place put.values := by
  rw [step] at h
  split at h
  next put current caller hcall =>
    cases h
    exact ⟨put, current, caller, hcall, rfl⟩
  · cases h

/-! ## What is written -/

/-- A validated write that reaches the backend has values that their descriptions allow, and every
rule holds with the values that the backend had at an earlier moment of the run; it changes one
paramset only. -/
theorem delivered_validated
    (h : (system data paramsets).Steps StepSystem.Free (system data paramsets).init as s)
    (hstep : step data s (.deliver i) = some t) :
    ∃ put current caller, s.calls[i]? = some (.write put current caller) ∧ t.calls = s.calls ∧
      (∀ place, t.paramsets.get? place =
        if put.place = place then some (((s.paramsets.get? place).getD .empty).merge put.values)
        else s.paramsets.get? place) ∧
      (put.validate = true →
        (∀ parameter value, put.values.get? parameter = some value →
          ∃ parameterData, (data.descriptions put.place).get? parameter = some parameterData ∧
            Allows parameterData value) ∧
        ∃ values, current = some values ∧ Was data paramsets as put.place values ∧
          Consistent data.rules (values.merge put.values)) := by
  obtain ⟨put, current, caller, hcall, rfl⟩ := step_deliver hstep
  obtain ⟨hchecked, -⟩ := (known_of_steps h).knows i _ hcall
  refine ⟨put, current, caller, hcall, rfl, fun place => ?_, fun hvalidate => hchecked hvalidate⟩
  unfold store
  rw [Dict.get?_set]
  split
  next hplace => rw [hplace]
  · rfl

/-- A call has validated a new maximum and goes on to write it. -/
theorem delivered_validated_max :
    ∃ s t put current caller,
      (system sampleData sampleParamsets).replay StepSystem.Free
        (system sampleData sampleParamsets).init
        [.put sampleTarget (Dict.empty.set "MAX" (.int 6)) true, .read 0] = some s ∧
      step sampleData s (.deliver 0) = some t ∧ s.calls[0]? = some (.write put current caller) ∧
      (put.validate = true → ∃ values, current = some values ∧
        Consistent sampleData.rules (values.merge put.values)) := by
  obtain ⟨s, hs, hdeliver⟩ := StepSystem.replay_any
    (p := fun s => (step sampleData s (.deliver 0)).isSome = true)
    (show ((system sampleData sampleParamsets).replay StepSystem.Free
      (system sampleData sampleParamsets).init
      [.put sampleTarget (Dict.empty.set "MAX" (.int 6)) true, .read 0]).any _ = true by decide)
  obtain ⟨t, ht⟩ := Option.isSome_iff_exists.mp hdeliver
  obtain ⟨put, current, caller, hcall, -, -, hvalidated⟩ :=
    delivered_validated (StepSystem.steps_of_replay hs) ht
  refine ⟨s, t, put, current, caller, hs, ht, hcall, fun hvalidate => ?_⟩
  obtain ⟨-, values, hcurrent, -, hconsistent⟩ := hvalidated hvalidate
  exact ⟨values, hcurrent, hconsistent⟩

/-! ## What is not written -/

/-- The call writes, or has written unless it tells otherwise. -/
def mayHaveWritten : ConfigurationCall F O → Bool
  | .write _ _ _ | .raised _ => true
  | .putDone _ result => result.success
  | .copyDone _ result _ _ => result.success
  | _ => false

theorem Continues.mayHaveWritten {call call' : ConfigurationCall F O}
    (h : Continues data s i call call' a) (hcall : mayHaveWritten call = true) :
    mayHaveWritten call' = true := by
  cases h with
  | read hread =>
    cases call with
    | readSource | readOld | readCurrent => cases hcall
    | _ => cases hread
  | failed exc hfailed =>
    cases call with
    | readSource | readOld | readCurrent => cases hcall
    | write =>
      cases hfailed
      rfl
    | _ => cases hfailed
  | written hwritten =>
    cases call with
    | write put current caller =>
      cases hwritten
      cases caller with
      | none => rfl
      | some caller => rfl
    | _ => cases hwritten

theorem length_calls_le (h : step data s a = some t) : s.calls.length ≤ t.calls.length := by
  have hresume {j : Nat} {next : ConfigurationCall F O → Option (ConfigurationCall F O)}
      (hj : s.resume j next = some t) : s.calls.length ≤ t.calls.length := by
    obtain ⟨call, call', -, -, rfl⟩ := resume_eq_some hj
    exact Nat.le_of_eq List.length_set.symm
  cases a with
  | put | copy =>
    cases h
    exact List.length_append.symm ▸ Nat.le_add_right _ _
  | read | failed | written => exact hresume h
  | deliver =>
    obtain ⟨put, current, caller, -, rfl⟩ := step_deliver h
    exact Nat.le_refl _
  | changed =>
    cases h
    exact Nat.le_refl _

/-- What was delivered is still being written, or the call has not reported a failure. -/
def Accounted (as : List (Action F O)) (s : Configuration F O) : Prop :=
  ∀ i, Action.deliver i ∈ as → ∃ call, s.calls[i]? = some call ∧ mayHaveWritten call = true

theorem Accounted.step (hs : Accounted as s) (h : step data s a = some t) :
    Accounted (as ++ [a]) t := by
  intro i hi
  have hcall : ∃ call, s.calls[i]? = some call ∧ mayHaveWritten call = true := by
    rcases List.mem_append.mp hi with hi | hi
    · exact hs i hi
    · rw [← List.mem_singleton.mp hi] at h
      obtain ⟨put, current, caller, hcall, -⟩ := step_deliver h
      exact ⟨_, hcall, rfl⟩
  obtain ⟨call, hcall, hmay⟩ := hcall
  have hlength := (List.getElem?_eq_some_iff.mp hcall).1
  obtain ⟨call', hcall'⟩ : ∃ call', t.calls[i]? = some call' :=
    ⟨_, List.getElem?_eq_getElem (Nat.lt_of_lt_of_le hlength (length_calls_le h))⟩
  refine ⟨call', hcall', ?_⟩
  cases step_moves h hcall' with
  | same hsame =>
    rw [hcall] at hsame
    cases hsame
    exact hmay
  | put _ _ _ hnew => exact absurd hnew (Nat.ne_of_lt hlength)
  | copy _ _ hnew => exact absurd hnew (Nat.ne_of_lt hlength)
  | continues before hbefore hcontinues =>
    rw [hcall] at hbefore
    cases hbefore
    exact hcontinues.mayHaveWritten hmay

theorem accounted_of_steps
    (h : (system data paramsets).Steps StepSystem.Free (system data paramsets).init as s) :
    Accounted as s := by
  have hinit : Accounted [] (system data paramsets).init := fun i hi => absurd hi List.not_mem_nil
  exact h.history (fun _ _ _ _ hs _ hstep => hs.step hstep) hinit

/-- A copy accounts for every value that its source had: it is copied or skipped, and what is copied
is described and writable at the target. A copy that reports a failure has copied nothing. -/
theorem copy_accounts
    (h : (system data paramsets).Steps StepSystem.Free (system data paramsets).init as s)
    {copy : Copy F O} {result : CopyParamsetResult} {oldValues copiedValues : Paramset F O}
    (hcall : s.calls[i]? = some (.copyDone copy result oldValues copiedValues)) :
    Was data paramsets as copy.source copy.sourceValues ∧
      (Was data paramsets as copy.target oldValues ∨ oldValues = .empty) ∧
      (result.success = true →
        result.parametersCopied + result.parametersSkipped = copy.sourceValues.entries.length ∧
        ∀ parameter, copiedValues.get? parameter =
          if isCopied (data.descriptions copy.target) parameter
          then copy.sourceValues.get? parameter else none) ∧
      (result.success = false → result.validationErrors.entries ≠ [] ∧
        result.parametersCopied = 0 ∧ copiedValues = .empty ∧ Action.deliver i ∉ as) := by
  obtain ⟨hsource, hold, hresult⟩ := (known_of_steps h).knows i _ hcall
  refine ⟨hsource.was, hold, fun hsuccess => ?_, fun hfails => ?_⟩
  · obtain ⟨hcopied, hcount, -⟩ := hresult.succeeds hsuccess
    refine ⟨?_, fun parameter => ?_⟩
    · rw [hcount, hresult.skipped]
      exact hsource.accounts
    · rw [hcopied, hsource.filtered, Dict.get?_filterKeys]
  · obtain ⟨hcopied, hcount, herrors⟩ := hresult.fails hfails
    refine ⟨herrors, hcount, hcopied, fun hdelivered => ?_⟩
    obtain ⟨call, hcall', hmay⟩ := accounted_of_steps h i hdelivered
    rw [hcall] at hcall'
    cases hcall'
    rw [mayHaveWritten, hfails] at hmay
    cases hmay

/-- Two of three values are copied. -/
theorem copy_accounts_two :
    ∃ s copy result oldValues copiedValues,
      (system sampleData sampleParamsets).replay StepSystem.Free
        (system sampleData sampleParamsets).init
        [.copy sampleSource sampleTarget, .read 0, .read 0, .read 0, .deliver 0, .written 0] =
          some s ∧
      s.calls[0]? = some (.copyDone copy result oldValues copiedValues) ∧
      (result.success = true →
        result.parametersCopied + result.parametersSkipped = copy.sourceValues.entries.length) := by
  obtain ⟨s, hs, hdone⟩ := StepSystem.replay_any
    (p := fun s : Configuration Empty Empty => ((s.calls[0]?).any fun call => match call with
      | .copyDone _ result _ _ => result.parametersCopied = 2 ∧ result.parametersSkipped = 1
      | _ => false) = true)
    (show ((system sampleData sampleParamsets).replay StepSystem.Free
      (system sampleData sampleParamsets).init
      [.copy sampleSource sampleTarget, .read 0, .read 0, .read 0, .deliver 0, .written 0]).any _ =
        true by decide)
  obtain ⟨call, hcall, htest⟩ := (Option.any_eq_true _ _).mp hdone
  cases call with
  | copyDone copy result oldValues copiedValues =>
    refine ⟨s, copy, result, oldValues, copiedValues, hs, hcall, fun hsuccess => ?_⟩
    exact ((copy_accounts (StepSystem.steps_of_replay hs) hcall).2.2.1 hsuccess).1
  | _ => cases htest

/-! ## The rules of the backend's paramsets -/

/-- No one changes a paramset between the reading and the writing of a call, retries of its write
apart, and no one else breaks a rule. -/
def Serial (data : ConfigurationData F O) (s : Configuration F O) : Action F O → Prop
  | .deliver i => ∀ put current caller, s.calls[i]? = some (.write put current caller) →
      put.validate = true ∧ ∀ values, current = some values →
        s.paramsets.get? put.place = some values ∨
          s.paramsets.get? put.place = some (values.merge put.values)
  | .changed _ values => Consistent data.rules values
  | _ => True

def AllConsistent (data : ConfigurationData F O) (s : Configuration F O) : Prop :=
  ∀ place values, s.paramsets.get? place = some values → Consistent data.rules values

omit [Floats F] [DecidableEq O] in
theorem paramsets_resume {next : ConfigurationCall F O → Option (ConfigurationCall F O)}
    (h : s.resume i next = some t) : t.paramsets = s.paramsets := by
  obtain ⟨call, call', -, -, rfl⟩ := resume_eq_some h
  rfl

theorem AllConsistent.step {was : ParamsetPlace → Paramset F O → Prop} (hs : AllConsistent data s)
    (hknows : ∀ (i : Nat) (call : ConfigurationCall F O), s.calls[i]? = some call →
      Knows data was call)
    (hserial : Serial data s a) (h : step data s a = some t) : AllConsistent data t := by
  have hkept (hparamsets : t.paramsets = s.paramsets) : AllConsistent data t := by
    unfold AllConsistent
    rw [hparamsets]
    exact hs
  cases a with
  | put | copy =>
    cases h
    exact hs
  | read | failed | written => exact hkept (paramsets_resume h)
  | changed place values =>
    cases h
    intro place' values' hvalues
    dsimp only at hvalues
    rw [Dict.get?_set] at hvalues
    split at hvalues
    · cases hvalues
      exact hserial
    · exact hs place' values' hvalues
  | deliver i =>
    obtain ⟨put, current, caller, hcall, rfl⟩ := step_deliver h
    obtain ⟨hvalidate, hnow⟩ := hserial put current caller hcall
    obtain ⟨-, values, hcurrent, -, hconsistent⟩ := (hknows i _ hcall).1 hvalidate
    intro place values' hvalues
    unfold store at hvalues
    rw [Dict.get?_set] at hvalues
    split at hvalues
    · cases hvalues
      rcases hnow values hcurrent with hget | hget
      · rw [hget]
        exact hconsistent
      · rw [hget]
        refine (consistent_congr fun parameter => ?_).mpr hconsistent
        rw [Option.getD_some, Dict.get?_merge, Dict.get?_merge]
        cases put.values.get? parameter <;> rfl
    · exact hs place values' hvalues

/-- Where calls and others take turns at a paramset, the rules between its parameters hold of the
backend throughout. -/
theorem serial_consistent
    (h : (system data paramsets).Steps (Serial data) (system data paramsets).init as s)
    (hinit : ∀ place values, paramsets.get? place = some values → Consistent data.rules values)
    (place : ParamsetPlace) (values : Paramset F O)
    (hvalues : s.paramsets.get? place = some values) : Consistent data.rules values := by
  have hboth : Known data paramsets ([] ++ as) s ∧ AllConsistent data s :=
    h.history (P := fun as s => Known data paramsets as s ∧ AllConsistent data s)
      (fun _ _ _ _ hs hserial hstep =>
        ⟨hs.1.step hstep, hs.2.step hs.1.knows hserial hstep⟩)
      ⟨⟨.nil _, fun i call hcall => by cases hcall⟩, hinit⟩
  exact hboth.2 place values hvalues

theorem consistent_sampleValues :
    Consistent sampleData.rules (sampleValues 30 10) ∧
      Consistent sampleData.rules (sampleValues 20 5) ∧
      Consistent sampleData.rules (sampleValues 7 7) := by
  refine ⟨?_, ?_, ?_⟩
  · exact (entries_validateCrossParameters_eq_nil (rfl : validateCrossParameters sampleData.rules
      .empty (sampleValues 30 10) = .ok .empty)).mp rfl
  · exact (entries_validateCrossParameters_eq_nil (rfl : validateCrossParameters sampleData.rules
      .empty (sampleValues 20 5) = .ok .empty)).mp rfl
  · exact (entries_validateCrossParameters_eq_nil (rfl : validateCrossParameters sampleData.rules
      .empty (sampleValues 7 7) = .ok .empty)).mp rfl

/-- A call has checked a new maximum. -/
def sampleChecked : Configuration Empty Empty where
  paramsets := sampleParamsets
  calls :=
    [.write ⟨sampleTarget, Dict.empty.set "MAX" (.int 6), true⟩ (some (sampleValues 20 5)) none]

theorem serial_sampleChecked : Serial sampleData sampleChecked (.deliver 0) := by
  intro put current caller hcall
  cases hcall
  refine ⟨rfl, fun values hvalues => ?_⟩
  cases hvalues
  exact .inl rfl

/-- A call writes what it has checked, and then someone else changes the paramset. -/
theorem serial_consistent_changed :
    ∃ s : Configuration Empty Empty, (system sampleData sampleParamsets).Steps (Serial sampleData)
      (system sampleData sampleParamsets).init
      [.put sampleTarget (Dict.empty.set "MAX" (.int 6)) true, .read 0, .deliver 0,
        .changed sampleTarget (sampleValues 7 7)] s ∧
      ∀ values, s.paramsets.get? sampleTarget = some values →
        Consistent sampleData.rules values := by
  have hchecked : (system sampleData sampleParamsets).Steps (Serial sampleData)
      (system sampleData sampleParamsets).init
      [.put sampleTarget (Dict.empty.set "MAX" (.int 6)) true, .read 0] sampleChecked :=
    .cons trivial rfl (.cons trivial rfl (.nil _))
  have hstored := hchecked.snoc serial_sampleChecked
    (rfl : step sampleData sampleChecked (.deliver 0) = some _)
  have hchanged (s : Configuration Empty Empty) :
      Serial sampleData s (.changed sampleTarget (sampleValues 7 7)) := consistent_sampleValues.2.2
  have hsteps := hstored.snoc (hchanged _) rfl
  refine ⟨_, hsteps, fun values hvalues => ?_⟩
  refine serial_consistent hsteps (fun place values hplace => ?_) sampleTarget values hvalues
  rw [sampleParamsets, Dict.get?_set, Dict.get?_set] at hplace
  split at hplace
  · cases hplace
    exact consistent_sampleValues.2.1
  · split at hplace
    · cases hplace
      exact consistent_sampleValues.1
    · cases hplace

end Runs

end Configuration

end AioHomematic.Central
