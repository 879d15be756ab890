import Mathlib.Algebra.Group.Int.Defs
import Mathlib.Data.List.Basic
import Mathlib.Order.Lattice

/-!
# system.multicall

`AsyncXmlRpcDispatcher.dispatch` and `_system_multicall` of `central/rpc_server.py`, over any
registered methods. A handler gets its arguments and the state of the program and returns a value or
raises; what it raises is known by its text. The texts that Python itself writes are in `Python`.

`multicall_answers_iff` compares the answer to a batch with those to its entries as requests of their
own, one after the other.
-/

namespace AioHomematic.Central.Dispatcher

variable {σ : Type*}

/-! ## Values -/

/-- What `xmlrpc.client` reads with builtin types, and an object that it cannot write. Fields are the
items of a dictionary. -/
inductive Value where
  | nil
  | bool (b : Bool)
  | int (n : Int)
  | double (text : String)
  | str (s : String)
  | dateTime (text : String)
  | base64 (bytes : List UInt8)
  | array (vs : List Value)
  | struct (fields : List (String × Value))
  | object (className : String)

namespace Value

def hashable : Value → Bool
  | array _ => false
  | struct _ => false
  | _ => true

/-- What iterating over a value gives, if it can be iterated. -/
def items? : Value → Option (List Value)
  | array vs => some vs
  | str s => some (s.toList.map fun c => str (String.singleton c))
  | base64 bytes => some (bytes.map fun b => int b.toNat)
  | struct fields => some (fields.map fun field => str field.1)
  | _ => none

mutual

/-- The error with which `dumps` gives up, if it does. -/
def dumpsError : Value → Option String
  | int n =>
    if n < -2 ^ 31 ∨ 2 ^ 31 - 1 < n then some "int exceeds XML-RPC limits" else none
  | array vs => dumpsErrorItems vs
  | struct fields => dumpsErrorFields fields
  | object className => some ("cannot marshal " ++ className ++ " objects")
  | _ => none

def dumpsErrorItems : List Value → Option String
  | [] => none
  | v :: vs => v.dumpsError <|> dumpsErrorItems vs

def dumpsErrorFields : List (String × Value) → Option String
  | [] => none
  | (_, v) :: fields => v.dumpsError <|> dumpsErrorFields fields

end

/-- Homematic expects `True` for no result. -/
def acknowledge : Value → Value
  | nil => bool true
  | v => v

end Value

/-! ## Requests -/

/-- What Python raises where the dispatcher examines a request. -/
inductive PyError where
  /-- `call.get`. -/
  | noAttributeGet (call : Value)
  /-- `method_name not in self._methods`. -/
  | unhashable (methodName : Value)
  /-- `for call in calls`. -/
  | notIterable (calls : Value)
  /-- `handler(*params)`. -/
  | notUnpackable (methodName params : Value)
  /-- `_system_multicall` takes one argument. -/
  | argumentCount (n : Nat)

/-- The texts of values and of errors. -/
structure Python where
  format : Value → String
  str : PyError → String

abbrev Handler (σ : Type*) := List Value → σ → Except String Value × σ

abbrev Methods (σ : Type*) := String → Option (Handler σ)

def Methods.lookup (methods : Methods σ) : Value → Option (Handler σ)
  | .str name => methods name
  | _ => none

structure Fault where
  faultCode : Int
  faultString : String

def Fault.value (fault : Fault) : Value :=
  .struct [("faultCode", .int fault.faultCode), ("faultString", .str fault.faultString)]

inductive Response where
  | result (v : Value)
  | fault (fault : Fault)

section

variable (py : Python) (methods : Methods σ)

def methodNotFound (methodName : Value) : Fault :=
  ⟨-32601, "Method not found: " ++ py.format methodName⟩

def internalError (text : String) : Fault := ⟨-32603, text⟩

/-- `await handler(*params)`. -/
def callHandler (handler : Handler σ) (methodName params : Value) (s : σ) :
    Except String Value × σ :=
  match params.items? with
  | none => (.error (py.str (.notUnpackable methodName params)), s)
  | some args => handler args s

def respond (v : Value) : Response :=
  match v.dumpsError with
  | none => .result v
  | some text => .fault (internalError text)

/-- `dispatch`, of a request that has been read. -/
def dispatch (methodName params : Value) (s : σ) : Response × σ :=
  match methods.lookup methodName with
  | none => (.fault (methodNotFound py methodName), s)
  | some handler =>
    match callHandler py handler methodName params s with
    | (.error text, s) => (.fault (internalError text), s)
    | (.ok result, s) => (respond result.acknowledge, s)

/-! ## Batches -/

/-- What is taken from an entry before anything is guarded: the name of its method and the
parameters. -/
def readCall : Value → Except PyError (Value × Value)
  | .struct fields =>
    let methodName := (fields.lookup "methodName").getD (.str "")
    let params := (fields.lookup "params").getD (.array [])
    if methodName.hashable then .ok (methodName, params) else .error (.unhashable methodName)
  | call => .error (.noAttributeGet call)

/-- One round of the loop. An error leaves the method. -/
def multicallEntry (call : Value) (s : σ) : Except String Value × σ :=
  match readCall call with
  | .error err => (.error (py.str err), s)
  | .ok (methodName, params) =>
    match methods.lookup methodName with
    | none => (.ok (methodNotFound py methodName).value, s)
    | some handler =>
      match callHandler py handler methodName params s with
      | (.error text, s) => (.ok (internalError text).value, s)
      | (.ok result, s) => (.ok (.array [result.acknowledge]), s)

def multicallEntries : List Value → σ → Except String (List Value) × σ
  | [], s => (.ok [], s)
  | call :: calls, s =>
    match multicallEntry py methods call s with
    | (.error text, s) => (.error text, s)
    | (.ok answer, s) =>
      match multicallEntries calls s with
      | (.error text, s) => (.error text, s)
      | (.ok results, s) => (.ok (answer :: results), s)

def systemMulticall : Handler σ
  | [calls], s =>
    match calls.items? with
    | none => (.error (py.str (.notIterable calls)), s)
    | some calls =>
      match multicallEntries py methods calls s with
      | (.error text, s) => (.error text, s)
      | (.ok results, s) => (.ok (.array results), s)
  | args, s => (.error (py.str (.argumentCount args.length)), s)

end

/-! ## A batch in a batch

`_system_multicall` is one of the methods that it calls. How deep a value is bounds how often. -/

namespace Value

mutual

def depth : Value → Nat
  | array vs => depthItems vs + 1
  | struct fields => depthFields fields + 1
  | _ => 0

def depthItems : List Value → Nat
  | [] => 0
  | v :: vs => max v.depth (depthItems vs)

def depthFields : List (String × Value) → Nat
  | [] => 0
  | (_, v) :: fields => max v.depth (depthFields fields)

end

theorem depth_le_depthItems {v : Value} {vs : List Value} (h : v ∈ vs) : v.depth ≤ depthItems vs := by
  induction h with
  | head => exact le_max_left _ _
  | tail _ _ ih => exact le_trans ih (le_max_right _ _)

theorem depthItems_le {vs : List Value} {n : Nat} (h : ∀ v ∈ vs, v.depth ≤ n) :
    depthItems vs ≤ n := by
  induction vs with
  | nil => exact Nat.zero_le n
  | cons v vs ih =>
    exact max_le (h v List.mem_cons_self) (ih fun w hw => h w (List.mem_cons_of_mem v hw))

theorem depth_le_depthFields {name : String} {v : Value} {fields : List (String × Value)}
    (h : fields.lookup name = some v) : v.depth ≤ depthFields fields := by
  induction fields with
  | nil => cases h
  | cons field fields ih =>
    rw [List.lookup_cons] at h
    cases hname : name == field.1 with
    | true =>
      rw [hname] at h
      cases h
      exact le_max_left _ _
    | false =>
      rw [hname] at h
      exact le_trans (ih h) (le_max_right _ _)

theorem depthItems_items {v : Value} {vs : List Value} (h : v.items? = some vs) :
    depthItems vs ≤ v.depth := by
  cases v with
  | array ws =>
    cases h
    exact Nat.le_succ _
  | str s =>
    cases h
    refine depthItems_le fun w hw => ?_
    obtain ⟨c, -, rfl⟩ := List.mem_map.mp hw
    exact le_rfl
  | base64 bytes =>
    cases h
    refine depthItems_le fun w hw => ?_
    obtain ⟨b, -, rfl⟩ := List.mem_map.mp hw
    exact le_rfl
  | struct fields =>
    cases h
    refine depthItems_le fun w hw => ?_
    obtain ⟨field, -, rfl⟩ := List.mem_map.mp hw
    exact Nat.zero_le _
  | _ => cases h

end Value

/-- The methods give the same for arguments less deep than `n`. -/
def AgreeBelow (n : Nat) (methods methods' : Methods σ) : Prop :=
  ∀ name, (methods name = none ∧ methods' name = none) ∨
    ∃ handler handler', methods name = some handler ∧ methods' name = some handler' ∧
      ∀ args s, Value.depthItems args < n → handler args s = handler' args s

section

variable {py : Python} {methods methods' : Methods σ} {n : Nat} {call methodName params : Value}

/-- The arguments of a call are less deep than its entry. -/
theorem depthItems_lt_of_readCall (h : readCall call = .ok (methodName, params))
    {args : List Value} (hargs : params.items? = some args) :
    Value.depthItems args < call.depth := by
  unfold readCall at h
  split at h
  next fields =>
    simp only at h
    split at h
    · obtain ⟨-, rfl⟩ := Prod.mk.inj (Except.ok.inj h)
      cases hparams : fields.lookup "params" with
      | some params =>
        rw [hparams, Option.getD_some] at hargs
        exact Nat.lt_succ_of_le
          ((Value.depthItems_items hargs).trans (Value.depth_le_depthFields hparams))
      | none =>
        rw [hparams] at hargs
        cases hargs
        exact Nat.succ_pos _
    · cases h
  · cases h

theorem AgreeBelow.mono {m : Nat} (h : AgreeBelow n methods methods') (hle : m ≤ n) :
    AgreeBelow m methods methods' := by
  intro name
  rcases h name with hnone | ⟨handler, handler', hm, hm', hsame⟩
  · exact .inl hnone
  · exact .inr ⟨handler, handler', hm, hm', fun args s hargs => hsame args s (by omega)⟩

theorem AgreeBelow.entry (h : AgreeBelow call.depth methods methods') (s : σ) :
    multicallEntry py methods call s = multicallEntry py methods' call s := by
  unfold multicallEntry
  cases hread : readCall call with
  | error err => rfl
  | ok nameParams =>
    obtain ⟨methodName, params⟩ := nameParams
    have hlookup : (methods.lookup methodName = none ∧ methods'.lookup methodName = none) ∨
        ∃ handler handler', methods.lookup methodName = some handler ∧
          methods'.lookup methodName = some handler' ∧
          ∀ args s, Value.depthItems args < call.depth → handler args s = handler' args s := by
      cases methodName with
      | str name => exact h name
      | _ => exact .inl ⟨rfl, rfl⟩
    rcases hlookup with ⟨hm, hm'⟩ | ⟨handler, handler', hm, hm', hsame⟩
    · simp only [hm, hm']
    · simp only [hm, hm']
      have hcall : callHandler py handler methodName params s =
          callHandler py handler' methodName params s := by
        unfold callHandler
        cases hitems : params.items? with
        | none => rfl
        | some args => exact hsame args s (depthItems_lt_of_readCall hread hitems)
      rw [hcall]

theorem AgreeBelow.entries {calls : List Value}
    (h : AgreeBelow (Value.depthItems calls) methods methods') (s : σ) :
    multicallEntries py methods calls s = multicallEntries py methods' calls s := by
  induction calls generalizing s with
  | nil => rfl
  | cons call calls ih =>
    have hcall : multicallEntry py methods call s = multicallEntry py methods' call s :=
      (h.mono (le_max_left call.depth _)).entry s
    have hcalls := ih (h.mono (le_max_right _ _))
    simp only [multicallEntries, hcall, hcalls]

theorem AgreeBelow.systemMulticall {args : List Value}
    (h : AgreeBelow (Value.depthItems args) methods methods') (s : σ) :
    systemMulticall py methods args s = systemMulticall py methods' args s := by
  match args with
  | [] => rfl
  | _ :: _ :: _ => rfl
  | [calls] =>
    simp only [Dispatcher.systemMulticall]
    cases hitems : calls.items? with
    | none => rfl
    | some entries =>
      have hle : Value.depthItems entries ≤ Value.depthItems [calls] :=
        (Value.depthItems_items hitems).trans (Value.depth_le_depthItems List.mem_cons_self)
      have hentries : multicallEntries py methods entries s = multicallEntries py methods' entries s :=
        (h.mono hle).entries s
      simp only [hentries]

end

/-- The methods that are registered, and `system.multicall`. -/
def withMulticall (registered : Methods σ) (multicall : Handler σ) : Methods σ := fun name =>
  if name = "system.multicall" then some multicall else registered name

/-- `_system_multicall`, for arguments less deep than the number. -/
def multicallBelow (py : Python) (registered : Methods σ) : Nat → Handler σ
  | 0 => fun _ s => (.error "", s)
  | n + 1 => systemMulticall py (withMulticall registered (multicallBelow py registered n))

/-- `register_introspection_functions`, as far as it registers this method. -/
def registerIntrospectionFunctions (py : Python) (registered : Methods σ) : Methods σ :=
  withMulticall registered fun args =>
    multicallBelow py registered (Value.depthItems args + 1) args

section

variable {py : Python} {registered : Methods σ}

theorem agreeBelow_withMulticall {n : Nat} {multicall multicall' : Handler σ}
    (h : ∀ args s, Value.depthItems args < n → multicall args s = multicall' args s) :
    AgreeBelow n (withMulticall registered multicall) (withMulticall registered multicall') := by
  intro name
  unfold withMulticall
  split
  · exact .inr ⟨_, _, rfl, rfl, h⟩
  · cases hname : registered name with
    | none => exact .inl ⟨rfl, rfl⟩
    | some handler => exact .inr ⟨handler, handler, rfl, rfl, fun _ _ _ => rfl⟩

theorem multicallBelow_eq {m n : Nat} {args : List Value} (hm : Value.depthItems args < m)
    (hn : Value.depthItems args < n) (s : σ) :
    multicallBelow py registered m args s = multicallBelow py registered n args s := by
  induction m generalizing n args s with
  | zero => omega
  | succ m ih =>
    cases n with
    | zero => omega
    | succ n =>
      refine AgreeBelow.systemMulticall (agreeBelow_withMulticall fun args' s' hargs' => ?_) s
      exact ih (by omega) (by omega) s'

/-- The registered method calls the registered methods. -/
theorem registered_multicall :
    (registerIntrospectionFunctions py registered) "system.multicall" =
      some (systemMulticall py (registerIntrospectionFunctions py registered)) := by
  refine congrArg some (funext fun args => funext fun s => ?_)
  refine AgreeBelow.systemMulticall (agreeBelow_withMulticall fun args' s' hargs' => ?_) s
  exact multicallBelow_eq (by omega) (by omega) s'

end

/-! ## A batch and its entries -/

/-- The entry of a response in the answer to a batch. -/
def Response.wrapped : Response → Value
  | .result v => .array [v]
  | .fault f => f.value

def WellFormed : Value → Prop
  | .struct fields => ∀ methodName ∈ fields.lookup "methodName", methodName.hashable = true
  | _ => False

section

variable (py : Python) (methods : Methods σ)

/-- One answer for each entry, in order: what the entry gets as a request of its own, and some fault
for an entry that is no request. The requests are dispatched one after the other, each once. -/
inductive Answers : List Value → σ → List Value → σ → Prop
  | nil (s : σ) : Answers [] s [] s
  | request {call methodName params : Value} {calls answers : List Value} {response : Response}
      {s t u : σ} (hread : readCall call = .ok (methodName, params))
      (hdispatch : dispatch py methods methodName params s = (response, t))
      (hrest : Answers calls t answers u) :
      Answers (call :: calls) s (response.wrapped :: answers) u
  | malformed {call : Value} {calls answers : List Value} {err : PyError} {s t : σ}
      (hread : readCall call = .error err) (fault : Fault) (hrest : Answers calls s answers t) :
      Answers (call :: calls) s (fault.value :: answers) t

/-- What the handler of a request returns. -/
def handlerResult (methodName params : Value) (s : σ) : Option Value :=
  (methods.lookup methodName).bind fun handler =>
    (callHandler py handler methodName params s).1.toOption

/-- Every result on the way through the entries, as requests of their own, can be written. -/
def ResultsWritable : List Value → σ → Prop
  | [], _ => True
  | call :: calls, s =>
    match readCall call with
    | .error _ => ResultsWritable calls s
    | .ok (methodName, params) =>
      (∀ v ∈ handlerResult py methods methodName params s, v.dumpsError = none) ∧
        ResultsWritable calls (dispatch py methods methodName params s).2

end

section

variable {py : Python} {methods : Methods σ} {call methodName params : Value} {s t : σ}

theorem readCall_ok_iff : (∃ nameParams, readCall call = .ok nameParams) ↔ WellFormed call := by
  cases call with
  | struct fields =>
    simp only [readCall, WellFormed]
    cases hname : fields.lookup "methodName" with
    | none => simp [Value.hashable]
    | some methodName => cases hhash : methodName.hashable <;> simp [hhash]
  | _ => simp [readCall, WellFormed]

theorem Value.dumpsError_acknowledge (v : Value) : v.acknowledge.dumpsError = v.dumpsError := by
  cases v <;> rfl

theorem Fault.dumpsError_value (f : Fault) (h : -2 ^ 31 ≤ f.faultCode ∧ f.faultCode ≤ 2 ^ 31 - 1) :
    f.value.dumpsError = none := by
  have hcode : ¬(f.faultCode < -2 ^ 31 ∨ 2 ^ 31 - 1 < f.faultCode) := by omega
  simp only [Fault.value, Value.dumpsError, Value.dumpsErrorFields]
  rw [if_neg hcode]
  rfl

theorem Value.dumpsErrorItems_cons {v : Value} {vs : List Value} :
    Value.dumpsErrorItems (v :: vs) = none ↔
      v.dumpsError = none ∧ Value.dumpsErrorItems vs = none := by
  rw [Value.dumpsErrorItems]
  cases v.dumpsError <;> simp

theorem Value.dumpsError_wrapped (v : Value) : (Value.array [v]).dumpsError = v.dumpsError := by
  simp [Value.dumpsError, Value.dumpsErrorItems]

/-- A round of the loop with a request does what `dispatch` does with it, as long as its result can
be written; otherwise it keeps what cannot be. -/
theorem multicallEntry_of_readCall (py : Python) (methods : Methods σ)
    (hread : readCall call = .ok (methodName, params)) (s : σ) :
    ∃ answer, multicallEntry py methods call s =
        (.ok answer, (dispatch py methods methodName params s).2) ∧
      (answer.dumpsError = none ↔
        ∀ v ∈ handlerResult py methods methodName params s, v.dumpsError = none) ∧
      (answer.dumpsError = none →
        answer = (dispatch py methods methodName params s).1.wrapped) := by
  simp only [multicallEntry, hread, dispatch, handlerResult]
  cases methods.lookup methodName with
  | none =>
    refine ⟨_, rfl, ?_, fun _ => rfl⟩
    simp [Fault.dumpsError_value, methodNotFound]
  | some handler =>
    simp only [Option.bind_some]
    obtain ⟨outcome, t⟩ := callHandler py handler methodName params s
    cases outcome with
    | error text =>
      refine ⟨_, rfl, ?_, fun _ => rfl⟩
      simp [Fault.dumpsError_value, internalError, Except.toOption]
    | ok result =>
      refine ⟨_, rfl, ?_, fun h => ?_⟩
      · simp [Value.dumpsError_wrapped, Value.dumpsError_acknowledge, Except.toOption]
      · rw [Value.dumpsError_wrapped] at h
        simp [respond, h, Response.wrapped]

theorem multicallEntries_cons_ok {calls answers : List Value} {answer : Value}
    (hentry : multicallEntry py methods call s = (.ok answer, t)) {u : σ} :
    multicallEntries py methods (call :: calls) s = (.ok answers, u) ↔
      ∃ rest, answers = answer :: rest ∧
        multicallEntries py methods calls t = (.ok rest, u) := by
  simp only [multicallEntries, hentry]
  obtain ⟨outcome, v⟩ := multicallEntries py methods calls t
  cases outcome with
  | error text => simp
  | ok rest =>
    simp only [Prod.mk.injEq, Except.ok.injEq]
    constructor
    · rintro ⟨rfl, rfl⟩
      exact ⟨rest, rfl, rfl, rfl⟩
    · rintro ⟨_, rfl, rfl, rfl⟩
      exact ⟨rfl, rfl⟩

end

/-- The batch as a whole: it is answered in full exactly when every entry is a request and every
result can be written. -/
theorem multicallEntries_iff (py : Python) (methods : Methods σ) (calls : List Value) (s : σ) :
    (∃ answers t, Answers py methods calls s answers t ∧
      multicallEntries py methods calls s = (.ok answers, t) ∧
      Value.dumpsErrorItems answers = none) ↔
      (∀ call ∈ calls, WellFormed call) ∧ ResultsWritable py methods calls s := by
  induction calls generalizing s with
  | nil =>
    simp only [List.not_mem_nil, false_implies, implies_true, ResultsWritable, and_self, iff_true]
    exact ⟨[], s, .nil s, rfl, rfl⟩
  | cons call calls ih =>
    cases hread : readCall call with
    | error err =>
      have hmalformed : ¬WellFormed call := by
        rw [← readCall_ok_iff, hread]
        rintro ⟨_, h⟩
        cases h
      constructor
      · rintro ⟨answers, t, -, hentries, -⟩
        simp [multicallEntries, multicallEntry, hread] at hentries
      · rintro ⟨hall, -⟩
        exact absurd (hall call List.mem_cons_self) hmalformed
    | ok nameParams =>
      obtain ⟨methodName, params⟩ := nameParams
      have hwell : WellFormed call := readCall_ok_iff.mp ⟨_, hread⟩
      obtain ⟨answer, hentry, hwrite, hanswer⟩ := multicallEntry_of_readCall py methods hread s
      simp only [List.forall_mem_cons, ResultsWritable, hread, ← hwrite, hwell, true_and]
      rw [and_left_comm, ← ih]
      constructor
      · rintro ⟨answers, t, hanswers, hentries, hdumps⟩
        obtain ⟨rest, rfl, hrest⟩ := (multicallEntries_cons_ok hentry).mp hentries
        obtain ⟨hfirst, hitems⟩ := Value.dumpsErrorItems_cons.mp hdumps
        refine ⟨hfirst, rest, t, ?_, hrest, hitems⟩
        generalize hcons : answer :: rest = answers at hanswers
        cases hanswers with
        | request hread' hdispatch hrest' =>
          cases hcons
          cases hread.symm.trans hread'
          rw [hdispatch]
          exact hrest'
        | malformed hread' => cases hread.symm.trans hread'
      · rintro ⟨hfirst, rest, t, hanswers, hrest, hdumps⟩
        refine ⟨answer :: rest, t, ?_, (multicallEntries_cons_ok hentry).mpr ⟨rest, rfl, hrest⟩, ?_⟩
        · rw [hanswer hfirst]
          exact .request hread rfl hanswers
        · exact Value.dumpsErrorItems_cons.mpr ⟨hfirst, hdumps⟩

/-- A request with a batch. -/
theorem dispatch_multicall_eq_result {py : Python} {registered : Methods σ} {entries : List Value}
    {s t : σ} {answers : List Value} :
    dispatch py (registerIntrospectionFunctions py registered) (.str "system.multicall")
        (.array [.array entries]) s = (.result (.array answers), t) ↔
      multicallEntries py (registerIntrospectionFunctions py registered) entries s =
          (.ok answers, t) ∧
        Value.dumpsErrorItems answers = none := by
  simp only [dispatch, Methods.lookup, registered_multicall, callHandler, Value.items?,
    systemMulticall]
  obtain ⟨outcome, u⟩ :=
    multicallEntries py (registerIntrospectionFunctions py registered) entries s
  cases outcome with
  | error text => simp
  | ok results =>
    simp only [Value.acknowledge, respond, Value.dumpsError, Prod.mk.injEq, Except.ok.injEq]
    cases hdumps : Value.dumpsErrorItems results with
    | some text =>
      constructor
      · rintro ⟨h, -⟩
        cases h
      · rintro ⟨⟨rfl, -⟩, h⟩
        cases hdumps.symm.trans h
    | none =>
      constructor
      · rintro ⟨h, rfl⟩
        cases h
        exact ⟨⟨rfl, rfl⟩, hdumps⟩
      · rintro ⟨⟨rfl, rfl⟩, -⟩
        exact ⟨rfl, rfl⟩

/-- A batch is answered like its entries one by one, and leaves the program as they do, exactly when
every entry is a request and every result on the way can be written. -/
theorem multicall_answers_iff (py : Python) (registered : Methods σ) (entries : List Value)
    (s : σ) :
    (∃ answers t, Answers py (registerIntrospectionFunctions py registered) entries s answers t ∧
      dispatch py (registerIntrospectionFunctions py registered) (.str "system.multicall")
        (.array [.array entries]) s = (.result (.array answers), t)) ↔
      (∀ call ∈ entries, WellFormed call) ∧
        ResultsWritable py (registerIntrospectionFunctions py registered) entries s := by
  simp only [dispatch_multicall_eq_result]
  exact multicallEntries_iff py (registerIntrospectionFunctions py registered) entries s

/-! ### An entry that is no struct -/

/-- Keeps its arguments. -/
def eventMethods : Methods (List (List Value)) := fun name =>
  if name = "event" then some fun args s => (.ok .nil, s ++ [args]) else none

def eventCall (parameter : String) : Value :=
  .struct [("methodName", .str "event"), ("params", .array [.str parameter])]

def pythonTexts : Python where
  format := fun
    | .str s => s
    | _ => ""
  str := fun
    | .noAttributeGet (.int _) => "'int' object has no attribute 'get'"
    | _ => ""

/-- The first event is handled, the second is not, and one fault answers for all three entries. -/
theorem not_multicall_answers :
    dispatch pythonTexts (registerIntrospectionFunctions pythonTexts eventMethods)
        (.str "system.multicall")
        (.array [.array [eventCall "STATE", .int 5, eventCall "LEVEL"]]) [] =
      (.fault ⟨-32603, "'int' object has no attribute 'get'"⟩, [[.str "STATE"]]) ∧
    ¬∃ answers t,
      Answers pythonTexts (registerIntrospectionFunctions pythonTexts eventMethods)
        [eventCall "STATE", .int 5, eventCall "LEVEL"] [] answers t ∧
      dispatch pythonTexts (registerIntrospectionFunctions pythonTexts eventMethods)
        (.str "system.multicall")
        (.array [.array [eventCall "STATE", .int 5, eventCall "LEVEL"]]) [] =
        (.result (.array answers), t) := by
  have hfault : dispatch pythonTexts (registerIntrospectionFunctions pythonTexts eventMethods)
        (.str "system.multicall")
        (.array [.array [eventCall "STATE", .int 5, eventCall "LEVEL"]]) [] =
      (.fault ⟨-32603, "'int' object has no attribute 'get'"⟩, [[.str "STATE"]]) := rfl
  refine ⟨hfault, ?_⟩
  rintro ⟨answers, t, -, h⟩
  cases hfault.symm.trans h

end AioHomematic.Central.Dispatcher
