import AioHomematic.Lib.Memo
import AioHomematic.Lib.PyLiteral.Reading

/-!
# The conversion of values and its cache

`convert_value` remembers what `_convert_value_noncached` gave, under keys that Python compares with
`==`: `True`, `1` and `1.0` are one key. `convertValue_eq_iff` says when a call, after any calls
before it, returns what the conversion returns for its own arguments: the entry it finds, if any,
was made for a value that is `Alike` for the target type.

A NaN names its object, since a dictionary finds a key that is the same object without comparing.
Objects of other types are equal only to themselves; what the conversions make of them is a
parameter, as is what `float` reads.
-/

namespace AioHomematic.Model.ConvertValue

open Support Lib

inductive ParameterType where
  | action
  | bool
  | dummy
  | enum
  | float
  | integer
  | string
  | empty
deriving DecidableEq

/-- What a conversion raises. -/
inductive Error where
  | typeError
  | valueError
  | overflowError
deriving DecidableEq

/-- Finite floats, and the float of an integer, which is exact where there is an exact one. -/
class Floats (F : Type) extends FiniteFloat F where
  /-- `-0.0`. -/
  negZero : F → Bool
  eq_of_value : ∀ x y, value x = value y → negZero x = negZero y → x = y
  ofInt : Int → Option F
  ofInt_value : ∀ (n : Int) (x : F), value x = n →
    ∃ y, ofInt n = some y ∧ value y = n ∧ negZero y = false

inductive FloatValue (F : Type) where
  | finite (x : F)
  | inf
  | negInf
  | nan (object : Nat)
deriving DecidableEq

inductive Value (F O : Type) where
  | none
  | bool (b : Bool)
  | int (n : Int)
  | float (x : FloatValue F)
  | str (s : String)
  | tuple (xs : List (Value F O))
  | object (o : O)

/-- What Python reads in texts, and its conversions of objects of other types. -/
structure Python (F O : Type) where
  floatOfStr : String → Option (FloatValue F)
  reprStr : String → List Char
  hashable : O → Bool
  truth : O → Bool
  float : O → Except Error (FloatValue F)
  index : O → Option Int
  str : O → String
  repr : O → List Char

variable {F O : Type}

namespace Value

/-! ## Keys -/

/-- A number, as far as it is compared. -/
inductive Magnitude where
  | negInf
  | finite (x : Rat)
  | inf
deriving DecidableEq

/-- A Boolean is an integer. -/
def int? : Value F O → Option Int
  | bool b => some (if b then 1 else 0)
  | int n => some n
  | _ => Option.none

def magnitude? [Floats F] : Value F O → Option Magnitude
  | bool b => some (.finite (if b then 1 else 0 : Int))
  | int n => some (.finite n)
  | float (.finite x) => some (.finite (FiniteFloat.value x))
  | float .inf => some .inf
  | float .negInf => some .negInf
  | _ => Option.none

mutual

/-- The same object, or equal by `==`. -/
def keyEq [Floats F] [DecidableEq O] : Value F O → Value F O → Bool
  | none, none => true
  | str s, str t => s = t
  | float (.nan i), float (.nan j) => i = j
  | tuple xs, tuple ys => keyEqItems xs ys
  | object o, object o' => o = o'
  | v, w => v.magnitude?.isSome && v.magnitude? = w.magnitude?

def keyEqItems [Floats F] [DecidableEq O] : List (Value F O) → List (Value F O) → Bool
  | [], [] => true
  | x :: xs, y :: ys => keyEq x y && keyEqItems xs ys
  | _, _ => false

end

mutual

def hashable (py : Python F O) : Value F O → Bool
  | tuple xs => hashableItems py xs
  | object o => py.hashable o
  | _ => true

def hashableItems (py : Python F O) : List (Value F O) → Bool
  | [] => true
  | x :: xs => hashable py x && hashableItems py xs

end

/-! ## Texts -/

mutual

def repr [Floats F] (py : Python F O) : Value F O → List Char
  | none => "None".toList
  | bool true => "True".toList
  | bool false => "False".toList
  | int n => decimal n
  | float (.finite x) => FiniteFloat.text x
  | float .inf => "inf".toList
  | float .negInf => "-inf".toList
  | float (.nan _) => "nan".toList
  | str s => py.reprStr s
  | tuple [] => ['(', ')']
  | tuple [x] => '(' :: (repr py x ++ [',', ')'])
  | tuple (x :: y :: ys) => '(' :: (repr py x ++ reprItems py (y :: ys))
  | object o => py.repr o

def reprItems [Floats F] (py : Python F O) : List (Value F O) → List Char
  | [] => [')']
  | x :: xs => ',' :: ' ' :: (repr py x ++ reprItems py xs)

end

mutual

/-- An integer in the value has more digits than Python writes. -/
def tooLong : Value F O → Bool
  | int n => 10 ^ 4300 ≤ n.natAbs
  | tuple xs => tooLongItems xs
  | _ => false

def tooLongItems : List (Value F O) → Bool
  | [] => false
  | x :: xs => tooLong x || tooLongItems xs

end

/-! ## Conversions -/

/-- `bool(value)`. -/
def truth [Floats F] (py : Python F O) : Value F O → Bool
  | none => false
  | bool b => b
  | int n => n ≠ 0
  | float (.finite x) => FiniteFloat.value x ≠ 0
  | float _ => true
  | str s => s ≠ ""
  | tuple xs => !xs.isEmpty
  | object o => py.truth o

/-- `float(value)`. -/
def toFloat [Floats F] (py : Python F O) : Value F O → Except Error (FloatValue F)
  | float x => .ok x
  | str s => (py.floatOfStr s).elim (.error .valueError) .ok
  | object o => py.float o
  | v => v.int?.elim (.error .typeError) fun n =>
      (Floats.ofInt n).elim (.error .overflowError) fun x => .ok (.finite x)

/-- `str(value)`. -/
def toStr [Floats F] (py : Python F O) : Value F O → Except Error String
  | str s => .ok s
  | object o => .ok (py.str o)
  | v => if v.tooLong then .error .valueError else .ok (String.ofList (v.repr py))

/-- What a subscript takes for an index. -/
def index? (py : Python F O) : Value F O → Option Int
  | object o => py.index o
  | v => v.int?

def isNegZero [Floats F] : Value F O → Bool
  | float (.finite x) => Floats.negZero x
  | _ => false

def isFloat : Value F O → Bool
  | float _ => true
  | _ => false

end Value

/-- `int(x)` of a float. -/
def FloatValue.toInt [Floats F] : FloatValue F → Except Error Int
  | finite x => .ok ((FiniteFloat.value x).num.tdiv (FiniteFloat.value x).den)
  | nan _ => .error .valueError
  | _ => .error .overflowError

def toBool (value : String) : Bool := value.toLower ∈ ["y", "yes", "t", "true", "on", "1"]

def binarySensorTrueValueDictForValueList : List (List String × String) :=
  [(["CLOSED", "OPEN"], "OPEN"), (["DRY", "RAIN"], "RAIN"), (["STABLE", "NOT_STABLE"], "NOT_STABLE")]

/-- `valueList[i]`; nothing where it raises `IndexError`. -/
def subscript (valueList : List String) (i : Int) : Option String :=
  if 0 ≤ i then valueList[i.toNat]?
  else if -valueList.length ≤ i then valueList[(valueList.length + i).toNat]?
  else none

def getBinarySensorValue (py : Python F O) (value : Value F O) (valueList : List String) :
    Except Error Bool :=
  match value.index? py with
  | none => .error .typeError
  | some i =>
    match subscript valueList i, binarySensorTrueValueDictForValueList.lookup valueList with
    | some strValue, some trueValue => .ok (strValue = trueValue)
    | _, _ => .ok false

structure Args (F O : Type) where
  value : Value F O
  targetType : ParameterType
  valueList : Option (List String)

namespace Args

/-- `if value_list`. -/
def hasValueList (a : Args F O) : Bool := a.valueList.any (!·.isEmpty)

def same [Floats F] [DecidableEq O] (a b : Args F O) : Bool :=
  a.value.keyEq b.value && a.targetType = b.targetType && a.valueList = b.valueList

end Args

def convertValueNoncached [Floats F] (py : Python F O) (a : Args F O) : Except Error (Value F O) :=
  match a.value with
  | .none => .ok .none
  | value =>
    match a.targetType with
    | .bool =>
      if a.hasValueList then (getBinarySensorValue py value (a.valueList.getD [])).map .bool
      else
        match value with
        | .str s => .ok (.bool (toBool s))
        | _ => .ok (.bool (value.truth py))
    | .float => (value.toFloat py).map .float
    | .integer => ((value.toFloat py).bind FloatValue.toInt).map .int
    | .string => (value.toStr py).map .str
    | _ => .ok value

abbrev Cache (F O : Type) := LruCache (Args F O) (Value F O)

/-- Hashing the key raises `TypeError` for a value that is not hashable. -/
def convertValueCached [Floats F] [DecidableEq O] (py : Python F O) (a : Args F O)
    (cache : Cache F O) : Except Error (Value F O) × Cache F O :=
  if a.value.hashable py then cache.call Args.same 2048 (convertValueNoncached py) a
  else (.error .typeError, cache)

inductive ValueList where
  | none
  | tuple (values : List String)
  | list (values : List String)

/-- `tuple(value_list)`, if it is a list. -/
def ValueList.norm : ValueList → Option (List String)
  | none => Option.none
  | tuple values | list values => some values

structure Call (F O : Type) where
  value : Value F O
  targetType : ParameterType
  valueList : ValueList

def Call.args (c : Call F O) : Args F O :=
  { value := c.value, targetType := c.targetType, valueList := c.valueList.norm }

def convertValue [Floats F] [DecidableEq O] (py : Python F O) (c : Call F O) (cache : Cache F O) :
    Except Error (Value F O) × Cache F O :=
  match convertValueCached py c.args cache with
  | (.error .typeError, cache) => (convertValueNoncached py c.args, cache)
  | r => r

/-- The cache after calls, from an empty one. -/
def after [Floats F] [DecidableEq O] (py : Python F O) (history : List (Call F O)) : Cache F O :=
  history.foldl (fun cache c => (convertValue py c cache).2) []

/-- The entry that a call finds in the cache. -/
def entry? [Floats F] [DecidableEq O] (py : Python F O) (cache : Cache F O) (a : Args F O) :
    Option (Args F O × Value F O) :=
  if a.value.hashable py then cache.find? Args.same a else none

/-- For the target type the stored value and this one, equal to it, are converted alike. -/
def Alike [Floats F] (a : Args F O) (stored : Value F O) : Prop :=
  match a.targetType with
  | .bool => a.hasValueList = true → a.value.isFloat = false
  | .float => a.value.isNegZero = stored.isNegZero
  | .integer => True
  | _ => a.value = stored

/-! ## Numbers -/

section Numbers

variable [Floats F] {py : Python F O} {v w : Value F O} {m : Value.Magnitude}

/-- A number is an integer or a float. -/
theorem int_or_float (h : v.magnitude? = some m) :
    (∃ n : Int, v.int? = some n ∧ m = .finite n) ∨ ∃ x, v = .float x := by
  cases v with
  | bool b => exact .inl ⟨_, rfl, (Option.some.inj h).symm⟩
  | int n => exact .inl ⟨_, rfl, (Option.some.inj h).symm⟩
  | float x => exact .inr ⟨x, rfl⟩
  | none | str | tuple | object => cases h

theorem toFloat_of_int? {n : Int} (h : v.int? = some n) :
    v.toFloat py = (Floats.ofInt n).elim (.error .overflowError) fun x => .ok (.finite x) := by
  cases v with
  | bool b => cases h; rfl
  | int n => cases h; rfl
  | none | float | str | tuple | object => cases h

theorem isNegZero_of_int? {n : Int} (h : v.int? = some n) : v.isNegZero = false := by
  cases v with
  | bool | int => rfl
  | none | float | str | tuple | object => cases h

variable (py) in
/-- The float of an integer and a float equal to it. -/
theorem toFloat_int_float {n : Int} {x : F} (hv : v.int? = some n) (hx : FiniteFloat.value x = n) :
    ∃ y, v.toFloat py = .ok (.finite y) ∧ FiniteFloat.value y = n ∧ Floats.negZero y = v.isNegZero := by
  obtain ⟨y, hy, hval, hneg⟩ := Floats.ofInt_value n x hx
  refine ⟨y, ?_, hval, hneg.trans (isNegZero_of_int? hv).symm⟩
  rw [toFloat_of_int? hv, hy]
  rfl

variable (py) in
/-- Numbers of one magnitude become one float, or two that differ at most in the sign of a zero. -/
theorem toFloat_cases (hv : v.magnitude? = some m) (hw : w.magnitude? = some m) :
    v.toFloat py = w.toFloat py ∧ v.isNegZero = w.isNegZero ∨
      ∃ x y, v.toFloat py = .ok (.finite x) ∧ w.toFloat py = .ok (.finite y) ∧
        FiniteFloat.value x = FiniteFloat.value y ∧ Floats.negZero x = v.isNegZero ∧
        Floats.negZero y = w.isNegZero := by
  rcases int_or_float hv with ⟨n, hn, rfl⟩ | ⟨x, rfl⟩
  · rcases int_or_float hw with ⟨n', hn', hm⟩ | ⟨y, rfl⟩
    · obtain rfl : n = n' := by simpa using hm
      refine .inl ⟨?_, ?_⟩
      · rw [toFloat_of_int? hn, toFloat_of_int? hn']
      · rw [isNegZero_of_int? hn, isNegZero_of_int? hn']
    · cases y with
      | finite y =>
        have hval : FiniteFloat.value y = n := by simpa [Value.magnitude?] using hw
        obtain ⟨x, hx, hxval, hneg⟩ := toFloat_int_float py hn hval
        exact .inr ⟨x, y, hx, rfl, hxval.trans hval.symm, hneg, rfl⟩
      | inf | negInf | nan => cases hw
  · rcases int_or_float hw with ⟨n, hn, rfl⟩ | ⟨y, rfl⟩
    · cases x with
      | finite x =>
        have hval : FiniteFloat.value x = n := by simpa [Value.magnitude?] using hv
        obtain ⟨y, hy, hyval, hneg⟩ := toFloat_int_float py hn hval
        exact .inr ⟨x, y, rfl, hy, hval.trans hyval.symm, rfl, hneg⟩
      | inf | negInf | nan => cases hv
    · cases x with
      | finite x =>
        cases y with
        | finite y =>
          have hval : FiniteFloat.value x = FiniteFloat.value y := by
            have := hv.trans hw.symm
            simpa [Value.magnitude?] using this
          exact .inr ⟨x, y, rfl, rfl, hval, rfl, rfl⟩
        | inf | negInf | nan => cases hv; cases hw
      | inf =>
        cases y with
        | inf => exact .inl ⟨rfl, rfl⟩
        | finite | negInf | nan => cases hv; cases hw
      | negInf =>
        cases y with
        | negInf => exact .inl ⟨rfl, rfl⟩
        | finite | inf | nan => cases hv; cases hw
      | nan => cases hv

/-- The number that a literal is. -/
def ofLiteral : PyValue F → Option (Value F O)
  | .bool b => some (.bool b)
  | .int n => some (.int n)
  | .float (.finite x) => some (.float (.finite x))
  | _ => none

variable (py) in
theorem ofLiteral_repr {q : Rat} (h : v.magnitude? = some (.finite q)) :
    (PyValue.readAtom (v.repr py)).bind ofLiteral = some v := by
  cases v with
  | bool b => cases b <;> rfl
  | int n => rw [Value.repr, PyValue.readAtom_int]; rfl
  | float x =>
    cases x with
    | finite x => rw [Value.repr, PyValue.readAtom_float]; rfl
    | inf | negInf | nan => cases h
  | none | str | tuple | object => cases h

/-- Numbers of one magnitude are written alike only if they are of one type. -/
theorem eq_of_repr (hv : v.magnitude? = some m) (hw : w.magnitude? = some m)
    (h : v.repr py = w.repr py) : v = w := by
  cases m with
  | finite q =>
    have := (ofLiteral_repr py hv).symm.trans (h ▸ ofLiteral_repr py hw)
    exact Option.some.inj this
  | inf | negInf =>
    rcases int_or_float hv with ⟨n, -, hm⟩ | ⟨x, rfl⟩
    · cases hm
    rcases int_or_float hw with ⟨n, -, hm⟩ | ⟨y, rfl⟩
    · cases hm
    cases x <;> cases hv
    cases y <;> cases hw
    rfl

theorem isWordChar_repr (h : v.magnitude? = some m) : ∀ c ∈ v.repr py, isWordChar c = true := by
  cases v with
  | bool b => cases b <;> simp only [Value.repr] <;> exact forall_mem_of_all (by decide)
  | int n => exact (PyValue.decimal_word n).2
  | float x =>
    cases x with
    | finite x => exact FiniteFloat.text_word x
    | inf | negInf | nan =>
      simp only [Value.repr]
      exact forall_mem_of_all (by decide)
  | none | str | tuple | object => cases h

theorem stops_reprItems (xs : List (Value F O)) (a : List Char) :
    PyValue.Stops (Value.reprItems py xs ++ a) := by
  cases xs <;> exact PyValue.stops_cons (by decide) _

end Numbers

/-! ## Equal keys -/

section Keys

variable [Floats F] [DecidableEq O] {py : Python F O} {v w : Value F O}

/-- Equal keys are one value, numbers of one magnitude, or tuples. -/
theorem keyEq_cases (h : v.keyEq w = true) :
    v = w ∨ (∃ m, v.magnitude? = some m ∧ w.magnitude? = some m) ∨
      ∃ xs ys, v = .tuple xs ∧ w = .tuple ys ∧ Value.keyEqItems xs ys = true := by
  have hnumber : ∀ {v w : Value F O}, (v.magnitude?.isSome && v.magnitude? = w.magnitude?) = true →
      ∃ m, v.magnitude? = some m ∧ w.magnitude? = some m := by
    intro v w h
    obtain ⟨hsome, heq⟩ := Bool.and_eq_true_iff.mp h
    obtain ⟨m, hm⟩ := Option.isSome_iff_exists.mp hsome
    exact ⟨m, hm, (of_decide_eq_true heq) ▸ hm⟩
  unfold Value.keyEq at h
  split at h
  · exact .inl rfl
  · exact .inl (congrArg _ (of_decide_eq_true h))
  · exact .inl (congrArg _ (congrArg _ (of_decide_eq_true h)))
  next xs ys => exact .inr (.inr ⟨xs, ys, rfl, rfl, h⟩)
  · exact .inl (congrArg _ (of_decide_eq_true h))
  · exact .inr (.inl (hnumber h))

/-- Two words before other text. -/
theorem append_cancel_word {s t a b : List Char} (hs : ∀ c ∈ s, isWordChar c = true)
    (ht : ∀ c ∈ t, isWordChar c = true) (ha : PyValue.Stops a) (hb : PyValue.Stops b)
    (h : s ++ a = t ++ b) : s = t := by
  rw [← (PyValue.span_word hs ha).1, h, (PyValue.span_word ht hb).1]

mutual

/-- Equal keys whose texts are the same are the same, whatever text follows. -/
theorem repr_cancel : ∀ (v w : Value F O) {a b : List Char}, v.keyEq w = true →
    PyValue.Stops a → PyValue.Stops b → v.repr py ++ a = w.repr py ++ b → v = w ∧ a = b
  | .tuple [], w, a, b, hkey, ha, hb, h => by
    rcases keyEq_cases hkey with rfl | ⟨m, hv, -⟩ | ⟨xs, ys, hxs, rfl, hitems⟩
    · exact ⟨rfl, List.append_cancel_left h⟩
    · cases hv
    · cases hxs
      cases ys with
      | nil => exact ⟨rfl, List.append_cancel_left h⟩
      | cons y ys => cases hitems
  | .tuple [x], w, a, b, hkey, ha, hb, h => by
    rcases keyEq_cases hkey with rfl | ⟨m, hv, -⟩ | ⟨xs, ys, hxs, rfl, hitems⟩
    · exact ⟨rfl, List.append_cancel_left h⟩
    · cases hv
    · cases hxs
      match ys, hitems with
      | [y], hitems =>
        have hx := (Bool.and_eq_true_iff.mp hitems).1
        simp only [Value.repr, List.cons_append, List.append_assoc, List.cons.injEq, true_and] at h
        obtain ⟨rfl, htail⟩ := repr_cancel x y hx (PyValue.stops_cons (by decide) _)
          (PyValue.stops_cons (by decide) _) h
        simp only [List.cons.injEq, true_and, List.nil_append] at htail
        exact ⟨rfl, htail⟩
      | y :: y' :: ys, hitems => simp [Value.keyEqItems] at hitems
  | .tuple (x :: x' :: xs), w, a, b, hkey, ha, hb, h => by
    rcases keyEq_cases hkey with rfl | ⟨m, hv, -⟩ | ⟨xs', ys, hxs, rfl, hitems⟩
    · exact ⟨rfl, List.append_cancel_left h⟩
    · cases hv
    · cases hxs
      match ys, hitems with
      | y :: y' :: ys, hitems =>
        obtain ⟨hx, hrest⟩ := Bool.and_eq_true_iff.mp hitems
        simp only [Value.repr, List.cons_append, List.append_assoc, List.cons.injEq, true_and] at h
        obtain ⟨rfl, htail⟩ := repr_cancel x y hx (stops_reprItems _ _) (stops_reprItems _ _) h
        obtain ⟨heq, hab⟩ := reprItems_cancel (x' :: xs) (y' :: ys) hrest htail
        exact ⟨by rw [heq], hab⟩
      | [y], hitems => simp [Value.keyEqItems] at hitems
  | .none, w, a, b, hkey, ha, hb, h | .bool _, w, a, b, hkey, ha, hb, h
  | .int _, w, a, b, hkey, ha, hb, h | .float _, w, a, b, hkey, ha, hb, h
  | .str _, w, a, b, hkey, ha, hb, h | .object _, w, a, b, hkey, ha, hb, h => by
    rcases keyEq_cases hkey with rfl | ⟨m, hv, hw⟩ | ⟨xs, ys, hxs, -⟩
    · exact ⟨rfl, List.append_cancel_left h⟩
    · have htext := append_cancel_word (isWordChar_repr hv) (isWordChar_repr hw) ha hb h
      exact ⟨eq_of_repr hv hw htext, List.append_cancel_left (htext ▸ h)⟩
    · cases hxs

theorem reprItems_cancel : ∀ (xs ys : List (Value F O)) {a b : List Char},
    Value.keyEqItems xs ys = true → Value.reprItems py xs ++ a = Value.reprItems py ys ++ b →
    xs = ys ∧ a = b
  | [], [], a, b, _, h => ⟨rfl, List.append_cancel_left h⟩
  | x :: xs, y :: ys, a, b, hitems, h => by
    obtain ⟨hx, hrest⟩ := Bool.and_eq_true_iff.mp hitems
    simp only [Value.reprItems, List.cons_append, List.append_assoc, List.cons.injEq, true_and] at h
    obtain ⟨rfl, htail⟩ := repr_cancel x y hx (stops_reprItems _ _) (stops_reprItems _ _) h
    obtain ⟨rfl, hab⟩ := reprItems_cancel xs ys hrest htail
    exact ⟨rfl, hab⟩

end

end Keys

/-! ## Conversions of equal keys -/

section Conversions

variable {py : Python F O} {v w r : Value F O} {t : ParameterType} {valueList : Option (List String)}

theorem getBinarySensorValue_of_int? {n : Int} (hv : v.int? = some n) (hw : w.int? = some n)
    (values : List String) :
    getBinarySensorValue py v values = getBinarySensorValue py w values := by
  have hindex : ∀ {v : Value F O}, v.int? = some n → v.index? py = some n := by
    intro v hv
    cases v with
    | bool | int => exact hv
    | none | float | str | tuple | object => cases hv
  unfold getBinarySensorValue
  rw [hindex hv, hindex hw]

variable [Floats F]

theorem toInt_congr {x y : F} (h : FiniteFloat.value x = FiniteFloat.value y) :
    (FloatValue.finite x).toInt = (FloatValue.finite y).toInt := by
  show Except.ok _ = Except.ok _
  rw [h]

theorem toStr_of_magnitude? {m : Value.Magnitude} (h : v.magnitude? = some m) :
    v.toStr py = if v.tooLong then .error .valueError else .ok (String.ofList (v.repr py)) := by
  cases v with
  | bool | int | float => rfl
  | none | str | tuple | object => cases h

theorem ofList_repr {u : Value F O} {s : String}
    (h : (if u.tooLong then Except.error Error.valueError else .ok (String.ofList (u.repr py))) =
      .ok s) :
    s.toList = u.repr py := by
  split at h
  · cases h
  · rw [← Except.ok.inj h, String.toList_ofList]

theorem noncached_number {m : Value.Magnitude} (h : v.magnitude? = some m) :
    convertValueNoncached py ⟨v, t, valueList⟩ =
      match t with
      | .bool =>
        if (Args.mk v t valueList).hasValueList then
          (getBinarySensorValue py v (valueList.getD [])).map .bool
        else .ok (.bool (m ≠ .finite 0))
      | .float => (v.toFloat py).map .float
      | .integer => ((v.toFloat py).bind FloatValue.toInt).map .int
      | .string => (v.toStr py).map .str
      | _ => .ok v := by
  have htruth : v.truth py = decide (m ≠ .finite 0) := by
    rcases int_or_float h with ⟨n, hn, rfl⟩ | ⟨x, rfl⟩
    · cases v with
      | bool b => cases hn; cases b <;> rfl
      | int n => cases hn; simp [Value.truth]
      | none | float | str | tuple | object => cases hn
    · cases x with
      | finite x => cases h; simp [Value.truth]
      | inf | negInf => cases h; rfl
      | nan => cases h
  rw [← htruth]
  cases v with
  | bool | int | float => rfl
  | none | str | tuple | object => cases h

/-- No entry is made for a float as an index, so that a value with an entry is like itself. -/
theorem alike_self (hok : convertValueNoncached py ⟨v, t, valueList⟩ = .ok r) :
    Alike ⟨v, t, valueList⟩ v := by
  cases t with
  | bool =>
    intro hlist
    cases v with
    | float x =>
      simp [convertValueNoncached, hlist, getBinarySensorValue, Value.index?, Value.int?,
        Except.map] at hok
    | none | bool | int | str | tuple | object => rfl
  | integer => trivial
  | float | string | action | dummy | enum | empty => exact rfl

variable [DecidableEq O]

/-- Equal keys are written alike only if they are the same. -/
theorem eq_of_toStr {s : String} (hkey : w.keyEq v = true) (hw : w.toStr py = .ok s)
    (hv : v.toStr py = .ok s) : w = v := by
  rcases keyEq_cases hkey with rfl | ⟨m, hwm, hvm⟩ | ⟨xs, ys, rfl, rfl, -⟩
  · rfl
  · rw [toStr_of_magnitude? hwm] at hw
    rw [toStr_of_magnitude? hvm] at hv
    exact eq_of_repr hwm hvm ((ofList_repr hw).symm.trans (ofList_repr hv))
  · have htext := (ofList_repr hw).symm.trans (ofList_repr hv)
    have hnil : PyValue.Stops [] := nofun
    have happend : (Value.tuple xs).repr py ++ [] = (Value.tuple ys).repr py ++ [] := by rw [htext]
    exact (repr_cancel _ _ hkey hnil hnil happend).1

theorem string_iff (hkey : w.keyEq v = true) (hok : (w.toStr py).map Value.str = .ok r) :
    (w.toStr py).map (Value.str (F := F) (O := O)) = (v.toStr py).map Value.str ↔ v = w := by
  refine ⟨fun h => ?_, fun h => by rw [h]⟩
  cases hw : w.toStr py with
  | error e => rw [hw] at hok; cases hok
  | ok s =>
    cases hv : v.toStr py with
    | error e => rw [hw, hv] at h; cases h
    | ok s' =>
      rw [hw, hv] at h
      obtain rfl : s = s' := by simpa [Except.map] using h
      exact (eq_of_toStr hkey hw hv).symm

/-- Two numbers of one magnitude, the first of which is converted. -/
theorem noncached_numbers_iff {m : Value.Magnitude} (hkey : w.keyEq v = true)
    (hw : w.magnitude? = some m) (hv : v.magnitude? = some m)
    (hok : convertValueNoncached py ⟨w, t, valueList⟩ = .ok r) :
    convertValueNoncached py ⟨w, t, valueList⟩ = convertValueNoncached py ⟨v, t, valueList⟩ ↔
      Alike ⟨v, t, valueList⟩ w := by
  rw [noncached_number hw] at hok
  rw [noncached_number hw, noncached_number hv]
  cases t with
  | bool =>
    show _ ↔ ((Args.mk v .bool valueList).hasValueList = true → v.isFloat = false)
    by_cases hlist : (Args.mk v .bool valueList).hasValueList = true
    · have hlist' : (Args.mk w .bool valueList).hasValueList = true := hlist
      simp only [hlist, hlist', if_true, forall_const] at hok ⊢
      rcases int_or_float hw with ⟨n, hn, rfl⟩ | ⟨x, rfl⟩
      · rcases int_or_float hv with ⟨n', hn', hm⟩ | ⟨y, rfl⟩
        · obtain rfl : n = n' := by simpa using hm
          refine iff_of_true (by rw [getBinarySensorValue_of_int? hn hn']) ?_
          cases v with
          | bool | int => rfl
          | none | float | str | tuple | object => cases hn'
        · -- the float is no index, and the integer is one
          refine iff_of_false (fun h => ?_) (fun h => by cases h)
          rw [hok] at h
          cases h
      · cases hok
    · have hlist' : ¬(Args.mk w .bool valueList).hasValueList = true := hlist
      simp only [hlist, hlist']
      exact iff_of_true rfl nofun
  | float =>
    show (w.toFloat py).map Value.float = (v.toFloat py).map Value.float ↔ v.isNegZero = w.isNegZero
    rcases toFloat_cases py hw hv with ⟨hfloat, hneg⟩ | ⟨x, y, hx, hy, hval, hxneg, hyneg⟩
    · exact iff_of_true (by rw [hfloat]) hneg.symm
    · rw [hx, hy, ← hxneg, ← hyneg]
      refine ⟨fun h => ?_, fun h => ?_⟩
      · obtain rfl : x = y := by simpa [Except.map] using h
        rfl
      · rw [Floats.eq_of_value x y hval h.symm]
  | integer =>
    refine iff_of_true ?_ trivial
    show ((w.toFloat py).bind FloatValue.toInt).map Value.int = _
    rcases toFloat_cases py hw hv with ⟨hfloat, -⟩ | ⟨x, y, hx, hy, hval, -, -⟩
    · rw [hfloat]
    · rw [hx, hy]
      show (FloatValue.finite x).toInt.map _ = (FloatValue.finite y).toInt.map _
      rw [toInt_congr hval]
  | string =>
    exact string_iff hkey hok
  | action | dummy | enum | empty =>
    show Except.ok w = Except.ok v ↔ v = w
    exact ⟨fun h => (Except.ok.inj h).symm, fun h => h ▸ rfl⟩

theorem noncached_tuples_iff {xs ys : List (Value F O)} (hitems : Value.keyEqItems xs ys = true)
    (hok : convertValueNoncached py ⟨.tuple xs, t, valueList⟩ = .ok r) :
    convertValueNoncached py ⟨.tuple xs, t, valueList⟩ =
        convertValueNoncached py ⟨.tuple ys, t, valueList⟩ ↔
      Alike ⟨.tuple ys, t, valueList⟩ (.tuple xs) := by
  have hkey : (Value.tuple xs).keyEq (.tuple ys) = true := by
    rw [Value.keyEq]
    exact hitems
  cases t with
  | bool =>
    refine iff_of_true ?_ fun _ => rfl
    by_cases hlist : (Args.mk (Value.tuple xs) .bool valueList).hasValueList = true
    · simp [convertValueNoncached, hlist, getBinarySensorValue, Value.index?, Value.int?,
        Except.map] at hok
    · have hlist' : ¬(Args.mk (Value.tuple ys) .bool valueList).hasValueList = true := hlist
      have hempty : xs.isEmpty = ys.isEmpty := by
        cases xs <;> cases ys <;> first | rfl | cases hitems
      simp only [convertValueNoncached, hlist, hlist', Value.truth, hempty]
      rfl
  | float => cases hok
  | integer => cases hok
  | string => exact string_iff hkey hok
  | action | dummy | enum | empty =>
    show Except.ok (Value.tuple xs) = Except.ok (Value.tuple ys) ↔ _
    exact ⟨fun h => (Except.ok.inj h).symm, fun h => by rw [show Value.tuple ys = Value.tuple xs from h]⟩

/-- The result of an equal key is the own result exactly for values that are alike. -/
theorem noncached_eq_iff {a b : Args F O} (hsame : b.same a = true)
    (hok : convertValueNoncached py b = .ok r) :
    convertValueNoncached py b = convertValueNoncached py a ↔ Alike a b.value := by
  obtain ⟨v, t, valueList⟩ := a
  obtain ⟨w, t', valueList'⟩ := b
  simp only [Args.same, Bool.and_eq_true, decide_eq_true_eq] at hsame
  obtain ⟨⟨hkey, rfl⟩, rfl⟩ := hsame
  rcases keyEq_cases hkey with rfl | ⟨m, hw, hv⟩ | ⟨xs, ys, rfl, rfl, hitems⟩
  · exact iff_of_true rfl (alike_self hok)
  · exact noncached_numbers_iff hkey hw hv hok
  · exact noncached_tuples_iff hitems hok

end Conversions

/-! ## Runs -/

section Runs

variable [Floats F] [DecidableEq O]

theorem convertValue_snd (py : Python F O) (c : Call F O) (cache : Cache F O) :
    (convertValue py c cache).2 = (convertValueCached py c.args cache).2 := by
  unfold convertValue
  split
  next h => rw [h]
  next => rfl

theorem caches_convertValue {py : Python F O} {cache : Cache F O}
    (h : cache.Caches (convertValueNoncached py)) (c : Call F O) :
    (convertValue py c cache).2.Caches (convertValueNoncached py) := by
  rw [convertValue_snd, convertValueCached]
  split
  next => exact h.call _
  next => exact h

theorem caches_after (py : Python F O) (history : List (Call F O)) :
    (after py history).Caches (convertValueNoncached py) := by
  suffices hall : ∀ cache : Cache F O, cache.Caches (convertValueNoncached py) →
      (history.foldl (fun cache c => (convertValue py c cache).2) cache).Caches
        (convertValueNoncached py) from hall [] LruCache.caches_nil
  induction history with
  | nil => exact fun _ h => h
  | cons c history ih => exact fun cache h => ih _ (caches_convertValue h c)

/-- The fallback makes no difference: a lookup that raises has found no entry. -/
theorem convertValue_fst_iff {py : Python F O} {c : Call F O} {cache : Cache F O}
    (h : c.value.hashable py = true) :
    (convertValue py c cache).1 = convertValueNoncached py c.args ↔
      (cache.call Args.same 2048 (convertValueNoncached py) c.args).1 =
        convertValueNoncached py c.args := by
  have hcached : convertValueCached py c.args cache =
      cache.call Args.same 2048 (convertValueNoncached py) c.args := if_pos h
  unfold convertValue
  split
  next hraised =>
    rw [hcached] at hraised
    have herror := congrArg Prod.fst hraised
    exact iff_of_true rfl (herror.trans (LruCache.of_call_error herror).symm)
  next => rw [hcached]

/--
In every run a call returns what the conversion returns exactly if the entry it finds, if any, is of
a value that is alike.
-/
theorem convertValue_eq_iff (py : Python F O) (history : List (Call F O)) (c : Call F O) :
    (convertValue py c (after py history)).1 = convertValueNoncached py c.args ↔
      ∀ e, entry? py (after py history) c.args = some e → Alike c.args e.1.value := by
  have hcaches := caches_after py history
  by_cases h : c.value.hashable py = true
  · have hentry : entry? py (after py history) c.args = (after py history).find? Args.same c.args :=
      if_pos h
    rw [convertValue_fst_iff h, LruCache.call_eq_iff hcaches, hentry]
    refine forall₂_congr fun e he => ?_
    obtain ⟨hok, hsame⟩ := hcaches.of_find? he
    exact noncached_eq_iff hsame hok
  · have hentry : entry? py (after py history) c.args = none := if_neg h
    have hraised : convertValueCached py c.args (after py history) = (.error .typeError, _) := if_neg h
    refine iff_of_true ?_ fun e he => ?_
    · unfold convertValue
      rw [hraised]
    · rw [hentry] at he
      cases he

/-- No floats at all. -/
instance : Floats Empty where
  negZero := Empty.elim
  eq_of_value := nofun
  ofInt _ := none
  ofInt_value := nofun

def samplePython : Python Empty Empty where
  floatOfStr _ := none
  reprStr s := s.toList
  hashable := Empty.elim
  truth := Empty.elim
  float := Empty.elim
  index := Empty.elim
  str := Empty.elim
  repr := Empty.elim

/-- After `1`, the value of an `ACTION` that is `True` is `1`. -/
theorem not_convertValue_eq : ¬∀ (history : List (Call Empty Empty)) (c : Call Empty Empty),
    (convertValue samplePython c (after samplePython history)).1 =
      convertValueNoncached samplePython c.args := by
  intro h
  have heq : Except.ok (Value.int 1) = Except.ok (Value.bool true) :=
    h [⟨.int 1, .action, .none⟩] ⟨.bool true, .action, .none⟩
  cases heq

end Runs

end AioHomematic.Model.ConvertValue
