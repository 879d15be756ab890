import AioHomematic.Support.Text
import Mathlib.Algebra.Group.Nat.Defs
import Mathlib.Data.List.Sort
import Mathlib.Data.Rat.Defs

/-!
# Python's values and their literals

Values built from strings, numbers, `None`, datetimes, tuples, lists, sets and dictionaries, the
text that `repr` gives for them, and `unrepr`, which reads such a text again. Python reads more
literals than `repr` writes (white space between tokens, hexadecimal numbers, bytes and so on):
`literalEval` leaves the others to a function that is a parameter.

The finite floats are a parameter too, with their texts and what `float` reads. Which characters
outside ASCII are printable is left open: `repr` escapes them or not, and both are read.
-/

namespace AioHomematic.Lib

open Support

/-! ## Values -/

def isWordChar (c : Char) : Bool := c.isAlphanum || c ∈ ['.', '+', '-']

/-- Finite floats: their value, their `repr` and the literals that are one. -/
class FiniteFloat (F : Type) where
  value : F → Rat
  text : F → List Char
  read : List Char → Option F
  read_text : ∀ x, read (text x) = some x
  /-- Infinities and NaN have no literals. -/
  read_name : ∀ s ∈ ["inf".toList, "-inf".toList, "nan".toList], read s = none
  text_word : ∀ x, ∀ c ∈ text x, isWordChar c = true
  /-- The text of a float has a point or an exponent. -/
  text_mark : ∀ x, '.' ∈ text x ∨ 'e' ∈ text x
  text_head : ∀ x, ∃ c s, text x = c :: s ∧ (c.isDigit = true ∨ c = '-')

/-- No finite floats at all. -/
instance : FiniteFloat Empty where
  value := Empty.elim
  text := Empty.elim
  read _ := none
  read_text := nofun
  read_name _ _ := rfl
  text_word := nofun
  text_mark := nofun
  text_head := nofun

inductive PyFloat (F : Type) where
  | finite (x : F)
  | inf
  | negInf
  | nan

structure PyDatetime where
  isoformat : String
  repr : List Char

inductive PyValue (F : Type) where
  | str (s : String)
  | int (n : Int)
  | float (x : PyFloat F)
  | bool (b : Bool)
  | none
  | datetime (d : PyDatetime)
  /-- Bytes, complex numbers and so on, known by their `repr` and not sorted. -/
  | foreign (repr : List Char)
  | list (xs : List (PyValue F))
  | tuple (xs : List (PyValue F))
  | set (xs : List (PyValue F))
  | dict (es : List (PyValue F × PyValue F))

namespace PyValue

variable {F : Type}

/-! ## Comparisons -/

/-- A number, as far as it is compared. -/
inductive Magnitude where
  | negInf
  | finite (x : Rat)
  | inf
  | nan

def Magnitude.lt : Magnitude → Magnitude → Bool
  | nan, _ => false
  | _, nan => false
  | _, negInf => false
  | negInf, _ => true
  | inf, _ => false
  | _, inf => true
  | finite x, finite y => x < y

def Magnitude.eq : Magnitude → Magnitude → Bool
  | negInf, negInf => true
  | finite x, finite y => x = y
  | inf, inf => true
  | _, _ => false

def magnitude? [FiniteFloat F] : PyValue F → Option Magnitude
  | int n => some (.finite n)
  | bool b => some (.finite (if b then 1 else 0))
  | float (.finite x) => some (.finite (FiniteFloat.value x))
  | float .inf => some .inf
  | float .negInf => some .negInf
  | float .nan => some .nan
  | _ => Option.none

mutual

/-- `==` of hashable values. -/
def eq [FiniteFloat F] : PyValue F → PyValue F → Bool
  | str s, str t => s = t
  | none, none => true
  | datetime d, datetime d' => d.isoformat = d'.isoformat
  | foreign s, foreign t => s = t
  | tuple xs, tuple ys => eqItems xs ys
  | v, w =>
    match v.magnitude?, w.magnitude? with
    | some x, some y => x.eq y
    | _, _ => false

def eqItems [FiniteFloat F] : List (PyValue F) → List (PyValue F) → Bool
  | [], [] => true
  | x :: xs, y :: ys => eq x y && eqItems xs ys
  | _, _ => false

end

mutual

/-- `<` of hashable values; nothing where it raises `TypeError`. -/
def lt? [FiniteFloat F] : PyValue F → PyValue F → Option Bool
  | str s, str t => some (s < t)
  | datetime d, datetime d' => some (d.isoformat < d'.isoformat)
  | tuple xs, tuple ys => ltItems? xs ys
  | v, w =>
    match v.magnitude?, w.magnitude? with
    | some x, some y => some (x.lt y)
    | _, _ => Option.none

/-- The first items that differ decide. -/
def ltItems? [FiniteFloat F] : List (PyValue F) → List (PyValue F) → Option Bool
  | [], ys => some (!ys.isEmpty)
  | _ :: _, [] => some false
  | x :: xs, y :: ys => if eq x y then ltItems? xs ys else lt? x y

end

/-- `sorted` by the keys of a dictionary; nothing where it raises `TypeError`. -/
def sorted? [FiniteFloat F] {α : Type} (es : List (PyValue F × α)) :
    Option (List (PyValue F × α)) :=
  if es.Pairwise fun e e' => (lt? e.1 e'.1).isSome = true then
    some (es.insertionSort fun e e' => lt? e'.1 e.1 ≠ some true)
  else Option.none

mutual

def hashable : PyValue F → Bool
  | list _ => false
  | set _ => false
  | dict _ => false
  | tuple xs => hashableItems xs
  | _ => true

def hashableItems : List (PyValue F) → Bool
  | [] => true
  | x :: xs => hashable x && hashableItems xs

end

/-- Keys of a dictionary, or elements of a set: hashable, and none occurs twice. -/
def KeysOk [FiniteFloat F] (keys : List (PyValue F)) : Prop :=
  (∀ k ∈ keys, hashable k = true) ∧ keys.Pairwise fun k k' => eq k k' = false ∧ eq k' k = false

instance [FiniteFloat F] (keys : List (PyValue F)) : Decidable (KeysOk keys) :=
  inferInstanceAs (Decidable (_ ∧ _))

/-- The elements of a set, each once. -/
def distinct [FiniteFloat F] (xs : List (PyValue F)) : List (PyValue F) :=
  xs.foldl (fun ys x => if ys.any (eq x) then ys else ys ++ [x]) []

/-! ## Strings -/

def hexDigit (n : Nat) : Char := "0123456789abcdef".toList.getD n '0'

/-- The last digits of a number. -/
def hex : (width : Nat) → Nat → List Char
  | 0, _ => []
  | width + 1, n => hexDigit (n / 16 ^ width % 16) :: hex width n

/-- The quotation marks around a string. -/
def quoteOf (s : List Char) : Char := if '\'' ∈ s ∧ '"' ∉ s then '"' else '\''

def escapeChar (printable : Char → Bool) (quote c : Char) : List Char :=
  if c = quote ∨ c = '\\' then ['\\', c]
  else if c = '\n' then ['\\', 'n']
  else if c = '\r' then ['\\', 'r']
  else if c = '\t' then ['\\', 't']
  else if 0x20 ≤ c.toNat ∧ c.toNat < 0x7f then [c]
  else if 0x7f < c.toNat ∧ printable c = true then [c]
  else if c.toNat < 0x100 then '\\' :: 'x' :: hex 2 c.toNat
  else if c.toNat < 0x10000 then '\\' :: 'u' :: hex 4 c.toNat
  else '\\' :: 'U' :: hex 8 c.toNat

def reprStr (printable : Char → Bool) (s : List Char) : List Char :=
  quoteOf s :: (s.flatMap (escapeChar printable (quoteOf s)) ++ [quoteOf s])

/-! ## Texts -/

/-- `repr` of what is neither a string nor a container. -/
def atomText [FiniteFloat F] : PyValue F → List Char
  | int n => decimal n
  | float (.finite x) => FiniteFloat.text x
  | float .inf => "inf".toList
  | float .negInf => "-inf".toList
  | float .nan => "nan".toList
  | bool true => "True".toList
  | bool false => "False".toList
  | datetime d => d.repr
  | foreign text => text
  | _ => "None".toList

mutual

/-- `repr` of a value that has no lists and sets. -/
def repr [FiniteFloat F] (printable : Char → Bool) : PyValue F → List Char
  | str s => reprStr printable s.toList
  | tuple [] => ['(', ')']
  | tuple [x] => '(' :: (repr printable x ++ [',', ')'])
  | tuple (x :: y :: ys) => '(' :: (repr printable x ++ reprItems printable (y :: ys))
  | dict [] => ['{', '}']
  | dict ((k, v) :: es) =>
    '{' :: (repr printable k ++ ':' :: ' ' :: (repr printable v ++ reprEntries printable es))
  | v => atomText v

def reprItems [FiniteFloat F] (printable : Char → Bool) : List (PyValue F) → List Char
  | [] => [')']
  | x :: xs => ',' :: ' ' :: (repr printable x ++ reprItems printable xs)

def reprEntries [FiniteFloat F] (printable : Char → Bool) :
    List (PyValue F × PyValue F) → List Char
  | [] => ['}']
  | (k, v) :: es =>
    ',' :: ' ' :: (repr printable k ++ ':' :: ' ' ::
      (repr printable v ++ reprEntries printable es))

end

/-! ## Reading -/

def hexValue? (c : Char) : Option Nat :=
  if c.isDigit then some (c.toNat - '0'.toNat)
  else if 'a' ≤ c ∧ c ≤ 'f' then some (c.toNat - 'a'.toNat + 10)
  else Option.none

/-- A number of so many hexadecimal digits, after the digits read before. -/
def readHex : (width : Nat) → Nat → List Char → Option (Nat × List Char)
  | 0, n, s => some (n, s)
  | _ + 1, _, [] => Option.none
  | width + 1, n, c :: s => (hexValue? c).bind fun d => readHex width (16 * n + d) s

def readCodePoint (width : Nat) (s : List Char) : Option (Char × List Char) :=
  (readHex width 0 s).bind fun r =>
    if r.1.isValidChar then some (Char.ofNat r.1, r.2) else Option.none

/-- The character that a backslash and the text after it stand for. -/
def unescape : List Char → Option (Char × List Char)
  | [] => Option.none
  | 'n' :: s => some ('\n', s)
  | 'r' :: s => some ('\r', s)
  | 't' :: s => some ('\t', s)
  | 'x' :: s => readCodePoint 2 s
  | 'u' :: s => readCodePoint 4 s
  | 'U' :: s => readCodePoint 8 s
  | c :: s => if c ∈ ['\\', '\'', '"'] then some (c, s) else Option.none

/-- A string, up to its closing quotation mark. -/
def readStr (quote : Char) : (fuel : Nat) → List Char → Option (List Char × List Char)
  | 0, _ => Option.none
  | _ + 1, [] => Option.none
  | fuel + 1, c :: s =>
    if c = quote then some ([], s)
    else if c = '\\' then
      (unescape s).bind fun r => (readStr quote fuel r.2).map fun t => (r.1 :: t.1, t.2)
    else if c.toNat < 0x20 then Option.none
    else (readStr quote fuel s).map fun t => (c :: t.1, t.2)

def readInt (s : List Char) : Option Int :=
  let n : Int :=
    if s.head? = some '-' then -(Nat.ofDigitChars 10 s.tail 0) else Nat.ofDigitChars 10 s 0
  if decimal n = s then some n else Option.none

def readNumber [FiniteFloat F] (s : List Char) : Option (PyValue F) :=
  match readInt s with
  | some n => some (int n)
  | Option.none => (FiniteFloat.read s).map fun x => float (.finite x)

def readAtom [FiniteFloat F] (s : List Char) : Option (PyValue F) :=
  if s = "True".toList then some (bool true)
  else if s = "False".toList then some (bool false)
  else if s = "None".toList then some none
  else readNumber s

mutual

def readValue [FiniteFloat F] : (fuel : Nat) → List Char → Option (PyValue F × List Char)
  | 0, _ => Option.none
  | _, [] => Option.none
  | fuel + 1, c :: s =>
    if c = '(' then
      if s.head? = some ')' then some (tuple [], s.tail)
      else
        (readValue fuel s).bind fun x =>
          if x.2.take 2 = [',', ')'] then some (tuple [x.1], x.2.drop 2)
          else (readItems fuel x.2).bind fun xs =>
            if xs.1.isEmpty then Option.none else some (tuple (x.1 :: xs.1), xs.2)
    else if c = '{' then
      if s.head? = some '}' then some (dict [], s.tail)
      else
        (readEntry fuel s).bind fun e =>
          (readEntries fuel e.2).bind fun es =>
            if KeysOk ((e.1 :: es.1).map Prod.fst) then some (dict (e.1 :: es.1), es.2) else Option.none
    else if c = '\'' ∨ c = '"' then
      (readStr c fuel s).map fun t => (str (String.ofList t.1), t.2)
    else
      (readAtom ((c :: s).takeWhile isWordChar)).map fun v => (v, (c :: s).dropWhile isWordChar)

def readItems [FiniteFloat F] :
    (fuel : Nat) → List Char → Option (List (PyValue F) × List Char)
  | 0, _ => Option.none
  | fuel + 1, s =>
    if s.head? = some ')' then some ([], s.tail)
    else if s.take 2 = [',', ' '] then
      (readValue fuel (s.drop 2)).bind fun x =>
        (readItems fuel x.2).map fun xs => (x.1 :: xs.1, xs.2)
    else Option.none

def readEntry [FiniteFloat F] :
    (fuel : Nat) → List Char → Option ((PyValue F × PyValue F) × List Char)
  | 0, _ => Option.none
  | fuel + 1, s =>
    (readValue fuel s).bind fun k =>
      if k.2.take 2 = [':', ' '] then
        (readValue fuel (k.2.drop 2)).map fun v => ((k.1, v.1), v.2)
      else Option.none

def readEntries [FiniteFloat F] :
    (fuel : Nat) → List Char → Option (List (PyValue F × PyValue F) × List Char)
  | 0, _ => Option.none
  | fuel + 1, s =>
    if s.head? = some '}' then some ([], s.tail)
    else if s.take 2 = [',', ' '] then
      (readEntry fuel (s.drop 2)).bind fun e =>
        (readEntries fuel e.2).map fun es => (e.1 :: es.1, es.2)
    else Option.none

end

/-- The value whose `repr` a text is. -/
def unrepr [FiniteFloat F] (s : List Char) : Option (PyValue F) :=
  match readValue (2 * s.length + 1) s with
  | some (v, []) => some v
  | _ => Option.none

end PyValue

end AioHomematic.Lib
