import Mathlib.Data.List.TakeWhile

/-!
# Text

What the patterns and the conversions of the source take from Python's text:
the decimal digits of Unicode that `\d` and `int` accept, white space, and
numbers written with at least two digits.
-/

namespace AioHomematic.Support

/-- What `List.all` has computed. Of characters, since another instance may try all of them. -/
theorem forall_mem_of_all {α : Type*} {p : α → Prop} [DecidablePred p] {l : List α}
    (h : l.all (p ·) = true) : ∀ a ∈ l, p a := by
  simpa using h

/-- The zeros of the decimal digits of Unicode, which come in tens. -/
def decimalZeros : List Nat :=
  [0x30, 0x660, 0x6F0, 0x7C0, 0x966, 0x9E6, 0xA66, 0xAE6, 0xB66, 0xBE6, 0xC66, 0xCE6, 0xD66, 0xDE6,
    0xE50, 0xED0, 0xF20, 0x1040, 0x1090, 0x17E0, 0x1810, 0x1946, 0x19D0, 0x1A80, 0x1A90, 0x1B50,
    0x1BB0, 0x1C40, 0x1C50, 0xA620, 0xA8D0, 0xA900, 0xA9D0, 0xA9F0, 0xAA50, 0xABF0, 0xFF10, 0x104A0,
    0x10D30, 0x10D40, 0x11066, 0x110F0, 0x11136, 0x111D0, 0x112F0, 0x11450, 0x114D0, 0x11650,
    0x116C0, 0x116D0, 0x116DA, 0x11730, 0x118E0, 0x11950, 0x11BF0, 0x11C50, 0x11D50, 0x11DA0,
    0x11F50, 0x16130, 0x16A60, 0x16AC0, 0x16B50, 0x16D70, 0x1CCF0, 0x1D7CE, 0x1D7D8, 0x1D7E2,
    0x1D7EC, 0x1D7F6, 0x1E140, 0x1E2F0, 0x1E4F0, 0x1E5F1, 0x1E950, 0x1FBF0]

/-- The value of a decimal digit. -/
def digit? (c : Char) : Option Nat :=
  (decimalZeros.find? fun d => d ≤ c.toNat && c.toNat < d + 10).map (c.toNat - ·)

theorem digit?_lt {c : Char} {n : Nat} (h : digit? c = some n) : n < 10 := by
  obtain ⟨d, hfind, rfl⟩ := Option.map_eq_some_iff.mp h
  have hrange := List.find?_some hfind
  simp only [Bool.and_eq_true, decide_eq_true_eq] at hrange
  omega

def isDigit (c : Char) : Bool := (digit? c).isSome

/-- White space of `\s`. -/
def isSpace (c : Char) : Bool :=
  let n := c.toNat
  (9 ≤ n && n ≤ 13) || (28 ≤ n && n ≤ 32) || n == 0x85 || n == 0xA0 || n == 0x1680 ||
    (0x2000 ≤ n && n ≤ 0x200A) || n == 0x2028 || n == 0x2029 || n == 0x202F || n == 0x205F ||
    n == 0x3000

/-- `int(s)` of decimal digits. -/
def number (s : List Char) : Nat := s.foldl (fun n c => 10 * n + (digit? c).getD 0) 0

/-- `str(n)`. -/
def decimal : Int → List Char
  | .ofNat n => Nat.toDigits 10 n
  | .negSucc n => '-' :: Nat.toDigits 10 (n + 1)

/-- A number with the format `02d`. -/
def decimal2 (n : Int) : List Char :=
  if 0 ≤ n ∧ n < 10 then '0' :: decimal n else decimal n

/-- `s.split(sep, 1)`, if the separator occurs. -/
def split1 (sep : Char) (s : List Char) : Option (List Char × List Char) :=
  match s.dropWhile (· ≠ sep) with
  | [] => none
  | _ :: rest => some (s.takeWhile (· ≠ sep), rest)

theorem split1_append {sep : Char} {s : List Char} (h : sep ∉ s) (rest : List Char) :
    split1 sep (s ++ sep :: rest) = some (s, rest) := by
  have hall : ∀ c ∈ s, (decide (c ≠ sep)) = true := by
    intro c hc
    exact decide_eq_true fun heq => h (heq ▸ hc)
  rw [split1, List.dropWhile_append_of_pos hall, List.takeWhile_append_of_pos hall]
  simp

theorem of_split1 {sep : Char} {s s' rest : List Char} (h : split1 sep s = some (s', rest)) :
    s = s' ++ sep :: rest := by
  rw [split1] at h
  split at h
  · cases h
  next c cs hdrop =>
    obtain ⟨rfl, rfl⟩ := Prod.mk.inj (Option.some.inj h)
    have hhead := List.head?_dropWhile_not (fun c => decide (c ≠ sep)) s
    rw [hdrop] at hhead
    have hsep : c = sep := by simpa using hhead
    rw [← hsep, ← hdrop, hsep, List.takeWhile_append_dropWhile]

example : number ['0', '٣', '7'] = 37 := by decide

end AioHomematic.Support
