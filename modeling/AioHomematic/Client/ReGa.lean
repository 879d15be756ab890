import Mathlib.Data.List.Basic

/-!
# Tokens of ReGa scripts

Comment lines, which start with `!#`, double-quoted literals, in which a
backslash escapes a backslash and a quote, and the rest of the script as code.
The symbols of a script are its characters, or those of a template, where
`char` gives the character that a symbol is, if it is one.
-/

namespace AioHomematic.Client.ReGa

inductive Token (α : Type*) where
  /-- Without `!#` and the end of the line. -/
  | comment (text : List α)
  /-- What the literal denotes. -/
  | literal (text : List α)
  | code (symbol : α)
  | unterminated (text : List α)
deriving DecidableEq

inductive LexState (α : Type*) where
  | lineStart
  /-- A `!` at the start of a line. -/
  | bang (symbol : α)
  | code
  | comment (text : List α)
  | literal (text : List α)
  /-- A backslash in a literal. -/
  | escape (text : List α) (symbol : α)
deriving DecidableEq

variable {α : Type*} (char : α → Option Char)

def codeNext (a : α) : LexState α × List (Token α) :=
  if char a = some '"' then (.literal [], [])
  else if char a = some '\n' then (.lineStart, [.code a])
  else (.code, [.code a])

def next : LexState α → α → LexState α × List (Token α)
  | .lineStart, a => if char a = some '!' then (.bang a, []) else codeNext char a
  | .bang b, a =>
    if char a = some '#' then (.comment [], [])
    else ((codeNext char a).1, .code b :: (codeNext char a).2)
  | .code, a => codeNext char a
  | .comment text, a =>
    if char a = some '\n' then (.lineStart, [.comment text, .code a])
    else (.comment (text ++ [a]), [])
  | .literal text, a =>
    if char a = some '"' then (.code, [.literal text])
    else if char a = some '\\' then (.escape text a, [])
    else (.literal (text ++ [a]), [])
  | .escape text b, a =>
    if char a = some '"' ∨ char a = some '\\' then (.literal (text ++ [a]), [])
    else (.literal (text ++ [b, a]), [])

/-- The end of the script. -/
def LexState.rest : LexState α → List (Token α)
  | .lineStart => []
  | .bang b => [.code b]
  | .code => []
  | .comment text => [.comment text]
  | .literal text => [.unterminated text]
  | .escape text b => [.unterminated (text ++ [b])]

def lexFrom : LexState α → List α → List (Token α)
  | st, [] => st.rest
  | st, a :: s => (next char st a).2 ++ lexFrom (next char st a).1 s

def lex (s : List α) : List (Token α) := lexFrom char .lineStart s

/-! ## Comments -/

/-- No symbol of the comment that is read is the end of a line. -/
def LexState.OneLine : LexState α → Prop
  | .comment text => ∀ a ∈ text, char a ≠ some '\n'
  | _ => True

def Token.OneLine : Token α → Prop
  | .comment text => ∀ a ∈ text, char a ≠ some '\n'
  | _ => True

variable {char} {st : LexState α} {a : α} {s : List α} {token : Token α}

theorem codeNext_oneLine :
    (codeNext char a).1.OneLine char ∧ ∀ token ∈ (codeNext char a).2, token.OneLine char := by
  unfold codeNext
  split
  · exact ⟨trivial, fun _ h => nomatch h⟩
  · split
    all_goals
      refine ⟨trivial, fun token h => ?_⟩
      rw [List.mem_singleton.mp h]
      exact trivial

theorem next_oneLine (h : st.OneLine char) :
    (next char st a).1.OneLine char ∧ ∀ token ∈ (next char st a).2, token.OneLine char := by
  have hnone {st' : LexState α} (h : st'.OneLine char) :
      st'.OneLine char ∧ ∀ token ∈ ([] : List (Token α)), token.OneLine char :=
    ⟨h, fun _ h => nomatch h⟩
  cases st with
  | lineStart =>
    simp only [next]
    split
    · exact hnone trivial
    · exact codeNext_oneLine
  | bang b =>
    simp only [next]
    split
    · exact hnone fun _ h => nomatch h
    · refine ⟨codeNext_oneLine.1, fun token htoken => ?_⟩
      rcases List.mem_cons.mp htoken with rfl | htoken
      · exact trivial
      · exact codeNext_oneLine.2 token htoken
  | code => exact codeNext_oneLine
  | comment text =>
    simp only [next]
    split
    · refine ⟨trivial, fun token htoken => ?_⟩
      rcases List.mem_cons.mp htoken with rfl | htoken
      · exact h
      · rw [List.mem_singleton.mp htoken]
        exact trivial
    · rename_i hline
      refine hnone fun b hb => ?_
      rcases List.mem_append.mp hb with hb | hb
      · exact h b hb
      · rw [List.mem_singleton.mp hb]
        exact hline
  | literal text =>
    simp only [next]
    split
    · refine ⟨trivial, fun token htoken => ?_⟩
      rw [List.mem_singleton.mp htoken]
      exact trivial
    · split <;> exact hnone trivial
  | escape text b =>
    simp only [next]
    split <;> exact hnone trivial

theorem lexFrom_oneLine (h : st.OneLine char) (htoken : token ∈ lexFrom char st s) :
    token.OneLine char := by
  induction s generalizing st with
  | nil =>
    cases st with
    | lineStart => cases htoken
    | code => cases htoken
    | bang b =>
      rw [List.mem_singleton.mp htoken]
      exact trivial
    | comment text =>
      rw [List.mem_singleton.mp htoken]
      exact h
    | literal text =>
      rw [List.mem_singleton.mp htoken]
      exact trivial
    | escape text b =>
      rw [List.mem_singleton.mp htoken]
      exact trivial
  | cons a s ih =>
    rcases List.mem_append.mp htoken with htoken | htoken
    · exact (next_oneLine h).2 token htoken
    · exact ih (next_oneLine h).1 htoken

/-- A comment ends with its line. -/
theorem lex_oneLine (htoken : token ∈ lex char s) : token.OneLine char :=
  lexFrom_oneLine (show LexState.OneLine char .lineStart from trivial) htoken

end AioHomematic.Client.ReGa
