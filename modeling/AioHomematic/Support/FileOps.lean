import AioHomematic.Support.Text

/-!
# Scripts of recorded sessions

`cleanup_script_for_session_recorder`: what is kept of a script is its first line and the lines
with parameters. Cleaning up a script again changes nothing.
-/

namespace AioHomematic.Support

/-- The characters at which `splitlines` ends a line. -/
def isLineBreak (c : Char) : Bool :=
  c.toNat ∈ [0x0a, 0x0b, 0x0c, 0x0d, 0x1c, 0x1d, 0x1e, 0x85, 0x2028, 0x2029]

/-- One more character in front of the first line. -/
def extendLine (c : Char) : List (List Char) → List (List Char)
  | [] => [[c]]
  | line :: lines => (c :: line) :: lines

def splitlines : List Char → List (List Char)
  | [] => []
  | '\r' :: '\n' :: s => [] :: splitlines s
  | c :: s => if isLineBreak c then [] :: splitlines s else extendLine c (splitlines s)

/-- `"\n".join(lines)`. -/
def joinLines : List (List Char) → List Char
  | [] => []
  | [line] => line
  | line :: line' :: lines => line ++ '\n' :: joinLines (line' :: lines)

def isParamLine (line : List Char) : Bool := "!# param:".toList.isPrefixOf line

def cleanupScriptForSessionRecorder (script : List Char) : List Char :=
  match splitlines script with
  | [] => []
  | line :: lines => joinLines (line :: lines.filter isParamLine)

/-! ## Cleaning up twice -/

theorem splitlines_cons {c : Char} {s : List Char} (h : isLineBreak c = false) :
    splitlines (c :: s) = extendLine c (splitlines s) := by
  have hne : ∀ s' : List Char, c = '\r' → s = '\n' :: s' → False := by
    rintro s' rfl -
    exact absurd h (by decide)
  rw [splitlines.eq_3 c s hne, if_neg (by rw [h]; decide)]

theorem no_break_of_mem_splitlines {s line : List Char} (h : line ∈ splitlines s) :
    ∀ c ∈ line, isLineBreak c = false := by
  fun_induction splitlines s generalizing line with
  | case1 => cases h
  | case2 s ih =>
    obtain rfl | hmem := List.mem_cons.mp h
    · simp
    · exact ih hmem
  | case3 c s _ hbreak ih =>
    obtain rfl | hmem := List.mem_cons.mp h
    · simp
    · exact ih hmem
  | case4 c s _ hbreak ih =>
    cases hlines : splitlines s with
    | nil =>
      rw [hlines, extendLine, List.mem_singleton] at h
      subst h
      simpa using hbreak
    | cons line' lines =>
      rw [hlines, extendLine, List.mem_cons] at h
      obtain rfl | hmem := h
      · intro d hd
        obtain rfl | hmem := List.mem_cons.mp hd
        · simpa using hbreak
        · exact ih (hlines ▸ List.mem_cons_self) d hmem
      · exact ih (hlines ▸ List.mem_cons_of_mem _ hmem)

theorem splitlines_append_break {line : List Char} (h : ∀ c ∈ line, isLineBreak c = false)
    (s : List Char) : splitlines (line ++ '\n' :: s) = line :: splitlines s := by
  induction line with
  | nil => simp [splitlines, isLineBreak]
  | cons c line ih =>
    rw [List.cons_append, splitlines_cons (h c List.mem_cons_self),
      ih fun d hd => h d (List.mem_cons_of_mem _ hd), extendLine]

theorem splitlines_of_no_break {line : List Char} (h : ∀ c ∈ line, isLineBreak c = false)
    (hne : line ≠ []) : splitlines line = [line] := by
  induction line with
  | nil => exact absurd rfl hne
  | cons c line ih =>
    rw [splitlines_cons (h c List.mem_cons_self)]
    cases line with
    | nil => rfl
    | cons d line => rw [ih (fun e he => h e (List.mem_cons_of_mem _ he)) (by simp), extendLine]

/-- Lines are found again, except for an empty line at the end. -/
theorem splitlines_joinLines {line : List Char} {lines : List (List Char)}
    (h : ∀ l ∈ line :: lines, ∀ c ∈ l, isLineBreak c = false)
    (hne : ∀ l ∈ lines, l ≠ []) (hline : lines = [] → line ≠ []) :
    splitlines (joinLines (line :: lines)) = line :: lines := by
  induction lines generalizing line with
  | nil => exact splitlines_of_no_break (h line List.mem_cons_self) (hline rfl)
  | cons line' lines ih =>
    rw [joinLines, splitlines_append_break (h line List.mem_cons_self)]
    rw [ih (fun l hl => h l (List.mem_cons_of_mem _ hl))
      (fun l hl => hne l (List.mem_cons_of_mem _ hl)) fun _ => hne line' List.mem_cons_self]

theorem cleanupScript_cleanupScript (script : List Char) :
    cleanupScriptForSessionRecorder (cleanupScriptForSessionRecorder script) =
      cleanupScriptForSessionRecorder script := by
  cases hlines : splitlines script with
  | nil =>
    have hempty : cleanupScriptForSessionRecorder script = [] := by
      rw [cleanupScriptForSessionRecorder, hlines]
    rw [hempty]
    rfl
  | cons line lines =>
    have hclean : cleanupScriptForSessionRecorder script =
        joinLines (line :: lines.filter isParamLine) := by
      rw [cleanupScriptForSessionRecorder, hlines]
    rw [hclean]
    by_cases hempty : line = [] ∧ lines.filter isParamLine = []
    · rw [hempty.1, hempty.2]
      rfl
    · have hsplit : splitlines (joinLines (line :: lines.filter isParamLine)) =
          line :: lines.filter isParamLine := by
        apply splitlines_joinLines
        · intro l hl
          refine no_break_of_mem_splitlines (s := script) ?_
          rw [hlines]
          obtain rfl | hmem := List.mem_cons.mp hl
          · exact List.mem_cons_self
          · exact List.mem_cons_of_mem _ (List.mem_filter.mp hmem).1
        · rintro l hl rfl
          exact absurd (List.mem_filter.mp hl).2 (by decide)
        · exact fun hnil hline => hempty ⟨hline, hnil⟩
      rw [cleanupScriptForSessionRecorder, hsplit]
      simp only [List.filter_filter, Bool.and_self]

end AioHomematic.Support
