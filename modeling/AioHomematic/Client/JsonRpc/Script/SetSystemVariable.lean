import AioHomematic.Client.JsonRpc.Script.Tokens

/-!
# Rendering of set_system_variable.fn

The parameters are replaced in the order name, value. The template keeps its
holes apart, so the script is the simultaneous substitution of a name in which
the placeholder of the value is replaced already (`postScript_setSystemVariable`).
Both parameters stand in a comment line and in a literal. So the script means
what the template means exactly when there is no line break in them, and no
placeholder of the value in the name.
-/

namespace AioHomematic.Client

open Lib ReGa

/-- `rega_scripts/set_system_variable.fn`. -/
def setSystemVariableScript : List Char :=
  [
    "!# name: set_system_variable.fn",
    "!# param: \"##name##\"",
    "!# param: \"##value##\"",
    "!#",
    "!#  Erstellt durch @baxxy13 2022-04-11",
    "!#",
    "!#  Dieses Script schreibt eine Systemvariable vom Typ Zeichenkette.",
    "!#",
    "!# Params for session recorder",
    "!#",
    "",
    "string sv_name = \"##name##\";",
    "string sv_value = \"##value##\";",
    "object target_sv = dom.GetObject(ID_SYSTEM_VARIABLES).Get(sv_name);",
    "if (target_sv) \x7b",
    "    if (target_sv.ValueTypeStr() == \"String\") \x7b",
    "       Write(target_sv.State(sv_value));",
    "    \x7d",
    "\x7d"
  ].flatMap fun line => line.toList ++ ['\n']

/-- `extra_params` of `set_system_variable`. -/
def setSystemVariableParams (name value : List Char) : ExtraParams :=
  (Dict.empty.set "name".toList name).set "value".toList value

/-! ## Values in the holes -/

def ExtraParams.raw (extraParams : ExtraParams) (v : List Char) : List Char :=
  (extraParams.get? v).getD []

variable {extraParams : ExtraParams} {raw raw' : List Char → List Char} {ps : List Piece}
  {name value : List Char}

theorem simultaneous_eq (template : List Char) (extraParams : ExtraParams) :
    simultaneous template extraParams =
      fillIn (fun v => escapeRegaString (extraParams.raw v)) (pieces extraParams.keys template) :=
  fillIn_congr fun v _ => by
    unfold ExtraParams.raw
    cases extraParams.get? v <;> rfl

def literal? {α : Type*} : Token α → Option (List α)
  | .literal text => some text
  | _ => none

/-- The literals of a script or a template. -/
def literals {α : Type*} (tokens : List (Token α)) : List (List α) := tokens.filterMap literal?

theorem literals_code (text : List Char) : (text.map Token.code).filterMap literal? = [] := by
  induction text with
  | nil => rfl
  | cons c text ih => exact ih

theorem literals_meaning (raw : List Char → List Char) (ps : List Piece) :
    literals (meaning raw ps) = (literals (lex Piece.char? ps)).map (fillIn raw) := by
  unfold meaning
  generalize lex Piece.char? ps = tokens
  induction tokens with
  | nil => rfl
  | cons token tokens ih =>
    unfold literals at ih ⊢
    rw [List.flatMap_cons, List.filterMap_append, ih]
    cases token with
    | comment text => rfl
    | literal text => rfl
    | unterminated text => rfl
    | code piece =>
      unfold tokenMeaning
      rw [literals_code]
      rfl

/-- A value in a comment has no line break, when a script has the meaning of the template. -/
theorem not_mem_of_meaning {script : List Char} {text : List Piece} (v : List Char)
    (hscript : lex some script = meaning raw ps)
    (hcomment : .comment text ∈ lex Piece.char? ps) (hv : .hole v ∈ text) : '\n' ∉ raw v := by
  intro hmem
  have htoken : Token.comment (fillIn (fun v => escapeRegaString (raw v)) text) ∈
      lex some script := by
    rw [hscript]
    exact List.mem_flatMap.mpr ⟨_, hcomment, List.mem_singleton_self _⟩
  refine lex_oneLine htoken '\n' (List.mem_flatMap.mpr ⟨.hole v, hv, ?_⟩) rfl
  exact (mem_escapeRegaString (by decide)).mpr hmem

/-! ## The template -/

def setSystemVariablePieces : List Piece :=
  pieces ["name".toList, "value".toList] setSystemVariableScript

/-- The holes are apart from each other, and in comments and literals. -/
theorem setSystemVariablePieces_checked :
    apart (placeholder "name".toList) setSystemVariablePieces = true ∧
      apart (placeholder "value".toList) setSystemVariablePieces = true ∧
      sheltered .lineStart setSystemVariablePieces = true ∧
      literals (lex Piece.char? setSystemVariablePieces) =
        [[.hole "name".toList], [.hole "value".toList], "String".toList.map .char] ∧
      .comment (" param: \"".toList.map .char ++ [.hole "name".toList, .char '"']) ∈
        lex Piece.char? setSystemVariablePieces ∧
      .comment (" param: \"".toList.map .char ++ [.hole "value".toList, .char '"']) ∈
        lex Piece.char? setSystemVariablePieces := by
  -- The lines are taken apart first, for the kernel is slow at decoding strings.
  unfold setSystemVariablePieces setSystemVariableScript
  iterate 19 rw [List.flatMap_cons]
  repeat rw [String.toList_ofList]
  decide +kernel

/-! ## The script that is sent -/

@[simp] theorem raw_name : (setSystemVariableParams name value).raw "name".toList = name := rfl

@[simp] theorem raw_value : (setSystemVariableParams name value).raw "value".toList = value := rfl

theorem eq_of_hole_mem {v : List Char} (h : .hole v ∈ setSystemVariablePieces) :
    v = "name".toList ∨ v = "value".toList := by
  have hmem : v ∈ ["name".toList, "value".toList] := mem_of_hole_mem_piecesFrom h
  rcases List.mem_cons.mp hmem with hv | hmem
  · exact .inl hv
  · exact .inr (List.mem_singleton.mp hmem)

/-- What becomes of the name: the placeholder of the value is replaced in it as well. -/
def sentName (name value : List Char) : List Char := replace (placeholder "value".toList) value name

/-- The name is replaced first. -/
theorem postScript_params (script : List Char) :
    postScript script (setSystemVariableParams name value) =
      replace (placeholder "value".toList) (escapeRegaString value)
        (replace (placeholder "name".toList) (escapeRegaString name) script) := rfl

theorem postScript_setSystemVariable :
    postScript setSystemVariableScript (setSystemVariableParams name value) =
      fillIn
        (fun v => escapeRegaString
          ((setSystemVariableParams (sentName name value) value).raw v))
        setSystemVariablePieces := by
  obtain ⟨hname, hvalue, -⟩ := setSystemVariablePieces_checked
  have htemplate : setSystemVariableScript = fillIn placeholder setSystemVariablePieces :=
    (fillIn_pieces setSystemVariableScript).symm
  rw [postScript_params, htemplate, replace_fillIn (placeholder_ne_nil _) hname,
    replace_fillIn (placeholder_ne_nil _) hvalue]
  refine fillIn_congr fun v hv => ?_
  have hself (p r : List Char) (hp : p ≠ []) : replace p r p = r := by
    have h := replace_append_self (r := r) (s := []) hp
    rwa [List.append_nil, replace_nil, List.append_nil] at h
  rcases eq_of_hole_mem hv with rfl | rfl
  · rw [hself _ _ (placeholder_ne_nil _), raw_name]
    exact replace_escape (placeholder_ne_nil _) (by decide)
  · rw [replace_of_absent (p := placeholder "name".toList) (by decide),
      hself _ _ (placeholder_ne_nil _), raw_value]

/-- Without line breaks the script means the template with the name that is sent. -/
theorem lex_setSystemVariable (hname : '\n' ∉ name) (hvalue : '\n' ∉ value) :
    lex some (postScript setSystemVariableScript (setSystemVariableParams name value)) =
      meaning (setSystemVariableParams (sentName name value) value).raw
        setSystemVariablePieces := by
  rw [postScript_setSystemVariable]
  refine lex_fillIn setSystemVariablePieces_checked.2.2.1 fun v hv => ?_
  rcases eq_of_hole_mem hv with rfl | rfl
  · exact fun hline => (mem_replace (placeholder_ne_nil _) hline).elim hvalue hname
  · exact hvalue

/-- The name that is sent is the name. -/
theorem sentName_eq_iff : sentName name value = name ↔
    ¬ placeholder "value".toList <:+: name ∨ value = placeholder "value".toList :=
  replace_eq_self_iff (placeholder_ne_nil _)

theorem setSystemVariable_iff (name value : List Char) :
    (postScript setSystemVariableScript (setSystemVariableParams name value) =
        simultaneous setSystemVariableScript (setSystemVariableParams name value) ∧
      lex some (postScript setSystemVariableScript (setSystemVariableParams name value)) =
        meaning (setSystemVariableParams name value).raw setSystemVariablePieces) ↔
    '\n' ∉ name ∧ '\n' ∉ value ∧
      (¬ placeholder "value".toList <:+: name ∨ value = placeholder "value".toList) := by
  obtain ⟨-, -, -, hliterals, hnameComment, hvalueComment⟩ := setSystemVariablePieces_checked
  rw [← sentName_eq_iff]
  constructor
  · rintro ⟨-, hmeaning⟩
    have hname : '\n' ∉ name :=
      not_mem_of_meaning "name".toList hmeaning hnameComment
        (List.mem_append_right _ List.mem_cons_self)
    have hvalue : '\n' ∉ value :=
      not_mem_of_meaning "value".toList hmeaning hvalueComment
        (List.mem_append_right _ List.mem_cons_self)
    refine ⟨hname, hvalue, ?_⟩
    rw [lex_setSystemVariable hname hvalue] at hmeaning
    -- the first literal is the name
    have hsame := congrArg literals hmeaning
    rw [literals_meaning, literals_meaning, hliterals] at hsame
    have hfirst := (List.cons.inj hsame).1
    exact List.append_inj_left' hfirst rfl
  · rintro ⟨hname, hvalue, hsent⟩
    constructor
    · rw [postScript_setSystemVariable, hsent, simultaneous_eq]
      rfl
    · rw [lex_setSystemVariable hname hvalue, hsent]

/-- **Rendering**: the script is the simultaneous substitution for every template in which each
placeholder is found at its holes only. `set_system_variable.fn` is that, and means its template
with the values in the holes, exactly for parameters without a line break whose name does not
contain the placeholder of the value. -/
theorem rega_rendering (template : List Char) (extraParams : ExtraParams)
    (name value : List Char) :
    (Separate (pieces extraParams.keys template) placeholder extraParams.entries →
      postScript template extraParams = simultaneous template extraParams) ∧
    ((postScript setSystemVariableScript (setSystemVariableParams name value) =
          simultaneous setSystemVariableScript (setSystemVariableParams name value) ∧
        lex some (postScript setSystemVariableScript (setSystemVariableParams name value)) =
          meaning (setSystemVariableParams name value).raw setSystemVariablePieces) ↔
      '\n' ∉ name ∧ '\n' ∉ value ∧
        (¬ placeholder "value".toList <:+: name ∨ value = placeholder "value".toList)) :=
  ⟨postScript_eq_simultaneous, setSystemVariable_iff name value⟩

/-! ## Line breaks and placeholders -/

/-- A name with everything that is escaped, and the placeholder of a parameter before it. -/
theorem rega_rendering_quoted :
    lex some (postScript setSystemVariableScript
      (setSystemVariableParams "a\\\"b\\".toList "##name##\"".toList)) =
      meaning (setSystemVariableParams "a\\\"b\\".toList "##name##\"".toList).raw
        setSystemVariablePieces ∧
    postScript "##a####b##".toList
      ((Dict.empty.set "a".toList "##a##".toList).set "b".toList "##a##".toList) =
      simultaneous "##a####b##".toList
        ((Dict.empty.set "a".toList "##a##".toList).set "b".toList "##a##".toList) :=
  ⟨((rega_rendering [] .empty _ _).2.mpr (by decide)).2, (rega_rendering _ _ [] []).1 (by decide)⟩

/-- The value is substituted into the name, and a line break ends the comment. -/
theorem rega_rendering_injected :
    postScript setSystemVariableScript
      (setSystemVariableParams "##value##".toList "1".toList) ≠
      simultaneous setSystemVariableScript
        (setSystemVariableParams "##value##".toList "1".toList) ∧
    lex some (postScript setSystemVariableScript
      (setSystemVariableParams "a".toList "b\nWrite(1);".toList)) ≠
      meaning (setSystemVariableParams "a".toList "b\nWrite(1);".toList).raw
        setSystemVariablePieces := by
  constructor
  · unfold setSystemVariableScript
    iterate 19 rw [List.flatMap_cons]
    repeat rw [String.toList_ofList]
    decide +kernel
  · intro hmeaning
    obtain ⟨-, -, -, -, -, hvalueComment⟩ := setSystemVariablePieces_checked
    exact not_mem_of_meaning "value".toList hmeaning hvalueComment
      (List.mem_append_right _ List.mem_cons_self) (by decide)

end AioHomematic.Client
