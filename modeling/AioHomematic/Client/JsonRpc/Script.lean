import AioHomematic.Client.ReGa
import AioHomematic.Lib.Dict
import AioHomematic.Lib.Replace

/-!
# Rendering of ReGa scripts

`_post_script` replaces one placeholder after the other, each in the text that
the replacements before it have left. `simultaneous` looks at the template only:
its `pieces` are characters and the holes for the parameters. The two agree when
each placeholder is found in the text so far where the template has a hole for
it, and nowhere else (`Separate`).

Where the template keeps its holes apart, a replacement works on the content of
each hole for itself (`replace_fillIn`): what comes later is substituted into
the values that came before.
-/

namespace AioHomematic.Client

open Lib

abbrev ExtraParams := Dict (List Char) (List Char)

def escapeRegaString (value : List Char) : List Char :=
  replace ['"'] ['\\', '"'] (replace ['\\'] ['\\', '\\'] value)

def placeholder (name : List Char) : List Char := "##".toList ++ name ++ "##".toList

/-- The script that `_post_script` sends. -/
def postScript (script : List Char) (extraParams : ExtraParams) : List Char :=
  extraParams.entries.foldl
    (fun script param => replace (placeholder param.1) (escapeRegaString param.2) script) script

/-! ## Templates -/

inductive Piece where
  | char (c : Char)
  | hole (name : List Char)
deriving DecidableEq

namespace Piece

def char? : Piece → Option Char
  | char c => some c
  | hole _ => none

def text (fill : List Char → List Char) : Piece → List Char
  | char c => [c]
  | hole name => fill name

end Piece

/-- The first `skip` characters belong to the placeholder of a hole. -/
def piecesFrom (names : List (List Char)) : (skip : Nat) → List Char → List Piece
  | _, [] => []
  | skip + 1, _ :: template => piecesFrom names skip template
  | 0, c :: template =>
    match names.find? fun name => placeholder name <+: c :: template with
    | some name =>
      .hole name :: piecesFrom names ((placeholder name).length - 1) template
    | none => .char c :: piecesFrom names 0 template

def pieces (names : List (List Char)) (template : List Char) : List Piece :=
  piecesFrom names 0 template

def fillIn (fill : List Char → List Char) (ps : List Piece) : List Char := ps.flatMap (·.text fill)

/-- The simultaneous substitution of the placeholders in the template. -/
def simultaneous (template : List Char) (extraParams : ExtraParams) : List Char :=
  fillIn (fun name => ((extraParams.get? name).map escapeRegaString).getD [])
    (pieces extraParams.keys template)

variable {fill fill' : List Char → List Char} {ps : List Piece} {p r value : List Char}
  {names : List (List Char)} {params : List (List Char × List Char)} {c : Char}

theorem placeholder_ne_nil (v : List Char) : placeholder v ≠ [] := List.cons_ne_nil _ _

theorem fillIn_piecesFrom (skip : Nat) (template : List Char) :
    fillIn placeholder (piecesFrom names skip template) = template.drop skip := by
  induction template generalizing skip with
  | nil =>
    rw [List.drop_nil]
    cases skip <;> rfl
  | cons c template ih =>
    cases skip with
    | succ skip => exact ih skip
    | zero =>
      simp only [piecesFrom]
      split
      · rename_i v hfind
        have hbegins : placeholder v <+: c :: template := by simpa using List.find?_some hfind
        obtain ⟨rest, hrest⟩ := hbegins
        show placeholder v ++ fillIn _ _ = c :: template
        have htail : template = (placeholder v).tail ++ rest := (List.cons.inj hrest).2.symm
        rw [ih, ← hrest, htail, ← List.length_tail, List.drop_left]
      · show c :: fillIn _ _ = _
        rw [ih]
        rfl

/-- The template is its pieces with the placeholders in the holes. -/
theorem fillIn_pieces (template : List Char) :
    fillIn placeholder (pieces names template) = template :=
  fillIn_piecesFrom 0 template

theorem fillIn_congr (h : ∀ v, .hole v ∈ ps → fill v = fill' v) :
    fillIn fill ps = fillIn fill' ps := by
  induction ps with
  | nil => rfl
  | cons piece ps ih =>
    have ih := ih fun v hv => h v (List.mem_cons_of_mem _ hv)
    show piece.text fill ++ fillIn fill ps = piece.text fill' ++ fillIn fill' ps
    rw [ih]
    cases piece with
    | char c => rfl
    | hole v =>
      show fill v ++ _ = fill' v ++ _
      rw [h v List.mem_cons_self]

theorem mem_of_hole_mem_piecesFrom {v : List Char} {skip : Nat} {template : List Char}
    (h : .hole v ∈ piecesFrom names skip template) : v ∈ names := by
  induction template generalizing skip with
  | nil => cases skip <;> cases h
  | cons c template ih =>
    cases skip with
    | succ skip => exact ih h
    | zero =>
      simp only [piecesFrom] at h
      split at h
      · rename_i w hfind
        rcases List.mem_cons.mp h with h | h
        · cases h
          exact List.mem_of_find?_eq_some hfind
        · exact ih h
      · rcases List.mem_cons.mp h with h | h
        · cases h
        · exact ih h

/-! ## One replacement after the other -/

/-- The placeholder of `v` begins where there is a hole for `v`, and nowhere else. -/
def OnlyAtHoles (fill : List Char → List Char) (v : List Char) : List Piece → Prop
  | [] => True
  | piece :: ps =>
    (piece = .hole v ∨
      ∀ i < (piece.text fill).length, ¬ placeholder v <+: (fillIn fill (piece :: ps)).drop i) ∧
    OnlyAtHoles fill v ps

/-- Each placeholder is found at its holes only, in the text that has the values of the parameters
before it; or the value is the placeholder itself. -/
def Separate (ps : List Piece) : (List Char → List Char) → List (List Char × List Char) → Prop
  | _, [] => True
  | fill, (v, value) :: params =>
    (escapeRegaString value = placeholder v ∨ OnlyAtHoles fill v ps) ∧
      Separate ps (Function.update fill v (escapeRegaString value)) params

instance (fill : List Char → List Char) (v : List Char) :
    (ps : List Piece) → Decidable (OnlyAtHoles fill v ps)
  | [] => .isTrue trivial
  | _ :: ps =>
    have := instDecidableOnlyAtHoles fill v ps
    inferInstanceAs (Decidable (_ ∧ _))

instance (ps : List Piece) : (fill : List Char → List Char) →
    (params : List (List Char × List Char)) → Decidable (Separate ps fill params)
  | _, [] => .isTrue trivial
  | fill, (v, value) :: params =>
    have := instDecidableSeparate ps (Function.update fill v (escapeRegaString value)) params
    inferInstanceAs (Decidable (_ ∧ _))

theorem OnlyAtHoles.replace_eq {v : List Char} (h : OnlyAtHoles fill v ps)
    (hv : fill v = placeholder v) :
    replace (placeholder v) r (fillIn fill ps) = fillIn (Function.update fill v r) ps := by
  induction ps with
  | nil => rfl
  | cons piece ps ih =>
    obtain ⟨hpiece, h⟩ := h
    show replace _ r (piece.text fill ++ fillIn fill ps) = piece.text _ ++ fillIn _ ps
    by_cases hhole : piece = .hole v
    · subst hhole
      show replace _ r (fill v ++ _) = Function.update fill v r v ++ _
      rw [hv, replace_append_self (placeholder_ne_nil v), ih h, Function.update_self]
    · have hnone : ∀ i < (piece.text fill).length,
          ¬ placeholder v <+: (piece.text fill ++ fillIn fill ps).drop i :=
        hpiece.resolve_left hhole
      rw [replace_append_of_none hnone, ih h]
      cases piece with
      | char c => rfl
      | hole w =>
        show fill w ++ _ = Function.update fill v r w ++ _
        rw [Function.update_of_ne fun hw => hhole (congrArg _ hw)]

theorem Separate.foldl_eq (h : Separate ps fill params) (hnodup : (params.map Prod.fst).Nodup)
    (hfill : ∀ v ∈ params.map Prod.fst, fill v = placeholder v) :
    params.foldl
        (fun script param => replace (placeholder param.1) (escapeRegaString param.2) script)
        (fillIn fill ps) =
      fillIn (fun v => ((Dict.lookup v params).map escapeRegaString).getD (fill v)) ps := by
  induction params generalizing fill with
  | nil => rfl
  | cons param params ih =>
    obtain ⟨v, value⟩ := param
    obtain ⟨hnew, hnodup⟩ := List.nodup_cons.mp hnodup
    have hv : fill v = placeholder v := hfill v List.mem_cons_self
    have hreplace : replace (placeholder v) (escapeRegaString value) (fillIn fill ps) =
        fillIn (Function.update fill v (escapeRegaString value)) ps := by
      rcases h.1 with hself | honly
      · rw [hself, replace_self (placeholder_ne_nil v), ← hv, Function.update_eq_self]
      · exact honly.replace_eq hv
    rw [List.foldl_cons, hreplace, ih h.2 hnodup]
    · refine fillIn_congr fun w _ => ?_
      show _ = ((if v = w then some value else Dict.lookup w params).map _).getD _
      by_cases hw : v = w
      · subst hw
        have hnone : Dict.lookup v params = none := Dict.lookup_eq_none.mpr hnew
        rw [hnone, if_pos rfl]
        exact Function.update_self v (escapeRegaString value) fill
      · rw [if_neg hw, Function.update_of_ne (Ne.symm hw)]
    · intro w hw
      have hne : w ≠ v := fun heq => hnew (heq ▸ hw)
      rw [Function.update_of_ne hne]
      exact hfill w (List.mem_cons_of_mem _ hw)

/-- One replacement after the other is the simultaneous substitution. -/
theorem postScript_eq_simultaneous {template : List Char} {extraParams : ExtraParams}
    (h : Separate (pieces extraParams.keys template) placeholder extraParams.entries) :
    postScript template extraParams = simultaneous template extraParams := by
  have hfoldl := h.foldl_eq extraParams.nodup fun v _ => rfl
  rw [fillIn_pieces] at hfoldl
  refine hfoldl.trans (fillIn_congr fun v hv => ?_)
  have hkey : v ∈ extraParams.keys := mem_of_hole_mem_piecesFrom hv
  show ((extraParams.get? v).map _).getD _ = ((extraParams.get? v).map _).getD _
  cases hget : extraParams.get? v with
  | none => exact absurd hkey (Dict.lookup_eq_none.mp hget)
  | some value => rfl

/-! ## Holes that are kept apart -/

/-- An occurrence of `p` may begin here, for some contents of the holes. -/
def mayBegin : List Char → List Piece → Bool
  | [], _ => true
  | _ :: _, [] => false
  | a :: p, .char c :: ps => a = c && mayBegin p ps
  | _ :: _, .hole _ :: _ => true

/-- No occurrence of `p` contains a character of the template. -/
def apart (p : List Char) : List Piece → Bool
  | [] => true
  | .char c :: ps => !mayBegin p (.char c :: ps) && apart p ps
  | [.hole _] => true
  | .hole _ :: .char c :: ps => c ∉ p && apart p (.char c :: ps)
  | .hole _ :: .hole _ :: _ => false

theorem mayBegin_of_begins (h : p <+: fillIn fill ps) : mayBegin p ps = true := by
  induction p generalizing ps with
  | nil => rfl
  | cons a p ih =>
    cases ps with
    | nil => exact absurd (List.prefix_nil.mp h) (List.cons_ne_nil a p)
    | cons piece ps =>
      cases piece with
      | hole v => rfl
      | char c =>
        obtain ⟨hac, h⟩ := List.cons_prefix_cons.mp h
        exact Bool.and_eq_true_iff.mpr ⟨decide_eq_true hac, ih h⟩

theorem replace_fillIn (hp : p ≠ []) (h : apart p ps = true) :
    replace p r (fillIn fill ps) = fillIn (fun v => replace p r (fill v)) ps := by
  induction ps using apart.induct with
  | case1 => rfl
  | case2 c ps ih =>
    simp only [apart, Bool.and_eq_true, Bool.not_eq_true'] at h
    have hstays : ¬ p <+: c :: fillIn fill ps := fun hbegins =>
      have hbegins : p <+: fillIn fill (.char c :: ps) := hbegins
      Bool.eq_false_iff.mp h.1 (mayBegin_of_begins hbegins)
    show replace p r (c :: fillIn fill ps) = c :: fillIn _ ps
    rw [replace_cons hstays, ih h.2]
  | case3 v =>
    show replace p r (fill v ++ []) = replace p r (fill v) ++ []
    rw [List.append_nil, List.append_nil]
  | case4 v c ps ih =>
    rw [apart, Bool.and_eq_true_iff, decide_eq_true_eq] at h
    show replace p r (fill v ++ c :: fillIn fill ps) = replace p r (fill v) ++ _
    rw [replace_append_cons hp h.1]
    exact congrArg _ (ih h.2)
  | case5 v w ps => cases h

end AioHomematic.Client
