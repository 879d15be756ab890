import AioHomematic.Client.JsonRpc.Script

/-!
# Tokens of a rendered script

What a template means: its tokens, with holes in them. In a literal a hole
stands for the value itself, in a comment for the escaped text. `lex_fillIn` says
that the script with the escaped values in the holes has these tokens, when the
template has its holes in literals and comments (`sheltered`) and no value has a
line break. The escaping is right in a literal for every value (`lex_escape`).
-/

namespace AioHomematic.Client

open Lib ReGa

/-! ## Escaping -/

def escapeChar (c : Char) : List Char :=
  if c = '\\' then ['\\', '\\'] else if c = '"' then ['\\', '"'] else [c]

theorem escapeRegaString_eq (value : List Char) :
    escapeRegaString value = value.flatMap escapeChar := by
  unfold escapeRegaString
  rw [replace_singleton, replace_singleton, List.flatMap_assoc]
  refine congrArg (List.flatMap · value) (funext fun c => ?_)
  unfold escapeChar
  by_cases hbackslash : c = '\\'
  · rw [if_pos hbackslash, if_pos hbackslash]
    rfl
  · rw [if_neg hbackslash, if_neg hbackslash, List.flatMap_singleton]

theorem escapeRegaString_cons (c : Char) (value : List Char) :
    escapeRegaString (c :: value) = escapeChar c ++ escapeRegaString value := by
  rw [escapeRegaString_eq, escapeRegaString_eq, List.flatMap_cons]

theorem escapeRegaString_append (s t : List Char) :
    escapeRegaString (s ++ t) = escapeRegaString s ++ escapeRegaString t := by
  rw [escapeRegaString_eq, escapeRegaString_eq, escapeRegaString_eq, List.flatMap_append]

/-- No character is escaped. -/
def Plain (p : List Char) : Prop := ∀ c ∈ p, c ≠ '\\' ∧ c ≠ '"'

instance : DecidablePred Plain := List.decidableBAll fun c => c ≠ '\\' ∧ c ≠ '"'

theorem escapeChar_of_plain {c : Char} (h : c ≠ '\\' ∧ c ≠ '"') : escapeChar c = [c] := by
  unfold escapeChar
  rw [if_neg h.1, if_neg h.2]

theorem Plain.escape {p : List Char} (h : Plain p) : escapeRegaString p = p := by
  induction p with
  | nil => rfl
  | cons c p ih =>
    rw [escapeRegaString_cons, escapeChar_of_plain (h c List.mem_cons_self),
      ih fun a ha => h a (List.mem_cons_of_mem c ha)]
    rfl

theorem not_begins_of_escaped {p s : List Char} {c : Char} (hp : p ≠ []) (h : Plain p)
    (hc : c = '\\' ∨ c = '"') : ¬ p <+: c :: s := by
  obtain ⟨a, p, rfl⟩ := List.exists_cons_of_ne_nil hp
  intro hbegins
  have ha := h a List.mem_cons_self
  rw [(List.cons_prefix_cons.mp hbegins).1] at ha
  rcases hc with hc | hc
  · exact ha.1 hc
  · exact ha.2 hc

theorem Plain.prefix_escape {p s : List Char} (h : Plain p) (hbegins : p <+: escapeRegaString s) :
    p <+: s := by
  induction p generalizing s with
  | nil => exact List.nil_prefix
  | cons a p ih =>
    cases s with
    | nil => exact hbegins
    | cons c s =>
      rw [escapeRegaString_cons] at hbegins
      have hc : c ≠ '\\' ∧ c ≠ '"' := by
        unfold escapeChar at hbegins
        constructor
        · intro hc
          rw [if_pos hc] at hbegins
          exact not_begins_of_escaped (List.cons_ne_nil a p) h (.inl rfl) hbegins
        · intro hc
          rw [if_neg (by rw [hc]; decide), if_pos hc] at hbegins
          exact not_begins_of_escaped (List.cons_ne_nil a p) h (.inl rfl) hbegins
      rw [escapeChar_of_plain hc] at hbegins
      obtain ⟨hac, hbegins⟩ := List.cons_prefix_cons.mp hbegins
      exact List.cons_prefix_cons.mpr
        ⟨hac, ih (fun b hb => h b (List.mem_cons_of_mem a hb)) hbegins⟩

/-- Escaping goes through a replacement whose pattern is not escaped. -/
theorem replace_escape {p r s : List Char} (hp : p ≠ []) (h : Plain p) :
    replace p (escapeRegaString r) (escapeRegaString s) = escapeRegaString (replace p r s) := by
  induction s using scan hp with
  | nil => rfl
  | found s ih =>
    rw [escapeRegaString_append, h.escape, replace_append_self hp, replace_append_self hp,
      escapeRegaString_append, ih]
  | stays c s hstays ih =>
    rw [replace_cons hstays, escapeRegaString_cons, escapeRegaString_cons, ← ih]
    unfold escapeChar
    by_cases hbackslash : c = '\\'
    · rw [if_pos hbackslash]
      show replace p _ ('\\' :: '\\' :: _) = _
      rw [replace_cons (not_begins_of_escaped hp h (.inl rfl)),
        replace_cons (not_begins_of_escaped hp h (.inl rfl))]
      rfl
    · rw [if_neg hbackslash]
      by_cases hquote : c = '"'
      · rw [if_pos hquote]
        show replace p _ ('\\' :: '"' :: _) = _
        rw [replace_cons (not_begins_of_escaped hp h (.inl rfl)),
          replace_cons (not_begins_of_escaped hp h (.inr rfl))]
        rfl
      · have hstays' : ¬ p <+: c :: escapeRegaString s := fun hbegins => by
          have hcons : escapeRegaString (c :: s) = c :: escapeRegaString s := by
            rw [escapeRegaString_cons, escapeChar_of_plain ⟨hbackslash, hquote⟩]
            rfl
          exact hstays (h.prefix_escape (hcons ▸ hbegins))
        rw [if_neg hquote]
        exact replace_cons hstays'

theorem mem_escapeRegaString {c : Char} {value : List Char} (hc : c ≠ '\\') :
    c ∈ escapeRegaString value ↔ c ∈ value := by
  rw [escapeRegaString_eq, List.mem_flatMap]
  constructor
  · rintro ⟨a, ha, hmem⟩
    unfold escapeChar at hmem
    split at hmem
    · simp [hc] at hmem
    · split at hmem
      · rename_i hquote
        have hcq : c = '"' := by simpa [hc] using hmem
        rw [hcq, ← hquote]
        exact ha
      · rw [List.mem_singleton.mp hmem]
        exact ha
  · intro hmem
    refine ⟨c, hmem, ?_⟩
    unfold escapeChar
    rw [if_neg hc]
    split
    · rename_i hquote
      simp [hquote]
    · exact List.mem_singleton_self c

/-! ## Literals and comments -/

theorem lexFrom_cons (st : LexState Char) (c : Char) (s : List Char) :
    lexFrom some st (c :: s) = (next some st c).2 ++ lexFrom some (next some st c).1 s := rfl

/-- An escaped value stays in its literal, and denotes itself there. -/
theorem lex_escape (text value s : List Char) :
    lexFrom some (.literal text) (escapeRegaString value ++ s) =
      lexFrom some (.literal (text ++ value)) s := by
  induction value generalizing text with
  | nil =>
    rw [List.append_nil]
    rfl
  | cons c value ih =>
    rw [escapeRegaString_cons, List.append_assoc, List.append_cons text c value, ← ih]
    unfold escapeChar
    by_cases hbackslash : c = '\\'
    · rw [if_pos hbackslash, hbackslash]
      rfl
    · rw [if_neg hbackslash]
      by_cases hquote : c = '"'
      · rw [if_pos hquote, hquote]
        rfl
      · rw [if_neg hquote, List.singleton_append, lexFrom_cons]
        simp only [next, Option.some.injEq, if_neg hquote, if_neg hbackslash]
        rfl

/-- A text without line breaks stays in its comment. -/
theorem lex_comment {u : List Char} (h : '\n' ∉ u) (text s : List Char) :
    lexFrom some (.comment text) (u ++ s) = lexFrom some (.comment (text ++ u)) s := by
  induction u generalizing text with
  | nil =>
    rw [List.append_nil]
    rfl
  | cons c u ih =>
    have hc : some c ≠ some '\n' := fun hc => h (Option.some.inj hc ▸ List.mem_cons_self)
    rw [List.append_cons text c u, ← ih (List.not_mem_of_not_mem_cons h), List.cons_append,
      lexFrom_cons]
    simp only [next, if_neg hc]
    rfl

/-! ## Templates -/

variable {raw : List Char → List Char} {st : LexState Piece} {st' : LexState Char} {c : Char}
  {ps : List Piece}

/-- A token of a template, with the values in its holes. -/
def tokenMeaning (raw : List Char → List Char) : Token Piece → List (Token Char)
  | .comment ps => [.comment (fillIn (fun v => escapeRegaString (raw v)) ps)]
  | .literal ps => [.literal (fillIn raw ps)]
  | .code piece => (piece.text fun v => escapeRegaString (raw v)).map .code
  | .unterminated ps => [.unterminated (fillIn raw ps)]

/-- What a template means with these values. -/
def meaning (raw : List Char → List Char) (ps : List Piece) : List (Token Char) :=
  (lex Piece.char? ps).flatMap (tokenMeaning raw)

/-- The script is at the place in its text at which the template is. -/
inductive Means (raw : List Char → List Char) : LexState Piece → LexState Char → Prop where
  | lineStart : Means raw .lineStart .lineStart
  | bang (c : Char) : Means raw (.bang (.char c)) (.bang c)
  | code : Means raw .code .code
  | comment (ps : List Piece) :
      Means raw (.comment ps) (.comment (fillIn (fun v => escapeRegaString (raw v)) ps))
  | literal (ps : List Piece) : Means raw (.literal ps) (.literal (fillIn raw ps))
  | escape (ps : List Piece) (c : Char) :
      Means raw (.escape ps (.char c)) (.escape (fillIn raw ps) c)

/-- Each hole is in a literal or in a comment. -/
def sheltered : LexState Piece → List Piece → Bool
  | _, [] => true
  | st, .char c :: ps => sheltered (next Piece.char? st (.char c)).1 ps
  | .comment text, .hole v :: ps => sheltered (.comment (text ++ [.hole v])) ps
  | .literal text, .hole v :: ps => sheltered (.literal (text ++ [.hole v])) ps
  | _, .hole _ :: _ => false

theorem fillIn_concat (fill : List Char → List Char) (ps : List Piece) (piece : Piece) :
    fillIn fill (ps ++ [piece]) = fillIn fill ps ++ piece.text fill := by
  unfold fillIn
  rw [List.flatMap_append, List.flatMap_singleton]

theorem fillIn_append (fill : List Char → List Char) (ps qs : List Piece) :
    fillIn fill (ps ++ qs) = fillIn fill ps ++ fillIn fill qs := List.flatMap_append

theorem means_codeNext (raw : List Char → List Char) (c : Char) :
    Means raw (codeNext Piece.char? (.char c)).1 (codeNext some c).1 ∧
      (codeNext some c).2 = (codeNext Piece.char? (.char c)).2.flatMap (tokenMeaning raw) := by
  unfold codeNext
  rw [show Piece.char? (.char c) = some c from rfl]
  by_cases hquote : some c = some '"'
  · rw [if_pos hquote, if_pos hquote]
    exact ⟨.literal [], rfl⟩
  · rw [if_neg hquote, if_neg hquote]
    by_cases hline : some c = some '\n'
    · rw [if_pos hline, if_pos hline]
      exact ⟨.lineStart, rfl⟩
    · rw [if_neg hline, if_neg hline]
      exact ⟨.code, rfl⟩

/-- A character of the template. -/
theorem Means.next (h : Means raw st st') (c : Char) :
    Means raw (ReGa.next Piece.char? st (.char c)).1 (ReGa.next some st' c).1 ∧
      (ReGa.next some st' c).2 =
        (ReGa.next Piece.char? st (.char c)).2.flatMap (tokenMeaning raw) := by
  have hconcat (fill : List Char → List Char) (ps : List Piece) :
      fillIn fill ps ++ [c] = fillIn fill (ps ++ [.char c]) :=
    (fillIn_concat fill ps (.char c)).symm
  have hchar : Piece.char? (.char c) = some c := rfl
  cases h with
  | lineStart =>
    simp only [ReGa.next, hchar]
    by_cases hbang : some c = some '!'
    · rw [if_pos hbang, if_pos hbang]
      exact ⟨.bang c, rfl⟩
    · rw [if_neg hbang, if_neg hbang]
      exact means_codeNext raw c
  | bang b =>
    simp only [ReGa.next, hchar]
    by_cases hhash : some c = some '#'
    · rw [if_pos hhash, if_pos hhash]
      exact ⟨.comment [], rfl⟩
    · rw [if_neg hhash, if_neg hhash]
      obtain ⟨hmeans, htokens⟩ := means_codeNext raw c
      exact ⟨hmeans, congrArg (.code b :: ·) htokens⟩
  | code => exact means_codeNext raw c
  | comment ps =>
    simp only [ReGa.next, hchar]
    by_cases hline : some c = some '\n'
    · rw [if_pos hline, if_pos hline]
      exact ⟨.lineStart, rfl⟩
    · rw [if_neg hline, if_neg hline, hconcat]
      exact ⟨.comment _, rfl⟩
  | literal ps =>
    simp only [ReGa.next, hchar]
    by_cases hquote : some c = some '"'
    · rw [if_pos hquote, if_pos hquote]
      exact ⟨.code, rfl⟩
    · rw [if_neg hquote, if_neg hquote]
      by_cases hbackslash : some c = some '\\'
      · rw [if_pos hbackslash, if_pos hbackslash]
        exact ⟨.escape ps c, rfl⟩
      · rw [if_neg hbackslash, if_neg hbackslash, hconcat]
        exact ⟨.literal _, rfl⟩
  | escape ps b =>
    simp only [ReGa.next, hchar]
    by_cases hescaped : some c = some '"' ∨ some c = some '\\'
    · rw [if_pos hescaped, if_pos hescaped, hconcat]
      exact ⟨.literal _, rfl⟩
    · have happend : fillIn raw ps ++ [b, c] = fillIn raw (ps ++ [.char b, .char c]) :=
        (fillIn_append raw ps [.char b, .char c]).symm
      rw [if_neg hescaped, if_neg hescaped, happend]
      exact ⟨.literal _, rfl⟩

theorem lexFrom_fillIn (hmeans : Means raw st st') (h : sheltered st ps = true)
    (hline : ∀ v, .hole v ∈ ps → '\n' ∉ raw v) :
    lexFrom some st' (fillIn (fun v => escapeRegaString (raw v)) ps) =
      (lexFrom Piece.char? st ps).flatMap (tokenMeaning raw) := by
  induction ps generalizing st st' with
  | nil =>
    cases hmeans with
    | escape text b =>
      show [Token.unterminated (fillIn raw text ++ [b])] =
        [Token.unterminated (fillIn raw (text ++ [.char b]))]
      rw [fillIn_concat]
      rfl
    | _ => rfl
  | cons piece ps ih =>
    have ih {st : LexState Piece} {st' : LexState Char} (hmeans : Means raw st st')
        (h : sheltered st ps = true) := ih hmeans h fun v hv => hline v (List.mem_cons_of_mem _ hv)
    cases piece with
    | char c =>
      have h : sheltered (next Piece.char? st (.char c)).1 ps = true := by
        cases st <;> exact h
      show (next some st' c).2 ++ lexFrom some (next some st' c).1 (fillIn _ ps) =
        ((next Piece.char? st _).2 ++ lexFrom Piece.char? (next Piece.char? st _).1 ps).flatMap _
      rw [List.flatMap_append, (hmeans.next c).2, ih (hmeans.next c).1 h]
    | hole v =>
      show lexFrom some st' (escapeRegaString (raw v) ++ fillIn _ ps) = _
      cases hmeans with
      | comment text =>
        have hcomment : Means raw _ _ := .comment (text ++ [.hole v])
        rw [fillIn_concat] at hcomment
        have hv : '\n' ∉ escapeRegaString (raw v) := fun hmem =>
          hline v List.mem_cons_self ((mem_escapeRegaString (by decide)).mp hmem)
        rw [lex_comment hv]
        exact ih hcomment h
      | literal text =>
        have hliteral : Means raw _ _ := .literal (text ++ [.hole v])
        rw [fillIn_concat] at hliteral
        rw [lex_escape]
        exact ih hliteral h
      | lineStart => cases h
      | bang b => cases h
      | code => cases h
      | escape text b => cases h

theorem lex_fillIn (h : sheltered .lineStart ps = true)
    (hline : ∀ v, .hole v ∈ ps → '\n' ∉ raw v) :
    lex some (fillIn (fun v => escapeRegaString (raw v)) ps) = meaning raw ps :=
  lexFrom_fillIn .lineStart h hline

end AioHomematic.Client
