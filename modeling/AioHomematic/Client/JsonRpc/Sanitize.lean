import AioHomematic.Lib.Json

/-!
# Control characters in the answers of the backend

The CCU writes control characters raw into the strings of its JSON. `getJsonReponse` parses an
answer that is not valid JSON once more, after `sanitizeJsonControlChars` has escaped them.

`matchString` finds what the pattern for strings matches: `matchString_eq_some_iff` says that there
is no other match. `sanitize_chars` is the result for documents, `sanitize_sanitize` for any text.
-/

namespace AioHomematic.Client.JsonRpc

open Lib

/-- `[\x00-\x1f\x7f]`. -/
def isControlChar (c : Char) : Bool := c.toNat ≤ 0x1f ∨ c.toNat = 0x7f

/-- `f"\\u{ord(c):04x}"`. -/
def escapeControlChar (c : Char) : List Char := '\\' :: 'u' :: PyValue.hex 4 c.toNat

def escapeControlCharsInString (s : List Char) : List Char :=
  s.flatMap fun c => if isControlChar c then escapeControlChar c else [c]

/--
What `(?:[^"\\]|\\.)*"` matches, without the quotation mark, and the text after it. The dot does not
match a newline.
-/
def matchString : List Char → Option (List Char × List Char)
  | [] => none
  | '\\' :: c :: s =>
    if c = '\n' then none else (matchString s).map fun m => ('\\' :: c :: m.1, m.2)
  | c :: s =>
    if c = '"' then some ([], s)
    else if c = '\\' then none
    else (matchString s).map fun m => (c :: m.1, m.2)

/-- `(?:[^"\\]|\\.)*`. -/
inductive Body : List Char → Prop where
  | nil : Body []
  | char {c : Char} {s : List Char} (hc : c ≠ '"' ∧ c ≠ '\\') (hs : Body s) : Body (c :: s)
  | pair {c : Char} {s : List Char} (hc : c ≠ '\n') (hs : Body s) : Body ('\\' :: c :: s)

theorem matchString_append {body : List Char} (h : Body body) (rest : List Char) :
    matchString (body ++ '"' :: rest) = some (body, rest) := by
  induction h with
  | nil =>
    show matchString ('"' :: rest) = _
    rw [matchString]
    · rfl
    · rintro _ _ ⟨⟩
  | @char c s hc _ ih =>
    show matchString (c :: (s ++ '"' :: rest)) = _
    rw [matchString, if_neg hc.1, if_neg hc.2, ih]
    · rfl
    · rintro _ _ ⟨⟩
      exact (hc.2 rfl).elim
  | @pair c s hc _ ih =>
    show matchString ('\\' :: c :: (s ++ '"' :: rest)) = _
    rw [matchString, if_neg hc, ih]
    rfl

/-- There is one match at most. -/
theorem matchString_eq_some_iff {s body rest : List Char} :
    matchString s = some (body, rest) ↔ Body body ∧ s = body ++ '"' :: rest := by
  refine ⟨fun h => ?_, fun ⟨hbody, hs⟩ => hs ▸ matchString_append hbody rest⟩
  fun_induction matchString s generalizing body rest with
  | case1 => cases h
  | case2 => cases h
  | case3 s c hc ih =>
    obtain ⟨⟨body, rest⟩, hm, heq⟩ := Option.map_eq_some_iff.mp h
    cases heq
    obtain ⟨hbody, hs⟩ := ih hm
    exact ⟨.pair hc hbody, by rw [hs]; rfl⟩
  | case4 s => cases h; exact ⟨.nil, rfl⟩
  | case5 => cases h
  | case6 c s _ hquote hslash ih =>
    obtain ⟨⟨body, rest⟩, hm, heq⟩ := Option.map_eq_some_iff.mp h
    cases heq
    obtain ⟨hbody, hs⟩ := ih hm
    exact ⟨.char ⟨hquote, hslash⟩ hbody, by rw [hs]; rfl⟩

theorem length_lt_of_matchString {s : List Char} {m : List Char × List Char}
    (h : matchString s = some m) : m.2.length < s.length := by
  obtain ⟨-, rfl⟩ := matchString_eq_some_iff.mp h
  simp only [List.length_append, List.length_cons]
  omega

/-- `_sanitize_json_control_chars`: each match of the pattern, from left to right. -/
def sanitizeJsonControlChars : List Char → List Char
  | [] => []
  | c :: s =>
    if c = '"' then
      match _h : matchString s with
      | some m => '"' :: (escapeControlCharsInString m.1 ++ '"' :: sanitizeJsonControlChars m.2)
      | none => '"' :: sanitizeJsonControlChars s
    else c :: sanitizeJsonControlChars s
termination_by s => s.length
decreasing_by
  · have := length_lt_of_matchString _h
    simp only [List.length_cons]
    omega
  · simp
  · simp

/-- Parsing refuses control characters in strings. -/
def loads (data : List Char) : Option Json := Json.loads true data

/-- `_get_json_reponse`, of the text of the response. -/
def getJsonReponse (data : List Char) : Option Json :=
  match loads data with
  | some v => some v
  | none => loads (sanitizeJsonControlChars data)

/-! ## One match after the other -/

theorem sanitize_match {body : List Char} (h : Body body) (rest : List Char) :
    sanitizeJsonControlChars ('"' :: (body ++ '"' :: rest)) =
      '"' :: (escapeControlCharsInString body ++ '"' :: sanitizeJsonControlChars rest) := by
  have hmatch := matchString_append h rest
  rw [sanitizeJsonControlChars, if_pos rfl]
  split
  next m hm =>
    obtain rfl := Option.some.inj (hm.symm.trans hmatch)
    rfl
  next hm => cases hm.symm.trans hmatch

theorem sanitize_quote {s : List Char} (h : matchString s = none) :
    sanitizeJsonControlChars ('"' :: s) = '"' :: sanitizeJsonControlChars s := by
  rw [sanitizeJsonControlChars, if_pos rfl]
  split
  next m hm => cases hm.symm.trans h
  next => rfl

theorem sanitize_cons {c : Char} (h : c ≠ '"') (s : List Char) :
    sanitizeJsonControlChars (c :: s) = c :: sanitizeJsonControlChars s := by
  rw [sanitizeJsonControlChars, if_neg h]

/-- Text without quotation marks stays as it is. -/
theorem sanitize_append {s : List Char} (h : '"' ∉ s) (rest : List Char) :
    sanitizeJsonControlChars (s ++ rest) = s ++ sanitizeJsonControlChars rest := by
  induction s with
  | nil => rfl
  | cons c s ih =>
    rw [List.mem_cons, not_or] at h
    rw [List.cons_append, sanitize_cons (Ne.symm h.1), ih h.2, List.cons_append]

/-! ## Sanitising twice -/

theorem hexDigits_plain (n : Nat) : ∀ c ∈ PyValue.hex 4 n,
    c ≠ '"' ∧ c ≠ '\\' ∧ isControlChar c = false := by
  have hdigit : ∀ d < 16, PyValue.hexDigit d ≠ '"' ∧ PyValue.hexDigit d ≠ '\\' ∧
      isControlChar (PyValue.hexDigit d) = false := by decide
  intro c hc
  simp only [PyValue.hex, List.mem_cons, List.not_mem_nil, or_false] at hc
  rcases hc with rfl | rfl | rfl | rfl
  all_goals exact hdigit _ (Nat.mod_lt _ (by decide))

theorem Body.append {s t : List Char} (hs : ∀ c ∈ s, c ≠ '"' ∧ c ≠ '\\') (ht : Body t) :
    Body (s ++ t) := by
  induction s with
  | nil => exact ht
  | cons c s ih =>
    exact .char (hs c List.mem_cons_self) (ih fun d hd => hs d (List.mem_cons_of_mem _ hd))

theorem body_hex (n : Nat) {s : List Char} (h : Body s) : Body (PyValue.hex 4 n ++ s) :=
  .append (fun c hc => ⟨(hexDigits_plain n c hc).1, (hexDigits_plain n c hc).2.1⟩) h

theorem escape_cons (c : Char) (s : List Char) :
    escapeControlCharsInString (c :: s) =
      (if isControlChar c then escapeControlChar c else [c]) ++ escapeControlCharsInString s :=
  List.flatMap_cons

/-- A string stays a string, with the same end. -/
theorem Body.escape {s : List Char} (h : Body s) : Body (escapeControlCharsInString s) := by
  induction h with
  | nil => exact .nil
  | @char c s hc _ ih =>
    rw [escape_cons]
    split
    · exact .pair (by decide) (body_hex _ ih)
    · exact .char hc ih
  | @pair c s hc _ ih =>
    rw [escape_cons, if_neg (by decide), List.singleton_append, escape_cons]
    split
    · -- the backslash is now the first half of an escaped one
      exact .pair (by decide) (.char (by decide) (body_hex _ ih))
    · exact .pair hc ih

theorem escape_of_plain {s : List Char} (h : ∀ c ∈ s, isControlChar c = false) :
    escapeControlCharsInString s = s := by
  induction s with
  | nil => rfl
  | cons c s ih =>
    rw [escape_cons, if_neg (by simp [h c List.mem_cons_self]),
      ih fun d hd => h d (List.mem_cons_of_mem _ hd), List.singleton_append]

theorem escape_plain (s : List Char) :
    ∀ c ∈ escapeControlCharsInString s, isControlChar c = false := by
  intro c hc
  obtain ⟨d, -, hd⟩ := List.mem_flatMap.mp hc
  split at hd
  · rcases List.mem_cons.mp hd with rfl | hd
    · decide
    · rcases List.mem_cons.mp hd with rfl | hd
      · decide
      · exact (hexDigits_plain _ c hd).2.2
  next hplain =>
    rw [List.mem_singleton.mp hd]
    simpa using hplain

/-- A quotation mark that begins no match begins none afterwards. -/
theorem matchString_sanitize {s : List Char} (h : matchString s = none) :
    matchString (sanitizeJsonControlChars s) = none := by
  have hslash : ('\\' : Char) ≠ '"' := by decide
  fun_induction matchString s with
  | case1 => rw [sanitizeJsonControlChars, matchString]
  | case2 s =>
    rw [sanitize_cons hslash, sanitize_cons (by decide), matchString]
    rfl
  | case3 c s hc ih =>
    have hnone : matchString s = none := Option.map_eq_none_iff.mp h
    have hhead : sanitizeJsonControlChars (c :: s) = c :: sanitizeJsonControlChars s := by
      by_cases hquote : c = '"'
      · rw [hquote, sanitize_quote hnone]
      · rw [sanitize_cons hquote]
    rw [sanitize_cons hslash, hhead, matchString, if_neg hc, ih hnone]
    rfl
  | case4 => cases h
  | case5 s hno =>
    cases s with
    | nil => rw [sanitize_cons hslash, sanitizeJsonControlChars]; rfl
    | cons c s => exact (hno c s rfl rfl).elim
  | case6 c s hno hquote hc ih =>
    have hnone : matchString s = none := Option.map_eq_none_iff.mp h
    rw [sanitize_cons hquote, matchString, if_neg hquote, if_neg hc, ih hnone]
    · rfl
    · intro d t hd
      exact (hc hd).elim

theorem sanitize_sanitize (s : List Char) :
    sanitizeJsonControlChars (sanitizeJsonControlChars s) = sanitizeJsonControlChars s := by
  fun_induction sanitizeJsonControlChars s with
  | case1 => rw [sanitizeJsonControlChars]
  | case2 s m hm ih =>
    obtain ⟨hbody, -⟩ := matchString_eq_some_iff.mp (show matchString s = some (m.1, m.2) from hm)
    rw [sanitize_match hbody.escape, ih, escape_of_plain (escape_plain m.1)]
  | case3 s hm ih => rw [sanitize_quote (matchString_sanitize hm), ih]
  | case4 c s hc ih => rw [sanitize_cons hc, ih]

/-! ## Documents -/

theorem hex4?_hexDigit {n : Nat} (h : n < 0x10000) :
    Json.hex4? (PyValue.hexDigit (n / 16 ^ 3 % 16)) (PyValue.hexDigit (n / 16 ^ 2 % 16))
      (PyValue.hexDigit (n / 16 ^ 1 % 16)) (PyValue.hexDigit (n / 16 ^ 0 % 16)) = some n := by
  have hdigit : ∀ d < 16, Json.hexValue? (PyValue.hexDigit d) = some d := by decide
  have hvalue : ∀ m, Json.hexValue? (PyValue.hexDigit (m % 16)) = some (m % 16) :=
    fun m => hdigit _ (Nat.mod_lt _ (by decide))
  rw [Json.hex4?, hvalue, hvalue, hvalue, hvalue]
  show some _ = some n
  congr 1
  omega

theorem toNat_lt_of_control {c : Char} (h : isControlChar c = true) : c.toNat < 0x80 := by
  have : c.toNat ≤ 0x1f ∨ c.toNat = 0x7f := of_decide_eq_true h
  omega

/-- A raw control character, with an escape instead. -/
def escapeItem : Json.Item → Json.Item
  | .raw c ok =>
    if h : isControlChar c = true then
      .unicode _ _ _ _ c.toNat (hex4?_hexDigit ((toNat_lt_of_control h).trans (by decide)))
    else .raw c ok
  | i => i

theorem escapeItem_control {c : Char} (ok : c ≠ '"' ∧ c ≠ '\\') (h : isControlChar c = true) :
    escapeItem (.raw c ok) =
      .unicode _ _ _ _ c.toNat (hex4?_hexDigit ((toNat_lt_of_control h).trans (by decide))) :=
  dif_pos h

theorem escapeItem_plain {c : Char} (ok : c ≠ '"' ∧ c ≠ '\\') (h : ¬isControlChar c = true) :
    escapeItem (.raw c ok) = .raw c ok :=
  dif_neg h

theorem units_escapeItem (i : Json.Item) : (escapeItem i).units = i.units := by
  cases i with
  | raw c ok =>
    by_cases h : isControlChar c = true
    · have hlt := toNat_lt_of_control h
      rw [escapeItem_control ok h]
      show [c.toNat] = Json.utf16 c
      rw [Json.utf16, if_pos (by omega)]
    · rw [escapeItem_plain ok h]
  | short | unicode => rfl

theorem strict_escapeItem (i : Json.Item) : (escapeItem i).Strict := by
  cases i with
  | raw c ok =>
    by_cases h : isControlChar c = true
    · rw [escapeItem_control ok h]
      trivial
    · rw [escapeItem_plain ok h]
      show Json.isControl c = false
      unfold isControlChar at h
      unfold Json.isControl
      simp only [decide_eq_true_eq, not_or] at h
      simp only [decide_eq_false_iff_not]
      omega
  | short | unicode => trivial

/-- What stands behind the backslash of an escape. -/
theorem shortEscapes_plain {c : Char} {unit : Nat} (h : (c, unit) ∈ Json.shortEscapes) :
    c ≠ '\n' ∧ isControlChar c = false := by
  have hall : ∀ e ∈ Json.shortEscapes, e.1 ≠ '\n' ∧ isControlChar e.1 = false := by decide
  exact hall _ h

theorem hexValue?_plain {c : Char} {n : Nat} (h : Json.hexValue? c = some n) :
    c ≠ '"' ∧ c ≠ '\\' ∧ isControlChar c = false := by
  have hnone : ∀ d : Char, Json.hexValue? d = none → c ≠ d := by
    rintro d hd rfl
    cases hd.symm.trans h
  have hcontrols : ∀ m < 0x80, isControlChar (Char.ofNat m) = true →
      Json.hexValue? (Char.ofNat m) = none := by decide
  refine ⟨hnone _ (by decide), hnone _ (by decide), Bool.eq_false_iff.mpr fun hc => ?_⟩
  have hc' := hcontrols c.toNat (toNat_lt_of_control hc)
  rw [Char.ofNat_toNat] at hc'
  exact hnone c (hc' hc) rfl

theorem hex4?_plain {a b c d : Char} {n : Nat} (h : Json.hex4? a b c d = some n) :
    ∀ e ∈ [a, b, c, d], e ≠ '"' ∧ e ≠ '\\' ∧ isControlChar e = false := by
  obtain ⟨_, ha, h⟩ := Option.bind_eq_some_iff.mp h
  obtain ⟨_, hb, h⟩ := Option.bind_eq_some_iff.mp h
  obtain ⟨_, hc, h⟩ := Option.bind_eq_some_iff.mp h
  obtain ⟨_, hd, -⟩ := Option.bind_eq_some_iff.mp h
  intro e he
  simp only [List.mem_cons, List.not_mem_nil, or_false] at he
  rcases he with rfl | rfl | rfl | rfl
  · exact hexValue?_plain ha
  · exact hexValue?_plain hb
  · exact hexValue?_plain hc
  · exact hexValue?_plain hd

theorem text_escapeItem (i : Json.Item) :
    (escapeItem i).text = escapeControlCharsInString i.text := by
  cases i with
  | raw c ok =>
    by_cases h : isControlChar c = true
    · rw [escapeItem_control ok h, Json.Item.text, escape_cons, if_pos h]
      rfl
    · rw [escapeItem_plain ok h, Json.Item.text, escape_cons, if_neg h]
      rfl
  | short c unit ok =>
    refine (escape_of_plain fun d hd => ?_).symm
    rcases List.mem_cons.mp hd with rfl | hd
    · decide
    · rw [List.mem_singleton.mp hd]
      exact (shortEscapes_plain ok).2
  | unicode a b c d unit ok =>
    refine (escape_of_plain fun e he => ?_).symm
    rcases List.mem_cons.mp he with rfl | he
    · decide
    · rcases List.mem_cons.mp he with rfl | he
      · decide
      · exact (hex4?_plain ok e he).2.2

theorem body_items (items : List Json.Item) : Body (items.flatMap Json.Item.text) := by
  induction items with
  | nil => exact .nil
  | cons i items ih =>
    rw [List.flatMap_cons]
    cases i with
    | raw c ok => exact .char ok ih
    | short c unit ok => exact .pair (shortEscapes_plain ok).1 ih
    | unicode a b c d unit ok =>
      refine .pair (by decide) (Body.append (s := [a, b, c, d]) (fun e he => ?_) ih)
      exact ⟨(hex4?_plain ok e he).1, (hex4?_plain ok e he).2.1⟩

theorem sanitize_quoted (items : List Json.Item) (rest : List Char) :
    sanitizeJsonControlChars (Json.quoted items ++ rest) =
      Json.quoted (items.map escapeItem) ++ sanitizeJsonControlChars rest := by
  have htext : (items.map escapeItem).flatMap Json.Item.text =
      escapeControlCharsInString (items.flatMap Json.Item.text) := by
    rw [List.flatMap_map, escapeControlCharsInString, List.flatMap_assoc]
    exact List.flatMap_congr fun i _ => text_escapeItem i
  have happend : Json.quoted items ++ rest =
      '"' :: (items.flatMap Json.Item.text ++ '"' :: rest) := by simp [Json.quoted]
  rw [happend, sanitize_match (body_items items), Json.quoted, htext]
  simp

theorem space_plain (space : Json.Space) : '"' ∉ space.chars :=
  fun h => absurd (space.ok _ h) (by decide)

theorem sanitize_space (space : Json.Space) (rest : List Char) :
    sanitizeJsonControlChars (space.chars ++ rest) =
      space.chars ++ sanitizeJsonControlChars rest :=
  sanitize_append (space_plain space) rest

mutual

/-- A document after it has been sanitised: the same, with the raw control characters escaped. -/
theorem sanitize_doc : ∀ (d : Json.Doc) (rest : List Char),
    sanitizeJsonControlChars (d.text ++ rest) =
      (d.map escapeItem).text ++ sanitizeJsonControlChars rest
  | .null, rest => sanitize_append (by decide) rest
  | .bool true, rest => sanitize_append (by decide) rest
  | .bool false, rest => sanitize_append (by decide) rest
  | .num n, rest => by
    refine sanitize_append (fun h => ?_) rest
    exact absurd ((Json.isNumber_word n.ok).2 _ h) (by decide)
  | .str items, rest => sanitize_quoted items rest
  | .emptyArr space, rest => by
    show sanitizeJsonControlChars ('[' :: (space.chars ++ [']'] ++ rest)) = _
    rw [sanitize_cons (by decide), List.append_assoc, sanitize_space, List.singleton_append,
      sanitize_cons (by decide)]
    simp [Json.Doc.map, Json.Doc.text]
  | .arr elems, rest => by
    show sanitizeJsonControlChars ('[' :: (elems.text ++ rest)) = _
    rw [sanitize_cons (by decide), sanitize_elems elems rest]
    rfl
  | .emptyObj space, rest => by
    show sanitizeJsonControlChars ('\x7b' :: (space.chars ++ ['\x7d'] ++ rest)) = _
    rw [sanitize_cons (by decide), List.append_assoc, sanitize_space, List.singleton_append,
      sanitize_cons (by decide)]
    simp [Json.Doc.map, Json.Doc.text]
  | .obj members, rest => by
    show sanitizeJsonControlChars ('\x7b' :: (members.text ++ rest)) = _
    rw [sanitize_cons (by decide), sanitize_members members rest]
    rfl

theorem sanitize_elems : ∀ (elems : Json.Elems) (rest : List Char),
    sanitizeJsonControlChars (elems.text ++ rest) =
      (elems.map escapeItem).text ++ sanitizeJsonControlChars rest
  | .last before d after, rest => by
    simp only [Json.Elems.text, Json.Elems.map, List.append_assoc, List.singleton_append,
      sanitize_space, sanitize_doc d]
    rw [sanitize_cons (by decide)]
  | .cons before d after elems, rest => by
    simp only [Json.Elems.text, Json.Elems.map, List.append_assoc, List.cons_append,
      sanitize_space, sanitize_doc d]
    rw [sanitize_cons (by decide), sanitize_elems elems rest]

theorem sanitize_members : ∀ (members : Json.Members) (rest : List Char),
    sanitizeJsonControlChars (members.text ++ rest) =
      (members.map escapeItem).text ++ sanitizeJsonControlChars rest
  | .last before key colon colon' d after, rest => by
    simp only [Json.Members.text, Json.Members.map, List.append_assoc, List.cons_append,
      List.nil_append, sanitize_space, sanitize_quoted]
    rw [sanitize_cons (by decide)]
    simp only [sanitize_space, sanitize_doc d]
    rw [sanitize_cons (by decide)]
  | .cons before key colon colon' d after members, rest => by
    simp only [Json.Members.text, Json.Members.map, List.append_assoc, List.cons_append,
      sanitize_space, sanitize_quoted]
    rw [sanitize_cons (by decide)]
    simp only [sanitize_space, sanitize_doc d]
    rw [sanitize_cons (by decide), sanitize_members members rest]

end

theorem sanitize_chars (t : Json.Text) :
    sanitizeJsonControlChars t.chars = (t.map escapeItem).chars := by
  have hnil : sanitizeJsonControlChars [] = [] := by rw [sanitizeJsonControlChars]
  have hafter : sanitizeJsonControlChars t.after.chars = t.after.chars := by
    have := sanitize_space t.after []
    rwa [hnil, List.append_nil] at this
  rw [Json.Text.chars, sanitize_space, sanitize_doc, hafter]
  rfl

theorem loads_sanitize (t : Json.Text) :
    loads (sanitizeJsonControlChars t.chars) = some t.doc.value := by
  have hstrict : (t.map escapeItem).doc.Strict := by
    refine Json.Doc.all_map (fun items i hi => ?_) t.doc
    obtain ⟨j, -, rfl⟩ := List.mem_map.mp hi
    exact strict_escapeItem j
  rw [sanitize_chars, loads, Json.loads_chars _ fun _ => hstrict]
  exact congrArg some (Json.Doc.value_map units_escapeItem t.doc)

/--
The value of an answer comes out of its text, however its strings are written; a text that is valid
without this is read as before; outside the strings nothing changes; and twice is once.
-/
theorem sanitizeJsonControlChars_spec (t : Json.Text) :
    loads (sanitizeJsonControlChars t.chars) = some t.doc.value ∧
      (t.doc.Strict → loads (sanitizeJsonControlChars t.chars) = loads t.chars) ∧
      sanitizeJsonControlChars t.chars = (t.map escapeItem).chars ∧
      ∀ data, sanitizeJsonControlChars (sanitizeJsonControlChars data) =
        sanitizeJsonControlChars data := by
  refine ⟨loads_sanitize t, fun hstrict => ?_, sanitize_chars t, sanitize_sanitize⟩
  rw [loads_sanitize, loads, Json.loads_chars t fun _ => hstrict]

/-- So the backend may write control characters as it likes. -/
theorem getJsonReponse_chars (t : Json.Text) : getJsonReponse t.chars = some t.doc.value := by
  unfold getJsonReponse
  split
  next v hv =>
    have hread : Json.loads false t.chars = some t.doc.value := Json.loads_chars t nofun
    rw [Json.loads_of_strict hv] at hread
    exact hread
  next => exact loads_sanitize t

end AioHomematic.Client.JsonRpc
