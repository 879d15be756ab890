import AioHomematic.Lib.PyLiteral.Reading

/-!
# JSON

Values of RFC 8259, their texts and a reader. A `Doc` is a text with the choices that its writer
has: white space, and how each character of a string is written. What the grammar forbids cannot
be built, except that a control character may stand raw in a string; `Doc.Strict` says that none
does. `loads_text` reads every document back.

A string is its UTF-16 code units, as the escapes write them. A number is its text, and the members
of an object are kept in order.
-/

namespace AioHomematic.Lib

inductive Json where
  | null
  | bool (b : Bool)
  | num (text : List Char)
  | str (units : List Nat)
  | arr (items : List Json)
  | obj (members : List (List Nat × Json))

namespace Json

/-! ## Characters -/

def isSpace (c : Char) : Bool := c ∈ [' ', '\t', '\n', '\r']

/-- Not allowed in a string unless it is escaped. -/
def isControl (c : Char) : Bool := c.toNat < 0x20

def utf16 (c : Char) : List Nat :=
  if c.toNat < 0x10000 then [c.toNat]
  else [0xD800 + (c.toNat - 0x10000) / 0x400, 0xDC00 + (c.toNat - 0x10000) % 0x400]

def hexValue? (c : Char) : Option Nat :=
  if c.isDigit then some (c.toNat - '0'.toNat)
  else if 'a' ≤ c ∧ c ≤ 'f' then some (c.toNat - 'a'.toNat + 10)
  else if 'A' ≤ c ∧ c ≤ 'F' then some (c.toNat - 'A'.toNat + 10)
  else none

/-- The code unit of four digits. -/
def hex4? (a b c d : Char) : Option Nat := do
  return (((← hexValue? a) * 16 + (← hexValue? b)) * 16 + (← hexValue? c)) * 16 + (← hexValue? d)

/-- What stands after the backslash of a short escape, and its code unit. -/
def shortEscapes : List (Char × Nat) :=
  [('"', 0x22), ('\\', 0x5C), ('/', 0x2F), ('b', 0x8), ('f', 0xC), ('n', 0xA), ('r', 0xD), ('t', 0x9)]

/-! ## Numbers -/

inductive NumberState where
  | start
  | minus
  | zero
  | int
  | point
  | frac
  | e
  | sign
  | exp
deriving DecidableEq

namespace NumberState

def step (q : NumberState) (c : Char) : Option NumberState :=
  match q with
  | start => if c = '-' then some minus else first
  | minus => first
  | zero => tail
  | int => if c.isDigit then some int else tail
  | point => if c.isDigit then some frac else none
  | frac => if c.isDigit then some frac else mark
  | e => if c = '+' ∨ c = '-' then some sign else if c.isDigit then some exp else none
  | sign => if c.isDigit then some exp else none
  | exp => if c.isDigit then some exp else none
where
  first := if c = '0' then some zero else if c.isDigit then some int else none
  mark := if c = 'e' ∨ c = 'E' then some e else none
  tail := if c = '.' then some point else mark

def accepts (q : NumberState) : Bool := q ∈ [zero, int, frac, exp]

end NumberState

def isNumber (text : List Char) : Bool :=
  (text.foldlM NumberState.step NumberState.start).any NumberState.accepts

/-! ## Documents -/

structure Space where
  chars : List Char
  ok : ∀ c ∈ chars, isSpace c = true

structure Number where
  text : List Char
  ok : isNumber text = true

/-- A piece of a string. -/
inductive Item where
  | raw (c : Char) (ok : c ≠ '"' ∧ c ≠ '\\')
  | short (c : Char) (unit : Nat) (ok : (c, unit) ∈ shortEscapes)
  | unicode (a b c d : Char) (unit : Nat) (ok : hex4? a b c d = some unit)

mutual

inductive Doc where
  | null
  | bool (b : Bool)
  | num (n : Number)
  | str (items : List Item)
  | emptyArr (space : Space)
  | arr (elems : Elems)
  | emptyObj (space : Space)
  | obj (members : Members)

inductive Elems where
  | last (before : Space) (d : Doc) (after : Space)
  | cons (before : Space) (d : Doc) (after : Space) (elems : Elems)

inductive Members where
  | last (before : Space) (key : List Item) (colon colon' : Space) (d : Doc) (after : Space)
  | cons (before : Space) (key : List Item) (colon colon' : Space) (d : Doc) (after : Space)
      (members : Members)

end

namespace Item

def text : Item → List Char
  | raw c _ => [c]
  | short c _ _ => ['\\', c]
  | unicode a b c d _ _ => ['\\', 'u', a, b, c, d]

def units : Item → List Nat
  | raw c _ => utf16 c
  | short _ unit _ => [unit]
  | unicode _ _ _ _ unit _ => [unit]

def Strict : Item → Prop
  | raw c _ => isControl c = false
  | _ => True

end Item

/-- A string with its quotation marks. -/
def quoted (items : List Item) : List Char := '"' :: (items.flatMap Item.text ++ ['"'])

def atom : Json → List Char
  | bool true => "true".toList
  | bool false => "false".toList
  | num text => text
  | _ => "null".toList

mutual

def Doc.text : Doc → List Char
  | .null => atom null
  | .bool b => atom (bool b)
  | .num n => n.text
  | .str items => quoted items
  | .emptyArr space => '[' :: (space.chars ++ [']'])
  | .arr elems => '[' :: elems.text
  | .emptyObj space => '{' :: (space.chars ++ ['}'])
  | .obj members => '{' :: members.text

/-- With the closing bracket. -/
def Elems.text : Elems → List Char
  | .last before d after => before.chars ++ (d.text ++ (after.chars ++ [']']))
  | .cons before d after elems => before.chars ++ (d.text ++ (after.chars ++ ',' :: elems.text))

def Members.text : Members → List Char
  | .last before key colon colon' d after =>
    before.chars ++ (quoted key ++ (colon.chars ++ ':' :: (colon'.chars ++ (d.text ++
      (after.chars ++ ['}'])))))
  | .cons before key colon colon' d after members =>
    before.chars ++ (quoted key ++ (colon.chars ++ ':' :: (colon'.chars ++ (d.text ++
      (after.chars ++ ',' :: members.text)))))

end

mutual

def Doc.value : Doc → Json
  | .null => null
  | .bool b => bool b
  | .num n => num n.text
  | .str items => str (items.flatMap Item.units)
  | .emptyArr _ => arr []
  | .arr elems => arr elems.values
  | .emptyObj _ => obj []
  | .obj members => obj members.values

def Elems.values : Elems → List Json
  | .last _ d _ => [d.value]
  | .cons _ d _ elems => d.value :: elems.values

def Members.values : Members → List (List Nat × Json)
  | .last _ key _ _ d _ => [(key.flatMap Item.units, d.value)]
  | .cons _ key _ _ d _ members => (key.flatMap Item.units, d.value) :: members.values

end

mutual

/-- What `p` says of all strings and keys. -/
def Doc.All (p : List Item → Prop) : Doc → Prop
  | .str items => p items
  | .arr elems => elems.All p
  | .obj members => members.All p
  | _ => True

def Elems.All (p : List Item → Prop) : Elems → Prop
  | .last _ d _ => d.All p
  | .cons _ d _ elems => d.All p ∧ elems.All p

def Members.All (p : List Item → Prop) : Members → Prop
  | .last _ key _ _ d _ => p key ∧ d.All p
  | .cons _ key _ _ d _ members => p key ∧ d.All p ∧ members.All p

end

mutual

/-- With its strings and keys written another way. -/
def Doc.map (f : Item → Item) : Doc → Doc
  | .str items => .str (items.map f)
  | .arr elems => .arr (elems.map f)
  | .obj members => .obj (members.map f)
  | d => d

def Elems.map (f : Item → Item) : Elems → Elems
  | .last before d after => .last before (d.map f) after
  | .cons before d after elems => .cons before (d.map f) after (elems.map f)

def Members.map (f : Item → Item) : Members → Members
  | .last before key colon colon' d after =>
    .last before (key.map f) colon colon' (d.map f) after
  | .cons before key colon colon' d after members =>
    .cons before (key.map f) colon colon' (d.map f) after (members.map f)

end

/-- No control character stands raw in a string. -/
def Doc.Strict (d : Doc) : Prop := d.All fun items => ∀ i ∈ items, i.Strict

/-- A text: a document, with white space around it. -/
structure Text where
  before : Space
  doc : Doc
  after : Space

def Text.chars (t : Text) : List Char := t.before.chars ++ (t.doc.text ++ t.after.chars)

def Text.map (f : Item → Item) (t : Text) : Text := { t with doc := t.doc.map f }

/-! ## Other ways to write the strings -/

theorem units_map {f : Item → Item} (h : ∀ i, (f i).units = i.units) (items : List Item) :
    (items.map f).flatMap Item.units = items.flatMap Item.units := by
  rw [List.flatMap_map]
  exact List.flatMap_congr fun i _ => h i

mutual

theorem Doc.value_map {f : Item → Item} (h : ∀ i, (f i).units = i.units) :
    ∀ d : Doc, (d.map f).value = d.value
  | .null | .bool _ | .num _ | .emptyArr _ | .emptyObj _ => rfl
  | .str items => congrArg str (units_map h items)
  | .arr elems => congrArg arr (Elems.values_map h elems)
  | .obj members => congrArg obj (Members.values_map h members)

theorem Elems.values_map {f : Item → Item} (h : ∀ i, (f i).units = i.units) :
    ∀ elems : Elems, (elems.map f).values = elems.values
  | .last _ d _ => by
    rw [Elems.map, Elems.values, Elems.values, Doc.value_map h d]
  | .cons _ d _ elems => by
    rw [Elems.map, Elems.values, Elems.values, Doc.value_map h d, Elems.values_map h elems]

theorem Members.values_map {f : Item → Item} (h : ∀ i, (f i).units = i.units) :
    ∀ members : Members, (members.map f).values = members.values
  | .last _ key _ _ d _ => by
    rw [Members.map, Members.values, Members.values, units_map h key, Doc.value_map h d]
  | .cons _ key _ _ d _ members => by
    rw [Members.map, Members.values, Members.values, units_map h key, Doc.value_map h d,
      Members.values_map h members]

end

mutual

theorem Doc.all_map {f : Item → Item} {p : List Item → Prop} (h : ∀ items, p (List.map f items)) :
    ∀ d : Doc, (d.map f).All p
  | .null | .bool _ | .num _ | .emptyArr _ | .emptyObj _ => trivial
  | .str items => h items
  | .arr elems => Elems.all_map h elems
  | .obj members => Members.all_map h members

theorem Elems.all_map {f : Item → Item} {p : List Item → Prop} (h : ∀ items, p (List.map f items)) :
    ∀ elems : Elems, (elems.map f).All p
  | .last _ d _ => Doc.all_map h d
  | .cons _ d _ elems => ⟨Doc.all_map h d, Elems.all_map h elems⟩

theorem Members.all_map {f : Item → Item} {p : List Item → Prop}
    (h : ∀ items, p (List.map f items)) : ∀ members : Members, (members.map f).All p
  | .last _ key _ _ d _ => ⟨h key, Doc.all_map h d⟩
  | .cons _ key _ _ d _ members => ⟨h key, Doc.all_map h d, Members.all_map h members⟩

end

/-! ## Reading -/

def skip (s : List Char) : List Char := s.dropWhile isSpace

/-- A string, after its opening quotation mark. -/
def readString (strict : Bool) : List Char → Option (List Nat × List Char)
  | [] => none
  | '\\' :: 'u' :: a :: b :: c :: d :: s =>
    (hex4? a b c d).bind fun unit => (readString strict s).map fun r => (unit :: r.1, r.2)
  | '\\' :: c :: s =>
    (shortEscapes.lookup c).bind fun unit => (readString strict s).map fun r => (unit :: r.1, r.2)
  | c :: s =>
    if c = '"' then some ([], s)
    else if c = '\\' ∨ strict = true ∧ isControl c = true then none
    else (readString strict s).map fun r => (utf16 c ++ r.1, r.2)

def readAtom (word : List Char) : Option Json :=
  if word = "null".toList then some null
  else if word = "true".toList then some (bool true)
  else if word = "false".toList then some (bool false)
  else if isNumber word then some (num word)
  else none

mutual

def readValue (strict : Bool) : (fuel : Nat) → List Char → Option (Json × List Char)
  | 0, _ => none
  | _, [] => none
  | fuel + 1, c :: s =>
    if c = '"' then (readString strict s).map fun r => (str r.1, r.2)
    else if c = '[' then
      if (skip s).head? = some ']' then some (arr [], (skip s).tail)
      else (readElems strict fuel s).map fun r => (arr r.1, r.2)
    else if c = '{' then
      if (skip s).head? = some '}' then some (obj [], (skip s).tail)
      else (readMembers strict fuel s).map fun r => (obj r.1, r.2)
    else
      (readAtom ((c :: s).takeWhile isWordChar)).map fun v => (v, (c :: s).dropWhile isWordChar)

/-- The elements of an array, up to its closing bracket. -/
def readElems (strict : Bool) : (fuel : Nat) → List Char → Option (List Json × List Char)
  | 0, _ => none
  | fuel + 1, s =>
    (readValue strict fuel (skip s)).bind fun r =>
      match skip r.2 with
      | ']' :: s => some ([r.1], s)
      | ',' :: s => (readElems strict fuel s).map fun rs => (r.1 :: rs.1, rs.2)
      | _ => none

def readMembers (strict : Bool) :
    (fuel : Nat) → List Char → Option (List (List Nat × Json) × List Char)
  | 0, _ => none
  | fuel + 1, s =>
    match skip s with
    | '"' :: s =>
      (readString strict s).bind fun key =>
        match skip key.2 with
        | ':' :: s =>
          (readValue strict fuel (skip s)).bind fun r =>
            match skip r.2 with
            | '}' :: s => some ([(key.1, r.1)], s)
            | ',' :: s => (readMembers strict fuel s).map fun rs => ((key.1, r.1) :: rs.1, rs.2)
            | _ => none
        | _ => none
    | _ => none

end

/-- Read a whole text; `strict` refuses raw control characters in strings. -/
def loads (strict : Bool) (s : List Char) : Option Json :=
  match readValue strict (s.length + 1) (skip s) with
  | some (v, s) => if skip s = [] then some v else none
  | none => none

/-! ## Every document is read -/

theorem shortEscapes_ne {c : Char} {unit : Nat} (h : (c, unit) ∈ shortEscapes) :
    c ≠ 'u' ∧ shortEscapes.lookup c = some unit := by
  have hall : ∀ e ∈ shortEscapes, e.1 ≠ 'u' ∧ shortEscapes.lookup e.1 = some e.2 := by decide
  exact hall _ h

theorem readString_quote (strict : Bool) (s : List Char) :
    readString strict ('"' :: s) = some ([], s) := by
  rw [readString]
  · rfl
  · rintro _ _ _ _ _ ⟨⟩
  · rintro _ _ ⟨⟩

theorem readString_item {strict : Bool} {i : Item} (h : strict = true → i.Strict) (s : List Char) :
    readString strict (i.text ++ s) =
      (readString strict s).map fun r => (i.units ++ r.1, r.2) := by
  cases i with
  | raw c ok =>
    have hcontrol : ¬(c = '\\' ∨ strict = true ∧ isControl c = true) := by
      rintro (hc | ⟨hstrict, hc⟩)
      · exact ok.2 hc
      · have : isControl c = false := h hstrict
        rw [this] at hc
        cases hc
    show readString strict (c :: s) = _
    rw [readString, if_neg ok.1, if_neg hcontrol]
    · rfl
    · rintro _ _ _ _ _ ⟨⟩
      exact (ok.2 rfl).elim
    · rintro _ _ ⟨⟩
      exact (ok.2 rfl).elim
  | short c unit ok =>
    obtain ⟨hu, hlookup⟩ := shortEscapes_ne ok
    show readString strict ('\\' :: c :: s) = _
    rw [readString, hlookup]
    · rfl
    · rintro _ _ _ _ _ ⟨⟩
      exact (hu rfl).elim
  | unicode a b c d unit ok =>
    show readString strict ('\\' :: 'u' :: a :: b :: c :: d :: s) = _
    rw [readString, ok]
    rfl

theorem readString_items {strict : Bool} {items : List Item}
    (h : strict = true → ∀ i ∈ items, i.Strict) (rest : List Char) :
    readString strict (items.flatMap Item.text ++ '"' :: rest) =
      some (items.flatMap Item.units, rest) := by
  induction items with
  | nil => exact readString_quote strict rest
  | cons i items ih =>
    rw [List.flatMap_cons, List.append_assoc,
      readString_item fun hs => h hs i List.mem_cons_self,
      ih fun hs j hj => h hs j (List.mem_cons_of_mem _ hj)]
    rfl

theorem isWordChar_of_step {q q' : NumberState} {c : Char} (h : q.step c = some q') :
    isWordChar c = true := by
  have hall : ∀ c, c.isDigit = true ∨ c ∈ ['-', '+', '.', 'e', 'E'] → isWordChar c = true := by
    rintro c (hc | hc)
    · exact PyValue.isWordChar_of_isDigit hc
    · have hmarks : ∀ c ∈ ['-', '+', '.', 'e', 'E'], isWordChar c = true :=
        Support.forall_mem_of_all (by decide)
      exact hmarks c hc
  apply hall
  by_contra hno
  rw [not_or, List.mem_cons, List.mem_cons, List.mem_cons, List.mem_cons, List.mem_singleton] at hno
  simp only [not_or] at hno
  obtain ⟨hdigit, hminus, hplus, hpoint, he, hE⟩ := hno
  have hzero : c ≠ '0' := by
    rintro rfl
    exact hdigit (by decide)
  cases q <;> simp [NumberState.step, NumberState.step.first, NumberState.step.tail,
    NumberState.step.mark, *] at h

theorem isNumber_word {text : List Char} (h : isNumber text = true) :
    text ≠ [] ∧ ∀ c ∈ text, isWordChar c = true := by
  refine ⟨?_, ?_⟩
  · rintro rfl
    cases h
  · obtain ⟨q, hq, -⟩ := (Option.any_eq_true _ _).mp h
    have hrun : ∀ (text : List Char) (q q' : NumberState),
        text.foldlM NumberState.step q = some q' → ∀ c ∈ text, isWordChar c = true := by
      intro text
      induction text with
      | nil => intro _ _ _ c hc; cases hc
      | cons c text ih =>
        intro q q' hfold d hd
        rw [List.foldlM_cons] at hfold
        obtain ⟨q₁, hstep, hrest⟩ := Option.bind_eq_some_iff.mp hfold
        rcases List.mem_cons.mp hd with rfl | hd
        · exact isWordChar_of_step hstep
        · exact ih q₁ q' hrest d hd
    exact hrun text _ q hq

theorem skip_append (space : Space) {s : List Char} (h : ∀ c ∈ s.head?, isSpace c = false) :
    skip (space.chars ++ s) = s := by
  rw [skip, List.dropWhile_append_of_pos space.ok]
  cases s with
  | nil => rfl
  | cons c s => exact List.dropWhile_cons_of_neg (by simp [h c rfl])

/-- What begins a value. -/
def Opens (s : List Char) : Prop := ∃ c t, s = c :: t ∧ isSpace c = false ∧ c ≠ ']' ∧ c ≠ '}'

theorem Opens.append {s : List Char} (h : Opens s) (t : List Char) : Opens (s ++ t) := by
  obtain ⟨c, u, rfl, hc⟩ := h
  exact ⟨c, u ++ t, rfl, hc⟩

theorem Opens.head? {s : List Char} (h : Opens s) : ∀ c ∈ s.head?, isSpace c = false := by
  obtain ⟨c, u, rfl, hc, -⟩ := h
  rintro d ⟨⟩
  exact hc

theorem ne_of_isWordChar {c d : Char} (hc : isWordChar c = true) (hd : isWordChar d = false) :
    c ≠ d := by
  rintro rfl
  rw [hc] at hd
  cases hd

theorem opens_word {text : List Char} (hne : text ≠ []) (hword : ∀ c ∈ text, isWordChar c = true) :
    Opens text := by
  obtain ⟨c, s, rfl⟩ := List.exists_cons_of_ne_nil hne
  have hnot : ∀ d, isWordChar d = false → c ≠ d := fun _ =>
    ne_of_isWordChar (hword c List.mem_cons_self)
  refine ⟨c, s, rfl, ?_, hnot ']' (by decide), hnot '}' (by decide)⟩
  have hspaces : ∀ d ∈ [' ', '\t', '\n', '\r'], isWordChar d = false :=
    Support.forall_mem_of_all (by decide)
  exact decide_eq_false fun hmem => hnot c (hspaces c hmem) rfl

theorem Doc.opens (d : Doc) : Opens d.text := by
  cases d with
  | null => exact opens_word (by decide) (Support.forall_mem_of_all (by decide))
  | bool b => cases b <;> exact opens_word (by decide) (Support.forall_mem_of_all (by decide))
  | num n => exact opens_word (isNumber_word n.ok).1 (isNumber_word n.ok).2
  | str | emptyArr | arr | emptyObj | obj => exact ⟨_, _, rfl, by decide, by decide, by decide⟩

theorem readValue_word {strict : Bool} {text rest : List Char} (hne : text ≠ [])
    (hword : ∀ c ∈ text, isWordChar c = true) (hstop : PyValue.Stops rest) (fuel : Nat) :
    readValue strict (fuel + 1) (text ++ rest) = (readAtom text).map fun v => (v, rest) := by
  obtain ⟨htake, hdrop⟩ := PyValue.span_word hword hstop
  obtain ⟨c, s, rfl⟩ := List.exists_cons_of_ne_nil hne
  have hnot : ∀ d, isWordChar d = false → c ≠ d := fun _ =>
    ne_of_isWordChar (hword c List.mem_cons_self)
  rw [List.cons_append] at htake hdrop ⊢
  rw [readValue, if_neg (hnot '"' (by decide)), if_neg (hnot '[' (by decide)),
    if_neg (hnot '\x7b' (by decide)), htake, hdrop]

theorem readAtom_number {text : List Char} (h : isNumber text = true) :
    readAtom text = some (num text) := by
  have hnot : ∀ word : List Char, isNumber word = false → text ≠ word := by
    rintro word hword rfl
    rw [h] at hword
    cases hword
  rw [readAtom, if_neg (hnot _ (by decide)), if_neg (hnot _ (by decide)), if_neg (hnot _ (by decide)),
    if_pos h]

theorem stops_space (space : Space) {s : List Char} (h : PyValue.Stops s) :
    PyValue.Stops (space.chars ++ s) := by
  obtain ⟨chars, ok⟩ := space
  cases chars with
  | nil => exact h
  | cons c chars =>
    have hspaces : ∀ d ∈ [' ', '\t', '\n', '\r'], isWordChar d = false :=
      Support.forall_mem_of_all (by decide)
    exact PyValue.stops_cons (hspaces c (of_decide_eq_true (ok c List.mem_cons_self))) _

theorem skip_cons (space : Space) {c : Char} (h : isSpace c = false) (s : List Char) :
    skip (space.chars ++ c :: s) = c :: s := by
  apply skip_append
  rintro d ⟨⟩
  exact h

theorem skip_value (space : Space) (d : Doc) (s : List Char) :
    skip (space.chars ++ (d.text ++ s)) = d.text ++ s :=
  skip_append space (d.opens.append s).head?

theorem length_doc_pos (d : Doc) : 0 < d.text.length := by
  obtain ⟨c, s, h, -⟩ := d.opens
  rw [h]
  exact Nat.succ_pos _

/-- An array that has elements is not taken for an empty one. -/
theorem head?_elems (elems : Elems) (rest : List Char) :
    (skip (elems.text ++ rest)).head? ≠ some ']' := by
  have hopen : ∀ (before : Space) (d : Doc) (s : List Char),
      (skip (before.chars ++ (d.text ++ s))).head? ≠ some ']' := by
    intro before d s
    obtain ⟨c, t, hc, -, hne, -⟩ := d.opens
    rw [skip_value, hc]
    simpa using hne
  cases elems with
  | last before d after =>
    rw [Elems.text, List.append_assoc, List.append_assoc]
    exact hopen before d _
  | cons before d after elems =>
    rw [Elems.text, List.append_assoc, List.append_assoc]
    exact hopen before d _

theorem head?_members (members : Members) (rest : List Char) :
    (skip (members.text ++ rest)).head? ≠ some '\x7d' := by
  cases members with
  | last before key colon colon' d after =>
    rw [Members.text, List.append_assoc, quoted, List.cons_append, List.cons_append,
      skip_cons before (by decide)]
    simp
  | cons before key colon colon' d after members =>
    rw [Members.text, List.append_assoc, quoted, List.cons_append, List.cons_append,
      skip_cons before (by decide)]
    simp

mutual

/-- A document in front of what does not go on with a word. -/
theorem readValue_text {strict : Bool} : ∀ (d : Doc) (rest : List Char) (fuel : Nat),
    (strict = true → d.Strict) → d.text.length ≤ fuel → PyValue.Stops rest →
    readValue strict (fuel + 1) (d.text ++ rest) = some (d.value, rest)
  | .null, rest, fuel, _, _, hstop =>
    readValue_word (by decide) (Support.forall_mem_of_all (by decide)) hstop fuel
  | .bool true, rest, fuel, _, _, hstop =>
    readValue_word (by decide) (Support.forall_mem_of_all (by decide)) hstop fuel
  | .bool false, rest, fuel, _, _, hstop =>
    readValue_word (by decide) (Support.forall_mem_of_all (by decide)) hstop fuel
  | .num n, rest, fuel, _, _, hstop => by
    obtain ⟨hne, hword⟩ := isNumber_word n.ok
    show readValue strict (fuel + 1) (n.text ++ rest) = _
    rw [readValue_word hne hword hstop, readAtom_number n.ok]
    rfl
  | .str items, rest, fuel, hstrict, _, _ => by
    show readValue strict (fuel + 1) ('"' :: (items.flatMap Item.text ++ ['"'] ++ rest)) = _
    rw [readValue, if_pos rfl, List.append_assoc, List.singleton_append, readString_items hstrict]
    rfl
  | .emptyArr space, rest, fuel, _, _, _ => by
    have hskip : skip (space.chars ++ [']'] ++ rest) = ']' :: rest := by
      rw [List.append_assoc]
      exact skip_cons space (by decide) rest
    show readValue strict (fuel + 1) ('[' :: (space.chars ++ [']'] ++ rest)) = _
    rw [readValue, if_neg (by decide), if_pos rfl, hskip, List.head?_cons, if_pos rfl]
    rfl
  | .arr elems, rest, fuel, hstrict, hfuel, _ => by
    have hlen : elems.text.length + 1 ≤ fuel := hfuel
    show readValue strict (fuel + 1) ('[' :: (elems.text ++ rest)) = _
    rw [readValue, if_neg (by decide), if_pos rfl, if_neg (head?_elems elems rest),
      readElems_text elems rest fuel hstrict hlen]
    rfl
  | .emptyObj space, rest, fuel, _, _, _ => by
    have hskip : skip (space.chars ++ ['\x7d'] ++ rest) = '\x7d' :: rest := by
      rw [List.append_assoc]
      exact skip_cons space (by decide) rest
    show readValue strict (fuel + 1) ('\x7b' :: (space.chars ++ ['\x7d'] ++ rest)) = _
    rw [readValue, if_neg (by decide), if_neg (by decide), if_pos rfl, hskip, List.head?_cons, if_pos rfl]
    rfl
  | .obj members, rest, fuel, hstrict, hfuel, _ => by
    have hlen : members.text.length + 1 ≤ fuel := hfuel
    show readValue strict (fuel + 1) ('\x7b' :: (members.text ++ rest)) = _
    rw [readValue, if_neg (by decide), if_neg (by decide), if_pos rfl,
      if_neg (head?_members members rest), readMembers_text members rest fuel hstrict hlen]
    rfl

theorem readElems_text {strict : Bool} : ∀ (elems : Elems) (rest : List Char) (fuel : Nat),
    (strict = true → elems.All fun items => ∀ i ∈ items, i.Strict) →
    elems.text.length + 1 ≤ fuel →
    readElems strict fuel (elems.text ++ rest) = some (elems.values, rest)
  | .last before d after, rest, fuel, hstrict, hfuel => by
    simp only [Elems.text, List.length_append, List.length_singleton] at hfuel
    obtain ⟨fuel, rfl⟩ : ∃ n, fuel = n + 2 := ⟨fuel - 2, by omega⟩
    have htext : (Elems.last before d after).text ++ rest =
        before.chars ++ (d.text ++ (after.chars ++ ']' :: rest)) := by simp [Elems.text]
    have hd := readValue_text d (after.chars ++ ']' :: rest) fuel hstrict (by omega)
      (stops_space after (PyValue.stops_cons (by decide) rest))
    rw [htext, readElems, skip_value, hd]
    simp only [Option.bind_some, skip_cons after (show isSpace ']' = false by decide) rest]
    rfl
  | .cons before d after elems, rest, fuel, hstrict, hfuel => by
    simp only [Elems.text, List.length_append, List.length_cons] at hfuel
    obtain ⟨fuel, rfl⟩ : ∃ n, fuel = n + 2 := ⟨fuel - 2, by omega⟩
    have htext : (Elems.cons before d after elems).text ++ rest =
        before.chars ++ (d.text ++ (after.chars ++ ',' :: (elems.text ++ rest))) := by
      simp [Elems.text]
    have hd := readValue_text d (after.chars ++ ',' :: (elems.text ++ rest)) fuel
      (fun hs => (hstrict hs).1) (by omega) (stops_space after (PyValue.stops_cons (by decide) _))
    have hpos := length_doc_pos d
    have hrest := readElems_text elems rest (fuel + 1) (fun hs => (hstrict hs).2) (by omega)
    rw [htext, readElems, skip_value, hd]
    simp only [Option.bind_some, skip_cons after (show isSpace ',' = false by decide), hrest]
    rfl

theorem readMembers_text {strict : Bool} : ∀ (members : Members) (rest : List Char) (fuel : Nat),
    (strict = true → members.All fun items => ∀ i ∈ items, i.Strict) →
    members.text.length + 1 ≤ fuel →
    readMembers strict fuel (members.text ++ rest) = some (members.values, rest)
  | .last before key colon colon' d after, rest, fuel, hstrict, hfuel => by
    simp only [Members.text, List.length_append, List.length_cons, List.length_nil] at hfuel
    obtain ⟨fuel, rfl⟩ : ∃ n, fuel = n + 2 := ⟨fuel - 2, by omega⟩
    have htext : (Members.last before key colon colon' d after).text ++ rest =
        before.chars ++ ('"' :: (key.flatMap Item.text ++ '"' :: (colon.chars ++ ':' ::
          (colon'.chars ++ (d.text ++ (after.chars ++ '\x7d' :: rest)))))) := by
      simp [Members.text, quoted]
    have hd := readValue_text d (after.chars ++ '\x7d' :: rest) fuel (fun hs => (hstrict hs).2)
      (by omega) (stops_space after (PyValue.stops_cons (by decide) rest))
    rw [htext, readMembers]
    simp only [skip_cons before (show isSpace '"' = false by decide),
      readString_items fun hs => (hstrict hs).1, Option.bind_some,
      skip_cons colon (show isSpace ':' = false by decide), skip_value, hd,
      skip_cons after (show isSpace '\x7d' = false by decide)]
    rfl
  | .cons before key colon colon' d after members, rest, fuel, hstrict, hfuel => by
    simp only [Members.text, List.length_append, List.length_cons] at hfuel
    obtain ⟨fuel, rfl⟩ : ∃ n, fuel = n + 2 := ⟨fuel - 2, by omega⟩
    have htext : (Members.cons before key colon colon' d after members).text ++ rest =
        before.chars ++ ('"' :: (key.flatMap Item.text ++ '"' :: (colon.chars ++ ':' ::
          (colon'.chars ++ (d.text ++ (after.chars ++ ',' :: (members.text ++ rest))))))) := by
      simp [Members.text, quoted]
    have hd := readValue_text d (after.chars ++ ',' :: (members.text ++ rest)) fuel
      (fun hs => (hstrict hs).2.1) (by omega) (stops_space after (PyValue.stops_cons (by decide) _))
    have hrest := readMembers_text members rest (fuel + 1) (fun hs => (hstrict hs).2.2) (by omega)
    rw [htext, readMembers]
    simp only [skip_cons before (show isSpace '"' = false by decide),
      readString_items fun hs => (hstrict hs).1, Option.bind_some,
      skip_cons colon (show isSpace ':' = false by decide), skip_value, hd,
      skip_cons after (show isSpace ',' = false by decide), hrest]
    rfl

end

/-- A text is read as the value it was written for, by the strict reader if it is strict. -/
theorem loads_chars {strict : Bool} (t : Text) (h : strict = true → t.doc.Strict) :
    loads strict t.chars = some t.doc.value := by
  have hlen : t.doc.text.length ≤ t.chars.length := by
    simp only [Text.chars, List.length_append]
    omega
  have hafter : skip t.after.chars = [] := by
    have := skip_append t.after (show ∀ c ∈ ([] : List Char).head?, isSpace c = false from nofun)
    rwa [List.append_nil] at this
  have hstop : PyValue.Stops t.after.chars := by
    have := stops_space t.after (show PyValue.Stops [] from nofun)
    rwa [List.append_nil] at this
  have hskip : skip t.chars = t.doc.text ++ t.after.chars := skip_value t.before t.doc _
  rw [loads, hskip, readValue_text t.doc _ _ h hlen hstop]
  exact if_pos hafter

/-! ## The lenient reader reads what the strict one reads -/

theorem readString_of_strict {s : List Char} {r : List Nat × List Char}
    (h : readString true s = some r) : readString false s = some r := by
  fun_induction readString true s generalizing r with
  | case1 => cases h
  | case2 a b c d s ih =>
    obtain ⟨unit, hunit, h⟩ := Option.bind_eq_some_iff.mp h
    obtain ⟨r', hr', rfl⟩ := Option.map_eq_some_iff.mp h
    rw [readString, hunit, Option.bind_some, ih hr']
    rfl
  | case3 c s hu ih =>
    obtain ⟨unit, hunit, h⟩ := Option.bind_eq_some_iff.mp h
    obtain ⟨r', hr', rfl⟩ := Option.map_eq_some_iff.mp h
    rw [readString, hunit, Option.bind_some, ih hr']
    · rfl
    · exact hu
  | case4 s => rw [readString_quote, ← h]
  | case5 => cases h
  | case6 c s hunicode hshort hquote hraw ih =>
    obtain ⟨r', hr', rfl⟩ := Option.map_eq_some_iff.mp h
    have hslash : c ≠ '\\' := fun hc => hraw (.inl hc)
    rw [readString, if_neg hquote, if_neg, ih hr']
    · rfl
    · rintro (hc | ⟨hstrict, -⟩)
      · exact hslash hc
      · cases hstrict
    · exact hunicode
    · exact hshort

/-- With this fuel. -/
def Lenient (fuel : Nat) : Prop :=
  (∀ s r, readValue true fuel s = some r → readValue false fuel s = some r) ∧
    (∀ s r, readElems true fuel s = some r → readElems false fuel s = some r) ∧
    ∀ s r, readMembers true fuel s = some r → readMembers false fuel s = some r

theorem Lenient.readValue {fuel : Nat} (h : Lenient fuel) {s : List Char} {r : Json × List Char}
    (hr : readValue true (fuel + 1) s = some r) : readValue false (fuel + 1) s = some r := by
  obtain ⟨-, helems, hmembers⟩ := h
  cases s with
  | nil => cases hr
  | cons c s =>
    rw [Json.readValue] at hr ⊢
    split at hr
    next hc =>
      obtain ⟨r', hr', rfl⟩ := Option.map_eq_some_iff.mp hr
      rw [if_pos hc, readString_of_strict hr']
      rfl
    next hquote =>
      rw [if_neg hquote]
      split at hr
      next hc =>
        rw [if_pos hc]
        split at hr
        next hempty => rw [if_pos hempty, hr]
        next hempty =>
          obtain ⟨r', hr', rfl⟩ := Option.map_eq_some_iff.mp hr
          rw [if_neg hempty, helems _ _ hr']
          rfl
      next hbracket =>
        rw [if_neg hbracket]
        split at hr
        next hc =>
          rw [if_pos hc]
          split at hr
          next hempty => rw [if_pos hempty, hr]
          next hempty =>
            obtain ⟨r', hr', rfl⟩ := Option.map_eq_some_iff.mp hr
            rw [if_neg hempty, hmembers _ _ hr']
            rfl
        next hbrace => rw [if_neg hbrace, hr]

theorem Lenient.readElems {fuel : Nat} (h : Lenient fuel) {s : List Char}
    {r : List Json × List Char} (hr : readElems true (fuel + 1) s = some r) :
    readElems false (fuel + 1) s = some r := by
  obtain ⟨hvalue, helems, -⟩ := h
  rw [Json.readElems] at hr ⊢
  obtain ⟨v, hv, hr⟩ := Option.bind_eq_some_iff.mp hr
  rw [hvalue _ _ hv, Option.bind_some]
  split at hr
  next => exact hr
  next s hs =>
    obtain ⟨r', hr', rfl⟩ := Option.map_eq_some_iff.mp hr
    rw [helems _ _ hr']
    rfl
  next => cases hr

theorem Lenient.readMembers {fuel : Nat} (h : Lenient fuel) {s : List Char}
    {r : List (List Nat × Json) × List Char} (hr : readMembers true (fuel + 1) s = some r) :
    readMembers false (fuel + 1) s = some r := by
  obtain ⟨hvalue, -, hmembers⟩ := h
  rw [Json.readMembers] at hr ⊢
  split at hr
  next s hs =>
    obtain ⟨key, hkey, hr⟩ := Option.bind_eq_some_iff.mp hr
    rw [readString_of_strict hkey, Option.bind_some]
    split at hr
    next s hs =>
      obtain ⟨v, hv, hr⟩ := Option.bind_eq_some_iff.mp hr
      rw [hvalue _ _ hv, Option.bind_some]
      split at hr
      next => exact hr
      next s hs =>
        obtain ⟨r', hr', rfl⟩ := Option.map_eq_some_iff.mp hr
        rw [hmembers _ _ hr']
        rfl
      next => cases hr
    next => cases hr
  next => cases hr

theorem lenient (fuel : Nat) : Lenient fuel := by
  induction fuel with
  | zero =>
    refine ⟨?_, ?_, ?_⟩
    · intro s r h; cases h
    · intro s r h; cases h
    · intro s r h; cases h
  | succ fuel ih =>
    exact ⟨fun _ _ => ih.readValue, fun _ _ => ih.readElems, fun _ _ => ih.readMembers⟩

theorem loads_of_strict {s : List Char} {v : Json} (h : loads true s = some v) :
    loads false s = some v := by
  unfold loads at h ⊢
  split at h
  next hread =>
    rw [(lenient _).1 _ _ hread]
    exact h
  next => cases h

end Json

end AioHomematic.Lib
