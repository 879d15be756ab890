import AioHomematic.Lib.PyLiteral
import Mathlib.Tactic.Ring

/-!
# Reading a `repr` again

`unrepr_repr` is the rule to use: the `repr` of a value that can be written as a literal is read
as this value. In front of more text, `readValue_repr` needs a symbol that ends a word.
-/

namespace AioHomematic.Lib.PyValue

open Support

/-! ## Strings -/

theorem hexValue?_hexDigit : ∀ d < 16, hexValue? (hexDigit d) = some d := by decide

theorem readHex_hex (width acc n : Nat) (s : List Char) :
    readHex width acc (hex width n ++ s) = some (acc * 16 ^ width + n % 16 ^ width, s) := by
  induction width generalizing acc with
  | zero => simp [readHex, hex, Nat.mod_one]
  | succ width ih =>
    have hdigit := hexValue?_hexDigit (n / 16 ^ width % 16) (Nat.mod_lt _ (by decide))
    rw [hex, List.cons_append, readHex, hdigit, Option.bind_some, ih, Nat.mod_pow_succ]
    refine congrArg (fun n => some (n, s)) ?_
    ring

theorem readCodePoint_hex (width : Nat) {c : Char} (h : c.toNat < 16 ^ width) (s : List Char) :
    readCodePoint width (hex width c.toNat ++ s) = some (c, s) := by
  have hvalid : c.toNat.isValidChar := c.valid
  rw [readCodePoint, readHex_hex, Option.bind_some, Nat.mod_eq_of_lt h]
  simp only [Nat.zero_mul, Nat.zero_add, if_pos hvalid, Char.ofNat_toNat]

/-- One character, escaped or not. -/
theorem readStr_escapeChar {printable : Char → Bool} {quote : Char}
    (hquote : quote = '\'' ∨ quote = '"') (c : Char) (fuel : Nat) (s : List Char) :
    readStr quote (fuel + 1) (escapeChar printable quote c ++ s) =
      (readStr quote fuel s).map fun t => (c :: t.1, t.2) := by
  have hback : '\\' ≠ quote := by rintro rfl; revert hquote; decide
  have hescaped : ∀ {s' t : List Char}, unescape s' = some (c, t) →
      readStr quote (fuel + 1) ('\\' :: s') =
        (readStr quote fuel t).map fun t => (c :: t.1, t.2) := by
    intro s' t h
    rw [readStr, if_neg hback, if_pos rfl, h, Option.bind_some]
  have hplain : c ≠ quote → c ≠ '\\' → ¬ c.toNat < 0x20 →
      readStr quote (fuel + 1) ([c] ++ s) =
        (readStr quote fuel s).map fun t => (c :: t.1, t.2) := by
    intro hq hb hlow
    rw [List.singleton_append, readStr, if_neg hq, if_neg hb, if_neg hlow]
  unfold escapeChar
  split
  next h =>
    refine hescaped ?_
    rcases h with rfl | rfl
    · rcases hquote with rfl | rfl <;> rfl
    · rfl
  next hnot =>
    rw [not_or] at hnot
    split
    next h => exact hescaped (h ▸ rfl)
    split
    next h => exact hescaped (h ▸ rfl)
    split
    next h => exact hescaped (h ▸ rfl)
    split
    next h => exact hplain hnot.1 hnot.2 (by omega)
    split
    next h => exact hplain hnot.1 hnot.2 (by omega)
    have hlarge : c.toNat < 16 ^ 8 := by
      have hlt : c.toNat < 2 ^ 32 := c.val.toNat_lt
      omega
    split
    next h => exact hescaped (readCodePoint_hex 2 (by omega) s)
    split
    next h => exact hescaped (readCodePoint_hex 4 (by omega) s)
    · exact hescaped (readCodePoint_hex 8 hlarge s)

theorem escapeChar_ne_nil (printable : Char → Bool) (quote c : Char) :
    escapeChar printable quote c ≠ [] := by
  unfold escapeChar
  repeat' split
  all_goals exact List.cons_ne_nil _ _

theorem readStr_flatMap {printable : Char → Bool} {quote : Char}
    (hquote : quote = '\'' ∨ quote = '"') (s rest : List Char) {fuel : Nat}
    (hfuel : (s.flatMap (escapeChar printable quote)).length < fuel) :
    readStr quote fuel (s.flatMap (escapeChar printable quote) ++ quote :: rest) =
      some (s, rest) := by
  induction s generalizing fuel with
  | nil =>
    obtain ⟨fuel, rfl⟩ := Nat.exists_eq_add_one_of_ne_zero (Nat.ne_of_gt hfuel)
    rw [List.flatMap_nil, List.nil_append, readStr, if_pos rfl]
  | cons c s ih =>
    rw [List.flatMap_cons, List.length_append] at hfuel
    have hpos := List.length_pos_iff.mpr (escapeChar_ne_nil printable quote c)
    obtain ⟨fuel, rfl⟩ := Nat.exists_eq_add_one_of_ne_zero (n := fuel) (by omega)
    rw [List.flatMap_cons, List.append_assoc, readStr_escapeChar hquote, ih (by omega)]
    rfl

theorem quoteOf_eq (s : List Char) : quoteOf s = '\'' ∨ quoteOf s = '"' := by
  unfold quoteOf
  split
  · exact .inr rfl
  · exact .inl rfl

/-! ## Words -/

variable {F : Type} [FiniteFloat F]

theorem decimal_digits (n : Int) : ∃ digits : List Char, digits ≠ [] ∧
    (∀ c ∈ digits, c.isDigit = true) ∧
    (decimal n = digits ∧ Nat.ofDigitChars 10 digits 0 = n ∨
      decimal n = '-' :: digits ∧ -(Nat.ofDigitChars 10 digits 0 : Int) = n) := by
  have hdigits : ∀ n : Nat, ∀ c ∈ Nat.toDigits 10 n, c.isDigit = true := fun n c hc =>
    Nat.isDigit_of_mem_toDigits (by decide) (by decide) hc
  cases n with
  | ofNat n =>
    exact ⟨_, Nat.toDigits_ne_nil, hdigits n, .inl ⟨rfl, by rw [Nat.ofDigitChars_ten_toDigits]; rfl⟩⟩
  | negSucc n =>
    exact ⟨_, Nat.toDigits_ne_nil, hdigits (n + 1),
      .inr ⟨rfl, by rw [Nat.ofDigitChars_ten_toDigits]; rfl⟩⟩

theorem readInt_decimal (n : Int) : readInt (decimal n) = some n := by
  obtain ⟨digits, hne, hdigits, ⟨htext, hn⟩ | ⟨htext, hn⟩⟩ := decimal_digits n
  · have hhead : digits.head? ≠ some '-' := by
      intro hhead
      have := hdigits '-' (List.mem_of_head? hhead)
      revert this
      decide
    rw [htext, readInt]
    simp only [if_neg hhead, hn, htext, if_true]
  · rw [htext, readInt]
    simp only [List.head?_cons, if_true, List.tail_cons, hn, htext]

theorem isWordChar_of_isDigit {c : Char} (h : c.isDigit = true) : isWordChar c = true := by
  simp [isWordChar, Char.isAlphanum, h]

/-- The text after a word begins with another symbol. -/
def Stops (rest : List Char) : Prop := ∀ c ∈ rest.head?, isWordChar c = false

theorem span_word {text rest : List Char} (hword : ∀ c ∈ text, isWordChar c = true)
    (hstop : Stops rest) :
    (text ++ rest).takeWhile isWordChar = text ∧ (text ++ rest).dropWhile isWordChar = rest := by
  rw [List.takeWhile_append_of_pos hword, List.dropWhile_append_of_pos hword]
  cases rest with
  | nil => simp
  | cons d rest =>
    have hd : isWordChar d = false := hstop d rfl
    simp [hd]

theorem readValue_word {text rest : List Char} (hne : text ≠ [])
    (hword : ∀ c ∈ text, isWordChar c = true) (hstop : Stops rest) (fuel : Nat) :
    readValue (fuel + 1) (text ++ rest) = (readAtom (F := F) text).map fun v => (v, rest) := by
  obtain ⟨c, s, rfl⟩ := List.exists_cons_of_ne_nil hne
  have hc := hword c List.mem_cons_self
  have hopen : ∀ d, isWordChar d = false → c ≠ d := by
    rintro d hd rfl
    rw [hc] at hd
    cases hd
  have htake : (c :: (s ++ rest)).takeWhile isWordChar = c :: s ∧
      (c :: (s ++ rest)).dropWhile isWordChar = rest := span_word hword hstop
  rw [List.cons_append, readValue, if_neg (hopen '(' (by decide)), if_neg (hopen '{' (by decide)),
    if_neg, htake.1, htake.2]
  · rintro (h | h)
    · exact hopen '\'' (by decide) h
    · exact hopen '"' (by decide) h

/-- What begins like a number is not the name of a constant. -/
theorem readAtom_number {text : List Char}
    (h : ∃ c s, text = c :: s ∧ (c.isDigit = true ∨ c = '-')) :
    readAtom text = readNumber (F := F) text := by
  have hnot : ∀ (word : List Char) (d : Char), word.head? = some d →
      ¬(d.isDigit = true ∨ d = '-') → text ≠ word := by
    rintro word d hd hnumber rfl
    obtain ⟨c, s, rfl, hc⟩ := h
    exact hnumber (Option.some_inj.mp hd ▸ hc)
  rw [readAtom, if_neg (hnot _ 'T' rfl (by decide)), if_neg (hnot _ 'F' rfl (by decide)),
    if_neg (hnot _ 'N' rfl (by decide))]

theorem readAtom_int (n : Int) : readAtom (decimal n) = some (int (F := F) n) := by
  have hhead : ∃ c s, decimal n = c :: s ∧ (c.isDigit = true ∨ c = '-') := by
    obtain ⟨digits, hne, hdigits, ⟨htext, -⟩ | ⟨htext, -⟩⟩ := decimal_digits n
    · obtain ⟨c, s, rfl⟩ := List.exists_cons_of_ne_nil hne
      exact ⟨c, s, htext, .inl (hdigits c List.mem_cons_self)⟩
    · exact ⟨'-', digits, htext, .inr rfl⟩
  rw [readAtom_number hhead, readNumber, readInt_decimal]

theorem readAtom_float (x : F) :
    readAtom (FiniteFloat.text x) = some (float (.finite x)) := by
  -- an integer has neither a point nor an exponent
  have hint : readInt (FiniteFloat.text x) = Option.none := by
    rw [readInt]
    refine if_neg fun htext => ?_
    have hchars : ∀ c ∈ FiniteFloat.text x, c.isDigit = true ∨ c = '-' := by
      rw [← htext]
      obtain ⟨digits, -, hdigits, ⟨heq, -⟩ | ⟨heq, -⟩⟩ := decimal_digits _
      · rw [heq]
        exact fun c hc => .inl (hdigits c hc)
      · rw [heq]
        intro c hc
        exact (List.mem_cons.mp hc).symm.imp_left (hdigits c)
    obtain hmark | hmark := FiniteFloat.text_mark x
    · exact absurd (hchars _ hmark) (by decide)
    · exact absurd (hchars _ hmark) (by decide)
  rw [readAtom_number (FiniteFloat.text_head x), readNumber, hint, FiniteFloat.read_text]
  rfl

/-! ## Values -/

mutual

/-- A value without lists, sets, datetimes and foreign values. -/
def isPlain : PyValue F → Bool
  | datetime _ => false
  | foreign _ => false
  | list _ => false
  | set _ => false
  | tuple xs => arePlain xs
  | dict es => decide (KeysOk (es.map Prod.fst)) && entriesPlain es
  | _ => true

def arePlain : List (PyValue F) → Bool
  | [] => true
  | x :: xs => isPlain x && arePlain xs

def entriesPlain : List (PyValue F × PyValue F) → Bool
  | [] => true
  | (k, v) :: es => isPlain k && isPlain v && entriesPlain es

end

mutual

/-- A plain value without infinities and NaNs. -/
def isFinite : PyValue F → Bool
  | float (.finite _) => true
  | float _ => false
  | tuple xs => areFinite xs
  | dict es => entriesFinite es
  | _ => true

def areFinite : List (PyValue F) → Bool
  | [] => true
  | x :: xs => isFinite x && areFinite xs

def entriesFinite : List (PyValue F × PyValue F) → Bool
  | [] => true
  | (k, v) :: es => isFinite k && isFinite v && entriesFinite es

end

theorem stops_cons {c : Char} (h : isWordChar c = false) (s : List Char) : Stops (c :: s) := by
  intro d hd
  exact Option.some_inj.mp hd ▸ h

theorem stops_reprItems (printable : Char → Bool) (xs : List (PyValue F)) (rest : List Char) :
    Stops (reprItems printable xs ++ rest) := by
  cases xs <;> exact stops_cons (by decide) _

theorem stops_reprEntries (printable : Char → Bool) (es : List (PyValue F × PyValue F))
    (rest : List Char) : Stops (reprEntries printable es ++ rest) := by
  cases es <;> exact stops_cons (by decide) _

theorem readValue_str (printable : Char → Bool) (s : String) (rest : List Char) {fuel : Nat}
    (hfuel : 2 * (reprStr printable s.toList).length ≤ fuel) :
    readValue fuel (reprStr printable s.toList ++ rest) = some (str (F := F) s, rest) := by
  obtain ⟨fuel, rfl⟩ : ∃ n, fuel = n + 1 := ⟨fuel - 1, by simp [reprStr] at hfuel; omega⟩
  have hquote := quoteOf_eq s.toList
  have hread : readStr (quoteOf s.toList) fuel
      (s.toList.flatMap (escapeChar printable (quoteOf s.toList)) ++
        quoteOf s.toList :: rest) = some (s.toList, rest) := by
    apply readStr_flatMap hquote
    simp only [reprStr, List.length_cons, List.length_append] at hfuel
    omega
  have hne : ∀ d, d ≠ '\'' → d ≠ '"' → quoteOf s.toList ≠ d := by
    rintro d h₁ h₂ rfl
    exact hquote.elim h₁ h₂
  rw [reprStr, List.cons_append, List.append_assoc, List.singleton_append, readValue,
    if_neg (hne '(' (by decide) (by decide)), if_neg (hne '{' (by decide) (by decide)),
    if_pos hquote, hread]
  simp

/-- What is neither a string nor a container is one word. -/
theorem readValue_atom {v : PyValue F} {text : List Char} (htext : atomText v = text)
    (hne : text ≠ []) (hword : ∀ c ∈ text, isWordChar c = true) {fuel : Nat}
    (hfuel : 2 * (atomText v).length ≤ fuel) {rest : List Char} (hstop : Stops rest) :
    readValue fuel (atomText v ++ rest) = (readAtom (F := F) text).map fun v => (v, rest) := by
  subst htext
  have hpos := List.length_pos_iff.mpr hne
  obtain ⟨fuel, rfl⟩ : ∃ n, fuel = n + 1 := ⟨fuel - 1, by omega⟩
  exact readValue_word hne hword hstop fuel

theorem decimal_word (n : Int) : decimal n ≠ [] ∧ ∀ c ∈ decimal n, isWordChar c = true := by
  obtain ⟨digits, hne, hdigits, ⟨htext, -⟩ | ⟨htext, -⟩⟩ := decimal_digits n
  · rw [htext]
    exact ⟨hne, fun c hc => isWordChar_of_isDigit (hdigits c hc)⟩
  · rw [htext]
    refine ⟨List.cons_ne_nil _ _, fun c hc => ?_⟩
    obtain rfl | hmem := List.mem_cons.mp hc
    · decide
    · exact isWordChar_of_isDigit (hdigits c hmem)

theorem text_ne_nil (x : F) : FiniteFloat.text x ≠ [] := by
  obtain ⟨c, s, htext, -⟩ := FiniteFloat.text_head x
  rw [htext]
  exact List.cons_ne_nil c s

/-- A value does not begin with a closing bracket. -/
theorem repr_head {printable : Char → Bool} {v : PyValue F} (h : isPlain v = true) :
    ∃ c s, repr printable v = c :: s ∧ c ≠ ')' ∧ c ≠ '\x7d' := by
  have hword : ∀ {text : List Char}, text ≠ [] → (∀ c ∈ text, isWordChar c = true) →
      ∃ c s, text = c :: s ∧ c ≠ ')' ∧ c ≠ '\x7d' := by
    intro text hne hword
    obtain ⟨c, s, rfl⟩ := List.exists_cons_of_ne_nil hne
    have hc := hword c List.mem_cons_self
    refine ⟨c, s, rfl, ?_, ?_⟩ <;> (rintro rfl; revert hc; decide)
  cases v with
  | str s =>
    refine ⟨quoteOf s.toList, _, rfl, ?_⟩
    obtain hquote | hquote := quoteOf_eq s.toList <;> rw [hquote] <;> decide
  | int n => exact hword (decimal_word n).1 (decimal_word n).2
  | float x =>
    cases x with
    | finite x => exact hword (text_ne_nil x) (FiniteFloat.text_word x)
    | inf => exact ⟨_, _, rfl, by decide⟩
    | negInf => exact ⟨_, _, rfl, by decide⟩
    | nan => exact ⟨_, _, rfl, by decide⟩
  | bool b => cases b <;> exact ⟨_, _, rfl, by decide⟩
  | none => exact ⟨_, _, rfl, by decide⟩
  | datetime d => cases h
  | foreign text => cases h
  | list xs => cases h
  | set xs => cases h
  | tuple xs =>
    match xs with
    | [] => exact ⟨_, _, rfl, by decide⟩
    | [x] => exact ⟨_, _, rfl, by decide⟩
    | x :: y :: ys => exact ⟨_, _, rfl, by decide⟩
  | dict es =>
    match es with
    | [] => exact ⟨_, _, rfl, by decide⟩
    | (k, v) :: es => exact ⟨_, _, rfl, by decide⟩

theorem head?_repr {printable : Char → Bool} {v : PyValue F} (h : isPlain v = true)
    (s : List Char) : (repr printable v ++ s).head? ≠ some ')' ∧
      (repr printable v ++ s).head? ≠ some '\x7d' := by
  obtain ⟨c, t, htext, h₁, h₂⟩ : ∃ c t, repr printable v = c :: t ∧ c ≠ ')' ∧ c ≠ '\x7d' :=
    repr_head h
  rw [htext]
  exact ⟨fun heq => h₁ (Option.some_inj.mp heq), fun heq => h₂ (Option.some_inj.mp heq)⟩

/-- Infinities and NaNs are read as nothing. -/
theorem readAtom_name {s : List Char} (h : s ∈ ["inf".toList, "-inf".toList, "nan".toList]) :
    readAtom (F := F) s = Option.none := by
  have hname : ∀ s ∈ ["inf".toList, "-inf".toList, "nan".toList],
      s ≠ "True".toList ∧ s ≠ "False".toList ∧ s ≠ "None".toList ∧ readInt s = Option.none := by
    decide
  obtain ⟨h₁, h₂, h₃, hint⟩ := hname s h
  rw [readAtom, if_neg h₁, if_neg h₂, if_neg h₃, readNumber, hint, FiniteFloat.read_name s h]
  rfl

/-- What is read in front of more text. -/
def readBack {α : Type} (finite : Bool) (a : α) (rest : List Char) : Option (α × List Char) :=
  if finite then some (a, rest) else Option.none

theorem words_of_all {texts : List (List Char)}
    (h : (texts.all fun s => !s.isEmpty && s.all isWordChar) = true) :
    ∀ s ∈ texts, s ≠ [] ∧ ∀ c ∈ s, isWordChar c = true := by
  intro s hs
  obtain ⟨hne, hword⟩ := Bool.and_eq_true_iff.mp (List.all_eq_true.mp h s hs)
  exact ⟨by simpa using hne, List.all_eq_true.mp hword⟩

theorem readValue_name {v : PyValue F} {text : List Char} (htext : atomText v = text)
    (hname : text ∈ ["inf".toList, "-inf".toList, "nan".toList]) {fuel : Nat}
    (hfuel : 2 * (atomText v).length ≤ fuel) {rest : List Char} (hstop : Stops rest) :
    readValue fuel (atomText v ++ rest) = readBack false v rest := by
  have hword : ∀ s ∈ ["inf".toList, "-inf".toList, "nan".toList],
      s ≠ [] ∧ ∀ c ∈ s, isWordChar c = true := words_of_all (by decide)
  rw [readValue_atom htext (hword text hname).1 (hword text hname).2 hfuel hstop,
    readAtom_name hname]
  rfl

theorem readEntry_eq {printable : Char → Bool} {k v : PyValue F} {rest : List Char} {fuel : Nat}
    (hreadKey : readValue fuel (repr printable k ++ ':' :: ' ' :: (repr printable v ++ rest)) =
      readBack (isFinite k) k (':' :: ' ' :: (repr printable v ++ rest)))
    (hreadValue : readValue fuel (repr printable v ++ rest) = readBack (isFinite v) v rest) :
    readEntry (fuel + 1) (repr printable k ++ ':' :: ' ' :: (repr printable v ++ rest)) =
      readBack (isFinite k && isFinite v) (k, v) rest := by
  rw [readEntry, hreadKey]
  cases isFinite k with
  | false => rfl
  | true =>
    rw [readBack, if_pos rfl, Option.bind_some]
    simp only [List.take_succ_cons, List.take_zero, if_true, List.drop_succ_cons, List.drop_zero]
    rw [hreadValue, Bool.true_and]
    cases isFinite v <;> rfl

mutual

theorem readValue_repr (printable : Char → Bool) : ∀ (v : PyValue F) (fuel : Nat)
    (rest : List Char), isPlain v = true → 2 * (repr printable v).length ≤ fuel → Stops rest →
    readValue fuel (repr printable v ++ rest) = readBack (isFinite v) v rest
  | str s, fuel, rest, _, hfuel, _ => readValue_str printable s rest hfuel
  | int n, fuel, rest, _, hfuel, hstop => by
    have hread := readValue_atom (show atomText (int (F := F) n) = decimal n from rfl)
      (decimal_word n).1 (decimal_word n).2 hfuel hstop
    rwa [readAtom_int] at hread
  | float (.finite x), fuel, rest, _, hfuel, hstop => by
    have hread := readValue_atom (show atomText (float (.finite x)) = FiniteFloat.text x from rfl)
      (text_ne_nil x) (FiniteFloat.text_word x) hfuel hstop
    rwa [readAtom_float] at hread
  | float .inf, fuel, rest, _, hfuel, hstop =>
    readValue_name (v := float .inf) (show _ = "inf".toList from rfl) (by decide) hfuel hstop
  | float .negInf, fuel, rest, _, hfuel, hstop =>
    readValue_name (v := float .negInf) (show _ = "-inf".toList from rfl) (by decide) hfuel hstop
  | float .nan, fuel, rest, _, hfuel, hstop =>
    readValue_name (v := float .nan) (show _ = "nan".toList from rfl) (by decide) hfuel hstop
  | bool true, fuel, rest, _, hfuel, hstop =>
    readValue_atom (v := bool true) (show _ = "True".toList from rfl) (by decide)
      (forall_mem_of_all (by decide)) hfuel hstop
  | bool false, fuel, rest, _, hfuel, hstop =>
    readValue_atom (v := bool false) (show _ = "False".toList from rfl) (by decide)
      (forall_mem_of_all (by decide)) hfuel hstop
  | none, fuel, rest, _, hfuel, hstop =>
    readValue_atom (v := none) (show _ = "None".toList from rfl) (by decide)
      (forall_mem_of_all (by decide)) hfuel hstop
  | tuple [], 0, _, _, hfuel, _ => by simp [repr] at hfuel
  | tuple [], fuel + 1, rest, _, _, _ => by
    rw [repr, List.cons_append, readValue, if_pos rfl, List.cons_append, List.head?_cons,
      if_pos rfl]
    rfl
  | tuple [x], 0, _, _, hfuel, _ => by simp [repr] at hfuel
  | tuple [x], fuel + 1, rest, h, hfuel, _ => by
    have hx : isPlain x = true := by simpa [isPlain, arePlain] using h
    have hread := readValue_repr printable x fuel ([',', ')'] ++ rest) hx
      (by simp only [repr, List.length_cons, List.length_append] at hfuel; omega)
      (stops_cons (by decide) _)
    rw [repr, List.cons_append, List.append_assoc, readValue, if_pos rfl,
      if_neg (head?_repr hx _).1, hread, isFinite, areFinite, areFinite, Bool.and_true]
    cases isFinite x <;> rfl
  | tuple (x :: y :: ys), 0, _, _, hfuel, _ => by simp [repr] at hfuel
  | tuple (x :: y :: ys), fuel + 1, rest, h, hfuel, _ => by
    obtain ⟨hx, hys⟩ : isPlain x = true ∧ arePlain (y :: ys) = true := by
      rwa [isPlain, arePlain, Bool.and_eq_true] at h
    simp only [repr, List.length_cons, List.length_append] at hfuel
    have hread := readValue_repr printable x fuel (reprItems printable (y :: ys) ++ rest) hx
      (by omega) (stops_reprItems printable _ rest)
    have hitems := readItems_repr printable (y :: ys) fuel rest hys (by omega)
    rw [repr, List.cons_append, List.append_assoc, readValue, if_pos rfl,
      if_neg (head?_repr hx _).1, hread, isFinite, areFinite]
    cases isFinite x with
    | false => rfl
    | true =>
      rw [readBack, if_pos rfl, Option.bind_some]
      simp only
      rw [if_neg (by simp [reprItems]), hitems, Bool.true_and]
      cases areFinite (y :: ys) <;> rfl
  | dict [], 0, _, _, hfuel, _ => by simp [repr] at hfuel
  | dict [], fuel + 1, rest, _, _, _ => by
    rw [repr, List.cons_append, readValue, if_neg (by decide), if_pos rfl, List.cons_append,
      List.head?_cons, if_pos rfl]
    rfl
  | dict ((k, v) :: es), 0, _, _, hfuel, _ => by simp [repr] at hfuel
  | dict ((k, v) :: es), 1, _, _, hfuel, _ => by simp [repr] at hfuel; omega
  | dict ((k, v) :: es), fuel + 2, rest, h, hfuel, _ => by
    obtain ⟨hkeys, ⟨hk, hv⟩, hes⟩ : KeysOk (((k, v) :: es).map Prod.fst) ∧
        (isPlain k = true ∧ isPlain v = true) ∧ entriesPlain es = true := by
      rwa [isPlain, entriesPlain, Bool.and_eq_true, Bool.and_eq_true, Bool.and_eq_true,
        decide_eq_true_eq] at h
    simp only [repr, List.length_cons, List.length_append] at hfuel
    have hentry := readEntry_eq (k := k)
      (readValue_repr printable k fuel _ hk (by omega) (stops_cons (by decide) _))
      (readValue_repr printable v fuel _ hv (by omega) (stops_reprEntries printable es rest))
    have hentries := readEntries_repr printable es (fuel + 1) rest hes (by omega)
    rw [repr, List.cons_append, readValue, if_neg (by decide), if_pos rfl]
    simp only [List.append_assoc, List.cons_append]
    rw [if_neg (head?_repr hk _).2, hentry, isFinite, entriesFinite]
    cases isFinite k && isFinite v with
    | false => rfl
    | true =>
      rw [readBack, if_pos rfl, Option.bind_some]
      simp only
      rw [hentries, Bool.true_and]
      cases entriesFinite es with
      | false => rfl
      | true => exact if_pos hkeys

theorem readItems_repr (printable : Char → Bool) : ∀ (xs : List (PyValue F)) (fuel : Nat)
    (rest : List Char), arePlain xs = true → 2 * (reprItems printable xs).length ≤ fuel →
    readItems fuel (reprItems printable xs ++ rest) = readBack (areFinite xs) xs rest
  | [], 0, _, _, hfuel => by simp [reprItems] at hfuel
  | [], fuel + 1, rest, _, _ => rfl
  | x :: xs, 0, _, _, hfuel => by simp [reprItems] at hfuel
  | x :: xs, fuel + 1, rest, h, hfuel => by
    obtain ⟨hx, hxs⟩ : isPlain x = true ∧ arePlain xs = true := by
      rwa [arePlain, Bool.and_eq_true] at h
    simp only [reprItems, List.length_cons, List.length_append] at hfuel
    have hread := readValue_repr printable x fuel (reprItems printable xs ++ rest) hx
      (by omega) (stops_reprItems printable xs rest)
    have hitems := readItems_repr printable xs fuel rest hxs (by omega)
    rw [reprItems, readItems, areFinite]
    simp only [List.cons_append, List.head?_cons, List.take_succ_cons, List.take_zero, if_true,
      List.drop_succ_cons, List.drop_zero, List.append_assoc, hread]
    cases isFinite x with
    | false => rfl
    | true =>
      rw [readBack, if_pos rfl, Option.bind_some]
      simp only
      rw [hitems, Bool.true_and]
      cases areFinite xs <;> rfl

theorem readEntries_repr (printable : Char → Bool) :
    ∀ (es : List (PyValue F × PyValue F)) (fuel : Nat) (rest : List Char),
      entriesPlain es = true → 2 * (reprEntries printable es).length ≤ fuel →
      readEntries fuel (reprEntries printable es ++ rest) = readBack (entriesFinite es) es rest
  | [], 0, _, _, hfuel => by simp [reprEntries] at hfuel
  | [], fuel + 1, rest, _, _ => rfl
  | (k, v) :: es, 0, _, _, hfuel => by simp [reprEntries] at hfuel
  | (k, v) :: es, 1, _, _, hfuel => by simp [reprEntries] at hfuel; omega
  | (k, v) :: es, fuel + 2, rest, h, hfuel => by
    obtain ⟨⟨hk, hv⟩, hes⟩ : (isPlain k = true ∧ isPlain v = true) ∧
        entriesPlain es = true := by
      rwa [entriesPlain, Bool.and_eq_true, Bool.and_eq_true] at h
    simp only [reprEntries, List.length_cons, List.length_append] at hfuel
    have hentry := readEntry_eq (k := k)
      (readValue_repr printable k fuel _ hk (by omega) (stops_cons (by decide) _))
      (readValue_repr printable v fuel _ hv (by omega) (stops_reprEntries printable es rest))
    have hentries := readEntries_repr printable es (fuel + 1) rest hes (by omega)
    rw [reprEntries, readEntries, entriesFinite]
    simp only [List.cons_append, List.head?_cons, List.take_succ_cons, List.take_zero, if_true,
      List.drop_succ_cons, List.drop_zero, List.append_assoc, hentry]
    cases isFinite k && isFinite v with
    | false => rfl
    | true =>
      rw [readBack, if_pos rfl, Option.bind_some]
      simp only
      rw [hentries, Bool.true_and]
      cases entriesFinite es <;> rfl

end

theorem unrepr_repr (printable : Char → Bool) {v : PyValue F} (h : isPlain v = true) :
    unrepr (repr printable v) = if isFinite v then some v else Option.none := by
  have hread := readValue_repr printable v (2 * (repr printable v).length + 1) [] h
    (Nat.le_succ _) nofun
  rw [List.append_nil] at hread
  rw [unrepr, hread]
  cases isFinite v <;> rfl

end AioHomematic.Lib.PyValue
