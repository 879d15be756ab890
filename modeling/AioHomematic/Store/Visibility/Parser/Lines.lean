import AioHomematic.Store.Visibility.UnIgnored
import Mathlib.Algebra.Group.Nat.Defs

/-!
# What a line may be

The lines that `parse_un_ignore_line` is documented for, as a grammar
(`UnIgnoreLine`), and the text of an entry as `query_facade.py` writes it
(`UnIgnoreEntry.format`). The parser raises on some numeric channels and takes
any other text for a channel. `parses_iff` says for which lines it returns one
result, accepts what the grammar does and reads the text of its entry again.
-/

namespace AioHomematic.Store.Visibility

open Support

/-- What `str` guarantees of `lower` and `isnumeric`. -/
structure PyUnicode.Laws (py : PyUnicode) : Prop where
  ascii_numeric : ∀ c : Char, c.toNat < 128 → py.otherNumeric c = false
  lower_lower : ∀ s, py.lower (py.lower s) = py.lower s
  lower_ne_empty : ∀ s, s ≠ "" → py.lower s ≠ ""
  colon_of_lower : ∀ s, ':' ∈ (py.lower s).toList → ':' ∈ s.toList

/-! ## Lines and entries -/

def paramsetKeyText : ParamsetKey → String
  | .calculated => "CALCULATED"
  | .combined => "COMBINED"
  | .dummy => "DUMMY"
  | .link => "LINK"
  | .master => "MASTER"
  | .service => "SERVICE"
  | .values => "VALUES"

/-- `PARAMETER:PARAMSET_KEY@MODEL:CHANNEL`. -/
def lineText (parameter paramsetKey model channelNo : List Char) : List Char :=
  parameter ++ ':' :: (paramsetKey ++ '@' :: (model ++ ':' :: channelNo))

/-- No channel, a number or the wildcard. -/
inductive ChannelPart : List Char → Prop where
  | empty : ChannelPart []
  | number {s : List Char} (hne : s ≠ []) (hdigit : ∀ c ∈ s, isDigit c = true) : ChannelPart s
  | wildcard : ChannelPart unIgnoreWildcard.toList

/-- The lines that are documented, without white space around them. -/
inductive UnIgnoreLine (py : PyUnicode) : List Char → Prop where
  | parameter {s : List Char} (hne : s ≠ []) (hat : '@' ∉ s) (hcolon : ':' ∉ s) :
    UnIgnoreLine py s
  | complex {parameter model channelNo : List Char} {paramsetKey : ParamsetKey}
    (hparameter : parameter ≠ [] ∧ ∀ c ∈ parameter, c ≠ ':' ∧ c ≠ '@')
    (hmodel : model ≠ [] ∧ ':' ∉ model) (hchannel : ChannelPart channelNo)
    (hmaster : paramsetKey = .master →
      py.lower (String.ofList model) ≠ unIgnoreWildcard ∧ channelNo ≠ unIgnoreWildcard.toList) :
    UnIgnoreLine py (lineText parameter (paramsetKeyText paramsetKey).toList model channelNo)

def UnIgnoreChannelNo.format : UnIgnoreChannelNo → List Char
  | .no none => []
  | .no (some n) => decimal n
  | .text s => s.toList

/-- The entry in the format of `query_facade.py`. -/
def UnIgnoreEntry.format (e : UnIgnoreEntry) : String :=
  String.ofList (lineText e.parameter.toList (paramsetKeyText e.paramsetKey).toList e.model.toList
    e.channelNo.format)

/-- Exactly one thing is set. -/
def ParsedUnIgnoreLine.OneSet (p : ParsedUnIgnoreLine) : Prop :=
  [p.isComplex, p.isSimple, p.isError].count true = 1

/-- What is expected of the parser at a line. -/
structure Parses (py : PyUnicode) (line : String) : Prop where
  returns : ∃ p, parseUnIgnoreLine py line = some p ∧ p.OneSet
  accepts : (∃ p, parseUnIgnoreLine py line = some p ∧ p.isError = false) ↔
    UnIgnoreLine py (strip line.toList)
  rereads : ∀ p e, parseUnIgnoreLine py line = some p → p.entry = some e →
    parseUnIgnoreLine py e.format = some p

/-- The channel of a line is missing, a number that is not too long or the wildcard; or it is no
number, in a line for a MASTER paramset. -/
def ChannelKnown (py : PyUnicode) (line : String) : Prop :=
  ∀ m paramsetKey, matchUnIgnoreLine (strip line.toList) = some m →
    paramsetKey? (String.ofList m.paramsetKey) = some paramsetKey →
      m.channelNo = [] ∨
        (∀ c ∈ m.channelNo, isDigit c = true) ∧ m.channelNo.length ≤ intMaxStrDigits ∨
        m.channelNo = unIgnoreWildcard.toList ∨
        paramsetKey = .master ∧ py.isnumeric m.channelNo = false

variable {py : PyUnicode} {line : String} {m : LineMatch} {paramsetKey : ParamsetKey}

theorem paramsetKey?_eq_some {s : String} :
    paramsetKey? s = some paramsetKey ↔ s = paramsetKeyText paramsetKey := by
  constructor
  · intro h
    obtain ⟨e, hfind, hkey⟩ := Option.map_eq_some_iff.mp h
    have hname : e.2 = s := by simpa using List.find?_some hfind
    have htext : ∀ e ∈ paramsetKeys, e.2 = paramsetKeyText e.1 := by decide
    rw [← hname, htext e (List.mem_of_find?_eq_some hfind), hkey]
  · rintro rfl
    cases paramsetKey <;> decide

/-! ## The parser by the parts of a line -/

/-- The last steps, where a paramset key and a channel were read. -/
def lineResult (line model : String) (channelNo : UnIgnoreChannelNo) (paramsetKey : ParamsetKey)
    (parameter : String) : ParsedUnIgnoreLine :=
  if model = unIgnoreWildcard ∧ channelNo = .text unIgnoreWildcard ∧ paramsetKey = .values then
    { simpleParameter := some parameter }
  else if paramsetKey = .master ∧ channelNo.isText then
    { error := some ("Channel must be numeric or empty for MASTER paramset in '" ++ line ++ "'") }
  else if paramsetKey = .master ∧ model = unIgnoreWildcard then
    { error := some ("Model must be specified for MASTER paramset in '" ++ line ++ "'") }
  else { entry := some ⟨model, channelNo, paramsetKey, parameter⟩ }

theorem matchUnIgnoreLine_lineText :
    matchUnIgnoreLine (lineText m.parameter m.paramsetKey m.model m.channelNo) = some m ↔
      (m.parameter ≠ [] ∧ ∀ c ∈ m.parameter, c ≠ ':' ∧ c ≠ '@') ∧
      (m.paramsetKey ≠ [] ∧ '@' ∉ m.paramsetKey) ∧ (m.model ≠ [] ∧ ':' ∉ m.model) ∧
      '\n' ∉ m.channelNo := by
  rw [matchUnIgnoreLine_eq_some]
  unfold lineText
  simp only [and_true]

theorem eq_lineText_of_match {s : List Char} (h : matchUnIgnoreLine s = some m) :
    s = lineText m.parameter m.paramsetKey m.model m.channelNo :=
  (matchUnIgnoreLine_eq_some.mp h).2.2.2.2

theorem mem_lineText (parameter paramsetKey model channelNo : List Char) :
    '@' ∈ lineText parameter paramsetKey model channelNo := by
  unfold lineText
  simp

theorem parseUnIgnoreLine_of_match (hmatch : matchUnIgnoreLine (strip line.toList) = some m)
    (hkey : paramsetKey? (String.ofList m.paramsetKey) = some paramsetKey) :
    parseUnIgnoreLine py line = (parseChannelNo py m.channelNo).map fun channelNo =>
      lineResult (String.ofList (strip line.toList)) (py.lower (String.ofList m.model)) channelNo
        paramsetKey (String.ofList m.parameter) := by
  have hat : '@' ∈ strip line.toList := by
    rw [eq_lineText_of_match hmatch]
    exact mem_lineText ..
  unfold parseUnIgnoreLine
  dsimp only
  rw [if_neg (List.ne_nil_of_mem hat), if_neg (not_not_intro hat)]
  simp only [hmatch, hkey]
  cases parseChannelNo py m.channelNo with
  | none => rfl
  | some channelNo =>
    unfold lineResult
    rw [Option.map_some, apply_ite some, apply_ite some, apply_ite some]
    rfl

variable (py) in
/-- A line without the parts of an entry does not depend on `lower` and `isnumeric`. -/
theorem parseUnIgnoreLine_of_no_match
    (h : ∀ m paramsetKey, matchUnIgnoreLine (strip line.toList) = some m →
      paramsetKey? (String.ofList m.paramsetKey) ≠ some paramsetKey) :
    (strip line.toList ≠ [] ∧ '@' ∉ strip line.toList ∧ ':' ∉ strip line.toList ∧
        parseUnIgnoreLine py line =
          some { simpleParameter := some (String.ofList (strip line.toList)) }) ∨
      ((strip line.toList = [] ∨ '@' ∈ strip line.toList ∨ ':' ∈ strip line.toList) ∧
        ∃ error, parseUnIgnoreLine py line = some { error := some error }) := by
  unfold parseUnIgnoreLine
  dsimp only
  split
  next hnil => exact .inr ⟨.inl hnil, _, rfl⟩
  next hne =>
  split
  next hat =>
    split
    next hcolon => exact .inr ⟨.inr (.inr hcolon), _, rfl⟩
    next hcolon => exact .inl ⟨hne, hat, hcolon, rfl⟩
  next hat =>
  refine .inr ⟨.inr (.inl (not_not.mp hat)), ?_⟩
  split
  next => exact ⟨_, rfl⟩
  next m hmatch =>
  split
  next => exact ⟨_, rfl⟩
  next key hkey => exact absurd hkey (h m key hmatch)

/-! ## Grammar and match -/

theorem match_lineText (paramsetKey : ParamsetKey) {parameter model channelNo : List Char}
    (hparameter : parameter ≠ [] ∧ ∀ c ∈ parameter, c ≠ ':' ∧ c ≠ '@')
    (hmodel : model ≠ [] ∧ ':' ∉ model) (hline : '\n' ∉ channelNo) :
    matchUnIgnoreLine
        (lineText parameter (paramsetKeyText paramsetKey).toList model channelNo) =
      some ⟨parameter, (paramsetKeyText paramsetKey).toList, model, channelNo⟩ := by
  have hkey : (paramsetKeyText paramsetKey).toList ≠ [] ∧
      '@' ∉ (paramsetKeyText paramsetKey).toList := by
    cases paramsetKey <;> decide
  exact (matchUnIgnoreLine_lineText (m := ⟨parameter, _, model, channelNo⟩)).mpr
    ⟨hparameter, hkey, hmodel, hline⟩

theorem ChannelPart.oneLine {s : List Char} (h : ChannelPart s) : '\n' ∉ s := by
  cases h with
  | empty => exact List.not_mem_nil
  | number _ hdigit => exact fun hmem => absurd (hdigit _ hmem) (by decide)
  | wildcard => decide

/-- A line that matches is documented if its channel is. -/
theorem unIgnoreLine_of_match {s : List Char} (hmatch : matchUnIgnoreLine s = some m)
    (hkey : paramsetKey? (String.ofList m.paramsetKey) = some paramsetKey) :
    UnIgnoreLine py s ↔ ChannelPart m.channelNo ∧ (paramsetKey = .master →
      py.lower (String.ofList m.model) ≠ unIgnoreWildcard ∧
        m.channelNo ≠ unIgnoreWildcard.toList) := by
  have htext := eq_lineText_of_match hmatch
  have hkeyText : m.paramsetKey = (paramsetKeyText paramsetKey).toList := by
    rw [← paramsetKey?_eq_some.mp hkey, String.toList_ofList]
  constructor
  · intro h
    cases h with
    | parameter _ hat =>
      rw [htext] at hat
      exact absurd (mem_lineText ..) hat
    | complex hparameter hmodel hchannel hmaster =>
      rw [match_lineText _ hparameter hmodel hchannel.oneLine] at hmatch
      cases hmatch
      rw [String.ofList_toList] at hkey
      cases (paramsetKey?_eq_some.mpr rfl).symm.trans hkey
      exact ⟨hchannel, hmaster⟩
  · rintro ⟨hchannel, hmaster⟩
    obtain ⟨hparameter, -, hmodel, -, -⟩ := matchUnIgnoreLine_eq_some.mp hmatch
    rw [htext, hkeyText]
    exact .complex hparameter hmodel hchannel hmaster

/-! ## The channel -/

theorem number_lt (s : List Char) : number s < 10 ^ s.length := by
  induction s using List.reverseRecOn with
  | nil => decide
  | append_singleton s c ih =>
    have hdigit : (digit? c).getD 0 < 10 := by
      cases h : digit? c with
      | none => decide
      | some n => exact digit?_lt h
    have hstep : number (s ++ [c]) = 10 * number s + (digit? c).getD 0 := by
      unfold number
      rw [List.foldl_append]
      rfl
    rw [hstep, List.length_append, List.length_singleton, Nat.pow_succ]
    omega

theorem toNat_of_isDigit {c : Char} (h : c.isDigit = true) : 48 ≤ c.toNat ∧ c.toNat ≤ 57 :=
  Char.isDigit_iff_toNat.mp h

theorem digit?_of_isDigit {c : Char} (h : c.isDigit = true) :
    digit? c = some (c.toNat - '0'.toNat) := by
  obtain ⟨hlow, hhigh⟩ := toNat_of_isDigit h
  have hzeros : decimalZeros = 48 :: decimalZeros.tail := rfl
  have hfirst : (decide (48 ≤ c.toNat) && decide (c.toNat < 48 + 10)) = true := by
    rw [Bool.and_eq_true, decide_eq_true_iff, decide_eq_true_iff]
    omega
  rw [digit?, hzeros, List.find?_cons_of_pos]
  · rfl
  · exact hfirst

theorem isSpace_of_isDigit {c : Char} (h : c.isDigit = true) : isSpace c = false := by
  obtain ⟨hlow, hhigh⟩ := toNat_of_isDigit h
  unfold isSpace
  simp only [Bool.or_eq_false_iff, Bool.and_eq_false_iff, decide_eq_false_iff_not,
    beq_eq_false_iff_ne]
  omega

/-- The digits of a number are a text of it. -/
theorem channelText_decimal {n : Nat} (h : n < 10 ^ intMaxStrDigits) :
    ChannelText (Nat.toDigits 10 n) (some (n : Int)) := by
  have hdigits : ∀ c ∈ Nat.toDigits 10 n, c.isDigit = true := fun c hc =>
    Nat.isDigit_of_mem_toDigits (by decide) (by decide) hc
  have hnumber : number (Nat.toDigits 10 n) = n := by
    refine Eq.trans ?_ (Nat.ofDigitChars_ten_toDigits (n := n))
    unfold number
    rw [Nat.ofDigitChars_eq_foldl]
    refine List.foldl_ext _ _ 0 fun k c hc => ?_
    rw [digit?_of_isDigit (hdigits c hc), Option.getD_some]
  have hlength : (Nat.toDigits 10 n).length ≤ intMaxStrDigits :=
    (Nat.length_toDigits_le_iff (by decide) (by decide)).mpr h
  have htext := ChannelText.number (Nat.toDigits_ne_nil (n := n) (b := 10))
    (fun c hc => by rw [isDigit, digit?_of_isDigit (hdigits c hc)]; rfl) hlength
  rwa [hnumber] at htext

variable (py) in
/-- What the parser makes of a channel. -/
theorem parseChannelNo_cases (s : List Char) :
    (s = [] ∧ parseChannelNo py s = some (.no none)) ∨
      (s ≠ [] ∧ (∀ c ∈ s, isDigit c = true) ∧ s.length ≤ intMaxStrDigits ∧
        parseChannelNo py s = some (.no (some (number s)))) ∨
      (py.isnumeric s = true ∧ ¬((∀ c ∈ s, isDigit c = true) ∧ s.length ≤ intMaxStrDigits) ∧
        parseChannelNo py s = none) ∨
      (s ≠ [] ∧ py.isnumeric s = false ∧ parseChannelNo py s = some (.text (String.ofList s))) := by
  by_cases hnil : s = []
  · subst hnil
    exact .inl ⟨rfl, rfl⟩
  by_cases hdigits : (∀ c ∈ s, isDigit c = true) ∧ s.length ≤ intMaxStrDigits
  · exact .inr (.inl ⟨hnil, hdigits.1, hdigits.2,
      parseChannelNo_eq_no.mpr (.number hnil hdigits.1 hdigits.2)⟩)
  unfold parseChannelNo
  rw [if_neg hnil]
  cases hnumeric : py.isnumeric s with
  | true =>
    have hint : toInt? s = none := by
      refine if_neg fun h => hdigits ?_
      simpa using h
    rw [if_pos rfl, hint]
    exact .inr (.inr (.inl ⟨rfl, hdigits, rfl⟩))
  | false =>
    rw [if_neg Bool.false_ne_true]
    exact .inr (.inr (.inr ⟨hnil, rfl, rfl⟩))

theorem isnumeric_of_digits {s : List Char} (hne : s ≠ []) (h : ∀ c ∈ s, isDigit c = true) :
    py.isnumeric s = true := by
  simp only [PyUnicode.isnumeric, Bool.and_eq_true, Bool.not_eq_true',
    List.isEmpty_eq_false_iff, List.all_eq_true, Bool.or_eq_true]
  exact ⟨hne, fun c hc => .inl (h c hc)⟩

theorem isnumeric_wildcard (hpy : py.Laws) : py.isnumeric unIgnoreWildcard.toList = false := by
  have hother := hpy.ascii_numeric 'a' (by decide)
  have hdigit : isDigit 'a' = false := by decide
  show (!false && ((isDigit 'a' || py.otherNumeric 'a') && _)) = false
  rw [hother, hdigit]
  rfl

/-- A channel reads its text again. -/
theorem parseChannelNo_format {s : List Char} {channelNo : UnIgnoreChannelNo}
    (h : parseChannelNo py s = some channelNo) :
    parseChannelNo py channelNo.format = some channelNo := by
  rcases parseChannelNo_cases py s with
    ⟨-, hs⟩ | ⟨-, -, hlength, hs⟩ | ⟨-, -, hs⟩ | ⟨-, -, hs⟩
  · cases hs.symm.trans h
    rfl
  · cases hs.symm.trans h
    have hlt := (number_lt s).trans_le (Nat.pow_le_pow_right (by decide) hlength)
    exact parseChannelNo_eq_no.mpr (channelText_decimal hlt)
  · cases hs.symm.trans h
  · cases hs.symm.trans h
    rw [UnIgnoreChannelNo.format, String.toList_ofList]
    exact hs

/-! ## White space at the ends -/

/-- No white space at the ends. -/
def Trimmed (s : List Char) : Prop :=
  (∀ c ∈ s.head?, isSpace c = false) ∧ ∀ c ∈ s.getLast?, isSpace c = false

theorem trimmed_strip (s : List Char) : Trimmed (strip s) := by
  unfold strip
  refine ⟨fun c hc => ?_, fun c hc => ?_⟩
  · have hhead := List.head?_dropWhile_not isSpace s
    obtain ⟨rest, hrest⟩ := List.rdropWhile_prefix isSpace (s.dropWhile isSpace)
    rw [← hrest, List.head?_append, Option.mem_def.mp hc] at hhead
    simpa using hhead
  · have hne := List.ne_nil_of_mem (List.mem_of_getLast? hc)
    have hlast := List.rdropWhile_last_not isSpace (s.dropWhile isSpace) hne
    rw [List.getLast?_eq_some_getLast hne] at hc
    cases hc
    simpa using hlast

theorem strip_of_trimmed {s : List Char} (h : Trimmed s) : strip s = s := by
  cases s with
  | nil => rfl
  | cons c s =>
    have hc : isSpace c = false := h.1 c rfl
    have hlast := h.2 _ (List.getLast?_eq_some_getLast (List.cons_ne_nil c s))
    unfold strip
    rw [List.dropWhile_cons_of_neg (by simp [hc]), List.rdropWhile_eq_self_iff]
    intro hne
    simpa using hlast

theorem head?_lineText {parameter : List Char} (h : parameter ≠ [])
    (paramsetKey model channelNo : List Char) :
    (lineText parameter paramsetKey model channelNo).head? = parameter.head? :=
  List.head?_append_of_ne_nil _ h

theorem getLast?_lineText (parameter paramsetKey model channelNo : List Char) :
    (lineText parameter paramsetKey model channelNo).getLast? = (':' :: channelNo).getLast? := by
  have hsplit : lineText parameter paramsetKey model channelNo =
      (parameter ++ ':' :: (paramsetKey ++ '@' :: model)) ++ ':' :: channelNo := by
    unfold lineText
    simp only [List.append_assoc, List.cons_append]
  rw [hsplit, List.getLast?_append_of_ne_nil _ (List.cons_ne_nil _ _)]

/-- The text of a channel is that of the line, or digits. -/
theorem format_eq_or_digits {s : List Char} {channelNo : UnIgnoreChannelNo}
    (h : parseChannelNo py s = some channelNo) :
    channelNo.format = s ∨
      channelNo.format ≠ [] ∧ ∀ c ∈ channelNo.format, c.isDigit = true := by
  rcases parseChannelNo_cases py s with ⟨hnil, hs⟩ | ⟨-, -, -, hs⟩ | ⟨-, -, hs⟩ | ⟨-, -, hs⟩
  · cases hs.symm.trans h
    exact .inl hnil.symm
  · cases hs.symm.trans h
    exact .inr ⟨Nat.toDigits_ne_nil, fun c hc =>
      Nat.isDigit_of_mem_toDigits (by decide) (by decide) hc⟩
  · cases hs.symm.trans h
  · cases hs.symm.trans h
    exact .inl (String.toList_ofList ..)

theorem getLast?_format {s : List Char} {channelNo : UnIgnoreChannelNo}
    (h : parseChannelNo py s = some channelNo)
    (hlast : ∀ c ∈ (':' :: s).getLast?, isSpace c = false) :
    ∀ c ∈ (':' :: channelNo.format).getLast?, isSpace c = false := by
  rcases format_eq_or_digits h with heq | ⟨hne, hdigits⟩
  · rwa [heq]
  · intro c hc
    rw [List.getLast?_cons_of_ne_nil hne] at hc
    exact isSpace_of_isDigit (hdigits c (List.mem_of_getLast? hc))

/-! ## The lines the parser is right about -/

theorem isError_lineResult {line model parameter : String} {channelNo : UnIgnoreChannelNo} :
    (lineResult line model channelNo paramsetKey parameter).isError = false ↔
      (paramsetKey = .master → channelNo.isText = false ∧ model ≠ unIgnoreWildcard) := by
  unfold lineResult
  split
  next hwildcard =>
    rw [hwildcard.2.2]
    exact iff_of_true rfl nofun
  next =>
  split
  next htext =>
    refine iff_of_false nofun fun h => ?_
    rw [(h htext.1).1] at htext
    exact Bool.false_ne_true htext.2
  next htext =>
  split
  next hmodel => exact iff_of_false nofun fun h => (h hmodel.1).2 hmodel.2
  next hmodel =>
    refine iff_of_true rfl fun hmaster => ⟨?_, fun hwildcard => hmodel ⟨hmaster, hwildcard⟩⟩
    rw [← Bool.not_eq_true]
    exact fun h => htext ⟨hmaster, h⟩

theorem entry_lineResult {line model parameter : String} {channelNo : UnIgnoreChannelNo}
    {e : UnIgnoreEntry}
    (h : (lineResult line model channelNo paramsetKey parameter).entry = some e) :
    e = ⟨model, channelNo, paramsetKey, parameter⟩ ∧
      ∀ line', lineResult line' model channelNo paramsetKey parameter = { entry := some e } := by
  unfold lineResult at *
  split at h
  next => cases h
  next hwildcard =>
  split at h
  next => cases h
  next htext =>
  split at h
  next => cases h
  next hmodel =>
    cases h
    refine ⟨rfl, fun line' => ?_⟩
    rw [if_neg hwildcard, if_neg htext, if_neg hmodel]

theorem oneSet_lineResult (line model parameter : String) (channelNo : UnIgnoreChannelNo) :
    (lineResult line model channelNo paramsetKey parameter).OneSet := by
  unfold lineResult
  split
  · rfl
  · split
    · rfl
    · split <;> rfl

/-- The entry of a line is read again from its text. -/
theorem parseUnIgnoreLine_format (hpy : py.Laws) {p : ParsedUnIgnoreLine} {e : UnIgnoreEntry}
    (hmatch : matchUnIgnoreLine (strip line.toList) = some m)
    (hkey : paramsetKey? (String.ofList m.paramsetKey) = some paramsetKey)
    (hp : parseUnIgnoreLine py line = some p) (he : p.entry = some e) :
    parseUnIgnoreLine py e.format = some p := by
  rw [parseUnIgnoreLine_of_match hmatch hkey] at hp
  obtain ⟨channelNo, hchannel, rfl⟩ := Option.map_eq_some_iff.mp hp
  obtain ⟨rfl, hsame⟩ := entry_lineResult he
  obtain ⟨hparameter, -, hmodel, hline, -⟩ := matchUnIgnoreLine_eq_some.mp hmatch
  have htrimmed := trimmed_strip line.toList
  rw [eq_lineText_of_match hmatch, Trimmed, head?_lineText hparameter.1, getLast?_lineText]
    at htrimmed
  -- The text has the parts of the line, the model in lower case.
  have hlower : (py.lower (String.ofList m.model)).toList ≠ [] ∧
      ':' ∉ (py.lower (String.ofList m.model)).toList := by
    refine ⟨fun hnil => ?_, fun hmem => ?_⟩
    · refine hpy.lower_ne_empty (String.ofList m.model) ?_ (String.toList_eq_nil_iff.mp hnil)
      intro hempty
      exact hmodel.1 (by rw [← String.toList_ofList (l := m.model), hempty]; rfl)
    · have hcolon := hpy.colon_of_lower _ hmem
      rw [String.toList_ofList] at hcolon
      exact hmodel.2 hcolon
  have hformat : '\n' ∉ channelNo.format := by
    rcases format_eq_or_digits hchannel with heq | ⟨-, hdigits⟩
    · rwa [heq]
    · exact fun hmem => absurd (hdigits _ hmem) (by decide)
  have htext : strip (UnIgnoreEntry.format ⟨py.lower (String.ofList m.model), channelNo,
      paramsetKey, String.ofList m.parameter⟩).toList =
      lineText m.parameter (paramsetKeyText paramsetKey).toList
        (py.lower (String.ofList m.model)).toList channelNo.format := by
    unfold UnIgnoreEntry.format
    rw [String.toList_ofList, String.toList_ofList]
    refine strip_of_trimmed ⟨?_, ?_⟩
    · rw [head?_lineText hparameter.1]
      exact htrimmed.1
    · rw [getLast?_lineText]
      exact getLast?_format hchannel htrimmed.2
  have hmatch' := match_lineText paramsetKey hparameter hlower hformat
  rw [← htext] at hmatch'
  have hkey' : paramsetKey? (String.ofList (paramsetKeyText paramsetKey).toList) =
      some paramsetKey := by
    rw [String.ofList_toList]
    exact paramsetKey?_eq_some.mpr rfl
  rw [parseUnIgnoreLine_of_match hmatch' hkey', parseChannelNo_format hchannel, Option.map_some,
    String.ofList_toList, hpy.lower_lower, hsame, hsame]

/-- A line without the parts of an entry. -/
theorem parses_of_no_match
    (h : ∀ m paramsetKey, matchUnIgnoreLine (strip line.toList) = some m →
      paramsetKey? (String.ofList m.paramsetKey) ≠ some paramsetKey) : Parses py line := by
  rcases parseUnIgnoreLine_of_no_match py h with
    ⟨hne, hat, hcolon, hparse⟩ | ⟨hbad, error, hparse⟩
  · refine ⟨⟨_, hparse, rfl⟩, ?_, ?_⟩
    · exact iff_of_true ⟨_, hparse, rfl⟩ (.parameter hne hat hcolon)
    · intro p e hp he
      cases hparse.symm.trans hp
      cases he
  · refine ⟨⟨_, hparse, rfl⟩, iff_of_false ?_ ?_, ?_⟩
    · rintro ⟨p, hp, herror⟩
      cases hparse.symm.trans hp
      cases herror
    · intro hline
      generalize strip line.toList = s at h hbad hline
      cases hline with
      | parameter hne hat hcolon =>
        rcases hbad with hbad | hbad | hbad
        · exact hne hbad
        · exact hat hbad
        · exact hcolon hbad
      | @complex parameter model channelNo paramsetKey hparameter hmodel hchannel =>
        refine h _ paramsetKey (match_lineText _ hparameter hmodel hchannel.oneLine) ?_
        rw [String.ofList_toList]
        exact paramsetKey?_eq_some.mpr rfl
    · intro p e hp he
      cases hparse.symm.trans hp
      cases he

/-- A line with the parts of an entry and a channel that is read: the rest is what is accepted. -/
theorem parses_iff_of_channel (hpy : py.Laws) {channelNo : UnIgnoreChannelNo}
    (hmatch : matchUnIgnoreLine (strip line.toList) = some m)
    (hkey : paramsetKey? (String.ofList m.paramsetKey) = some paramsetKey)
    (hchannel : parseChannelNo py m.channelNo = some channelNo) :
    Parses py line ↔ ((paramsetKey = .master → channelNo.isText = false ∧
        py.lower (String.ofList m.model) ≠ unIgnoreWildcard) ↔
      ChannelPart m.channelNo ∧ (paramsetKey = .master →
        py.lower (String.ofList m.model) ≠ unIgnoreWildcard ∧
          m.channelNo ≠ unIgnoreWildcard.toList)) := by
  have hparse : parseUnIgnoreLine py line = _ := parseUnIgnoreLine_of_match hmatch hkey
  rw [hchannel, Option.map_some] at hparse
  have haccepts : (∃ p, parseUnIgnoreLine py line = some p ∧ p.isError = false) ↔
      (paramsetKey = .master → channelNo.isText = false ∧
        py.lower (String.ofList m.model) ≠ unIgnoreWildcard) := by
    rw [hparse]
    refine Iff.trans ⟨?_, fun h => ⟨_, rfl, h⟩⟩ isError_lineResult
    rintro ⟨p, hp, herror⟩
    cases hp
    exact herror
  rw [← haccepts, ← unIgnoreLine_of_match hmatch hkey]
  refine ⟨Parses.accepts, fun h => ⟨⟨_, hparse, oneSet_lineResult ..⟩, h, fun p e hp he => ?_⟩⟩
  exact parseUnIgnoreLine_format hpy hmatch hkey hp he

theorem channelKnown_of_match (hmatch : matchUnIgnoreLine (strip line.toList) = some m)
    (hkey : paramsetKey? (String.ofList m.paramsetKey) = some paramsetKey) :
    ChannelKnown py line ↔ m.channelNo = [] ∨
      (∀ c ∈ m.channelNo, isDigit c = true) ∧ m.channelNo.length ≤ intMaxStrDigits ∨
      m.channelNo = unIgnoreWildcard.toList ∨
      paramsetKey = .master ∧ py.isnumeric m.channelNo = false := by
  refine ⟨fun h => h m paramsetKey hmatch hkey, fun h m' key' hmatch' hkey' => ?_⟩
  cases hmatch.symm.trans hmatch'
  cases hkey.symm.trans hkey'
  exact h

/-- The parser does at a line what it is documented for if and only if the channel of the line, if
it has one, is known. -/
theorem parses_iff (hpy : py.Laws) (line : String) : Parses py line ↔ ChannelKnown py line := by
  by_cases hparts : ∃ m paramsetKey, matchUnIgnoreLine (strip line.toList) = some m ∧
      paramsetKey? (String.ofList m.paramsetKey) = some paramsetKey
  · obtain ⟨m, paramsetKey, hmatch, hkey⟩ := hparts
    rw [channelKnown_of_match hmatch hkey]
    have hnotAll : ∀ s : List Char, (∀ c ∈ s, isDigit c = true) → s ≠ unIgnoreWildcard.toList := by
      rintro s hdigit rfl
      exact absurd (hdigit 'a' (by decide)) (by decide)
    rcases parseChannelNo_cases py m.channelNo with
      ⟨hnil, hs⟩ | ⟨hne, hdigit, hlength, hs⟩ | ⟨hnumeric, hbad, hs⟩ | ⟨hne, hnumeric, hs⟩
    · refine iff_of_true ((parses_iff_of_channel hpy hmatch hkey hs).mpr ?_) (.inl hnil)
      rw [hnil, and_iff_right ChannelPart.empty]
      refine forall_congr' fun _ => ⟨fun h => ⟨h.2, ?_⟩, fun h => ⟨rfl, h.1⟩⟩
      exact hnotAll [] nofun
    · refine iff_of_true ((parses_iff_of_channel hpy hmatch hkey hs).mpr ?_)
        (.inr (.inl ⟨hdigit, hlength⟩))
      rw [and_iff_right (ChannelPart.number hne hdigit)]
      refine forall_congr' fun _ => ⟨fun h => ⟨h.2, ?_⟩, fun h => ⟨rfl, h.1⟩⟩
      exact hnotAll _ hdigit
    · refine iff_of_false (fun h => ?_) ?_
      · obtain ⟨p, hp, -⟩ := h.returns
        rw [parseUnIgnoreLine_of_match hmatch hkey, hs] at hp
        cases hp
      · rintro (hnil | hdigits | hwildcard | ⟨-, hother⟩)
        · rw [hnil] at hnumeric
          cases hnumeric
        · exact hbad hdigits
        · rw [hwildcard, isnumeric_wildcard hpy] at hnumeric
          cases hnumeric
        · rw [hother] at hnumeric
          cases hnumeric
    · have hpart : ChannelPart m.channelNo ↔ m.channelNo = unIgnoreWildcard.toList := by
        refine ⟨fun h => ?_, fun h => h ▸ .wildcard⟩
        generalize m.channelNo = channelNo at h hne hnumeric
        cases h with
        | empty => exact absurd rfl hne
        | number _ hdigit =>
          rw [isnumeric_of_digits hne hdigit] at hnumeric
          cases hnumeric
        | wildcard => rfl
      have hdigits : ¬((∀ c ∈ m.channelNo, isDigit c = true) ∧
          m.channelNo.length ≤ intMaxStrDigits) := by
        rintro ⟨hdigit, -⟩
        rw [isnumeric_of_digits hne hdigit] at hnumeric
        cases hnumeric
      rw [parses_iff_of_channel hpy hmatch hkey hs, hpart, or_iff_right hne, or_iff_right hdigits]
      -- A text is taken for other paramsets than MASTER alone.
      by_cases hmaster : paramsetKey = .master
      · refine iff_of_true (iff_of_false ?_ ?_) (.inr ⟨hmaster, hnumeric⟩)
        · exact fun h => Bool.false_ne_true (h hmaster).1.symm
        · exact fun h => (h.2 hmaster).2 h.1
      · refine Iff.trans ?_ (or_iff_left fun h => hmaster h.1).symm
        rw [iff_true_left fun h => absurd h hmaster]
        exact and_iff_left fun h => absurd h hmaster
  · refine iff_of_true (parses_of_no_match fun m key hmatch hkey => ?_) ?_
    · exact hparts ⟨m, key, hmatch, hkey⟩
    · exact fun m key hmatch hkey => absurd ⟨m, key, hmatch, hkey⟩ hparts

theorem toLower_cases (c : Char) :
    (c.toNat ≤ 90 ∧ c.toLower.toNat = c.toNat + 32 ∧ 65 ≤ c.toNat) ∨
      (¬(65 ≤ c.toNat ∧ c.toNat ≤ 90) ∧ c.toLower = c) := by
  have hval : ∀ n : UInt32, (n ≤ c.val ↔ n.toNat ≤ c.toNat) ∧ (c.val ≤ n ↔ c.toNat ≤ n.toNat) :=
    fun n => ⟨UInt32.le_iff_toNat_le, UInt32.le_iff_toNat_le⟩
  have hlow : 'A'.val ≤ c.val ↔ 65 ≤ c.toNat := (hval 'A'.val).1
  have hhigh : c.val ≤ 'Z'.val ↔ c.toNat ≤ 90 := (hval 'Z'.val).2
  unfold Char.toLower
  split
  next h =>
    obtain ⟨hge, hle⟩ : 65 ≤ c.toNat ∧ c.toNat ≤ 90 := ⟨hlow.mp h.1, hhigh.mp h.2⟩
    refine .inl ⟨hle, ?_, hge⟩
    show (c.toNat + 32) % 2 ^ 32 = c.toNat + 32
    omega
  next h => exact .inr ⟨fun h' => h ⟨hlow.mpr h'.1, hhigh.mpr h'.2⟩, rfl⟩

theorem asciiLower_laws : asciiLower.Laws where
  ascii_numeric := fun _ _ => rfl
  lower_lower := fun s => by
    show String.ofList ((String.ofList (s.toList.map Char.toLower)).toList.map Char.toLower) = _
    rw [String.toList_ofList, List.map_map]
    refine congrArg String.ofList (List.map_congr_left fun c _ => ?_)
    rcases toLower_cases c.toLower with ⟨hle, -, hge⟩ | ⟨-, hsame⟩
    · rcases toLower_cases c with ⟨hle', heq, hge'⟩ | ⟨hnot, heq⟩
      · omega
      · rw [heq] at hle hge
        exact absurd ⟨hge, hle⟩ hnot
    · exact hsame
  lower_ne_empty := fun s hne hempty => by
    have hnil := congrArg String.toList hempty
    rw [asciiLower, String.toList_ofList] at hnil
    exact hne (String.toList_eq_nil_iff.mp (List.map_eq_nil_iff.mp hnil))
  colon_of_lower := fun s h => by
    rw [asciiLower, String.toList_ofList] at h
    obtain ⟨c, hc, heq⟩ := List.mem_map.mp h
    rcases toLower_cases c with ⟨-, hlower, hge⟩ | ⟨-, hsame⟩
    · have hcolon : (58 : Nat) = c.toNat + 32 := by rw [← hlower, heq]; rfl
      omega
    · rwa [← heq, hsame]

theorem match_climate : matchUnIgnoreLine (strip " TEMPERATURE_OFFSET:MASTER@HmIP-eTRV:1 ".toList) =
    some ⟨"TEMPERATURE_OFFSET".toList, "MASTER".toList, "HmIP-eTRV".toList, ['1']⟩ := rfl

/-- A MASTER parameter of a channel, with white space around it. -/
theorem parses_climate : Parses asciiLower " TEMPERATURE_OFFSET:MASTER@HmIP-eTRV:1 " := by
  refine (parses_iff asciiLower_laws _).mpr ?_
  intro m paramsetKey hmatch hkey
  cases hmatch.symm.trans match_climate
  exact .inr (.inl ⟨forall_mem_of_all (by decide), by decide⟩)

/-- `str.isnumeric` of the superscript two. -/
def superscript : PyUnicode := ⟨asciiLower.lower, (· = '²')⟩

theorem match_three : matchUnIgnoreLine (strip "LEVEL:VALUES@HmIP-BROLL:three".toList) =
    some ⟨"LEVEL".toList, "VALUES".toList, "HmIP-BROLL".toList, "three".toList⟩ := rfl

/-- A numeric channel that is no decimal number raises, and any text is taken for a channel. -/
theorem not_parses_superscript :
    parseUnIgnoreLine superscript "LEVEL:VALUES@HmIP-BROLL:²" = none ∧
      ¬Parses superscript "LEVEL:VALUES@HmIP-BROLL:²" ∧
      ¬Parses superscript "LEVEL:VALUES@HmIP-BROLL:three" := by
  have hraises : parseUnIgnoreLine superscript "LEVEL:VALUES@HmIP-BROLL:²" = none := by decide
  refine ⟨hraises, fun h => ?_, fun h => ?_⟩
  · obtain ⟨p, hp, -⟩ := h.returns
    rw [hraises] at hp
    cases hp
  · have hline := h.accepts.mp ⟨_, rfl, rfl⟩
    have hkey : paramsetKey? (String.ofList "VALUES".toList) = some .values := by decide
    have hpart := ((unIgnoreLine_of_match match_three hkey).mp hline).1
    generalize hthree : "three".toList = s at hpart
    cases hpart with
    | empty => cases hthree
    | number _ hdigit =>
      subst hthree
      exact absurd (hdigit 't' (by decide)) (by decide)
    | wildcard => exact absurd hthree (by decide)

end AioHomematic.Store.Visibility
