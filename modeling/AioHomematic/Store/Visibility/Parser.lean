import AioHomematic.Const
import AioHomematic.Support.Text
import Mathlib.Data.List.DropRight

/-!
# Lines of the un-ignore configuration

`parseUnIgnoreLine` of `store/visibility/parser.py`. What it takes from Python's text besides
`Support` is in `PyUnicode`: the lower case of a text, and the numeric characters that are no
decimal digits. A result that is `none` is the `ValueError` of `int`, which no caller expects.

`parseUnIgnoreLine_master` says which lines have an entry for a MASTER paramset.
-/

namespace AioHomematic.Store.Visibility

open Support

structure PyUnicode where
  lower : String → String
  otherNumeric : Char → Bool

namespace PyUnicode

variable (py : PyUnicode)

/-- `s.isnumeric()`. -/
def isnumeric (s : List Char) : Bool :=
  !s.isEmpty && s.all fun c => isDigit c || py.otherNumeric c

end PyUnicode

/-- `s.strip()`. -/
def strip (s : List Char) : List Char := (s.dropWhile isSpace).rdropWhile isSpace

/-- The digits that `int` accepts in one number. -/
def intMaxStrDigits : Nat := 4300

/-- `int(s)` of numeric characters. -/
def toInt? (s : List Char) : Option Int :=
  if s.all isDigit && s.length ≤ intMaxStrDigits then some (number s) else none

def unIgnoreWildcard : String := "all"

def paramsetKeys : List (ParamsetKey × String) :=
  [(.calculated, "CALCULATED"), (.combined, "COMBINED"), (.dummy, "DUMMY"), (.link, "LINK"),
    (.master, "MASTER"), (.service, "SERVICE"), (.values, "VALUES")]

/-- `ParamsetKey(s)`. -/
def paramsetKey? (s : String) : Option ParamsetKey :=
  (paramsetKeys.find? (·.2 = s)).map Prod.fst

/-- A channel number, `None`, or a text such as the wildcard. -/
inductive UnIgnoreChannelNo where
  | no (n : Option Int)
  | text (s : String)
deriving DecidableEq

def UnIgnoreChannelNo.isText : UnIgnoreChannelNo → Bool
  | .no _ => false
  | .text _ => true

structure UnIgnoreEntry where
  model : String
  channelNo : UnIgnoreChannelNo
  paramsetKey : ParamsetKey
  parameter : String
deriving DecidableEq

structure ParsedUnIgnoreLine where
  entry : Option UnIgnoreEntry := none
  simpleParameter : Option String := none
  error : Option String := none
deriving DecidableEq

namespace ParsedUnIgnoreLine

def isComplex (p : ParsedUnIgnoreLine) : Bool := p.entry.isSome

def isError (p : ParsedUnIgnoreLine) : Bool := p.error.isSome

def isSimple (p : ParsedUnIgnoreLine) : Bool := p.simpleParameter.isSome

end ParsedUnIgnoreLine

structure LineMatch where
  parameter : List Char
  paramsetKey : List Char
  model : List Char
  channelNo : List Char

/-- What stands before the first character that `stop` holds of, not empty, and what follows it if
this character is `sep`. -/
def span1 (stop : Char → Bool) (sep : Char) (s : List Char) : Option (List Char × List Char) :=
  match s.takeWhile (!stop ·), s.dropWhile (!stop ·) with
  | c :: run, c' :: rest => if c' = sep then some (c :: run, rest) else none
  | _, _ => none

/-- The pattern of a line. No part of it can end anywhere else, and `.` is no line break. -/
def matchUnIgnoreLine (s : List Char) : Option LineMatch := do
  let (parameter, s) ← span1 (fun c => c == ':' || c == '@') ':' s
  let (paramsetKey, s) ← span1 (· == '@') '@' s
  let (model, channelNo) ← span1 (· == ':') ':' s
  if '\n' ∈ channelNo then none else some ⟨parameter, paramsetKey, model, channelNo⟩

variable (py : PyUnicode)

/-- The channel number of a line. -/
def parseChannelNo (s : List Char) : Option UnIgnoreChannelNo :=
  if s = [] then some (.no none)
  else if py.isnumeric s then (toInt? s).map fun n => .no (some n)
  else some (.text (String.ofList s))

def parseUnIgnoreLine (line : String) : Option ParsedUnIgnoreLine :=
  let s := strip line.toList
  let line := String.ofList s
  if s = [] then some { error := some "Empty line" }
  else if '@' ∉ s then
    if ':' ∈ s then
      some { error := some ("Invalid format: ':' without '@' in '" ++ line ++ "'") }
    else some { simpleParameter := some line }
  else match matchUnIgnoreLine s with
    | none => some { error := some ("Invalid complex format: '" ++ line ++
        "'. Expected 'PARAMETER:PARAMSET@MODEL:CHANNEL'") }
    | some m =>
      let parameter := String.ofList m.parameter
      let paramsetKeyStr := String.ofList m.paramsetKey
      let model := py.lower (String.ofList m.model)
      match paramsetKey? paramsetKeyStr with
      | none => some { error := some ("Invalid paramset key '" ++ paramsetKeyStr ++ "' in '" ++
          line ++ "'") }
      | some paramsetKey => do
        let channelNo ← parseChannelNo py m.channelNo
        if model = unIgnoreWildcard ∧ channelNo = .text unIgnoreWildcard ∧
            paramsetKey = .values then
          return { simpleParameter := some parameter }
        else if paramsetKey = .master ∧ channelNo.isText then
          return { error := some ("Channel must be numeric or empty for MASTER paramset in '" ++
            line ++ "'") }
        else if paramsetKey = .master ∧ model = unIgnoreWildcard then
          return { error := some ("Model must be specified for MASTER paramset in '" ++ line ++
            "'") }
        else
          return { entry := some ⟨model, channelNo, paramsetKey, parameter⟩ }

/-! ## Lines for a MASTER paramset -/

theorem paramsetKey?_eq_master {s : String} : paramsetKey? s = some .master ↔ s = "MASTER" := by
  constructor
  · intro h
    obtain ⟨e, hfind, hkey⟩ := Option.map_eq_some_iff.mp h
    have hname : e.2 = s := by simpa using List.find?_some hfind
    have hmem : e ∈ paramsetKeys := List.mem_of_find?_eq_some hfind
    have hunique : ∀ e ∈ paramsetKeys, e.1 = .master → e.2 = "MASTER" := by decide
    rw [← hname, hunique e hmem hkey]
  · rintro rfl
    decide

theorem span1_eq_some {stop : Char → Bool} {sep : Char} (hsep : stop sep = true)
    {s run rest : List Char} :
    span1 stop sep s = some (run, rest) ↔
      run ≠ [] ∧ (∀ c ∈ run, stop c = false) ∧ s = run ++ sep :: rest := by
  constructor
  · intro h
    have hsplit : s.takeWhile (!stop ·) ++ s.dropWhile (!stop ·) = s :=
      List.takeWhile_append_dropWhile
    unfold span1 at h
    split at h
    next c run' c' rest' htake hdrop =>
      split at h
      next hc =>
        cases h
        refine ⟨by simp, fun d hd => ?_, ?_⟩
        · rw [← htake] at hd
          simpa using List.mem_takeWhile_imp hd
        · rw [← hsplit, htake, hdrop, hc]
      next => cases h
    next => cases h
  · rintro ⟨hne, hrun, rfl⟩
    have hall : ∀ c ∈ run, (!stop c) = true := fun c hc => by rw [hrun c hc]; rfl
    obtain ⟨c, run, rfl⟩ := List.exists_cons_of_ne_nil hne
    rw [span1, List.takeWhile_append_of_pos hall, List.dropWhile_append_of_pos hall]
    simp [hsep]

theorem matchUnIgnoreLine_eq_some {s : List Char} {m : LineMatch} :
    matchUnIgnoreLine s = some m ↔
      (m.parameter ≠ [] ∧ ∀ c ∈ m.parameter, c ≠ ':' ∧ c ≠ '@') ∧
      (m.paramsetKey ≠ [] ∧ '@' ∉ m.paramsetKey) ∧ (m.model ≠ [] ∧ ':' ∉ m.model) ∧
      '\n' ∉ m.channelNo ∧
      s = m.parameter ++ ':' :: (m.paramsetKey ++ '@' :: (m.model ++ ':' :: m.channelNo)) := by
  have hne : ∀ {d : Char} {run : List Char}, (∀ c ∈ run, (c == d) = false) ↔ d ∉ run := by
    intro d run
    simp only [beq_eq_false_iff_ne]
    exact ⟨fun h hd => h d hd rfl, fun h c hc heq => h (heq ▸ hc)⟩
  have hboth : ∀ {run : List Char}, (∀ c ∈ run, (c == ':' || c == '@') = false) ↔
      ∀ c ∈ run, c ≠ ':' ∧ c ≠ '@' := by
    intro run
    simp only [Bool.or_eq_false_iff, beq_eq_false_iff_ne]
  constructor
  · intro h
    obtain ⟨⟨parameter, s₁⟩, hspan₁, h₁⟩ := Option.bind_eq_some_iff.mp h
    obtain ⟨⟨paramsetKey, s₂⟩, hspan₂, h₂⟩ := Option.bind_eq_some_iff.mp h₁
    obtain ⟨⟨model, channelNo⟩, hspan₃, h₃⟩ := Option.bind_eq_some_iff.mp h₂
    change (if '\n' ∈ channelNo then none else some _) = some m at h₃
    obtain ⟨hparameter₀, hparameter, rfl⟩ := (span1_eq_some (by decide)).mp hspan₁
    obtain ⟨hkey₀, hkey, rfl⟩ := (span1_eq_some (by decide)).mp hspan₂
    obtain ⟨hmodel₀, hmodel, rfl⟩ := (span1_eq_some (by decide)).mp hspan₃
    split at h₃
    next => cases h₃
    next hline =>
      cases h₃
      exact ⟨⟨hparameter₀, hboth.mp hparameter⟩, ⟨hkey₀, hne.mp hkey⟩, ⟨hmodel₀, hne.mp hmodel⟩,
        hline, rfl⟩
  · rintro ⟨⟨hparameter₀, hparameter⟩, ⟨hkey₀, hkey⟩, ⟨hmodel₀, hmodel⟩, hline, rfl⟩
    refine Option.bind_eq_some_iff.mpr ⟨(m.parameter, _),
      (span1_eq_some (by decide)).mpr ⟨hparameter₀, hboth.mpr hparameter, rfl⟩, ?_⟩
    refine Option.bind_eq_some_iff.mpr ⟨(m.paramsetKey, _),
      (span1_eq_some (by decide)).mpr ⟨hkey₀, hne.mpr hkey, rfl⟩, ?_⟩
    refine Option.bind_eq_some_iff.mpr ⟨(m.model, m.channelNo),
      (span1_eq_some (by decide)).mpr ⟨hmodel₀, hne.mpr hmodel, rfl⟩, ?_⟩
    exact if_neg hline

variable {py : PyUnicode}

/-- What a line says of its channel: nothing, or a number. -/
inductive ChannelText : List Char → Option Int → Prop
  | empty : ChannelText [] none
  | number {s : List Char} (hne : s ≠ []) (hdigit : ∀ c ∈ s, isDigit c = true)
      (hlength : s.length ≤ intMaxStrDigits) : ChannelText s (some (number s))

theorem parseChannelNo_eq_no {s : List Char} {n : Option Int} :
    parseChannelNo py s = some (.no n) ↔ ChannelText s n := by
  constructor
  · intro h
    unfold parseChannelNo at h
    split at h
    next hnil =>
      cases h
      exact hnil ▸ .empty
    next hne =>
      split at h
      next =>
        obtain ⟨k, hint, heq⟩ := Option.map_eq_some_iff.mp h
        unfold toInt? at hint
        split at hint
        next hdigits =>
          simp only [Bool.and_eq_true, List.all_eq_true, decide_eq_true_eq] at hdigits
          cases hint
          cases heq
          exact .number hne hdigits.1 hdigits.2
        next => cases hint
      next => cases h
  · rintro (_ | ⟨hne, hdigit, hlength⟩)
    · rfl
    · have hnumeric : py.isnumeric s = true := by
        simp only [PyUnicode.isnumeric, Bool.and_eq_true, Bool.not_eq_true',
          List.isEmpty_eq_false_iff, List.all_eq_true, Bool.or_eq_true]
        exact ⟨hne, fun c hc => .inl (hdigit c hc)⟩
      have hint : toInt? s = some (number s : Int) := by
        rw [toInt?, if_pos]
        simpa using ⟨hdigit, hlength⟩
      rw [parseChannelNo, if_neg hne, if_pos hnumeric, hint]
      rfl

/-- A line `PARAM:MASTER@MODEL:CH`, which may have white space around it. -/
structure MasterLine (py : PyUnicode) (line parameter model : String) (no : Option Int) : Prop where
  text : ∃ channel, ChannelText channel no ∧ strip line.toList =
    parameter.toList ++ ':' :: ("MASTER".toList ++ '@' :: (model.toList ++ ':' :: channel))
  parameterText : parameter.toList ≠ [] ∧ ∀ c ∈ parameter.toList, c ≠ ':' ∧ c ≠ '@'
  modelText : model.toList ≠ [] ∧ ':' ∉ model.toList
  named : py.lower model ≠ unIgnoreWildcard

theorem parseUnIgnoreLine_of_masterLine {line parameter model : String} {no : Option Int}
    (h : MasterLine py line parameter model no) :
    parseUnIgnoreLine py line =
      some { entry := some ⟨py.lower model, .no no, .master, parameter⟩ } := by
  obtain ⟨channel, hchannel, htext⟩ := h.text
  have hmatch : matchUnIgnoreLine (strip line.toList) =
      some ⟨parameter.toList, "MASTER".toList, model.toList, channel⟩ := by
    have hmaster : "MASTER".toList ≠ [] ∧ '@' ∉ "MASTER".toList := by decide
    refine matchUnIgnoreLine_eq_some.mpr ⟨h.parameterText, hmaster, h.modelText, ?_, htext⟩
    cases hchannel with
    | empty => exact List.not_mem_nil
    | number hne hdigit =>
      intro hline
      exact absurd (hdigit _ hline) (by decide)
  have hne : strip line.toList ≠ [] := by
    rw [htext]
    simp
  have hat : '@' ∈ strip line.toList := by
    rw [htext]
    simp
  have hkey : paramsetKey? "MASTER" = some .master := paramsetKey?_eq_master.mpr rfl
  have hno : parseChannelNo py channel = some (.no no) := parseChannelNo_eq_no.mpr hchannel
  unfold parseUnIgnoreLine
  simp only [if_neg hne, hat, not_true_eq_false, if_false, hmatch, String.ofList_toList, hkey, hno]
  simp [UnIgnoreChannelNo.isText, h.named]

/-- Each entry for a MASTER paramset is that of such a line. -/
theorem parseUnIgnoreLine_master {line : String} {p : ParsedUnIgnoreLine} {e : UnIgnoreEntry}
    (h : parseUnIgnoreLine py line = some p) (he : p.entry = some e)
    (hmaster : e.paramsetKey = .master) :
    ∃ parameter model no, MasterLine py line parameter model no ∧
      e = ⟨py.lower model, .no no, .master, parameter⟩ := by
  unfold parseUnIgnoreLine at h
  dsimp only at h
  split at h
  next => cases h; cases he
  next =>
  split at h
  next => split at h <;> (cases h; cases he)
  next =>
  split at h
  next => cases h; cases he
  next m hmatch =>
  split at h
  next => cases h; cases he
  next paramsetKey hkey =>
  obtain ⟨channelNo, hno, h⟩ := Option.bind_eq_some_iff.mp h
  split at h
  next => cases h; cases he
  next =>
  split at h
  next => cases h; cases he
  next htext =>
  split at h
  next => cases h; cases he
  next hnamed =>
  cases h
  cases he
  replace hmaster : paramsetKey = .master := hmaster
  subst hmaster
  have hname : m.paramsetKey = "MASTER".toList := by
    rw [← paramsetKey?_eq_master.mp hkey, String.toList_ofList]
  obtain ⟨hparameter, -, hmodel, -, hs⟩ := matchUnIgnoreLine_eq_some.mp hmatch
  rw [hname] at hs
  cases channelNo with
  | text s => exact absurd ⟨rfl, rfl⟩ htext
  | no no =>
    refine ⟨String.ofList m.parameter, String.ofList m.model, no,
      ⟨⟨m.channelNo, ?_, ?_⟩, ?_, ?_, ?_⟩, rfl⟩
    · exact parseChannelNo_eq_no.mp hno
    · simp only [hs, String.toList_ofList]
    · rwa [String.toList_ofList]
    · rwa [String.toList_ofList]
    · exact fun hwildcard => hnamed ⟨rfl, hwildcard⟩

/-- A line is one of three things. -/
theorem parseUnIgnoreLine_cases {line : String} {p : ParsedUnIgnoreLine}
    (h : parseUnIgnoreLine py line = some p) :
    (∃ e, p = { error := some e }) ∨ (∃ s, p = { simpleParameter := some s }) ∨
      ∃ e, p = { entry := some e } := by
  unfold parseUnIgnoreLine at h
  dsimp only at h
  split at h
  next => cases h; exact .inl ⟨_, rfl⟩
  next =>
  split at h
  next =>
    split at h
    next => cases h; exact .inl ⟨_, rfl⟩
    next => cases h; exact .inr (.inl ⟨_, rfl⟩)
  next =>
  split at h
  next => cases h; exact .inl ⟨_, rfl⟩
  next =>
  split at h
  next => cases h; exact .inl ⟨_, rfl⟩
  next =>
  obtain ⟨channelNo, -, h⟩ := Option.bind_eq_some_iff.mp h
  split at h
  next => cases h; exact .inr (.inl ⟨_, rfl⟩)
  next =>
  split at h
  next => cases h; exact .inl ⟨_, rfl⟩
  next =>
  split at h
  next => cases h; exact .inl ⟨_, rfl⟩
  next => cases h; exact .inr (.inr ⟨_, rfl⟩)

theorem parseUnIgnoreLine_blank {line : String} (h : strip line.toList = []) :
    parseUnIgnoreLine py line = some { error := some "Empty line" } := by
  simp only [parseUnIgnoreLine, if_pos h]

end AioHomematic.Store.Visibility
