import AioHomematic.Central.Events.Bus.Subscriptions
import AioHomematic.Const

/-!
# Unique ids

`generate_unique_id` of `model/support.py`: an id is an address and a parameter, with a prefix and,
for some addresses, the central id, put together with underscores and in lower case. Separator and
hyphen of an address become underscores as well, and the interface and the paramset key of a data
point have no part in it. An id is its words, those between underscores: `uniqueId_ne_iff` says
which data points share one.
-/

namespace AioHomematic.Model

open Central

/-- `str.lower`. What becomes of a character may depend on its neighbours (a final sigma), but not
across an underscore. -/
structure Lower where
  lower : List Char → List Char
  lower_append : ∀ s t, lower (s ++ '_' :: t) = lower s ++ '_' :: lower t

def hubAddresses : List String := ["hub", "install_mode", "program", "sysvar"]

def virtualRemoteAddresses : List String := ["BidCoS-RF", "BidCoS-Wir", "HmIP-RCV-1"]

/-- `s.replace(old, new)` of single characters. -/
def replaceChar (old new : Char) (s : List Char) : List Char :=
  s.map fun c => if c = old then new else c

/-- The addresses whose ids start with the central id. -/
def needsCentralId (address : String) : Bool :=
  address ∈ hubAddresses || startsWith address "INT000" ||
    String.ofList (address.toList.takeWhile (· ≠ ':')) ∈ virtualRemoteAddresses

/-- No parameter and no prefix are empty texts. -/
def generateUniqueId (py : Lower) (centralId address parameter uniqueIdPrefix : String) : String :=
  let uniqueId := replaceChar '-' '_' (replaceChar ':' '_' address.toList)
  let uniqueId := if parameter ≠ "" then uniqueId ++ '_' :: parameter.toList else uniqueId
  let uniqueId :=
    if uniqueIdPrefix ≠ "" then uniqueIdPrefix.toList ++ '_' :: uniqueId else uniqueId
  if needsCentralId address then String.ofList (py.lower (centralId.toList ++ '_' :: uniqueId))
  else String.ofList (py.lower uniqueId)

/-- The id of a parameter data point, or of an event with its prefix. -/
def uniqueId (py : Lower) (centralId uniqueIdPrefix : String) (dpk : DataPointKey) : String :=
  generateUniqueId py centralId dpk.channelAddress dpk.parameter uniqueIdPrefix

/-! ## Words -/

namespace Lower

variable (py : Lower)

def words (s : List Char) : List (List Char) := (py.lower s).splitOn '_'

theorem words_append (s t : List Char) : py.words (s ++ '_' :: t) = py.words s ++ py.words t := by
  rw [words, py.lower_append, List.splitOn_append_cons_self]
  rfl

theorem lower_eq_iff {s t : List Char} : py.lower s = py.lower t ↔ py.words s = py.words t := by
  refine ⟨fun h => congrArg (List.splitOn '_') h, fun h => ?_⟩
  have hjoin := congrArg (List.intercalate ['_']) h
  rwa [words, words, List.intercalate_splitOn, List.intercalate_splitOn] at hjoin

/-- The words of a text that may be left out. -/
def wordsOf (s : String) : List (List Char) := if s ≠ "" then py.words s.toList else []

def addressWords (address : String) : List (List Char) :=
  py.words (replaceChar '-' '_' (replaceChar ':' '_' address.toList))

/-- The words of an id before those of the parameter. -/
def stemWords (centralId uniqueIdPrefix address : String) : List (List Char) :=
  (if needsCentralId address then py.words centralId.toList else []) ++
    (py.wordsOf uniqueIdPrefix ++ py.addressWords address)

end Lower

/-- The id is the text that these words make. -/
theorem exists_text (py : Lower) (centralId address parameter uniqueIdPrefix : String) :
    ∃ text, generateUniqueId py centralId address parameter uniqueIdPrefix =
        String.ofList (py.lower text) ∧
      py.words text =
        py.stemWords centralId uniqueIdPrefix address ++ py.wordsOf parameter := by
  have hparameter : ∃ text, (if parameter ≠ "" then
        replaceChar '-' '_' (replaceChar ':' '_' address.toList) ++ '_' :: parameter.toList
      else replaceChar '-' '_' (replaceChar ':' '_' address.toList)) = text ∧
      py.words text = py.addressWords address ++ py.wordsOf parameter := by
    refine ⟨_, rfl, ?_⟩
    split
    next h => rw [py.words_append, Lower.wordsOf, if_pos h, Lower.addressWords]
    next h => rw [Lower.wordsOf, if_neg h, List.append_nil, Lower.addressWords]
  obtain ⟨text, htext, hwords⟩ := hparameter
  have hprefix : ∃ text', (if uniqueIdPrefix ≠ "" then uniqueIdPrefix.toList ++ '_' :: text
      else text) = text' ∧
      py.words text' = py.wordsOf uniqueIdPrefix ++ py.words text := by
    refine ⟨_, rfl, ?_⟩
    split
    next h => rw [py.words_append, Lower.wordsOf, if_pos h]
    next h => rw [Lower.wordsOf, if_neg h, List.nil_append]
  obtain ⟨text', htext', hwords'⟩ := hprefix
  simp only [generateUniqueId, htext, htext', Lower.stemWords]
  split
  · refine ⟨_, rfl, ?_⟩
    rw [py.words_append, hwords', hwords, List.append_assoc, List.append_assoc]
  · refine ⟨_, rfl, ?_⟩
    rw [hwords', hwords, List.nil_append, List.append_assoc]

section

variable {py : Lower} {centralId uniqueIdPrefix : String} {dpk dpk' : DataPointKey}

theorem uniqueId_eq_iff : uniqueId py centralId uniqueIdPrefix dpk =
      uniqueId py centralId uniqueIdPrefix dpk' ↔
    py.stemWords centralId uniqueIdPrefix dpk.channelAddress ++ py.wordsOf dpk.parameter =
      py.stemWords centralId uniqueIdPrefix dpk'.channelAddress ++ py.wordsOf dpk'.parameter := by
  obtain ⟨text, hid, hwords⟩ :=
    exists_text py centralId dpk.channelAddress dpk.parameter uniqueIdPrefix
  obtain ⟨text', hid', hwords'⟩ :=
    exists_text py centralId dpk'.channelAddress dpk'.parameter uniqueIdPrefix
  rw [uniqueId, uniqueId, hid, hid', String.ofList_inj,
    py.lower_eq_iff, hwords, hwords']

/-- The stem of `dpk'` is that of `dpk` with the first words of its parameter, none perhaps, and the
other words of the parameter are those of the parameter of `dpk'`. -/
def Continues (py : Lower) (centralId uniqueIdPrefix : String) (dpk dpk' : DataPointKey) : Prop :=
  ∃ words, py.stemWords centralId uniqueIdPrefix dpk'.channelAddress =
      py.stemWords centralId uniqueIdPrefix dpk.channelAddress ++ words ∧
    py.wordsOf dpk.parameter = words ++ py.wordsOf dpk'.parameter

theorem uniqueId_eq_iff_continues : uniqueId py centralId uniqueIdPrefix dpk =
      uniqueId py centralId uniqueIdPrefix dpk' ↔
    Continues py centralId uniqueIdPrefix dpk dpk' ∨
      Continues py centralId uniqueIdPrefix dpk' dpk := by
  rw [uniqueId_eq_iff, List.append_eq_append_iff]
  rfl

/-- Addresses of equally many words do not run into the parameters. -/
theorem uniqueId_eq_iff_of_length
    (h : (py.stemWords centralId uniqueIdPrefix dpk.channelAddress).length =
      (py.stemWords centralId uniqueIdPrefix dpk'.channelAddress).length) :
    uniqueId py centralId uniqueIdPrefix dpk = uniqueId py centralId uniqueIdPrefix dpk' ↔
      py.stemWords centralId uniqueIdPrefix dpk.channelAddress =
          py.stemWords centralId uniqueIdPrefix dpk'.channelAddress ∧
        py.wordsOf dpk.parameter = py.wordsOf dpk'.parameter := by
  rw [uniqueId_eq_iff]
  constructor
  · exact fun heq => List.append_inj heq h
  · rintro ⟨hstem, hparameter⟩
    rw [hstem, hparameter]

/-- On one channel, ids tell parameters apart up to the case of letters, and nothing else. -/
theorem uniqueId_eq_iff_of_same_channel (h : dpk.channelAddress = dpk'.channelAddress) :
    uniqueId py centralId uniqueIdPrefix dpk = uniqueId py centralId uniqueIdPrefix dpk' ↔
      py.wordsOf dpk.parameter = py.wordsOf dpk'.parameter := by
  rw [uniqueId_eq_iff, h, List.append_cancel_left_eq]

end

/-! ## Subscriptions -/

variable {T H : Type*} [DecidableEq T]

/-- Two data points have different ids, and cleaning up the subscriptions of one leaves those of the
other, exactly when neither continues the other. -/
theorem uniqueId_ne_iff (py : Lower) (centralId uniqueIdPrefix : String) (dpk dpk' : DataPointKey) :
    (uniqueId py centralId uniqueIdPrefix dpk ≠ uniqueId py centralId uniqueIdPrefix dpk' ∧
      ∀ (bus : EventBus T String H) (eventType : T),
        (bus.clearSubscriptionsByKey (some (uniqueId py centralId uniqueIdPrefix dpk))).bucket
            eventType (some (uniqueId py centralId uniqueIdPrefix dpk')) =
          bus.bucket eventType (some (uniqueId py centralId uniqueIdPrefix dpk'))) ↔
      ¬ Continues py centralId uniqueIdPrefix dpk dpk' ∧
        ¬ Continues py centralId uniqueIdPrefix dpk' dpk := by
  rw [← not_or, ← uniqueId_eq_iff_continues]
  refine ⟨fun h => h.1, fun hne => ⟨hne, fun bus eventType => ?_⟩⟩
  rw [EventBus.bucket_clearSubscriptionsByKey, if_neg fun h => hne (Option.some.inj h)]

/-! ### A parameter in both paramsets of a channel -/

def asciiLower : Lower where
  lower s := s.map Char.toLower
  lower_append s t := by
    rw [List.map_append, List.map_cons]
    rfl

def levelValue : DataPointKey := ⟨"ccu-HmIP-RF", "VCU0000001:1", .values, "LEVEL"⟩

def levelMaster : DataPointKey := { levelValue with paramsetKey := .master }

/-- Nor does the case of an address count, or where it ends. -/
def levelOfDevice : DataPointKey := ⟨"ccu-HmIP-RF", "vcu0000001", .values, "1_LEVEL"⟩

/-- Somebody listens to the data point of the other paramset. -/
def masterBus : EventBus String String Nat :=
  ((EventBus.subscribe {} "state_changed" (some (uniqueId asciiLower "ccu" "" levelMaster)) 0
    .normal)).2

theorem not_uniqueId_ne :
    levelValue ≠ levelMaster ∧ levelValue ≠ levelOfDevice ∧
      uniqueId asciiLower "ccu" "" levelValue = "vcu0000001_1_level" ∧
      uniqueId asciiLower "ccu" "" levelMaster = "vcu0000001_1_level" ∧
      uniqueId asciiLower "ccu" "" levelOfDevice = "vcu0000001_1_level" ∧
      (masterBus.bucket "state_changed"
        (some (uniqueId asciiLower "ccu" "" levelMaster))).length = 1 ∧
      (masterBus.clearSubscriptionsByKey (some (uniqueId asciiLower "ccu" "" levelValue))).bucket
        "state_changed" (some (uniqueId asciiLower "ccu" "" levelMaster)) = [] :=
  ⟨by decide, by decide, rfl, rfl, rfl, by decide, by decide⟩

end AioHomematic.Model
