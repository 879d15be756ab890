import AioHomematic.Lib.Dict
import AioHomematic.Lib.Json
import AioHomematic.Lib.Words

/-!
# The randomised export

`_prepare_save_data` of `store/persistent/session.py`. The replacements of the addresses follow
one another on the text of the session, so an address that has been replaced is replaced again
when the turn of its replacement comes later. `Renamed` is what is wanted: the addresses in the
text are renamed by a one-to-one mapping, and nothing else changes.

A word of the text is a run of symbols that occur in device addresses. The replacements go word by
word on every text (`replaceAddresses_eq`), so a text is renamed if each of its words is.
-/

namespace AioHomematic.Store.Persistent

open Lib

abbrev Text := List Char

/-- `json_str.replace(original, replacement)`. -/
def strReplace (original replacement s : Text) : Text :=
  if original = [] then s.flatMap (fun c => replacement ++ [c]) ++ replacement
  else replace original replacement s

/-- `dict(zip(device_addresses, randomized, strict=True))`. -/
def addressMap (deviceAddresses randomized : List Text) : Dict Text Text :=
  Dict.empty.assign (deviceAddresses.zip randomized)

section Export

variable {δ D : Type*} (dumps : D → Option Text) (loads : Text → Option D) (devices : Dict Text δ)
  (randomized : List Text) (data : D)

def replaceAddresses (deviceAddresses randomized : List Text) (jsonStr : Text) : Text :=
  (addressMap deviceAddresses randomized).entries.foldl
    (fun jsonStr e => strReplace e.1 e.2 jsonStr) jsonStr

/-- The text that is exported; nothing where `dumps` raises. -/
def exportedText : Option Text :=
  (dumps data).map (replaceAddresses devices.keys randomized)

/-- `randomized` is what the shuffle makes of the device addresses. -/
def prepareSaveData (randomizeOutput : Bool) : Option D :=
  if !randomizeOutput then some data
  else if devices.keys.isEmpty then some data
  else (exportedText dumps devices randomized data).bind loads

/-! ## One-to-one renaming -/

def isAddressSymbol (deviceAddresses : List Text) (c : Char) : Bool :=
  deviceAddresses.any fun address => address.contains c

def addressWords (deviceAddresses : List Text) (text : Text) : Text × List (Char × Text) :=
  splitWords (isAddressSymbol deviceAddresses) text

/-- The device addresses that are words of the text. -/
def Occurs (deviceAddresses : List Text) (text address : Text) : Prop :=
  address ∈ deviceAddresses ∧ address ∈ allWords (addressWords deviceAddresses text)

/-- The device addresses among the words are renamed, and the other words stay. -/
def renameAddresses (deviceAddresses : List Text) (f : Text → Text) (text : Text) : Text :=
  joinWords (mapWords (fun w => if w ∈ deviceAddresses then f w else w)
    (addressWords deviceAddresses text))

/-- Different device addresses in the text are mapped to different device addresses. -/
structure OneToOne (deviceAddresses : List Text) (f : Text → Text) (text : Text) : Prop where
  mem : ∀ a, Occurs deviceAddresses text a → f a ∈ deviceAddresses
  injective : ∀ a b, Occurs deviceAddresses text a → Occurs deviceAddresses text b →
    f a = f b → a = b

theorem OneToOne.congr {deviceAddresses : List Text} {f g : Text → Text} {text : Text}
    (h : OneToOne deviceAddresses f text) (heq : ∀ a, Occurs deviceAddresses text a → f a = g a) :
    OneToOne deviceAddresses g text := by
  refine ⟨fun a ha => heq a ha ▸ h.mem a ha, fun a b ha hb hg => h.injective a b ha hb ?_⟩
  rw [heq a ha, heq b hb, hg]

/-- What is exported is read from the text with its addresses renamed by a one-to-one mapping.
Without devices it is the session itself. -/
def Renamed : Prop :=
  ∃ exported, prepareSaveData dumps loads devices randomized data true = some exported ∧
    (devices.keys = [] ∧ exported = data ∨
      ∃ text f, dumps data = some text ∧ OneToOne devices.keys f text ∧
        replaceAddresses devices.keys randomized text = renameAddresses devices.keys f text ∧
        loads (renameAddresses devices.keys f text) = some exported)

/-- The addresses that the shuffle moves, with what takes their places. -/
def moved (deviceAddresses randomized : List Text) : List (Text × Text) :=
  (deviceAddresses.zip randomized).filter fun e => e.1 ≠ e.2

/-- A moved address occurs as a word of its own only, in the text and in the replacements. -/
structure WholeWords (deviceAddresses randomized : List Text) (text : Text) : Prop where
  apart : ∀ e ∈ moved deviceAddresses randomized, ∀ e' ∈ moved deviceAddresses randomized,
    e.1 <:+: e'.2 → e'.2 = e.1
  words : ∀ e ∈ moved deviceAddresses randomized,
    ∀ w ∈ allWords (addressWords deviceAddresses text), e.1 <:+: w → w = e.1

/-- An address of the text is turned into another one whose turn comes later. -/
def Merges (deviceAddresses randomized : List Text) (text : Text) : Prop :=
  ∃ a b, a ≠ b ∧ Occurs deviceAddresses text a ∧ Occurs deviceAddresses text b ∧
    Turns (deviceAddresses.zip randomized) a b

end Export

/-! ## Word by word -/

section Words

variable {deviceAddresses randomized : List Text} {text : Text}

theorem addressMap_entries (hnodup : deviceAddresses.Nodup)
    (hlength : randomized.length = deviceAddresses.length) :
    (addressMap deviceAddresses randomized).entries = deviceAddresses.zip randomized := by
  refine Dict.entries_assign_empty ?_
  rw [List.map_fst_zip (Nat.le_of_eq hlength.symm)]
  exact hnodup

theorem replaceAddresses_eq_foldl (hnodup : deviceAddresses.Nodup)
    (hshuffle : randomized.Perm deviceAddresses) (s : Text) :
    replaceAddresses deviceAddresses randomized s =
      (deviceAddresses.zip randomized).foldl (fun s e => strReplace e.1 e.2 s) s := by
  rw [replaceAddresses, addressMap_entries hnodup hshuffle.length_eq]

theorem strReplace_self (p s : Text) : strReplace p p s = s := by
  unfold strReplace
  split
  next hnil => simp [hnil]
  next hne => exact replace_self hne

theorem mem_strReplace {o r s : Text} {c : Char} (h : c ∈ strReplace o r s) : c ∈ r ∨ c ∈ s := by
  unfold strReplace at h
  split at h
  · obtain h | h := List.mem_append.mp h
    · obtain ⟨d, hd, h⟩ := List.mem_flatMap.mp h
      obtain h | h := List.mem_append.mp h
      · exact .inl h
      · exact .inr (List.mem_singleton.mp h ▸ hd)
    · exact .inl h
  next hne => exact mem_replace hne h

/-- What a word becomes that has the original in it only if it is the original. -/
theorem strReplace_word {o w : Text} (h : o <:+: w → w = o) (r : Text) :
    strReplace o r w = if w = o then r else w := by
  by_cases hnil : o = []
  · subst hnil
    rw [h List.nil_infix]
    rfl
  · rw [strReplace, if_neg hnil, replace_word hnil h]

/-- A replacement goes word by word, the one of the empty text included. -/
theorem strReplace_joinWords {o : Text} {ws : Text × List (Char × Text)}
    (hseps : ∀ e ∈ ws.2, e.1 ∉ o) (r : Text) :
    strReplace o r (joinWords ws) = joinWords (mapWords (strReplace o r) ws) := by
  by_cases hnil : o = []
  · subst hnil
    obtain ⟨w, es⟩ := ws
    induction es generalizing w with
    | nil => simp [joinWords, mapWords]
    | cons e es ih =>
      have hrest := ih e.2 fun e' he' => hseps e' (List.mem_cons_of_mem _ he')
      have hsplit : strReplace [] r (w ++ e.1 :: joinWords (e.2, es)) =
          strReplace [] r w ++ e.1 :: strReplace [] r (joinWords (e.2, es)) := by
        simp [strReplace]
      exact hsplit.trans (congrArg (fun s => strReplace [] r w ++ e.1 :: s) hrest)
  · have hword : strReplace o r = replace o r := funext fun s => if_neg hnil
    rw [hword, replace_joinWords hnil hseps]

theorem foldl_strReplace_joinWords {pairs : List (Text × Text)} {ws : Text × List (Char × Text)}
    (hseps : ∀ e ∈ ws.2, ∀ p ∈ pairs, e.1 ∉ p.1) :
    pairs.foldl (fun s e => strReplace e.1 e.2 s) (joinWords ws) =
      joinWords (mapWords (pairs.foldl fun s e => strReplace e.1 e.2 s) ws) := by
  induction pairs generalizing ws with
  | nil =>
    have hid : mapWords (fun w => w) ws = ws := by simp [mapWords]
    exact congrArg joinWords hid.symm
  | cons p pairs ih =>
    have hstep := strReplace_joinWords (fun e he => hseps e he p List.mem_cons_self) p.2
    have hseps' : ∀ e ∈ (mapWords (strReplace p.1 p.2) ws).2, ∀ q ∈ pairs, e.1 ∉ q.1 := by
      intro e he q hq
      obtain ⟨e', he', rfl⟩ := List.mem_map.mp he
      exact hseps e' he' q (List.mem_cons_of_mem _ hq)
    rw [List.foldl_cons, hstep, ih hseps', mapWords_mapWords]
    rfl

theorem not_mem_of_separator {e : Char × Text} (he : e ∈ (addressWords deviceAddresses text).2) :
    ∀ a ∈ deviceAddresses, e.1 ∉ a := by
  intro a ha hmem
  have hnot := not_isWord_of_mem_splitWords he
  rw [isAddressSymbol, List.any_eq_false] at hnot
  exact hnot a ha (List.contains_iff_mem.mpr hmem)

/-- The loop changes a text word by word. -/
theorem replaceAddresses_eq (hnodup : deviceAddresses.Nodup)
    (hshuffle : randomized.Perm deviceAddresses) (text : Text) :
    replaceAddresses deviceAddresses randomized text =
      joinWords (mapWords (replaceAddresses deviceAddresses randomized)
        (addressWords deviceAddresses text)) := by
  have hseps : ∀ e ∈ (addressWords deviceAddresses text).2,
      ∀ p ∈ deviceAddresses.zip randomized, e.1 ∉ p.1 := fun e he p hp =>
    not_mem_of_separator he p.1 (List.of_mem_zip hp).1
  have hloop := funext (replaceAddresses_eq_foldl hnodup hshuffle)
  have hwords := foldl_strReplace_joinWords hseps
  rw [addressWords, joinWords_splitWords] at hwords
  rw [hloop]
  exact hwords

theorem isAddressSymbol_of_mem {a : Text} (ha : a ∈ deviceAddresses) :
    ∀ c ∈ a, isAddressSymbol deviceAddresses c = true := fun _ hc =>
  List.any_eq_true.mpr ⟨a, ha, List.contains_iff_mem.mpr hc⟩

theorem isAddressSymbol_replaceAddresses (hnodup : deviceAddresses.Nodup)
    (hshuffle : randomized.Perm deviceAddresses) {w : Text}
    (hw : ∀ c ∈ w, isAddressSymbol deviceAddresses c = true) :
    ∀ c ∈ replaceAddresses deviceAddresses randomized w,
      isAddressSymbol deviceAddresses c = true := by
  rw [replaceAddresses_eq_foldl hnodup hshuffle]
  refine List.foldlRecOn
    (motive := fun s => ∀ c ∈ s, isAddressSymbol deviceAddresses c = true) _ _ hw
    fun s hs e he c hc => ?_
  obtain hc | hc := mem_strReplace hc
  · exact isAddressSymbol_of_mem (hshuffle.mem_iff.mp (List.of_mem_zip he).2) c hc
  · exact hs c hc

/-- Texts made of the same separators are told apart by their words. -/
theorem eq_of_joinWords_eq {f g : Text → Text}
    (hf : ∀ w ∈ allWords (addressWords deviceAddresses text),
      ∀ c ∈ f w, isAddressSymbol deviceAddresses c = true)
    (hg : ∀ w ∈ allWords (addressWords deviceAddresses text),
      ∀ c ∈ g w, isAddressSymbol deviceAddresses c = true)
    (h : joinWords (mapWords f (addressWords deviceAddresses text)) =
      joinWords (mapWords g (addressWords deviceAddresses text))) :
    ∀ w ∈ allWords (addressWords deviceAddresses text), f w = g w := by
  have hsplit : ∀ {f : Text → Text}, (∀ w ∈ allWords (addressWords deviceAddresses text),
      ∀ c ∈ f w, isAddressSymbol deviceAddresses c = true) →
      splitWords (isAddressSymbol deviceAddresses)
          (joinWords (mapWords f (addressWords deviceAddresses text))) =
        mapWords f (addressWords deviceAddresses text) := by
    intro f hf
    refine splitWords_joinWords ?_ ?_
    · intro w hw
      rw [allWords_mapWords] at hw
      obtain ⟨w', hw', rfl⟩ := List.mem_map.mp hw
      exact hf w' hw'
    · intro e he
      obtain ⟨e', he', rfl⟩ := List.mem_map.mp he
      exact not_isWord_of_mem_splitWords (e := e') he'
  have hmap := congrArg (splitWords (isAddressSymbol deviceAddresses)) h
  rw [hsplit hf, hsplit hg] at hmap
  exact eq_of_mapWords_eq hmap

/-- A text is renamed by a one-to-one mapping if and only if each of its words is. -/
theorem replaceAddresses_eq_renameAddresses_iff (hnodup : deviceAddresses.Nodup)
    (hshuffle : randomized.Perm deviceAddresses) {f : Text → Text}
    (hf : OneToOne deviceAddresses f text) :
    replaceAddresses deviceAddresses randomized text = renameAddresses deviceAddresses f text ↔
      ∀ w ∈ allWords (addressWords deviceAddresses text),
        replaceAddresses deviceAddresses randomized w =
          if w ∈ deviceAddresses then f w else w := by
  rw [replaceAddresses_eq hnodup hshuffle]
  refine ⟨eq_of_joinWords_eq ?_ ?_, fun h => congrArg joinWords (mapWords_congr h)⟩
  · exact fun w hw =>
      isAddressSymbol_replaceAddresses hnodup hshuffle (isWord_of_mem_splitWords hw)
  · intro w hw
    split
    next hmem => exact isAddressSymbol_of_mem (hf.mem w ⟨hmem, hw⟩)
    · exact isWord_of_mem_splitWords hw

theorem renameAddresses_self (deviceAddresses : List Text) (text : Text) :
    renameAddresses deviceAddresses id text = text := by
  have hid : mapWords (fun w => if w ∈ deviceAddresses then id w else w)
      (addressWords deviceAddresses text) = mapWords id (addressWords deviceAddresses text) :=
    mapWords_congr fun w _ => ite_self w
  have hself : mapWords id (addressWords deviceAddresses text) =
      addressWords deviceAddresses text := by simp [mapWords]
  rw [renameAddresses, hid, hself, addressWords, joinWords_splitWords]

/-! ## Whole words -/

/-- The replacements rename a word one after the other. -/
theorem foldl_strReplace {pairs : List (Text × Text)} {w : Text}
    (hapart : ∀ e ∈ pairs, e.1 ≠ e.2 → ∀ e' ∈ pairs, e'.1 ≠ e'.2 → e.1 <:+: e'.2 → e'.2 = e.1)
    (hword : ∀ e ∈ pairs, e.1 ≠ e.2 → e.1 <:+: w → w = e.1) :
    pairs.foldl (fun s e => strReplace e.1 e.2 s) w = rename pairs w := by
  induction pairs generalizing w with
  | nil => rfl
  | cons e pairs ih =>
    have hapart' := fun e₁ (he₁ : e₁ ∈ pairs) hne₁ e₂ (he₂ : e₂ ∈ pairs) =>
      hapart e₁ (List.mem_cons_of_mem _ he₁) hne₁ e₂ (List.mem_cons_of_mem _ he₂)
    have hword' := fun e' (he' : e' ∈ pairs) => hword e' (List.mem_cons_of_mem _ he')
    rw [List.foldl_cons, rename_cons]
    by_cases hmoved : e.1 = e.2
    · have hstays : (if w = e.1 then e.2 else w) = w := by
        rw [← hmoved]
        exact ite_eq_right_iff.mpr Eq.symm
      rw [hstays, ← hmoved, strReplace_self]
      exact ih hapart' hword'
    · rw [strReplace_word (hword e List.mem_cons_self hmoved)]
      apply ih hapart'
      intro e' he' hne'
      split
      · exact hapart e' (List.mem_cons_of_mem _ he') hne' e List.mem_cons_self hmoved
      · exact hword' e' he' hne'

theorem rename_mem {pairs : List (Text × Text)} (hpairs : ∀ e ∈ pairs, e.2 ∈ deviceAddresses)
    {a : Text} (ha : a ∈ deviceAddresses) : rename pairs a ∈ deviceAddresses := by
  induction pairs generalizing a with
  | nil => exact ha
  | cons e pairs ih =>
    rw [rename_cons]
    refine ih (fun e' he' => hpairs e' (List.mem_cons_of_mem _ he')) ?_
    split
    · exact hpairs e List.mem_cons_self
    · exact ha

theorem rename_of_not_mem {pairs : List (Text × Text)}
    (hpairs : ∀ e ∈ pairs, e.1 ∈ deviceAddresses) {w : Text} (hw : w ∉ deviceAddresses) :
    rename pairs w = w := by
  induction pairs with
  | nil => rfl
  | cons e pairs ih =>
    have hne : w ≠ e.1 := fun heq => hw (heq ▸ hpairs e List.mem_cons_self)
    rw [rename_cons, if_neg hne]
    exact ih fun e' he' => hpairs e' (List.mem_cons_of_mem _ he')

theorem replaceAddresses_word (hnodup : deviceAddresses.Nodup)
    (hshuffle : randomized.Perm deviceAddresses) (h : WholeWords deviceAddresses randomized text)
    {w : Text} (hw : w ∈ allWords (addressWords deviceAddresses text)) :
    replaceAddresses deviceAddresses randomized w =
      if w ∈ deviceAddresses then rename (deviceAddresses.zip randomized) w else w := by
  have hmoved : ∀ e ∈ deviceAddresses.zip randomized, e.1 ≠ e.2 →
      e ∈ moved deviceAddresses randomized := fun e he hne =>
    List.mem_filter.mpr ⟨he, decide_eq_true hne⟩
  have hrename : replaceAddresses deviceAddresses randomized w =
      rename (deviceAddresses.zip randomized) w := by
    rw [replaceAddresses_eq_foldl hnodup hshuffle]
    exact foldl_strReplace
      (fun e he hne e' he' hne' => h.apart e (hmoved e he hne) e' (hmoved e' he' hne'))
      fun e he hne => h.words e (hmoved e he hne) w hw
  rw [hrename]
  split
  · rfl
  next hw => exact rename_of_not_mem (fun e he => (List.of_mem_zip he).1) hw

end Words

/-! ## When the renaming is one-to-one -/

section Renaming

variable {δ D : Type*} {dumps : D → Option Text} {loads : Text → Option D} {devices : Dict Text δ}
  {randomized : List Text} {data : D} {text : Text}

theorem prepareSaveData_of_dumps (hkeys : devices.keys ≠ []) :
    prepareSaveData dumps loads devices randomized data true =
      (dumps data).bind fun text => loads (replaceAddresses devices.keys randomized text) := by
  have hsome : devices.keys.isEmpty = false := by simpa using hkeys
  rw [prepareSaveData, hsome, exportedText, Option.bind_map]
  rfl

/-- The text that was serialised is renamed, and is read back. -/
theorem renamed_iff_exists (hkeys : devices.keys ≠ []) (hdumps : dumps data = some text) :
    Renamed dumps loads devices randomized data ↔
      (loads (replaceAddresses devices.keys randomized text)).isSome = true ∧
        ∃ f, OneToOne devices.keys f text ∧
          replaceAddresses devices.keys randomized text =
            renameAddresses devices.keys f text := by
  rw [Renamed, prepareSaveData_of_dumps hkeys, hdumps]
  constructor
  · rintro ⟨exported, hexported, ⟨hnil, -⟩ | ⟨text', f, htext, hf, heq, hloads⟩⟩
    · exact absurd hnil hkeys
    · cases htext
      exact ⟨Option.isSome_iff_exists.mpr ⟨exported, hexported⟩, f, hf, heq⟩
  · rintro ⟨hread, f, hf, heq⟩
    obtain ⟨exported, hloads⟩ := Option.isSome_iff_exists.mp hread
    exact ⟨exported, hloads, .inr ⟨text, f, rfl, hf, heq, heq ▸ hloads⟩⟩

/-- Word for word: what is no address stays, and the addresses are mapped one to one. -/
theorem renamed_iff_words (hshuffle : randomized.Perm devices.keys) (hkeys : devices.keys ≠ [])
    (hdumps : dumps data = some text) :
    Renamed dumps loads devices randomized data ↔
      (loads (replaceAddresses devices.keys randomized text)).isSome = true ∧
        (∀ w ∈ allWords (addressWords devices.keys text), w ∉ devices.keys →
          replaceAddresses devices.keys randomized w = w) ∧
        OneToOne devices.keys (replaceAddresses devices.keys randomized) text := by
  rw [renamed_iff_exists hkeys hdumps]
  refine and_congr_right fun _ => ⟨?_, ?_⟩
  · rintro ⟨f, hf, heq⟩
    have hwords := (replaceAddresses_eq_renameAddresses_iff devices.nodup hshuffle hf).mp heq
    have haddress : ∀ a, Occurs devices.keys text a →
        replaceAddresses devices.keys randomized a = f a := fun a ha =>
      (hwords a ha.2).trans (if_pos ha.1)
    refine ⟨fun w hw hnot => (hwords w hw).trans (if_neg hnot), fun a ha => ?_,
      fun a b ha hb h => hf.injective a b ha hb ?_⟩
    · exact haddress a ha ▸ hf.mem a ha
    · rwa [haddress a ha, haddress b hb] at h
  · rintro ⟨hstays, hone⟩
    refine ⟨_, hone, (replaceAddresses_eq_renameAddresses_iff devices.nodup hshuffle hone).mpr ?_⟩
    intro w hw
    split
    · rfl
    next hnot => exact hstays w hw hnot

theorem rename_zip_eq_iff (hshuffle : randomized.Perm devices.keys) {a b : Text} (hne : a ≠ b) :
    rename (devices.keys.zip randomized) a = rename (devices.keys.zip randomized) b ↔
      Turns (devices.keys.zip randomized) a b ∨ Turns (devices.keys.zip randomized) b a := by
  have hlength := hshuffle.length_eq
  apply rename_eq_rename_iff _ _ hne
  · rw [List.map_fst_zip (Nat.le_of_eq hlength.symm)]
    exact devices.nodup
  · rw [List.map_snd_zip (Nat.le_of_eq hlength)]
    exact hshuffle.nodup_iff.mpr devices.nodup

theorem oneToOne_rename_iff (hshuffle : randomized.Perm devices.keys) :
    OneToOne devices.keys (rename (devices.keys.zip randomized)) text ↔
      ¬ Merges devices.keys randomized text := by
  constructor
  · rintro hone ⟨a, b, hne, ha, hb, hturns⟩
    exact hne (hone.injective a b ha hb ((rename_zip_eq_iff hshuffle hne).mpr (.inl hturns)))
  · intro hmerges
    refine ⟨fun a ha => rename_mem (fun e he => ?_) ha.1, fun a b ha hb heq => ?_⟩
    · exact hshuffle.mem_iff.mp (List.of_mem_zip he).2
    · by_contra hne
      obtain hturns | hturns := (rename_zip_eq_iff hshuffle hne).mp heq
      · exact hmerges ⟨a, b, hne, ha, hb, hturns⟩
      · exact hmerges ⟨b, a, Ne.symm hne, hb, ha, hturns⟩

/-- Where moved addresses occur as whole words, the renaming is one-to-one unless two addresses
merge. -/
theorem renamed_iff_of_wholeWords (hshuffle : randomized.Perm devices.keys)
    (hkeys : devices.keys ≠ []) (hdumps : dumps data = some text)
    (hwhole : WholeWords devices.keys randomized text) :
    Renamed dumps loads devices randomized data ↔
      (loads (renameAddresses devices.keys (rename (devices.keys.zip randomized)) text)).isSome =
          true ∧
        ¬ Merges devices.keys randomized text := by
  have hword : ∀ w ∈ allWords (addressWords devices.keys text),
      replaceAddresses devices.keys randomized w =
        if w ∈ devices.keys then rename (devices.keys.zip randomized) w else w :=
    fun w hw => replaceAddresses_word devices.nodup hshuffle hwhole hw
  have htext : replaceAddresses devices.keys randomized text =
      renameAddresses devices.keys (rename (devices.keys.zip randomized)) text := by
    refine (replaceAddresses_eq devices.nodup hshuffle text).trans ?_
    exact congrArg joinWords (mapWords_congr hword)
  have haddress : ∀ a, Occurs devices.keys text a →
      replaceAddresses devices.keys randomized a = rename (devices.keys.zip randomized) a :=
    fun a ha => (hword a ha.2).trans (if_pos ha.1)
  rw [renamed_iff_words hshuffle hkeys hdumps, htext, ← oneToOne_rename_iff hshuffle]
  refine and_congr_right fun _ => ⟨?_, fun hone => ⟨fun w hw hnot => ?_, ?_⟩⟩
  · rintro ⟨-, hone⟩
    exact hone.congr haddress
  · exact (hword w hw).trans (if_neg hnot)
  · exact hone.congr fun a ha => (haddress a ha).symm

theorem eq_of_turns_self {pairs : List (Text × Text)} (hself : ∀ e ∈ pairs, e.1 = e.2) {a b : Text}
    (h : Turns pairs a b) : a = b := by
  induction h with
  | now => exact hself _ List.mem_cons_self
  | on _ _ ih =>
    have heq := hself _ List.mem_cons_self
    exact heq.trans (ih fun e he => hself e (List.mem_cons_of_mem _ he))
  | later _ _ _ ih => exact ih fun e he => hself e (List.mem_cons_of_mem _ he)

theorem eq_of_not_turns {addresses shuffled : List Text} (hnodup : addresses.Nodup)
    (hshuffle : shuffled.Perm addresses)
    (h : ∀ a ∈ addresses, ∀ b ∈ addresses, a ≠ b → ¬ Turns (addresses.zip shuffled) a b) :
    shuffled = addresses := by
  induction addresses generalizing shuffled with
  | nil => exact List.perm_nil.mp hshuffle
  | cons address addresses ih =>
    obtain ⟨first, rest, rfl⟩ := List.exists_cons_of_length_eq_add_one hshuffle.length_eq
    obtain ⟨hnew, hrest⟩ := List.nodup_cons.mp hnodup
    have hfirst : first = address := by
      by_contra hne
      exact h address List.mem_cons_self first (hshuffle.mem_iff.mp List.mem_cons_self)
        (Ne.symm hne) .now
    subst hfirst
    refine congrArg (first :: ·) (ih hrest (List.perm_cons first |>.mp hshuffle) ?_)
    intro a ha b hb hne hturns
    have hnot : ∀ a ∈ addresses, first ≠ a := fun a ha heq => hnew (heq ▸ ha)
    exact h a (List.mem_cons_of_mem _ ha) b (List.mem_cons_of_mem _ hb) hne
      (.later (hnot a ha) (hnot b hb) hturns)

theorem fst_eq_snd_of_mem_zip_self {addresses : List Text} {e : Text × Text}
    (he : e ∈ addresses.zip addresses) : e.1 = e.2 := by
  have hzip : addresses.zip addresses = addresses.map fun a => (a, a) := List.zipWith_self
  rw [hzip] at he
  obtain ⟨a, -, rfl⟩ := List.mem_map.mp he
  rfl

/-- With all device addresses in the session, only the shuffle that changes nothing will do. -/
theorem merges_of_all_occur (hshuffle : randomized.Perm devices.keys)
    (hall : ∀ a ∈ devices.keys, Occurs devices.keys text a) :
    ¬ Merges devices.keys randomized text ↔ randomized = devices.keys := by
  constructor
  · intro hmerges
    refine eq_of_not_turns devices.nodup hshuffle fun a ha b hb hne hturns => ?_
    exact hmerges ⟨a, b, hne, hall a ha, hall b hb, hturns⟩
  · rintro rfl ⟨a, b, hne, -, -, hturns⟩
    exact hne (eq_of_turns_self (fun e he => fst_eq_snd_of_mem_zip_self he) hturns)

/-- A shuffle that moves no address changes nothing. -/
theorem renamed_iff_of_unmoved (hkeys : devices.keys ≠ []) (hdumps : dumps data = some text)
    (hunmoved : randomized = devices.keys) :
    Renamed dumps loads devices randomized data ↔ (loads text).isSome = true := by
  have hstays : replaceAddresses devices.keys randomized text = text := by
    subst hunmoved
    refine (replaceAddresses_eq_foldl devices.nodup (.refl _) text).trans ?_
    refine List.foldlRecOn (motive := fun s => s = text) _ _ rfl fun s hs e he => ?_
    rw [← fst_eq_snd_of_mem_zip_self he, strReplace_self]
    exact hs
  rw [renamed_iff_exists hkeys hdumps, hstays]
  refine and_iff_left ⟨id, ⟨fun a ha => ha.1, fun a b _ _ heq => heq⟩, ?_⟩
  exact (renameAddresses_self devices.keys text).symm

def firstAddress : Text := "VCU0000001".toList

def secondAddress : Text := "VCU0000002".toList

def twoDevices : Dict Text Unit := (Dict.empty.set firstAddress ()).set secondAddress ()

def shuffled : List Text := [secondAddress, firstAddress]

def units (s : Text) : List Nat := s.map Char.toNat

/-- A session with the first device only. -/
def oneSession : Lib.Json := .obj [(units (firstAddress ++ ":1".toList), .arr [])]

def oneAddress : Text := "\x7b\"".toList ++ firstAddress ++ ":1\":[]\x7d".toList

/-- Serialises `oneSession`. -/
def dumpsOne (_ : Lib.Json) : Option Text := some oneAddress

/-- A session with both devices. -/
def bothSession : Lib.Json := .obj [(units firstAddress, .arr [.str (units secondAddress)])]

def bothAddresses : Text :=
  "\x7b\"".toList ++ firstAddress ++ "\":[\"".toList ++ secondAddress ++ "\"]\x7d".toList

/-- Serialises `bothSession`. -/
def dumpsBoth (_ : Lib.Json) : Option Text := some bothAddresses

end Renaming

end AioHomematic.Store.Persistent
