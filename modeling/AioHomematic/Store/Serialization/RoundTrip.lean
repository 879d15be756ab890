import Mathlib.Data.List.Induction
import AioHomematic.Lib.PyLiteral.Reading
import AioHomematic.Lib.PyLiteral.Shorter
import AioHomematic.Store.Serialization

/-!
# Frozen parameters that come back

A frozen container is the text of a container of strings, and reading it gives these strings back
(`literalEval_pyStr`). What happens to them then is `walkStr`: `inside_iff` says which items of a
container come back, `roundTrips_iff_recoverable` which parameters.
-/

/-!
## What frozen parameters are read as

`Same` is equality up to lists and tuples and the order of sets and dictionaries. Inside a
container only the text of an item is kept, and `walkStr` is all that is done to read it again:
`inside_iff` says which items come back.
-/

namespace AioHomematic.Store

open Lib PyValue

variable {F : Type}

/-! ## Sameness -/

mutual

/-- Equal up to lists and tuples and the order of sets and dictionaries. -/
def Same : PyValue F → PyValue F → Prop
  | .list xs => fun w =>
    ∃ ys, (w = .list ys ∨ w = .tuple ys) ∧ List.Forall₂ (fun p y => p y) (sameItems xs) ys
  | .tuple xs => fun w =>
    ∃ ys, (w = .list ys ∨ w = .tuple ys) ∧ List.Forall₂ (fun p y => p y) (sameItems xs) ys
  | .set xs => fun w => ∃ ys, w = .set ys ∧
    (∀ p ∈ sameItems xs, ∃ y ∈ ys, p y) ∧ ∀ y ∈ ys, ∃ p ∈ sameItems xs, p y
  | .dict es => fun w => ∃ fs, w = .dict fs ∧
    (∀ p ∈ sameValues es, ∃ f ∈ fs, f.1 = p.1 ∧ p.2 f.2) ∧
      ∀ f ∈ fs, ∃ p ∈ sameValues es, f.1 = p.1
  | v => fun w => w = v

/-- For every item, what is the same as it. -/
def sameItems : List (PyValue F) → List (PyValue F → Prop)
  | [] => []
  | x :: xs => Same x :: sameItems xs

def sameValues : List (PyValue F × PyValue F) → List (PyValue F × (PyValue F → Prop))
  | [] => []
  | (k, v) :: es => (k, Same v) :: sameValues es

end

theorem sameItems_eq (xs : List (PyValue F)) : sameItems xs = xs.map Same := by
  induction xs with
  | nil => rfl
  | cons x xs ih => rw [sameItems, ih, List.map_cons]

theorem sameValues_eq (es : List (PyValue F × PyValue F)) :
    sameValues es = es.map fun e => (e.1, Same e.2) := by
  induction es with
  | nil => rfl
  | cons e es ih => rw [sameValues, ih, List.map_cons]

theorem same_list {xs : List (PyValue F)} {w : PyValue F} :
    Same (.list xs) w ↔ ∃ ys, (w = .list ys ∨ w = .tuple ys) ∧ List.Forall₂ Same xs ys := by
  rw [Same]
  simp only [sameItems_eq, List.forall₂_map_left_iff]

theorem same_tuple {xs : List (PyValue F)} {w : PyValue F} :
    Same (.tuple xs) w ↔ ∃ ys, (w = .list ys ∨ w = .tuple ys) ∧ List.Forall₂ Same xs ys := by
  rw [Same]
  simp only [sameItems_eq, List.forall₂_map_left_iff]

theorem same_set {xs : List (PyValue F)} {w : PyValue F} :
    Same (.set xs) w ↔ ∃ ys, w = .set ys ∧ (∀ x ∈ xs, ∃ y ∈ ys, Same x y) ∧
      ∀ y ∈ ys, ∃ x ∈ xs, Same x y := by
  rw [Same]
  simp only [sameItems_eq, List.mem_map, exists_exists_and_eq_and, forall_exists_index,
    and_imp, forall_apply_eq_imp_iff₂]

theorem same_dict {es : List (PyValue F × PyValue F)} {w : PyValue F} :
    Same (.dict es) w ↔ ∃ fs, w = .dict fs ∧
      (∀ e ∈ es, ∃ f ∈ fs, f.1 = e.1 ∧ Same e.2 f.2) ∧ ∀ f ∈ fs, ∃ e ∈ es, f.1 = e.1 := by
  rw [Same]
  simp only [sameValues_eq, List.mem_map, exists_exists_and_eq_and, forall_exists_index,
    and_imp, forall_apply_eq_imp_iff₂]

/-- Only a string is the same as a string. -/
theorem same_str {v : PyValue F} {s : String} : Same v (.str s) ↔ v = .str s := by
  constructor
  · intro h
    cases v with
    | list xs => obtain ⟨ys, h | h, -⟩ := same_list.mp h <;> cases h
    | tuple xs => obtain ⟨ys, h | h, -⟩ := same_tuple.mp h <;> cases h
    | set xs =>
      obtain ⟨ys, h, -⟩ := same_set.mp h
      cases h
    | dict es =>
      obtain ⟨fs, h, -⟩ := same_dict.mp h
      cases h
    | _ => exact Eq.symm h
  · rintro rfl
    rfl

variable [FiniteFloat F]

/-! ## Well-formed values -/

mutual

/-- A value that parameters can have: keys and elements are hashable, and none occurs twice. -/
def wellFormed : PyValue F → Bool
  | .datetime _ => false
  | .foreign _ => false
  | .list xs => wellFormedItems xs
  | .tuple xs => wellFormedItems xs
  | .set xs => decide (KeysOk xs) && wellFormedItems xs
  | .dict es => decide (KeysOk (es.map Prod.fst)) && wellFormedEntries es
  | _ => true

def wellFormedItems : List (PyValue F) → Bool
  | [] => true
  | x :: xs => wellFormed x && wellFormedItems xs

def wellFormedEntries : List (PyValue F × PyValue F) → Bool
  | [] => true
  | (k, v) :: es => wellFormed k && wellFormed v && wellFormedEntries es

end

theorem wellFormedItems_iff {xs : List (PyValue F)} :
    wellFormedItems xs = true ↔ ∀ x ∈ xs, wellFormed x = true := by
  induction xs with
  | nil => simp [wellFormedItems]
  | cons x xs ih => simp [wellFormedItems, ih]

theorem wellFormedEntries_iff {es : List (PyValue F × PyValue F)} :
    wellFormedEntries es = true ↔ ∀ e ∈ es, wellFormed e.1 = true ∧ wellFormed e.2 = true := by
  induction es with
  | nil => simp [wellFormedEntries]
  | cons e es ih =>
    obtain ⟨k, v⟩ := e
    simp [wellFormedEntries, ih]

mutual

/-- What is hashable is written without lists and sets. -/
theorem isPlain_of_hashable : ∀ k : PyValue F, wellFormed k = true → hashable k = true →
    isPlain k = true
  | .str _, _, _ => rfl
  | .int _, _, _ => rfl
  | .float _, _, _ => rfl
  | .bool _, _, _ => rfl
  | .none, _, _ => rfl
  | .tuple xs, hwf, hhash => arePlain_of_hashable xs hwf hhash

theorem arePlain_of_hashable : ∀ ks : List (PyValue F), wellFormedItems ks = true →
    hashableItems ks = true → arePlain ks = true
  | [], _, _ => rfl
  | k :: ks, hwf, hhash => by
    rw [wellFormedItems, Bool.and_eq_true] at hwf
    rw [hashableItems, Bool.and_eq_true] at hhash
    rw [arePlain, isPlain_of_hashable k hwf.1 hhash.1, arePlain_of_hashable ks hwf.2 hhash.2]
    rfl

end

end AioHomematic.Store

namespace AioHomematic.Store

open Lib PyValue Support

variable {F : Type} [FiniteFloat F]

/-- What is known of the literals that are not the `repr` of a value. -/
structure LiteralLaws (py : PyText F) : Prop where
  /-- A string is shorter than the literal it is in. -/
  shorter : ∀ s v, py.otherLiteral s = some v → ∀ t ∈ v.strings, t.length < s.length
  /-- In braces are sets and dictionaries. -/
  braces : ∀ s v, s.head? = some '{' → py.otherLiteral s = some v → v.hashable = false
  /-- The names of infinities and NaN are no literals. -/
  names : ∀ v : PyValue F, isPlain v = true → isFinite v = false →
    py.otherLiteral (v.repr py.printable) = Option.none

variable {py : PyText F}

/-! ## Texts that are read again -/

theorem pyStr_eq {v : PyValue F} (h : ∀ s, v ≠ .str s) :
    pyStr py v = String.ofList (v.repr py.printable) := by
  cases v with
  | str s => exact absurd rfl (h s)
  | _ => rfl

theorem literalEval_pyStr (laws : LiteralLaws py) {v : PyValue F} (hplain : isPlain v = true)
    (hstr : ∀ s, v ≠ .str s) :
    literalEval py (pyStr py v) = if isFinite v then some v else Option.none := by
  rw [pyStr_eq hstr, literalEval, String.toList_ofList, unrepr_repr py.printable hplain]
  cases hfinite : isFinite v with
  | true => rfl
  | false => exact laws.names v hplain hfinite

theorem hashable_of_braces (laws : LiteralLaws py) {s : String} {v : PyValue F}
    (hs : InBraces s) (h : literalEval py s = some v) : v.hashable = false := by
  obtain h | ⟨-, h⟩ := Option.or_eq_some_iff.mp h
  · obtain ⟨es, rfl⟩ := dict_of_unrepr hs.1 h
    rfl
  · exact laws.braces _ v hs.1 h

theorem length_lt_of_literalEval (laws : LiteralLaws py) {s : String} {v : PyValue F}
    (h : literalEval py s = some v) : ∀ t ∈ v.strings, t.length < s.length := by
  rw [← String.length_toList (s := s)]
  obtain h | ⟨-, h⟩ := Option.or_eq_some_iff.mp h
  · exact length_lt_of_unrepr h
  · exact laws.shorter _ v h

theorem isPlain_strs (fs : List String) :
    arePlain (fs.map PyValue.str : List (PyValue F)) = true := by
  induction fs with
  | nil => rfl
  | cons f fs ih => simpa [arePlain, isPlain] using ih

omit [FiniteFloat F] in
theorem isFinite_strs (fs : List String) :
    areFinite (fs.map PyValue.str : List (PyValue F)) = true := by
  induction fs with
  | nil => rfl
  | cons f fs ih => simpa [areFinite, isFinite] using ih

/-- A dictionary of texts. -/
def textEntries (frozen : List (PyValue F × String)) : List (PyValue F × PyValue F) :=
  frozen.map fun e => (e.1, .str e.2)

omit [FiniteFloat F] in
theorem keys_textEntries (frozen : List (PyValue F × String)) :
    (textEntries frozen).map Prod.fst = frozen.map Prod.fst := by
  rw [textEntries, List.map_map]
  rfl

theorem entriesPlain_texts {frozen : List (PyValue F × String)} :
    entriesPlain (textEntries frozen) = true ↔ ∀ e ∈ frozen, isPlain e.1 = true := by
  induction frozen with
  | nil => simp [textEntries, entriesPlain]
  | cons e frozen ih =>
    rw [textEntries] at ih
    simp [textEntries, entriesPlain, isPlain, ih]

omit [FiniteFloat F] in
theorem entriesFinite_texts {frozen : List (PyValue F × String)} :
    entriesFinite (textEntries frozen) = true ↔ ∀ e ∈ frozen, isFinite e.1 = true := by
  induction frozen with
  | nil => simp [textEntries, entriesFinite]
  | cons e frozen ih =>
    rw [textEntries] at ih
    simp [textEntries, entriesFinite, isFinite, ih]

/-! ## Items -/

theorem freezeItems_eq_some {xs : List (PyValue F)} {fs : List String} :
    freezeItems py xs = some fs ↔ List.Forall₂ (fun x f => freezeParams py x = some f) xs fs := by
  induction xs generalizing fs with
  | nil => rw [freezeItems, List.forall₂_nil_left_iff, Option.some_inj, eq_comm]
  | cons x xs ih =>
    rw [freezeItems, Option.bind_eq_some_iff]
    constructor
    · rintro ⟨f, hf, hrest⟩
      obtain ⟨fs, hfs, rfl⟩ := Option.map_eq_some_iff.mp hrest
      exact .cons hf (ih.mp hfs)
    · intro h
      cases h with
      | cons hf hfs => exact ⟨_, hf, Option.map_eq_some_iff.mpr ⟨_, ih.mpr hfs, rfl⟩⟩

theorem freezeValues_eq_some {es : List (PyValue F × PyValue F)}
    {frozen : List (PyValue F × String)} : freezeValues py es = some frozen ↔
      List.Forall₂ (fun e f => f.1 = e.1 ∧ freezeParams py e.2 = some f.2) es frozen := by
  induction es generalizing frozen with
  | nil => rw [freezeValues, List.forall₂_nil_left_iff, Option.some_inj, eq_comm]
  | cons e es ih =>
    rw [freezeValues, Option.bind_eq_some_iff]
    constructor
    · rintro ⟨f, hf, hrest⟩
      obtain ⟨fs, hfs, rfl⟩ := Option.map_eq_some_iff.mp hrest
      exact .cons ⟨rfl, hf⟩ (ih.mp hfs)
    · intro h
      cases h with
      | @cons _ f _ fs hf hfs =>
        refine ⟨f.2, hf.2, Option.map_eq_some_iff.mpr ⟨fs, ih.mpr hfs, ?_⟩⟩
        rw [← hf.1]

theorem walkItems_strs {fs : List String} {zs : List (PyValue F)} :
    walkItems py (fs.map .str) = some zs ↔
      List.Forall₂ (fun f z => walkStr py f = some z) fs zs := by
  induction fs generalizing zs with
  | nil => rw [List.map_nil, walkItems, List.forall₂_nil_left_iff, Option.some_inj, eq_comm]
  | cons f fs ih =>
    rw [List.map_cons, walkItems, walk, Option.bind_eq_some_iff]
    constructor
    · rintro ⟨z, hz, hrest⟩
      obtain ⟨zs, hzs, rfl⟩ := Option.map_eq_some_iff.mp hrest
      exact .cons hz (ih.mp hzs)
    · intro h
      cases h with
      | cons hz hzs => exact ⟨_, hz, Option.map_eq_some_iff.mpr ⟨_, ih.mpr hzs, rfl⟩⟩

theorem walkValues_texts {frozen : List (PyValue F × String)} {zs : List (PyValue F × PyValue F)} :
    walkValues py (textEntries frozen) = some zs ↔
      List.Forall₂ (fun f z => z.1 = f.1 ∧ walkStr py f.2 = some z.2) frozen zs := by
  unfold textEntries
  induction frozen generalizing zs with
  | nil => rw [List.map_nil, walkValues, List.forall₂_nil_left_iff, Option.some_inj, eq_comm]
  | cons f frozen ih =>
    rw [List.map_cons, walkValues, walk, Option.bind_eq_some_iff]
    constructor
    · rintro ⟨z, hz, hrest⟩
      obtain ⟨zs, hzs, rfl⟩ := Option.map_eq_some_iff.mp hrest
      exact .cons ⟨rfl, hz⟩ (ih.mp hzs)
    · intro h
      cases h with
      | @cons _ z _ zs hz hzs =>
        refine ⟨z.2, hz.2, Option.map_eq_some_iff.mpr ⟨zs, ih.mpr hzs, ?_⟩⟩
        rw [← hz.1]

theorem mem_of_forall₂ {α β : Type*} {R : α → β → Prop} {xs : List α} {ys : List β}
    (h : List.Forall₂ R xs ys) :
    (∀ x ∈ xs, ∃ y ∈ ys, R x y) ∧ ∀ y ∈ ys, ∃ x ∈ xs, R x y := by
  induction h with
  | nil => exact ⟨nofun, nofun⟩
  | cons h _ ih =>
    constructor
    · rintro x (_ | ⟨_, hx⟩)
      · exact ⟨_, List.mem_cons_self, h⟩
      · obtain ⟨y, hy, hxy⟩ := ih.1 x hx
        exact ⟨y, List.mem_cons_of_mem _ hy, hxy⟩
    · rintro y (_ | ⟨_, hy⟩)
      · exact ⟨_, List.mem_cons_self, h⟩
      · obtain ⟨x, hx, hxy⟩ := ih.2 y hy
        exact ⟨x, List.mem_cons_of_mem _ hx, hxy⟩

theorem exists_forall₂ {α β : Type*} {R : α → β → Prop} {xs : List α}
    (h : ∀ x ∈ xs, ∃ y, R x y) : ∃ ys, List.Forall₂ R xs ys := by
  induction xs with
  | nil => exact ⟨[], .nil⟩
  | cons x xs ih =>
    obtain ⟨y, hy⟩ := h x List.mem_cons_self
    obtain ⟨ys, hys⟩ := ih fun x hx => h x (List.mem_cons_of_mem _ hx)
    exact ⟨y :: ys, .cons hy hys⟩

/-- Three relations along a list. -/
theorem forall₂_chain {α β γ : Type*} {R : α → β → Prop} {S : β → γ → Prop} {T : α → γ → Prop}
    {xs : List α} :
    (∃ fs zs, List.Forall₂ R xs fs ∧ List.Forall₂ S fs zs ∧ List.Forall₂ T xs zs) ↔
      ∀ x ∈ xs, ∃ f z, R x f ∧ S f z ∧ T x z := by
  induction xs with
  | nil => simp
  | cons x xs ih =>
    rw [List.forall_mem_cons, ← ih]
    constructor
    · rintro ⟨fs, zs, hfs, hzs, hxs⟩
      cases hfs with
      | cons hR hRs =>
        cases hzs with
        | cons hS hSs =>
          cases hxs with
          | cons hT hTs => exact ⟨⟨_, _, hR, hS, hT⟩, _, _, hRs, hSs, hTs⟩
    · rintro ⟨⟨f, z, hR, hS, hT⟩, fs, zs, hRs, hSs, hTs⟩
      exact ⟨f :: fs, z :: zs, .cons hR hRs, .cons hS hSs, .cons hT hTs⟩

/-! ## How frozen values begin -/

theorem pyStr_tuple (xs : List (PyValue F)) :
    ∃ s, (pyStr py (.tuple xs)).toList = '(' :: s := by
  rw [pyStr_eq (v := .tuple xs) (fun s h => nomatch h), String.toList_ofList]
  cases xs with
  | nil => exact ⟨_, rfl⟩
  | cons x xs => cases xs <;> exact ⟨_, rfl⟩

theorem pyStr_word {v : PyValue F} {text : List Char} (hstr : ∀ s, v ≠ .str s)
    (htext : v.repr py.printable = text) (hne : text ≠ [])
    (hword : ∀ c ∈ text, isWordChar c = true) :
    ∃ c s, (pyStr py v).toList = c :: s ∧ c ≠ '\x7b' ∧ c ≠ '_' := by
  obtain ⟨c, s, rfl⟩ := List.exists_cons_of_ne_nil hne
  have hc := hword c List.mem_cons_self
  refine ⟨c, s, by rw [pyStr_eq hstr, String.toList_ofList, htext], ?_, ?_⟩ <;>
    (rintro rfl; revert hc; decide)

/-- What is neither a string nor a dictionary. -/
theorem frozen_head {x : PyValue F} {f : String} (hwf : wellFormed x = true)
    (hstr : ∀ s, x ≠ .str s) (hdict : ∀ es, x ≠ .dict es) (h : freezeParams py x = some f) :
    ∃ c s, f.toList = c :: s ∧ c ≠ '\x7b' ∧ c ≠ '_' := by
  have htuple : ∀ xs : List (PyValue F), f = pyStr py (.tuple xs) →
      ∃ c s, f.toList = c :: s ∧ c ≠ '\x7b' ∧ c ≠ '_' := by
    rintro xs rfl
    obtain ⟨s, hs⟩ : ∃ s, (pyStr py (.tuple xs)).toList = '(' :: s := pyStr_tuple xs
    exact ⟨'(', s, hs, by decide⟩
  have hname : ∀ text ∈ ["inf".toList, "-inf".toList, "nan".toList, "True".toList,
      "False".toList, "None".toList], x.repr py.printable = text →
      ∃ c s, (pyStr py x).toList = c :: s ∧ c ≠ '\x7b' ∧ c ≠ '_' := by
    have hword : ∀ text ∈ ["inf".toList, "-inf".toList, "nan".toList, "True".toList,
        "False".toList, "None".toList], text ≠ [] ∧ ∀ c ∈ text, isWordChar c = true :=
      words_of_all (by decide)
    intro text htext hrepr
    exact pyStr_word hstr hrepr (hword text htext).1 (hword text htext).2
  cases x with
  | str s => exact absurd rfl (hstr s)
  | dict es => exact absurd rfl (hdict es)
  | datetime d => cases hwf
  | foreign text => cases hwf
  | int n =>
    cases h
    exact pyStr_word hstr rfl (decimal_word n).1 (decimal_word n).2
  | float x =>
    cases h
    cases x with
    | finite x => exact pyStr_word hstr rfl (text_ne_nil x) (FiniteFloat.text_word x)
    | inf => exact hname "inf".toList (by decide) rfl
    | negInf => exact hname "-inf".toList (by decide) rfl
    | nan => exact hname "nan".toList (by decide) rfl
  | bool b =>
    cases h
    cases b with
    | true => exact hname "True".toList (by decide) rfl
    | false => exact hname "False".toList (by decide) rfl
  | none =>
    cases h
    exact hname "None".toList (by decide) rfl
  | list xs =>
    obtain ⟨fs, -, heq⟩ := Option.map_eq_some_iff.mp h
    exact htuple _ heq.symm
  | tuple xs =>
    obtain ⟨fs, -, heq⟩ := Option.map_eq_some_iff.mp h
    exact htuple _ heq.symm
  | set xs =>
    obtain ⟨fs, -, heq⟩ := Option.map_eq_some_iff.mp h
    exact htuple _ heq.symm

/-! ## Dictionaries -/

/-- The keys can be sorted and have literals. -/
def KeysReadable (es : List (PyValue F × PyValue F)) : Prop :=
  (sorted? es).isSome = true ∧ ∀ e ∈ es, isFinite e.1 = true

theorem sorted?_isSome {α : Type} {es : List (PyValue F × α)} :
    (sorted? es).isSome = true ↔
      (es.map Prod.fst).Pairwise fun k k' => (lt? k k').isSome = true := by
  rw [List.pairwise_map, sorted?]
  split <;> simp_all

theorem perm_of_sorted? {α : Type} {es sorted : List (PyValue F × α)}
    (h : sorted? es = some sorted) : sorted.Perm es := by
  unfold sorted? at h
  split at h
  · cases h
    exact List.perm_insertionSort _ _
  · cases h

theorem keysOk_perm {ks ks' : List (PyValue F)} (h : KeysOk ks) (hperm : ks.Perm ks') :
    KeysOk ks' :=
  ⟨fun k hk => h.1 k (hperm.mem_iff.mpr hk),
    hperm.pairwise h.2 fun hne => ⟨hne.2, hne.1⟩⟩

/-- A frozen dictionary is the text of a dictionary of frozen values. -/
theorem freezeParams_dict {es : List (PyValue F × PyValue F)} {f : String} :
    freezeParams py (.dict es) = some f ↔
      ∃ frozen sorted, List.Forall₂ (fun e f => f.1 = e.1 ∧ freezeParams py e.2 = some f.2) es
        frozen ∧ sorted? frozen = some sorted ∧ f = pyStr py (.dict (textEntries sorted)) := by
  rw [freezeParams, Option.bind_eq_some_iff]
  constructor
  · rintro ⟨frozen, hfrozen, h⟩
    obtain ⟨sorted, hsorted, rfl⟩ := Option.map_eq_some_iff.mp h
    exact ⟨frozen, sorted, freezeValues_eq_some.mp hfrozen, hsorted, rfl⟩
  · rintro ⟨frozen, sorted, hfrozen, hsorted, rfl⟩
    exact ⟨frozen, freezeValues_eq_some.mpr hfrozen,
      Option.map_eq_some_iff.mpr ⟨sorted, hsorted, rfl⟩⟩

section Dict

variable {es : List (PyValue F × PyValue F)} {frozen sorted : List (PyValue F × String)}

theorem keys_of_frozen
    (hfrozen : List.Forall₂ (fun e f => f.1 = e.1 ∧ freezeParams py e.2 = some f.2) es frozen) :
    frozen.map Prod.fst = es.map Prod.fst := by
  induction hfrozen with
  | nil => rfl
  | cons h _ ih => rw [List.map_cons, List.map_cons, h.1, ih]

/-- It is read again if its keys have literals. -/
theorem literalEval_dict (laws : LiteralLaws py) (hwf : wellFormed (.dict es) = true)
    (hkeys : frozen.map Prod.fst = es.map Prod.fst) (hperm : sorted.Perm frozen) :
    literalEval py (pyStr py (.dict (textEntries sorted))) =
      if entriesFinite (textEntries sorted) then some (.dict (textEntries sorted))
      else Option.none := by
  rw [wellFormed, Bool.and_eq_true, decide_eq_true_eq, wellFormedEntries_iff] at hwf
  have hmem : ∀ e ∈ sorted, ∃ e' ∈ es, e'.1 = e.1 := by
    intro e he
    have hkey : e.1 ∈ es.map Prod.fst := hkeys ▸ List.mem_map_of_mem (hperm.mem_iff.mp he)
    obtain ⟨e', he', heq⟩ := List.mem_map.mp hkey
    exact ⟨e', he', heq⟩
  refine literalEval_pyStr laws ?_ (fun s h => nomatch h)
  rw [isPlain, Bool.and_eq_true, decide_eq_true_eq, keys_textEntries, entriesPlain_texts]
  refine ⟨keysOk_perm hwf.1 (hkeys ▸ (hperm.map Prod.fst).symm), fun e he => ?_⟩
  obtain ⟨e', he', heq⟩ := hmem e he
  rw [← heq]
  exact isPlain_of_hashable e'.1 (hwf.2 e' he').1 (hwf.1.1 e'.1 (List.mem_map_of_mem he'))

omit [FiniteFloat F] in
theorem finite_of_keys (hkeys : frozen.map Prod.fst = es.map Prod.fst)
    (hperm : sorted.Perm frozen) :
    entriesFinite (textEntries sorted) = true ↔ ∀ e ∈ es, isFinite e.1 = true := by
  have hmem : ∀ k, k ∈ sorted.map Prod.fst ↔ k ∈ es.map Prod.fst := fun k => by
    rw [(hperm.map Prod.fst).mem_iff, hkeys]
  have hkeysFinite : ∀ {α : Type} {l : List (PyValue F × α)},
      (∀ e ∈ l, isFinite e.1 = true) ↔ ∀ k ∈ l.map Prod.fst, isFinite k = true := by
    intro α l
    rw [List.forall_mem_map]
  rw [entriesFinite_texts, hkeysFinite, hkeysFinite]
  exact forall_congr' fun k => by rw [hmem]

theorem sorted?_isSome_of_keys (hkeys : frozen.map Prod.fst = es.map Prod.fst) :
    (sorted? frozen).isSome = true ↔ (sorted? es).isSome = true := by
  rw [sorted?_isSome, sorted?_isSome, hkeys]

omit [FiniteFloat F] in
theorem mem_textEntries {e : PyValue F × PyValue F} :
    e ∈ textEntries sorted ↔ ∃ f ∈ sorted, (f.1, .str f.2) = e := List.mem_map

end Dict

theorem inBraces_dict (es : List (PyValue F × PyValue F)) : InBraces (pyStr py (.dict es)) := by
  have hentries : ∀ es : List (PyValue F × PyValue F),
      ∃ s, reprEntries py.printable es = s ++ ['\x7d'] := by
    intro es
    induction es with
    | nil => exact ⟨[], rfl⟩
    | cons e es ih =>
      obtain ⟨s, hs⟩ := ih
      refine ⟨',' :: ' ' :: (e.1.repr py.printable ++ ':' :: ' ' ::
        (e.2.repr py.printable ++ s)), ?_⟩
      rw [reprEntries, hs]
      simp only [List.append_assoc, List.cons_append]
  have hlast : ∃ s, (PyValue.dict es).repr py.printable = '\x7b' :: s ++ ['\x7d'] := by
    cases es with
    | nil => exact ⟨[], rfl⟩
    | cons e es =>
      obtain ⟨s, hs⟩ := hentries es
      refine ⟨e.1.repr py.printable ++ ':' :: ' ' :: (e.2.repr py.printable ++ s), ?_⟩
      rw [PyValue.repr, hs]
      simp only [List.append_assoc, List.cons_append]
  obtain ⟨s, hs⟩ := hlast
  rw [pyStr_eq (v := .dict es) (fun s h => nomatch h), InBraces, String.toList_ofList, hs]
  exact ⟨rfl, List.getLast?_concat⟩

/-! ## Items that come back -/

/-- An item of a container that comes back. -/
def Inside : PyValue F → Prop
  | .str s => ¬ InBraces s
  | .dict es => KeysReadable es ∧ ∀ e ∈ es, ∃ s, e.2 = .str s
  | _ => False

theorem inside_dict (laws : LiteralLaws py) {es : List (PyValue F × PyValue F)}
    (hwf : wellFormed (.dict es) = true) :
    (∃ f z, freezeParams py (.dict es) = some f ∧ walkStr py f = some z ∧ Same (.dict es) z) ↔
      Inside (.dict es) := by
  constructor
  · rintro ⟨f, z, hf, hz, hsame⟩
    obtain ⟨frozen, sorted, hfrozen, hsorted, rfl⟩ := freezeParams_dict.mp hf
    have hkeys := keys_of_frozen hfrozen
    have hperm := perm_of_sorted? hsorted
    rw [walkStr, if_pos (inBraces_dict _), literalEval_dict laws hwf hkeys hperm] at hz
    split at hz
    next hfinite =>
      cases hz
      refine ⟨⟨?_, (finite_of_keys hkeys hperm).mp hfinite⟩, fun e he => ?_⟩
      · rw [← sorted?_isSome_of_keys hkeys, hsorted]
        rfl
      · obtain ⟨fs, heq, hvalues, -⟩ := same_dict.mp hsame
        cases heq
        obtain ⟨t, ht, -, hvalue⟩ := hvalues e he
        obtain ⟨f, -, rfl⟩ := mem_textEntries.mp ht
        exact ⟨f.2, same_str.mp hvalue⟩
    · cases hz
  · rintro ⟨⟨hsortable, hfinite⟩, hstrs⟩
    have hfreeze : ∀ e ∈ es, ∃ f : PyValue F × String,
        f.1 = e.1 ∧ freezeParams py e.2 = some f.2 := by
      intro e he
      obtain ⟨s, hs⟩ := hstrs e he
      exact ⟨(e.1, s), rfl, by rw [hs]; rfl⟩
    obtain ⟨frozen, hfrozen⟩ := exists_forall₂ hfreeze
    have hkeys := keys_of_frozen hfrozen
    rw [← sorted?_isSome_of_keys hkeys, Option.isSome_iff_exists] at hsortable
    obtain ⟨sorted, hsorted⟩ := hsortable
    have hperm := perm_of_sorted? hsorted
    refine ⟨_, .dict (textEntries sorted),
      freezeParams_dict.mpr ⟨frozen, sorted, hfrozen, hsorted, rfl⟩, ?_, same_dict.mpr
        ⟨_, rfl, fun e he => ?_, fun t ht => ?_⟩⟩
    · rw [walkStr, if_pos (inBraces_dict _), literalEval_dict laws hwf hkeys hperm,
        if_pos ((finite_of_keys hkeys hperm).mpr hfinite)]
    · obtain ⟨s, hs⟩ := hstrs e he
      obtain ⟨f, hf, hkey, hvalue⟩ := (mem_of_forall₂ hfrozen).1 e he
      rw [hs] at hvalue
      cases hvalue
      exact ⟨_, mem_textEntries.mpr ⟨f, hperm.mem_iff.mpr hf, rfl⟩, hkey, by rw [hs]; rfl⟩
    · obtain ⟨f, hf, rfl⟩ := mem_textEntries.mp ht
      obtain ⟨e, he, hkey, -⟩ := (mem_of_forall₂ hfrozen).2 f (hperm.mem_iff.mp hf)
      exact ⟨e, he, hkey⟩

theorem inside_iff (laws : LiteralLaws py) {x : PyValue F} (hwf : wellFormed x = true) :
    (∃ f z, freezeParams py x = some f ∧ walkStr py f = some z ∧ Same x z) ↔ Inside x := by
  by_cases hdict : ∃ es, x = .dict es
  · obtain ⟨es, rfl⟩ := hdict
    exact inside_dict laws hwf
  by_cases hstr : ∃ s, x = .str s
  · obtain ⟨s, rfl⟩ := hstr
    constructor
    · rintro ⟨f, z, hf, hz, hsame⟩ hbraces
      obtain rfl : s = f := Option.some_inj.mp hf
      rw [walkStr, if_pos hbraces] at hz
      have hhash := hashable_of_braces laws hbraces hz
      cases hsame
      cases hhash
    · intro hbraces
      exact ⟨s, .str s, rfl, if_neg hbraces, rfl⟩
  -- the others come back as a string
  have hnot : ¬ Inside x := by
    intro hinside
    cases x with
    | str s => exact hstr ⟨s, rfl⟩
    | dict es => exact hdict ⟨es, rfl⟩
    | _ => exact hinside
  refine iff_of_false ?_ hnot
  rintro ⟨f, z, hf, hz, hsame⟩
  obtain ⟨c, t, hhead, hbrace, -⟩ := frozen_head hwf (fun s h => hstr ⟨s, h⟩)
    (fun es h => hdict ⟨es, h⟩) hf
  have hbraces : ¬ InBraces f := by
    rintro ⟨h, -⟩
    rw [hhead] at h
    exact hbrace (Option.some_inj.mp h)
  rw [walkStr, if_neg hbraces] at hz
  cases hz
  exact hstr ⟨f, same_str.mp hsame⟩

/-! ## Parameters that come back -/

/-- What is read again is the same. -/
def RoundTrips (py : PyText F) (x : PyValue F) : Prop :=
  ∃ f y, freezeParams py x = some f ∧ unfreezeParams py f = some y ∧ Same x y

/-- The items look like a frozen datetime. -/
def DatetimeTag (xs : List (PyValue F)) : Prop := ∃ x, xs = [.str "__datetime__", x]

def Recoverable (py : PyText F) : PyValue F → Prop
  | .str s => literalEval py s = Option.none
  | .float (.finite _) => True
  | .float _ => False
  | .list xs => ¬ DatetimeTag xs ∧ ∀ x ∈ xs, Inside x
  | .tuple xs => ¬ DatetimeTag xs ∧ ∀ x ∈ xs, Inside x
  | .set xs => ∀ x ∈ xs, ∃ s, x = .str s ∧ ¬ InBraces s
  | .dict es => KeysReadable es ∧ ∀ e ∈ es, Inside e.2
  | _ => True

theorem unfreeze_pyStr (laws : LiteralLaws py) {v : PyValue F} (hplain : isPlain v = true)
    (hfinite : isFinite v = true) (hstr : ∀ s, v ≠ .str s) :
    unfreezeParams py (pyStr py v) = walk py v := by
  rw [unfreezeParams, literalEval_pyStr laws hplain hstr, if_pos hfinite]

theorem unfreeze_name (laws : LiteralLaws py) {v : PyValue F} (hplain : isPlain v = true)
    (hfinite : isFinite v = false) (hstr : ∀ s, v ≠ .str s) :
    unfreezeParams py (pyStr py v) = some (.str (pyStr py v)) := by
  rw [unfreezeParams, literalEval_pyStr laws hplain hstr, if_neg (by rw [hfinite]; decide)]

/-- A string that is a literal is read as something else. -/
theorem walk_ne_str (laws : LiteralLaws py) {s : String} {v : PyValue F}
    (h : literalEval py s = some v) : walk py v ≠ some (.str s) := by
  have hlength := length_lt_of_literalEval laws h
  have hwalkStr : ∀ t ∈ v.strings, walkStr py t ≠ some (.str s) := by
    intro t ht hwalk
    unfold walkStr at hwalk
    split at hwalk
    next hbraces => cases hashable_of_braces laws hbraces hwalk
    · cases hwalk
      exact absurd (hlength s ht) (Nat.lt_irrefl _)
  intro hwalk
  unfold walk at hwalk
  split at hwalk
  · split at hwalk
    · obtain ⟨ys, -, hset⟩ := Option.bind_eq_some_iff.mp hwalk
      unfold setOf at hset
      split at hset <;> cases hset
    · obtain ⟨x, -, hrest⟩ := Option.bind_eq_some_iff.mp hwalk
      obtain ⟨y, -, heq⟩ := Option.map_eq_some_iff.mp hrest
      cases heq
  next tag iso =>
    split at hwalk
    · split at hwalk
      · cases hwalk
      · cases hwalk
        refine absurd (hlength s ?_) (Nat.lt_irrefl _)
        simp [strings, stringsOfItems]
    · obtain ⟨x, -, hrest⟩ := Option.bind_eq_some_iff.mp hwalk
      obtain ⟨y, -, heq⟩ := Option.map_eq_some_iff.mp hrest
      cases heq
  · obtain ⟨ys, -, heq⟩ := Option.map_eq_some_iff.mp hwalk
    cases heq
  · obtain ⟨ys, -, heq⟩ := Option.map_eq_some_iff.mp hwalk
    cases heq
  · obtain ⟨ys, -, heq⟩ := Option.map_eq_some_iff.mp hwalk
    cases heq
  next t => exact hwalkStr t (by simp [strings]) hwalk
  next v _ _ _ _ _ hne => exact hne s (Option.some_inj.mp hwalk)

theorem roundTrips_str (laws : LiteralLaws py) (s : String) :
    RoundTrips py (.str s) ↔ Recoverable py (.str s) := by
  rw [Recoverable]
  constructor
  · rintro ⟨f, y, hf, hy, hsame⟩
    obtain rfl : s = f := Option.some_inj.mp hf
    unfold unfreezeParams at hy
    cases heval : literalEval py s with
    | none => rfl
    | some v =>
      rw [heval] at hy
      cases hsame
      exact absurd hy (walk_ne_str laws heval)
  · intro heval
    exact ⟨s, .str s, rfl, by rw [unfreezeParams, heval], rfl⟩

/-! ## Lists and tuples -/

/-- Only the tag of a datetime is told apart from other texts. -/
theorem walk_strs {fs : List String} (h : ∀ iso, fs ≠ ["__datetime__", iso]) :
    walk py (.tuple (fs.map .str)) = (walkItems py (fs.map .str)).map .tuple := by
  match fs with
  | [] => rfl
  | [f] => rfl
  | [tag, iso] =>
    have htag : tag ≠ "__datetime__" := fun heq => h iso (by rw [heq])
    simp only [List.map_cons, List.map_nil, walk, walkItems, if_neg htag]
    cases walkStr py tag with
    | none => rfl
    | some x => cases walkStr py iso <;> rfl
  | f :: f' :: f'' :: fs => rfl

theorem walk_tag (iso : String) {z : PyValue F}
    (h : walk py (.tuple [.str "__datetime__", .str iso]) = some z) :
    (∀ ys, z ≠ .list ys) ∧ ∀ ys, z ≠ .tuple ys := by
  rw [walk, if_pos rfl] at h
  split at h <;> (cases h; exact ⟨nofun, nofun⟩)

/-- A text that is the tag of a datetime is the string. -/
theorem eq_tag {x : PyValue F} (hwf : wellFormed x = true)
    (h : freezeParams py x = some "__datetime__") : x = .str "__datetime__" := by
  by_cases hstr : ∃ s, x = .str s
  · obtain ⟨s, rfl⟩ := hstr
    exact congrArg PyValue.str (Option.some_inj.mp h)
  by_cases hdict : ∃ es, x = .dict es
  · obtain ⟨es, rfl⟩ := hdict
    obtain ⟨frozen, sorted, -, -, heq⟩ := freezeParams_dict.mp h
    have hbraces : InBraces (pyStr py (.dict (textEntries sorted))) := inBraces_dict _
    rw [← heq] at hbraces
    exact absurd hbraces (by decide)
  obtain ⟨c, s, hhead, -, hc⟩ := frozen_head hwf (fun s h => hstr ⟨s, h⟩)
    (fun es h => hdict ⟨es, h⟩) h
  exact absurd (List.cons.inj hhead).1.symm hc

/-- A list and a tuple are frozen alike. -/
theorem roundTrips_items (laws : LiteralLaws py) {xs : List (PyValue F)}
    (hwf : wellFormedItems xs = true) :
    (∃ fs z, freezeItems py xs = some fs ∧
      unfreezeParams py (pyStr py (.tuple (fs.map .str))) = some z ∧
      ∃ ys, (z = .list ys ∨ z = .tuple ys) ∧ List.Forall₂ Same xs ys) ↔
    ¬ DatetimeTag xs ∧ ∀ x ∈ xs, Inside x := by
  rw [wellFormedItems_iff] at hwf
  have hunfreeze : ∀ fs : List String,
      unfreezeParams py (pyStr py (.tuple (fs.map .str))) = walk py (.tuple (fs.map .str)) :=
    fun fs => unfreeze_pyStr laws (isPlain_strs fs) (isFinite_strs fs) fun s h => nomatch h
  have hinside : (∀ x ∈ xs, Inside x) ↔
      ∀ x ∈ xs, ∃ f z, freezeParams py x = some f ∧ walkStr py f = some z ∧ Same x z :=
    forall₂_congr fun x hx => (inside_iff laws (hwf x hx)).symm
  rw [hinside, ← forall₂_chain]
  constructor
  · rintro ⟨fs, z, hfs, hz, ys, hys, hsame⟩
    rw [hunfreeze] at hz
    have htag : ∀ iso, fs ≠ ["__datetime__", iso] := by
      rintro iso rfl
      obtain ⟨hlist, htuple⟩ := walk_tag iso hz
      exact hys.elim (hlist ys) (htuple ys)
    rw [walk_strs htag] at hz
    obtain ⟨zs, hzs, rfl⟩ := Option.map_eq_some_iff.mp hz
    obtain rfl : zs = ys := by
      obtain h | h := hys
      · cases h
      · exact PyValue.tuple.inj h
    refine ⟨?_, fs, zs, freezeItems_eq_some.mp hfs, walkItems_strs.mp hzs, hsame⟩
    rintro ⟨x, rfl⟩
    have hfs' := freezeItems_eq_some.mp hfs
    cases hfs' with
    | cons htagText hrest =>
      cases hrest with
      | cons _ hnil =>
        cases hnil
        cases htagText
        exact htag _ rfl
  · rintro ⟨htag, fs, zs, hfs, hzs, hsame⟩
    have htag' : ∀ iso, fs ≠ ["__datetime__", iso] := by
      rintro iso rfl
      cases hfs with
      | cons htagText hrest =>
        cases hrest with
        | cons _ hnil =>
          cases hnil
          have heq := eq_tag (hwf _ List.mem_cons_self) htagText
          exact htag ⟨_, by rw [heq]⟩
    refine ⟨fs, .tuple zs, freezeItems_eq_some.mpr hfs, ?_, zs, .inr rfl, hsame⟩
    rw [hunfreeze, walk_strs htag', walkItems_strs.mpr hzs]
    rfl

theorem roundTrips_list (laws : LiteralLaws py) {xs : List (PyValue F)}
    (hwf : wellFormedItems xs = true) :
    RoundTrips py (.list xs) ↔ ¬ DatetimeTag xs ∧ ∀ x ∈ xs, Inside x := by
  rw [← roundTrips_items laws hwf]
  constructor
  · rintro ⟨f, z, hf, hz, hsame⟩
    obtain ⟨fs, hfs, rfl⟩ := Option.map_eq_some_iff.mp hf
    exact ⟨fs, z, hfs, hz, same_list.mp hsame⟩
  · rintro ⟨fs, z, hfs, hz, hsame⟩
    exact ⟨_, z, Option.map_eq_some_iff.mpr ⟨fs, hfs, rfl⟩, hz, same_list.mpr hsame⟩

theorem roundTrips_tuple (laws : LiteralLaws py) {xs : List (PyValue F)}
    (hwf : wellFormedItems xs = true) :
    RoundTrips py (.tuple xs) ↔ ¬ DatetimeTag xs ∧ ∀ x ∈ xs, Inside x := by
  rw [← roundTrips_items laws hwf]
  constructor
  · rintro ⟨f, z, hf, hz, hsame⟩
    obtain ⟨fs, hfs, rfl⟩ := Option.map_eq_some_iff.mp hf
    exact ⟨fs, z, hfs, hz, same_tuple.mp hsame⟩
  · rintro ⟨fs, z, hfs, hz, hsame⟩
    exact ⟨_, z, Option.map_eq_some_iff.mpr ⟨fs, hfs, rfl⟩, hz, same_tuple.mpr hsame⟩

/-! ## Sets -/

theorem eq_str_str {s t : String} : PyValue.eq (F := F) (.str s) (.str t) = true ↔ s = t := by
  rw [PyValue.eq, decide_eq_true_eq]

theorem mem_distinct_strs {fs : List String} {z : PyValue F} :
    z ∈ distinct (fs.map PyValue.str) ↔ ∃ f ∈ fs, z = .str f := by
  unfold distinct
  induction fs using List.reverseRecOn generalizing z with
  | nil => simp
  | append_singleton fs f ih =>
    rw [List.map_append, List.foldl_append, List.map_singleton, List.foldl_cons, List.foldl_nil]
    split
    next hany =>
      obtain ⟨w, hw, heq⟩ := List.any_eq_true.mp hany
      obtain ⟨f', hf', rfl⟩ := ih.mp hw
      obtain rfl := eq_str_str.mp heq
      rw [ih]
      constructor
      · rintro ⟨g, hg, rfl⟩
        exact ⟨g, List.mem_append_left _ hg, rfl⟩
      · rintro ⟨g, hg, rfl⟩
        obtain hg | hg := List.mem_append.mp hg
        · exact ⟨g, hg, rfl⟩
        · obtain rfl := List.mem_singleton.mp hg
          exact ⟨g, hf', rfl⟩
    next =>
      rw [List.mem_append, ih, List.mem_singleton]
      constructor
      · rintro (⟨g, hg, rfl⟩ | rfl)
        · exact ⟨g, List.mem_append_left _ hg, rfl⟩
        · exact ⟨f, List.mem_append_right _ List.mem_cons_self, rfl⟩
      · rintro ⟨g, hg, rfl⟩
        obtain hg | hg := List.mem_append.mp hg
        · exact .inl ⟨g, hg, rfl⟩
        · exact .inr (congrArg PyValue.str (List.mem_singleton.mp hg))

/-- A set is read again as the set of its texts. -/
theorem unfreeze_set (laws : LiteralLaws py) (fs : List String) :
    unfreezeParams py (pyStr py (.tuple [.str "__set__", .tuple (fs.map .str)])) =
      (walkItems py (fs.map .str)).bind setOf := by
  have hplain : isPlain (.tuple [.str "__set__", .tuple (fs.map .str)] : PyValue F) = true := by
    simp [isPlain, arePlain, isPlain_strs]
  have hfinite : isFinite (.tuple [.str "__set__", .tuple (fs.map .str)] : PyValue F) = true := by
    simp [isFinite, areFinite, isFinite_strs]
  rw [unfreeze_pyStr laws hplain hfinite (fun s h => nomatch h), walk, if_pos rfl]

theorem roundTrips_set (laws : LiteralLaws py) {xs : List (PyValue F)} :
    RoundTrips py (.set xs) ↔ ∀ x ∈ xs, ∃ s, x = .str s ∧ ¬ InBraces s := by
  constructor
  · rintro ⟨f, z, hf, hz, hsame⟩ x hx
    obtain ⟨fs, hfs, rfl⟩ := Option.map_eq_some_iff.mp hf
    have hperm : (sortedByRepr py fs).Perm fs := List.perm_insertionSort _ _
    rw [unfreeze_set laws] at hz
    obtain ⟨zs, hzs, hset⟩ := Option.bind_eq_some_iff.mp hz
    have hwalk := mem_of_forall₂ (walkItems_strs.mp hzs)
    unfold setOf at hset
    split at hset
    next hhash =>
      cases hset
      -- what is in braces is not hashable
      have hplain : ∀ f ∈ sortedByRepr py fs, ¬ InBraces f := by
        intro f hf hbraces
        obtain ⟨z, hz, hwalkStr⟩ := hwalk.1 f hf
        rw [walkStr, if_pos hbraces] at hwalkStr
        have hnot := hashable_of_braces laws hbraces hwalkStr
        rw [List.all_eq_true.mp hhash z hz] at hnot
        cases hnot
      have hzsEq : zs = (sortedByRepr py fs).map .str := by
        have hall : List.Forall₂ (fun f z => PyValue.str f = z) (sortedByRepr py fs) zs := by
          refine (List.forall₂_iff_get.mpr ?_)
          obtain ⟨hlength, hget⟩ := List.forall₂_iff_get.mp (walkItems_strs.mp hzs)
          refine ⟨hlength, fun i h₁ h₂ => ?_⟩
          have hi := hget i h₁ h₂
          rw [walkStr, if_neg (hplain _ (List.get_mem _ _))] at hi
          exact Option.some_inj.mp hi
        rw [← List.forall₂_map_left_iff, List.forall₂_eq_eq_eq] at hall
        exact hall.symm
      obtain ⟨ys, heq, hmem, -⟩ := same_set.mp hsame
      obtain rfl := PyValue.set.inj heq
      obtain ⟨y, hy, hxy⟩ := hmem x hx
      rw [hzsEq] at hy
      obtain ⟨f, -, rfl⟩ := mem_distinct_strs.mp hy
      obtain rfl := same_str.mp hxy
      obtain ⟨f', hf', hfreeze⟩ := (mem_of_forall₂ (freezeItems_eq_some.mp hfs)).1 _ hx
      obtain rfl : f = f' := Option.some_inj.mp hfreeze
      exact ⟨f, rfl, hplain f (hperm.mem_iff.mpr hf')⟩
    · cases hset
  · intro hstrs
    obtain ⟨fs, hfs⟩ := exists_forall₂ (R := fun x f => x = PyValue.str f ∧ ¬ InBraces f) hstrs
    have hfreeze : freezeItems py xs = some fs :=
      freezeItems_eq_some.mpr (hfs.imp fun x f h => by rw [h.1]; rfl)
    have hperm : (sortedByRepr py fs).Perm fs := List.perm_insertionSort _ _
    have hmem := mem_of_forall₂ hfs
    have hwalk : walkItems py ((sortedByRepr py fs).map .str) =
        some ((sortedByRepr py fs).map .str) := by
      rw [walkItems_strs, List.forall₂_map_right_iff, List.forall₂_same]
      intro f hf
      obtain ⟨x, -, -, hbraces⟩ := hmem.2 f (hperm.mem_iff.mp hf)
      exact if_neg hbraces
    have hset : setOf ((sortedByRepr py fs).map .str) =
        some (PyValue.set (F := F) (distinct ((sortedByRepr py fs).map .str))) := by
      rw [setOf, if_pos]
      rw [List.all_map]
      exact List.all_eq_true.mpr fun _ _ => rfl
    refine ⟨_, .set (distinct ((sortedByRepr py fs).map .str)),
      Option.map_eq_some_iff.mpr ⟨fs, hfreeze, rfl⟩, ?_, same_set.mpr
      ⟨_, rfl, fun x hx => ?_, fun y hy => ?_⟩⟩
    · rw [unfreeze_set laws, hwalk, Option.bind_some, hset]
    · obtain ⟨f, hf, rfl, -⟩ := hmem.1 x hx
      exact ⟨_, mem_distinct_strs.mpr ⟨f, hperm.mem_iff.mpr hf, rfl⟩, rfl⟩
    · obtain ⟨f, hf, rfl⟩ := mem_distinct_strs.mp hy
      obtain ⟨x, hx, rfl, -⟩ := hmem.2 f (hperm.mem_iff.mp hf)
      exact ⟨_, hx, rfl⟩

/-! ## Dictionaries of parameters -/

mutual

/-- Without NaNs, a key is equal to itself. -/
theorem eq_self : ∀ k : PyValue F, wellFormed k = true → hashable k = true →
    isFinite k = true → PyValue.eq k k = true
  | .str s, _, _, _ => eq_str_str.mpr rfl
  | .int n, _, _, _ => by simp [PyValue.eq, magnitude?, Magnitude.eq]
  | .float (.finite x), _, _, _ => by simp [PyValue.eq, magnitude?, Magnitude.eq]
  | .bool b, _, _, _ => by simp [PyValue.eq, magnitude?, Magnitude.eq]
  | .none, _, _, _ => by simp [PyValue.eq]
  | .tuple xs, hwf, hhash, hfinite => by
    rw [PyValue.eq]
    exact eqItems_self xs hwf hhash hfinite

theorem eqItems_self : ∀ ks : List (PyValue F), wellFormedItems ks = true →
    hashableItems ks = true → areFinite ks = true → eqItems ks ks = true
  | [], _, _, _ => rfl
  | k :: ks, hwf, hhash, hfinite => by
    rw [wellFormedItems, Bool.and_eq_true] at hwf
    rw [hashableItems, Bool.and_eq_true] at hhash
    rw [areFinite, Bool.and_eq_true] at hfinite
    rw [eqItems, eq_self k hwf.1 hhash.1 hfinite.1, eqItems_self ks hwf.2 hhash.2 hfinite.2]
    rfl

end

theorem unique_key {es : List (PyValue F × PyValue F)} (hkeys : KeysOk (es.map Prod.fst))
    {e e' : PyValue F × PyValue F} (he : e ∈ es) (he' : e' ∈ es)
    (hself : PyValue.eq e.1 e.1 = true) (heq : e'.1 = e.1) : e' = e := by
  have hpair := List.pairwise_map.mp hkeys.2
  clear hkeys
  induction es with
  | nil => cases he
  | cons a es ih =>
    obtain ⟨hhead, htail⟩ := List.pairwise_cons.mp hpair
    obtain hea | hes := List.mem_cons.mp he
    · obtain hea' | hes' := List.mem_cons.mp he'
      · rw [hea, hea']
      · have hne := (hhead e' hes').1
        rw [← hea, heq, hself] at hne
        cases hne
    · obtain hea' | hes' := List.mem_cons.mp he'
      · have hne := (hhead e hes).1
        rw [← hea', heq, hself] at hne
        cases hne
      · exact ih hes hes' htail

theorem roundTrips_dict (laws : LiteralLaws py) {es : List (PyValue F × PyValue F)}
    (hwf : wellFormed (.dict es) = true) :
    RoundTrips py (.dict es) ↔ KeysReadable es ∧ ∀ e ∈ es, Inside e.2 := by
  have hwf' := hwf
  rw [wellFormed, Bool.and_eq_true, decide_eq_true_eq, wellFormedEntries_iff] at hwf'
  obtain ⟨hkeysOk, hentries⟩ := hwf'
  constructor
  · rintro ⟨f, z, hf, hz, hsame⟩
    obtain ⟨frozen, sorted, hfrozen, hsorted, rfl⟩ := freezeParams_dict.mp hf
    have hkeys := keys_of_frozen hfrozen
    have hperm := perm_of_sorted? hsorted
    rw [unfreezeParams, literalEval_dict laws hwf hkeys hperm] at hz
    split at hz
    next hnone =>
      cases hz
      cases same_str.mp hsame
    next v hsome =>
      split at hsome
      next hfiniteTexts =>
        cases hsome
        rw [walk] at hz
        obtain ⟨zs, hzs, rfl⟩ := Option.map_eq_some_iff.mp hz
        have hfinite := (finite_of_keys hkeys hperm).mp hfiniteTexts
        refine ⟨⟨?_, hfinite⟩, fun e he => ?_⟩
        · rw [← sorted?_isSome_of_keys hkeys, hsorted]
          rfl
        · obtain ⟨fs, heq, hvalues, -⟩ := same_dict.mp hsame
          obtain rfl := PyValue.dict.inj heq
          obtain ⟨t, ht, hkey, hvalue⟩ := hvalues e he
          obtain ⟨f, hf, hft, hwalk⟩ := (mem_of_forall₂ (walkValues_texts.mp hzs)).2 t ht
          obtain ⟨e', he', hfe', hfreeze⟩ :=
            (mem_of_forall₂ hfrozen).2 f (hperm.mem_iff.mp hf)
          have hkey' : e'.1 = e.1 := hfe'.symm.trans (hft.symm.trans hkey)
          have hself := eq_self e.1 (hentries e he).1
            (hkeysOk.1 e.1 (List.mem_map_of_mem he)) (hfinite e he)
          obtain rfl := unique_key hkeysOk he he' hself hkey'
          exact (inside_iff laws (hentries e' he').2).mp ⟨f.2, t.2, hfreeze, hwalk, hvalue⟩
      · cases hsome
  · rintro ⟨⟨hsortable, hfinite⟩, hinside⟩
    have hfreeze : ∀ e ∈ es, ∃ f : PyValue F × String,
        (f.1 = e.1 ∧ freezeParams py e.2 = some f.2) ∧
          ∃ z, walkStr py f.2 = some z ∧ Same e.2 z := by
      intro e he
      obtain ⟨f, z, hf, hz, hsame⟩ := (inside_iff laws (hentries e he).2).mpr (hinside e he)
      exact ⟨(e.1, f), ⟨rfl, hf⟩, z, hz, hsame⟩
    obtain ⟨frozen, hall⟩ := exists_forall₂ hfreeze
    have hfrozen := hall.imp fun e f h => h.1
    have hkeys := keys_of_frozen hfrozen
    rw [← sorted?_isSome_of_keys hkeys, Option.isSome_iff_exists] at hsortable
    obtain ⟨sorted, hsorted⟩ := hsortable
    have hperm := perm_of_sorted? hsorted
    have hwalk : ∀ f ∈ sorted, ∃ z : PyValue F × PyValue F,
        z.1 = f.1 ∧ walkStr py f.2 = some z.2 := by
      intro f hf
      obtain ⟨e, -, -, z, hz, -⟩ := (mem_of_forall₂ hall).2 f (hperm.mem_iff.mp hf)
      exact ⟨(f.1, z), rfl, hz⟩
    obtain ⟨zs, hzs⟩ := exists_forall₂ hwalk
    refine ⟨_, .dict zs, freezeParams_dict.mpr ⟨frozen, sorted, hfrozen, hsorted, rfl⟩, ?_,
      same_dict.mpr ⟨zs, rfl, fun e he => ?_, fun t ht => ?_⟩⟩
    · rw [unfreezeParams, literalEval_dict laws hwf hkeys hperm,
        if_pos ((finite_of_keys hkeys hperm).mpr hfinite)]
      simp only
      rw [walk, walkValues_texts.mpr hzs]
      rfl
    · obtain ⟨f, hf, ⟨hkey, -⟩, z, hz, hsame⟩ := (mem_of_forall₂ hall).1 e he
      obtain ⟨t, ht, hft, hwalk⟩ := (mem_of_forall₂ hzs).1 f (hperm.mem_iff.mpr hf)
      rw [hz, Option.some_inj] at hwalk
      exact ⟨t, ht, hft.trans hkey, hwalk ▸ hsame⟩
    · obtain ⟨f, hf, hft, -⟩ := (mem_of_forall₂ hzs).2 t ht
      obtain ⟨e, he, ⟨hkey, -⟩, -⟩ := (mem_of_forall₂ hall).2 f (hperm.mem_iff.mp hf)
      exact ⟨e, he, hft.trans hkey⟩

/-! ## All parameters -/

/-- What is read again of values that are neither strings nor containers. -/
theorem roundTrips_atom (laws : LiteralLaws py) {x : PyValue F} (hplain : isPlain x = true)
    (hstr : ∀ s, x ≠ .str s) (hfreeze : freezeParams py x = some (pyStr py x))
    (hwalk : walk py x = some x) (hsame : ∀ y, Same x y ↔ y = x) :
    RoundTrips py x ↔ isFinite x = true := by
  constructor
  · rintro ⟨f, y, hf, hy, hxy⟩
    rw [hfreeze] at hf
    cases hf
    by_contra hfinite
    rw [Bool.not_eq_true] at hfinite
    rw [unfreeze_name laws hplain hfinite hstr] at hy
    cases hy
    exact hstr _ ((hsame _).mp hxy).symm
  · intro hfinite
    exact ⟨_, x, hfreeze, (unfreeze_pyStr laws hplain hfinite hstr).trans hwalk,
      (hsame x).mpr rfl⟩

theorem roundTrips_iff_recoverable (laws : LiteralLaws py) {x : PyValue F}
    (hwf : wellFormed x = true) : RoundTrips py x ↔ Recoverable py x := by
  cases x with
  | str s => exact roundTrips_str laws s
  | int n =>
    exact (roundTrips_atom laws (x := .int n) rfl (fun s h => nomatch h) rfl rfl
      fun y => Iff.rfl).trans (iff_of_true rfl trivial)
  | float x =>
    refine (roundTrips_atom laws (x := .float x) rfl (fun s h => nomatch h) rfl rfl
      fun y => Iff.rfl).trans ?_
    cases x with
    | finite x => exact iff_of_true rfl trivial
    | inf => exact iff_of_false Bool.false_ne_true id
    | negInf => exact iff_of_false Bool.false_ne_true id
    | nan => exact iff_of_false Bool.false_ne_true id
  | bool b =>
    exact (roundTrips_atom laws (x := .bool b) rfl (fun s h => nomatch h) rfl rfl
      fun y => Iff.rfl).trans (iff_of_true rfl trivial)
  | none =>
    exact (roundTrips_atom laws (x := .none) rfl (fun s h => nomatch h) rfl rfl
      fun y => Iff.rfl).trans (iff_of_true rfl trivial)
  | datetime d => cases hwf
  | foreign text => cases hwf
  | list xs => exact roundTrips_list laws hwf
  | tuple xs => exact roundTrips_tuple laws hwf
  | set xs => exact roundTrips_set laws
  | dict es => exact roundTrips_dict laws hwf

end AioHomematic.Store
