import AioHomematic.Store.Serialization.RoundTrip

/-!
# Frozen parameters as keys

A recorded response is kept under the frozen parameters. A string is its own key, so every key is
the key of a string too: only a string can have a key of its own, and only if it is not read as
something else (`frozen_comes_back_iff`).
-/

namespace AioHomematic.Store

open Lib PyValue Support

variable {F : Type} [FiniteFloat F] {py : PyText F}

/-- Parameters with other contents have another key. -/
def OwnKey (py : PyText F) (x : PyValue F) : Prop :=
  ∀ y f, wellFormed y = true → freezeParams py x = some f → freezeParams py y = some f → Same x y

/-- What `str` writes with an infinity or a NaN in it and `literal_eval` does not read. -/
def NonFiniteText (py : PyText F) (s : String) : Prop :=
  s ∈ ["inf", "-inf", "nan"] ∨
    ∃ es sorted : List (PyValue F × PyValue F), wellFormed (.dict es) = true ∧
      (∀ e ∈ es, ∃ t, e.2 = .str t) ∧ sorted? es = some sorted ∧
      (∃ e ∈ es, isFinite e.1 = false) ∧ s = pyStr py (.dict sorted)

/-! ## Dictionaries of texts -/

theorem sorted?_textEntries (frozen : List (PyValue F × String)) :
    sorted? (textEntries frozen) = (sorted? frozen).map textEntries := by
  by_cases hsome : (sorted? frozen).isSome = true
  · obtain ⟨sorted, hsorted⟩ := Option.isSome_iff_exists.mp hsome
    have htexts : (sorted? (textEntries frozen)).isSome = true := by
      rw [sorted?_isSome, keys_textEntries, ← sorted?_isSome]
      exact hsome
    obtain ⟨sortedTexts, hsortedTexts⟩ := Option.isSome_iff_exists.mp htexts
    rw [hsorted, hsortedTexts, Option.map_some]
    unfold sorted? at hsorted hsortedTexts
    split at hsorted
    · split at hsortedTexts
      · cases hsorted
        cases hsortedTexts
        have hmap := List.map_insertionSort (fun e e' => lt? e'.1 e.1 ≠ some true)
          (fun e e' => lt? e'.1 e.1 ≠ some true)
          (fun e : PyValue F × String => (e.1, PyValue.str (F := F) e.2)) frozen
          fun _ _ _ _ => Iff.rfl
        exact congrArg some hmap.symm
      · cases hsortedTexts
    · cases hsorted
  · have htexts : ¬ (sorted? (textEntries frozen)).isSome = true := by
      rw [sorted?_isSome, keys_textEntries, ← sorted?_isSome]
      exact hsome
    rw [Option.not_isSome_iff_eq_none.mp hsome, Option.not_isSome_iff_eq_none.mp htexts]
    rfl

/-- A string is frozen as itself. -/
theorem freezeValues_textEntries (frozen : List (PyValue F × String)) :
    freezeValues py (textEntries frozen) = some frozen := by
  rw [freezeValues_eq_some, textEntries, List.forall₂_map_left_iff, List.forall₂_same]
  exact fun _ _ => ⟨rfl, rfl⟩

omit [FiniteFloat F] in
theorem exists_textEntries {es : List (PyValue F × PyValue F)} (h : ∀ e ∈ es, ∃ t, e.2 = .str t) :
    ∃ frozen, es = textEntries frozen := by
  induction es with
  | nil => exact ⟨[], rfl⟩
  | cons e es ih =>
    obtain ⟨t, ht⟩ := h e List.mem_cons_self
    obtain ⟨frozen, rfl⟩ := ih fun e' he' => h e' (List.mem_cons_of_mem _ he')
    exact ⟨(e.1, t) :: frozen, by rw [textEntries, textEntries, List.map_cons, ← ht]⟩

theorem freezeParams_texts {es sorted : List (PyValue F × PyValue F)}
    (h : ∀ e ∈ es, ∃ t, e.2 = .str t) (hsorted : sorted? es = some sorted) :
    freezeParams py (.dict es) = some (pyStr py (.dict sorted)) := by
  obtain ⟨frozen, rfl⟩ := exists_textEntries h
  rw [sorted?_textEntries] at hsorted
  obtain ⟨sortedTexts, hsortedTexts, rfl⟩ := Option.map_eq_some_iff.mp hsorted
  rw [freezeParams, freezeValues_textEntries, Option.bind_some, hsortedTexts]
  rfl

/-! ## Keys of strings -/

theorem pyStr_inf : pyStr py (.float .inf) = "inf" := String.ofList_toList

theorem pyStr_negInf : pyStr py (.float .negInf) = "-inf" := String.ofList_toList

theorem pyStr_nan : pyStr py (.float .nan) = "nan" := String.ofList_toList

/-- What has a key of its own is a string. -/
theorem OwnKey.eq_str {x : PyValue F} {f : String} (h : OwnKey py x)
    (hf : freezeParams py x = some f) : x = .str f :=
  same_str.mp (h (.str f) f rfl hf rfl)

/-- What is written and not read again. -/
theorem nonFiniteText_of_key (laws : LiteralLaws py) {y : PyValue F} {s : String}
    (hwf : wellFormed y = true) (hstr : ∀ t, y ≠ .str t) (hs : freezeParams py y = some s)
    (hread : literalEval py s = Option.none) : NonFiniteText py s := by
  -- the literals are read again
  have hliteral : ∀ v : PyValue F, isPlain v = true → isFinite v = true → (∀ t, v ≠ .str t) →
      s ≠ pyStr py v := by
    rintro v hplain hfinite hv rfl
    rw [literalEval_pyStr laws hplain hv, if_pos hfinite] at hread
    cases hread
  cases y with
  | str t => exact absurd rfl (hstr t)
  | datetime d => cases hwf
  | foreign text => cases hwf
  | int n => exact absurd (Option.some_inj.mp hs).symm (hliteral _ rfl rfl hstr)
  | bool b => exact absurd (Option.some_inj.mp hs).symm (hliteral _ rfl rfl hstr)
  | none => exact absurd (Option.some_inj.mp hs).symm (hliteral _ rfl rfl hstr)
  | float x =>
    cases x with
    | finite x => exact absurd (Option.some_inj.mp hs).symm (hliteral _ rfl rfl hstr)
    | inf =>
      have hs : some (pyStr py (.float .inf)) = some s := hs
      rw [pyStr_inf, Option.some_inj] at hs
      exact .inl (hs ▸ List.mem_cons_self)
    | negInf =>
      have hs : some (pyStr py (.float .negInf)) = some s := hs
      rw [pyStr_negInf, Option.some_inj] at hs
      exact .inl (hs ▸ List.mem_cons_of_mem _ List.mem_cons_self)
    | nan =>
      have hs : some (pyStr py (.float .nan)) = some s := hs
      rw [pyStr_nan, Option.some_inj] at hs
      exact .inl (hs ▸ List.mem_cons_of_mem _ (List.mem_cons_of_mem _ List.mem_cons_self))
  | list xs =>
    obtain ⟨fs, -, heq⟩ := Option.map_eq_some_iff.mp hs
    exact absurd heq.symm (hliteral _ (isPlain_strs fs) (isFinite_strs fs) nofun)
  | tuple xs =>
    obtain ⟨fs, -, heq⟩ := Option.map_eq_some_iff.mp hs
    exact absurd heq.symm (hliteral _ (isPlain_strs fs) (isFinite_strs fs) nofun)
  | set xs =>
    obtain ⟨fs, -, heq⟩ := Option.map_eq_some_iff.mp hs
    refine absurd heq.symm (hliteral _ ?_ ?_ nofun)
    · simp [isPlain, arePlain, isPlain_strs]
    · simp [isFinite, areFinite, isFinite_strs]
  | dict es =>
    obtain ⟨frozen, sorted, hfrozen, hsorted, rfl⟩ := freezeParams_dict.mp hs
    have hkeys := keys_of_frozen hfrozen
    have hperm := perm_of_sorted? hsorted
    rw [literalEval_dict laws hwf hkeys hperm] at hread
    split at hread
    · cases hread
    next hnot =>
      rw [finite_of_keys hkeys hperm] at hnot
      push Not at hnot
      obtain ⟨e, he, hinfinite⟩ := hnot
      obtain ⟨f, hf, hkey, -⟩ := (mem_of_forall₂ hfrozen).1 e he
      refine .inr ⟨textEntries frozen, textEntries sorted, ?_, fun e he => ?_, ?_,
        ⟨(f.1, .str f.2), mem_textEntries.mpr ⟨f, hf, rfl⟩, ?_⟩, rfl⟩
      · rw [wellFormed, Bool.and_eq_true, decide_eq_true_eq, wellFormedEntries_iff] at hwf ⊢
        rw [keys_textEntries, hkeys]
        refine ⟨hwf.1, fun e he => ?_⟩
        obtain ⟨f, hf, rfl⟩ := mem_textEntries.mp he
        obtain ⟨e', he', hkey', -⟩ := (mem_of_forall₂ hfrozen).2 f hf
        exact ⟨hkey' ▸ (hwf.2 e' he').1, rfl⟩
      · obtain ⟨f, -, rfl⟩ := mem_textEntries.mp he
        exact ⟨f.2, rfl⟩
      · rw [sorted?_textEntries, hsorted]
        rfl
      · rw [hkey]
        exact Bool.eq_false_iff.mpr hinfinite

/-- A text of `str` is a key of a value that is not a string. -/
theorem NonFiniteText.key {s : String} (h : NonFiniteText py s) :
    ∃ y : PyValue F, wellFormed y = true ∧ (∀ t, y ≠ .str t) ∧ freezeParams py y = some s := by
  obtain h | ⟨es, sorted, hwf, hstrs, hsorted, -, rfl⟩ := h
  · simp only [List.mem_cons, List.not_mem_nil, or_false] at h
    obtain rfl | rfl | rfl := h
    · exact ⟨.float .inf, rfl, nofun, congrArg some pyStr_inf⟩
    · exact ⟨.float .negInf, rfl, nofun, congrArg some pyStr_negInf⟩
    · exact ⟨.float .nan, rfl, nofun, congrArg some pyStr_nan⟩
  · exact ⟨.dict es, hwf, nofun, freezeParams_texts hstrs hsorted⟩

/-- `unfreeze_params` reads parameters again if their items come back as the texts they are kept
as. Their key is their own if they are a string that is read as a string. -/
theorem frozen_comes_back_iff (laws : LiteralLaws py) {x : PyValue F}
    (hwf : wellFormed x = true) :
    (RoundTrips py x ↔ Recoverable py x) ∧
      ((RoundTrips py x ∧ OwnKey py x) ↔
        ∃ s, x = .str s ∧ literalEval py s = Option.none ∧ ¬ NonFiniteText py s) ∧
      ∀ y, wellFormed y = true → Recoverable py x → Recoverable py y →
        freezeParams py x = freezeParams py y → ∃ z, Same x z ∧ Same y z := by
  refine ⟨roundTrips_iff_recoverable laws hwf, ⟨?_, ?_⟩, ?_⟩
  · rintro ⟨hround, hown⟩
    obtain ⟨s, -, hs, -, -⟩ := id hround
    obtain rfl := hown.eq_str hs
    refine ⟨s, rfl, (roundTrips_str laws s).mp hround, fun htext => ?_⟩
    obtain ⟨y, hy, hstr, hkey⟩ := htext.key
    exact hstr s (hown y s hy rfl hkey)
  · rintro ⟨s, rfl, hread, htext⟩
    refine ⟨(roundTrips_str laws s).mpr hread, fun y f hy hf hkey => ?_⟩
    cases hf
    by_contra hother
    have hstr : ∀ t, y ≠ .str t := by
      rintro t rfl
      cases hkey
      exact hother rfl
    exact htext (nonFiniteText_of_key laws hy hstr hkey hread)
  · intro y hy hx hyRec hkey
    obtain ⟨f, z, hf, hz, hxz⟩ := (roundTrips_iff_recoverable laws hwf).mpr hx
    obtain ⟨f', z', hf', hz', hyz⟩ := (roundTrips_iff_recoverable laws hy).mpr hyRec
    rw [hf, hf', Option.some_inj] at hkey
    rw [← hkey, hz, Option.some_inj] at hz'
    exact ⟨z, hxz, hz' ▸ hyz⟩

theorem asciiLaws : LiteralLaws asciiText := ⟨nofun, nofun, fun _ _ _ => rfl⟩

theorem frozen_comes_back_dict :
    RoundTrips asciiText (.dict [(.str "ADDRESS", .str "VCU0000001")]) ∧
      RoundTrips asciiText (.str "VCU0000001") ∧ OwnKey asciiText (.str "VCU0000001") := by
  have hread : literalEval asciiText "VCU0000001" = Option.none := by decide
  refine ⟨(frozen_comes_back_iff asciiLaws (by decide)).1.mpr ⟨⟨by decide, by decide⟩, ?_⟩,
    (frozen_comes_back_iff asciiLaws rfl).2.1.mpr ⟨_, rfl, hread, ?_⟩⟩
  · intro e he
    obtain rfl := List.mem_singleton.mp he
    show ¬ InBraces "VCU0000001"
    decide
  · rintro (h | ⟨es, sorted, -, -, -, -, heq⟩)
    · revert h
      decide
    · have hbraces : InBraces "VCU0000001" := heq ▸ inBraces_dict sorted
      revert hbraces
      decide

/-- A number in a list comes back as a string, and a list of this string has the same key. -/
theorem not_frozen_comes_back :
    wellFormed (F := Empty) (.list [.int 1]) = true ∧ ¬ RoundTrips asciiText (.list [.int 1]) ∧
      ¬ OwnKey asciiText (.list [.int 1]) := by
  refine ⟨rfl, fun hround => ?_, fun hown => ?_⟩
  · exact ((roundTrips_list asciiLaws rfl).mp hround).2 (.int 1) List.mem_cons_self
  · cases hown.eq_str (f := "('1',)") (by decide)

end AioHomematic.Store
