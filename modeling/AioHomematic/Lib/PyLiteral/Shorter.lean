import AioHomematic.Lib.PyLiteral

/-!
# Strings are shorter than their literals

A string anywhere in a value that was read is shorter than the text, which has its quotation
marks too (`length_lt_of_unrepr`). What is read from a text in braces is a dictionary.
-/

namespace AioHomematic.Lib.PyValue

variable {F : Type} [FiniteFloat F]

mutual

/-- The strings anywhere in a value. -/
def strings : PyValue F → List String
  | str s => [s]
  | list xs => stringsOfItems xs
  | tuple xs => stringsOfItems xs
  | set xs => stringsOfItems xs
  | dict es => stringsOfEntries es
  | _ => []

def stringsOfItems : List (PyValue F) → List String
  | [] => []
  | x :: xs => strings x ++ stringsOfItems xs

def stringsOfEntries : List (PyValue F × PyValue F) → List String
  | [] => []
  | (k, v) :: es => strings k ++ strings v ++ stringsOfEntries es

end

/-- What is read has strings shorter than the text, and leaves a rest that is not longer. -/
def Shorter (s : List Char) (strs : List String) (rest : List Char) : Prop :=
  rest.length ≤ s.length ∧ ∀ t ∈ strs, t.length < s.length

theorem Shorter.append {s s' rest rest' : List Char} {strs strs' : List String}
    (h : Shorter s strs rest) (hs : s'.length ≤ rest.length) (h' : Shorter s' strs' rest') :
    Shorter s (strs ++ strs') rest' := by
  refine ⟨Nat.le_trans h'.1 (Nat.le_trans hs h.1), fun t ht => ?_⟩
  obtain ht | ht := List.mem_append.mp ht
  · exact h.2 t ht
  · exact Nat.lt_of_lt_of_le (h'.2 t ht) (Nat.le_trans hs h.1)

theorem Shorter.mono {s s' rest rest' : List Char} {strs : List String} (h : Shorter s strs rest)
    (hs : s.length ≤ s'.length) (hrest : rest'.length ≤ rest.length) : Shorter s' strs rest' :=
  ⟨Nat.le_trans hrest (Nat.le_trans h.1 hs), fun t ht => Nat.lt_of_lt_of_le (h.2 t ht) hs⟩

theorem length_readHex {width acc n : Nat} {s rest : List Char}
    (h : readHex width acc s = some (n, rest)) : rest.length ≤ s.length := by
  induction width generalizing acc s with
  | zero =>
    cases h
    exact Nat.le_refl _
  | succ width ih =>
    cases s with
    | nil => cases h
    | cons c s =>
      obtain ⟨d, -, hread⟩ := Option.bind_eq_some_iff.mp h
      exact Nat.le_succ_of_le (ih hread)

theorem length_readCodePoint {width : Nat} {c : Char} {s rest : List Char}
    (h : readCodePoint width s = some (c, rest)) : rest.length ≤ s.length := by
  obtain ⟨r, hread, hchar⟩ := Option.bind_eq_some_iff.mp h
  split at hchar
  · cases hchar
    exact length_readHex hread
  · cases hchar

theorem length_unescape {c : Char} {s rest : List Char} (h : unescape s = some (c, rest)) :
    rest.length < s.length := by
  unfold unescape at h
  split at h
  · cases h
  · cases h; exact Nat.lt_succ_self _
  · cases h; exact Nat.lt_succ_self _
  · cases h; exact Nat.lt_succ_self _
  · exact Nat.lt_succ_of_le (length_readCodePoint h)
  · exact Nat.lt_succ_of_le (length_readCodePoint h)
  · exact Nat.lt_succ_of_le (length_readCodePoint h)
  · split at h
    · cases h; exact Nat.lt_succ_self _
    · cases h

theorem length_readStr {quote : Char} {fuel : Nat} {s t rest : List Char}
    (h : readStr quote fuel s = some (t, rest)) : t.length + rest.length < s.length := by
  induction fuel generalizing s t with
  | zero => cases h
  | succ fuel ih =>
    cases s with
    | nil => cases h
    | cons c s =>
      rw [readStr] at h
      split at h
      · cases h
        simp
      · split at h
        · obtain ⟨r, hescape, hread⟩ := Option.bind_eq_some_iff.mp h
          obtain ⟨t', hrest, heq⟩ := Option.map_eq_some_iff.mp hread
          cases heq
          have := length_unescape hescape
          have := ih hrest
          simp only [List.length_cons]
          omega
        · split at h
          · cases h
          · obtain ⟨t', hread, heq⟩ := Option.map_eq_some_iff.mp h
            cases heq
            have := ih hread
            simp only [List.length_cons]
            omega

theorem strings_readAtom {s : List Char} {v : PyValue F} (h : readAtom s = some v) :
    strings v = [] := by
  unfold readAtom at h
  split at h
  · cases h; rfl
  split at h
  · cases h; rfl
  split at h
  · cases h; rfl
  unfold readNumber at h
  split at h
  · cases h; rfl
  · obtain ⟨x, -, rfl⟩ := Option.map_eq_some_iff.mp h
    rfl

/-- By induction on the fuel, for the four readers together. -/
theorem shorter_read (fuel : Nat) :
    (∀ (s : List Char) (v : PyValue F) (rest : List Char), readValue fuel s = some (v, rest) →
      Shorter s (strings v) rest) ∧
    (∀ (s : List Char) (xs : List (PyValue F)) (rest : List Char),
      readItems fuel s = some (xs, rest) → Shorter s (stringsOfItems xs) rest) ∧
    (∀ (s : List Char) (e : PyValue F × PyValue F) (rest : List Char),
      readEntry fuel s = some (e, rest) → Shorter s (strings e.1 ++ strings e.2) rest) ∧
    (∀ (s : List Char) (es : List (PyValue F × PyValue F)) (rest : List Char),
      readEntries fuel s = some (es, rest) → Shorter s (stringsOfEntries es) rest) := by
  have hnone : ∀ s : List Char, Shorter s [] s := fun s => ⟨Nat.le_refl _, nofun⟩
  have htail : ∀ s : List Char, Shorter s [] s.tail := fun s =>
    ⟨by rw [List.length_tail]; omega, nofun⟩
  have hdrop : ∀ s : List Char, (s.drop 2).length ≤ s.length := fun s => by
    rw [List.length_drop]
    omega
  induction fuel with
  | zero => exact ⟨nofun, nofun, nofun, nofun⟩
  | succ fuel ih =>
    obtain ⟨ihValue, ihItems, ihEntry, ihEntries⟩ := ih
    refine ⟨?_, ?_, ?_, ?_⟩
    · intro s v rest h
      cases s with
      | nil => cases h
      | cons c s =>
        have hs : s.length ≤ (c :: s).length := Nat.le_succ _
        rw [readValue] at h
        split at h
        · split at h
          · cases h
            exact (htail s).mono hs (Nat.le_refl _)
          · obtain ⟨x, hx, h⟩ := Option.bind_eq_some_iff.mp h
            have hx := (ihValue s x.1 x.2 hx).mono hs (Nat.le_refl _)
            split at h
            · cases h
              refine (hx.mono (Nat.le_refl _) (hdrop x.2)).append (Nat.le_refl _) ?_
              exact hnone _
            · obtain ⟨xs, hxs, h⟩ := Option.bind_eq_some_iff.mp h
              split at h
              · cases h
              · cases h
                exact hx.append (Nat.le_refl _) (ihItems x.2 xs.1 xs.2 hxs)
        · split at h
          · split at h
            · cases h
              exact (htail s).mono hs (Nat.le_refl _)
            · obtain ⟨e, he, h⟩ := Option.bind_eq_some_iff.mp h
              obtain ⟨es, hes, h⟩ := Option.bind_eq_some_iff.mp h
              split at h
              · cases h
                exact ((ihEntry s e.1 e.2 he).mono hs (Nat.le_refl _)).append (Nat.le_refl _)
                  (ihEntries e.2 es.1 es.2 hes)
              · cases h
          · split at h
            · obtain ⟨t, ht, heq⟩ := Option.map_eq_some_iff.mp h
              cases heq
              have hlength := length_readStr ht
              refine ⟨by simp only [List.length_cons]; omega, fun t' ht' => ?_⟩
              obtain rfl := List.mem_singleton.mp ht'
              rw [String.length_ofList]
              simp only [List.length_cons]
              omega
            · obtain ⟨v', hread, heq⟩ := Option.map_eq_some_iff.mp h
              cases heq
              rw [strings_readAtom hread]
              exact ⟨(List.dropWhile_suffix _).length_le, nofun⟩
    · intro s xs rest h
      rw [readItems] at h
      split at h
      · cases h
        exact htail s
      · split at h
        · obtain ⟨x, hx, h⟩ := Option.bind_eq_some_iff.mp h
          obtain ⟨ys, hys, heq⟩ := Option.map_eq_some_iff.mp h
          cases heq
          exact ((ihValue _ x.1 x.2 hx).mono (hdrop s) (Nat.le_refl _)).append (Nat.le_refl _)
            (ihItems x.2 ys.1 ys.2 hys)
        · cases h
    · intro s e rest h
      obtain ⟨k, hk, h⟩ := Option.bind_eq_some_iff.mp h
      split at h
      · obtain ⟨v, hv, heq⟩ := Option.map_eq_some_iff.mp h
        cases heq
        exact (ihValue s k.1 k.2 hk).append (hdrop k.2) (ihValue _ v.1 v.2 hv)
      · cases h
    · intro s es rest h
      rw [readEntries] at h
      split at h
      · cases h
        exact htail s
      · split at h
        · obtain ⟨e, he, h⟩ := Option.bind_eq_some_iff.mp h
          obtain ⟨es', hes, heq⟩ := Option.map_eq_some_iff.mp h
          cases heq
          exact ((ihEntry _ e.1 e.2 he).mono (hdrop s) (Nat.le_refl _)).append (Nat.le_refl _)
            (ihEntries e.2 es'.1 es'.2 hes)
        · cases h

theorem length_lt_of_unrepr {s : List Char} {v : PyValue F} (h : unrepr s = some v) :
    ∀ t ∈ strings v, t.length < s.length := by
  unfold unrepr at h
  split at h
  next hread =>
    cases h
    exact ((shorter_read _).1 s v [] hread).2
  · cases h

/-- A text that begins with a brace is read as a dictionary. -/
theorem dict_of_unrepr {s : List Char} {v : PyValue F} (hs : s.head? = some '{')
    (h : unrepr s = some v) : ∃ es, v = dict es := by
  unfold unrepr at h
  split at h
  next v' hread =>
    cases h
    cases s with
    | nil => cases hs
    | cons c s =>
      cases hs
      rw [readValue, if_neg (by decide), if_pos rfl] at hread
      split at hread
      · exact ⟨_, (Prod.mk.inj (Option.some_inj.mp hread)).1.symm⟩
      · obtain ⟨e, -, hread⟩ := Option.bind_eq_some_iff.mp hread
        obtain ⟨es, -, hread⟩ := Option.bind_eq_some_iff.mp hread
        split at hread
        · exact ⟨_, (Prod.mk.inj (Option.some_inj.mp hread)).1.symm⟩
        · cases hread
  · cases h

end AioHomematic.Lib.PyValue
