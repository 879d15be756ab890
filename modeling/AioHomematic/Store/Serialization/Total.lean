import AioHomematic.Store.Serialization

/-!
# When unfreezing raises

`_walk` reads a nested string that looks like a dict literal without a guard, and makes a set of
what it has read. `Visits` are the values that it comes to; the walk returns if each of them is one
that it can read (`isSome_walk_iff`).
-/

namespace AioHomematic.Store

open Lib

variable {F : Type}

/-! ## The values that are walked -/

/-- Not one of the tagged tuples of a set and a datetime. -/
def Untagged (xs : List (PyValue F)) : Prop :=
  (∀ ys, xs ≠ [.str "__set__", .tuple ys]) ∧ ∀ iso, xs ≠ [.str "__datetime__", .str iso]

/-- The values inside a value that `_walk` goes on to. -/
def walked : PyValue F → List (PyValue F)
  | .tuple [.str tag, .tuple xs] => if tag = "__set__" then xs else [.str tag, .tuple xs]
  | .tuple [.str tag, .str iso] => if tag = "__datetime__" then [] else [.str tag, .str iso]
  | .tuple xs => xs
  | .list xs => xs
  | .dict es => es.map (·.2)
  | _ => []

/-- The values that `_walk` comes to. -/
inductive Visits : PyValue F → PyValue F → Prop
  | refl (v : PyValue F) : Visits v v
  | step {v w x : PyValue F} : w ∈ walked v → Visits w x → Visits v x

variable {v w : PyValue F} {xs : List (PyValue F)}

theorem walked_of_untagged (h : Untagged xs) : walked (.tuple xs) = xs := by
  rw [walked.eq_def]
  split
  next tag ys heq =>
    cases heq
    exact if_neg fun htag => h.1 ys (by rw [htag])
  next tag iso heq =>
    cases heq
    exact if_neg fun htag => h.2 iso (by rw [htag])
  next ys _ _ heq => exact (PyValue.tuple.inj heq).symm
  next heq => cases heq
  next heq => cases heq
  next hno _ _ => exact (hno xs rfl).elim

/-- The three forms of a tuple. -/
theorem tuple_forms (xs : List (PyValue F)) : (∃ ys, xs = [.str "__set__", .tuple ys]) ∨
    (∃ iso, xs = [.str "__datetime__", .str iso]) ∨ Untagged xs := by
  by_cases hset : ∃ ys, xs = [.str "__set__", .tuple ys]
  · exact .inl hset
  · by_cases hdatetime : ∃ iso, xs = [.str "__datetime__", .str iso]
    · exact .inr (.inl hdatetime)
    · exact .inr (.inr ⟨not_exists.mp hset, not_exists.mp hdatetime⟩)

theorem sizeOf_walked (h : w ∈ walked v) : sizeOf w < sizeOf v := by
  rw [walked.eq_def] at h
  split at h
  next tag xs =>
    split at h
    · have hlt := List.sizeOf_lt_of_mem h
      simp only [PyValue.tuple.sizeOf_spec, List.cons.sizeOf_spec]
      omega
    · have hlt := List.sizeOf_lt_of_mem h
      simp only [PyValue.tuple.sizeOf_spec] at hlt ⊢
      omega
  next tag iso =>
    split at h
    · cases h
    · have hlt := List.sizeOf_lt_of_mem h
      simp only [PyValue.tuple.sizeOf_spec] at hlt ⊢
      omega
  next xs _ _ =>
    have hlt := List.sizeOf_lt_of_mem h
    simp only [PyValue.tuple.sizeOf_spec]
    omega
  next xs =>
    have hlt := List.sizeOf_lt_of_mem h
    simp only [PyValue.list.sizeOf_spec]
    omega
  next es =>
    obtain ⟨⟨k, w'⟩, he, rfl⟩ := List.mem_map.mp h
    have hlt := List.sizeOf_lt_of_mem he
    simp only [PyValue.dict.sizeOf_spec, Prod.mk.sizeOf_spec] at hlt ⊢
    omega
  next => cases h

/-- What holds of a value if it holds of those that `_walk` goes on to. -/
theorem walked_induction {P : PyValue F → Prop}
    (h : ∀ v, (∀ w ∈ walked v, P w) → P v) (v : PyValue F) : P v := by
  induction hsize : sizeOf v using Nat.strong_induction_on generalizing v with
  | _ n ih =>
    subst hsize
    exact h v fun w hw => ih (sizeOf w) (sizeOf_walked hw) w rfl

theorem forall_visits {P : PyValue F → Prop} :
    (∀ w, Visits v w → P w) ↔ P v ∧ ∀ c ∈ walked v, ∀ w, Visits c w → P w := by
  constructor
  · exact fun h => ⟨h v (.refl v), fun c hc w hw => h w (.step hc hw)⟩
  · rintro ⟨hv, hwalked⟩ w hw
    cases hw with
    | refl => exact hv
    | step hc hw => exact hwalked _ hc w hw

theorem hashableItems_eq (xs : List (PyValue F)) :
    PyValue.hashableItems xs = xs.all PyValue.hashable := by
  induction xs with
  | nil => rfl
  | cons x xs ih => rw [PyValue.hashableItems, ih, List.all_cons]

theorem hashableItems_iff {ys : List (PyValue F)} {P : PyValue F → Prop}
    (h : List.Forall₂ (fun x y => y.hashable = true ↔ P x) xs ys) :
    PyValue.hashableItems ys = true ↔ ∀ x ∈ xs, P x := by
  induction h with
  | nil => exact ⟨fun _ => nofun, fun _ => rfl⟩
  | cons hxy _ ih =>
    rw [PyValue.hashableItems, Bool.and_eq_true, List.forall_mem_cons, hxy, ih]

/-! ## What the walk returns -/

variable [FiniteFloat F] {py : PyText F}

/-- `unfreeze_params` where `literal_eval` raises a `RecursionError` for some texts, which the
guard does not name. -/
def unfreezeParamsWithin (py : PyText F) (tooDeep : String → Bool) (frozenParams : String) :
    Option (PyValue F) :=
  if literalEval py frozenParams = none ∧ tooDeep frozenParams = true then none
  else unfreezeParams py frozenParams

/-- A value that is hashable once it has been walked, as far as the value itself says. -/
def HashesItself (py : PyText F) : PyValue F → Prop
  | .str s => InBraces s → ∀ v ∈ literalEval py s, v.hashable = true
  | .tuple [.str tag, .tuple _] => tag ≠ "__set__"
  | .list _ => False
  | .set _ => False
  | .dict _ => False
  | _ => True

/-- A value that can be an element of a set once it has been walked. -/
def Hashes (py : PyText F) (v : PyValue F) : Prop := ∀ w, Visits v w → HashesItself py w

/-- A string in braces can be read, and the elements of a set are hashable. -/
structure Readable (py : PyText F) (v : PyValue F) : Prop where
  string : ∀ s, v = .str s → InBraces s → literalEval py s ≠ none
  elements : ∀ xs, v = .tuple [.str "__set__", .tuple xs] → ∀ x ∈ xs, Hashes py x

theorem walk_of_untagged (h : Untagged xs) :
    walk py (.tuple xs) = (walkItems py xs).map .tuple := by
  rw [walk.eq_def]
  split
  next tag ys heq =>
    cases heq
    rw [if_neg fun htag => h.1 ys (by rw [htag])]
    simp only [walkItems, walk]
    cases walkStr py tag with
    | none => rfl
    | some x => cases walk py (.tuple ys) <;> rfl
  next tag iso heq =>
    cases heq
    rw [if_neg fun htag => h.2 iso (by rw [htag])]
    simp only [walkItems, walk]
    cases walkStr py tag with
    | none => rfl
    | some x => cases walkStr py iso <;> rfl
  next ys _ _ heq => rw [PyValue.tuple.inj heq]
  next heq => cases heq
  next heq => cases heq
  next heq => cases heq
  next hno _ _ _ => exact (hno xs rfl).elim

theorem walkItems_eq_some {ys : List (PyValue F)} :
    walkItems py xs = some ys ↔ List.Forall₂ (fun x y => walk py x = some y) xs ys := by
  induction xs generalizing ys with
  | nil => rw [walkItems, List.forall₂_nil_left_iff, Option.some_inj, eq_comm]
  | cons x xs ih =>
    rw [walkItems, Option.bind_eq_some_iff, List.forall₂_cons_left_iff]
    refine exists_congr fun y => ?_
    rw [Option.map_eq_some_iff]
    constructor
    · rintro ⟨hx, ys', hys, rfl⟩
      exact ⟨ys', hx, ih.mp hys, rfl⟩
    · rintro ⟨ys', hx, hys, rfl⟩
      exact ⟨hx, ys', ih.mpr hys, rfl⟩

theorem isSome_walkItems :
    (walkItems py xs).isSome = true ↔ ∀ x ∈ xs, (walk py x).isSome = true := by
  induction xs with
  | nil => simp [walkItems]
  | cons x xs ih =>
    rw [walkItems, List.forall_mem_cons, ← ih]
    cases walk py x with
    | none => simp
    | some y => simp

theorem isSome_walkValues {es : List (PyValue F × PyValue F)} :
    (walkValues py es).isSome = true ↔ ∀ w ∈ es.map (·.2), (walk py w).isSome = true := by
  induction es with
  | nil => simp [walkValues]
  | cons e es ih =>
    rw [walkValues, List.map_cons, List.forall_mem_cons, ← ih]
    cases walk py e.2 with
    | none => simp
    | some y => simp

theorem hashes_iff (v : PyValue F) :
    Hashes py v ↔ HashesItself py v ∧ ∀ c ∈ walked v, Hashes py c := forall_visits

theorem hashesItself_of_untagged (h : Untagged xs) : HashesItself py (.tuple xs) := by
  rw [HashesItself.eq_def]
  split
  all_goals first | trivial | cases ‹PyValue.tuple xs = _›
  exact fun htag => h.1 _ (by rw [htag])

/-- What has been read is hashable if all that has been visited says so. -/
theorem hashable_walk (v : PyValue F) :
    ∀ y, walk py v = some y → (y.hashable = true ↔ Hashes py v) := by
  induction v using walked_induction with
  | _ v ih =>
    intro y hwalk
    rw [hashes_iff]
    cases v with
    | tuple xs =>
      obtain ⟨ys, rfl⟩ | ⟨iso, rfl⟩ | huntagged := tuple_forms xs
      · rw [walk, if_pos rfl] at hwalk
        obtain ⟨zs, -, hset⟩ := Option.bind_eq_some_iff.mp hwalk
        rw [setOf] at hset
        split at hset
        · cases hset
          exact iff_of_false nofun fun h => h.1 rfl
        · cases hset
      · rw [walk, if_pos rfl] at hwalk
        have hhashable : y.hashable = true := by
          split at hwalk <;> cases hwalk <;> rfl
        refine iff_of_true hhashable ⟨trivial, ?_⟩
        rw [walked, if_pos rfl]
        nofun
      · rw [walk_of_untagged huntagged] at hwalk
        obtain ⟨ys, hitems, rfl⟩ := Option.map_eq_some_iff.mp hwalk
        rw [walked_of_untagged huntagged] at ih ⊢
        rw [and_iff_right (hashesItself_of_untagged huntagged)]
        refine hashableItems_iff ?_
        have hread := walkItems_eq_some.mp hitems
        refine List.forall₂_iff_get.mpr ⟨hread.length_eq, fun i hi hi' => ?_⟩
        exact ih _ (List.get_mem xs ⟨i, hi⟩) _ ((List.forall₂_iff_get.mp hread).2 i hi hi')
    | list xs =>
      obtain ⟨ys, -, rfl⟩ := Option.map_eq_some_iff.mp hwalk
      exact iff_of_false nofun And.left
    | dict es =>
      obtain ⟨ys, -, rfl⟩ := Option.map_eq_some_iff.mp hwalk
      exact iff_of_false nofun And.left
    | set xs =>
      cases hwalk
      exact iff_of_false nofun And.left
    | str s =>
      rw [walk, walkStr] at hwalk
      split at hwalk
      next hbraces =>
        refine ⟨fun h => ⟨fun _ v hv => ?_, nofun⟩, fun h => h.1 hbraces y hwalk⟩
        rw [← Option.some_inj.mp (hwalk.symm.trans hv)]
        exact h
      next hbraces =>
        cases hwalk
        exact iff_of_true rfl ⟨fun h => absurd h hbraces, nofun⟩
    | _ =>
      cases hwalk
      exact iff_of_true rfl ⟨trivial, nofun⟩

theorem hashableItems_walkItems {ys : List (PyValue F)} (h : walkItems py xs = some ys) :
    PyValue.hashableItems ys = true ↔ ∀ x ∈ xs, Hashes py x :=
  hashableItems_iff ((walkItems_eq_some.mp h).imp hashable_walk)

theorem isSome_setOf {ys : List (PyValue F)} :
    (setOf ys).isSome = true ↔ PyValue.hashableItems ys = true := by
  rw [setOf, hashableItems_eq]
  split
  next hall => exact iff_of_true rfl hall
  next hall => exact iff_of_false nofun hall

theorem readable_of_untagged (h : Untagged xs) : Readable py (.tuple xs) where
  string := nofun
  elements := fun ys heq => absurd (PyValue.tuple.inj heq) (h.1 ys)

theorem readable_set_iff :
    Readable py (.tuple [.str "__set__", .tuple xs]) ↔ ∀ x ∈ xs, Hashes py x := by
  constructor
  · exact fun h => h.elements xs rfl
  · refine fun h => ⟨nofun, fun ys heq => ?_⟩
    cases heq
    exact h

theorem readable_str_iff {s : String} :
    Readable py (.str s) ↔ (InBraces s → literalEval py s ≠ none) := by
  constructor
  · exact fun h => h.string s rfl
  · refine fun h => ⟨fun t heq => ?_, nofun⟩
    cases heq
    exact h

/-- The walk returns as long as it can read whatever it comes to. -/
theorem isSome_walk_iff (v : PyValue F) :
    (walk py v).isSome = true ↔ ∀ w, Visits v w → Readable py w := by
  induction v using walked_induction with
  | _ v ih =>
    rw [forall_visits, ← forall₂_congr ih]
    cases v with
    | tuple xs =>
      obtain ⟨ys, rfl⟩ | ⟨iso, rfl⟩ | huntagged := tuple_forms xs
      · rw [readable_set_iff, walk, walked, if_pos rfl, if_pos rfl, ← isSome_walkItems]
        cases hitems : walkItems py ys with
        | none => exact iff_of_false nofun fun h => nomatch h.2
        | some zs =>
          rw [Option.bind_some, isSome_setOf, hashableItems_walkItems hitems]
          exact (and_iff_left rfl).symm
      · rw [walk, walked, if_pos rfl, if_pos rfl]
        have hreadable : Readable py (.tuple [.str "__datetime__", .str iso]) :=
          ⟨nofun, fun ys heq => absurd heq (by simp)⟩
        refine iff_of_true ?_ ⟨hreadable, nofun⟩
        split <;> rfl
      · rw [walk_of_untagged huntagged, walked_of_untagged huntagged, Option.isSome_map,
          isSome_walkItems]
        exact (and_iff_right (readable_of_untagged huntagged)).symm
    | list xs =>
      rw [walk, walked, Option.isSome_map, isSome_walkItems]
      exact (and_iff_right ⟨nofun, nofun⟩).symm
    | dict es =>
      rw [walk, walked, Option.isSome_map, isSome_walkValues]
      exact (and_iff_right ⟨nofun, nofun⟩).symm
    | str s =>
      have hnone : ∀ c ∈ walked (PyValue.str s : PyValue F), (walk py c).isSome = true := nofun
      rw [readable_str_iff, and_iff_left hnone, walk, walkStr]
      split
      next hbraces =>
        rw [Option.isSome_iff_ne_none]
        exact ⟨fun h _ => h, fun h => h hbraces⟩
      next hbraces => exact iff_of_true rfl fun h => absurd h hbraces
    | _ => exact iff_of_true rfl ⟨⟨nofun, nofun⟩, nofun⟩

/-- The texts for which unfreezing returns, and then keeps what cannot be decoded. -/
theorem unfreezeParams_total_iff (py : PyText F) (tooDeep : String → Bool) (frozenParams : String) :
    (∃ params, unfreezeParamsWithin py tooDeep frozenParams = some params ∧
      (literalEval py frozenParams = none → params = .str frozenParams)) ↔
    match literalEval py frozenParams with
    | none => tooDeep frozenParams = false
    | some v => ∀ w, Visits v w → Readable py w := by
  cases hread : literalEval py frozenParams with
  | none =>
    rw [unfreezeParamsWithin, unfreezeParams, hread]
    cases htoo : tooDeep frozenParams with
    | false => exact iff_of_true ⟨_, rfl, fun _ => rfl⟩ rfl
    | true =>
      rw [if_pos ⟨rfl, rfl⟩]
      refine iff_of_false ?_ nofun
      rintro ⟨params, hparams, -⟩
      cases hparams
  | some v =>
    rw [unfreezeParamsWithin, unfreezeParams, hread, if_neg (fun h => nomatch h.1)]
    dsimp only
    rw [← isSome_walk_iff, Option.isSome_iff_exists]
    exact exists_congr fun params => and_iff_left nofun

/-- The frozen list of a text in braces raises when it is read again. -/
theorem not_total_nested_text :
    freezeParams asciiText (.list [.str "\x7ba\x7d"]) = some "('\x7ba\x7d',)" ∧
    literalEval asciiText "\x7ba\x7d" = none ∧
    unfreezeParamsWithin asciiText (fun _ => false) "('\x7ba\x7d',)" = none :=
  ⟨by decide, by decide +kernel, by decide +kernel⟩

end AioHomematic.Store
