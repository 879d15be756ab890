import AioHomematic.Lib.Dict

/-!
# Dictionaries in dictionaries

A `Nested` container has values under keys. `dict` is a dictionary, and `under` puts a
container under every key of a dictionary, so that its keys are pairs; a dictionary of
dictionaries of dictionaries is had by repeating it. `put` makes what is missing on the way to
a key. `rebuild` is the rule to use: putting the items of a container one after the other
into an empty one gives the container again, without the containers that have no items.
-/

namespace AioHomematic.Lib

namespace Dict

variable {κ ν μ : Type*} [DecidableEq κ]

omit [DecidableEq κ] in
theorem nodup_filterMap (f : κ → ν → Option μ) {es : List (κ × ν)}
    (h : (es.map Prod.fst).Nodup) :
    ((es.filterMap fun e => (f e.1 e.2).map (e.1, ·)).map Prod.fst).Nodup := by
  refine h.sublist ?_
  induction es with
  | nil => exact .slnil
  | cons e es ih =>
    have hrest := ih h.of_cons
    rw [List.map_cons]
    cases hf : f e.1 e.2 with
    | none =>
      rw [List.filterMap_cons_none (by rw [hf, Option.map_none])]
      exact hrest.cons _
    | some v =>
      rw [List.filterMap_cons_some (by rw [hf, Option.map_some]), List.map_cons]
      exact hrest.cons_cons _

/-- Change the values, and drop some. -/
def filterMap (f : κ → ν → Option μ) (d : Dict κ ν) : Dict κ μ where
  entries := d.entries.filterMap fun e => (f e.1 e.2).map (e.1, ·)
  nodup := nodup_filterMap f d.nodup

theorem set_set (d : Dict κ ν) (k : κ) (v v' : ν) : (d.set k v).set k v' = d.set k v' := by
  refine ext ?_
  have hstore : ∀ es : List (κ × ν), store k v' (store k v es) = store k v' es := by
    intro es
    induction es with
    | nil => simp only [store, if_true]
    | cons e es ih =>
      by_cases heq : e.1 = k
      · simp only [store, heq, if_true]
      · simp only [store, if_neg heq, ih]
  exact hstore d.entries

theorem entries_set_of_none {d : Dict κ ν} {k : κ} (h : d.get? k = none) (v : ν) :
    (d.set k v).entries = d.entries ++ [(k, v)] :=
  store_of_not_mem (get?_eq_none.mp h) v

theorem get?_filterMap (f : κ → ν → Option μ) (d : Dict κ ν) (k : κ) :
    (d.filterMap f).get? k = (d.get? k).bind (f k) := by
  refine Option.ext fun v => ?_
  rw [get?_eq_some, Option.bind_eq_some_iff, filterMap, List.mem_filterMap]
  constructor
  · rintro ⟨e, he, hsome⟩
    obtain ⟨v', hv', heq⟩ := Option.map_eq_some_iff.mp hsome
    obtain ⟨rfl, rfl⟩ := Prod.mk.inj heq
    exact ⟨e.2, get?_eq_some.mpr he, hv'⟩
  · rintro ⟨v', hv', hf⟩
    exact ⟨(k, v'), get?_eq_some.mp hv', Option.map_eq_some_iff.mpr ⟨v, hf, rfl⟩⟩

/-! ## Dictionaries that have something -/

def AllValues (P : ν → Prop) (d : Dict κ ν) : Prop := ∀ k v, d.get? k = some v → P v

def Filled (P : ν → Prop) (d : Dict κ ν) : Prop := d.entries ≠ [] ∧ d.AllValues P

theorem AllValues.empty (P : ν → Prop) : (Dict.empty : Dict κ ν).AllValues P := nofun

theorem AllValues.set {P : ν → Prop} {d : Dict κ ν} (h : d.AllValues P) {k : κ} {v : ν}
    (hv : P v) : (d.set k v).AllValues P := by
  intro k' v' hget
  rw [get?_set] at hget
  split at hget
  · exact Option.some_inj.mp hget ▸ hv
  · exact h k' v' hget

theorem AllValues.erase {P : ν → Prop} {d : Dict κ ν} (h : d.AllValues P) (k : κ) :
    (d.erase k).AllValues P := by
  intro k' v' hget
  rw [get?_erase] at hget
  split at hget
  · cases hget
  · exact h k' v' hget

theorem AllValues.filled_set {P : ν → Prop} {d : Dict κ ν} (h : d.AllValues P) {k : κ} {v : ν}
    (hv : P v) : (d.set k v).Filled P :=
  ⟨entries_ne_nil.mpr ⟨k, v, get?_set_self d k v⟩, h.set hv⟩

/-- Put a dictionary under a key, or drop the key if the dictionary is empty. -/
def setFilled {ι : Type*} [DecidableEq ι] (d : Dict ι (Dict κ ν)) (i : ι) (s : Dict κ ν) :
    Dict ι (Dict κ ν) :=
  if s.entries.isEmpty then d.erase i else d.set i s

theorem AllValues.setFilled {ι : Type*} [DecidableEq ι] {P : ν → Prop} {d : Dict ι (Dict κ ν)}
    (h : d.AllValues (Filled P)) (i : ι) {s : Dict κ ν} (hs : s.AllValues P) :
    (d.setFilled i s).AllValues (Filled P) := by
  unfold Dict.setFilled
  split
  · exact h.erase i
  next hne => exact h.set ⟨fun hnil => hne (by rw [hnil]; rfl), hs⟩

end Dict

/-- A container of values under keys. -/
structure Nested (κ ν σ : Type*) [DecidableEq κ] where
  empty : σ
  items : σ → List (κ × ν)
  put : σ → κ → ν → σ
  /-- Change the values and drop what has none. -/
  tidy : (κ → ν → ν) → σ → σ
  items_empty : items empty = []
  nodup : ∀ s, ((items s).map Prod.fst).Nodup
  mem_put : ∀ {s k v k' v'},
    (k', v') ∈ items (put s k v) ↔ if k = k' then v = v' else (k', v') ∈ items s
  rebuild : ∀ f s,
    ((items s).map fun e => (e.1, f e.1 e.2)).foldl (fun s e => put s e.1 e.2) empty = tidy f s

namespace Nested

variable {ι κ ν σ : Type*} [DecidableEq ι] [DecidableEq κ]

/-! ## One dictionary -/

theorem mem_entries_set {d : Dict κ ν} {k k' : κ} {v v' : ν} :
    (k', v') ∈ (d.set k v).entries ↔ if k = k' then v = v' else (k', v') ∈ d.entries := by
  rw [← Dict.get?_eq_some, ← Dict.get?_eq_some, Dict.get?_set]
  split
  · exact Option.some_inj
  · exact Iff.rfl

/-- A dictionary. -/
def dict : Nested κ ν (Dict κ ν) where
  empty := .empty
  items := Dict.entries
  put := Dict.set
  tidy f d := d.filterMap fun k v => some (f k v)
  items_empty := rfl
  nodup := Dict.nodup
  mem_put := mem_entries_set
  rebuild f d := by
    refine Dict.ext ?_
    have hnodup : ((d.entries.map fun e => (e.1, f e.1 e.2)).map Prod.fst).Nodup := by
      rw [List.map_map]
      exact d.nodup
    refine (Dict.entries_assign_empty hnodup).trans ?_
    exact (congrFun List.filterMap_eq_map d.entries).symm

/-! ## Under a key -/

section

variable (n : Nested κ ν σ)

def underItems (d : Dict ι σ) : List ((ι × κ) × ν) :=
  d.entries.flatMap fun e => (n.items e.2).map fun e' => ((e.1, e'.1), e'.2)

def underPut (d : Dict ι σ) (k : ι × κ) (v : ν) : Dict ι σ :=
  d.set k.1 (n.put ((d.get? k.1).getD n.empty) k.2 v)

def underTidy (f : ι × κ → ν → ν) (d : Dict ι σ) : Dict ι σ :=
  d.filterMap fun i s => if n.items s = [] then none else some (n.tidy (fun k => f (i, k)) s)

theorem mem_underItems {d : Dict ι σ} {i : ι} {k : κ} {v : ν} :
    ((i, k), v) ∈ n.underItems d ↔ ∃ s, d.get? i = some s ∧ (k, v) ∈ n.items s := by
  rw [underItems, List.mem_flatMap]
  constructor
  · rintro ⟨e, he, hmem⟩
    obtain ⟨e', he', heq⟩ := List.mem_map.mp hmem
    obtain ⟨hkey, rfl⟩ := Prod.mk.inj heq
    obtain ⟨rfl, rfl⟩ := Prod.mk.inj hkey
    exact ⟨e.2, Dict.get?_eq_some.mpr he, he'⟩
  · rintro ⟨s, hs, hmem⟩
    exact ⟨(i, s), Dict.get?_eq_some.mp hs, List.mem_map.mpr ⟨(k, v), hmem, rfl⟩⟩

omit [DecidableEq ι] in
theorem nodup_underItems (d : Dict ι σ) : ((n.underItems d).map Prod.fst).Nodup := by
  rw [underItems, List.map_flatMap, List.nodup_flatMap]
  constructor
  · intro e _
    rw [List.map_map]
    have hnodup := (n.nodup e.2).map fun k k' (h : (e.1, k) = (e.1, k')) => (Prod.mk.inj h).2
    rwa [List.map_map] at hnodup
  · refine (List.pairwise_map.mp d.nodup).imp fun {e e'} hne k hk hk' => hne ?_
    obtain ⟨x, hx, rfl⟩ := List.mem_map.mp hk
    obtain ⟨x', hx', heq⟩ := List.mem_map.mp hk'
    obtain ⟨y, -, rfl⟩ := List.mem_map.mp hx
    obtain ⟨y', -, rfl⟩ := List.mem_map.mp hx'
    exact (congrArg Prod.fst heq).symm

theorem mem_underPut {d : Dict ι σ} {k k' : ι × κ} {v v' : ν} :
    (k', v') ∈ n.underItems (n.underPut d k v) ↔
      if k = k' then v = v' else (k', v') ∈ n.underItems d := by
  obtain ⟨i, k⟩ := k
  obtain ⟨i', k'⟩ := k'
  rw [mem_underItems, mem_underItems, underPut, Dict.get?_set]
  by_cases hi : i = i'
  · subst hi
    have hold : (k', v') ∈ n.items ((d.get? i).getD n.empty) ↔
        ∃ s, d.get? i = some s ∧ (k', v') ∈ n.items s := by
      cases d.get? i with
      | none => simp [n.items_empty]
      | some s => simp
    simp only [if_true, Option.some.injEq, exists_eq_left', n.mem_put, Prod.mk.injEq, true_and,
      hold]
  · have hne : (i, k) ≠ (i', k') := fun h => hi (Prod.mk.inj h).1
    rw [if_neg hi, if_neg hne]

/-- Values that go under one key. -/
theorem foldl_underPut (i : ι) {l : List (κ × ν)} (hne : l ≠ []) (d : Dict ι σ) :
    (l.map fun e => ((i, e.1), e.2)).foldl (fun d e => n.underPut d e.1 e.2) d =
      d.set i (l.foldl (fun s e => n.put s e.1 e.2) ((d.get? i).getD n.empty)) := by
  induction l using List.reverseRecOn with
  | nil => exact absurd rfl hne
  | append_singleton l e ih =>
    rw [List.map_append, List.foldl_append, List.foldl_append, List.map_singleton]
    by_cases hnil : l = []
    · subst hnil
      rfl
    · rw [ih hnil]
      simp only [List.foldl_cons, List.foldl_nil, underPut, Dict.get?_set_self, Option.getD_some,
        Dict.set_set]

theorem rebuild_under (f : ι × κ → ν → ν) (d : Dict ι σ) :
    ((n.underItems d).map fun e => (e.1, f e.1 e.2)).foldl
      (fun d e => n.underPut d e.1 e.2) .empty = n.underTidy f d := by
  refine Dict.ext ?_
  have hfold : ∀ (es : List (ι × σ)) (acc : Dict ι σ), (es.map Prod.fst).Nodup →
      (∀ i ∈ es.map Prod.fst, acc.get? i = none) →
      (((es.flatMap fun e => (n.items e.2).map fun e' => ((e.1, e'.1), e'.2)).map
        fun e => (e.1, f e.1 e.2)).foldl (fun d e => n.underPut d e.1 e.2) acc).entries =
      acc.entries ++ es.filterMap fun e =>
        (if n.items e.2 = [] then none else some (n.tidy (fun k => f (e.1, k)) e.2)).map
          (e.1, ·) := by
    intro es
    induction es with
    | nil => exact fun acc _ _ => (List.append_nil _).symm
    | cons e es ih =>
      intro acc hnodup hnew
      have hrest : ∀ i ∈ es.map Prod.fst, acc.get? i = none := fun i hi =>
        hnew i (List.mem_cons_of_mem _ hi)
      rw [List.flatMap_cons, List.map_append, List.foldl_append]
      by_cases hnil : n.items e.2 = []
      · rw [List.filterMap_cons_none (by rw [if_pos hnil, Option.map_none]), hnil]
        exact ih acc hnodup.of_cons hrest
      · have hmap : ((n.items e.2).map fun e' => ((e.1, e'.1), e'.2)).map
            (fun e' => (e'.1, f e'.1 e'.2)) =
            ((n.items e.2).map fun e' => (e'.1, f (e.1, e'.1) e'.2)).map
              fun e' => ((e.1, e'.1), e'.2) := by
          rw [List.map_map, List.map_map]
          rfl
        have hmapNe : ((n.items e.2).map fun e' => (e'.1, f (e.1, e'.1) e'.2)) ≠ [] :=
          mt List.map_eq_nil_iff.mp hnil
        have hnone : acc.get? e.1 = none := hnew e.1 List.mem_cons_self
        rw [hmap, foldl_underPut n e.1 hmapNe, hnone, Option.getD_none,
          n.rebuild fun k => f (e.1, k), ih, Dict.entries_set_of_none hnone, List.append_assoc,
          List.filterMap_cons_some (by rw [if_neg hnil, Option.map_some]),
          List.singleton_append]
        · exact hnodup.of_cons
        · intro i hi
          have hne : e.1 ≠ i := fun heq => (List.nodup_cons.mp hnodup).1 (heq ▸ hi)
          rw [Dict.get?_set_of_ne _ _ hne, hrest i hi]
  exact hfold d.entries .empty d.nodup fun _ _ => rfl

/-- A container under every key. -/
def under : Nested (ι × κ) ν (Dict ι σ) where
  empty := .empty
  items := n.underItems
  put := n.underPut
  tidy := n.underTidy
  items_empty := rfl
  nodup := n.nodup_underItems
  mem_put := n.mem_underPut
  rebuild := n.rebuild_under

end

/-! ## What is tidy -/

omit [DecidableEq ι] in
theorem filterMap_eq_self {f : ι → σ → Option σ} {d : Dict ι σ}
    (h : ∀ e ∈ d.entries, f e.1 e.2 = some e.2) : d.filterMap f = d := by
  refine Dict.ext ?_
  have hmap : d.entries.filterMap (fun e => (f e.1 e.2).map (e.1, ·)) = d.entries.filterMap some :=
    List.filterMap_congr fun e he => by rw [h e he, Option.map_some]
  exact hmap.trans List.filterMap_some

theorem tidy_dict_eq_self {f : κ → ν → ν} {d : Dict κ ν}
    (h : ∀ e ∈ d.entries, f e.1 e.2 = e.2) : Nested.tidy (dict : Nested κ ν (Dict κ ν)) f d = d :=
  filterMap_eq_self (f := fun k v => some (f k v)) fun e he => congrArg some (h e he)

/-- What is under every key is tidy and has items. -/
theorem tidy_under_eq_self {n : Nested κ ν σ} {f : ι × κ → ν → ν} {d : Dict ι σ}
    (h : ∀ e ∈ d.entries, n.items e.2 ≠ [] ∧ n.tidy (fun k => f (e.1, k)) e.2 = e.2) :
    Nested.tidy (n.under : Nested (ι × κ) ν (Dict ι σ)) f d = d := by
  refine filterMap_eq_self (f := fun i s =>
    if n.items s = [] then none else some (n.tidy (fun k => f (i, k)) s)) fun e he => ?_
  rw [if_neg (h e he).1, (h e he).2]

theorem items_under_ne_nil {n : Nested κ ν σ} {d : Dict ι σ} (hd : d.entries ≠ [])
    (h : ∀ e ∈ d.entries, n.items e.2 ≠ []) : n.under.items d ≠ [] := by
  obtain ⟨e, he⟩ := List.exists_mem_of_ne_nil _ hd
  obtain ⟨e', he'⟩ := List.exists_mem_of_ne_nil _ (h e he)
  have hmem : ((e.1, e'.1), e'.2) ∈ n.underItems d :=
    List.mem_flatMap.mpr ⟨e, he, List.mem_map.mpr ⟨e', he', rfl⟩⟩
  exact List.ne_nil_of_mem hmem

/-! ## Dropping what is empty -/

theorem mem_items_under {n : Nested κ ν σ} {d : Dict ι σ} {i : ι} {k : κ} {v : ν} :
    ((i, k), v) ∈ n.under.items d ↔ ∃ s, d.get? i = some s ∧ (k, v) ∈ n.items s :=
  n.mem_underItems

theorem mem_items_dict {d : Dict κ ν} {k : κ} {v : ν} :
    (k, v) ∈ (dict : Nested κ ν (Dict κ ν)).items d ↔ d.get? k = some v :=
  Dict.get?_eq_some.symm

theorem items_eq_nil_of_entries {n : Nested κ ν σ} {d : Dict ι σ} (h : d.entries = []) :
    n.under.items d = [] := by
  show List.flatMap _ d.entries = []
  rw [h]
  rfl

/-- An item is under the key that was set, or elsewhere. -/
theorem mem_items_setFilled {κ' ν' : Type*} [DecidableEq κ'] {n : Nested κ ν (Dict κ' ν')}
    (hn : ∀ s : Dict κ' ν', s.entries = [] → n.items s = []) {d : Dict ι (Dict κ' ν')} {i i' : ι}
    {s : Dict κ' ν'} {k : κ} {v : ν} :
    ((i', k), v) ∈ n.under.items (d.setFilled i s) ↔
      if i = i' then (k, v) ∈ n.items s else ((i', k), v) ∈ n.under.items d := by
  rw [mem_items_under, mem_items_under]
  unfold Dict.setFilled
  by_cases heq : i = i'
  · subst heq
    rw [if_pos rfl]
    split
    next hempty =>
      have hnil := hn s (List.isEmpty_iff.mp hempty)
      simp [hnil]
    next => simp
  · rw [if_neg heq]
    split
    · rw [Dict.get?_erase_of_ne _ heq]
    · rw [Dict.get?_set_of_ne _ _ heq]

/-- A container that has got an item has something at every level. -/
theorem filled_put {n : Nested κ ν σ} {P : σ → Prop}
    (hP : ∀ s k v, s = n.empty ∨ P s → P (n.put s k v)) {d : Dict ι σ} (h : d.AllValues P)
    (k : ι × κ) (v : ν) : (n.under.put d k v).Filled P := by
  refine h.filled_set (hP _ _ _ ?_)
  cases hget : d.get? k.1 with
  | none => exact .inl rfl
  | some s => exact .inr (h k.1 s hget)

/-! ## Loops -/

/-- A loop that does not raise. -/
theorem foldlM_eq_ok {ε α β : Type*} {f : β → α → Except ε β} {g : β → α → β} {l : List α}
    (h : ∀ a ∈ l, ∀ b, f b a = .ok (g b a)) (b : β) : l.foldlM f b = .ok (l.foldl g b) := by
  induction l generalizing b with
  | nil => rfl
  | cons a l ih =>
    rw [List.foldlM_cons, h a List.mem_cons_self, List.foldl_cons]
    exact ih (fun a' ha' => h a' (List.mem_cons_of_mem _ ha')) (g b a)

/-- A loop in a loop goes over the items. -/
theorem foldlM_items_under {ε β : Type*} (n : Nested κ ν σ)
    (f : β → (ι × κ) × ν → Except ε β) (d : Dict ι σ) (b : β) :
    (n.under.items d).foldlM f b =
      d.entries.foldlM
        (fun b e => (n.items e.2).foldlM (fun b e' => f b ((e.1, e'.1), e'.2)) b) b := by
  show (d.entries.flatMap _).foldlM f b = _
  induction d.entries generalizing b with
  | nil => rfl
  | cons e es ih =>
    rw [List.flatMap_cons, List.foldlM_append, List.foldlM_cons, List.foldlM_map]
    exact congrArg (Except.bind _) (funext ih)

/-! ## Putting a list of items -/

/-- Items with different keys, put into an empty container. -/
theorem mem_foldl_put (n : Nested κ ν σ) {l : List (κ × ν)} (hnodup : (l.map Prod.fst).Nodup)
    {e : κ × ν} : e ∈ n.items (l.foldl (fun s e => n.put s e.1 e.2) n.empty) ↔ e ∈ l := by
  induction l using List.reverseRecOn with
  | nil => rw [List.foldl_nil, n.items_empty]
  | append_singleton l e' ih =>
    obtain ⟨hold, -, hdisjoint⟩ := List.nodup_append.mp (List.map_append ▸ hnodup)
    obtain ⟨k, v⟩ := e
    rw [List.foldl_append, List.foldl_cons, List.foldl_nil, n.mem_put, ih hold,
      List.mem_append, List.mem_singleton]
    split
    next heq =>
      have hnew : (k, v) ∉ l := fun hmem =>
        hdisjoint k (List.mem_map_of_mem hmem) e'.1 List.mem_cons_self heq.symm
      rw [or_iff_right hnew]
      exact ⟨fun h => Prod.ext heq.symm h.symm, fun h => (congrArg Prod.snd h).symm⟩
    next hne =>
      exact (or_iff_left fun h => hne (congrArg Prod.fst h).symm).symm

end Nested

end AioHomematic.Lib
