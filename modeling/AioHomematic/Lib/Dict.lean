import Mathlib.Data.List.Flatten
import Mathlib.Data.List.Induction
import Mathlib.Data.List.Nodup

/-!
# Insertion-ordered dictionaries

Python's `dict`: `entries` in the order in which their keys came in, with no
key twice. `set` keeps the place of a key it finds and appends one it does not;
`erase` is `pop(key, None)`. The characteristic lemmas are `get?_set`,
`get?_erase` and `get?_eq_some`; `keys_set` and `keys_erase` say what happens
to the order. `assignNew` keeps what a dictionary has, and `collectFrom` fills
one from the elements of a list that give an entry.
-/

namespace AioHomematic.Lib

/-- The order of first occurrence. -/
theorem eraseDups_concat {α : Type*} [BEq α] [LawfulBEq α] (l : List α) (a : α)
    [Decidable (a ∈ l.eraseDups)] :
    (l ++ [a]).eraseDups = if a ∈ l.eraseDups then l.eraseDups else l.eraseDups ++ [a] := by
  rw [List.eraseDups_append]
  split
  next hmem =>
    have hnone : [a].removeAll l = [] := List.filter_eq_nil_iff.mpr fun b hb => by
      rw [List.mem_singleton.mp hb, List.elem_eq_true_of_mem (List.mem_eraseDups.mp hmem)]
      exact Bool.false_ne_true
    rw [hnone]
    exact List.append_nil _
  next hmem =>
    have hall : [a].removeAll l = [a] := List.filter_eq_self.mpr fun b hb => by
      rw [List.mem_singleton.mp hb]
      simpa using mt List.mem_eraseDups.mpr hmem
    rw [hall]
    rfl

structure Dict (κ ν : Type*) where
  entries : List (κ × ν)
  nodup : (entries.map Prod.fst).Nodup

namespace Dict

variable {κ ν : Type*} [DecidableEq κ]

/-! ## Entry lists -/

def lookup (k : κ) : List (κ × ν) → Option ν
  | [] => none
  | (k', v) :: es => if k' = k then some v else lookup k es

def store (k : κ) (v : ν) : List (κ × ν) → List (κ × ν)
  | [] => [(k, v)]
  | (k', v') :: es => if k' = k then (k, v) :: es else (k', v') :: store k v es

theorem map_fst_store (k : κ) (v : ν) (es : List (κ × ν)) :
    (store k v es).map Prod.fst =
      if k ∈ es.map Prod.fst then es.map Prod.fst else es.map Prod.fst ++ [k] := by
  induction es with
  | nil => simp [store]
  | cons e es ih =>
    obtain ⟨k', v'⟩ := e
    unfold store
    by_cases h : k' = k
    · simp [h]
    · rw [if_neg h, List.map_cons, ih]
      by_cases hk : k ∈ es.map Prod.fst
      · simp only [hk, if_true, List.map_cons, List.mem_cons, or_true]
      · simp only [hk, if_false, List.map_cons, List.mem_cons, or_false, Ne.symm h,
          List.cons_append]

theorem store_of_not_mem {k : κ} {es : List (κ × ν)} (h : k ∉ es.map Prod.fst) (v : ν) :
    store k v es = es ++ [(k, v)] := by
  induction es with
  | nil => rfl
  | cons e es ih =>
    obtain ⟨k', v'⟩ := e
    rw [List.map_cons, List.mem_cons, not_or] at h
    rw [store, if_neg (Ne.symm h.1), ih h.2, List.cons_append]

theorem lookup_store (k k' : κ) (v : ν) (es : List (κ × ν)) :
    lookup k' (store k v es) = if k = k' then some v else lookup k' es := by
  induction es with
  | nil => simp [store, lookup]
  | cons e es ih =>
    obtain ⟨k₀, v₀⟩ := e
    unfold store
    by_cases h : k₀ = k
    · subst h
      simp only [if_true, lookup]
      split <;> rfl
    · simp only [if_neg h, lookup, ih]
      by_cases h₀ : k₀ = k'
      · subst h₀; simp [Ne.symm h]
      · simp [h₀]

theorem lookup_filter (k k' : κ) (es : List (κ × ν)) :
    lookup k' (es.filter (·.1 ≠ k)) = if k = k' then none else lookup k' es := by
  induction es with
  | nil => simp [lookup]
  | cons e es ih =>
    obtain ⟨k₀, v₀⟩ := e
    by_cases h : k₀ = k
    · subst h
      rw [List.filter_cons_of_neg (by simp), ih]
      by_cases h₀ : k₀ = k' <;> simp [lookup, h₀]
    · rw [List.filter_cons_of_pos (by simpa using h)]
      simp only [lookup, ih]
      by_cases h₀ : k₀ = k'
      · subst h₀; simp [Ne.symm h]
      · simp [h₀]

theorem lookup_eq_none {k : κ} {es : List (κ × ν)} :
    lookup k es = none ↔ k ∉ es.map Prod.fst := by
  induction es with
  | nil => simp [lookup]
  | cons e es ih =>
    obtain ⟨k', v'⟩ := e
    by_cases h : k' = k
    · simp [lookup, h]
    · simp [lookup, h, Ne.symm h, ih]

theorem mem_of_lookup {k : κ} {v : ν} {es : List (κ × ν)} (h : lookup k es = some v) :
    (k, v) ∈ es := by
  induction es with
  | nil => cases h
  | cons e es ih =>
    obtain ⟨k', v'⟩ := e
    unfold lookup at h
    split at h
    · cases h; subst_vars; exact List.mem_cons_self
    · exact List.mem_cons_of_mem _ (ih h)

/-! ## Operations -/

def empty : Dict κ ν := ⟨[], List.nodup_nil⟩

def get? (d : Dict κ ν) (k : κ) : Option ν := lookup k d.entries

def contains (d : Dict κ ν) (k : κ) : Bool := (d.get? k).isSome

def keys (d : Dict κ ν) : List κ := d.entries.map Prod.fst

def values (d : Dict κ ν) : List ν := d.entries.map Prod.snd

/-- `d[k] = v`. -/
def set (d : Dict κ ν) (k : κ) (v : ν) : Dict κ ν where
  entries := store k v d.entries
  nodup := by
    rw [map_fst_store]
    split
    · exact d.nodup
    · rename_i hk
      refine List.nodup_append.mpr ⟨d.nodup, List.nodup_singleton k, ?_⟩
      rintro a ha b hb rfl
      exact hk (List.mem_singleton.mp hb ▸ ha)

/-- `d.pop(k, None)`. -/
def erase (d : Dict κ ν) (k : κ) : Dict κ ν where
  entries := d.entries.filter (·.1 ≠ k)
  nodup := d.nodup.sublist (List.filter_sublist.map _)

/-- Change the value of a key that is there. -/
def modify (d : Dict κ ν) (k : κ) (f : ν → ν) : Dict κ ν :=
  match d.get? k with
  | some v => d.set k (f v)
  | none => d

/-- Change the value of a key, which is `v₀` if it is not there. -/
def modifyD (d : Dict κ ν) (k : κ) (v₀ : ν) (f : ν → ν) : Dict κ ν :=
  d.set k (f ((d.get? k).getD v₀))

/-- `{k: f(v) for k, v in d.items()}`. -/
def map {μ : Type*} (f : ν → μ) (d : Dict κ ν) : Dict κ μ where
  entries := d.entries.map fun e => (e.1, f e.2)
  nodup := by
    rw [List.map_map]
    exact d.nodup

/-- Add a value to the list under its key. -/
def addTo {α : Type*} (key : α → κ) (d : Dict κ (List α)) (a : α) : Dict κ (List α) :=
  d.set (key a) ((d.get? (key a)).getD [] ++ [a])

/-- Group a list by a key. -/
def group {α : Type*} (key : α → κ) (l : List α) : Dict κ (List α) := l.foldl (addTo key) empty

/-- `{**d, **d'}`. -/
def merge (d d' : Dict κ ν) : Dict κ ν := d'.entries.foldl (fun d e => d.set e.1 e.2) d

/-! ## Lemmas -/

omit [DecidableEq κ] in
@[ext] theorem ext {d d' : Dict κ ν} (h : d.entries = d'.entries) : d = d' := by
  cases d; cases d'; cases h; rfl

instance [DecidableEq ν] : DecidableEq (Dict κ ν) := fun d d' =>
  decidable_of_iff (d.entries = d'.entries) ⟨ext, fun h => h ▸ rfl⟩

@[simp] theorem get?_empty (k : κ) : (empty : Dict κ ν).get? k = none := rfl

omit [DecidableEq κ] in
@[simp] theorem keys_empty : (empty : Dict κ ν).keys = [] := rfl

theorem get?_set (d : Dict κ ν) (k k' : κ) (v : ν) :
    (d.set k v).get? k' = if k = k' then some v else d.get? k' :=
  lookup_store k k' v d.entries

theorem get?_erase (d : Dict κ ν) (k k' : κ) :
    (d.erase k).get? k' = if k = k' then none else d.get? k' :=
  lookup_filter k k' d.entries

theorem get?_modify (d : Dict κ ν) (k k' : κ) (f : ν → ν) :
    (d.modify k f).get? k' = if k = k' then (d.get? k').map f else d.get? k' := by
  unfold modify
  split
  next v hv =>
    rw [get?_set]
    split
    · subst_vars
      rw [hv]
      rfl
    · rfl
  next hnone =>
    split
    · subst_vars
      rw [hnone]
      rfl
    · rfl

theorem getD_get?_modifyD (d : Dict κ ν) (k k' : κ) (v₀ : ν) (f : ν → ν) :
    ((d.modifyD k v₀ f).get? k').getD v₀ =
      if k = k' then f ((d.get? k').getD v₀) else (d.get? k').getD v₀ := by
  rw [modifyD, get?_set]
  split
  · subst_vars
    rfl
  · rfl

@[simp] theorem get?_set_self (d : Dict κ ν) (k : κ) (v : ν) : (d.set k v).get? k = some v := by
  rw [get?_set, if_pos rfl]

theorem get?_set_of_ne (d : Dict κ ν) {k k' : κ} (v : ν) (h : k ≠ k') :
    (d.set k v).get? k' = d.get? k' := by
  rw [get?_set, if_neg h]

@[simp] theorem get?_erase_self (d : Dict κ ν) (k : κ) : (d.erase k).get? k = none := by
  rw [get?_erase, if_pos rfl]

theorem get?_erase_of_ne (d : Dict κ ν) {k k' : κ} (h : k ≠ k') :
    (d.erase k).get? k' = d.get? k' := by
  rw [get?_erase, if_neg h]

theorem keys_set (d : Dict κ ν) (k : κ) (v : ν) :
    (d.set k v).keys = if k ∈ d.keys then d.keys else d.keys ++ [k] :=
  map_fst_store k v d.entries

theorem get?_eq_none {d : Dict κ ν} {k : κ} : d.get? k = none ↔ k ∉ d.keys := lookup_eq_none

theorem contains_iff {d : Dict κ ν} {k : κ} : d.contains k = true ↔ d.get? k ≠ none :=
  Option.isSome_iff_ne_none

theorem mem_keys {d : Dict κ ν} {k : κ} : k ∈ d.keys ↔ ∃ v, d.get? k = some v := by
  rw [← Option.ne_none_iff_exists', ne_eq, get?_eq_none, not_not]

theorem get?_map {μ : Type*} (f : ν → μ) (d : Dict κ ν) (k : κ) :
    (d.map f).get? k = (d.get? k).map f := by
  have hlookup : ∀ es : List (κ × ν),
      lookup k (es.map fun e => (e.1, f e.2)) = (lookup k es).map f := by
    intro es
    induction es with
    | nil => rfl
    | cons e es ih =>
      simp only [List.map_cons, lookup]
      split
      · rfl
      · exact ih
  exact hlookup d.entries

theorem map_set {μ : Type*} (f : ν → μ) (d : Dict κ ν) (k : κ) (v : ν) :
    (d.set k v).map f = (d.map f).set k (f v) := by
  have hstore : ∀ es : List (κ × ν), (store k v es).map (fun e => (e.1, f e.2)) =
      store k (f v) (es.map fun e => (e.1, f e.2)) := by
    intro es
    induction es with
    | nil => rfl
    | cons e es ih =>
      simp only [store, List.map_cons]
      split
      · rfl
      · rw [List.map_cons, ih]
  exact ext (hstore d.entries)

/-- A value that there need not be, after a change of the values. -/
theorem getD_get?_map {μ : Type*} (f : ν → μ) (d : Dict κ ν) (k : κ) (v : ν) :
    ((d.map f).get? k).getD (f v) = f ((d.get? k).getD v) := by
  rw [get?_map, Option.getD_map]

theorem get?_foldl_erase (ks : List κ) (d : Dict κ ν) (k : κ) :
    (ks.foldl erase d).get? k = if k ∈ ks then none else d.get? k := by
  induction ks generalizing d with
  | nil => simp
  | cons k₀ ks ih =>
    rw [List.foldl_cons, ih, get?_erase]
    by_cases h : k ∈ ks
    · simp [h]
    · by_cases h₀ : k₀ = k
      · simp [h₀]
      · simp [h, h₀, Ne.symm h₀]

/-- A loop over the entries of one dictionary that updates another. -/
theorem get?_foldl_set {μ : Type*} (f : Option ν → μ → ν) (d : Dict κ ν) (d' : Dict κ μ) (k : κ) :
    (d'.entries.foldl (fun d e => d.set e.1 (f (d.get? e.1) e.2)) d).get? k =
      match d'.get? k with
      | none => d.get? k
      | some v => some (f (d.get? k) v) := by
  have hfoldl : ∀ (es : List (κ × μ)) (d : Dict κ ν), (es.map Prod.fst).Nodup →
      (es.foldl (fun d e => d.set e.1 (f (d.get? e.1) e.2)) d).get? k =
        match lookup k es with
        | none => d.get? k
        | some v => some (f (d.get? k) v) := by
    intro es
    induction es with
    | nil => intro d _; rfl
    | cons e es ih =>
      intro d hnodup
      obtain ⟨k', v⟩ := e
      rw [List.map_cons, List.nodup_cons] at hnodup
      rw [List.foldl_cons, ih _ hnodup.2, get?_set]
      by_cases heq : k' = k
      · subst heq
        rw [lookup_eq_none.mpr hnodup.1]
        simp [lookup]
      · simp [lookup, heq]
  exact hfoldl d'.entries d d'.nodup

theorem get?_group {α : Type*} (key : α → κ) (l : List α) (k : κ) :
    (group key l).get? k =
      if l.filter (key · = k) = [] then none else some (l.filter (key · = k)) := by
  induction l using List.reverseRecOn with
  | nil => rfl
  | append_singleton l a ih =>
    rw [group, List.foldl_append, List.foldl_cons, List.foldl_nil, ← group, addTo, get?_set,
      List.filter_append]
    split
    next heq =>
      subst heq
      rw [ih]
      split
      next hnil => simp [hnil]
      · simp
    next hne =>
      rw [ih, List.filter_cons_of_neg (by simpa using hne), List.filter_nil, List.append_nil]

theorem getD_get?_group {α : Type*} (key : α → κ) (l : List α) (k : κ) :
    ((group key l).get? k).getD [] = l.filter (key · = k) := by
  rw [get?_group]
  split
  next hnil => exact hnil.symm
  · rfl

theorem perm_flatten_values_addTo {α : Type*} (key : α → κ) (d : Dict κ (List α)) (a : α) :
    ((d.addTo key a).values.flatten).Perm (d.values.flatten ++ [a]) := by
  have hstore : ∀ es : List (κ × List α),
      (((store (key a) ((lookup (key a) es).getD [] ++ [a]) es).map Prod.snd).flatten).Perm
        ((es.map Prod.snd).flatten ++ [a]) := by
    intro es
    induction es with
    | nil => exact .refl _
    | cons e es ih =>
      obtain ⟨k, l⟩ := e
      simp only [store, lookup]
      split
      · simp only [Option.getD_some, List.map_cons, List.flatten_cons, List.append_assoc]
        exact .append_left l List.perm_append_comm
      · simp only [List.map_cons, List.flatten_cons, List.append_assoc]
        exact .append_left l ih
  exact hstore d.entries

theorem perm_flatten_values_foldl_addTo {α : Type*} (key : α → κ) (d : Dict κ (List α))
    (l : List α) : ((l.foldl (addTo key) d).values.flatten).Perm (d.values.flatten ++ l) := by
  induction l generalizing d with
  | nil => rw [List.foldl_nil, List.append_nil]
  | cons a l ih =>
    rw [List.foldl_cons, List.append_cons]
    exact (ih _).trans (.append_right l (perm_flatten_values_addTo key d a))

/-- What stands under a key, and the rest. -/
theorem perm_flatten_values_erase {α : Type*} {d : Dict κ (List α)} {k : κ} {l : List α}
    (h : d.get? k = some l) : (d.values.flatten).Perm (l ++ (d.erase k).values.flatten) := by
  have hfilter : ∀ es : List (κ × List α), (es.map Prod.fst).Nodup → lookup k es = some l →
      ((es.map Prod.snd).flatten).Perm (l ++ ((es.filter (·.1 ≠ k)).map Prod.snd).flatten) := by
    intro es
    induction es with
    | nil => intro _ h; cases h
    | cons e es ih =>
      intro hnodup h
      obtain ⟨k', l'⟩ := e
      rw [List.map_cons, List.nodup_cons] at hnodup
      unfold lookup at h
      split at h
      next heq =>
        cases h
        subst heq
        have hrest : es.filter (·.1 ≠ k') = es := List.filter_eq_self.mpr fun e he => by
          have hne : e.1 ≠ k' := fun heq =>
            hnodup.1 (List.mem_map.mpr ⟨e, he, heq⟩)
          simpa using hne
        rw [List.filter_cons_of_neg (by simp), hrest]
        exact .refl _
      next hne =>
        rw [List.filter_cons_of_pos (by simpa using hne)]
        simp only [List.map_cons, List.flatten_cons]
        refine (List.Perm.append_left l' (ih hnodup.2 h)).trans ?_
        rw [← List.append_assoc, ← List.append_assoc]
        exact .append_right _ List.perm_append_comm
  exact hfilter d.entries d.nodup h

theorem flatten_values_erase {α : Type*} (d : Dict κ (List α)) (k : κ) :
    (d.erase k).values.flatten.Sublist d.values.flatten :=
  (List.filter_sublist.map _).flatten

theorem entries_merge {d d' : Dict κ ν} (h : ∀ k ∈ d'.keys, k ∉ d.keys) :
    (d.merge d').entries = d.entries ++ d'.entries := by
  have hfoldl : ∀ (es : List (κ × ν)) (d : Dict κ ν), (es.map Prod.fst).Nodup →
      (∀ k ∈ es.map Prod.fst, k ∉ d.keys) →
      (es.foldl (fun d e => d.set e.1 e.2) d).entries = d.entries ++ es := by
    intro es
    induction es with
    | nil => intro d _ _; exact (List.append_nil _).symm
    | cons e es ih =>
      intro d hnodup hnew
      rw [List.map_cons, List.nodup_cons] at hnodup
      have hset : (d.set e.1 e.2).entries = d.entries ++ [e] :=
        store_of_not_mem (hnew e.1 List.mem_cons_self) e.2
      have hkeys : (d.set e.1 e.2).keys = d.keys ++ [e.1] := by
        rw [keys, hset, List.map_append]
        rfl
      rw [List.foldl_cons, ih _ hnodup.2, hset, List.append_assoc, List.singleton_append]
      intro k hk
      rw [hkeys, List.mem_append, List.mem_singleton]
      rintro (hmem | rfl)
      · exact hnew k (List.mem_cons_of_mem _ hk) hmem
      · exact hnodup.1 hk
  exact hfoldl d'.entries d d'.nodup h

theorem get?_eq_some {d : Dict κ ν} {k : κ} {v : ν} : d.get? k = some v ↔ (k, v) ∈ d.entries := by
  refine ⟨mem_of_lookup, fun h => ?_⟩
  obtain ⟨v', hv'⟩ := mem_keys.mp (List.mem_map.mpr ⟨_, h, rfl⟩)
  have hinj := List.inj_on_of_nodup_map d.nodup h (mem_of_lookup hv') rfl
  cases hinj
  exact hv'

theorem mem_values {d : Dict κ ν} {v : ν} : v ∈ d.values ↔ ∃ k, d.get? k = some v := by
  rw [values, List.mem_map]
  constructor
  · rintro ⟨⟨k, v⟩, hmem, rfl⟩
    exact ⟨k, get?_eq_some.mpr hmem⟩
  · rintro ⟨k, hk⟩
    exact ⟨(k, v), get?_eq_some.mp hk, rfl⟩

theorem values_eq (d : Dict κ ν) (default : ν) :
    d.values = d.keys.map fun k => (d.get? k).getD default := by
  rw [values, keys, List.map_map]
  refine List.map_congr_left fun e he => ?_
  rw [Function.comp_apply, get?_eq_some.mpr he, Option.getD_some]

theorem entries_ne_nil {d : Dict κ ν} : d.entries ≠ [] ↔ ∃ k v, d.get? k = some v := by
  constructor
  · intro hne
    obtain ⟨⟨k, v⟩, hmem⟩ := List.exists_mem_of_ne_nil d.entries hne
    exact ⟨k, v, get?_eq_some.mpr hmem⟩
  · rintro ⟨k, v, hv⟩
    exact List.ne_nil_of_mem (get?_eq_some.mp hv)

/-! ## Assigning a list of values -/

/-- Assign values one after the other. -/
def assign (d : Dict κ ν) (l : List (κ × ν)) : Dict κ ν := l.foldl (fun d e => d.set e.1 e.2) d

theorem get?_assign (d : Dict κ ν) (l : List (κ × ν)) (k : κ) :
    (d.assign l).get? k = ((l.filter (·.1 = k)).getLast?.map Prod.snd).or (d.get? k) := by
  induction l using List.reverseRecOn with
  | nil => rfl
  | append_singleton l e ih =>
    rw [assign, List.foldl_append, List.foldl_cons, List.foldl_nil, ← assign, get?_set,
      List.filter_append]
    by_cases heq : e.1 = k
    · simp [heq]
    · simp [heq, ih]

theorem get?_assign_of_mem {d : Dict κ ν} {l : List (κ × ν)} {k : κ} {v : ν} (h : (k, v) ∈ l)
    (hunique : ∀ v', (k, v') ∈ l → v' = v) : (d.assign l).get? k = some v := by
  have hfilter : (k, v) ∈ l.filter (·.1 = k) := List.mem_filter.mpr ⟨h, decide_eq_true rfl⟩
  rw [get?_assign]
  cases hlast : (l.filter (·.1 = k)).getLast? with
  | none =>
    rw [List.getLast?_eq_none_iff] at hlast
    exact absurd (hlast ▸ hfilter) List.not_mem_nil
  | some e =>
    have hmem := List.mem_of_getLast? hlast
    rw [List.mem_filter, decide_eq_true_eq] at hmem
    obtain ⟨k', v'⟩ := e
    obtain ⟨hmem, rfl⟩ := hmem
    rw [hunique v' hmem]
    rfl

theorem get?_assign_of_forall {d : Dict κ ν} {l : List (κ × ν)} {k : κ}
    (h : ∀ v, (k, v) ∉ l) : (d.assign l).get? k = d.get? k := by
  have hnil : l.filter (·.1 = k) = [] := by
    rw [List.filter_eq_nil_iff]
    intro e he heq
    rw [decide_eq_true_eq] at heq
    exact h e.2 (heq ▸ he)
  rw [get?_assign, hnil]
  rfl

theorem entries_assign_empty {l : List (κ × ν)} (h : (l.map Prod.fst).Nodup) :
    (assign .empty l).entries = l :=
  @entries_merge _ _ _ .empty ⟨l, h⟩ fun _ _ => List.not_mem_nil

theorem get?_merge (d d' : Dict κ ν) (k : κ) : (d.merge d').get? k = (d'.get? k).or (d.get? k) := by
  rw [merge, get?_foldl_set (fun _ v => v)]
  cases d'.get? k <;> rfl

theorem getLast?_filter_entries (d : Dict κ ν) (k : κ) :
    (d.entries.filter (·.1 = k)).getLast?.map Prod.snd = d.get? k := by
  have hassign := get?_assign .empty d.entries k
  rw [get?_empty, Option.or_none] at hassign
  have hmerge := get?_merge .empty d k
  rw [get?_empty, Option.or_none] at hmerge
  exact hassign.symm.trans hmerge

/-! ## Defaults -/

/-- `d.setdefault(k, v)`. -/
def setDefault (d : Dict κ ν) (k : κ) (v : ν) : Dict κ ν := if d.contains k then d else d.set k v

theorem get?_setDefault (d : Dict κ ν) (k k' : κ) (v : ν) :
    (d.setDefault k v).get? k' = (d.get? k').or (if k = k' then some v else none) := by
  unfold setDefault contains
  cases hk : d.get? k with
  | none =>
    rw [if_neg (by simp), get?_set]
    split
    next heq => rw [← heq, hk, Option.none_or]
    · rw [Option.or_none]
  | some v' =>
    rw [Option.isSome_some, if_pos rfl]
    split
    next heq => rw [← heq, hk, Option.some_or]
    · rw [Option.or_none]

/-- Set values one after the other where there are none. -/
def assignNew (d : Dict κ ν) (l : List (κ × ν)) : Dict κ ν :=
  l.foldl (fun d e => d.setDefault e.1 e.2) d

theorem assignNew_append (d : Dict κ ν) (l l' : List (κ × ν)) :
    d.assignNew (l ++ l') = (d.assignNew l).assignNew l' := List.foldl_append

theorem get?_assignNew (d : Dict κ ν) (l : List (κ × ν)) (k : κ) :
    (d.assignNew l).get? k = (d.get? k).or (lookup k l) := by
  induction l generalizing d with
  | nil => exact Option.or_none.symm
  | cons e l ih =>
    show ((d.setDefault e.1 e.2).assignNew l).get? k = _
    rw [ih, get?_setDefault, lookup, Option.or_assoc]
    congr 1
    split
    · exact Option.some_or
    · exact Option.none_or

theorem lookup_append (k : κ) (l l' : List (κ × ν)) :
    lookup k (l ++ l') = (lookup k l).or (lookup k l') := by
  induction l with
  | nil => exact Option.none_or.symm
  | cons e l ih =>
    rw [List.cons_append, lookup, lookup, ih]
    split
    · exact Option.some_or.symm
    · rfl

/-! ## Collecting -/

section Collect

variable {α ε : Type*} {f : α → Except ε (Option (κ × ν))}

/-- The entries that come of a list, one after the other; the first error ends it. -/
def collectFrom (f : α → Except ε (Option (κ × ν))) (d : Dict κ ν) (l : List α) :
    Except ε (Dict κ ν) :=
  l.foldlM (fun d a => (f a).map fun e? => e?.elim d fun e => d.set e.1 e.2) d

theorem entries_set_ne_nil (d : Dict κ ν) (k : κ) (v : ν) : (d.set k v).entries ≠ [] :=
  entries_ne_nil.mpr ⟨k, v, get?_set_self d k v⟩

theorem collectFrom_cons {d d' : Dict κ ν} {a : α} {l : List α}
    (h : collectFrom f d (a :: l) = .ok d') :
    ∃ e?, f a = .ok e? ∧ collectFrom f (e?.elim d fun e => d.set e.1 e.2) l = .ok d' := by
  unfold collectFrom at h
  rw [List.foldlM_cons] at h
  cases ha : f a with
  | error e =>
    rw [ha] at h
    cases h
  | ok e? =>
    rw [ha] at h
    exact ⟨e?, rfl, h⟩

/-- Nothing is collected where nothing comes of any element. -/
theorem entries_collectFrom_eq_nil {d d' : Dict κ ν} {l : List α}
    (h : collectFrom f d l = .ok d') :
    d'.entries = [] ↔ d.entries = [] ∧ ∀ a ∈ l, f a = .ok none := by
  induction l generalizing d with
  | nil =>
    cases h
    exact ⟨fun hd => ⟨hd, fun _ ha => absurd ha List.not_mem_nil⟩, And.left⟩
  | cons a l ih =>
    obtain ⟨e?, ha, hl⟩ := collectFrom_cons h
    rw [ih hl, List.forall_mem_cons, ha]
    cases e? with
    | none => rw [Option.elim_none, eq_self, true_and]
    | some e =>
      refine iff_of_false (fun h => entries_set_ne_nil _ _ _ h.1) fun h => ?_
      cases h.2.1

end Collect

/-- A value that there may be. -/
def set? (d : Dict κ ν) (k : κ) : Option ν → Dict κ ν
  | some v => d.set k v
  | none => d

/-- A loop over the entries of one dictionary that stores some of them in another. -/
theorem get?_foldl_set? {μ : Type*} (f : κ → μ → Option ν) (d : Dict κ ν) (d' : Dict κ μ) (k : κ) :
    (d'.entries.foldl (fun d e => d.set? e.1 (f e.1 e.2)) d).get? k =
      ((d'.get? k).bind (f k)).or (d.get? k) := by
  have hfoldl : ∀ (es : List (κ × μ)) (d : Dict κ ν), (es.map Prod.fst).Nodup →
      (es.foldl (fun d e => d.set? e.1 (f e.1 e.2)) d).get? k =
        ((lookup k es).bind (f k)).or (d.get? k) := by
    intro es
    induction es with
    | nil => intro d _; rfl
    | cons e es ih =>
      intro d hnodup
      obtain ⟨k', v⟩ := e
      rw [List.map_cons, List.nodup_cons] at hnodup
      rw [List.foldl_cons, ih _ hnodup.2]
      by_cases heq : k' = k
      · subst heq
        rw [lookup_eq_none.mpr hnodup.1]
        cases hf : f k' v <;> simp [lookup, hf, set?]
      · cases hf : f k' v <;> simp [lookup, heq, get?_set_of_ne, set?]
  exact hfoldl d'.entries d d'.nodup

/-- The entries whose keys pass. -/
def filterKeys (p : κ → Bool) (d : Dict κ ν) : Dict κ ν where
  entries := d.entries.filter fun e => p e.1
  nodup := d.nodup.sublist (List.filter_sublist.map _)

theorem get?_filterKeys (p : κ → Bool) (d : Dict κ ν) (k : κ) :
    (d.filterKeys p).get? k = if p k then d.get? k else none := by
  refine Option.ext fun v => ?_
  rw [get?_eq_some, filterKeys, List.mem_filter, ← get?_eq_some]
  split
  next hp => exact and_iff_left hp
  next hp => exact iff_of_false (fun h => hp h.2) nofun

theorem filter_store {p : κ → Bool} {k : κ} (hp : p k = false) (v : ν) (es : List (κ × ν)) :
    (store k v es).filter (fun e => p e.1) = es.filter fun e => p e.1 := by
  induction es with
  | nil => simp [store, hp]
  | cons e es ih =>
    obtain ⟨k', v'⟩ := e
    rw [store]
    split
    next heq =>
      subst heq
      simp [hp]
    · rw [List.filter_cons, List.filter_cons, ih]

/-- Keys that do not pass can be merged without changing what passes. -/
theorem filter_entries_merge {p : κ → Bool} (d : Dict κ ν) {d' : Dict κ ν}
    (h : ∀ k ∈ d'.keys, p k = false) :
    (d.merge d').entries.filter (fun e => p e.1) = d.entries.filter fun e => p e.1 := by
  have hfoldl : ∀ (es : List (κ × ν)) (d : Dict κ ν), (∀ e ∈ es, p e.1 = false) →
      (es.foldl (fun d e => d.set e.1 e.2) d).entries.filter (fun e => p e.1) =
        d.entries.filter fun e => p e.1 := by
    intro es
    induction es with
    | nil => intro d _; rfl
    | cons e es ih =>
      intro d hes
      rw [List.foldl_cons, ih _ fun e he => hes e (List.mem_cons_of_mem _ he)]
      exact filter_store (hes e List.mem_cons_self) e.2 d.entries
  exact hfoldl d'.entries d fun e he => h e.1 (List.mem_map_of_mem he)

end Dict

end AioHomematic.Lib

/-!
## Eviction

A dictionary that is full drops the entries that come first in some order, for
times the oldest. `evict` drops the first `n`; `mem_evict_or` splits the
entries into those that stay and those that go, `le_of_evicted` says that none
that goes comes after one that stays, and `length_evict` counts.
-/

namespace AioHomematic.Lib.Dict

variable {κ ν : Type*} [DecidableEq κ]

/-- The keys of the `n` entries that come first. -/
def first (le : κ × ν → κ × ν → Bool) (n : Nat) (d : Dict κ ν) : List κ :=
  ((d.entries.mergeSort le).take n).map Prod.fst

def evict (le : κ × ν → κ × ν → Bool) (n : Nat) (d : Dict κ ν) : Dict κ ν :=
  (d.first le n).foldl erase d

theorem entries_foldl_erase (ks : List κ) (d : Dict κ ν) :
    (ks.foldl erase d).entries = d.entries.filter (·.1 ∉ ks) := by
  induction ks generalizing d with
  | nil => simp
  | cons k ks ih =>
    rw [List.foldl_cons, ih, erase, List.filter_filter]
    refine List.filter_congr fun e _ => ?_
    simp only [List.mem_cons, not_or, Bool.decide_and, Bool.and_comm, ne_eq]

theorem length_foldl_erase_le (ks : List κ) (d : Dict κ ν) :
    (ks.foldl erase d).entries.length ≤ d.entries.length := by
  rw [entries_foldl_erase]
  exact List.length_filter_le _ _

variable {le : κ × ν → κ × ν → Bool} {n : Nat} {d : Dict κ ν} {e e' : κ × ν}

theorem perm_evict (le : κ × ν → κ × ν → Bool) (n : Nat) (d : Dict κ ν) :
    (d.evict le n).entries.Perm ((d.entries.mergeSort le).drop n) := by
  have hperm := List.mergeSort_perm d.entries le
  have hnodup : ((d.entries.mergeSort le).map Prod.fst).Nodup :=
    (hperm.map Prod.fst).nodup_iff.mpr d.nodup
  rw [← List.take_append_drop n (d.entries.mergeSort le), List.map_append,
    List.nodup_append'] at hnodup
  rw [evict, entries_foldl_erase]
  refine (hperm.symm.filter _).trans (List.Perm.of_eq ?_)
  conv_lhs => rw [← List.take_append_drop n (d.entries.mergeSort le)]
  rw [List.filter_append, List.filter_eq_nil_iff.mpr, List.nil_append, List.filter_eq_self]
  · intro e he
    refine decide_eq_true fun hmem => ?_
    exact hnodup.2.2 hmem (List.mem_map_of_mem he)
  · intro e he hstays
    exact of_decide_eq_true hstays (List.mem_map_of_mem he)

theorem length_evict (le : κ × ν → κ × ν → Bool) (n : Nat) (d : Dict κ ν) :
    (d.evict le n).entries.length = d.entries.length - n := by
  rw [(perm_evict le n d).length_eq, List.length_drop, List.length_mergeSort]

theorem mem_evict_or (he : e ∈ d.entries) :
    e ∈ (d.entries.mergeSort le).take n ∨ e ∈ (d.evict le n).entries := by
  rw [(perm_evict le n d).mem_iff, ← List.mem_append, List.take_append_drop,
    (List.mergeSort_perm d.entries le).mem_iff]
  exact he

theorem le_of_evicted (htrans : ∀ a b c, le a b → le b c → le a c)
    (htotal : ∀ a b, (le a b || le b a) = true) (he : e ∈ d.entries)
    (hgone : e ∉ (d.evict le n).entries) (hkept : e' ∈ (d.evict le n).entries) :
    le e e' = true := by
  have hsorted := List.pairwise_mergeSort htrans htotal d.entries
  rw [← List.take_append_drop n (d.entries.mergeSort le), List.pairwise_append] at hsorted
  refine hsorted.2.2 e ((mem_evict_or he).resolve_right hgone) e' ?_
  exact (perm_evict le n d).mem_iff.mp hkept

end AioHomematic.Lib.Dict
