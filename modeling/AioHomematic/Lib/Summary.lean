import AioHomematic.Lib.Dict
import Mathlib.Algebra.BigOperators.Group.List.Basic
import Mathlib.Data.Finset.Card

/-!
# Summaries of keyed events

A dictionary that adds up what comes for each key, in a commutative monoid, and
stops for good as soon as it has `max` keys. What it holds for any set of keys
is the sum over the events that it has kept, in whatever way they are spread
over the keys: `kept` is the list of these events, said without the dictionary,
and all of them are kept while there are fewer than `max` keys.
-/

namespace AioHomematic.Lib

open Dict

variable {κ ν M ε : Type*} [DecidableEq κ]

/-! ## The events that a bounded dictionary keeps -/

/-- The events until `max` keys have been seen. -/
def kept (max : Nat) (key : ε → κ) : Finset κ → List ε → List ε
  | _, [] => []
  | seen, e :: l => if max ≤ seen.card then [] else e :: kept max key (insert (key e) seen) l

variable {max : Nat} {key : ε → κ} {seen : Finset κ} {l : List ε} {e : ε}

/-- With fewer than `max` keys, every event is kept. -/
theorem kept_eq_self (h : (seen ∪ (l.map key).toFinset).card < max) : kept max key seen l = l := by
  induction l generalizing seen with
  | nil => rfl
  | cons e l ih =>
    have hseen : seen.card < max :=
      Nat.lt_of_le_of_lt (Finset.card_le_card Finset.subset_union_left) h
    rw [kept, if_neg (Nat.not_le.mpr hseen), ih]
    rw [List.map_cons, List.toFinset_cons] at h
    rwa [Finset.insert_union, ← Finset.union_insert]

/-- Nothing is kept any more once `max` keys have been seen. -/
theorem kept_of_full (h : max ≤ seen.card) : kept max key seen l = [] := by
  cases l with
  | nil => rfl
  | cons e l => exact if_pos h

/-- A step of a dictionary that does not go on with `max` keys. -/
def bounded (max : Nat) (f : Dict κ ν → ε → Dict κ ν) (d : Dict κ ν) (e : ε) : Dict κ ν :=
  if max ≤ d.entries.length then d else f d e

theorem card_keys (d : Dict κ ν) : d.keys.toFinset.card = d.entries.length := by
  unfold keys
  rw [List.toFinset_card_of_nodup d.nodup, List.length_map]

/-- A bounded dictionary is an unbounded one of the events that are kept. -/
theorem foldl_bounded {f : Dict κ ν → ε → Dict κ ν}
    (hf : ∀ d e, (f d e).keys.toFinset = insert (key e) d.keys.toFinset) (l : List ε)
    (d : Dict κ ν) :
    l.foldl (bounded max f) d = (kept max key d.keys.toFinset l).foldl f d := by
  induction l generalizing d with
  | nil => rfl
  | cons e l ih =>
    rw [List.foldl_cons, ih]
    unfold bounded
    by_cases hfull : max ≤ d.entries.length
    · have hcard : max ≤ d.keys.toFinset.card := card_keys d ▸ hfull
      rw [if_pos hfull, kept_of_full hcard, kept_of_full hcard]
    · have hcard : ¬max ≤ d.keys.toFinset.card := card_keys d ▸ hfull
      rw [if_neg hfull, kept, if_neg hcard, hf, List.foldl_cons]

theorem toFinset_keys_set (d : Dict κ ν) (k : κ) (v : ν) :
    (d.set k v).keys.toFinset = insert k d.keys.toFinset := by
  ext k'
  rw [List.mem_toFinset, Finset.mem_insert, List.mem_toFinset, keys_set]
  split
  next hk =>
    refine ⟨.inr, ?_⟩
    rintro (rfl | h)
    · exact hk
    · exact h
  next => rw [List.mem_append, List.mem_singleton, or_comm]

/-! ## Sums -/

variable [AddCommMonoid M]

/-- Add to what is there for the key of the event. -/
def collect (key : ε → κ) (amount : ε → M) (d : Dict κ M) (e : ε) : Dict κ M :=
  d.modifyD (key e) 0 (· + amount e)

/-- What a dictionary holds for the keys of a set. -/
def total (p : κ → Bool) (d : Dict κ M) : M := ((d.entries.filter (p ·.1)).map Prod.snd).sum

/-- What comes for the keys of a set. -/
def amounts (p : κ → Bool) (key : ε → κ) (amount : ε → M) (l : List ε) : M :=
  ((l.filter fun e => p (key e)).map amount).sum

theorem sum_store (p : κ → Bool) (k : κ) (x : M) (es : List (κ × M)) :
    (((store k ((lookup k es).getD 0 + x) es).filter (p ·.1)).map Prod.snd).sum =
      ((es.filter (p ·.1)).map Prod.snd).sum + if p k then x else 0 := by
  induction es with
  | nil =>
    rw [store, lookup, Option.getD_none, zero_add, List.filter_singleton]
    cases p k <;> simp
  | cons e es ih =>
    obtain ⟨k', v⟩ := e
    unfold store lookup
    by_cases hk : k' = k
    · subst hk
      rw [if_pos rfl, if_pos rfl, Option.getD_some, List.filter_cons, List.filter_cons]
      cases p k' with
      | true => simp only [if_true, List.map_cons, List.sum_cons, add_right_comm]
      | false => simp only [Bool.false_eq_true, if_false, add_zero]
    · rw [if_neg hk, if_neg hk, List.filter_cons, List.filter_cons]
      cases p k' with
      | true => simp only [if_true, List.map_cons, List.sum_cons, ih, add_assoc]
      | false => simp only [Bool.false_eq_true, if_false, ih]

theorem total_collect (p : κ → Bool) (key : ε → κ) (amount : ε → M) (d : Dict κ M) (e : ε) :
    total p (collect key amount d e) = total p d + if p (key e) then amount e else 0 :=
  sum_store p (key e) (amount e) d.entries

omit [DecidableEq κ] in
theorem amounts_cons (p : κ → Bool) (key : ε → κ) (amount : ε → M) (e : ε) (l : List ε) :
    amounts p key amount (e :: l) =
      (if p (key e) then amount e else 0) + amounts p key amount l := by
  unfold amounts
  rw [List.filter_cons]
  split
  · rw [List.map_cons, List.sum_cons]
  · rw [zero_add]

/-- What a dictionary holds for a set of keys is what has come for them. -/
theorem total_foldl_collect (p : κ → Bool) (key : ε → κ) (amount : ε → M) (l : List ε)
    (d : Dict κ M) :
    total p (l.foldl (collect key amount) d) = total p d + amounts p key amount l := by
  induction l generalizing d with
  | nil => exact (add_zero _).symm
  | cons e l ih => rw [List.foldl_cons, ih, total_collect, amounts_cons, add_assoc]

/-- The same for a dictionary that stops at `max` keys, and the events that it keeps. -/
theorem total_bounded (p : κ → Bool) (key : ε → κ) (amount : ε → M) (l : List ε) :
    total p (l.foldl (bounded max (collect key amount)) empty) =
      amounts p key amount (kept max key ∅ l) := by
  have hkeys (d : Dict κ M) (e : ε) :
      (collect key amount d e).keys.toFinset = insert (key e) d.keys.toFinset :=
    toFinset_keys_set d (key e) _
  rw [foldl_bounded hkeys, total_foldl_collect]
  exact zero_add _

/-! ## The last value -/

/-- Replace what is there for the key of the event. -/
def put (key : ε → κ) (value : ε → ν) (d : Dict κ ν) (e : ε) : Dict κ ν :=
  d.set (key e) (value e)

/-- The last value that has come for the key. -/
def latest (key : ε → κ) (value : ε → ν) (k : κ) (l : List ε) : Option ν :=
  (l.filter fun e => key e = k).getLast?.map value

theorem latest_cons (key : ε → κ) (value : ε → ν) (k : κ) (e : ε) (l : List ε) :
    latest key value k (e :: l) =
      (latest key value k l).or (if key e = k then some (value e) else none) := by
  unfold latest
  by_cases hk : key e = k
  · rw [if_pos hk, List.filter_cons_of_pos (by simpa using hk), List.getLast?_cons]
    cases (l.filter fun e => key e = k).getLast? <;> rfl
  · rw [if_neg hk, List.filter_cons_of_neg (by simpa using hk), Option.or_none]

theorem get?_foldl_put (key : ε → κ) (value : ε → ν) (k : κ) (l : List ε) (d : Dict κ ν) :
    (l.foldl (put key value) d).get? k = (latest key value k l).or (d.get? k) := by
  induction l generalizing d with
  | nil => rfl
  | cons e l ih =>
    rw [List.foldl_cons, ih, put, Dict.get?_set, latest_cons, Option.or_assoc]
    split <;> rfl

theorem get?_bounded_put (key : ε → κ) (value : ε → ν) (k : κ) (l : List ε) :
    (l.foldl (bounded max (put key value)) empty).get? k =
      latest key value k (kept max key ∅ l) := by
  have hkeys (d : Dict κ ν) (e : ε) :
      (put key value d e).keys.toFinset = insert (key e) d.keys.toFinset :=
    toFinset_keys_set d (key e) _
  rw [foldl_bounded hkeys, get?_foldl_put, Dict.get?_empty, Option.or_none]
  rfl

end AioHomematic.Lib
