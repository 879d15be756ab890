import Mathlib.Algebra.GroupWithZero.Nat
import Mathlib.Data.List.Basic

/-!
# Numbered records

A list whose members are named by their positions: a new member comes at the
end, and a member that changes keeps its number. The lemmas look a number up
after either.
-/

namespace AioHomematic.Lib

variable {α : Type*} {l : List α} {a b : α} {i j : Nat}

theorem getElem?_set_of_some (h : l[i]? = some a) (b : α) (j : Nat) :
    (l.set i b)[j]? = if i = j then some b else l[j]? := by
  rw [List.getElem?_set]
  split
  · subst_vars
    rw [if_pos (List.getElem?_eq_some_iff.mp h).1]
  · rfl

theorem getElem?_set_self_of_some (h : l[i]? = some a) (b : α) : (l.set i b)[i]? = some b := by
  rw [getElem?_set_of_some h, if_pos rfl]

theorem getElem?_set_cases (h : (l.set i b)[j]? = some a) :
    i = j ∧ a = b ∨ i ≠ j ∧ l[j]? = some a := by
  rw [List.getElem?_set] at h
  split at h
  · split at h
    · cases h
      exact .inl ⟨‹_›, rfl⟩
    · cases h
  · exact .inr ⟨‹_›, h⟩

theorem getElem?_concat_of_some (h : l[i]? = some a) (b : α) : (l ++ [b])[i]? = some a := by
  rw [List.getElem?_append_left (List.getElem?_eq_some_iff.mp h).1, h]

theorem getElem?_concat_cases (h : (l ++ [b])[i]? = some a) :
    l[i]? = some a ∨ i = l.length ∧ a = b := by
  by_cases hlt : i < l.length
  · rw [List.getElem?_append_left hlt] at h
    exact .inl h
  · rw [List.getElem?_append_right (by omega)] at h
    obtain ⟨hi, rfl⟩ := List.getElem?_eq_some_iff.mp h
    simp only [List.length_singleton] at hi
    exact .inr ⟨by omega, by simp⟩

/-- A record that differs from the one that changes stays. -/
theorem mem_set_of_ne (h : l[i]? = some a) (hb : b ∈ l) (hne : b ≠ a) (a' : α) :
    b ∈ l.set i a' := by
  obtain ⟨j, hj⟩ := List.mem_iff_getElem?.mp hb
  refine List.mem_iff_getElem?.mpr ⟨j, ?_⟩
  rw [getElem?_set_of_some h, if_neg, hj]
  rintro rfl
  exact hne (Option.some.inj (hj.symm.trans h))

/-- The numbers below `n` that pass a test that only `i` passes. -/
theorem filter_range {p : Nat → Bool} (hp : ∀ j, p j = true ↔ j = i) (n : Nat) :
    (List.range n).filter p = if i < n then [i] else [] := by
  induction n with
  | zero => rfl
  | succ n ih =>
    rw [List.range_succ, List.filter_append, ih]
    by_cases hn : n = i
    · subst hn
      rw [if_neg (Nat.lt_irrefl n), if_pos (Nat.lt_succ_self n),
        List.filter_cons_of_pos ((hp n).mpr rfl)]
      rfl
    · rw [List.filter_cons_of_neg fun h => hn ((hp n).mp h), List.filter_nil, List.append_nil]
      by_cases hlt : i < n
      · rw [if_pos hlt, if_pos (by omega)]
      · rw [if_neg hlt, if_neg (by omega)]

/-! ## Sums over the records -/

theorem sum_map_set (f : α → Nat) (h : l[i]? = some a) (b : α) :
    ((l.set i b).map f).sum + f a = (l.map f).sum + f b := by
  induction l generalizing i with
  | nil => cases h
  | cons a₀ l ih =>
    cases i with
    | zero =>
      cases h
      simp only [List.set_cons_zero, List.map_cons, List.sum_cons]
      omega
    | succ i =>
      have := ih h
      simp only [List.set_cons_succ, List.map_cons, List.sum_cons]
      omega

theorem sum_map_concat (f : α → Nat) (l : List α) (a : α) :
    ((l ++ [a]).map f).sum = (l.map f).sum + f a := by
  simp

theorem le_sum_map (f : α → Nat) (h : l[i]? = some a) : f a ≤ (l.map f).sum := by
  induction l generalizing i with
  | nil => cases h
  | cons a₀ l ih =>
    rw [List.map_cons, List.sum_cons]
    cases i with
    | zero =>
      cases h
      omega
    | succ i =>
      have := ih h
      omega

end AioHomematic.Lib
