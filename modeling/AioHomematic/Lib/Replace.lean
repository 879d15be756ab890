import Mathlib.Data.List.Infix

/-!
# Replacement of substrings

`replace p r s` is Python's `s.replace(p, r)` for a `p` that is not empty: the
occurrences of `p` are looked for from the left, and the search goes on after
each of them. What is known about a text:

* `replace_append_of_none`: no occurrence begins in the front part;
* `replace_append_self`: it begins with an occurrence;
* `replace_append_cons`: a symbol that is not in `p` separates two parts.

`scan` is the induction that follows the search.
-/

namespace AioHomematic.Lib

variable {α : Type*} {p r s u : List α} {c : α}

theorem prefix_of_prefix_append_cons (hc : c ∉ p) (h : p <+: u ++ c :: s) : p <+: u := by
  induction u generalizing p with
  | nil =>
    cases p with
    | nil => exact List.nil_prefix
    | cons a p =>
      rw [List.nil_append, List.cons_prefix_cons] at h
      exact absurd List.mem_cons_self (h.1 ▸ hc)
  | cons a u ih =>
    cases p with
    | nil => exact List.nil_prefix
    | cons b p =>
      rw [List.cons_append, List.cons_prefix_cons] at h
      exact List.cons_prefix_cons.mpr ⟨h.1, ih (fun hmem => hc (List.mem_cons_of_mem b hmem)) h.2⟩

variable [DecidableEq α]

/-- The first `skip` symbols belong to an occurrence that was replaced. -/
def replaceFrom (p r : List α) : (skip : Nat) → List α → List α
  | _, [] => []
  | skip + 1, _ :: s => replaceFrom p r skip s
  | 0, c :: s =>
    if p <+: c :: s then r ++ replaceFrom p r (p.length - 1) s else c :: replaceFrom p r 0 s

def replace (p r s : List α) : List α := replaceFrom p r 0 s

theorem replaceFrom_eq (skip : Nat) (s : List α) :
    replaceFrom p r skip s = replace p r (s.drop skip) := by
  induction s generalizing skip with
  | nil =>
    rw [List.drop_nil]
    cases skip <;> rfl
  | cons c s ih =>
    cases skip with
    | zero => rfl
    | succ skip => exact ih skip

@[simp] theorem replace_nil : replace p r [] = [] := rfl

theorem replace_cons (h : ¬ p <+: c :: s) : replace p r (c :: s) = c :: replace p r s := by
  show replaceFrom p r 0 (c :: s) = _
  rw [replaceFrom, if_neg h]
  rfl

theorem replace_append_self (hp : p ≠ []) : replace p r (p ++ s) = r ++ replace p r s := by
  obtain ⟨c, q, rfl⟩ := List.exists_cons_of_ne_nil hp
  show replaceFrom (c :: q) r 0 (c :: (q ++ s)) = _
  rw [replaceFrom, if_pos ⟨s, rfl⟩, replaceFrom_eq]
  show r ++ replace _ r ((q ++ s).drop q.length) = _
  rw [List.drop_left]

/-- Either the text begins with an occurrence, or its first symbol stays. -/
theorem scan {P : List α → Prop} (hp : p ≠ []) (nil : P []) (found : ∀ s, P s → P (p ++ s))
    (stays : ∀ c s, ¬ p <+: c :: s → P s → P (c :: s)) (s : List α) : P s := by
  induction hn : s.length using Nat.strongRecOn generalizing s with
  | ind n ih =>
    cases s with
    | nil => exact nil
    | cons c s =>
      by_cases h : p <+: c :: s
      · obtain ⟨t, ht⟩ := h
        have hpos := List.length_pos_iff.mpr hp
        have hlen : t.length < n := by
          rw [← hn, ← ht, List.length_append]
          omega
        rw [← ht]
        exact found t (ih _ hlen t rfl)
      · have hlen : s.length < n := by
          rw [← hn]
          exact Nat.lt_succ_self _
        exact stays c s h (ih _ hlen s rfl)

theorem replace_append_of_none (h : ∀ i < u.length, ¬ p <+: (u ++ s).drop i) :
    replace p r (u ++ s) = u ++ replace p r s := by
  induction u with
  | nil => rfl
  | cons c u ih =>
    have hstays : ¬ p <+: c :: (u ++ s) := h 0 (Nat.succ_pos _)
    have hnone : ∀ i < u.length, ¬ p <+: (u ++ s).drop i := fun i hi =>
      h (i + 1) (Nat.succ_lt_succ hi)
    rw [List.cons_append, replace_cons hstays, ih hnone]
    rfl

/-- A symbol that does not occur in `p` separates what is before it from what comes after. -/
theorem replace_append_cons (hp : p ≠ []) (hc : c ∉ p) :
    replace p r (u ++ c :: s) = replace p r u ++ replace p r (c :: s) := by
  induction u using scan hp with
  | nil => rfl
  | found u ih =>
    rw [List.append_assoc, replace_append_self hp, replace_append_self hp, ih, List.append_assoc]
  | stays a u hstays ih =>
    have hstays' : ¬ p <+: a :: (u ++ c :: s) := fun h =>
      hstays (prefix_of_prefix_append_cons (u := a :: u) hc h)
    rw [List.cons_append, replace_cons hstays', replace_cons hstays, ih]
    rfl

theorem replace_self (hp : p ≠ []) : replace p p s = s := by
  induction s using scan hp with
  | nil => rfl
  | found s ih => rw [replace_append_self hp, ih]
  | stays c s hstays ih => rw [replace_cons hstays, ih]

theorem mem_replace {a : α} (hp : p ≠ []) (ha : a ∈ replace p r s) : a ∈ r ∨ a ∈ s := by
  induction s using scan hp with
  | nil => cases ha
  | found s ih =>
    rw [replace_append_self hp] at ha
    rcases List.mem_append.mp ha with ha | ha
    · exact .inl ha
    · exact (ih ha).imp_right (List.mem_append_right p)
  | stays c s hstays ih =>
    rw [replace_cons hstays] at ha
    rcases List.mem_cons.mp ha with rfl | ha
    · exact .inr List.mem_cons_self
    · exact (ih ha).imp_right (List.mem_cons_of_mem c)

theorem replace_singleton :
    replace [c] r s = s.flatMap fun a => if a = c then r else [a] := by
  induction s with
  | nil => rfl
  | cons a s ih =>
    rw [List.flatMap_cons, ← ih]
    by_cases h : a = c
    · rw [if_pos h, h]
      exact replace_append_self (p := [c]) (List.cons_ne_nil c [])
    · have hbegins : ¬ [c] <+: a :: s := fun hbegins =>
        h (List.cons_prefix_cons.mp hbegins).1.symm
      rw [if_neg h, replace_cons hbegins]
      rfl

/-! ## Texts that stay as they are -/

theorem length_replace (hp : p ≠ []) :
    (r.length ≤ p.length → (replace p r s).length ≤ s.length) ∧
      (p.length ≤ r.length → s.length ≤ (replace p r s).length) := by
  induction s using scan hp with
  | nil => exact ⟨fun _ => Nat.le_refl _, fun _ => Nat.le_refl _⟩
  | found s ih =>
    rw [replace_append_self hp, List.length_append, List.length_append]
    omega
  | stays c s hstays ih =>
    rw [replace_cons hstays, List.length_cons, List.length_cons]
    omega

theorem eq_of_replace_eq_self (hp : p ≠ []) (hfound : p <:+: s) (h : replace p r s = s) :
    r = p := by
  induction s using scan hp with
  | nil => exact absurd (List.infix_nil.mp hfound) hp
  | found s _ =>
    rw [replace_append_self hp] at h
    have hlen : r.length + (replace p r s).length = p.length + s.length := by
      rw [← List.length_append, h, List.length_append]
    refine (List.append_inj h ?_).1
    rcases Nat.le_total r.length p.length with hle | hle
    · have := (length_replace (s := s) hp).1 hle
      omega
    · have := (length_replace (s := s) hp).2 hle
      omega
  | stays c s hstays ih =>
    rw [replace_cons hstays] at h
    exact ih ((List.infix_cons_iff.mp hfound).resolve_left hstays) (List.cons.inj h).2

theorem replace_of_absent (h : ¬ p <:+: s) : replace p r s = s := by
  induction s with
  | nil => rfl
  | cons c s ih =>
    rw [List.infix_cons_iff, not_or] at h
    rw [replace_cons h.1, ih h.2]

theorem replace_eq_self_iff (hp : p ≠ []) : replace p r s = s ↔ ¬ p <:+: s ∨ r = p := by
  constructor
  · intro h
    by_cases hfound : p <:+: s
    · exact .inr (eq_of_replace_eq_self hp hfound h)
    · exact .inl hfound
  · rintro (h | rfl)
    · exact replace_of_absent h
    · exact replace_self hp

end AioHomematic.Lib
