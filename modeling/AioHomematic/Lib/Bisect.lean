import Mathlib.Data.List.Nodup
import Mathlib.Order.Lattice

/-!
# Insertion into a sorted list

Python's `bisect`: `bisect_right` halves an interval until it has the place
behind all members with a key up to `x`, and `insort` inserts there.
`bisectRight_spec` says that it finds that place in a sorted list; `insort_perm`
and `insort_sorted` are what users of `insort` need.
-/

namespace AioHomematic.Lib

variable {α κ : Type*} [LinearOrder κ]

/-- The loop of `bisect_right` between `lo` and `hi`; every round halves the interval, so that `fuel`
of its length is enough. -/
def bisectLoop (key : α → κ) (l : List α) (x : κ) : Nat → Nat → Nat → Nat
  | 0, lo, _ => lo
  | fuel + 1, lo, hi =>
    if lo < hi then
      let mid := (lo + hi) / 2
      match l[mid]? with
      | none => lo
      | some a =>
        if x < key a then bisectLoop key l x fuel lo mid else bisectLoop key l x fuel (mid + 1) hi
    else lo

def bisectRight (key : α → κ) (l : List α) (x : κ) : Nat :=
  bisectLoop key l x l.length 0 l.length

/-- `insort(l, a, key=key)`, with `list.insert`. -/
def insort (key : α → κ) (l : List α) (a : α) : List α :=
  l.take (bisectRight key l (key a)) ++ a :: l.drop (bisectRight key l (key a))

def SortedBy (key : α → κ) (l : List α) : Prop := l.Pairwise fun a b => key a ≤ key b

variable {key : α → κ} {l : List α} {x : κ}

/-- Everything before `lo` is at most `x`, everything from `hi` on is above. -/
structure Splits (key : α → κ) (l : List α) (x : κ) (lo hi : Nat) : Prop where
  le : lo ≤ hi
  bound : hi ≤ l.length
  before : ∀ i a, i < lo → l[i]? = some a → key a ≤ x
  after : ∀ i a, hi ≤ i → l[i]? = some a → x < key a

theorem SortedBy.le_of_le (h : SortedBy key l) {i j : Nat} {a b : α} (hij : i ≤ j)
    (ha : l[i]? = some a) (hb : l[j]? = some b) : key a ≤ key b := by
  obtain ⟨hi, rfl⟩ := List.getElem?_eq_some_iff.mp ha
  obtain ⟨hj, rfl⟩ := List.getElem?_eq_some_iff.mp hb
  rcases Nat.lt_or_eq_of_le hij with hlt | rfl
  · exact List.pairwise_iff_getElem.mp h i j hi hj hlt
  · exact le_rfl

theorem bisectLoop_spec (h : SortedBy key l) {fuel lo hi : Nat} (hfuel : hi ≤ lo + fuel)
    (hsplits : Splits key l x lo hi) :
    Splits key l x (bisectLoop key l x fuel lo hi) (bisectLoop key l x fuel lo hi) := by
  have hdone : ∀ {lo hi : Nat}, Splits key l x lo hi → hi ≤ lo → Splits key l x lo lo := by
    intro lo hi hs hle
    have heq : lo = hi := Nat.le_antisymm hs.le hle
    subst heq
    exact hs
  induction fuel generalizing lo hi with
  | zero => exact hdone hsplits hfuel
  | succ fuel ih =>
    unfold bisectLoop
    split
    next hlt =>
      have hmid : (lo + hi) / 2 < l.length := by have := hsplits.bound; omega
      have hget : l[(lo + hi) / 2]? = some l[(lo + hi) / 2] := List.getElem?_eq_getElem hmid
      simp only [hget]
      split
      next hbelow =>
        refine ih (by omega) ⟨by omega, by omega, hsplits.before, fun i b hi hb => ?_⟩
        exact lt_of_lt_of_le hbelow (h.le_of_le hi hget hb)
      next hbelow =>
        refine ih (by omega) ⟨by omega, hsplits.bound, fun i b hi hb => ?_, hsplits.after⟩
        exact le_trans (h.le_of_le (by omega) hb hget) (not_lt.mp hbelow)
    next hlt => exact hdone hsplits (Nat.not_lt.mp hlt)

theorem bisectRight_spec (h : SortedBy key l) (x : κ) :
    Splits key l x (bisectRight key l x) (bisectRight key l x) :=
  bisectLoop_spec h (by omega)
    ⟨Nat.zero_le _, Nat.le_refl _, fun i _ hi => absurd hi (Nat.not_lt_zero i), fun i _ hi ha => by
      rw [List.getElem?_eq_none hi] at ha
      cases ha⟩

theorem insort_perm (key : α → κ) (l : List α) (a : α) : (insort key l a).Perm (a :: l) := by
  refine List.perm_middle.trans (List.Perm.cons a ?_)
  rw [List.take_append_drop]

theorem insort_sorted (h : SortedBy key l) (a : α) : SortedBy key (insort key l a) := by
  have hsplits := bisectRight_spec h (key a)
  have hbefore : ∀ b ∈ l.take (bisectRight key l (key a)), key b ≤ key a := by
    intro b hb
    obtain ⟨i, hi⟩ := List.mem_iff_getElem?.mp hb
    rw [List.getElem?_take] at hi
    split at hi
    · exact hsplits.before i b ‹_› hi
    · cases hi
  have hafter : ∀ b ∈ l.drop (bisectRight key l (key a)), key a ≤ key b := by
    intro b hb
    obtain ⟨i, hi⟩ := List.mem_iff_getElem?.mp hb
    rw [List.getElem?_drop] at hi
    exact le_of_lt (hsplits.after _ b (by omega) hi)
  refine List.pairwise_append.mpr ⟨h.sublist (List.take_sublist _ _), ?_, ?_⟩
  · exact List.pairwise_cons.mpr ⟨hafter, h.sublist (List.drop_sublist _ _)⟩
  · intro b hb c hc
    rcases List.mem_cons.mp hc with rfl | hc
    · exact hbefore b hb
    · exact le_trans (hbefore b hb) (hafter c hc)

end AioHomematic.Lib
