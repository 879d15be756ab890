import Mathlib.Data.Int.Bitwise

/-!
# Bit masks

A finite enumeration whose items have bits of their own: a list of items as a
mask, and the items of a mask in the order of the enumeration. A mask keeps
which items there are, and neither their order nor how often they occur.
-/

namespace AioHomematic.Lib

/-- The items of an enumeration, in order, with their bits. -/
structure Flags (α : Type*) where
  items : List α
  bit : α → Nat
  mem_items : ∀ a, a ∈ items
  bit_injective : Function.Injective bit

namespace Flags

variable {α : Type*} (F : Flags α)

def value (a : α) : Nat := 2 ^ F.bit a

def toMask (l : List α) : Nat := l.foldl (fun result a => result ||| F.value a) 0

def ofMask (n : Int) : List α := F.items.filter fun a => n.testBit (F.bit a)

variable {F}

theorem testBit_foldl (l : List α) (n i : Nat) :
    (l.foldl (fun result a => result ||| F.value a) n).testBit i =
      (n.testBit i || l.any fun a => F.bit a == i) := by
  induction l generalizing n with
  | nil => simp
  | cons a l ih =>
    rw [List.foldl_cons, ih, Nat.testBit_or, value, Nat.testBit_two_pow, List.any_cons,
      Bool.or_assoc]
    rfl

theorem testBit_toMask (l : List α) (i : Nat) :
    (F.toMask l).testBit i = l.any fun a => F.bit a == i := by
  rw [toMask, testBit_foldl, Nat.zero_testBit, Bool.false_or]

theorem testBit_toMask_bit [DecidableEq α] (l : List α) (a : α) :
    (F.toMask l).testBit (F.bit a) = decide (a ∈ l) := by
  rw [testBit_toMask, Bool.eq_iff_iff, List.any_eq_true, decide_eq_true_eq]
  constructor
  · rintro ⟨b, hb, hbit⟩
    exact F.bit_injective (beq_iff_eq.mp hbit) ▸ hb
  · intro ha
    exact ⟨a, ha, beq_self_eq_true _⟩

/-- A list that was a mask comes back in order and without repetitions. -/
theorem ofMask_toMask [DecidableEq α] (l : List α) :
    F.ofMask (F.toMask l) = F.items.filter (· ∈ l) :=
  List.filter_congr fun a _ => testBit_toMask_bit l a

theorem mem_ofMask {n : Int} {a : α} : a ∈ F.ofMask n ↔ n.testBit (F.bit a) = true := by
  rw [ofMask, List.mem_filter]
  exact and_iff_right (F.mem_items a)

@[simp] theorem ofMask_zero : F.ofMask 0 = [] := by
  rw [ofMask, List.filter_eq_nil_iff]
  intro a _
  exact Bool.eq_false_iff.mp (Nat.zero_testBit _)

theorem mem_filter_items [DecidableEq α] {l : List α} {a : α} :
    a ∈ F.items.filter (· ∈ l) ↔ a ∈ l := by
  simp [F.mem_items]

theorem filter_filter_items [DecidableEq α] (l : List α) :
    F.items.filter (· ∈ F.items.filter (· ∈ l)) = F.items.filter (· ∈ l) := by
  simp only [mem_filter_items]

theorem filter_items_eq_nil [DecidableEq α] {l : List α} :
    F.items.filter (· ∈ l) = [] ↔ l = [] := by
  simp only [List.eq_nil_iff_forall_not_mem, mem_filter_items]

theorem toMask_eq_zero [DecidableEq α] {l : List α} : F.toMask l = 0 ↔ l = [] := by
  rw [← F.filter_items_eq_nil (l := l), ← ofMask_toMask]
  constructor
  · intro h
    rw [h]
    exact ofMask_zero
  · intro h
    rw [ofMask_toMask, filter_items_eq_nil] at h
    rw [h]
    rfl

/-- A mask of bits that the enumeration has is empty only if it is zero. -/
theorem ofMask_eq_nil {k : Nat} (hbits : ∀ i < k, ∃ a, F.bit a = i) {n : Int} (hn : 0 ≤ n)
    (hlt : n < 2 ^ k) : F.ofMask n = [] ↔ n = 0 := by
  obtain ⟨m, rfl⟩ := Int.eq_ofNat_of_zero_le hn
  constructor
  · intro hnil
    have hzero : m = 0 := by
      refine Nat.eq_of_testBit_eq fun i => ?_
      rw [Nat.zero_testBit]
      by_cases hi : i < k
      · obtain ⟨a, rfl⟩ := hbits i hi
        have hnot : a ∉ F.ofMask (m : Int) := hnil ▸ List.not_mem_nil
        rw [mem_ofMask] at hnot
        exact Bool.eq_false_iff.mpr hnot
      · have hm : m < 2 ^ k := by exact_mod_cast hlt
        exact Nat.testBit_lt_two_pow
          (Nat.lt_of_lt_of_le hm (Nat.pow_le_pow_right (by decide) (Nat.le_of_not_lt hi)))
    rw [hzero]
    rfl
  · intro hzero
    rw [hzero]
    exact ofMask_zero

end Flags

end AioHomematic.Lib
