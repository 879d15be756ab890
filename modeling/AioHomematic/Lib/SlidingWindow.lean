import Mathlib.Algebra.Order.Group.Int
import Mathlib.Data.List.TakeWhile
import Mathlib.Order.Monotone.Defs

/-!
# Sliding windows

A list of times that drops from its front what lies before the window of the
newest one. `cut now` is where the window that ends at `now` begins; it only has
to be monotone. `KeptOf history times` says that `times` is what is left of all
times so far; `slide_eq_filter` is what it is for: while time does not go back,
the list has the same times in its window as the whole history.

`Spaced` times come at least an interval apart; `spaced_iff_countIn_le` says it
with the windows.
-/

namespace AioHomematic.Lib

variable {α : Type*} [LinearOrder α] {cut : α → α} {history times : List α} {now : α}

/-- Add `now`, and drop what lies before its window. -/
def slide (cut : α → α) (times : List α) (now : α) : List α :=
  (times ++ [now]).dropWhile (· < cut now)

/-- Of sorted times, the first ones go. -/
theorem dropWhile_eq_filter {bound : α} (h : times.Pairwise (· ≤ ·)) :
    times.dropWhile (· < bound) = times.filter (bound ≤ ·) := by
  induction times with
  | nil => rfl
  | cons t times ih =>
    obtain ⟨hle, hsorted⟩ := List.pairwise_cons.mp h
    by_cases ht : t < bound
    · rw [List.dropWhile_cons_of_pos (by simpa using ht), ih hsorted,
        List.filter_cons_of_neg (by simpa using ht)]
    · rw [List.dropWhile_cons_of_neg (by simpa using ht), List.filter_eq_self.mpr]
      intro u hu
      rcases List.mem_cons.mp hu with rfl | hu
      · simpa using ht
      · simpa using (not_lt.mp ht).trans (hle u hu)

/-- The times in `times` are the last ones of the history; each of the others lies before the
window of a later one. -/
structure KeptOf (cut : α → α) (history times : List α) : Prop where
  sorted : history.Pairwise (· ≤ ·)
  split : ∃ old, history = old ++ times ∧ ∀ t ∈ old, ∃ u ∈ history, t < cut u

namespace KeptOf

theorem nil : KeptOf cut [] [] := ⟨.nil, [], rfl, nofun⟩

theorem sorted_concat (h : KeptOf cut history times) (hnow : ∀ t ∈ history, t ≤ now) :
    (history ++ [now]).Pairwise (· ≤ ·) := by
  refine List.pairwise_append.mpr ⟨h.sorted, List.pairwise_singleton _ _, ?_⟩
  intro t ht u hu
  rw [List.mem_singleton.mp hu]
  exact hnow t ht

/-- The window of `now` has lost none of its times. -/
theorem slide_eq_filter (hcut : Monotone cut) (h : KeptOf cut history times)
    (hnow : ∀ t ∈ history, t ≤ now) :
    slide cut times now = (history ++ [now]).filter (cut now ≤ ·) := by
  have hsorted := h.sorted_concat hnow
  obtain ⟨old, rfl, hold⟩ := h.split
  have hnone : old.filter (cut now ≤ ·) = [] := by
    apply List.filter_eq_nil_iff.mpr
    intro t ht hin
    obtain ⟨u, hu, hlt⟩ := hold t ht
    have hlate : t < cut now := hlt.trans_le (hcut (hnow u hu))
    exact absurd (of_decide_eq_true hin) (not_le.mpr hlate)
  rw [List.append_assoc] at hsorted ⊢
  rw [List.filter_append, hnone, List.nil_append]
  exact dropWhile_eq_filter (List.pairwise_append.mp hsorted).2.1

theorem slide (hcut : Monotone cut) (h : KeptOf cut history times)
    (hnow : ∀ t ∈ history, t ≤ now) : KeptOf cut (history ++ [now]) (slide cut times now) := by
  refine ⟨h.sorted_concat hnow, ?_⟩
  have hsorted := h.sorted_concat hnow
  have heq := h.slide_eq_filter hcut hnow
  rw [← dropWhile_eq_filter hsorted] at heq
  refine ⟨(history ++ [now]).takeWhile (· < cut now), ?_, ?_⟩
  · rw [heq, List.takeWhile_append_dropWhile]
  · intro t ht
    refine ⟨now, List.mem_append_right _ (List.mem_singleton.mpr rfl), ?_⟩
    simpa using List.mem_takeWhile_imp ht

end KeptOf

/-! ## Spaced times -/

/-- Times, the newest first, each at least `interval` after those before it. -/
def Spaced (interval : Int) (times : List Int) : Prop :=
  times.Pairwise fun later earlier => earlier + interval ≤ later

/-- How many times lie in the window of this length from `start` on. -/
def countIn (start length : Int) (times : List Int) : Nat :=
  times.countP fun t => start ≤ t ∧ t ≤ start + length

section Spaced

variable {interval start length : Int} {times : List Int}

/-- Spaced times that fit in a window. -/
theorem Spaced.length_mul_le (h : Spaced interval times) (hpos : 0 < interval) (hlen : 0 ≤ length)
    (hin : ∀ t ∈ times, start ≤ t ∧ t ≤ start + length) :
    times.length * interval ≤ length + interval := by
  induction times generalizing length with
  | nil =>
    rw [List.length_nil, Int.natCast_zero, Int.zero_mul]
    omega
  | cons t times ih =>
    obtain ⟨hgap, hspaced⟩ := List.pairwise_cons.mp h
    rw [List.length_cons, Int.natCast_succ, Int.add_mul, Int.one_mul]
    cases times with
    | nil =>
      rw [List.length_nil, Int.natCast_zero, Int.zero_mul]
      omega
    | cons u times =>
      -- the others lie in a window that is shorter by an interval
      have hshort : ∀ v ∈ u :: times, start ≤ v ∧ v ≤ start + (length - interval) := by
        intro v hv
        have hbefore := hgap v hv
        have ht := (hin t List.mem_cons_self).2
        exact ⟨(hin v (List.mem_cons_of_mem _ hv)).1, by omega⟩
      have hnonneg : 0 ≤ length - interval := by
        have hu := hshort u List.mem_cons_self
        omega
      have := ih hspaced hnonneg hshort
      omega

theorem Spaced.countIn_le (h : Spaced interval times) (hpos : 0 < interval) (hlen : 0 ≤ length) :
    (countIn start length times : Int) ≤ length / interval + 1 := by
  have hspaced : Spaced interval (times.filter fun t => start ≤ t ∧ t ≤ start + length) :=
    List.Pairwise.filter _ h
  have hmul := hspaced.length_mul_le hpos hlen fun t ht => by simpa using (List.mem_filter.mp ht).2
  rw [← List.countP_eq_length_filter] at hmul
  have hdiv : length / interval + 1 = (length + 1 * interval) / interval :=
    (Int.add_mul_ediv_right length 1 hpos.ne').symm
  rw [hdiv, Int.le_ediv_iff_mul_le hpos, Int.one_mul]
  exact hmul

/-- Of times that do not go back, the windows say whether they are spaced. -/
theorem spaced_iff_countIn_le (hpos : 0 < interval) (hsorted : times.Pairwise fun t u => u ≤ t) :
    Spaced interval times ↔
      ∀ start length : Int, 0 ≤ length → (countIn start length times : Int) ≤ length / interval + 1 := by
  refine ⟨fun h start length hlen => h.countIn_le hpos hlen, fun h => ?_⟩
  induction times with
  | nil => exact .nil
  | cons t times ih =>
    obtain ⟨hle, hsorted⟩ := List.pairwise_cons.mp hsorted
    refine List.pairwise_cons.mpr ⟨fun u hu => ?_, ih hsorted fun start length hlen => ?_⟩
    · -- the window between the two has both
      by_contra hclose
      have htu := hle u hu
      have hcount := h u (t - u) (by omega)
      rw [Int.ediv_eq_zero_of_lt (by omega) (by omega)] at hcount
      have hone : 0 < countIn u (t - u) times := by
        apply List.countP_pos_iff.mpr
        exact ⟨u, hu, by simpa using htu⟩
      have htwo : countIn u (t - u) (t :: times) = countIn u (t - u) times + 1 := by
        apply List.countP_cons_of_pos
        simpa using htu
      omega
    · have hmono : countIn start length times ≤ countIn start length (t :: times) :=
        List.Sublist.countP_le (List.sublist_cons_self t times)
      have := h start length hlen
      omega

end Spaced

end AioHomematic.Lib
