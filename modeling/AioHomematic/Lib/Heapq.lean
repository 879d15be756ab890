import Mathlib.Data.List.Sort
import Mathlib.Order.Defs.LinearOrder

/-!
# Python's `heapq`

The binary heap of CPython's `heapq` module on a list, step for step, so that
the order in which it hands out equal keys is the real one too. Items are
compared by `key`. As in `heapq`, `siftdown` moves an item towards the root and
`siftup` towards the leaves; `siftup` first sinks the hole to a leaf without
looking at the item it places. Each operation permutes its input and keeps
`IsHeap`; `drain` lists what repeated pops return, and on pairwise different
keys it keeps the order of what a filter leaves (`drain_heapify_filter`).
-/

namespace AioHomematic.Lib.Heapq

variable {α κ : Type*}

/-! ## Operations -/

section Operations

variable [LinearOrder κ] (key : α → κ)

/-- `heapq._siftdown`: bubble the item at `pos` up to its place, not above `startpos`. -/
def siftdown (startpos : Nat) : Nat → Array α → Nat → Array α
  | 0, heap, _ => heap
  | fuel + 1, heap, pos =>
    if startpos < pos then
      match heap[pos]?, heap[(pos - 1) / 2]? with
      | some newitem, some parent =>
        if key newitem < key parent then
          siftdown startpos fuel (heap.swapIfInBounds pos ((pos - 1) / 2)) ((pos - 1) / 2)
        else heap
      | _, _ => heap
    else heap

/-- The child of `pos` that `_siftup` moves up: the right one unless the left one is smaller. -/
def smallerChild (heap : Array α) (pos : Nat) : Nat :=
  match heap[2 * pos + 1]?, heap[2 * pos + 2]? with
  | some left, some right => if key left < key right then 2 * pos + 1 else 2 * pos + 2
  | _, _ => 2 * pos + 1

/-- The loop of `heapq._siftup`: sink the item at `pos` to a leaf, along smaller children. -/
def sink : Nat → Array α → Nat → Array α × Nat
  | 0, heap, pos => (heap, pos)
  | fuel + 1, heap, pos =>
    if 2 * pos + 1 < heap.size then
      sink fuel (heap.swapIfInBounds pos (smallerChild key heap pos)) (smallerChild key heap pos)
    else (heap, pos)

/-- `heapq._siftup`. -/
def siftup (heap : Array α) (pos : Nat) : Array α :=
  let r := sink key heap.size heap pos
  siftdown key pos r.2 r.1 r.2

def heappush (heap : List α) (item : α) : List α :=
  (siftdown key 0 heap.length (heap ++ [item]).toArray heap.length).toList

/-- `heapq.heappop`; `none` is the `IndexError` of an empty heap. -/
def heappop (heap : List α) : Option (α × List α) :=
  match heap.getLast?, heap.dropLast with
  | none, _ => none
  | some lastelt, [] => some (lastelt, [])
  | some lastelt, returnitem :: rest =>
    some (returnitem, (siftup key (lastelt :: rest).toArray 0).toList)

def heapifyFrom : Nat → Array α → Array α
  | 0, heap => heap
  | i + 1, heap => heapifyFrom i (siftup key heap i)

def heapify (heap : List α) : List α :=
  (heapifyFrom key (heap.length / 2) heap.toArray).toList

/-- The items in the order in which `n` pops return them. -/
def drainN : Nat → List α → List α
  | 0, _ => []
  | n + 1, heap =>
    match heappop key heap with
    | none => []
    | some (item, rest) => item :: drainN n rest

def drain (heap : List α) : List α := drainN key heap.length heap

end Operations

/-! ## Permutations -/

theorem swapIfInBounds_perm (heap : Array α) (i j : Nat) :
    (heap.swapIfInBounds i j).toList.Perm heap.toList := by
  rw [Array.swapIfInBounds_def]
  split
  · split
    · exact (Array.swap_perm ‹_› ‹_›).toList
    · exact .refl _
  · exact .refl _

section Perm

variable [LinearOrder κ] {key : α → κ}

theorem siftdown_perm {startpos fuel : Nat} {heap : Array α} {pos : Nat} :
    (siftdown key startpos fuel heap pos).toList.Perm heap.toList := by
  induction fuel generalizing heap pos with
  | zero => exact .refl _
  | succ fuel ih =>
    unfold siftdown
    split
    · split
      · split
        · exact ih.trans (swapIfInBounds_perm ..)
        · exact .refl _
      · exact .refl _
    · exact .refl _

theorem sink_perm {fuel : Nat} {heap : Array α} {pos : Nat} :
    (sink key fuel heap pos).1.toList.Perm heap.toList := by
  induction fuel generalizing heap pos with
  | zero => exact .refl _
  | succ fuel ih =>
    unfold sink
    split
    · exact ih.trans (swapIfInBounds_perm ..)
    · exact .refl _

theorem siftup_perm {heap : Array α} {pos : Nat} :
    (siftup key heap pos).toList.Perm heap.toList :=
  siftdown_perm.trans sink_perm

theorem heapifyFrom_perm {n : Nat} {heap : Array α} :
    (heapifyFrom key n heap).toList.Perm heap.toList := by
  induction n generalizing heap with
  | zero => exact .refl _
  | succ n ih => exact ih.trans siftup_perm

theorem heapify_perm {heap : List α} : (heapify key heap).Perm heap := heapifyFrom_perm

theorem heappush_perm {heap : List α} {item : α} :
    (heappush key heap item).Perm (item :: heap) := by
  refine siftdown_perm.trans ?_
  simp

theorem heappop_perm {heap rest : List α} {item : α} (h : heappop key heap = some (item, rest)) :
    heap.Perm (item :: rest) := by
  unfold heappop at h
  split at h
  · cases h
  · rename_i lastelt hl hd
    cases h
    rw [← List.dropLast_append_getLast? _ hl, hd]
    exact .refl _
  · rename_i lastelt returnitem tl hl hd
    cases h
    rw [← List.dropLast_append_getLast? _ hl, hd, List.cons_append]
    refine .cons _ ?_
    have hsift : (siftup key (lastelt :: tl).toArray 0).toList.Perm (lastelt :: tl) := siftup_perm
    exact (List.perm_append_singleton lastelt tl).trans hsift.symm

theorem heappop_eq_none {heap : List α} : heappop key heap = none ↔ heap = [] := by
  constructor
  · intro h
    unfold heappop at h
    split at h
    · rename_i hl
      exact List.getLast?_eq_none_iff.mp hl
    · cases h
    · cases h
  · rintro rfl
    rfl

theorem drainN_perm {n : Nat} {heap : List α} (hn : heap.length = n) :
    (drainN key n heap).Perm heap := by
  induction n generalizing heap with
  | zero => rw [List.length_eq_zero_iff.mp hn]; exact .refl _
  | succ n ih =>
    unfold drainN
    split
    · rename_i h
      rw [heappop_eq_none] at h
      simp [h] at hn
    · rename_i item rest h
      have hp := heappop_perm h
      have hlen : rest.length = n := by have := hp.length_eq; simp at this; omega
      exact ((ih hlen).cons item).trans hp.symm

theorem drain_perm {heap : List α} : (drain key heap).Perm heap := drainN_perm rfl

end Perm

/-! ## Order

`HeapFrom lo` is the heap property below the positions from `lo` on. While an
item moves, the property has one gap: `UpOrder` is what holds while `siftdown`
carries the item at `pos` upwards, `DownOrder` what holds while `sink` carries
it down. -/

section Order

variable [LinearOrder κ] (key : α → κ)

/-- `i` holds a key that is at most the one at `j`, where both are positions of the heap. -/
def Ordered (heap : Array α) (i j : Nat) : Prop :=
  ∀ x ∈ heap[i]?, ∀ y ∈ heap[j]?, key x ≤ key y

def HeapFrom (lo : Nat) (heap : Array α) : Prop :=
  ∀ c, 0 < c → lo ≤ (c - 1) / 2 → Ordered key heap ((c - 1) / 2) c

def IsHeap (heap : List α) : Prop := HeapFrom key 0 heap.toArray

/-- `pos` lies in the subtree of `lo`. -/
inductive Below (lo : Nat) : Nat → Prop where
  | refl : Below lo lo
  | child {c : Nat} : 0 < c → Below lo ((c - 1) / 2) → Below lo c

/-- The children of `pos` may follow its parent directly. -/
def Bridged (lo : Nat) (heap : Array α) (pos : Nat) : Prop :=
  0 < pos → lo ≤ (pos - 1) / 2 →
    ∀ c, 0 < c → (c - 1) / 2 = pos → Ordered key heap ((pos - 1) / 2) c

structure UpOrder (lo : Nat) (heap : Array α) (pos : Nat) : Prop where
  ordered : ∀ c, 0 < c → lo ≤ (c - 1) / 2 → c ≠ pos → Ordered key heap ((c - 1) / 2) c
  bridged : Bridged key lo heap pos

structure DownOrder (lo : Nat) (heap : Array α) (pos : Nat) : Prop where
  ordered : ∀ c, 0 < c → lo ≤ (c - 1) / 2 → c ≠ pos → (c - 1) / 2 ≠ pos →
    Ordered key heap ((c - 1) / 2) c
  bridged : Bridged key lo heap pos

end Order

section OrderLemmas

variable [LinearOrder κ] {key : α → κ}

theorem Below.le {lo pos : Nat} (h : Below lo pos) : lo ≤ pos := by
  induction h with
  | refl => exact le_rfl
  | child _ _ ih => omega

theorem Below.parent {lo pos : Nat} (h : Below lo pos) (hlt : lo < pos) :
    Below lo ((pos - 1) / 2) := by
  cases h with
  | refl => omega
  | child _ h => exact h

theorem Ordered.trans {heap : Array α} {i j k : Nat} (h₁ : Ordered key heap i j)
    (h₂ : Ordered key heap j k) (hj : j < heap.size) : Ordered key heap i k := by
  intro x hx y hy
  have hz : heap[j]? = some heap[j] := Array.getElem?_eq_getElem hj
  exact (h₁ x hx _ hz).trans (h₂ _ hz y hy)

theorem getElem?_swapIfInBounds {heap : Array α} {i j : Nat} (hi : i < heap.size)
    (hj : j < heap.size) (k : Nat) :
    (heap.swapIfInBounds i j)[k]? = heap[if k = i then j else if k = j then i else k]? := by
  rw [Array.swapIfInBounds_def, dif_pos hi, dif_pos hj, Array.getElem?_swap]
  by_cases hki : k = i
  · subst hki
    by_cases hjk : j = k
    · subst hjk; simp [hi]
    · simp [hjk, hj]
  · by_cases hkj : k = j
    · subst hkj; simp [hki, hi]
    · simp [hki, hkj, Ne.symm hki, Ne.symm hkj]

/-- Order after a swap is order before it between the swapped positions. -/
theorem ordered_swapIfInBounds {heap : Array α} {i j k l : Nat} (hi : i < heap.size)
    (hj : j < heap.size) :
    Ordered key (heap.swapIfInBounds i j) k l ↔
      Ordered key heap (if k = i then j else if k = j then i else k)
        (if l = i then j else if l = j then i else l) := by
  unfold Ordered
  rw [getElem?_swapIfInBounds hi hj, getElem?_swapIfInBounds hi hj]

theorem Ordered.of_size_le {heap : Array α} {i j : Nat} (h : heap.size ≤ j) :
    Ordered key heap i j := by
  intro x _ y hy
  rw [Array.getElem?_eq_none h] at hy
  cases hy

theorem siftdown_heapFrom {lo fuel : Nat} {heap : Array α} {pos : Nat} (hfuel : pos ≤ fuel)
    (hb : Below lo pos) (hpos : pos < heap.size) (h : UpOrder key lo heap pos) :
    HeapFrom key lo (siftdown key lo fuel heap pos) := by
  induction fuel generalizing heap pos with
  | zero =>
    intro c hc hlo
    exact h.ordered c hc hlo (by omega)
  | succ fuel ih =>
    have hparent : (pos - 1) / 2 < heap.size := by omega
    unfold siftdown
    split
    next hlt =>
      rw [Array.getElem?_eq_getElem hpos, Array.getElem?_eq_getElem hparent]
      dsimp only
      have hlp : lo ≤ (pos - 1) / 2 := (hb.parent hlt).le
      split
      next hkey =>
        have hnew : Ordered key heap pos ((pos - 1) / 2) := by
          intro x hx y hy
          rw [Array.getElem?_eq_getElem hpos] at hx
          rw [Array.getElem?_eq_getElem hparent] at hy
          cases hx; cases hy
          exact hkey.le
        refine ih (by omega) (hb.parent hlt) (by simpa using hparent) ⟨?_, ?_⟩
        · intro c hc hlo hne
          rw [ordered_swapIfInBounds hpos hparent]
          by_cases hcp : c = pos
          · subst hcp
            rw [if_neg (by omega), if_pos rfl, if_pos rfl]
            exact hnew
          · rw [if_neg hcp, if_neg hne]
            split
            next hgc => exact h.bridged (by omega) hlp c hc hgc
            next hgc =>
              split
              next hsib =>
                have hold := h.ordered c hc hlo hcp
                rw [hsib] at hold
                exact hnew.trans hold hparent
              next => exact h.ordered c hc hlo hcp
        · intro hpp hlo c hc hcp
          rw [ordered_swapIfInBounds hpos hparent]
          have hgp := h.ordered ((pos - 1) / 2) hpp hlo (by omega)
          rw [if_neg (by omega), if_neg (by omega)]
          split
          next => exact hgp
          next hne =>
            rw [if_neg (by omega)]
            refine hgp.trans ?_ hparent
            have := h.ordered c hc (by omega) hne
            rwa [hcp] at this
      next hkey =>
        intro c hc hlo
        by_cases hcp : c = pos
        · subst hcp
          intro x hx y hy
          rw [Array.getElem?_eq_getElem hpos] at hy
          rw [Array.getElem?_eq_getElem hparent] at hx
          cases hx; cases hy
          exact le_of_not_gt hkey
        · exact h.ordered c hc hlo hcp
    next hnlt =>
      intro c hc hlo
      have := hb.le
      exact h.ordered c hc hlo (by omega)

theorem smallerChild_eq (heap : Array α) (pos : Nat) :
    smallerChild key heap pos = 2 * pos + 1 ∨ smallerChild key heap pos = 2 * pos + 2 := by
  unfold smallerChild
  split
  · split
    · exact .inl rfl
    · exact .inr rfl
  · exact .inl rfl

theorem smallerChild_lt {heap : Array α} {pos : Nat} (h : 2 * pos + 1 < heap.size) :
    smallerChild key heap pos < heap.size := by
  unfold smallerChild
  split
  next hr =>
    obtain ⟨hlt, -⟩ := Array.getElem?_eq_some_iff.mp hr
    split <;> omega
  next => omega

theorem smallerChild_ordered {heap : Array α} {pos c : Nat} (hc : 0 < c)
    (hcp : (c - 1) / 2 = pos) : Ordered key heap (smallerChild key heap pos) c := by
  have hcs : c = 2 * pos + 1 ∨ c = 2 * pos + 2 := by omega
  intro x hx y hy
  unfold smallerChild at hx
  split at hx
  next l r hl hr =>
    split at hx
    next hlt =>
      obtain rfl | rfl := hcs
      · rw [Option.mem_def.mp hx, Option.mem_def] at hy; cases hy; rfl
      · simp_all; exact hlt.le
    next hlt =>
      obtain rfl | rfl := hcs
      · simp_all
      · rw [Option.mem_def.mp hx, Option.mem_def] at hy; cases hy; rfl
  next hno =>
    obtain rfl | rfl := hcs
    · rw [Option.mem_def.mp hx, Option.mem_def] at hy; cases hy; rfl
    · exact absurd (Option.mem_def.mp hy) (hno x y (Option.mem_def.mp hx))

theorem sink_size {fuel : Nat} {heap : Array α} {pos : Nat} :
    (sink key fuel heap pos).1.size = heap.size := by
  rw [← Array.length_toList, ← Array.length_toList]
  exact sink_perm.length_eq

/-- At a leaf, the gap of `DownOrder` is the one of `UpOrder`. -/
theorem DownOrder.leaf {lo : Nat} {heap : Array α} {pos : Nat} (h : DownOrder key lo heap pos)
    (hleaf : heap.size ≤ 2 * pos + 1) : UpOrder key lo heap pos := by
  refine ⟨fun c hc hlo hne => ?_, h.bridged⟩
  by_cases hcp : (c - 1) / 2 = pos
  · exact .of_size_le (by omega)
  · exact h.ordered c hc hlo hne hcp

theorem sink_upOrder {lo fuel : Nat} {heap : Array α} {pos : Nat} (hfuel : heap.size ≤ pos + fuel)
    (hb : Below lo pos) (hpos : pos < heap.size) (h : DownOrder key lo heap pos) :
    Below lo (sink key fuel heap pos).2 ∧ (sink key fuel heap pos).2 < heap.size ∧
      UpOrder key lo (sink key fuel heap pos).1 (sink key fuel heap pos).2 := by
  induction fuel generalizing heap pos with
  | zero => exact ⟨hb, hpos, h.leaf (by omega)⟩
  | succ fuel ih =>
    unfold sink
    split
    next hlt =>
      set s := smallerChild key heap pos with hs
      have hs2 : s = 2 * pos + 1 ∨ s = 2 * pos + 2 := smallerChild_eq heap pos
      have hslt : s < heap.size := smallerChild_lt hlt
      have hparent : (s - 1) / 2 = pos := by omega
      have hbs : Below lo s := .child (by omega) (hparent ▸ hb)
      have hdown : DownOrder key lo (heap.swapIfInBounds pos s) s := by
        refine ⟨?_, ?_⟩
        · intro c hc hlo hne hns
          rw [ordered_swapIfInBounds hpos hslt, if_neg hne, if_neg hns]
          split
          next hcp =>
            rw [if_neg (by omega)]
            exact smallerChild_ordered hc hcp
          next hcp =>
            split
            next heq =>
              subst heq
              exact h.bridged hc hlo s (by omega) hparent
            next hcne => exact h.ordered c hc hlo hcne hcp
        · intro hs0 hlo c hc hcs
          rw [ordered_swapIfInBounds hpos hslt, if_pos hparent, if_neg (by omega), if_neg (by omega)]
          have := hb.le
          have := h.ordered c hc (by omega) (by omega) (by omega)
          rwa [hcs] at this
      simpa using ih (by simp; omega) hbs (by simpa) hdown
    next hleaf => exact ⟨hb, hpos, h.leaf (by omega)⟩

theorem siftup_heapFrom {pos : Nat} {heap : Array α} (hpos : pos < heap.size)
    (h : DownOrder key pos heap pos) : HeapFrom key pos (siftup key heap pos) := by
  have hfuel : heap.size ≤ pos + heap.size := by omega
  obtain ⟨hb, hlt, hup⟩ := sink_upOrder hfuel .refl hpos h
  exact siftdown_heapFrom le_rfl hb (by rwa [sink_size]) hup

theorem heappush_isHeap {heap : List α} {item : α} (h : IsHeap key heap) :
    IsHeap key (heappush key heap item) := by
  have below : ∀ pos, Below 0 pos := by
    intro pos
    induction pos using Nat.strongRecOn with
    | _ pos ih =>
      obtain rfl | hpos := Nat.eq_zero_or_pos pos
      · exact .refl
      · exact .child hpos (ih _ (by omega))
  unfold IsHeap heappush
  rw [Array.toArray_toList]
  refine siftdown_heapFrom le_rfl (below _) (by simp) ⟨?_, ?_⟩
  · intro c hc _ hne x hx y hy
    have hclt : c < heap.length := by
      have := (Array.getElem?_eq_some_iff.mp hy).1
      simp at this
      omega
    refine h c hc (Nat.zero_le _) x ?_ y ?_
    · simpa [List.getElem?_append_left (show (c - 1) / 2 < heap.length by omega)] using hx
    · simpa [List.getElem?_append_left hclt] using hy
  · intro _ _ c hc hcp
    exact .of_size_le (by simp; omega)

theorem heapifyFrom_heapFrom {n : Nat} {heap : Array α} (hn : n ≤ heap.size)
    (h : HeapFrom key n heap) : HeapFrom key 0 (heapifyFrom key n heap) := by
  induction n generalizing heap with
  | zero => exact h
  | succ n ih =>
    have hsize : (siftup key heap n).size = heap.size := by
      rw [← Array.length_toList, ← Array.length_toList]
      exact siftup_perm.length_eq
    refine ih (by omega) (siftup_heapFrom hn ⟨?_, ?_⟩)
    · intro c hc hlo _ hcn
      exact h c hc (by omega)
    · intro _ hlo
      omega

theorem heapify_isHeap (heap : List α) : IsHeap key (heapify key heap) := by
  unfold IsHeap heapify
  rw [Array.toArray_toList]
  refine heapifyFrom_heapFrom (by simp; omega) ?_
  intro c hc hlo
  exact .of_size_le (by simp; omega)

theorem heappop_isHeap {heap rest : List α} {item : α} (h : IsHeap key heap)
    (hpop : heappop key heap = some (item, rest)) : IsHeap key rest := by
  unfold heappop at hpop
  split at hpop
  · cases hpop
  · cases hpop
    intro c hc _
    exact .of_size_le (by simp)
  · rename_i lastelt _ tl hl hd
    cases hpop
    have hheap : heap = item :: (tl ++ [lastelt]) := by
      rw [← List.dropLast_append_getLast? _ hl, hd]; rfl
    unfold IsHeap
    rw [Array.toArray_toList]
    refine siftup_heapFrom (by simp) ⟨?_, fun h0 => absurd h0 (lt_irrefl 0)⟩
    intro c hc _ hne hcp x hx y hy
    -- both positions lie behind the replaced root
    obtain ⟨d, rfl⟩ : ∃ d, c = d + 1 := ⟨c - 1, by omega⟩
    obtain ⟨e, he⟩ : ∃ e, (d + 1 - 1) / 2 = e + 1 := ⟨(d + 1 - 1) / 2 - 1, by omega⟩
    have hdlt : d < tl.length := by
      have := (Array.getElem?_eq_some_iff.mp hy).1
      simpa using this
    have hold := h (d + 1) hc (Nat.zero_le _)
    rw [he] at hx hold
    refine hold x ?_ y ?_
    · rw [hheap]
      simpa [List.getElem?_append_left (show e < tl.length by omega)] using hx
    · rw [hheap]
      simpa [List.getElem?_append_left hdlt] using hy

theorem IsHeap.head_le {heap : List α} {item : α} {rest : List α} (h : IsHeap key heap)
    (hpop : heappop key heap = some (item, rest)) : ∀ x ∈ heap, key item ≤ key x := by
  have hhead : heap[0]? = some item := by
    unfold heappop at hpop
    split at hpop
    · cases hpop
    · rename_i hl hd
      cases hpop
      rw [← List.dropLast_append_getLast? _ hl, hd]; rfl
    · rename_i hl hd
      cases hpop
      rw [← List.dropLast_append_getLast? _ hl, hd]; rfl
  have hroot : ∀ i, Ordered key heap.toArray 0 i := by
    intro i
    induction i using Nat.strongRecOn with
    | _ i ih =>
      obtain rfl | hi := Nat.eq_zero_or_pos i
      · intro x hx y hy
        rw [Option.mem_def.mp hx, Option.mem_def] at hy; cases hy; rfl
      · by_cases hlt : i < heap.length
        · exact (ih ((i - 1) / 2) (by omega)).trans (h i hi (Nat.zero_le _)) (by simp; omega)
        · exact .of_size_le (by simp; omega)
  intro x hx
  obtain ⟨i, hi, rfl⟩ := List.mem_iff_getElem.mp hx
  exact hroot i item (by simpa using hhead) _ (by simp [List.getElem?_eq_getElem hi])

theorem drainN_sorted {n : Nat} {heap : List α} (h : IsHeap key heap) :
    (drainN key n heap).Pairwise fun a b => key a ≤ key b := by
  induction n generalizing heap with
  | zero => exact .nil
  | succ n ih =>
    unfold drainN
    split
    · exact .nil
    · rename_i item rest hpop
      refine .cons ?_ (ih (heappop_isHeap h hpop))
      intro b hb
      have hsub : ∀ m (l : List α), drainN key m l ⊆ l := by
        intro m
        induction m with
        | zero => intro l; simp [drainN]
        | succ m ihm =>
          intro l x hx
          unfold drainN at hx
          split at hx
          · cases hx
          · rename_i hp
            refine (heappop_perm hp).mem_iff.mpr ?_
            obtain rfl | hx := List.mem_cons.mp hx
            · exact List.mem_cons_self
            · exact List.mem_cons_of_mem _ (ihm _ hx)
      exact h.head_le hpop b ((heappop_perm hpop).mem_iff.mpr (List.mem_cons_of_mem _ (hsub _ _ hb)))

/-- Taking items out of a heap and heapifying the rest keeps the order of the rest. -/
theorem drain_heapify_filter {heap : List α} {p : α → Bool} (h : IsHeap key heap)
    (hkey : ∀ a ∈ heap, ∀ b ∈ heap, key a = key b → a = b) :
    drain key (heapify key (heap.filter p)) = (drain key heap).filter p := by
  have hd : (drain key heap).Perm heap := drain_perm
  have hr : (drain key (heapify key (heap.filter p))).Perm (heap.filter p) :=
    drain_perm.trans heapify_perm
  refine (hr.trans (hd.filter p).symm).eq_of_pairwise ?_ (drainN_sorted (heapify_isHeap _))
    ((drainN_sorted h).filter p)
  intro a b ha hb hab hba
  exact hkey a (List.mem_of_mem_filter (hr.mem_iff.mp ha)) b
    (hd.mem_iff.mp (List.mem_of_mem_filter hb)) (le_antisymm hab hba)

end OrderLemmas

end AioHomematic.Lib.Heapq
