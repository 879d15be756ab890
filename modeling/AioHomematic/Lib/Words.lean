import AioHomematic.Lib.Replace
import Mathlib.Data.List.Perm.Basic

/-!
# Words, and renaming them one after the other

A text is words with separators between them. A pattern without separators is replaced word by
word (`replace_joinWords`). `rename` is what replacements that follow one another do to a word: a
word that has been replaced may be replaced again. Two words come out as the same one if and only
if one of them is turned into the other before it is the turn of the other
(`rename_eq_rename_iff`).
-/

namespace AioHomematic.Lib

variable {α : Type*}

/-! ## Words -/

/-- The first word, and the other words with the separators before them. -/
def splitWords (isWord : α → Bool) : List α → List α × List (α × List α)
  | [] => ([], [])
  | c :: s =>
    let rest := splitWords isWord s
    if isWord c then (c :: rest.1, rest.2) else ([], (c, rest.1) :: rest.2)

def joinWords (ws : List α × List (α × List α)) : List α :=
  ws.1 ++ ws.2.flatMap fun e => e.1 :: e.2

def allWords (ws : List α × List (α × List α)) : List (List α) := ws.1 :: ws.2.map Prod.snd

def mapWords (f : List α → List α) (ws : List α × List (α × List α)) :
    List α × List (α × List α) :=
  (f ws.1, ws.2.map fun e => (e.1, f e.2))

theorem joinWords_splitWords (isWord : α → Bool) (s : List α) :
    joinWords (splitWords isWord s) = s := by
  induction s with
  | nil => rfl
  | cons c s ih =>
    rw [splitWords]
    split
    · exact congrArg (c :: ·) ih
    · exact congrArg (c :: ·) ih

theorem not_isWord_of_mem_splitWords {isWord : α → Bool} {s : List α} {e : α × List α}
    (h : e ∈ (splitWords isWord s).2) : isWord e.1 = false := by
  induction s with
  | nil => cases h
  | cons c s ih =>
    rw [splitWords] at h
    split at h
    · exact ih h
    next hc =>
      obtain rfl | hmem := List.mem_cons.mp h
      · simpa using hc
      · exact ih hmem

theorem isWord_of_mem_splitWords {isWord : α → Bool} {s w : List α}
    (h : w ∈ allWords (splitWords isWord s)) : ∀ c ∈ w, isWord c = true := by
  induction s generalizing w with
  | nil =>
    have hnil : w = [] := List.mem_singleton.mp h
    subst hnil
    exact nofun
  | cons c s ih =>
    rw [splitWords] at h
    split at h
    next hc =>
      obtain rfl | hmem := List.mem_cons.mp h
      · intro d hd
        obtain rfl | hmem := List.mem_cons.mp hd
        · exact hc
        · exact ih List.mem_cons_self d hmem
      · exact ih (List.mem_cons_of_mem _ hmem)
    · obtain rfl | hmem := List.mem_cons.mp h
      · simp
      · exact ih hmem

theorem mapWords_mapWords (f g : List α → List α) (ws : List α × List (α × List α)) :
    mapWords g (mapWords f ws) = mapWords (g ∘ f) ws := by
  simp [mapWords]

theorem mapWords_congr {f g : List α → List α} {ws : List α × List (α × List α)}
    (h : ∀ w ∈ allWords ws, f w = g w) : mapWords f ws = mapWords g ws := by
  refine Prod.ext (h ws.1 List.mem_cons_self) (List.map_congr_left fun e he => ?_)
  rw [h e.2 (List.mem_cons_of_mem _ (List.mem_map_of_mem he))]

theorem allWords_mapWords (f : List α → List α) (ws : List α × List (α × List α)) :
    allWords (mapWords f ws) = (allWords ws).map f := by
  simp [allWords, mapWords]

theorem eq_of_mapWords_eq {f g : List α → List α} {ws : List α × List (α × List α)}
    (h : mapWords f ws = mapWords g ws) : ∀ w ∈ allWords ws, f w = g w := by
  have hmap : (allWords ws).map f = (allWords ws).map g := by
    rw [← allWords_mapWords, h, allWords_mapWords]
  exact List.map_inj_left.mp hmap

/-- A text that was put together of words and separators is split into them again. -/
theorem splitWords_joinWords {isWord : α → Bool} {ws : List α × List (α × List α)}
    (hwords : ∀ w ∈ allWords ws, ∀ c ∈ w, isWord c = true)
    (hseps : ∀ e ∈ ws.2, isWord e.1 = false) : splitWords isWord (joinWords ws) = ws := by
  have hword : ∀ (w s : List α), (∀ c ∈ w, isWord c = true) →
      splitWords isWord (w ++ s) = (w ++ (splitWords isWord s).1, (splitWords isWord s).2) := by
    intro w s hw
    induction w with
    | nil => rfl
    | cons c w ih =>
      rw [List.cons_append, splitWords, if_pos (hw c List.mem_cons_self),
        ih fun d hd => hw d (List.mem_cons_of_mem _ hd)]
      rfl
  have hrest : ∀ es : List (α × List α), (∀ e ∈ es, ∀ c ∈ e.2, isWord c = true) →
      (∀ e ∈ es, isWord e.1 = false) →
      splitWords isWord (es.flatMap fun e => e.1 :: e.2) = ([], es) := by
    intro es hes hsep
    induction es with
    | nil => rfl
    | cons e es ih =>
      have hnot : ¬ isWord e.1 = true := by
        rw [hsep e List.mem_cons_self]
        exact Bool.false_ne_true
      rw [List.flatMap_cons, List.cons_append, splitWords, if_neg hnot,
        hword _ _ (hes e List.mem_cons_self),
        ih (fun e' he' => hes e' (List.mem_cons_of_mem _ he'))
          fun e' he' => hsep e' (List.mem_cons_of_mem _ he')]
      simp
  rw [joinWords, hword _ _ (hwords ws.1 List.mem_cons_self), hrest ws.2 ?_ hseps, List.append_nil]
  exact fun e he => hwords e.2 (List.mem_cons_of_mem _ (List.mem_map_of_mem he))

/-! ## Replacing words -/

section Replace

variable [DecidableEq α] {p r : List α}

/-- Replacing goes word by word. -/
theorem replace_joinWords (hp : p ≠ []) {ws : List α × List (α × List α)}
    (hseps : ∀ e ∈ ws.2, e.1 ∉ p) :
    replace p r (joinWords ws) = joinWords (mapWords (replace p r) ws) := by
  obtain ⟨w, es⟩ := ws
  induction es generalizing w with
  | nil => simp [joinWords, mapWords]
  | cons e es ih =>
    have hc : e.1 ∉ p := hseps e List.mem_cons_self
    have hnot : ¬ p <+: e.1 :: joinWords (e.2, es) := by
      rintro ⟨s, hs⟩
      obtain ⟨c, q, rfl⟩ := List.exists_cons_of_ne_nil hp
      exact hc (by rw [← (List.cons.inj hs).1]; exact List.mem_cons_self)
    show replace p r (w ++ (e.1 :: joinWords (e.2, es))) = _
    rw [replace_append_cons hp hc, replace_cons hnot,
      ih e.2 fun e' he' => hseps e' (List.mem_cons_of_mem _ he')]
    rfl

/-- What a word becomes that has the pattern in it only if it is the pattern. -/
theorem replace_word (hp : p ≠ []) {w : List α} (h : p <:+: w → w = p) :
    replace p r w = if w = p then r else w := by
  split
  next heq =>
    have hself := replace_append_self (r := r) (s := []) hp
    rw [List.append_nil, replace_nil, List.append_nil] at hself
    rw [heq, hself]
  next hne => exact replace_of_absent (mt h hne)

end Replace

/-! ## Renaming -/

section Rename

variable {β : Type*}

/-- Replacements that follow one another. -/
def rename [DecidableEq β] (pairs : List (β × β)) (w : β) : β :=
  pairs.foldl (fun w e => if w = e.1 then e.2 else w) w

theorem rename_cons [DecidableEq β] (e : β × β) (pairs : List (β × β)) (w : β) :
    rename (e :: pairs) w = rename pairs (if w = e.1 then e.2 else w) := rfl

/-- The pairs turn `x` into `y` before it is the turn of `y`. -/
inductive Turns : List (β × β) → β → β → Prop where
  | now {x y : β} {pairs : List (β × β)} : Turns ((x, y) :: pairs) x y
  | on {x r y : β} {pairs : List (β × β)} : x ≠ y → Turns pairs r y → Turns ((x, r) :: pairs) x y
  | later {x y : β} {e : β × β} {pairs : List (β × β)} : e.1 ≠ x → e.1 ≠ y → Turns pairs x y →
      Turns (e :: pairs) x y

theorem Turns.mem_snd {pairs : List (β × β)} {x y : β} (h : Turns pairs x y) :
    y ∈ pairs.map Prod.snd := by
  induction h with
  | now => exact List.mem_cons_self
  | on _ _ ih => exact List.mem_cons_of_mem _ ih
  | later _ _ _ ih => exact List.mem_cons_of_mem _ ih

/-- Nothing is turned into a word whose turn it is. -/
theorem not_turns_fst {o r x : β} {pairs : List (β × β)} (hne : x ≠ o) :
    ¬ Turns ((o, r) :: pairs) x o := by
  intro h
  cases h with
  | now => exact hne rfl
  | on hx => exact hne rfl
  | later _ hy => exact hy rfl

theorem turns_cons_self {x r y : β} {pairs : List (β × β)} (hne : x ≠ y) (hr : r ≠ y) :
    Turns ((x, r) :: pairs) x y ↔ Turns pairs r y := by
  refine ⟨fun h => ?_, .on hne⟩
  cases h with
  | now => exact absurd rfl hr
  | on _ h => exact h
  | later hx => exact absurd rfl hx

theorem turns_cons_of_ne {e : β × β} {x y : β} {pairs : List (β × β)} (hx : e.1 ≠ x)
    (hy : e.1 ≠ y) : Turns (e :: pairs) x y ↔ Turns pairs x y := by
  refine ⟨fun h => ?_, .later hx hy⟩
  cases h with
  | now => exact absurd rfl hx
  | on => exact absurd rfl hx
  | later _ _ h => exact h

/-- Two words meet if one is turned into the other before it is the turn of the other. -/
theorem rename_eq_rename_iff [DecidableEq β] {pairs : List (β × β)}
    (hfst : (pairs.map Prod.fst).Nodup)
    (hsnd : (pairs.map Prod.snd).Nodup) {x y : β} (hne : x ≠ y) :
    rename pairs x = rename pairs y ↔ Turns pairs x y ∨ Turns pairs y x := by
  induction pairs generalizing x y with
  | nil => exact iff_of_false hne fun h => by obtain h | h := h <;> cases h
  | cons e pairs ih =>
    obtain ⟨o, r⟩ := e
    have hr : r ∉ pairs.map Prod.snd := (List.nodup_cons.mp hsnd).1
    have hno : ∀ {x}, ¬ Turns pairs x r := fun h => hr h.mem_snd
    have hself : ∀ {y}, o ≠ y →
        (rename pairs r = rename pairs y ↔ Turns ((o, r) :: pairs) o y) := by
      intro y hne
      by_cases hry : r = y
      · subst hry
        exact iff_of_true rfl .now
      · rw [ih hfst.of_cons hsnd.of_cons hry, turns_cons_self hne hry, or_iff_left hno]
    rw [rename_cons, rename_cons]
    by_cases hx : x = o
    · subst hx
      rw [if_pos rfl, if_neg (Ne.symm hne), hself hne,
        or_iff_left (not_turns_fst (Ne.symm hne))]
    · by_cases hy : y = o
      · subst hy
        rw [if_pos rfl, if_neg hne, eq_comm, hself (Ne.symm hne), or_iff_right (not_turns_fst hne)]
      · rw [if_neg hx, if_neg hy, ih hfst.of_cons hsnd.of_cons hne,
          turns_cons_of_ne (Ne.symm hx) (Ne.symm hy), turns_cons_of_ne (Ne.symm hy) (Ne.symm hx)]

end Rename

end AioHomematic.Lib
