import Mathlib.Data.List.Basic
import Mathlib.Order.Lattice

/-!
# Step functions

A function of time with finitely many steps has two forms: spans, each with
the time until which its value lasts, and pulses over a base value. `fill` makes
spans of pulses, and `collect?` the pulses of spans, one span after the
other; both keep the value at every time.
-/

namespace AioHomematic.Lib

/-- A value that lasts until a time. -/
structure Span (τ α : Type*) where
  stop : τ
  value : α
deriving DecidableEq

/-- A value that lasts from a time until another. -/
structure Pulse (τ α : Type*) where
  start : τ
  stop : τ
  value : α
deriving DecidableEq

variable {τ α : Type*} [LinearOrder τ] {base : α} {previous t : τ}

namespace Span

variable {l l' : List (Span τ α)}

/-- The value of the first span that lasts longer. -/
def valueAt (l : List (Span τ α)) (t : τ) : Option α :=
  (l.find? fun s => decide (t < s.stop)).map (·.value)

@[simp] theorem valueAt_nil (t : τ) : valueAt ([] : List (Span τ α)) t = none := rfl

theorem valueAt_cons (s : Span τ α) (l : List (Span τ α)) (t : τ) :
    valueAt (s :: l) t = if t < s.stop then some s.value else valueAt l t := by
  rw [valueAt, List.find?_cons]
  by_cases h : t < s.stop
  · simp [h]
  · simp [h, valueAt]

theorem valueAt_append (l l' : List (Span τ α)) (t : τ) :
    valueAt (l ++ l') t = (valueAt l t).or (valueAt l' t) := by
  induction l with
  | nil => rfl
  | cons s l ih =>
    rw [List.cons_append, valueAt_cons, valueAt_cons, ih]
    split <;> rfl

theorem valueAt_eq_none : valueAt l t = none ↔ ∀ s ∈ l, s.stop ≤ t := by
  simp [valueAt]

/-- The stops are in order. -/
def Ascends (previous : τ) (l : List (Span τ α)) : Prop :=
  List.IsChain (· ≤ ·) (previous :: l.map (·.stop))

instance (previous : τ) (l : List (Span τ α)) : Decidable (Ascends previous l) :=
  inferInstanceAs (Decidable (List.IsChain _ _))

@[simp] theorem ascends_nil : Ascends previous ([] : List (Span τ α)) :=
  List.IsChain.singleton previous

@[simp] theorem ascends_cons {s : Span τ α} :
    Ascends previous (s :: l) ↔ previous ≤ s.stop ∧ Ascends s.stop l :=
  List.isChain_cons_cons

theorem Ascends.le_of_mem (h : Ascends previous l) {s : Span τ α} (hs : s ∈ l) :
    previous ≤ s.stop := by
  induction l generalizing previous with
  | nil => cases hs
  | cons s' l ih =>
    obtain ⟨hle, htail⟩ := ascends_cons.mp h
    obtain rfl | hs := List.mem_cons.mp hs
    · exact hle
    · exact hle.trans (ih htail hs)

end Span

namespace Pulse

variable {p : Pulse τ α} {ps : List (Pulse τ α)}

/-- The value of the pulse that lasts at a time, or the base value. -/
def valueAt (base : α) (ps : List (Pulse τ α)) (t : τ) : α :=
  ((ps.find? fun p => decide (p.start ≤ t ∧ t < p.stop)).map (·.value)).getD base

/-- One pulse after the other. -/
def Chain (previous : τ) : List (Pulse τ α) → Prop
  | [] => True
  | p :: ps => previous ≤ p.start ∧ p.start < p.stop ∧ Chain p.stop ps

def lastStop (previous : τ) : List (Pulse τ α) → τ
  | [] => previous
  | p :: ps => lastStop p.stop ps

/-- How many pulses do not start at once. -/
def gaps (previous : τ) : List (Pulse τ α) → Nat
  | [] => 0
  | p :: ps => (if previous < p.start then 1 else 0) + gaps p.stop ps

/-- How many spans pulses make until a time. -/
def pieces (previous stop : τ) (ps : List (Pulse τ α)) : Nat :=
  ps.length + gaps previous ps + if lastStop previous ps < stop then 1 else 0

/-- The spans of pulses, with the base value in the gaps. -/
def fill (base : α) (previous : τ) : List (Pulse τ α) → List (Span τ α)
  | [] => []
  | p :: ps =>
    (if previous < p.start then [⟨p.start, base⟩] else []) ++
      ⟨p.stop, p.value⟩ :: fill base p.stop ps

theorem valueAt_cons (base : α) (p : Pulse τ α) (ps : List (Pulse τ α)) (t : τ) :
    valueAt base (p :: ps) t =
      if p.start ≤ t ∧ t < p.stop then p.value else valueAt base ps t := by
  rw [valueAt, List.find?_cons]
  by_cases h : p.start ≤ t ∧ t < p.stop
  · simp [h]
  · rw [decide_eq_false h, if_neg h]
    rfl

theorem valueAt_of_forall (h : ∀ p ∈ ps, ¬ (p.start ≤ t ∧ t < p.stop)) :
    valueAt base ps t = base := by
  rw [valueAt, List.find?_eq_none.mpr fun p hp => by simpa using h p hp]
  rfl

theorem Chain.mem (h : Chain previous ps) (hp : p ∈ ps) :
    previous ≤ p.start ∧ p.start < p.stop ∧ p.stop ≤ lastStop previous ps := by
  have hlast : ∀ (ps : List (Pulse τ α)) (previous : τ), Chain previous ps →
      previous ≤ lastStop previous ps := by
    intro ps
    induction ps with
    | nil => exact fun previous _ => le_rfl
    | cons p ps ih => exact fun previous h => (h.1.trans h.2.1.le).trans (ih _ h.2.2)
  induction ps generalizing previous with
  | nil => cases hp
  | cons q ps ih =>
    obtain ⟨hstart, hstop, hchain⟩ := h
    obtain rfl | hp := List.mem_cons.mp hp
    · exact ⟨hstart, hstop, hlast ps _ hchain⟩
    · obtain ⟨hle, hlt, hlast⟩ := ih hchain hp
      exact ⟨(hstart.trans hstop.le).trans hle, hlt, hlast⟩

theorem valueAt_of_lt (h : Chain previous ps) (ht : t < previous) : valueAt base ps t = base :=
  valueAt_of_forall fun _ hp hin => absurd ((h.mem hp).1.trans hin.1) (not_le.mpr ht)

theorem valueAt_of_le (h : Chain previous ps) (ht : lastStop previous ps ≤ t) :
    valueAt base ps t = base :=
  valueAt_of_forall fun _ hp hin => absurd ((h.mem hp).2.2.trans ht) (not_le.mpr hin.2)

theorem valueAt_of_mem (h : Chain previous ps) (hp : p ∈ ps) (ht : p.start ≤ t ∧ t < p.stop) :
    valueAt base ps t = p.value := by
  induction ps generalizing previous with
  | nil => cases hp
  | cons q ps ih =>
    obtain ⟨-, -, hchain⟩ := h
    rw [valueAt_cons]
    obtain rfl | hp := List.mem_cons.mp hp
    · rw [if_pos ht]
    · have hlater := (hchain.mem hp).1.trans ht.1
      rw [if_neg fun hin => absurd hin.2 (not_lt.mpr hlater), ih hchain hp]

/-! ## Pulses to spans -/

theorem ascends_fill (h : Chain previous ps) {tail : List (Span τ α)}
    (htail : Span.Ascends (lastStop previous ps) tail) :
    Span.Ascends previous (fill base previous ps ++ tail) := by
  induction ps generalizing previous with
  | nil => exact htail
  | cons p ps ih =>
    obtain ⟨hstart, hstop, hchain⟩ := h
    rw [fill]
    have hrest := ih hchain htail
    split
    · simp [hstart, hstop.le, hrest]
    · simp [hstart.trans hstop.le, hrest]

/-- The spans have the values of the pulses, if the base value follows. -/
theorem valueAt_fill (h : Chain previous ps) {tail : List (Span τ α)} (ht : previous ≤ t)
    (htail : lastStop previous ps ≤ t → Span.valueAt tail t = some base) :
    Span.valueAt (fill base previous ps ++ tail) t = some (valueAt base ps t) := by
  induction ps generalizing previous with
  | nil => exact htail ht
  | cons p ps ih =>
    obtain ⟨hstart, hstop, hchain⟩ := h
    rw [fill, List.append_assoc, Span.valueAt_append, List.cons_append, Span.valueAt_cons,
      valueAt_cons]
    dsimp only
    by_cases hbefore : t < p.start
    · have hout : ¬ (p.start ≤ t ∧ t < p.stop) := fun hin => absurd hin.1 (not_le.mpr hbefore)
      rw [if_pos (ht.trans_lt hbefore), if_neg hout, valueAt_of_lt hchain (hbefore.trans hstop),
        Span.valueAt_cons, if_pos hbefore, Option.some_or]
    · rw [not_lt] at hbefore
      have hgap : Span.valueAt (if previous < p.start then [⟨p.start, base⟩] else []) t =
          none := by
        rw [Span.valueAt_eq_none]
        intro s hs
        split at hs
        · obtain rfl := List.mem_singleton.mp hs
          exact hbefore
        · cases hs
      rw [hgap, Option.none_or]
      by_cases hin : t < p.stop
      · rw [if_pos hin, if_pos ⟨hbefore, hin⟩]
      · rw [if_neg hin, if_neg fun h => hin h.2, ih hchain (not_lt.mp hin) htail]

theorem getLast?_fill (base : α) (previous : τ) (h : ps ≠ []) :
    (fill base previous ps).getLast?.map (·.stop) = some (lastStop previous ps) := by
  induction ps generalizing previous with
  | nil => exact absurd rfl h
  | cons p ps ih =>
    rw [fill, lastStop]
    cases ps with
    | nil => simp [fill, lastStop]
    | cons q ps =>
      have hlast := ih p.stop (List.cons_ne_nil q ps)
      have hne : fill base p.stop (q :: ps) ≠ [] := fun hnil => by
        rw [hnil] at hlast
        cases hlast
      rw [List.getLast?_append_of_ne_nil _ (List.cons_ne_nil _ _),
        List.getLast?_cons_of_ne_nil hne, hlast]

theorem lastStop_le {bound : τ} (hprevious : previous ≤ bound) (h : ∀ p ∈ ps, p.stop ≤ bound) :
    lastStop previous ps ≤ bound := by
  induction ps generalizing previous with
  | nil => exact hprevious
  | cons p ps ih =>
    exact ih (h p List.mem_cons_self) fun q hq => h q (List.mem_cons_of_mem p hq)

/-! ## A pulse at the end -/

omit [LinearOrder τ] in
theorem lastStop_concat (previous : τ) (ps : List (Pulse τ α)) (p : Pulse τ α) :
    lastStop previous (ps ++ [p]) = p.stop := by
  induction ps generalizing previous with
  | nil => rfl
  | cons q ps ih => exact ih q.stop

theorem chain_concat : Chain previous (ps ++ [p]) ↔
    Chain previous ps ∧ lastStop previous ps ≤ p.start ∧ p.start < p.stop := by
  induction ps generalizing previous with
  | nil => simp [Chain, lastStop]
  | cons q ps ih => simp only [List.cons_append, Chain, lastStop, ih, and_assoc]

theorem gaps_concat (previous : τ) (ps : List (Pulse τ α)) (p : Pulse τ α) :
    gaps previous (ps ++ [p]) =
      gaps previous ps + if lastStop previous ps < p.start then 1 else 0 := by
  induction ps generalizing previous with
  | nil =>
    rw [List.nil_append, gaps, gaps, gaps, Nat.add_zero, Nat.zero_add]
    rfl
  | cons q ps ih => rw [List.cons_append, gaps, gaps, ih, lastStop, Nat.add_assoc]

theorem pieces_concat (previous : τ) (ps : List (Pulse τ α)) (p : Pulse τ α) :
    pieces previous p.stop (ps ++ [p]) = pieces previous p.start ps + 1 := by
  have hlast : ¬ lastStop previous (ps ++ [p]) < p.stop :=
    not_lt.mpr (lastStop_concat previous ps p).ge
  rw [pieces, if_neg hlast, gaps_concat, List.length_append, List.length_singleton, pieces]
  omega

theorem pieces_le (previous stop stop' : τ) (ps : List (Pulse τ α)) :
    pieces previous stop' ps ≤ pieces previous stop ps + 1 := by
  rw [pieces, pieces]
  split <;> split <;> omega

theorem valueAt_concat (h : Chain previous ps) (hp : lastStop previous ps ≤ p.start) :
    valueAt base (ps ++ [p]) t =
      if p.start ≤ t ∧ t < p.stop then p.value else valueAt base ps t := by
  induction ps generalizing previous with
  | nil => exact valueAt_cons base p [] t
  | cons q ps ih =>
    have hlast := (h.mem (p := q) List.mem_cons_self).2.2
    rw [List.cons_append, valueAt_cons, valueAt_cons, ih h.2.2 hp]
    by_cases hin : p.start ≤ t ∧ t < p.stop
    · have hout : ¬ (q.start ≤ t ∧ t < q.stop) := fun hq =>
        absurd ((hlast.trans hp).trans hin.1) (not_le.mpr hq.2)
      rw [if_neg hout, if_pos hin, if_pos hin]
    · rw [if_neg hin, if_neg hin]

end Pulse

/-! ## Spans to pulses -/

/-- The pulses of the spans so far; one may still be open. -/
structure Collector (τ α : Type*) where
  closed : List (Pulse τ α)
  opened : Option (Pulse τ α)
  previous : τ

/-- A pulse that ends after it starts. -/
def pulse? (start stop : τ) (value : α) : Option (Pulse τ α) :=
  if start < stop then some ⟨start, stop, value⟩ else none

namespace Collector

variable {first : τ} {c : Collector τ α} {s : Span τ α} {done : List (Span τ α)}

omit [LinearOrder τ] in
def pulses (c : Collector τ α) : List (Pulse τ α) := c.closed ++ c.opened.toList

omit [LinearOrder τ] in
@[simp] theorem pulses_none (ps : List (Pulse τ α)) (previous : τ) :
    pulses ⟨ps, none, previous⟩ = ps :=
  List.append_nil ps

/-- The base value closes the open pulse, its own value extends it, and another value starts a new
one, unless the span is empty. -/
def collect? [DecidableEq α] (base : α) (c : Collector τ α) (s : Span τ α) :
    Option (Collector τ α) :=
  if s.value = base then some ⟨c.pulses, none, s.stop⟩
  else
    match c.opened with
    | some p =>
      if s.value = p.value then
        (pulse? p.start s.stop s.value).map (⟨c.closed, some ·, s.stop⟩)
      else (pulse? c.previous s.stop s.value).map (⟨c.pulses, some ·, s.stop⟩)
    | none => (pulse? c.previous s.stop s.value).map (⟨c.pulses, some ·, s.stop⟩)

theorem previous_of_collect? [DecidableEq α] {c' : Collector τ α}
    (h : collect? base c s = some c') : c'.previous = s.stop := by
  have hpulse : ∀ {ps : List (Pulse τ α)} {start : τ},
      (pulse? start s.stop s.value).map (⟨ps, some ·, s.stop⟩) = some c' →
        c'.previous = s.stop := by
    intro ps start h
    obtain ⟨p, -, rfl⟩ := Option.map_eq_some_iff.mp h
    rfl
  rw [collect?] at h
  split at h
  · obtain rfl := Option.some.inj h
    rfl
  · split at h
    · split at h
      · exact hpulse h
      · exact hpulse h
    · exact hpulse h

/-- What is collected of spans. -/
structure Collected (base : α) (first : τ) (done : List (Span τ α)) (c : Collector τ α) :
    Prop where
  chain : Pulse.Chain first c.pulses
  last : Pulse.lastStop first c.pulses ≤ c.previous
  opened : ∀ p ∈ c.opened, p.stop = c.previous
  same : ∀ x, x ≠ base → (c.opened.map (·.value) = some x ↔ done.getLast?.map (·.value) = some x)
  count : Pulse.pieces first c.previous c.pulses ≤ done.length
  values : ∀ x, (∃ p ∈ c.pulses, p.value = x) ↔ x ≠ base ∧ ∃ s ∈ done, s.value = x
  stops : ∀ s ∈ done, s.stop ≤ c.previous
  value : ∀ t, first ≤ t → t < c.previous →
    Span.valueAt done t = some (Pulse.valueAt base c.pulses t)

theorem collected_init (base : α) (first : τ) : Collected base first [] ⟨[], none, first⟩ where
  chain := trivial
  last := le_rfl
  opened := nofun
  same := fun _ _ => Iff.rfl
  count := by simp [pulses, Pulse.pieces, Pulse.gaps, Pulse.lastStop]
  values := by simp [pulses]
  stops := nofun
  value := fun _ hle hlt => absurd hlt (not_lt.mpr hle)

/-- After the end of what is collected, the next span's value counts. -/
theorem Collected.valueAt_concat (h : Collected base first done c) {t : τ} (ht : c.previous ≤ t) :
    Span.valueAt (done ++ [s]) t = if t < s.stop then some s.value else none := by
  have hnone : Span.valueAt done t = none :=
    Span.valueAt_eq_none.mpr fun s hs => (h.stops s hs).trans ht
  rw [Span.valueAt_append, hnone, Option.none_or, Span.valueAt_cons, Span.valueAt_nil]

theorem Collected.valueAt_concat_of_lt (h : Collected base first done c) {t : τ}
    (hfirst : first ≤ t) (ht : t < c.previous) :
    Span.valueAt (done ++ [s]) t = some (Pulse.valueAt base c.pulses t) := by
  rw [Span.valueAt_append, h.value t hfirst ht, Option.some_or]

theorem Collected.stops_concat (h : Collected base first done c) (hs : c.previous ≤ s.stop) :
    ∀ s' ∈ done ++ [s], s'.stop ≤ s.stop := by
  intro s' hs'
  obtain hs' | hs' := List.mem_append.mp hs'
  · exact (h.stops s' hs').trans hs
  · obtain rfl := List.mem_singleton.mp hs'
    exact le_rfl

theorem Collected.concat_base (h : Collected base first done c) (hs : c.previous ≤ s.stop)
    (hbase : s.value = base) : Collected base first (done ++ [s]) ⟨c.pulses, none, s.stop⟩ where
  chain := by simpa using h.chain
  last := by simpa using h.last.trans hs
  opened := nofun
  same := by
    intro x hx
    simp [hbase, hx.symm]
  count := by
    have hpieces := Pulse.pieces_le first c.previous s.stop c.pulses
    rw [pulses_none, List.length_append]
    exact Nat.le_trans hpieces (Nat.succ_le_succ h.count)
  values := by
    intro x
    rw [pulses_none, h.values x]
    refine and_congr_right fun hx => ?_
    simp [hbase, hx.symm]
  stops := h.stops_concat hs
  value := by
    intro t hfirst ht
    rw [pulses_none]
    by_cases hprevious : t < c.previous
    · exact h.valueAt_concat_of_lt hfirst hprevious
    · rw [not_lt] at hprevious
      rw [h.valueAt_concat hprevious, if_pos ht, hbase,
        Pulse.valueAt_of_le h.chain (h.last.trans hprevious)]

theorem Collected.concat_pulse (h : Collected base first done c) (hs : c.previous < s.stop)
    (hbase : s.value ≠ base) :
    Collected base first (done ++ [s])
      ⟨c.pulses, some ⟨c.previous, s.stop, s.value⟩, s.stop⟩ where
  chain := Pulse.chain_concat.mpr ⟨h.chain, h.last, hs⟩
  last := (Pulse.lastStop_concat _ _ _).le
  opened := by
    intro p hp
    obtain rfl := Option.mem_some.mp hp
    rfl
  same := by simp
  count := by
    have hpieces := Pulse.pieces_concat first c.pulses ⟨c.previous, s.stop, s.value⟩
    rw [List.length_append]
    exact Nat.le_trans (Nat.le_of_eq hpieces) (Nat.succ_le_succ h.count)
  values := by
    intro x
    have hvalues := h.values x
    simp only [pulses, Option.toList_some, List.mem_append, List.mem_singleton] at hvalues ⊢
    constructor
    · rintro ⟨p, hp | rfl, rfl⟩
      · obtain ⟨hne, s', hs', heq⟩ := hvalues.mp ⟨p, hp, rfl⟩
        exact ⟨hne, s', .inl hs', heq⟩
      · exact ⟨hbase, s, .inr rfl, rfl⟩
    · rintro ⟨hne, s', hs' | rfl, rfl⟩
      · obtain ⟨p, hp, heq⟩ := hvalues.mpr ⟨hne, s', hs', rfl⟩
        exact ⟨p, .inl hp, heq⟩
      · exact ⟨_, .inr rfl, rfl⟩
  stops := h.stops_concat hs.le
  value := by
    intro t hfirst ht
    refine Eq.trans ?_ (congrArg some (Pulse.valueAt_concat h.chain h.last).symm)
    by_cases hprevious : t < c.previous
    · rw [h.valueAt_concat_of_lt hfirst hprevious,
        if_neg fun hin => absurd hin.1 (not_le.mpr hprevious)]
    · rw [not_lt] at hprevious
      rw [h.valueAt_concat hprevious, if_pos ht, if_pos ⟨hprevious, ht⟩]

theorem Collected.extend {p : Pulse τ α} (h : Collected base first done c)
    (hs : c.previous ≤ s.stop) (hp : c.opened = some p) (hvalue : s.value = p.value) :
    p.start < s.stop ∧
      Collected base first (done ++ [s]) ⟨c.closed, some ⟨p.start, s.stop, s.value⟩, s.stop⟩ := by
  have hstop : p.stop = c.previous := h.opened p hp
  have hpulses : c.pulses = c.closed ++ [p] := by rw [pulses, hp, Option.toList_some]
  obtain ⟨hclosed, hstart, hlt⟩ := Pulse.chain_concat.mp (hpulses ▸ h.chain)
  have hgrown : p.start < s.stop := hlt.trans_le (hstop.le.trans hs)
  refine ⟨hgrown, ?_⟩
  constructor
  case chain => exact Pulse.chain_concat.mpr ⟨hclosed, hstart, hgrown⟩
  case last => exact (Pulse.lastStop_concat _ _ _).le
  case opened =>
    intro p' hp'
    obtain rfl := Option.mem_some.mp hp'
    rfl
  case same => simp
  case count =>
    have hcount := h.count
    rw [hpulses, ← hstop, Pulse.pieces_concat] at hcount
    have hpieces := Pulse.pieces_concat first c.closed ⟨p.start, s.stop, s.value⟩
    rw [List.length_append]
    exact Nat.le_trans (Nat.le_of_eq hpieces) (Nat.le_succ_of_le hcount)
  case values =>
    intro x
    have hvalues := h.values x
    rw [hpulses] at hvalues
    simp only [pulses, Option.toList_some, List.mem_append, List.mem_singleton] at hvalues ⊢
    constructor
    · rintro ⟨q, hq | rfl, rfl⟩
      · obtain ⟨hne, s', hs', heq⟩ := hvalues.mp ⟨q, .inl hq, rfl⟩
        exact ⟨hne, s', .inl hs', heq⟩
      · obtain ⟨hne, -⟩ := (h.values p.value).mp ⟨p, hpulses ▸ by simp, rfl⟩
        exact ⟨hvalue ▸ hne, s, .inr rfl, rfl⟩
    · rintro ⟨hne, s', hs' | rfl, rfl⟩
      · obtain ⟨q, hq | rfl, heq⟩ := hvalues.mpr ⟨hne, s', hs', rfl⟩
        · exact ⟨q, .inl hq, heq⟩
        · exact ⟨_, .inr rfl, hvalue.trans heq⟩
      · exact ⟨_, .inr rfl, rfl⟩
  case stops => exact h.stops_concat hs
  case value =>
    intro t hfirst ht
    have hconcat : Pulse.valueAt base (c.closed ++ [⟨p.start, s.stop, s.value⟩]) t =
        if p.start ≤ t ∧ t < s.stop then s.value else Pulse.valueAt base c.closed t :=
      Pulse.valueAt_concat hclosed hstart
    refine Eq.trans ?_ (congrArg some hconcat.symm)
    by_cases hprevious : t < c.previous
    · rw [h.valueAt_concat_of_lt hfirst hprevious, hpulses, Pulse.valueAt_concat hclosed hstart]
      have hin : (p.start ≤ t ∧ t < p.stop) ↔ (p.start ≤ t ∧ t < s.stop) :=
        and_congr_right fun _ => iff_of_true (hstop ▸ hprevious) ht
      simp only [hin, hvalue]
    · rw [not_lt] at hprevious
      rw [h.valueAt_concat hprevious, if_pos ht,
        if_pos ⟨hlt.le.trans (hstop.le.trans hprevious), ht⟩]

/-- A span that is not empty, has the base value or goes on with the last value. -/
def FitsAt (base : α) (previous : τ) (last : Option α) (s : Span τ α) : Prop :=
  previous < s.stop ∨ s.value = base ∨ last = some s.value

/-- The spans that can be collected. -/
def Fits (base : α) (previous : τ) (last : Option α) : List (Span τ α) → Prop
  | [] => True
  | s :: l => FitsAt base previous last s ∧ Fits base s.stop (some s.value) l

theorem fits_append {last : Option α} {l l' : List (Span τ α)} :
    Fits base previous last (l ++ l') ↔ Fits base previous last l ∧
      Fits base ((l.getLast?.map (·.stop)).getD previous)
        ((l.getLast?.map (·.value)).or last) l' := by
  induction l generalizing previous last with
  | nil => simp [Fits]
  | cons s l ih =>
    rw [List.cons_append, Fits, Fits, ih, and_assoc]
    cases l with
    | nil => rfl
    | cons s' l =>
      rw [List.getLast?_cons_cons]
      cases hlast : (s' :: l).getLast? with
      | none => cases List.getLast?_eq_none_iff.mp hlast
      | some s'' => rfl

variable [DecidableEq α]

theorem collect?_of_pulse (h : Collected base first done c) (hbase : s.value ≠ base)
    (hdifferent : done.getLast?.map (·.value) ≠ some s.value)
    (hcollect : collect? base c s =
      (pulse? c.previous s.stop s.value).map (⟨c.pulses, some ·, s.stop⟩)) :
    FitsAt base c.previous (done.getLast?.map (·.value)) s ∧
        (∃ c', collect? base c s = some c' ∧ c'.previous = s.stop ∧
          Collected base first (done ++ [s]) c') ∨
      ¬ FitsAt base c.previous (done.getLast?.map (·.value)) s ∧ collect? base c s = none := by
  rw [hcollect, pulse?]
  by_cases hlt : c.previous < s.stop
  · rw [if_pos hlt]
    exact .inl ⟨.inl hlt, _, rfl, rfl, h.concat_pulse hlt hbase⟩
  · rw [if_neg hlt]
    refine .inr ⟨?_, rfl⟩
    rintro (hfits | hfits | hfits)
    · exact hlt hfits
    · exact hbase hfits
    · exact hdifferent hfits

/-- One span is collected if it fits. -/
theorem collect?_cases (h : Collected base first done c) (hs : c.previous ≤ s.stop) :
    FitsAt base c.previous (done.getLast?.map (·.value)) s ∧
        (∃ c', collect? base c s = some c' ∧ c'.previous = s.stop ∧
          Collected base first (done ++ [s]) c') ∨
      ¬ FitsAt base c.previous (done.getLast?.map (·.value)) s ∧ collect? base c s = none := by
  by_cases hbase : s.value = base
  · exact .inl ⟨.inr (.inl hbase), _, if_pos hbase, rfl, h.concat_base hs hbase⟩
  · have hsame := h.same s.value hbase
    cases hopened : c.opened with
    | none =>
      rw [hopened] at hsame
      refine collect?_of_pulse h hbase (fun hlast => nomatch hsame.mpr hlast) ?_
      simp only [collect?, if_neg hbase, hopened]
    | some p =>
      rw [hopened, Option.map_some, Option.some.injEq] at hsame
      by_cases hvalue : s.value = p.value
      · obtain ⟨hgrown, hcollected⟩ := h.extend hs hopened hvalue
        refine .inl ⟨.inr (.inr (hsame.mp hvalue.symm)), _, ?_, rfl, hcollected⟩
        simp only [collect?, if_neg hbase, hopened, if_pos hvalue, pulse?, if_pos hgrown,
          Option.map_some]
      · refine collect?_of_pulse h hbase (fun hlast => hvalue (hsame.mpr hlast).symm) ?_
        simp only [collect?, if_neg hbase, hopened, if_neg hvalue]

/-- Spans are collected if all of them fit. -/
theorem foldlM_collect? {l : List (Span τ α)} (h : Collected base first done c)
    (hl : Span.Ascends c.previous l) :
    Fits base c.previous (done.getLast?.map (·.value)) l ∧
        (∃ c', l.foldlM (collect? base) c = some c' ∧ Collected base first (done ++ l) c') ∨
      ¬ Fits base c.previous (done.getLast?.map (·.value)) l ∧
        l.foldlM (collect? base) c = none := by
  induction l generalizing c done with
  | nil => exact .inl ⟨trivial, c, rfl, by rwa [List.append_nil]⟩
  | cons s l ih =>
    obtain ⟨hs, hl⟩ := Span.ascends_cons.mp hl
    obtain ⟨hfits, c', hcollect, hprevious, hcollected⟩ | ⟨hfits, hcollect⟩ :=
      collect?_cases h hs
    · have hrest := ih hcollected (hprevious ▸ hl)
      rw [List.getLast?_concat, Option.map_some, hprevious, List.append_assoc,
        List.singleton_append] at hrest
      rw [List.foldlM_cons, hcollect, Option.bind_eq_bind, Option.bind_some]
      obtain ⟨hall, hrun⟩ | ⟨hall, hrun⟩ := hrest
      · exact .inl ⟨⟨hfits, hall⟩, hrun⟩
      · exact .inr ⟨fun hfits' => hall hfits'.2, hrun⟩
    · refine .inr ⟨fun hfits' => hfits hfits'.1, ?_⟩
      rw [List.foldlM_cons, hcollect]
      rfl

end Collector

end AioHomematic.Lib
