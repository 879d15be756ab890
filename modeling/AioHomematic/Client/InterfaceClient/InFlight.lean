import AioHomematic.Client.InterfaceClient.Sends

/-!
# Values in flight

The in-flight map against the sends that it is about. `Observed` keeps the
order in which the calls were staged, which the client itself does not; `sends`
are the values of the sends under way for a key in that order, and the last of
them is what the map has to hold.

A send that ends clears the keys that hold its own value. It may be the value
of another send that is still under way, and where a later send had overwritten
the value of an earlier one, the earlier one is not put back. So a send may end
with its value in the map only when no other is under way (`EndsAlone`).
-/

namespace AioHomematic.Client.InterfaceClient

open Lib StepSystem

variable {V : Type*} {cfg : Config} {s t : InterfaceClient V} {a : Action V} {r : Request V}
  {k : DataPointKey} {i j : Nat} {v : V}

/-- The calls that the step from `s` to `t` has staged. -/
def newlyStaged (s t : InterfaceClient V) : List Nat :=
  (List.range t.calls.length).filter fun i => t.isStaged i && !s.isStaged i

structure Observed (V : Type*) where
  client : InterfaceClient V
  /-- The calls in the order in which they were staged. -/
  staged : List Nat := []

namespace Observed

variable {o o' : Observed V}

/-- The values of the sends under way for `k`, in the order in which they were staged. -/
def sends (cfg : Config) (o : Observed V) (k : DataPointKey) : List V :=
  o.staged.filterMap fun i => (o.client.underWay i).bind fun r => sentValue cfg r k

/-- Where the map holds what the call `i` sends, no other send is under way for that key. -/
def Alone (cfg : Config) (o : Observed V) (i : Nat) (r : Request V) : Prop :=
  ∀ p ∈ r.parameters, ∀ v ∈ sentValue cfg r (dataPointKey cfg r p),
    o.client.inFlight.get? (dataPointKey cfg r p) = some v →
    ∀ j ∈ o.staged, j ≠ i →
      ((o.client.underWay j).bind fun r' => sentValue cfg r' (dataPointKey cfg r p)).isNone

theorem alone_iff : o.Alone cfg i r ↔ ∀ k v, sentValue cfg r k = some v →
    o.client.inFlight.get? k = some v → ∀ j ∈ o.staged, j ≠ i →
      ((o.client.underWay j).bind fun r' => sentValue cfg r' k) = none := by
  constructor
  · intro h k v hv hget j hj hne
    obtain ⟨hp, hk⟩ := sentValue_eq_some hv
    have hnone := h k.parameter hp v (by rw [hk]; exact hv) (by rw [hk]; exact hget) j hj hne
    rw [hk] at hnone
    exact Option.isNone_iff_eq_none.mp hnone
  · intro h p _ v hv hget j hj hne
    exact Option.isNone_iff_eq_none.mpr (h _ v hv hget j hj hne)

/-- The map holds for every key the value staged last among the sends under way. -/
def Right (cfg : Config) (o : Observed V) : Prop :=
  ∀ k, o.client.inFlight.get? k = (o.sends cfg k).getLast?

/-- `staged` lists the staged calls. -/
structure Tracks (o : Observed V) : Prop where
  nodup : o.staged.Nodup
  mem : ∀ i, i ∈ o.staged ↔ o.client.isStaged i = true

/-! ## Sends that start -/

theorem newlyStaged_nil (h : ∀ i, t.isStaged i = s.isStaged i) : newlyStaged s t = [] := by
  refine List.filter_eq_nil_iff.mpr fun i _ => ?_
  rw [h i]
  cases s.isStaged i <;> decide

theorem newlyStaged_starts (h : Starts cfg s t i r) : newlyStaged s t = [i] := by
  have hp (j : Nat) : (t.isStaged j && !s.isStaged j) = true ↔ j = i := by
    by_cases hj : j = i
    · subst hj
      rw [h.staged, h.before]
      exact iff_of_true rfl rfl
    · rw [(h.others j hj).1]
      refine iff_of_false ?_ hj
      cases s.isStaged j <;> decide
  have hlt : i < t.calls.length := by
    obtain ⟨c, hc, -⟩ := (Option.any_eq_true _ _).mp h.staged
    exact (List.getElem?_eq_some_iff.mp hc).1
  unfold newlyStaged
  rw [filter_range hp, if_pos hlt]

theorem same_right (hright : Right cfg o) (hsame : Same o.client t) :
    Right cfg { client := t, staged := o.staged } := by
  intro k
  have hsends : sends cfg { client := t, staged := o.staged } k = o.sends cfg k := by
    simp only [sends, hsame.active]
  rw [hsends]
  dsimp only
  rw [hsame.inFlight, hright k]

theorem Tracks.unstaged (h : Tracks o) (hstarts : Starts cfg o.client t i r) (hj : j ∈ o.staged) :
    j ≠ i := by
  rintro rfl
  have hstaged := (h.mem j).mp hj
  rw [hstarts.before] at hstaged
  cases hstaged

theorem starts_right (h : Tracks o) (hright : Right cfg o) (hstarts : Starts cfg o.client t i r) :
    Right cfg { client := t, staged := o.staged ++ [i] } := by
  intro k
  have hsends : sends cfg { client := t, staged := o.staged ++ [i] } k =
      o.sends cfg k ++ (sentValue cfg r k).toList := by
    unfold sends
    rw [List.filterMap_append]
    congr 1
    · refine List.filterMap_congr fun j hj => ?_
      dsimp only
      rw [(hstarts.others j (h.unstaged hstarts hj)).2]
    · dsimp only
      rw [List.filterMap_cons, List.filterMap_nil, hstarts.active, Option.bind_some]
      cases sentValue cfg r k <;> rfl
  rw [hsends]
  dsimp only
  rw [hstarts.inFlight, get?_stageInFlight, hright k, List.getLast?_append]
  cases sentValue cfg r k <;> rfl

variable [DecidableEq V]

/-! ## Sends that end -/

/-- A send that was staged before is over; `sent` is its value, `A` and `B` those of the sends
staged before and after it. -/
theorem cleared_eq_getLast? {sent : Option V} {A B : List V} :
    cleared sent (A ++ sent.toList ++ B).getLast? = (A ++ B).getLast? ↔
      ∀ v, sent = some v → (A ++ sent.toList ++ B).getLast? = some v → A = [] ∧ B = [] := by
  cases sent with
  | none =>
    rw [cleared_none, Option.toList_none, List.append_nil]
    exact iff_of_true rfl nofun
  | some v =>
    unfold cleared
    rcases List.eq_nil_or_concat B with rfl | ⟨B, w, rfl⟩
    · rw [Option.toList_some, List.append_nil, List.append_nil, List.getLast?_concat, if_pos rfl]
      constructor
      · intro hA _ _ _
        exact ⟨List.getLast?_eq_none_iff.mp hA.symm, rfl⟩
      · intro h
        rw [(h v rfl rfl).1]
        rfl
    · rw [List.concat_eq_append, ← List.append_assoc, ← List.append_assoc, List.getLast?_concat,
        List.getLast?_concat]
      split
      · rename_i hw
        refine iff_of_false nofun fun h => ?_
        have hB := (h v rfl hw).2
        simp at hB
      · rename_i hw
        refine iff_of_true rfl fun v' hv' hw' => ?_
        cases hv'
        exact absurd hw' hw

theorem ends_right (h : Tracks o) (hright : Right cfg o) (hi : i ∈ o.staged)
    (hends : Ends cfg o.client t i r) :
    Right cfg { client := t, staged := o.staged } ↔ o.Alone cfg i r := by
  obtain ⟨A, B, hAB⟩ := List.append_of_mem hi
  have hne {j : Nat} (hj : j ∈ A ++ B) : j ≠ i := by
    have hnodup := h.nodup
    rw [hAB] at hnodup
    rintro rfl
    exact (List.nodup_middle.mp hnodup).notMem hj
  let sent (k : DataPointKey) (j : Nat) : Option V :=
    (o.client.underWay j).bind fun r => sentValue cfg r k
  have hbefore (k : DataPointKey) : o.sends cfg k =
      A.filterMap (sent k) ++ (sentValue cfg r k).toList ++ B.filterMap (sent k) := by
    unfold sends
    rw [hAB, List.filterMap_append, List.filterMap_cons, hends.before, Option.bind_some]
    cases sentValue cfg r k <;> simp [sent]
  have hafter (k : DataPointKey) : sends cfg { client := t, staged := o.staged } k =
      A.filterMap (sent k) ++ B.filterMap (sent k) := by
    have hsame {j : Nat} (hj : j ∈ A ++ B) :
        ((t.underWay j).bind fun r => sentValue cfg r k) = sent k j := by
      rw [hends.others j (hne hj)]
    unfold sends
    dsimp only
    rw [hAB, List.filterMap_append, List.filterMap_cons, hends.active, Option.bind_none,
      List.filterMap_congr fun j hj => hsame (List.mem_append_left B hj),
      List.filterMap_congr fun j hj => hsame (List.mem_append_right A hj)]
  have hothers (k : DataPointKey) : (A.filterMap (sent k) = [] ∧ B.filterMap (sent k) = []) ↔
      ∀ j ∈ o.staged, j ≠ i → sent k j = none := by
    rw [List.filterMap_eq_nil_iff, List.filterMap_eq_nil_iff, hAB]
    constructor
    · rintro ⟨hA, hB⟩ j hj hji
      rcases List.mem_append.mp hj with hj | hj
      · exact hA j hj
      · exact hB j ((List.mem_cons.mp hj).resolve_left hji)
    · intro hall
      exact ⟨fun j hj => hall j (List.mem_append_left _ hj) (hne (List.mem_append_left B hj)),
        fun j hj => hall j (List.mem_append_right _ (List.mem_cons_of_mem i hj))
          (hne (List.mem_append_right A hj))⟩
  rw [alone_iff]
  refine forall_congr' fun k => ?_
  dsimp only
  rw [hafter k, hends.inFlight, get?_clearInFlight, hright k, hbefore k, cleared_eq_getLast?]
  refine forall_congr' fun v => forall_congr' fun _ => forall_congr' fun _ => ?_
  exact hothers k

/-! ## The step system -/

def step (cfg : Config) (o : Observed V) (a : Action V) : Option (Observed V) :=
  (InterfaceClient.step cfg o.client a).map fun t =>
    { client := t, staged := o.staged ++ newlyStaged o.client t }

def system (cfg : Config) : StepSystem (Observed V) (Action V) where
  init := { client := init cfg }
  step := step cfg

instance (cfg : Config) (o : Observed V) (i : Nat) (r : Request V) :
    Decidable (o.Alone cfg i r) :=
  inferInstanceAs (Decidable (∀ p ∈ r.parameters, ∀ v ∈ sentValue cfg r (dataPointKey cfg r p),
    o.client.inFlight.get? (dataPointKey cfg r p) = some v → ∀ j ∈ o.staged, j ≠ i →
      ((o.client.underWay j).bind fun r' => sentValue cfg r' (dataPointKey cfg r p)).isNone))

/-- A send that the step ends is alone. -/
def EndsAlone (cfg : Config) (o : Observed V) (a : Action V) : Prop :=
  ∀ t ∈ InterfaceClient.step cfg o.client a, ∀ i ∈ o.staged, ∀ r ∈ o.client.underWay i,
    (t.underWay i).isNone → o.Alone cfg i r

instance (cfg : Config) : DecidableRel (EndsAlone cfg : Observed V → Action V → Prop) :=
  fun o a => inferInstanceAs (Decidable (∀ t ∈ InterfaceClient.step cfg o.client a,
    ∀ i ∈ o.staged, ∀ r ∈ o.client.underWay i, (t.underWay i).isNone → o.Alone cfg i r))

/-- Nothing but the end of a send concerns the condition. -/
theorem endsAlone_of_kept (ht : InterfaceClient.step cfg o.client a = some t)
    (hkept : ∀ i ∈ o.staged, t.underWay i = o.client.underWay i) : EndsAlone cfg o a := by
  intro t' ht' i hi r hr hnone
  rw [Option.mem_def, ht] at ht'
  cases ht'
  rw [hkept i hi, hr] at hnone
  cases hnone

theorem endsAlone_iff (ht : InterfaceClient.step cfg o.client a = some t) (hi : i ∈ o.staged)
    (hends : Ends cfg o.client t i r) : EndsAlone cfg o a ↔ o.Alone cfg i r := by
  constructor
  · intro hok
    exact hok t ht i hi r hends.before (Option.isNone_iff_eq_none.mpr hends.active)
  · intro halone t' ht' j hj r' hr' hnone
    rw [Option.mem_def, ht] at ht'
    cases ht'
    by_cases hji : j = i
    · subst hji
      rw [Option.mem_def, hends.before] at hr'
      cases hr'
      exact halone
    · rw [hends.others j hji, hr'] at hnone
      cases hnone

theorem Tracks.step (h : Tracks o) (hstep : step cfg o a = some o') : Tracks o' := by
  obtain ⟨t, ht, rfl⟩ := Option.map_eq_some_iff.mp hstep
  cases step_effect ht with
  | same hsame =>
    rw [newlyStaged_nil hsame.staged, List.append_nil]
    exact ⟨h.nodup, fun i => (h.mem i).trans (by rw [hsame.staged])⟩
  | starts i r hstarts =>
    rw [newlyStaged_starts hstarts]
    refine ⟨List.nodup_append.mpr ⟨h.nodup, List.nodup_singleton i, fun j hj j' hj' => ?_⟩,
      fun j => ?_⟩
    · rw [List.mem_singleton.mp hj']
      exact h.unstaged hstarts hj
    · by_cases hj : j = i
      · subst hj
        exact iff_of_true (List.mem_append_right _ (List.mem_singleton_self j)) hstarts.staged
      · rw [(hstarts.others j hj).1, ← h.mem j, List.mem_append, List.mem_singleton]
        exact or_iff_left hj
  | ends i r hends =>
    rw [newlyStaged_nil hends.staged, List.append_nil]
    exact ⟨h.nodup, fun j => (h.mem j).trans (by rw [hends.staged])⟩

/-- A step leaves the map right exactly if a send that it ends is alone. -/
theorem step_right (h : Tracks o) (hright : Right cfg o) (hstep : step cfg o a = some o') :
    Right cfg o' ↔ EndsAlone cfg o a := by
  obtain ⟨t, ht, rfl⟩ := Option.map_eq_some_iff.mp hstep
  cases step_effect ht with
  | same hsame =>
    rw [newlyStaged_nil hsame.staged, List.append_nil]
    exact iff_of_true (same_right hright hsame) (endsAlone_of_kept ht fun i _ => hsame.active i)
  | starts i r hstarts =>
    rw [newlyStaged_starts hstarts]
    exact iff_of_true (starts_right h hright hstarts)
      (endsAlone_of_kept ht fun j hj => (hstarts.others j (h.unstaged hstarts hj)).2)
  | ends i r hends =>
    have hi : i ∈ o.staged := (h.mem i).mpr (isStaged_of_underWay hends.before)
    rw [newlyStaged_nil hends.staged, List.append_nil, endsAlone_iff ht hi hends]
    exact ends_right h hright hi hends

theorem reach_right (hreach : (system cfg).Reach (EndsAlone cfg) o) : Tracks o ∧ Right cfg o :=
  hreach.invariant (P := fun o => Tracks o ∧ Right cfg o)
    ⟨⟨List.nodup_nil, fun i => by simp [system, init, isStaged]⟩, fun k => rfl⟩
    fun _ _ _ hs ho hstep => ⟨hs.1.step hstep, (step_right hs.1 hs.2 hstep).mpr ho⟩

/-- **The in-flight map**: in runs where a send ends with its value in the map only when no other
one is under way for that key, the map holds a value for a key if and only if some send of the key
is under way, and it is the value that was staged last among these. -/
theorem in_flight (hreach : (system cfg).Reach (EndsAlone cfg) o) (k : DataPointKey) :
    (o.client.inFlight.get? k ≠ none ↔
      ∃ i r, o.client.underWay i = some r ∧ sentValue cfg r k ≠ none) ∧
    o.client.inFlight.get? k = (o.sends cfg k).getLast? := by
  obtain ⟨htracks, hright⟩ := reach_right hreach
  refine ⟨?_, hright k⟩
  rw [hright k, ne_eq, List.getLast?_eq_none_iff, sends, List.filterMap_eq_nil_iff]
  constructor
  · intro hnot
    obtain ⟨i, hnot⟩ := not_forall.mp hnot
    obtain ⟨-, hsent⟩ := Classical.not_imp.mp hnot
    obtain ⟨v, hv⟩ := Option.ne_none_iff_exists'.mp hsent
    obtain ⟨r, hr, hrv⟩ := Option.bind_eq_some_iff.mp hv
    exact ⟨i, r, hr, by rw [hrv]; nofun⟩
  · rintro ⟨i, r, hr, hsent⟩ hall
    have hnone := hall i ((htracks.mem i).mpr (isStaged_of_underWay hr))
    rw [hr] at hnone
    exact hsent hnone

/-! ## Overlapping sends -/

/-- Two values for one data point; the older send ends first. -/
def sampleSends (first second : Nat) : List (Action Nat) :=
  [.setValue "VCU1:4" .values "LEVEL" first none [] true none 1000 1000,
    .setValue "VCU1:4" .values "LEVEL" second none [] true none 1010 1010,
    .operationEnded 0 (.ok ())]

def sampleClient : Config where
  interfaceId := "hub-HmIP-RF"
  throttle := { interval := 0, burstWindow := 500 }

def sampleLevel : DataPointKey where
  interfaceId := "hub-HmIP-RF"
  channelAddress := "VCU1:4"
  paramsetKey := .values
  parameter := "LEVEL"

theorem in_flight_overlapping :
    ∃ o, (system sampleClient).replay (EndsAlone sampleClient)
        (system sampleClient).init (sampleSends 50 70) = some o ∧
      o.client.inFlight.get? sampleLevel = some 70 := by
  obtain ⟨o, ho, hsends⟩ := StepSystem.replay_any
    (p := fun o : Observed Nat => o.sends sampleClient sampleLevel = [70])
    (show ((system sampleClient).replay (EndsAlone sampleClient)
      (system sampleClient).init (sampleSends 50 70)).any _ = true by decide)
  refine ⟨o, ho, ?_⟩
  rw [(in_flight (reach_of_replay ho) sampleLevel).2, hsends]
  rfl

/-- Two equal sends overlap: the first that ends takes the value of the other with it. -/
theorem in_flight_equal :
    ∃ o, (system sampleClient).Reach StepSystem.Free o ∧
      o.client.inFlight.get? sampleLevel = none ∧ o.sends sampleClient sampleLevel = [50] := by
  obtain ⟨o, ho, hget⟩ := StepSystem.replay_any
    (p := fun o : Observed Nat => o.client.inFlight.get? sampleLevel = none ∧
      o.sends sampleClient sampleLevel = [50])
    (show ((system sampleClient).replay StepSystem.Free
      (system sampleClient).init (sampleSends 50 50)).any _ = true by decide)
  exact ⟨o, reach_of_replay ho, hget⟩

end Observed

end AioHomematic.Client.InterfaceClient
