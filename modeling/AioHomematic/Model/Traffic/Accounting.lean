import AioHomematic.Lib.Numbered
import AioHomematic.Model.Traffic

/-!
# Every answered send is confirmed

A data point counts what was applied to it, and an event confirms one of it. The
count never exceeds the commands for the data point that are on their way to
the backend or in it (`Accounted`), as long as every applied value belongs to a
command of its own and no such command is dropped on its way (`Balanced`). Then
nothing is left of the optimistic values once every command was answered.
-/

namespace AioHomematic.Model

open Client Lib

variable {R P : Type*} [DecidableEq P]

/-! ## The count of a data point -/

namespace DataPoint

/-- The count, the optimistic value and the timer say the same. -/
structure Counted (d : DataPoint R P) : Prop where
  active : d.optimistic.isActive = true ↔ d.optimistic.pendingSends ≠ 0
  timer : d.optimistic.isActive = false → d.optimistic.timeoutHandle = false
  idle : appliesOptimistic d.info = false → d.optimistic.pendingSends = 0

namespace Counted

variable {d : DataPoint R P}

omit [DecidableEq P] in
theorem pending_of_inactive (h : Counted d) (hinactive : d.optimistic.isActive = false) :
    d.optimistic.pendingSends = 0 := by
  by_contra hpending
  rw [h.active.mpr hpending] at hinactive
  cases hinactive

omit [DecidableEq P] in
theorem applyOptimisticValue (h : Counted d) {v : Option P} (hv : v ≠ none) (now : Nat) :
    Counted (d.applyOptimisticValue v now) := by
  unfold DataPoint.applyOptimisticValue
  split
  · rename_i happlies
    refine ⟨?_, fun hinactive => ?_, fun hidle => ?_⟩
    · exact iff_of_true (Option.isSome_iff_ne_none.mpr hv) (Nat.succ_ne_zero _)
    · exact absurd (Option.isSome_iff_ne_none.mpr hv) (by simpa using hinactive)
    · exact absurd (happlies.symm.trans hidle) (by decide)
  · exact h

omit [DecidableEq P] in
theorem pendingSends_applyOptimisticValue (v : Option P) (now : Nat) :
    (d.applyOptimisticValue v now).optimistic.pendingSends =
      d.optimistic.pendingSends + if appliesOptimistic d.info then 1 else 0 := by
  unfold DataPoint.applyOptimisticValue
  split <;> rfl

theorem pendingSends_event (h : Counted d) (v : R) (t : Nat) :
    (d.event v t).optimistic.pendingSends = d.optimistic.pendingSends - 1 := by
  rw [optimistic_event, pendingSends_confirmOptimistic]
  split
  · rfl
  · rw [h.pending_of_inactive (Bool.eq_false_of_not_eq_true ‹_›)]

theorem event (h : Counted d) (v : R) (t : Nat) : Counted (d.event v t) := by
  refine ⟨?_, fun hinactive => ?_, fun hidle => ?_⟩
  · rw [h.pendingSends_event, optimistic_event, isActive_confirmOptimistic, Bool.and_eq_true,
      decide_eq_true_eq, h.active]
    omega
  · rw [optimistic_event, timeoutHandle_confirmOptimistic]
    split
    · rfl
    · rename_i hnotfinal
      apply h.timer
      rw [optimistic_event, isActive_confirmOptimistic] at hinactive
      by_contra hactive
      simp_all
  · rw [h.pendingSends_event, h.idle (by rwa [info_event] at hidle)]

omit [DecidableEq P] in
theorem pendingSends_rollback (h : Counted d) :
    d.rollbackOptimisticValue.optimistic.pendingSends = 0 := by
  cases hactive : d.optimistic.isActive with
  | true => exact (rollbackOptimisticValue_of_active hactive).2.2.1
  | false => rw [rollbackOptimisticValue_of_inactive hactive, h.pending_of_inactive hactive]

omit [DecidableEq P] in
theorem rollback (h : Counted d) : Counted d.rollbackOptimisticValue := by
  refine ⟨?_, fun _ => ?_, fun _ => h.pendingSends_rollback⟩
  · rw [isActive_rollbackOptimisticValue, h.pendingSends_rollback]
    exact iff_of_false Bool.false_ne_true (not_not_intro rfl)
  · cases hactive : d.optimistic.isActive with
    | true => exact (rollbackOptimisticValue_of_active hactive).2.2.2
    | false => rw [rollbackOptimisticValue_of_inactive hactive, h.timer hactive]

omit [DecidableEq P] in
theorem rollbackTimeout (h : Counted d) {d' : DataPoint R P} (hd : d.rollbackTimeout = some d') :
    d' = d.rollbackOptimisticValue := by
  rw [rollbackTimeout_eq hd]
  split
  · rfl
  · rename_i hinactive
    have htimer := h.timer (Bool.eq_false_of_not_eq_true hinactive)
    rw [DataPoint.rollbackTimeout, htimer] at hd
    cases hd

omit [DecidableEq P] in
/-- The tracker and the fixed part are all that counts. -/
theorem congr {d' : DataPoint R P} (h : Counted d) (hoptimistic : d'.optimistic = d.optimistic)
    (hinfo : d'.info = d.info) : Counted d' := by
  refine ⟨?_, ?_, ?_⟩
  · rw [hoptimistic]; exact h.active
  · rw [hoptimistic]; exact h.timer
  · rw [hoptimistic, hinfo]; exact h.idle

end Counted

end DataPoint

/-! ## What a collector applies and what it sends -/

namespace CallParameterCollector

variable {c : CallParameterCollector P} {dps : DataPoints R P} {dpk : DataPointKey}

/-- What was added for a data point went to different collector orders. -/
def Distinct (c : CallParameterCollector P) : Prop :=
  ∀ dpk, ∃ orders : List Int, orders.Nodup ∧ orders.length = (c.collectedFor dpk).length ∧
    ∀ o ∈ orders, dpk.parameter ∈ (c.paramset dpk.paramsetKey o dpk.channelAddress).keys

omit [DecidableEq P] in
theorem Distinct.addDataPoint (h : c.Distinct) {value : Option P} {collectorOrder : Int}
    {retry : Option Bool}
    (hnew : dpk.parameter ∉ (c.paramset dpk.paramsetKey collectorOrder dpk.channelAddress).keys) :
    (c.addDataPoint dpk value collectorOrder retry).Distinct := by
  intro dpk'
  obtain ⟨orders, hnodup, hlength, hmem⟩ := h dpk'
  have hkept : ∀ o ∈ orders, dpk'.parameter ∈ ((c.addDataPoint dpk value collectorOrder
      retry).paramset dpk'.paramsetKey o dpk'.channelAddress).keys := by
    intro o ho
    rw [paramset_addDataPoint]
    split
    · rw [Dict.keys_set]
      split
      · exact hmem o ho
      · exact List.mem_append_left _ (hmem o ho)
    · exact hmem o ho
  have hcollected : (c.addDataPoint dpk value collectorOrder retry).collectedFor dpk' =
      c.collectedFor dpk' ++ [({ dpk, value, retry } : CollectedDataPoint P)].filter
        (·.dpk = dpk') := List.filter_append ..
  by_cases hdpk : dpk = dpk'
  · subst hdpk
    refine ⟨collectorOrder :: orders, List.nodup_cons.mpr ⟨fun ho => hnew (hmem _ ho), hnodup⟩, ?_,
      ?_⟩
    · simp [hcollected, hlength]
    · intro o ho
      rcases List.mem_cons.mp ho with rfl | ho
      · rw [paramset_addDataPoint, if_pos ⟨rfl, rfl, rfl⟩, Dict.mem_keys]
        exact ⟨value, Dict.get?_set_self ..⟩
      · exact hkept o ho
  · exact ⟨orders, hnodup, by simp [hcollected, hdpk, hlength], hkept⟩

omit [DecidableEq P] in
/-- Each addition for the data point is sent with a command of its own. -/
theorem Distinct.length_le (h : c.Distinct) (dpk : DataPointKey) :
    (c.collectedFor dpk).length ≤ c.orderedParamsets.countP fun s => c.Carries s dpk := by
  obtain ⟨orders, hnodup, hlength, hmem⟩ := h dpk
  rw [← hlength]
  rcases Nat.eq_zero_or_pos orders.length with hzero | hpos
  · omega
  have hcollected : c.collectedFor dpk ≠ [] := by
    intro hnil
    rw [hlength, hnil] at hpos
    exact absurd hpos (Nat.lt_irrefl 0)
  have hsubset : orders ⊆ (c.orderedParamsets.filter fun s => c.Carries s dpk).map
      (·.collectorOrder) := by
    intro o ho
    exact List.mem_map.mpr ⟨_, List.mem_filter.mpr ⟨mem_orderedParamsets (hmem o ho),
      decide_eq_true ⟨hcollected, rfl, rfl, hmem o ho⟩⟩, rfl⟩
  have hle := (List.subperm_of_subset hnodup hsubset).length_le
  rwa [List.length_map, ← List.countP_eq_length_filter] at hle

omit [DecidableEq P] in
theorem counted_foldl_applyOptimisticValue (now : Nat) {es : List (CollectedDataPoint P)}
    (hes : ∀ e ∈ es, e.value ≠ none) {d : DataPoint R P} (hd : d.Counted) :
    let d' := es.foldl (fun d e => d.applyOptimisticValue e.value now) d
    d'.Counted ∧ d'.optimistic.pendingSends = d.optimistic.pendingSends +
      if DataPoint.appliesOptimistic d.info then es.length else 0 := by
  induction es generalizing d with
  | nil => simpa using hd
  | cons e es ih =>
    have hvalue := hes e List.mem_cons_self
    obtain ⟨hcounted, hpending⟩ :=
      ih (fun x hx => hes x (List.mem_cons_of_mem _ hx)) (hd.applyOptimisticValue hvalue now)
    refine ⟨hcounted, hpending.trans ?_⟩
    rw [DataPoint.Counted.pendingSends_applyOptimisticValue, DataPoint.info_applyOptimisticValue,
      List.length_cons]
    split <;> omega

omit [DecidableEq P] in
theorem counted_applyOptimistic (hvalues : ∀ e ∈ c.collectedDataPoints, e.value ≠ none)
    (hd : (dps dpk).Counted) (now : Nat) :
    (c.applyOptimistic now dps dpk).Counted ∧
      (c.applyOptimistic now dps dpk).optimistic.pendingSends ≤
        (dps dpk).optimistic.pendingSends + (c.collectedFor dpk).length := by
  rw [applyOptimistic_apply]
  obtain ⟨hcounted, hpending⟩ := counted_foldl_applyOptimisticValue now
    (fun e he => hvalues e (List.mem_filter.mp he).1) hd
  refine ⟨hcounted, hpending.trans_le ?_⟩
  split
  · exact Nat.le_refl _
  · omega

end CallParameterCollector

/-! ## The accounts -/

namespace Traffic

variable {x y : Traffic R P} {dpk : DataPointKey}

/-- The result raises an `Exception`. -/
def raises : Except PyException CallResult → Bool
  | .ok _ => false
  | .error exc => exc.cls.isException

/-- No value is `None`, a collector gets a data point once for each of its orders, and no command
for a data point with an optimistic value is dropped on its way, unless the data point is rolled
back. -/
def Balanced (x : Traffic R P) : Action R → Prop
  | .sendValue dpk value ctx =>
    (x.dataPoints dpk).convertForSending value ctx.doValidate ≠ some none
  | .collectValue index dpk value collectorOrder doValidate _ =>
    ∀ c ∈ x.collectors[index]?,
      ∀ converted ∈ (x.dataPoints dpk).convertForSending value doValidate,
        converted ≠ none ∧
          dpk.parameter ∉ (c.paramset dpk.paramsetKey collectorOrder dpk.channelAddress).keys
  | .ended i result =>
    ∀ call ∈ x.sends[i]?.join, ∀ dpk ∈ call.dataPoints,
      DataPoint.appliesOptimistic (x.dataPoints dpk).info = true →
        call.unsent dpk = call.kept result dpk ∨ raises result = true ∧ call.Carries dpk
  | _ => True

instance : DecidableRel (Balanced : Traffic R P → Action R → Prop)
  | _, .sendValue .. => inferInstanceAs (Decidable (_ ≠ _))
  | x, .collectValue index dpk value collectorOrder doValidate _ =>
    inferInstanceAs (Decidable (∀ c ∈ x.collectors[index]?,
      ∀ converted ∈ (x.dataPoints dpk).convertForSending value doValidate, converted ≠ none ∧
        dpk.parameter ∉ (c.paramset dpk.paramsetKey collectorOrder dpk.channelAddress).keys))
  | x, .ended i result =>
    inferInstanceAs (Decidable (∀ call ∈ x.sends[i]?.join, ∀ dpk ∈ call.dataPoints,
      DataPoint.appliesOptimistic (x.dataPoints dpk).info = true →
        call.unsent dpk = call.kept result dpk ∨ raises result = true ∧ call.Carries dpk))
  | _, .newCollector _ => .isTrue trivial
  | _, .sendData .. => .isTrue trivial
  | _, .reached _ => .isTrue trivial
  | _, .event .. => .isTrue trivial
  | _, .load .. => .isTrue trivial
  | _, .writeUnconfirmedValue .. => .isTrue trivial
  | _, .rollbackTimeout _ => .isTrue trivial

structure Accounted (x : Traffic R P) : Prop where
  key : ∀ dpk, (x.dataPoints dpk).info.dpk = dpk
  counted : ∀ dpk, (x.dataPoints dpk).Counted
  pending : ∀ dpk,
    (x.dataPoints dpk).optimistic.pendingSends ≤ x.unsent dpk + x.unanswered dpk
  values : ∀ c ∈ x.collectors, ∀ e ∈ c.collectedDataPoints, e.value ≠ none
  distinct : ∀ c ∈ x.collectors, c.Distinct

omit [DecidableEq P] in
theorem init_accounted (infos : DataPointKey → ParameterInfo R P) :
    Accounted (init infos) where
  key _ := rfl
  counted _ := ⟨iff_of_false Bool.false_ne_true (not_not_intro rfl), fun _ => rfl, fun _ => rfl⟩
  pending _ := Nat.zero_le _
  values _ hc := by cases hc
  distinct _ hc := by cases hc

/-! ### Commands on their way -/

omit [DecidableEq P] in
theorem unsent_append (dpk : DataPointKey) (call : SendCall P)
    (h : y.sends = x.sends ++ [some call]) :
    y.unsent dpk = x.unsent dpk + call.unsent dpk := by
  simp [unsent, h]

omit [DecidableEq P] in
theorem unsent_set (dpk : DataPointKey) {i : Nat} {call : SendCall P}
    (hcall : x.sends[i]? = some (some call)) {call' : Option (SendCall P)} (h : y.sends = x.sends.set i call') :
    y.unsent dpk + call.unsent dpk = x.unsent dpk + call'.elim 0 (·.unsent dpk) := by
  unfold unsent
  rw [h]
  exact sum_map_set (fun call : Option (SendCall P) => call.elim 0 (·.unsent dpk)) hcall call'

/-! ### The steps -/

namespace Accounted

omit [DecidableEq P] in
/-- One data point has changed. -/
theorem setDataPoint (hx : Accounted x) (dpk : DataPointKey) {d : DataPoint R P}
    (hkey : d.info.dpk = dpk) (hcounted : d.Counted)
    (hdps : y.dataPoints = Function.update x.dataPoints dpk d)
    (hcollectors : y.collectors = x.collectors)
    (hpending : d.optimistic.pendingSends ≤ y.unsent dpk + y.unanswered dpk)
    (hothers : ∀ dpk', dpk' ≠ dpk →
      x.unsent dpk' + x.unanswered dpk' ≤ y.unsent dpk' + y.unanswered dpk') : Accounted y := by
  have hself : y.dataPoints dpk = d := by rw [hdps, Function.update_self]
  have hother : ∀ dpk', dpk' ≠ dpk → y.dataPoints dpk' = x.dataPoints dpk' := fun dpk' hne => by
    rw [hdps, Function.update_of_ne hne]
  refine ⟨fun dpk' => ?_, fun dpk' => ?_, fun dpk' => ?_, hcollectors ▸ hx.values,
    hcollectors ▸ hx.distinct⟩ <;> by_cases hne : dpk' = dpk
  · rwa [hne, hself]
  · rw [hother dpk' hne]; exact hx.key dpk'
  · rwa [hne, hself]
  · rw [hother dpk' hne]; exact hx.counted dpk'
  · rwa [hne, hself]
  · rw [hother dpk' hne]; exact (hx.pending dpk').trans (hothers dpk' hne)

omit [DecidableEq P] in
/-- One data point has changed, and it counts no more than before. -/
theorem updateDataPoint (hx : Accounted x) {d : DataPoint R P}
    (hinfo : d.info = (x.dataPoints dpk).info) (hcounted : d.Counted)
    (hle : d.optimistic.pendingSends ≤ (x.dataPoints dpk).optimistic.pendingSends) :
    Accounted (x.setDataPoint dpk d) :=
  hx.setDataPoint dpk (by rw [hinfo]; exact hx.key dpk) hcounted rfl rfl (hle.trans (hx.pending dpk))
    fun _ _ => Nat.le_refl _

omit [DecidableEq P] in
/-- One data point has changed, but not in what counts. -/
theorem sameCount (hx : Accounted x) {d : DataPoint R P} (hinfo : d.info = (x.dataPoints dpk).info)
    (hoptimistic : d.optimistic = (x.dataPoints dpk).optimistic) :
    Accounted (x.setDataPoint dpk d) :=
  hx.updateDataPoint hinfo ((hx.counted dpk).congr hoptimistic hinfo) (by rw [hoptimistic])

theorem sendValue (hx : Accounted x) {value : R} {ctx : DataPoint.SendContext}
    {d : DataPoint R P} {request : Request (Option P)}
    (hok : Balanced x (.sendValue dpk value ctx))
    (hsend : (x.dataPoints dpk).sendValue value ctx = some (d, request)) :
    Accounted { x.setDataPoint dpk d with sends := x.sends ++ [some { send := .direct dpk }] } := by
  obtain ⟨converted, hconverted, rfl, -⟩ := DataPoint.sendValue_eq hsend
  have hne : converted ≠ none := fun h => hok (h ▸ hconverted)
  let y : Traffic R P :=
    { x.setDataPoint dpk ((x.dataPoints dpk).applyOptimisticValue converted ctx.now) with
      sends := x.sends ++ [some { send := .direct dpk }] }
  have hunsent (dpk') : y.unsent dpk' = x.unsent dpk' + if dpk' = dpk then 1 else 0 := by
    rw [unsent_append (y := y) dpk' { send := .direct dpk } rfl]
    simp [SendCall.unsent, SendCall.Carries, SendCall.later]
  refine hx.setDataPoint (y := y) dpk ?_
    ((hx.counted dpk).applyOptimisticValue hne ctx.now) rfl rfl ?_ fun dpk' _ => ?_
  · rw [DataPoint.info_applyOptimisticValue, hx.key]
  · rw [hunsent, if_pos rfl, DataPoint.Counted.pendingSends_applyOptimisticValue]
    have hpending := hx.pending dpk
    change _ ≤ _ + _ + x.unanswered dpk
    split <;> omega
  · rw [hunsent]
    change _ ≤ _ + _ + x.unanswered dpk'
    omega

omit [DecidableEq P] in
theorem sendData (hx : Accounted x) {index now : Nat} {c : CallParameterCollector P}
    (hc : x.collectors[index]? = some c)
    (hdps : y.dataPoints = c.applyOptimistic now x.dataPoints)
    (hcollectors : y.collectors = x.collectors) (hunanswered : y.unanswered = x.unanswered)
    (hunsent : ∀ dpk, y.unsent dpk =
      x.unsent dpk + c.orderedParamsets.countP fun s => c.Carries s dpk) : Accounted y := by
  have hmem := List.mem_of_getElem? hc
  have happly (dpk : DataPointKey) :=
    CallParameterCollector.counted_applyOptimistic (hx.values c hmem) (hx.counted dpk) now
  refine ⟨fun dpk => ?_, fun dpk => ?_, fun dpk => ?_, hcollectors ▸ hx.values,
    hcollectors ▸ hx.distinct⟩ <;> rw [hdps]
  · rw [CallParameterCollector.info_applyOptimistic, hx.key]
  · exact (happly dpk).1
  · have hpending := hx.pending dpk
    have happlied := (happly dpk).2
    have hsends := (hx.distinct c hmem).length_le dpk
    rw [hunsent, hunanswered]
    omega

omit [DecidableEq P] in
theorem reached (hx : Accounted x) {i : Nat} {call : SendCall P}
    (hcall : x.sends[i]? = some (some call)) :
    Accounted { x with
      sends := x.sends.set i (some { call with reached := true })
      unanswered := fun dpk => x.unanswered dpk + if call.Carries dpk then 1 else 0 } := by
  refine ⟨hx.key, hx.counted, fun dpk => (hx.pending dpk).trans ?_, hx.values, hx.distinct⟩
  have hset := unsent_set dpk (y := { x with
    sends := x.sends.set i (some { call with reached := true })
    unanswered := fun dpk => x.unanswered dpk + if call.Carries dpk then 1 else 0 }) hcall rfl
  have hafter : ({ call with reached := true } : SendCall P).unsent dpk = call.later dpk := by
    simp [SendCall.unsent, SendCall.later]
  have hbefore : call.unsent dpk ≤ call.later dpk + if call.Carries dpk then 1 else 0 := by
    unfold SendCall.unsent
    split
    · rename_i h
      rw [if_pos h.2]
      omega
    · omega
  rw [Option.elim_some, hafter] at hset
  change _ ≤ _ + (x.unanswered dpk + _)
  omega

end Accounted

omit [DecidableEq P] in
/-- A command is for one of the data points of its send. -/
theorem unsent_of_not_mem {call : SendCall P} (h : dpk ∉ call.dataPoints) : call.unsent dpk = 0 := by
  obtain ⟨send, reached⟩ := call
  cases send with
  | direct dpk' =>
    have hne : dpk ≠ dpk' := fun heq => h (List.mem_singleton.mpr heq)
    simp [SendCall.unsent, SendCall.Carries, SendCall.later, hne]
  | collected index c s rest =>
    have hnil : c.collectedFor dpk = [] := by
      refine List.filter_eq_nil_iff.mpr fun e he heq => h ?_
      exact List.mem_map.mpr ⟨e, he, of_decide_eq_true heq⟩
    simp [SendCall.unsent, SendCall.Carries, SendCall.later, CallParameterCollector.Carries, hnil]

omit [DecidableEq P] in
/-- When a call has ended, its send is left with what is still to come. -/
theorem unsent_callEnded {i : Nat} {call : SendCall P} (result : Except PyException CallResult)
    (hcall : x.sends[i]? = some (some call)) (dpk : DataPointKey) :
    (x.callEnded i result call.send).unsent dpk + call.unsent dpk =
      x.unsent dpk + call.kept result dpk := by
  have hset {y : Traffic R P} (call' : Option (SendCall P)) (hy : y.sends = x.sends.set i call')
      (hkept : call'.elim 0 (·.unsent dpk) = call.kept result dpk) :
      y.unsent dpk + call.unsent dpk = x.unsent dpk + call.kept result dpk := by
    rw [unsent_set dpk hcall hy, hkept]
  obtain ⟨send, hreached⟩ := call
  cases send with
  | direct dpk' =>
    refine hset none rfl ?_
    cases result <;> rfl
  | collected index c s rest =>
    cases result with
    | error exc => exact hset none rfl rfl
    | ok r =>
      cases rest with
      | nil => exact hset none rfl rfl
      | cons s' rest =>
        refine hset (some { send := .collected index c s' rest }) rfl ?_
        simp only [Option.elim_some, SendCall.unsent, SendCall.Carries, SendCall.kept,
          SendCall.later, List.countP_cons, decide_eq_true_eq, true_and]
        omega

omit [DecidableEq P] in
/-- When a call has raised an `Exception`, the data points of its command are rolled back. -/
theorem dataPoints_callEnded {i : Nat} {call : SendCall P} {result : Except PyException CallResult}
    (dpk : DataPointKey) :
    (x.callEnded i result call.send).dataPoints dpk =
      if raises result = true ∧ call.Carries dpk then (x.dataPoints dpk).rollbackOptimisticValue
      else x.dataPoints dpk := by
  obtain ⟨send, hreached⟩ := call
  cases send with
  | direct dpk' =>
    change Function.update x.dataPoints dpk' ((x.dataPoints dpk').sendValueEnded result) dpk = _
    by_cases hdpk : dpk = dpk'
    · subst hdpk
      rw [Function.update_self]
      cases result <;> simp [DataPoint.sendValueEnded, raises, SendCall.Carries]
    · rw [Function.update_of_ne hdpk, if_neg fun h => hdpk h.2]
  | collected index c s rest =>
    cases result with
    | ok r => cases rest <;> rfl
    | error exc =>
      change c.paramsetFailed s exc x.dataPoints dpk = _
      unfold CallParameterCollector.paramsetFailed
      by_cases hexc : exc.cls.isException = true
      · rw [if_pos hexc, CallParameterCollector.rollbackOptimisticForParamset_apply]
        simp [raises, hexc, SendCall.Carries, CallParameterCollector.Carries]
      · rw [if_neg hexc, if_neg fun h => hexc h.1]

namespace Accounted

omit [DecidableEq P] in
theorem ended (hx : Accounted x) {i : Nat} {call : SendCall P}
    {result : Except PyException CallResult} (hok : Balanced x (.ended i result))
    (hcall : x.sends[i]? = some (some call)) : Accounted (x.callEnded i result call.send) := by
  have hsame : (x.callEnded i result call.send).collectors = x.collectors ∧
      (x.callEnded i result call.send).unanswered = x.unanswered := by
    unfold callEnded
    split
    · exact ⟨rfl, rfl⟩
    · split <;> exact ⟨rfl, rfl⟩
  refine ⟨fun dpk => ?_, fun dpk => ?_, fun dpk => ?_, hsame.1 ▸ hx.values, hsame.1 ▸ hx.distinct⟩ <;>
    rw [dataPoints_callEnded] <;> split
  · rw [DataPoint.info_rollbackOptimisticValue, hx.key]
  · exact hx.key dpk
  · exact (hx.counted dpk).rollback
  · exact hx.counted dpk
  · rw [(hx.counted dpk).pendingSends_rollback]
    exact Nat.zero_le _
  · rename_i hkept
    have hunsent := unsent_callEnded result hcall dpk
    have hpending := hx.pending dpk
    rw [hsame.2]
    by_cases hmem : dpk ∈ call.dataPoints
    · cases happlies : DataPoint.appliesOptimistic (x.dataPoints dpk).info with
      | true =>
        have hbalanced := (hok call (by simp [hcall]) dpk hmem happlies).resolve_right hkept
        omega
      | false =>
        rw [(hx.counted dpk).idle happlies]
        exact Nat.zero_le _
    · rw [unsent_of_not_mem hmem] at hunsent
      omega

omit [DecidableEq P] in
theorem collectValue (hx : Accounted x) {index : Nat} {c : CallParameterCollector P} {value : R}
    {collectorOrder : Int} {doValidate : Bool} {retry : Option Bool}
    (hok : Balanced x (.collectValue index dpk value collectorOrder doValidate retry))
    (hc : x.collectors[index]? = some c) :
    Accounted { x with
      collectors := x.collectors.set index
        ((x.dataPoints dpk).collectValue value collectorOrder doValidate retry c) } := by
  have hmem := List.mem_of_getElem? hc
  have hnew : (∀ e ∈ ((x.dataPoints dpk).collectValue value collectorOrder doValidate retry
        c).collectedDataPoints, e.value ≠ none) ∧
      ((x.dataPoints dpk).collectValue value collectorOrder doValidate retry c).Distinct := by
    unfold DataPoint.collectValue
    split
    · exact ⟨hx.values c hmem, hx.distinct c hmem⟩
    · rename_i converted hconverted
      obtain ⟨hne, hfresh⟩ := hok c hc converted hconverted
      rw [hx.key]
      refine ⟨fun e he => ?_, (hx.distinct c hmem).addDataPoint hfresh⟩
      rcases List.mem_append.mp he with he | he
      · exact hx.values c hmem e he
      · rw [List.mem_singleton.mp he]
        exact hne
  refine ⟨hx.key, hx.counted, hx.pending, fun c' hc' => ?_, fun c' hc' => ?_⟩ <;>
    rcases List.mem_or_eq_of_mem_set hc' with hold | rfl
  · exact hx.values c' hold
  · exact hnew.1
  · exact hx.distinct c' hold
  · exact hnew.2

theorem event (hx : Accounted x) {value : R} {t : Nat} {answers : Bool}
    (hanswers : ¬ (answers = true ∧ x.unanswered dpk = 0)) :
    Accounted { x.setDataPoint dpk ((x.dataPoints dpk).event value t) with
      unanswered :=
        if answers then Function.update x.unanswered dpk (x.unanswered dpk - 1)
        else x.unanswered } := by
  refine hx.setDataPoint dpk ?_ ((hx.counted dpk).event value t) rfl rfl ?_ fun dpk' hne => ?_
  · rw [DataPoint.info_event, hx.key]
  · have hpending := hx.pending dpk
    rw [(hx.counted dpk).pendingSends_event]
    change _ ≤ x.unsent dpk + _
    cases answers with
    | true =>
      have hsome : x.unanswered dpk ≠ 0 := fun h => hanswers ⟨rfl, h⟩
      simp only [if_true, Function.update_self]
      omega
    | false =>
      simp only [Bool.false_eq_true, if_false]
      omega
  · change x.unsent dpk' + _ ≤ x.unsent dpk' + _
    cases answers with
    | true => simp only [if_true, Function.update_of_ne hne]; exact Nat.le_refl _
    | false => exact Nat.le_refl _

theorem step (hx : Accounted x) {a : Action R} (hok : Balanced x a) (h : x.step a = some y) :
    Accounted y := by
  cases a with
  | sendValue dpk value ctx =>
    simp only [Traffic.step] at h
    split at h
    · cases h; exact hx
    · cases h; exact hx.sendValue hok ‹_›
  | newCollector priority =>
    cases h
    refine ⟨hx.key, hx.counted, hx.pending, fun c hc => ?_, fun c hc => ?_⟩ <;>
      rcases List.mem_append.mp hc with hold | hnew
    · exact hx.values c hold
    · rw [List.mem_singleton.mp hnew]
      intro e he
      cases he
    · exact hx.distinct c hold
    · rw [List.mem_singleton.mp hnew]
      exact fun dpk => ⟨[], List.nodup_nil, rfl, fun o ho => by cases ho⟩
  | collectValue index dpk value collectorOrder doValidate retry =>
    simp only [Traffic.step] at h
    split at h
    · split at h
      · cases h
      · cases h; exact hx.collectValue hok ‹_›
    · cases h
  | sendData index now =>
    simp only [Traffic.step] at h
    split at h
    · rename_i c hc
      split at h
      · rename_i hnil
        cases h
        refine hx.sendData hc rfl rfl rfl fun dpk => ?_
        rw [hnil]
        rfl
      · rename_i s rest hcons
        cases h
        refine hx.sendData hc rfl rfl rfl fun dpk => ?_
        rw [unsent_append (x := x) dpk { send := .collected index c s rest } rfl, hcons,
          List.countP_cons]
        simp only [SendCall.unsent, SendCall.Carries, SendCall.later, true_and, decide_eq_true_eq]
        omega
    · cases h
  | reached i =>
    simp only [Traffic.step] at h
    split at h
    · cases h; exact hx.reached ‹_›
    · cases h
  | ended i result =>
    simp only [Traffic.step] at h
    split at h
    · cases h; exact hx.ended hok ‹_›
    · cases h
  | event dpk value receivedAt answers =>
    simp only [Traffic.step] at h
    split at h
    · cases h
    · cases h; exact hx.event ‹_›
  | load dpk value writeAt =>
    cases h
    exact hx.sameCount (DataPoint.info_writeValue ..) (DataPoint.optimistic_writeValue ..)
  | writeUnconfirmedValue dpk value writeAt =>
    cases h
    exact hx.sameCount (DataPoint.info_writeUnconfirmedValue ..)
      (DataPoint.optimistic_writeUnconfirmedValue ..)
  | rollbackTimeout dpk =>
    obtain ⟨d, hd, rfl⟩ := Option.map_eq_some_iff.mp h
    rw [(hx.counted dpk).rollbackTimeout hd]
    refine hx.updateDataPoint (DataPoint.info_rollbackOptimisticValue _)
      (hx.counted dpk).rollback ?_
    rw [(hx.counted dpk).pendingSends_rollback]
    exact Nat.zero_le _

end Accounted

variable {infos : DataPointKey → ParameterInfo R P}

/-- **Confirmation accounting**: in balanced runs, once every command for a data point has reached
the backend and was answered with an event, nothing is left of its optimistic values, and no
rollback timer can fire. -/
theorem confirmed_when_answered (hreach : (system infos).Reach Balanced x)
    (hunsent : x.unsent dpk = 0) (hanswered : x.unanswered dpk = 0) :
    (x.dataPoints dpk).isOptimistic = false ∧
      (x.dataPoints dpk).optimistic.pendingSends = 0 ∧
      (x.dataPoints dpk).rollbackTimeout = none := by
  have hx : Accounted x :=
    hreach.invariant (init_accounted infos) fun _ _ _ hx hok hstep => hx.step hok hstep
  have hpending : (x.dataPoints dpk).optimistic.pendingSends = 0 := by
    have := hx.pending dpk
    omega
  have hinactive : (x.dataPoints dpk).optimistic.isActive = false := by
    by_contra hactive
    exact (hx.counted dpk).active.mp (Bool.eq_true_of_not_eq_false hactive) hpending
  refine ⟨hinactive, hpending, ?_⟩
  rw [DataPoint.rollbackTimeout, (hx.counted dpk).timer hinactive]
  rfl

/-! ## One level, sent directly and collected -/

def sampleLevel : DataPointKey := ⟨"CCU-HmIP-RF", "VCU1:3", .values, "LEVEL"⟩

def sampleInfos : DataPointKey → ParameterInfo Nat Nat := fun dpk => { dpk, convertValue := some }

/-- A direct send and a collected one overlap, and both are answered. -/
def sampleAnswered : List (Action Nat) :=
  [.sendValue sampleLevel 50 {}, .newCollector none,
    .collectValue 0 sampleLevel 60 50 true none, .sendData 0 1, .reached 0, .reached 1,
    .event sampleLevel 50 10 true, .ended 0 (.ok .sent), .ended 1 (.ok .sent),
    .event sampleLevel 60 11 true]

/-- A value is collected twice for the same collector order and sent with one command. -/
def sampleMerged : List (Action Nat) :=
  [.newCollector none, .collectValue 0 sampleLevel 50 50 true none,
    .collectValue 0 sampleLevel 60 50 true none, .sendData 0 1, .reached 0,
    .ended 0 (.ok .sent), .event sampleLevel 60 10 true]

theorem confirmed_when_answered_overlap :
    ∃ x, (system sampleInfos).replay Balanced (init sampleInfos) sampleAnswered = some x ∧
      (x.dataPoints sampleLevel).isOptimistic = false ∧
      (x.dataPoints sampleLevel).rollbackTimeout = none := by
  obtain ⟨x, hx, hunsent, hanswered⟩ := StepSystem.replay_any
    (p := fun x : Traffic Nat Nat => x.unsent sampleLevel = 0 ∧ x.unanswered sampleLevel = 0)
    (show ((system sampleInfos).replay Balanced (init sampleInfos) sampleAnswered).any _ = true by
      decide)
  obtain ⟨hinactive, -, htimer⟩ :=
    confirmed_when_answered (StepSystem.reach_of_replay hx) hunsent hanswered
  exact ⟨x, hx, hinactive, htimer⟩

/-- The one command was answered, and the data point still waits for a confirmation. -/
theorem confirmed_when_answered_merged :
    ∃ x, (system sampleInfos).Reach StepSystem.Free x ∧ x.unsent sampleLevel = 0 ∧
      x.unanswered sampleLevel = 0 ∧ (x.dataPoints sampleLevel).isOptimistic = true ∧
      (x.dataPoints sampleLevel).optimistic.pendingSends = 1 := by
  obtain ⟨x, hx, htest⟩ := StepSystem.replay_any
    (p := fun x : Traffic Nat Nat => x.unsent sampleLevel = 0 ∧ x.unanswered sampleLevel = 0 ∧
      (x.dataPoints sampleLevel).isOptimistic = true ∧
      (x.dataPoints sampleLevel).optimistic.pendingSends = 1)
    (show ((system sampleInfos).replay StepSystem.Free (init sampleInfos) sampleMerged).any _ =
      true by decide)
  exact ⟨x, StepSystem.reach_of_replay hx, htest⟩

end Traffic

end AioHomematic.Model
