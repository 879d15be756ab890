import Mathlib.Data.List.Range
import Mathlib.Logic.Relation
import AioHomematic.Central.RpcServer

/-!
# The way of the event calls

A call is answered, waits for its task to start, is handed on and published, the
value perhaps after the status; and each handler of an event is called. `Move`
says what a step can do to these lists, and `Kept` what every move keeps.
-/

namespace AioHomematic.Central

variable {V H : Type*}

/-! ## Published events -/

section Published

variable {published : List (ReceivedEvent V)} {call : EventCall V} {type : ReceivedEventType}
  {key : DataPointKey}

theorem mem_publishedUnder : call ∈ publishedUnder published type key ↔
    ∃ event ∈ published, event.type = type ∧ event.key = some key ∧ event.value = call := by
  simp [publishedUnder, and_assoc]

theorem publishedUnder_concat (event : ReceivedEvent V) :
    publishedUnder (published ++ [event]) type key =
      publishedUnder published type key ++ publishedUnder [event] type key := by
  rw [publishedUnder, List.filter_append, List.map_append]
  rfl

@[simp] theorem publishedUnder_valueEvent :
    publishedUnder [call.valueEvent] .dataPointValueReceived key =
      [call].filter fun call => call.dpk = key := by
  by_cases h : call.dpk = key
  · simp [publishedUnder, EventCall.valueEvent, h]
  · simp [publishedUnder, EventCall.valueEvent, h]

@[simp] theorem publishedUnder_valueEvent_status :
    publishedUnder [call.valueEvent] .dataPointStatusReceived key = [] := by
  simp [publishedUnder, EventCall.valueEvent]

@[simp] theorem publishedUnder_statusEvent :
    publishedUnder [call.statusEvent] .dataPointStatusReceived key =
      [call].filter fun call => call.mainDpk = key := by
  by_cases h : call.mainDpk = key
  · simp [publishedUnder, EventCall.statusEvent, h]
  · simp [publishedUnder, EventCall.statusEvent, h]

@[simp] theorem publishedUnder_statusEvent_value :
    publishedUnder [call.statusEvent] .dataPointValueReceived key = [] := by
  simp [publishedUnder, EventCall.statusEvent]

end Published

/-! ## Moves -/

/-- The event calls on their way. -/
structure Flow (V H : Type*) where
  answered : List (Answered V)
  waiting : List (EventCall V)
  entered : List (EventCall V)
  held : List (EventCall V)
  published : List (ReceivedEvent V)
  /-- The calls of handlers that are still to start. -/
  queued : List (ReceivedEventCall V H)
  handled : List (ReceivedEventCall V H)

namespace Flow

def publish (f : Flow V H) (handlers : List (PrioritizedHandler H)) (event : ReceivedEvent V) :
    Flow V H :=
  { f with
    published := f.published ++ [event]
    queued := f.queued ++ handlers.map fun ph => (ph, event) }

inductive Move (hasClient : String → Bool) : Flow V H → Flow V H → Prop where
  | answer {f : Flow V H} {a : Answered V} (hnumber : a.call.number = f.answered.length)
      (haccepted : a.accepted hasClient = false) :
      Move hasClient f { f with answered := f.answered ++ [a] }
  | accept {f : Flow V H} {a : Answered V} (hnumber : a.call.number = f.answered.length)
      (haccepted : a.accepted hasClient = true) :
      Move hasClient f { f with answered := f.answered ++ [a], waiting := f.waiting ++ [a.call] }
  | skip {f : Flow V H} {call : EventCall V} {waiting : List (EventCall V)}
      (hwaiting : f.waiting = call :: waiting) (hpublishes : call.publishes hasClient = false) :
      Move hasClient f { f with waiting, entered := f.entered ++ [call] }
  | value {f : Flow V H} {call : EventCall V} {waiting : List (EventCall V)}
      (hwaiting : f.waiting = call :: waiting) (hpublishes : call.publishes hasClient = true)
      (hstatus : EventCall.isStatus call.parameter = false)
      (handlers : List (PrioritizedHandler H)) :
      Move hasClient f
        ({ f with waiting, entered := f.entered ++ [call] }.publish handlers call.valueEvent)
  | status {f : Flow V H} {call : EventCall V} {waiting : List (EventCall V)}
      (hwaiting : f.waiting = call :: waiting) (hpublishes : call.publishes hasClient = true)
      (hstatus : EventCall.isStatus call.parameter = true)
      (handlers : List (PrioritizedHandler H)) :
      Move hasClient f
        ({ f with waiting, entered := f.entered ++ [call], held := f.held ++ [call] }.publish
          handlers call.statusEvent)
  | release {f : Flow V H} {call : EventCall V} {held : List (EventCall V)}
      (hheld : f.held.Perm (call :: held)) (handlers : List (PrioritizedHandler H)) :
      Move hasClient f ({ f with held }.publish handlers call.valueEvent)
  | rearrange {f : Flow V H} {held : List (EventCall V)} (hheld : f.held.Perm held) :
      Move hasClient f { f with held }
  | handle {f : Flow V H} {call : ReceivedEventCall V H} {queued : List (ReceivedEventCall V H)}
      (hqueued : f.queued = call :: queued) :
      Move hasClient f { f with queued, handled := f.handled ++ [call] }

abbrev Moves (hasClient : String → Bool) : Flow V H → Flow V H → Prop :=
  Relation.ReflTransGen (Move hasClient)

/-! ## Invariants -/

/-- Calls of handlers follow the order of the events. -/
structure Ordered (published : List (ReceivedEvent V)) (calls : List (ReceivedEventCall V H)) :
    Prop where
  forms : ∀ event ∈ published, event = event.value.statusEvent ∨ event = event.value.valueEvent
  known : ∀ call ∈ calls, call.2 ∈ published
  handlers : calls.Pairwise InOrder

structure Kept (hasClient : String → Bool) (f : Flow V H) : Prop where
  ordered : Ordered f.published (f.handled ++ f.queued)
  handed : f.entered ++ f.waiting = accepted hasClient f.answered
  numbers : (f.answered.map fun a => a.call.number) = List.range f.answered.length
  statusHeld : ∀ call ∈ f.held, EventCall.isStatus call.parameter = true
  values : ∀ key, EventCall.isStatus key.parameter = false →
    publishedUnder f.published .dataPointValueReceived key =
      f.entered.filter fun call => call.publishes hasClient ∧ call.dpk = key
  statuses : ∀ key, publishedUnder f.published .dataPointStatusReceived key =
    f.entered.filter fun call =>
      call.publishes hasClient ∧ EventCall.isStatus call.parameter ∧ call.mainDpk = key
  statusValues : ∀ key, (publishedUnder f.published .dataPointValueReceived key ++
    f.held.filter (·.dpk = key)).Perm
      (f.entered.filter fun call => call.publishes hasClient ∧ call.dpk = key)

variable {hasClient : String → Bool} {f g : Flow V H} {call : EventCall V}

/-- An event is published that is later than those of its type and key. -/
theorem Ordered.publish {published : List (ReceivedEvent V)}
    {handled queued : List (ReceivedEventCall V H)} (h : Ordered published (handled ++ queued))
    {event : ReceivedEvent V}
    (hform : event = event.value.statusEvent ∨ event = event.value.valueEvent)
    (hlater : ∀ earlier ∈ published, earlier.type = event.type → earlier.key = event.key →
      (earlier.type = .dataPointValueReceived →
        EventCall.isStatus earlier.value.parameter = false) →
        earlier.value.number ≤ event.value.number) (handlers : List (PrioritizedHandler H)) :
    Ordered (published ++ [event]) (handled ++ (queued ++ handlers.map fun ph => (ph, event))) := by
  rw [← List.append_assoc]
  refine ⟨fun earlier hearlier => ?_, fun c hc => ?_, ?_⟩
  · rcases List.mem_append.mp hearlier with hearlier | hearlier
    · exact h.forms earlier hearlier
    · rw [List.mem_singleton.mp hearlier]
      exact hform
  · rcases List.mem_append.mp hc with hc | hc
    · exact List.mem_append_left _ (h.known c hc)
    · obtain ⟨ph, -, rfl⟩ := List.mem_map.mp hc
      exact List.mem_append_right _ (List.mem_singleton.mpr rfl)
  · rw [List.pairwise_append]
    refine ⟨h.handlers, ?_, fun a ha b hb => ?_⟩
    · rw [List.pairwise_map]
      exact List.pairwise_of_forall fun _ _ _ _ _ => Nat.le_refl _
    · obtain ⟨ph, -, rfl⟩ := List.mem_map.mp hb
      exact hlater a.2 (h.known a ha)

theorem Kept.numbers_lt (h : f.Kept hasClient) (hmem : call ∈ accepted hasClient f.answered) :
    call.number < f.answered.length := by
  obtain ⟨a, ha, rfl⟩ := List.mem_map.mp hmem
  have hrange := List.mem_map_of_mem (f := fun a : Answered V => a.call.number)
    (List.mem_filter.mp ha).1
  rw [h.numbers] at hrange
  exact List.mem_range.mp hrange

/-- The calls are handed on in the order of their numbers. -/
theorem Kept.sorted (h : f.Kept hasClient) :
    (f.entered ++ f.waiting).Pairwise fun a b => a.number < b.number := by
  have hall : (f.answered.map fun a => a.call.number).Pairwise (· < ·) := by
    rw [h.numbers]
    exact List.pairwise_lt_range
  rw [h.handed, accepted, List.pairwise_map]
  exact (List.pairwise_map.mp hall).sublist List.filter_sublist

theorem Kept.earlier (h : f.Kept hasClient) {waiting : List (EventCall V)}
    (hwaiting : f.waiting = call :: waiting) {earlier : EventCall V}
    (hentered : earlier ∈ f.entered) : earlier.number ≤ call.number := by
  have hsorted := h.sorted
  rw [hwaiting, List.pairwise_append] at hsorted
  exact Nat.le_of_lt (hsorted.2.2 earlier hentered call List.mem_cons_self)

theorem Kept.enter (h : f.Kept hasClient) {waiting : List (EventCall V)}
    (hwaiting : f.waiting = call :: waiting) :
    f.entered ++ [call] ++ waiting = accepted hasClient f.answered := by
  rw [List.append_assoc, List.singleton_append, ← hwaiting]
  exact h.handed

theorem accepted_concat (answered : List (Answered V)) (a : Answered V) :
    accepted hasClient (answered ++ [a]) =
      accepted hasClient answered ++ if a.accepted hasClient then [a.call] else [] := by
  rw [accepted, List.filter_append, List.map_append, accepted]
  congr 1
  cases ha : a.accepted hasClient with
  | true => simp [ha]
  | false => simp [ha]

theorem filter_publishes (hpublishes : call.publishes hasClient = true)
    (q : EventCall V → Prop) [DecidablePred q] :
    ([call].filter fun call => call.publishes hasClient ∧ q call) = [call].filter (q ·) := by
  refine List.filter_congr fun c hc => ?_
  rw [List.mem_singleton.mp hc]
  simp [hpublishes]

theorem filter_dpk_of_isStatus (hstatus : EventCall.isStatus call.parameter = true)
    {key : DataPointKey} (hkey : EventCall.isStatus key.parameter = false) :
    ([call].filter fun call => call.dpk = key) = [] := by
  refine List.filter_eq_nil_iff.mpr fun c hc hdpk => ?_
  rw [List.mem_singleton.mp hc, decide_eq_true_iff] at hdpk
  rw [← hdpk] at hkey
  exact absurd hstatus (Bool.eq_false_iff.mp hkey)

theorem filter_not_isStatus (hstatus : EventCall.isStatus call.parameter = false)
    (key : DataPointKey) :
    ([call].filter fun call => EventCall.isStatus call.parameter ∧ call.mainDpk = key) = [] := by
  refine List.filter_eq_nil_iff.mpr fun c hc => ?_
  rw [List.mem_singleton.mp hc]
  simp [hstatus]

theorem filter_isStatus (hstatus : EventCall.isStatus call.parameter = true) (key : DataPointKey) :
    ([call].filter fun call => EventCall.isStatus call.parameter ∧ call.mainDpk = key) =
      [call].filter fun call => call.mainDpk = key := by
  refine List.filter_congr fun c hc => ?_
  rw [List.mem_singleton.mp hc]
  simp [hstatus]

theorem Kept.move (h : f.Kept hasClient) (hmove : Move hasClient f g) : g.Kept hasClient := by
  have hnumbers : ∀ a : Answered V, a.call.number = f.answered.length →
      ((f.answered ++ [a]).map fun a => a.call.number) =
        List.range (f.answered ++ [a]).length := by
    intro a hnumber
    rw [List.map_append, h.numbers, List.map_singleton, hnumber, List.length_append,
      List.length_singleton, List.range_succ]
  cases hmove with
  | answer hnumber haccepted =>
    refine ⟨h.ordered, ?_, hnumbers _ hnumber, h.statusHeld, h.values, h.statuses,
      h.statusValues⟩
    dsimp only
    rw [accepted_concat, haccepted]
    exact h.handed.trans (List.append_nil _).symm
  | accept hnumber haccepted =>
    refine ⟨h.ordered, ?_, hnumbers _ hnumber, h.statusHeld, h.values, h.statuses,
      h.statusValues⟩
    dsimp only
    rw [accepted_concat, haccepted, ← List.append_assoc, h.handed]
    rfl
  | skip hwaiting hpublishes =>
    refine ⟨h.ordered, h.enter hwaiting, h.numbers, h.statusHeld, fun key hkey => ?_,
      fun key => ?_, fun key => ?_⟩
    · rw [List.filter_append, ← h.values key hkey]
      simp [hpublishes]
    · rw [List.filter_append, ← h.statuses key]
      simp [hpublishes]
    · rw [List.filter_append]
      simpa [hpublishes] using h.statusValues key
  | @value call waiting hwaiting hpublishes hstatus handlers =>
    refine ⟨h.ordered.publish (.inr rfl) (fun earlier hearlier htype hkey _ => ?_) handlers,
      h.enter hwaiting, h.numbers, h.statusHeld, fun key hkey => ?_, fun key => ?_, fun key => ?_⟩
    · have hmem : earlier.value ∈ publishedUnder f.published .dataPointValueReceived call.dpk :=
        mem_publishedUnder.mpr ⟨earlier, hearlier, htype, hkey, rfl⟩
      rw [h.values call.dpk hstatus] at hmem
      exact h.earlier hwaiting (List.mem_filter.mp hmem).1
    · rw [publish, publishedUnder_concat, publishedUnder_valueEvent, List.filter_append,
        h.values key hkey, filter_publishes hpublishes]
    · rw [publish, publishedUnder_concat, publishedUnder_valueEvent_status, List.filter_append,
        h.statuses key, filter_publishes hpublishes, filter_not_isStatus hstatus]
    · rw [publish, publishedUnder_concat, publishedUnder_valueEvent, List.filter_append,
        filter_publishes hpublishes, List.append_assoc]
      refine (List.perm_append_comm.append_left _).trans ?_
      rw [← List.append_assoc]
      exact (h.statusValues key).append_right _
  | @status call waiting hwaiting hpublishes hstatus handlers =>
    refine ⟨h.ordered.publish (.inl rfl) (fun earlier hearlier htype hkey _ => ?_) handlers,
      h.enter hwaiting, h.numbers, fun c hc => ?_, fun key hkey => ?_, fun key => ?_,
      fun key => ?_⟩
    · have hmem : earlier.value ∈
          publishedUnder f.published .dataPointStatusReceived call.mainDpk :=
        mem_publishedUnder.mpr ⟨earlier, hearlier, htype, hkey, rfl⟩
      rw [h.statuses call.mainDpk] at hmem
      exact h.earlier hwaiting (List.mem_filter.mp hmem).1
    · rcases List.mem_append.mp hc with hc | hc
      · exact h.statusHeld c hc
      · rw [List.mem_singleton.mp hc]
        exact hstatus
    · rw [publish, publishedUnder_concat, publishedUnder_statusEvent_value, List.filter_append,
        h.values key hkey, filter_publishes hpublishes, filter_dpk_of_isStatus hstatus hkey]
    · rw [publish, publishedUnder_concat, publishedUnder_statusEvent, List.filter_append,
        h.statuses key, filter_publishes hpublishes, filter_isStatus hstatus]
    · rw [publish, publishedUnder_concat, publishedUnder_statusEvent_value, List.append_nil,
        List.filter_append, List.filter_append, filter_publishes hpublishes, ← List.append_assoc]
      exact (h.statusValues key).append_right _
  | @release call held hheld handlers =>
    have hstatus := h.statusHeld call (hheld.mem_iff.mpr List.mem_cons_self)
    refine ⟨h.ordered.publish (.inr rfl) (fun earlier hearlier htype hkey hplain => ?_) handlers,
      h.handed, h.numbers,
      fun c hc => h.statusHeld c (hheld.mem_iff.mpr (List.mem_cons_of_mem _ hc)),
      fun key hkey => ?_, fun key => ?_, fun key => ?_⟩
    · -- the order is not that of the calls here, and nothing is promised
      have hvalue : earlier = earlier.value.valueEvent := by
        refine (h.ordered.forms earlier hearlier).resolve_left fun hform => ?_
        rw [hform] at htype
        cases htype
      rw [hvalue] at hkey
      have hparameter : earlier.value.parameter = call.parameter :=
        congrArg DataPointKey.parameter (Option.some.inj hkey)
      have hfalse := hplain htype
      rw [hparameter, hstatus] at hfalse
      cases hfalse
    · rw [publish, publishedUnder_concat, publishedUnder_valueEvent, h.values key hkey,
        filter_dpk_of_isStatus hstatus hkey, List.append_nil]
    · rw [publish, publishedUnder_concat, publishedUnder_valueEvent_status, h.statuses key,
        List.append_nil]
    · rw [publish, publishedUnder_concat, publishedUnder_valueEvent, List.append_assoc,
        ← List.filter_append]
      exact ((hheld.filter _).symm.append_left _).trans (h.statusValues key)
  | rearrange hheld =>
    refine ⟨h.ordered, h.handed, h.numbers, fun c hc => h.statusHeld c (hheld.mem_iff.mpr hc),
      h.values, h.statuses, fun key => ?_⟩
    exact ((hheld.filter _).symm.append_left _).trans (h.statusValues key)
  | @handle call queued hqueued =>
    have hsame : f.handled ++ f.queued = f.handled ++ [call] ++ queued := by
      rw [hqueued, List.append_cons]
    refine ⟨⟨h.ordered.forms, ?_, ?_⟩, h.handed, h.numbers, h.statusHeld, h.values, h.statuses,
      h.statusValues⟩
    · exact hsame ▸ h.ordered.known
    · exact hsame ▸ h.ordered.handlers

theorem Kept.moves (h : f.Kept hasClient) (hmoves : Moves hasClient f g) : g.Kept hasClient := by
  induction hmoves with
  | refl => exact h
  | tail _ hmove ih => exact ih.move hmove

end Flow

end AioHomematic.Central
