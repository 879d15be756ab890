import AioHomematic.Central.Events.Bus.Subscriptions

/-!
# Publishing a batch

`publish_batch` groups the events by type and key and looks the handlers up once
for each group. What it calls is what publishing the events one by one calls,
for the events in the order of their groups (`publishBatch_calls`). A subscriber
of one key does not see the difference, a wildcard does: it gets the events key
by key. Handlers are `Steady` when they leave the subscriptions alone.
-/

namespace AioHomematic.Central

open Lib StepSystem

variable {T K V H : Type*} [DecidableEq T] [DecidableEq K]

namespace Event

/-- What `publish_batch` groups by. -/
def place (event : Event T K V) : T × Option K := (event.type, event.key)

end Event

/-- `grouped`. -/
def groupEvents (events : List (Event T K V)) : Dict (T × Option K) (List (Event T K V)) :=
  .group Event.place events

namespace EventBus

/-- The loop of `publish_batch` over the groups: it counts the events and collects the tasks. -/
def collectTasks (bus : EventBus T K H) :
    List ((T × Option K) × List (Event T K V)) → EventBus T K H × List (HandlerCall T K V H)
  | [] => (bus, [])
  | (place, groupedEvents) :: groups =>
    let handlers := bus.prioritizedHandlers place.1 place.2
    if handlers = [] then bus.collectTasks groups
    else
      let rest := (bus.countEvents place.1 groupedEvents.length).collectTasks groups
      (rest.1, (groupedEvents.flatMap fun event => handlers.map fun ph => (ph, event)) ++ rest.2)

def publishBatch (run : Handlers T K V H) (bus : EventBus T K H) (events : List (Event T K V)) :
    EventBus T K H × List (HandlerCall T K V H) :=
  if events = [] then (bus, [])
  else
    let collected := bus.collectTasks (groupEvents events).entries
    gather run collected.1 collected.2

/-- Publish the events one by one. -/
def publishAll (run : Handlers T K V H) (bus : EventBus T K H) :
    List (Event T K V) → EventBus T K H × List (HandlerCall T K V H)
  | [] => (bus, [])
  | event :: events =>
    let published := bus.publish run event
    let rest := publishAll run published.1 events
    (rest.1, published.2 ++ rest.2)

end EventBus

/-! ## Groups -/

/-- The places in the order in which they occur first. -/
def places (events : List (Event T K V)) : List (T × Option K) := (events.map Event.place).eraseDups

/-- The events in the order of their groups. -/
def regroup (events : List (Event T K V)) : List (Event T K V) :=
  (places events).flatMap fun place => events.filter (·.place = place)

theorem places_concat (events : List (Event T K V)) (event : Event T K V) :
    places (events ++ [event]) =
      if event.place ∈ places events then places events else places events ++ [event.place] := by
  rw [places, List.map_append, List.map_singleton, eraseDups_concat]
  rfl

theorem keys_groupEvents (events : List (Event T K V)) :
    (groupEvents events).keys = places events := by
  induction events using List.reverseRecOn with
  | nil => rfl
  | append_singleton events event ih =>
    rw [groupEvents, Dict.group, List.foldl_append, List.foldl_cons, List.foldl_nil,
      ← Dict.group, ← groupEvents, Dict.addTo, Dict.keys_set, ih, places_concat]
    congr

theorem places_filter (events : List (Event T K V)) (q : T × Option K → Bool) :
    places (events.filter (q ·.place)) = (places events).filter q := by
  induction events using List.reverseRecOn with
  | nil => rfl
  | append_singleton events event ih =>
    rw [List.filter_append, places_concat]
    cases hq : q event.place with
    | true =>
      have hone : [event].filter (q ·.place) = [event] := by simp [hq]
      rw [hone, places_concat, ih]
      by_cases hmem : event.place ∈ places events
      · rw [if_pos hmem, if_pos (List.mem_filter.mpr ⟨hmem, hq⟩)]
      · rw [if_neg hmem, if_neg fun h => hmem (List.mem_filter.mp h).1, List.filter_append]
        simp [hq]
    | false =>
      have hnone : [event].filter (q ·.place) = [] := by simp [hq]
      rw [hnone, List.append_nil, ih]
      split
      · rfl
      · simp [hq]

theorem entries_groupEvents {events : List (Event T K V)} {place : T × Option K}
    {groupedEvents : List (Event T K V)} (h : (place, groupedEvents) ∈ (groupEvents events).entries) :
    groupedEvents = events.filter (·.place = place) := by
  have hget := Dict.get?_eq_some.mpr h
  rw [groupEvents, Dict.get?_group] at hget
  split at hget
  · cases hget
  · exact (Option.some.inj hget).symm

theorem flatMap_groupEvents (events : List (Event T K V)) :
    (groupEvents events).entries.flatMap Prod.snd = regroup events := by
  rw [regroup, ← keys_groupEvents, Dict.keys, List.flatMap_map]
  exact List.flatMap_congr fun g hg => entries_groupEvents hg

omit [DecidableEq T] [DecidableEq K] in
theorem flatMap_single {α β : Type*} [DecidableEq α] {l : List α} (hnodup : l.Nodup) {a : α}
    {bs : List β} (h : a ∉ l → bs = []) : (l.flatMap fun b => if b = a then bs else []) = bs := by
  induction l with
  | nil => exact (h (by simp)).symm
  | cons b l ih =>
    obtain ⟨hnotMem, hnodup⟩ := List.nodup_cons.mp hnodup
    rw [List.flatMap_cons]
    split
    next heq =>
      subst heq
      refine (List.append_right_eq_self ..).mpr (List.flatMap_eq_nil_iff.mpr fun c hc => ?_)
      rw [if_neg (ne_of_mem_of_not_mem hc hnotMem)]
    next hne =>
      refine ih hnodup fun hmem => h ?_
      rw [List.mem_cons, not_or]
      exact ⟨Ne.symm hne, hmem⟩

/-- Grouping keeps the order among the events of one place. -/
theorem filter_regroup (events : List (Event T K V)) (place : T × Option K) :
    (regroup events).filter (·.place = place) = events.filter (·.place = place) := by
  have hgroup : ∀ q : T × Option K, (events.filter (·.place = q)).filter (·.place = place) =
      if q = place then events.filter (·.place = place) else [] := by
    intro q
    rw [List.filter_filter]
    split
    next heq => simp [heq]
    next hne =>
      refine List.filter_eq_nil_iff.mpr fun event _ => ?_
      simp only [Bool.and_eq_true, decide_eq_true_eq, not_and]
      rintro rfl rfl
      exact hne rfl
  have hnodup : (places events).Nodup := keys_groupEvents events ▸ (groupEvents events).nodup
  rw [regroup, List.filter_flatMap]
  simp only [hgroup]
  refine flatMap_single hnodup fun hnotMem => List.filter_eq_nil_iff.mpr fun event hevent => ?_
  simp only [decide_eq_true_eq]
  rintro rfl
  exact hnotMem (List.mem_eraseDups.mpr (List.mem_map_of_mem hevent))

theorem regroup_perm (events : List (Event T K V)) : (regroup events).Perm events := by
  classical
  refine List.perm_iff_count.mpr fun event => ?_
  have hcount : ∀ l : List (Event T K V),
      l.count event = (l.filter (·.place = event.place)).count event := fun l =>
    (List.count_filter (by simp)).symm
  rw [hcount, filter_regroup, ← hcount]

/-- Grouping after leaving out some places. -/
theorem regroup_filter (events : List (Event T K V)) (q : T × Option K → Bool) :
    regroup (events.filter (q ·.place)) = (regroup events).filter (q ·.place) := by
  rw [regroup, places_filter, regroup, List.filter_flatMap]
  induction places events with
  | nil => rfl
  | cons place rest ih =>
    have hgroup : (events.filter (·.place = place)).filter (q ·.place) =
        if q place then (events.filter (q ·.place)).filter (·.place = place) else [] := by
      split
      next hq =>
        rw [List.filter_filter, List.filter_filter]
        exact List.filter_congr fun _ _ => Bool.and_comm ..
      next hq =>
        rw [List.filter_filter]
        refine List.filter_eq_nil_iff.mpr fun event _ => ?_
        simp only [Bool.and_eq_true, decide_eq_true_eq, not_and]
        rintro hevent rfl
        exact hq hevent
    rw [List.filter_cons, List.flatMap_cons, hgroup, ← ih]
    split
    · rw [List.flatMap_cons]
    · rw [List.nil_append]

/-! ## What is called -/

namespace EventBus

/-- The calls for some events, with the subscriptions of this bus. -/
def callsFor (bus : EventBus T K H) (events : List (Event T K V)) : List (HandlerCall T K V H) :=
  events.flatMap fun event =>
    (bus.prioritizedHandlers event.type event.key).map fun ph => (ph, event)

/-- `get_event_stats`. -/
def eventStats (bus : EventBus T K H) (eventType : T) : Nat :=
  (bus.eventCount.get? eventType).getD 0

/-- How many events of this type have a handler. -/
def heard (bus : EventBus T K H) (eventType : T) (events : List (Event T K V)) : Nat :=
  (events.filter fun event => event.type = eventType ∧
    bus.prioritizedHandlers event.type event.key ≠ []).length

end EventBus

/-- Handlers that leave the subscriptions alone; what they publish themselves depends on the event
only. -/
structure Steady (run : Handlers T K V H) (nested : H → Event T K V → T → Nat) : Prop where
  subscriptions : ∀ handler event bus, (run handler event bus).1.subscriptions = bus.subscriptions
  eventStats : ∀ handler event bus eventType,
    (run handler event bus).1.eventStats eventType =
      bus.eventStats eventType + nested handler event eventType

namespace EventBus

variable {bus bus' : EventBus T K H} {run : Handlers T K V H}
  {nested : H → Event T K V → T → Nat}

/-- What the called handlers publish. -/
def nestedCount (nested : H → Event T K V → T → Nat) (eventType : T)
    (calls : List (HandlerCall T K V H)) : Nat :=
  (calls.map fun call => nested call.1.handler call.2 eventType).sum

omit [DecidableEq K] in
theorem eventStats_countEvents (eventType eventType' : T) (n : Nat) :
    (bus.countEvents eventType n).eventStats eventType' =
      bus.eventStats eventType' + if eventType = eventType' then n else 0 := by
  rw [eventStats, countEvents, Dict.get?_set]
  split
  next heq =>
    subst heq
    rfl
  · rfl

theorem prioritizedHandlers_congr (h : bus.subscriptions = bus'.subscriptions) (eventType : T)
    (eventKey : Option K) :
    bus.prioritizedHandlers eventType eventKey = bus'.prioritizedHandlers eventType eventKey := by
  rw [prioritizedHandlers, prioritizedHandlers, h]

theorem callsFor_congr (h : bus.subscriptions = bus'.subscriptions)
    (events : List (Event T K V)) : bus.callsFor events = bus'.callsFor events := by
  simp only [callsFor, prioritizedHandlers_congr h]

theorem heard_congr (h : bus.subscriptions = bus'.subscriptions) (eventType : T)
    (events : List (Event T K V)) : bus.heard eventType events = bus'.heard eventType events := by
  simp only [heard, prioritizedHandlers_congr h]

omit [DecidableEq K] in
theorem subscriptions_gather (hrun : Steady run nested) (tasks : List (HandlerCall T K V H)) :
    (gather run bus tasks).1.subscriptions = bus.subscriptions := by
  induction tasks generalizing bus with
  | nil => rfl
  | cons call tasks ih =>
    rw [gather, ih]
    exact hrun.subscriptions ..

omit [DecidableEq K] in
theorem eventStats_gather (hrun : Steady run nested) (tasks : List (HandlerCall T K V H))
    (eventType : T) : (gather run bus tasks).1.eventStats eventType =
      bus.eventStats eventType + nestedCount nested eventType tasks := by
  induction tasks generalizing bus with
  | nil => rfl
  | cons call tasks ih =>
    have hcall : (safeCallHandler run bus call).eventStats eventType =
        bus.eventStats eventType + nested call.1.handler call.2 eventType := hrun.eventStats ..
    have hcons : nestedCount nested eventType (call :: tasks) =
        nested call.1.handler call.2 eventType + nestedCount nested eventType tasks := by
      rw [nestedCount, List.map_cons, List.sum_cons]
      rfl
    rw [gather, ih, hcall, hcons]
    omega

/-! ### One by one -/

variable (bus) in
theorem subscriptions_publish (hrun : Steady run nested) (event : Event T K V) :
    (bus.publish run event).1.subscriptions = bus.subscriptions := by
  unfold publish
  dsimp only
  split
  · rfl
  · exact subscriptions_gather hrun _

theorem eventStats_publish (hrun : Steady run nested) (event : Event T K V) (eventType : T) :
    (bus.publish run event).1.eventStats eventType = bus.eventStats eventType +
      bus.heard eventType [event] +
        nestedCount nested eventType (bus.callsFor [event]) := by
  rw [callsFor, List.flatMap_singleton, heard]
  unfold publish
  dsimp only
  split
  next hnone => simp [hnone, nestedCount]
  next hsome =>
    rw [eventStats_gather hrun, eventStats_countEvents]
    congr 2
    by_cases heq : event.type = eventType
    · simp [heq, heq ▸ hsome]
    · simp [heq]

variable (bus) in
theorem publishAll_spec (hrun : Steady run nested) (events : List (Event T K V)) :
    (bus.publishAll run events).2 = bus.callsFor events ∧
      ∀ eventType, (bus.publishAll run events).1.eventStats eventType =
        bus.eventStats eventType + bus.heard eventType events +
          nestedCount nested eventType (bus.callsFor events) := by
  induction events generalizing bus with
  | nil => exact ⟨rfl, fun _ => rfl⟩
  | cons event events ih =>
    have hsubs := subscriptions_publish bus hrun event
    obtain ⟨hcalls, hstats⟩ := ih (bus.publish run event).1
    have hcons : bus.callsFor (event :: events) =
        bus.callsFor [event] ++ bus.callsFor events := by
      rw [← List.singleton_append, callsFor, List.flatMap_append]
      rfl
    constructor
    · rw [publishAll, hcons, ← callsFor_congr hsubs events, ← hcalls, publish_calls]
      rw [callsFor, List.flatMap_singleton]
    · intro eventType
      have hheard : bus.heard eventType (event :: events) =
          bus.heard eventType [event] + bus.heard eventType events := by
        rw [← List.singleton_append, heard, List.filter_append, List.length_append]
        rfl
      have hnested : nestedCount nested eventType (bus.callsFor (event :: events)) =
          nestedCount nested eventType (bus.callsFor [event]) +
            nestedCount nested eventType (bus.callsFor events) := by
        rw [hcons, nestedCount, List.map_append, List.sum_append]
        rfl
      have := hstats eventType
      rw [eventStats_publish hrun, callsFor_congr hsubs, heard_congr hsubs] at this
      rw [publishAll, this, hheard, hnested]
      omega

/-! ### As a batch -/

theorem callsFor_append (events events' : List (Event T K V)) :
    bus.callsFor (events ++ events') = bus.callsFor events ++ bus.callsFor events' :=
  List.flatMap_append

theorem heard_append (eventType : T) (events events' : List (Event T K V)) :
    bus.heard eventType (events ++ events') =
      bus.heard eventType events + bus.heard eventType events' := by
  rw [heard, List.filter_append, List.length_append]
  rfl

/-- The tasks of one group. -/
theorem callsFor_group {place : T × Option K} {events : List (Event T K V)}
    (h : ∀ event ∈ events, event.place = place) : bus.callsFor events =
      events.flatMap fun event =>
        (bus.prioritizedHandlers place.1 place.2).map fun ph => (ph, event) := by
  refine List.flatMap_congr fun event hevent => ?_
  rw [← h event hevent]
  rfl

variable (bus) in
theorem heard_group {place : T × Option K} {events : List (Event T K V)}
    (h : ∀ event ∈ events, event.place = place) (eventType : T) :
    bus.heard eventType events =
      if bus.prioritizedHandlers place.1 place.2 = [] then 0
      else if place.1 = eventType then events.length else 0 := by
  have hall : ∀ event ∈ events, (decide (event.type = eventType ∧
      bus.prioritizedHandlers event.type event.key ≠ []) : Bool) =
        decide (place.1 = eventType ∧ bus.prioritizedHandlers place.1 place.2 ≠ []) := by
    intro event hevent
    rw [← h event hevent]
    rfl
  rw [heard, List.filter_congr hall]
  by_cases hnone : bus.prioritizedHandlers place.1 place.2 = []
  · simp [hnone]
  · by_cases heq : place.1 = eventType
    · subst heq
      simp [hnone]
    · simp [heq]

variable (bus) in
theorem collectTasks_spec (groups : List ((T × Option K) × List (Event T K V)))
    (h : ∀ g ∈ groups, ∀ event ∈ g.2, event.place = g.1) :
    (bus.collectTasks groups).1.subscriptions = bus.subscriptions ∧
      (bus.collectTasks groups).2 = bus.callsFor (groups.flatMap Prod.snd) ∧
      ∀ eventType, (bus.collectTasks groups).1.eventStats eventType =
        bus.eventStats eventType + bus.heard eventType (groups.flatMap Prod.snd) := by
  induction groups generalizing bus with
  | nil => exact ⟨rfl, rfl, fun _ => rfl⟩
  | cons g groups ih =>
    obtain ⟨place, events⟩ := g
    rw [List.forall_mem_cons] at h
    have hheard := heard_group bus h.1
    rw [List.flatMap_cons, callsFor_append, callsFor_group h.1]
    simp only [heard_append, hheard]
    unfold collectTasks
    dsimp only
    split
    next hnone =>
      obtain ⟨hsubs, hcalls, hstats⟩ := ih bus h.2
      exact ⟨hsubs, by simp [hnone, hcalls], fun eventType => by simp [hstats]⟩
    next hsome =>
      obtain ⟨hsubs, hcalls, hstats⟩ := ih (bus.countEvents place.1 events.length) h.2
      refine ⟨hsubs, congrArg _ hcalls, fun eventType => ?_⟩
      rw [hstats, eventStats_countEvents, Nat.add_assoc]
      rfl

variable (bus) in
theorem publishBatch_spec (hrun : Steady run nested) (events : List (Event T K V)) :
    (bus.publishBatch run events).2 = bus.callsFor (regroup events) ∧
      ∀ eventType, (bus.publishBatch run events).1.eventStats eventType =
        bus.eventStats eventType + bus.heard eventType (regroup events) +
          nestedCount nested eventType (bus.callsFor (regroup events)) := by
  unfold publishBatch
  split
  next hnil =>
    subst hnil
    exact ⟨rfl, fun _ => rfl⟩
  · have hplaces : ∀ g ∈ (groupEvents events).entries, ∀ event ∈ g.2, event.place = g.1 := by
      intro g hg event hevent
      rw [entries_groupEvents hg] at hevent
      exact of_decide_eq_true (List.mem_filter.mp hevent).2
    obtain ⟨-, hcalls, hstats⟩ := collectTasks_spec bus _ hplaces
    rw [flatMap_groupEvents] at hcalls hstats
    refine ⟨(gather_calls run _ _).trans hcalls, fun eventType => ?_⟩
    dsimp only
    rw [eventStats_gather hrun, hstats, hcalls]

/-- The counters do not depend on the order of the events. -/
theorem eventStats_publishBatch (hrun : Steady run nested) (events : List (Event T K V))
    (eventType : T) : (bus.publishBatch run events).1.eventStats eventType =
      (bus.publishAll run events).1.eventStats eventType := by
  have hperm := regroup_perm events
  have hcalls : (bus.callsFor (regroup events)).Perm (bus.callsFor events) :=
    hperm.flatMap_right _
  rw [(publishBatch_spec bus hrun events).2, (publishAll_spec bus hrun events).2]
  congr 1
  · congr 1
    exact (hperm.filter _).length_eq
  · exact (hcalls.map _).sum_nat

end EventBus

/-! ## What a subscription gets -/

/-- The events that some of the calls bring. -/
def received (calls : List (HandlerCall T K V H)) (p : PrioritizedHandler H → Bool) :
    List (Event T K V) :=
  (calls.filter (p ·.1)).map Prod.snd

section Received

variable {bus : EventBus T K H} {p : PrioritizedHandler H → Bool}

theorem received_callsFor (events : List (Event T K V)) :
    received (bus.callsFor events) p = events.flatMap fun event =>
      ((bus.prioritizedHandlers event.type event.key).filter p).map fun _ => event := by
  rw [received, EventBus.callsFor, List.filter_flatMap, List.map_flatMap]
  refine List.flatMap_congr fun event _ => ?_
  rw [List.filter_map, List.map_map]
  rfl

/-- Whoever gets the events gets those of one place in the same order. -/
theorem filter_received_regroup (events : List (Event T K V)) (place : T × Option K) :
    (received (bus.callsFor (regroup events)) p).filter (·.place = place) =
      (received (bus.callsFor events) p).filter (·.place = place) := by
  have hfilter : ∀ events : List (Event T K V),
      (received (bus.callsFor events) p).filter (·.place = place) =
        received (bus.callsFor (events.filter (·.place = place))) p := by
    intro events
    rw [received_callsFor, received_callsFor]
    induction events with
    | nil => rfl
    | cons event events ih =>
      rw [List.flatMap_cons, List.filter_append, ih, List.filter_cons]
      split
      next heq =>
        rw [List.flatMap_cons, List.filter_eq_self.mpr]
        intro e he
        obtain ⟨_, _, rfl⟩ := List.mem_map.mp he
        exact heq
      next hne =>
        rw [List.filter_eq_nil_iff.mpr, List.nil_append]
        intro e he
        obtain ⟨_, _, rfl⟩ := List.mem_map.mp he
        exact hne
  rw [hfilter, hfilter, filter_regroup]

theorem received_perm (events : List (Event T K V)) :
    (received (bus.callsFor (regroup events)) p).Perm (received (bus.callsFor events) p) :=
  (((regroup_perm events).flatMap_right _).filter _).map _

variable {s : BusHistory T K H} {l : Live T K H} {subscription : Subscription T K H}

theorem Tracks.mem_prioritizedHandlers (h : Tracks s l) (hsub : subscription ∈ l.subscriptions)
    (eventType : T) (eventKey : Option K) :
    subscription.prioritizedHandler ∈ s.bus.prioritizedHandlers eventType eventKey ↔
      subscription.Matches eventType eventKey := by
  rw [(h.prioritizedHandlers_perm eventType eventKey).mem_iff, Live.matching, List.mem_map]
  constructor
  · rintro ⟨a, ha, heq⟩
    obtain ⟨ha, hmatches⟩ := List.mem_filter.mp ha
    cases h.eq_of_order ha (h.known subscription hsub) (congrArg _ heq)
    exact of_decide_eq_true hmatches
  · intro hmatches
    exact ⟨subscription, List.mem_filter.mpr ⟨hsub, decide_eq_true hmatches⟩, rfl⟩

/-- A live subscription gets the events that it matches. -/
theorem Tracks.received [DecidableEq H] (h : Tracks s l) (hsub : subscription ∈ l.subscriptions)
    (events : List (Event T K V)) :
    received (s.bus.callsFor events) (· = subscription.prioritizedHandler) =
      events.filter fun event => subscription.Matches event.type event.key := by
  have hone : ∀ event : Event T K V, (((s.bus.prioritizedHandlers event.type event.key).filter
      (· = subscription.prioritizedHandler)).map fun _ => event) =
        if subscription.Matches event.type event.key then [event] else [] := by
    intro event
    have hnodup : (s.bus.prioritizedHandlers event.type event.key).Nodup :=
      List.nodup_iff_pairwise_ne.mpr
        ((h.prioritizedHandlers_orders _ _).imp fun hne heq => hne (congrArg _ heq))
    rw [List.filter_eq, List.map_replicate]
    split
    next hmatches =>
      rw [List.count_eq_one_of_mem hnodup ((h.mem_prioritizedHandlers hsub _ _).mpr hmatches)]
      rfl
    next hmatches =>
      rw [List.count_eq_zero_of_not_mem (mt (h.mem_prioritizedHandlers hsub _ _).mp hmatches)]
      rfl
  rw [received_callsFor]
  simp only [hone]
  induction events with
  | nil => rfl
  | cons event events ih =>
    rw [List.flatMap_cons, ih, List.filter_cons]
    by_cases hmatches : subscription.Matches event.type event.key
    · simp [hmatches]
    · simp [hmatches]

end Received

/-- After any history: a subscription of one key gets the events of a batch as if they were published
one by one, a wildcard gets them place by place; every handler gets each event as often as one by
one, those of one place in the same order, and the counters end up equal. -/
theorem publishBatch_received [DecidableEq H] (externalEventTypes : List T)
    (as : List (BusAction T K H)) (s : BusHistory T K H)
    (h : (BusHistory.system externalEventTypes).Steps Free {} as s) (run : Handlers T K V H)
    (nested : H → Event T K V → T → Nat) (hrun : Steady run nested)
    (events : List (Event T K V)) :
    let batch := s.bus.publishBatch run events
    let oneByOne := s.bus.publishAll run events
    (∀ subscription ∈ (Live.after externalEventTypes as).subscriptions,
      subscription.eventKey ≠ none →
        received batch.2 (· = subscription.prioritizedHandler) =
          received oneByOne.2 (· = subscription.prioritizedHandler)) ∧
    (∀ subscription ∈ (Live.after externalEventTypes as).subscriptions,
      subscription.eventKey = none →
        received batch.2 (· = subscription.prioritizedHandler) =
          regroup (received oneByOne.2 (· = subscription.prioritizedHandler))) ∧
    (∀ handler : H,
      (received batch.2 (·.handler = handler)).Perm (received oneByOne.2 (·.handler = handler)) ∧
        ∀ place : T × Option K,
          (received batch.2 (·.handler = handler)).filter (·.place = place) =
            (received oneByOne.2 (·.handler = handler)).filter (·.place = place)) ∧
    ∀ eventType, batch.1.eventStats eventType = oneByOne.1.eventStats eventType := by
  have htracks := tracks_after h
  dsimp only
  rw [(EventBus.publishBatch_spec s.bus hrun events).1, (EventBus.publishAll_spec s.bus hrun events).1]
  refine ⟨fun subscription hsub hkey => ?_, fun subscription hsub hkey => ?_, fun handler => ?_,
    EventBus.eventStats_publishBatch hrun events⟩
  · obtain ⟨key, hkey⟩ := Option.ne_none_iff_exists'.mp hkey
    have hplace : ∀ event : Event T K V, decide (subscription.Matches event.type event.key) =
        decide (event.place = (subscription.eventType, subscription.eventKey)) := by
      intro event
      rw [decide_eq_decide, Subscription.Matches, hkey, Event.place, Prod.mk.injEq]
      constructor
      · rintro ⟨ht, hk | hk⟩
        · exact ⟨ht.symm, hk.symm⟩
        · cases hk
      · rintro ⟨ht, hk⟩
        exact ⟨ht.symm, .inl hk.symm⟩
    rw [htracks.received hsub, htracks.received hsub]
    simp only [hplace]
    exact filter_regroup events _
  · have hplace : ∀ event : Event T K V, decide (subscription.Matches event.type event.key) =
        decide (event.place.1 = subscription.eventType) := by
      intro event
      rw [decide_eq_decide, Subscription.Matches, hkey, Event.place]
      exact ⟨fun hm => hm.1.symm, fun ht => ⟨ht.symm, .inr rfl⟩⟩
    rw [htracks.received hsub, htracks.received hsub]
    simp only [hplace]
    exact (regroup_filter events fun place => place.1 = subscription.eventType).symm
  · exact ⟨received_perm events, filter_received_regroup events⟩

/-! ### A wildcard and a handler that unsubscribes -/

def levelEvent (key : String) (value : Nat) : Event String String Nat := ⟨"value", some key, value⟩

def quietHandlers : Handlers String String Nat Nat := fun _ _ bus => (bus, .ok ())

theorem quietHandlers_steady : Steady quietHandlers fun _ _ _ => 0 where
  subscriptions _ _ _ := rfl
  eventStats _ _ _ _ := rfl

def wildcardHistory : List (BusAction String String Nat) :=
  [.subscribe "value" (some "a") 0 .normal, .subscribe "value" none 1 .normal]

theorem publishBatch_received_wildcard : ∃ s,
    (BusHistory.system []).Steps Free {} wildcardHistory s ∧
    (received (s.bus.publishBatch quietHandlers
        [levelEvent "a" 1, levelEvent "b" 2, levelEvent "a" 3]).2 (·.handler = 1)).Perm
      (received (s.bus.publishAll quietHandlers
        [levelEvent "a" 1, levelEvent "b" 2, levelEvent "a" 3]).2 (·.handler = 1)) := by
  obtain ⟨s, hs, -⟩ := replay_any (p := fun _ : BusHistory String String Nat => True)
    (show ((BusHistory.system []).replay Free {} wildcardHistory).any _ = true by decide)
  exact ⟨s, steps_of_replay hs, ((publishBatch_received [] wildcardHistory s (steps_of_replay hs)
    quietHandlers _ quietHandlers_steady _).2.2.1 1).1⟩

/-- Handler 0 removes its own subscription. -/
def onceHandlers : Handlers String String Nat Nat := fun _ _ bus =>
  (bus.unsubscribe ⟨"value", some "a", ⟨0, .normal, 0⟩⟩, .ok ())

/-- The wildcard gets the third event before the second one; a handler that unsubscribes on its first
event gets both events of a batch. -/
theorem publishBatch_differs :
    (∃ s, (BusHistory.system []).Steps Free {} wildcardHistory s ∧
      (received (s.bus.publishAll quietHandlers
        [levelEvent "a" 1, levelEvent "b" 2, levelEvent "a" 3]).2 (·.handler = 1)).map (·.value) =
          [1, 2, 3] ∧
      (received (s.bus.publishBatch quietHandlers
        [levelEvent "a" 1, levelEvent "b" 2, levelEvent "a" 3]).2 (·.handler = 1)).map (·.value) =
          [1, 3, 2]) ∧
    ∃ s, (BusHistory.system []).Steps Free {} wildcardHistory s ∧
      (received (s.bus.publishAll onceHandlers [levelEvent "a" 1, levelEvent "a" 2]).2
        (·.handler = 0)).map (·.value) = [1] ∧
      (received (s.bus.publishBatch onceHandlers [levelEvent "a" 1, levelEvent "a" 2]).2
        (·.handler = 0)).map (·.value) = [1, 2] := by
  obtain ⟨s, hs, htest⟩ := replay_any (p := fun s : BusHistory String String Nat =>
      ((received (s.bus.publishAll quietHandlers
        [levelEvent "a" 1, levelEvent "b" 2, levelEvent "a" 3]).2 (·.handler = 1)).map (·.value) =
          [1, 2, 3] ∧
      (received (s.bus.publishBatch quietHandlers
        [levelEvent "a" 1, levelEvent "b" 2, levelEvent "a" 3]).2 (·.handler = 1)).map (·.value) =
          [1, 3, 2]) ∧
      (received (s.bus.publishAll onceHandlers [levelEvent "a" 1, levelEvent "a" 2]).2
        (·.handler = 0)).map (·.value) = [1] ∧
      (received (s.bus.publishBatch onceHandlers [levelEvent "a" 1, levelEvent "a" 2]).2
        (·.handler = 0)).map (·.value) = [1, 2])
    (show ((BusHistory.system []).replay Free {} wildcardHistory).any _ = true by decide)
  exact ⟨⟨s, steps_of_replay hs, htest.1⟩, s, steps_of_replay hs, htest.2⟩

end AioHomematic.Central
