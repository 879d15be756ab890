import AioHomematic.Central.Coordinators.Event

/-!
# What the coordinator has subscribed

`own` lists the live subscriptions of the coordinator, `wanted` the handlers of
the data points made since the last `clear`. The invariant is that the two are
equal: no removal takes a subscription of the coordinator back.
-/

namespace AioHomematic.Central

open Lib StepSystem

theorem DataPointInfo.dataPoint?_of_mem_handlers {n : Nat} {i : DataPointInfo}
    {e : EventType × EventHandler} (h : e ∈ i.handlers n) : e.2.dataPoint? = some n := by
  rw [handlers] at h
  rcases List.mem_append.mp h with h | h
  · split at h
    · cases List.mem_singleton.mp h
      rfl
    · cases h
  · split at h
    · cases List.mem_singleton.mp h
      rfl
    · cases h

theorem DataPointInfo.exists_mem_handlers {i : DataPointInfo}
    (h : i.subscribesValue ∨ i.subscribesStatus) (n : Nat) : ∃ e, e ∈ i.handlers n := by
  rcases h with h | h
  · exact ⟨_, List.mem_append_left _ (by rw [if_pos h]; exact List.mem_singleton_self _)⟩
  · exact ⟨_, List.mem_append_right _ (by rw [if_pos h]; exact List.mem_singleton_self _)⟩

theorem DataPointInfo.subscribes_of_mem_handlers {n : Nat} {i : DataPointInfo}
    {e : EventType × EventHandler} (h : e ∈ i.handlers n) :
    i.subscribesValue ∨ i.subscribesStatus := by
  rw [handlers] at h
  rcases List.mem_append.mp h with h | h
  · split at h
    next hvalue => exact .inl hvalue
    · cases h
  · split at h
    next hstatus => exact .inr hstatus
    · cases h

theorem Live.keep_eq_self {T K H : Type*} {l : Live T K H} {p : Subscription T K H → Bool}
    (h : ∀ s ∈ l.subscriptions, p s = true) : l.keep p = l := by
  rw [keep, List.filter_eq_self.mpr h]

namespace EventCoordinator

variable {c t : EventCoordinator}

/-! ## What the coordinator has subscribed -/

abbrev Entry := EventType × Option EventKey × EventHandler

def entry (s : Subscription EventType EventKey EventHandler) : Entry :=
  (s.eventType, s.eventKey, s.prioritizedHandler.handler)

/-- A subscription of the coordinator. -/
def isOwn (s : Subscription EventType EventKey EventHandler) : Bool :=
  s.prioritizedHandler.handler.dataPoint?.isSome

def own (l : Live EventType EventKey EventHandler) : List Entry :=
  (l.subscriptions.filter isOwn).map entry

def wantedEntry (dpk : DataPointKey) (e : EventType × EventHandler) : Entry :=
  (e.1, some (.dpk dpk), e.2)

def entries (p : CreatedDataPoint × Nat) : List Entry :=
  (p.1.info.handlers p.2).map (wantedEntry p.1.info.dpk)

def wanted (c : EventCoordinator) : List Entry :=
  (c.dataPoints.zipIdx.drop c.cleared).flatMap entries

/-- The coordinator holds the subscriptions `w`, and the callback of each of them. -/
structure Holds (c : EventCoordinator) (w : List Entry) : Prop where
  tracks : Tracks c.history c.live
  own : own c.live = w
  kept : ∀ s ∈ c.live.subscriptions, isOwn s = true →
    s.prioritizedHandler.order ∈ c.unsubscribes

theorem tracks_call (h : Tracks c.history c.live)
    (a : BusAction EventType EventKey EventHandler) :
    Tracks (c.call a).history (c.call a).live := by
  cases hstep : c.history.step externalEventTypes a with
  | some history =>
    simp only [call, hstep, Option.getD_some]
    exact h.step hstep
  | none =>
    cases a with
    | unsubscribe n =>
      have hnone : c.history.callbacks[n]? = none := Option.map_eq_none_iff.mp hstep
      have hkeep : c.live.step externalEventTypes (.unsubscribe n) = c.live := by
        refine Live.keep_eq_self fun s hs => decide_eq_true ?_
        have hlt := h.order_lt hs
        have hle := List.getElem?_eq_none_iff.mp hnone
        rw [h.length] at hle
        omega
      simp only [call, hstep, Option.getD_none, hkeep]
      exact h
    | subscribe eventType eventKey handler priority => cases hstep
    | clearSubscriptions eventType => cases hstep
    | clearSubscriptionsByKey eventKey => cases hstep
    | clearExternalSubscriptions => cases hstep

section Holds

variable {w : List Entry}

theorem Holds.congr (h : Holds c w) (hhistory : t.history = c.history) (hlive : t.live = c.live)
    (hunsubscribes : t.unsubscribes = c.unsubscribes) : Holds t w where
  tracks := by rw [hhistory, hlive]; exact h.tracks
  own := by rw [hlive]; exact h.own
  kept := by rw [hlive, hunsubscribes]; exact h.kept

/-- A call that drops subscriptions, of the coordinator none. -/
theorem Holds.drop (h : Holds c w) {a : BusAction EventType EventKey EventHandler}
    {p : Subscription EventType EventKey EventHandler → Bool}
    (hstep : c.live.step externalEventTypes a = c.live.keep p)
    (hp : ∀ s ∈ c.live.subscriptions, isOwn s = true → p s = true) : Holds (c.call a) w where
  tracks := tracks_call h.tracks a
  own := by
    have hfilter : (c.live.subscriptions.filter p).filter isOwn =
        c.live.subscriptions.filter isOwn := by
      rw [List.filter_filter]
      refine List.filter_congr fun s hs => ?_
      cases hown : isOwn s with
      | true => rw [hp s hs hown]; rfl
      | false => rfl
    rw [← h.own, call, hstep]
    exact congrArg (List.map entry) hfilter
  kept s hs hown := by
    rw [call, hstep] at hs
    exact h.kept s (List.mem_filter.mp hs).1 hown

theorem Holds.subscribe (h : Holds c w) (eventType : EventType) (eventKey : EventKey) (n : Nat) :
    Holds (c.subscribe eventType eventKey (.subscriber n)) w where
  tracks := tracks_call h.tracks _
  own := by
    rw [← h.own]
    show ((c.live.subscriptions ++ [_]).filter isOwn).map entry = _
    rw [List.filter_append, List.filter_cons_of_neg (by simp [isOwn, EventHandler.dataPoint?]),
      List.filter_nil, List.append_nil]
    rfl
  kept s hs hown := by
    rcases List.mem_append.mp hs with hs | hs
    · exact h.kept s hs hown
    · cases List.mem_singleton.mp hs
      cases hown

theorem Holds.subscribeDataPoint (h : Holds c w) (dpk : DataPointKey)
    {e : EventType × EventHandler} (he : e.2.dataPoint?.isSome = true) :
    Holds (c.subscribeDataPoint dpk e) (w ++ [wantedEntry dpk e]) where
  tracks := tracks_call h.tracks (.subscribe e.1 (some (.dpk dpk)) e.2 .normal)
  own := by
    rw [← h.own]
    show ((c.live.subscriptions ++ [_]).filter isOwn).map entry = _
    have hown : isOwn ⟨e.1, some (.dpk dpk), ⟨e.2, .normal, c.live.made⟩⟩ = true := he
    rw [List.filter_append, List.filter_cons_of_pos hown, List.filter_nil, List.map_append]
    rfl
  kept s hs hown := by
    rcases List.mem_append.mp hs with hs | hs
    · exact List.mem_append_left _ (h.kept s hs hown)
    · cases List.mem_singleton.mp hs
      refine List.mem_append_right _ (List.mem_singleton.mpr ?_)
      exact h.tracks.length.symm

theorem Holds.foldl_subscribeDataPoint (h : Holds c w) (dpk : DataPointKey)
    {es : List (EventType × EventHandler)} (hes : ∀ e ∈ es, e.2.dataPoint?.isSome = true) :
    Holds (es.foldl (EventCoordinator.subscribeDataPoint dpk) c)
      (w ++ es.map (wantedEntry dpk)) := by
  induction es generalizing c w with
  | nil =>
    rw [List.map_nil, List.append_nil]
    exact h
  | cons e es ih =>
    rw [List.map_cons, List.append_cons]
    exact ih (h.subscribeDataPoint dpk (hes e (List.mem_cons_self ..)))
      fun e' he' => hes e' (List.mem_cons_of_mem _ he')

theorem Holds.entry_mem (h : Holds c w) {s : Subscription EventType EventKey EventHandler}
    (hs : s ∈ c.live.subscriptions) (hown : isOwn s = true) : entry s ∈ w := by
  rw [← h.own]
  exact List.mem_map_of_mem (List.mem_filter.mpr ⟨hs, hown⟩)

theorem Holds.cleanupSubscriptions (h : Holds c w) (hkeys : ∀ x ∈ w, ∃ dpk, x.2.1 = some (.dpk dpk))
    (p : CreatedDataPoint) : Holds (c.cleanupSubscriptions p) w := by
  have hdrop : Holds (c.call (.clearSubscriptionsByKey (some (.uniqueId p.info.uniqueId)))) w := by
    refine h.drop rfl fun s hs hown => ?_
    obtain ⟨dpk, hdpk⟩ := hkeys _ (h.entry_mem hs hown)
    have hkey : s.eventKey = some (.dpk dpk) := hdpk
    simp [hkey]
  exact hdrop.congr rfl rfl rfl

theorem Holds.unsubscribe (h : Holds c w) {m : Nat} (hm : c.hasCallback m = true) :
    Holds (c.call (.unsubscribe m)) w := by
  refine h.drop rfl fun s hs hown => decide_eq_true fun horder => ?_
  have hknown := h.tracks.known s hs
  rw [horder] at hknown
  rw [hasCallback, hknown, Option.any_some, Option.isNone_iff_eq_none] at hm
  rw [isOwn, hm] at hown
  cases hown

end Holds

theorem unsubscribeAll_spec (h : Tracks c.history c.live) (ms : List Nat) :
    let t := ms.foldl (fun c m => c.call (.unsubscribe m)) c
    Tracks t.history t.live ∧ t.live = c.live.keep (·.prioritizedHandler.order ∉ ms) := by
  induction ms generalizing c with
  | nil => exact ⟨h, (Live.keep_eq_self fun s _ => by simp).symm⟩
  | cons m ms ih =>
    obtain ⟨htracks, hlive⟩ := ih (tracks_call h (.unsubscribe m))
    refine ⟨htracks, hlive.trans ?_⟩
    show Live.keep (c.live.keep _) _ = _
    simp only [Live.keep, List.filter_filter]
    congr 1
    refine List.filter_congr fun s _ => ?_
    simp [Bool.and_comm]

theorem Holds.clear {w : List Entry} (h : Holds c w) : Holds c.clear [] := by
  obtain ⟨htracks, hlive⟩ := unsubscribeAll_spec h.tracks c.unsubscribes
  have hnone : ∀ s ∈ c.clear.live.subscriptions, isOwn s = false := by
    intro s hs
    rw [EventCoordinator.clear, hlive] at hs
    obtain ⟨hs, hnot⟩ := List.mem_filter.mp hs
    cases hown : isOwn s with
    | false => rfl
    | true => exact absurd (h.kept s hs hown) (of_decide_eq_true hnot)
  constructor
  case tracks => exact htracks
  case own =>
    rw [EventCoordinator.own, List.filter_eq_nil_iff.mpr, List.map_nil]
    intro s hs
    simp [hnone s hs]
  case kept =>
    intro s hs hown
    rw [hnone s hs] at hown
    cases hown

/-! ## The data points since the last `clear` -/

structure Subscribed (c : EventCoordinator) : Prop where
  holds : Holds c c.wanted
  cleared_le : c.cleared ≤ c.dataPoints.length

theorem mem_wanted {x : Entry} : x ∈ c.wanted ↔ ∃ n p, c.cleared ≤ n ∧
    c.dataPoints[n]? = some p ∧ ∃ e ∈ p.info.handlers n, wantedEntry p.info.dpk e = x := by
  have hmem : ∀ q : CreatedDataPoint × Nat, q ∈ c.dataPoints.zipIdx.drop c.cleared ↔
      c.cleared ≤ q.2 ∧ c.dataPoints[q.2]? = some q.1 := by
    rintro ⟨p, n⟩
    simp only [List.mem_iff_getElem?, List.getElem?_drop, List.getElem?_zipIdx,
      Option.map_eq_some_iff, Prod.mk.injEq, Nat.zero_add]
    constructor
    · rintro ⟨i, p', hget, rfl, rfl⟩
      exact ⟨Nat.le_add_right _ _, hget⟩
    · rintro ⟨hle, hget⟩
      exact ⟨n - c.cleared, p, by rw [Nat.add_sub_cancel' hle]; exact ⟨hget, rfl, rfl⟩⟩
  rw [wanted, List.mem_flatMap]
  constructor
  · rintro ⟨⟨p, n⟩, hq, hx⟩
    obtain ⟨hle, hget⟩ := (hmem _).mp hq
    obtain ⟨e, he, rfl⟩ := List.mem_map.mp hx
    exact ⟨n, p, hle, hget, e, he, rfl⟩
  · rintro ⟨n, p, hle, hget, e, he, rfl⟩
    exact ⟨(p, n), (hmem _).mpr ⟨hle, hget⟩, List.mem_map_of_mem he⟩

theorem key_of_mem_wanted {x : Entry} (h : x ∈ c.wanted) : ∃ dpk, x.2.1 = some (.dpk dpk) := by
  obtain ⟨n, p, -, -, e, -, rfl⟩ := mem_wanted.mp h
  exact ⟨_, rfl⟩

theorem Subscribed.congr (h : Subscribed c) (hhistory : t.history = c.history)
    (hlive : t.live = c.live) (hunsubscribes : t.unsubscribes = c.unsubscribes)
    (hdataPoints : t.dataPoints = c.dataPoints) (hcleared : t.cleared = c.cleared) :
    Subscribed t where
  holds := by
    rw [wanted, hdataPoints, hcleared]
    exact h.holds.congr hhistory hlive hunsubscribes
  cleared_le := by
    rw [hdataPoints, hcleared]
    exact h.cleared_le

/-- Whom an event under the key of a data point goes to. -/
theorem Subscribed.delivers (h : Subscribed c) {V : Type}
    (run : Handlers EventType EventKey V EventHandler) {event : Event EventType EventKey V}
    {dpk : DataPointKey} (hkey : event.key = some (.dpk dpk)) (n : Nat) :
    (∃ call ∈ (c.history.bus.publish run event).2, call.1.handler.dataPoint? = some n) ↔
      ∃ p, c.cleared ≤ n ∧ c.dataPoints[n]? = some p ∧ p.info.dpk = dpk ∧
        ∃ e ∈ p.info.handlers n, e.1 = event.type := by
  have hperm := h.holds.tracks.prioritizedHandlers_perm event.type event.key
  rw [EventBus.publish_calls]
  constructor
  · rintro ⟨call, hcall, hn⟩
    obtain ⟨ph, hph, rfl⟩ := List.mem_map.mp hcall
    obtain ⟨s, hs, rfl⟩ := List.mem_map.mp (hperm.mem_iff.mp hph)
    obtain ⟨hlive, hmatches⟩ := List.mem_filter.mp hs
    obtain ⟨htype, hkeys⟩ := of_decide_eq_true hmatches
    have hown : entry s ∈ c.wanted := h.holds.entry_mem hlive (by rw [isOwn, hn]; rfl)
    obtain ⟨m, p, hle, hget, e, he, heq⟩ := mem_wanted.mp hown
    simp only [wantedEntry, entry, Prod.mk.injEq] at heq
    obtain ⟨hetype, hekey, hehandler⟩ := heq
    have hm := DataPointInfo.dataPoint?_of_mem_handlers he
    rw [hehandler, hn] at hm
    cases hm
    rw [← hekey, hkey] at hkeys
    rcases hkeys with hkeys | hkeys
    · cases hkeys
      exact ⟨p, hle, hget, rfl, e, he, hetype.trans htype⟩
    · cases hkeys
  · rintro ⟨p, hle, hget, rfl, e, he, htype⟩
    have hown : wantedEntry p.info.dpk e ∈ own c.live := by
      rw [h.holds.own]
      exact mem_wanted.mpr ⟨n, p, hle, hget, e, he, rfl⟩
    obtain ⟨s, hs, heq⟩ := List.mem_map.mp hown
    simp only [wantedEntry, entry, Prod.mk.injEq] at heq
    obtain ⟨hetype, hekey, hehandler⟩ := heq
    refine ⟨(s.prioritizedHandler, event), List.mem_map_of_mem (hperm.mem_iff.mpr ?_), ?_⟩
    · refine List.mem_map_of_mem (List.mem_filter.mpr ⟨(List.mem_filter.mp hs).1, ?_⟩)
      exact decide_eq_true ⟨hetype.trans htype, .inl (hekey.trans hkey.symm)⟩
    · exact (congrArg _ hehandler).trans (DataPointInfo.dataPoint?_of_mem_handlers he)

theorem Subscribed.onlyCurrent_iff (h : Subscribed c) :
    c.OnlyCurrent ↔ ∀ n, c.IsSubscribed n → c.Current n := by
  constructor
  · rintro honly n ⟨hle, p, hget, hsubscribes⟩
    obtain ⟨e, he⟩ := DataPointInfo.exists_mem_handlers hsubscribes n
    let run : Handlers EventType EventKey Unit EventHandler := fun _ _ bus => (bus, .ok ())
    let event : Event EventType EventKey Unit := ⟨e.1, some (.dpk p.info.dpk), ()⟩
    have hkey : event.key = some (.dpk p.info.dpk) := rfl
    obtain ⟨call, hcall, hn⟩ := (h.delivers run hkey n).mpr ⟨p, hle, hget, rfl, e, he, rfl⟩
    exact honly Unit run event _ rfl call hcall n hn
  · intro hcurrent V run event dpk hkey call hcall n hn
    obtain ⟨p, hle, hget, -, e, he, -⟩ := (h.delivers run hkey n).mp ⟨call, hcall, hn⟩
    exact hcurrent n ⟨hle, p, hget, DataPointInfo.subscribes_of_mem_handlers he⟩

/-! ## What the steps leave alone -/

/-- At most subscriptions of the coordinator are new, and nothing but subscriptions has changed. -/
structure SameDevices (c t : EventCoordinator) : Prop where
  dataPoints : t.dataPoints = c.dataPoints
  devices : t.devices = c.devices
  devicesMade : t.devicesMade = c.devicesMade
  removals : t.removals = c.removals
  cleared : t.cleared = c.cleared
  subscribers : ∀ s ∈ t.live.subscriptions, isOwn s = false → s ∈ c.live.subscriptions

theorem SameDevices.refl (c : EventCoordinator) : SameDevices c c :=
  ⟨rfl, rfl, rfl, rfl, rfl, fun _ hs _ => hs⟩

theorem SameDevices.trans {u : EventCoordinator} (h : SameDevices c t) (h' : SameDevices t u) :
    SameDevices c u where
  dataPoints := h'.dataPoints.trans h.dataPoints
  devices := h'.devices.trans h.devices
  devicesMade := h'.devicesMade.trans h.devicesMade
  removals := h'.removals.trans h.removals
  cleared := h'.cleared.trans h.cleared
  subscribers s hs hown := h.subscribers s (h'.subscribers s hs hown) hown

theorem SameDevices.foldl {α : Type} {f : EventCoordinator → α → EventCoordinator}
    (hf : ∀ c a, SameDevices c (f c a)) (l : List α) (c : EventCoordinator) :
    SameDevices c (l.foldl f c) :=
  List.foldlRecOn (motive := SameDevices c) l f (.refl c) fun _ ht a _ => ht.trans (hf _ a)

theorem sameDevices_drop {a : BusAction EventType EventKey EventHandler}
    {p : Subscription EventType EventKey EventHandler → Bool}
    (hstep : c.live.step externalEventTypes a = c.live.keep p) : SameDevices c (c.call a) where
  dataPoints := rfl
  devices := rfl
  devicesMade := rfl
  removals := rfl
  cleared := rfl
  subscribers s hs _ := by
    rw [call, hstep] at hs
    exact (List.mem_filter.mp hs).1

theorem sameDevices_cleanupSubscriptions (c : EventCoordinator) (p : CreatedDataPoint) :
    SameDevices c (c.cleanupSubscriptions p) :=
  have h := sameDevices_drop (c := c)
    (a := .clearSubscriptionsByKey (some (.uniqueId p.info.uniqueId))) rfl
  ⟨h.dataPoints, h.devices, h.devicesMade, h.removals, h.cleared, h.subscribers⟩

theorem sameDevices_addDataPointSubscription (n : Nat) (info : DataPointInfo)
    (c : EventCoordinator) : SameDevices c (c.addDataPointSubscription n info) := by
  refine List.foldlRecOn (motive := SameDevices c) _ _ (.refl c) fun t ht e he => ht.trans ?_
  refine ⟨rfl, rfl, rfl, rfl, rfl, fun s hs hown => ?_⟩
  rcases List.mem_append.mp hs with hs | hs
  · exact hs
  · cases List.mem_singleton.mp hs
    rw [isOwn, DataPointInfo.dataPoint?_of_mem_handlers he] at hown
    cases hown

theorem lost_addDataPointSubscription (n : Nat) (info : DataPointInfo) (c : EventCoordinator) :
    (c.addDataPointSubscription n info).lost = c.lost :=
  List.foldlRecOn (motive := fun t : EventCoordinator => t.lost = c.lost) _ _ rfl fun _ ht _ _ => ht

/-! ## The subscriptions of the coordinator over a run -/

theorem Subscribed.addDataPoint (h : Subscribed c) (device : Nat) (address : String)
    (info : DataPointInfo) : Subscribed (c.addDataPoint device address info) := by
  have hsame := sameDevices_addDataPointSubscription c.dataPoints.length info c
  have hcleared : (c.addDataPoint device address info).cleared = c.cleared := hsame.cleared
  have hwanted : (c.addDataPoint device address info).wanted =
      c.wanted ++ (info.handlers c.dataPoints.length).map (wantedEntry info.dpk) := by
    rw [wanted, hcleared]
    show ((c.dataPoints ++ [_]).zipIdx.drop c.cleared).flatMap entries = _
    rw [List.zipIdx_append, List.drop_append_of_le_length (by simpa using h.cleared_le),
      List.flatMap_append, Nat.zero_add]
    exact congrArg (c.wanted ++ ·) (List.flatMap_singleton ..)
  constructor
  case holds =>
    rw [hwanted]
    refine (h.holds.foldl_subscribeDataPoint info.dpk fun e he => ?_).congr rfl rfl rfl
    rw [DataPointInfo.dataPoint?_of_mem_handlers he]
    rfl
  case cleared_le =>
    rw [hcleared]
    show _ ≤ (c.dataPoints ++ [_]).length
    rw [List.length_append]
    exact Nat.le_add_right_of_le h.cleared_le

theorem sameDevices_unsubscribeAll (ms : List Nat) (c : EventCoordinator) :
    SameDevices c (ms.foldl (fun c m => c.call (.unsubscribe m)) c) :=
  .foldl (fun _ _ => sameDevices_drop rfl) ms c

theorem wanted_clear (c : EventCoordinator) : c.clear.wanted = [] := by
  have hdataPoints : c.clear.dataPoints = c.dataPoints :=
    (sameDevices_unsubscribeAll c.unsubscribes c).dataPoints
  rw [wanted, hdataPoints]
  show (c.dataPoints.zipIdx.drop c.dataPoints.length).flatMap entries = []
  rw [List.drop_eq_nil_of_le (by simp), List.flatMap_nil]

theorem Subscribed.clear (h : Subscribed c) : Subscribed c.clear where
  holds := by
    rw [wanted_clear]
    exact h.holds.clear
  cleared_le := by
    have hdataPoints : c.clear.dataPoints = c.dataPoints :=
      (sameDevices_unsubscribeAll c.unsubscribes c).dataPoints
    rw [hdataPoints]
    exact Nat.le_refl _

theorem dataPoints_call (c : EventCoordinator) (a : BusAction EventType EventKey EventHandler) :
    (c.call a).dataPoints = c.dataPoints := rfl

theorem cleared_call (c : EventCoordinator) (a : BusAction EventType EventKey EventHandler) :
    (c.call a).cleared = c.cleared := rfl

theorem Subscribed.stop (h : Subscribed c) : Subscribed c.stop := by
  have hclear := h.holds.clear
  have hexternal := hclear.drop (a := .clearExternalSubscriptions) rfl fun s hs hown =>
    absurd (hclear.entry_mem hs hown) List.not_mem_nil
  have hall := hexternal.drop (a := .clearSubscriptions none) rfl fun s hs hown =>
    absurd (hexternal.entry_mem hs hown) List.not_mem_nil
  have hdataPoints : c.stop.dataPoints = c.clear.dataPoints :=
    (dataPoints_call _ _).trans (dataPoints_call _ _)
  have hcleared : c.stop.cleared = c.clear.cleared := (cleared_call _ _).trans (cleared_call _ _)
  constructor
  case holds =>
    rw [wanted, hdataPoints, hcleared, ← wanted, wanted_clear]
    exact hall
  case cleared_le =>
    rw [hdataPoints, hcleared]
    exact h.clear.cleared_le

theorem Subscribed.cleanupSubscriptions (h : Subscribed c) (p : CreatedDataPoint) :
    Subscribed (c.cleanupSubscriptions p) :=
  ⟨h.holds.cleanupSubscriptions (fun _ => key_of_mem_wanted) p, h.cleared_le⟩

theorem Subscribed.remove (h : Subscribed c) (device : Nat) : Subscribed (c.remove device) := by
  rw [EventCoordinator.remove]
  split
  · exact h
  · exact (List.foldlRecOn (motive := Subscribed) _ _ h fun _ hc p _ =>
      hc.cleanupSubscriptions p).congr rfl rfl rfl rfl rfl

theorem Subscribed.createDevice (h : Subscribed c) (address : String) (infos : List DataPointInfo)
    (raises : Bool) : Subscribed (c.createDevice address infos raises) := by
  rw [EventCoordinator.createDevice]
  split
  · exact h
  · exact (List.foldlRecOn (motive := Subscribed) infos _ h fun _ hc info _ =>
      hc.addDataPoint _ address info).congr rfl rfl rfl rfl rfl

theorem Subscribed.step {a : Action} (h : Subscribed c) (hstep : c.step a = some t) :
    Subscribed t := by
  cases a with
  | createDevice address infos raises =>
    cases hstep
    exact h.createDevice address infos raises
  | removeDevice address =>
    cases hstep
    rw [removeDevice]
    split
    · exact h
    · exact (h.remove _).congr rfl rfl rfl rfl rfl
  | unregister address =>
    obtain ⟨-, ht⟩ := Option.ite_none_right_eq_some.mp hstep
    cases ht
    exact h.congr rfl rfl rfl rfl rfl
  | resume i =>
    rw [EventCoordinator.step] at hstep
    split at hstep
    next n phase hget =>
      cases phase with
      | scheduled =>
        cases hstep
        exact h.congr rfl rfl rfl rfl rfl
      | publishing =>
        obtain ⟨p, -, rfl⟩ := Option.map_eq_some_iff.mp hstep
        exact (h.cleanupSubscriptions p).congr rfl rfl rfl rfl rfl
      | ended => cases hstep
    · cases hstep
  | subscribe eventType n =>
    obtain ⟨-, ht⟩ := Option.ite_none_right_eq_some.mp hstep
    obtain ⟨d, -, rfl⟩ := Option.map_eq_some_iff.mp ht
    exact ⟨h.holds.subscribe eventType (.uniqueId d.info.uniqueId) n, h.cleared_le⟩
  | unsubscribe m =>
    obtain ⟨hm, ht⟩ := Option.ite_none_right_eq_some.mp hstep
    cases ht
    exact ⟨h.holds.unsubscribe hm, h.cleared_le⟩
  | clear =>
    cases hstep
    exact h.clear
  | stop =>
    cases hstep
    exact h.stop

theorem subscribed_init : Subscribed {} where
  holds := ⟨Tracks.init, rfl, fun s hs => by cases hs⟩
  cleared_le := Nat.le_refl _

end EventCoordinator

end AioHomematic.Central
