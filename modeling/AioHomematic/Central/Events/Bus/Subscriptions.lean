import AioHomematic.Central.Events.Bus
import AioHomematic.Lib.Numbered
import AioHomematic.Lib.StepSystem

/-!
# Who gets an event

Histories of `subscribe`, of the callbacks it returned and of the `clear`
methods. `live` says which subscriptions are left, by the meaning of each
operation and without any bucket. The invariant `Tracks` says that every bucket
is sorted and holds the live subscriptions of its type and key, one for each;
`publish_delivers` follows by merging the bucket of the key with that of `none`.
-/

namespace AioHomematic.Central

open Lib StepSystem

variable {T K V H : Type*} [DecidableEq T] [DecidableEq K]

namespace EventBus

/-! ## Buckets -/

section Buckets

variable {bus : EventBus T K H}

theorem bucket_setBucket (eventType : T) (eventKey : Option K)
    (handlers : List (PrioritizedHandler H)) (eventType' : T) (eventKey' : Option K) :
    (bus.setBucket eventType eventKey handlers).bucket eventType' eventKey' =
      if eventType = eventType' ∧ eventKey = eventKey' then handlers
      else bus.bucket eventType' eventKey' := by
  simp only [bucket, setBucket, Dict.get?_set]
  by_cases ht : eventType = eventType'
  · subst ht
    rw [if_pos rfl, Option.getD_some, Dict.get?_set]
    by_cases hk : eventKey = eventKey'
    · simp [hk]
    · simp [hk]
  · simp [ht]

theorem bucket_clearSubscriptions_some (eventType eventType' : T) (eventKey : Option K) :
    (bus.clearSubscriptions (some eventType)).bucket eventType' eventKey =
      if eventType = eventType' then [] else bus.bucket eventType' eventKey := by
  simp only [bucket, clearSubscriptions, Dict.get?_set]
  split
  · rfl
  · rfl

theorem bucket_clearSubscriptionsByKey (eventKey eventKey' : Option K) (eventType : T) :
    (bus.clearSubscriptionsByKey eventKey).bucket eventType eventKey' =
      if eventKey = eventKey' then [] else bus.bucket eventType eventKey' := by
  simp only [bucket, clearSubscriptionsByKey, Dict.get?_map]
  cases bus.subscriptions.get? eventType with
  | none => simp
  | some keysHandlers =>
    rw [Option.map_some, Option.getD_some, Dict.get?_modify]
    split
    · cases keysHandlers.get? eventKey' with
      | none => rfl
      | some handlers => rfl
    · rfl

theorem bucket_of_getSubscriptionCount {eventType : T} (h : bus.getSubscriptionCount eventType = 0)
    (eventKey : Option K) : bus.bucket eventType eventKey = [] := by
  rw [bucket]
  cases hget : ((bus.subscriptions.get? eventType).getD .empty).get? eventKey with
  | none => rfl
  | some handlers =>
    have hmem : handlers ∈ ((bus.subscriptions.get? eventType).getD .empty).values :=
      List.mem_map.mpr ⟨_, Dict.get?_eq_some.mp hget, rfl⟩
    obtain ⟨i, hi⟩ := List.mem_iff_getElem?.mp hmem
    have hle := le_sum_map List.length hi
    rw [getSubscriptionCount] at h
    exact List.eq_nil_of_length_eq_zero (Nat.eq_zero_of_le_zero (h ▸ hle))

theorem bucket_clearExternalSubscriptions (externalEventTypes : List T) (eventType : T)
    (eventKey : Option K) :
    (bus.clearExternalSubscriptions externalEventTypes).bucket eventType eventKey =
      if eventType ∈ externalEventTypes then [] else bus.bucket eventType eventKey := by
  unfold clearExternalSubscriptions
  induction externalEventTypes generalizing bus with
  | nil => simp
  | cons t ts ih =>
    have hone : (if bus.getSubscriptionCount t > 0 then bus.clearSubscriptions (some t)
        else bus).bucket eventType eventKey =
          if t = eventType then [] else bus.bucket eventType eventKey := by
      split
      · exact bucket_clearSubscriptions_some t eventType eventKey
      next hcount =>
        split
        next heq =>
          subst heq
          exact bucket_of_getSubscriptionCount (by omega) eventKey
        · rfl
    rw [List.foldl_cons, ih, hone]
    by_cases hmem : eventType ∈ ts
    · simp [hmem]
    · by_cases heq : t = eventType
      · simp [heq]
      · simp [hmem, heq, Ne.symm heq]

omit [DecidableEq K] in
theorem handlerOrderCounter_clearExternalSubscriptions (externalEventTypes : List T) :
    (bus.clearExternalSubscriptions externalEventTypes).handlerOrderCounter =
      bus.handlerOrderCounter := by
  unfold clearExternalSubscriptions
  induction externalEventTypes generalizing bus with
  | nil => rfl
  | cons t ts ih =>
    rw [List.foldl_cons, ih]
    split <;> rfl

/-! ## The handlers of an event -/

/-- The bucket of the key, unless it is that of the wildcards. -/
def specific (bus : EventBus T K H) (eventType : T) (eventKey : Option K) :
    List (PrioritizedHandler H) :=
  if eventKey = none then [] else bus.bucket eventType eventKey

theorem prioritizedHandlers_eq (eventType : T) (eventKey : Option K) :
    bus.prioritizedHandlers eventType eventKey =
      if bus.specific eventType eventKey ≠ [] ∧ bus.bucket eventType none ≠ [] then
        (bus.specific eventType eventKey ++ bus.bucket eventType none).insertionSort
          fun a b => a.sortKey ≤ b.sortKey
      else if bus.specific eventType eventKey ≠ [] then bus.specific eventType eventKey
      else bus.bucket eventType none := by
  unfold prioritizedHandlers
  split
  next hnone => simp [specific, bucket, hnone]
  next eventSubs hsome =>
    cases eventKey with
    | none => simp [specific, bucket, hsome]
    | some key => simp [specific, bucket, hsome]

theorem prioritizedHandlers_perm (eventType : T) (eventKey : Option K) :
    (bus.prioritizedHandlers eventType eventKey).Perm
      (bus.specific eventType eventKey ++ bus.bucket eventType none) := by
  rw [prioritizedHandlers_eq]
  split
  · exact List.perm_insertionSort _ _
  next hone =>
    split
    next hspecific =>
      rw [not_and, not_not] at hone
      rw [hone hspecific, List.append_nil]
    next hspecific => rw [not_not.mp hspecific, List.nil_append]

theorem prioritizedHandlers_sorted (h : ∀ eventType eventKey,
    SortedBy PrioritizedHandler.sortKey (bus.bucket eventType eventKey)) (eventType : T)
    (eventKey : Option K) :
    SortedBy PrioritizedHandler.sortKey (bus.prioritizedHandlers eventType eventKey) := by
  have : Std.Total fun a b : PrioritizedHandler H => a.sortKey ≤ b.sortKey :=
    ⟨fun a b => le_total a.sortKey b.sortKey⟩
  have : IsTrans (PrioritizedHandler H) fun a b => a.sortKey ≤ b.sortKey :=
    ⟨fun _ _ _ => le_trans⟩
  rw [prioritizedHandlers_eq]
  split
  · exact List.pairwise_insertionSort _ _
  · split
    · rw [specific]
      split
      · exact List.Pairwise.nil
      · exact h eventType eventKey
    · exact h eventType none

end Buckets

omit [DecidableEq T] [DecidableEq K] in
/-- Every task is run, whatever the handlers before it did. -/
theorem gather_calls {V : Type*} (run : Handlers T K V H) (bus : EventBus T K H)
    (tasks : List (HandlerCall T K V H)) : (gather run bus tasks).2 = tasks := by
  induction tasks generalizing bus with
  | nil => rfl
  | cons call tasks ih => rw [gather, ih]

theorem publish_calls {V : Type*} (run : Handlers T K V H) (bus : EventBus T K H)
    (event : Event T K V) : (bus.publish run event).2 =
      (bus.prioritizedHandlers event.type event.key).map fun ph => (ph, event) := by
  unfold publish
  dsimp only
  split
  next hnone => rw [hnone, List.map_nil]
  · exact gather_calls run _ _

end EventBus

/-! ## Histories -/

inductive BusAction (T K H : Type*) where
  | subscribe (eventType : T) (eventKey : Option K) (handler : H) (priority : EventPriority)
  /-- Call the callback of the `n`th `subscribe`. -/
  | unsubscribe (n : Nat)
  | clearSubscriptions (eventType : Option T)
  | clearSubscriptionsByKey (eventKey : Option K)
  | clearExternalSubscriptions

/-- The bus with the callbacks that it has handed out. -/
structure BusHistory (T K H : Type*) where
  bus : EventBus T K H := {}
  callbacks : List (Subscription T K H) := []

namespace BusHistory

variable [DecidableEq H]

def step (externalEventTypes : List T) (s : BusHistory T K H) :
    BusAction T K H → Option (BusHistory T K H)
  | .subscribe eventType eventKey handler priority =>
    let subscribed := s.bus.subscribe eventType eventKey handler priority
    some { bus := subscribed.2, callbacks := s.callbacks ++ [subscribed.1] }
  | .unsubscribe n =>
    s.callbacks[n]?.map fun subscription => { s with bus := s.bus.unsubscribe subscription }
  | .clearSubscriptions eventType => some { s with bus := s.bus.clearSubscriptions eventType }
  | .clearSubscriptionsByKey eventKey => some { s with bus := s.bus.clearSubscriptionsByKey eventKey }
  | .clearExternalSubscriptions =>
    some { s with bus := s.bus.clearExternalSubscriptions externalEventTypes }

def system (externalEventTypes : List T) : StepSystem (BusHistory T K H) (BusAction T K H) where
  init := {}
  step := step externalEventTypes

end BusHistory

/-! ## The live subscriptions -/

/-- The subscriptions that are left, in the order in which they were made, and how many were made. -/
structure Live (T K H : Type*) where
  subscriptions : List (Subscription T K H) := []
  made : Nat := 0

namespace Live

def keep (l : Live T K H) (p : Subscription T K H → Bool) : Live T K H :=
  { l with subscriptions := l.subscriptions.filter p }

def step (externalEventTypes : List T) (l : Live T K H) : BusAction T K H → Live T K H
  | .subscribe eventType eventKey handler priority =>
    { subscriptions := l.subscriptions ++
        [{ eventType, eventKey, prioritizedHandler := { handler, priority, order := l.made } }]
      made := l.made + 1 }
  | .unsubscribe n => l.keep (·.prioritizedHandler.order ≠ n)
  | .clearSubscriptions none => l.keep fun _ => false
  | .clearSubscriptions (some eventType) => l.keep (·.eventType ≠ eventType)
  | .clearSubscriptionsByKey eventKey => l.keep (·.eventKey ≠ eventKey)
  | .clearExternalSubscriptions => l.keep (·.eventType ∉ externalEventTypes)

/-- The live subscriptions after a history. -/
def after (externalEventTypes : List T) (as : List (BusAction T K H)) : Live T K H :=
  as.foldl (step externalEventTypes) {}

/-- The live subscriptions of one bucket. -/
def bucket (l : Live T K H) (eventType : T) (eventKey : Option K) : List (PrioritizedHandler H) :=
  (l.subscriptions.filter fun s => s.eventType = eventType ∧ s.eventKey = eventKey).map
    (·.prioritizedHandler)

end Live

/-- The buckets hold the live subscriptions; a callback belongs to the subscription of its number. -/
structure Tracks (s : BusHistory T K H) (l : Live T K H) : Prop where
  counter : s.bus.handlerOrderCounter = l.made
  length : s.callbacks.length = l.made
  numbered : ∀ (n : Nat) subscription, s.callbacks[n]? = some subscription →
    subscription.prioritizedHandler.order = n
  known : ∀ subscription ∈ l.subscriptions,
    s.callbacks[subscription.prioritizedHandler.order]? = some subscription
  ordered : l.subscriptions.Pairwise fun a b =>
    a.prioritizedHandler.order < b.prioritizedHandler.order
  sorted : ∀ eventType eventKey,
    SortedBy PrioritizedHandler.sortKey (s.bus.bucket eventType eventKey)
  handlers : ∀ eventType eventKey,
    (s.bus.bucket eventType eventKey).Perm (l.bucket eventType eventKey)

section Steps

variable {s s' : BusHistory T K H} {l : Live T K H}

theorem Tracks.init : Tracks ({} : BusHistory T K H) {} where
  counter := rfl
  length := rfl
  numbered n subscription h := by cases h
  known subscription h := by cases h
  ordered := List.Pairwise.nil
  sorted eventType eventKey := List.Pairwise.nil
  handlers eventType eventKey := List.Perm.refl _

theorem Tracks.order_lt (h : Tracks s l) {subscription : Subscription T K H}
    (hmem : subscription ∈ l.subscriptions) : subscription.prioritizedHandler.order < l.made := by
  have hlt := (List.getElem?_eq_some_iff.mp (h.known subscription hmem)).1
  rwa [h.length] at hlt

/-- A step that drops subscriptions, and drops them from the buckets. -/
theorem Tracks.keep (h : Tracks s l) {bus : EventBus T K H} {p : Subscription T K H → Bool}
    (hcounter : bus.handlerOrderCounter = s.bus.handlerOrderCounter)
    (hbucket : ∀ eventType eventKey, (bus.bucket eventType eventKey).Sublist
      (s.bus.bucket eventType eventKey))
    (hhandlers : ∀ eventType eventKey,
      (bus.bucket eventType eventKey).Perm ((l.keep p).bucket eventType eventKey)) :
    Tracks { s with bus } (l.keep p) where
  counter := hcounter.trans h.counter
  length := h.length
  numbered := h.numbered
  known subscription hmem := h.known subscription (List.mem_filter.mp hmem).1
  ordered := h.ordered.filter p
  sorted eventType eventKey := (h.sorted eventType eventKey).sublist (hbucket eventType eventKey)
  handlers := hhandlers

/-- A step that empties some buckets. -/
theorem Tracks.clear (h : Tracks s l) {bus : EventBus T K H} {p : T → Option K → Bool}
    (hcounter : bus.handlerOrderCounter = s.bus.handlerOrderCounter)
    (hbucket : ∀ eventType eventKey, bus.bucket eventType eventKey =
      if p eventType eventKey then s.bus.bucket eventType eventKey else []) :
    Tracks { s with bus } (l.keep fun s => p s.eventType s.eventKey) := by
  refine h.keep hcounter (fun eventType eventKey => ?_) fun eventType eventKey => ?_
  · rw [hbucket]
    split
    · exact List.Sublist.refl _
    · exact List.nil_sublist _
  · rw [hbucket]
    have hfilter : (l.keep fun s => p s.eventType s.eventKey).bucket eventType eventKey =
        if p eventType eventKey then l.bucket eventType eventKey else [] := by
      simp only [Live.bucket, Live.keep, List.filter_filter]
      split
      next hp =>
        congr 1
        apply List.filter_congr
        intro subscription _
        by_cases hplace : subscription.eventType = eventType ∧ subscription.eventKey = eventKey
        · simp [hplace, hp]
        · simp [hplace]
      next hp =>
        rw [List.map_eq_nil_iff, List.filter_eq_nil_iff]
        rintro subscription - hplace
        simp only [Bool.and_eq_true, decide_eq_true_eq] at hplace
        rw [hplace.1.1, hplace.1.2] at hplace
        exact hp hplace.2
    rw [hfilter]
    split
    · exact h.handlers eventType eventKey
    · exact List.Perm.refl _

theorem Live.bucket_concat (l : Live T K H) (subscription : Subscription T K H) (made : Nat)
    (eventType : T) (eventKey : Option K) :
    Live.bucket { subscriptions := l.subscriptions ++ [subscription], made } eventType eventKey =
      if subscription.eventType = eventType ∧ subscription.eventKey = eventKey then
        l.bucket eventType eventKey ++ [subscription.prioritizedHandler]
      else l.bucket eventType eventKey := by
  rw [bucket, List.filter_append, List.map_append]
  split
  next hplace => rw [List.filter_cons_of_pos (by simpa using hplace)]; rfl
  next hplace =>
    rw [List.filter_cons_of_neg (by simpa using hplace), List.filter_nil, List.map_nil,
      List.append_nil]
    rfl

theorem Tracks.subscribe (h : Tracks s l) (eventType : T) (eventKey : Option K) (handler : H)
    (priority : EventPriority) {externalEventTypes : List T} :
    Tracks
      { bus := (s.bus.subscribe eventType eventKey handler priority).2
        callbacks :=
          s.callbacks ++ [(s.bus.subscribe eventType eventKey handler priority).1] }
      (l.step externalEventTypes (.subscribe eventType eventKey handler priority)) := by
  have hnew : (s.bus.subscribe eventType eventKey handler priority).1 =
      { eventType, eventKey, prioritizedHandler := { handler, priority, order := l.made } } := by
    rw [← h.counter]
    rfl
  have hbucket : ∀ eventType' eventKey',
      (s.bus.subscribe eventType eventKey handler priority).2.bucket eventType' eventKey' =
        if eventType = eventType' ∧ eventKey = eventKey' then
          insort PrioritizedHandler.sortKey (s.bus.bucket eventType eventKey)
            { handler, priority, order := l.made }
        else s.bus.bucket eventType' eventKey' := by
    intro eventType' eventKey'
    rw [← h.counter]
    exact EventBus.bucket_setBucket ..
  rw [hnew]
  constructor
  case counter => exact congrArg (· + 1) h.counter
  case length => simp [Live.step, h.length]
  case numbered =>
    intro n subscription hget
    rcases getElem?_concat_cases hget with hold | ⟨rfl, rfl⟩
    · exact h.numbered n subscription hold
    · exact h.length.symm
  case known =>
    intro subscription hmem
    rcases List.mem_append.mp hmem with hmem | hmem
    · exact getElem?_concat_of_some (h.known subscription hmem) _
    · cases List.mem_singleton.mp hmem
      simp [← h.length]
  case ordered =>
    refine List.pairwise_append.mpr ⟨h.ordered, List.pairwise_singleton _ _, ?_⟩
    intro a ha b hb
    cases List.mem_singleton.mp hb
    exact h.order_lt ha
  case sorted =>
    intro eventType' eventKey'
    rw [hbucket]
    split
    · exact insort_sorted (h.sorted eventType eventKey) _
    · exact h.sorted eventType' eventKey'
  case handlers =>
    intro eventType' eventKey'
    rw [hbucket, Live.step, Live.bucket_concat]
    split
    next hplace =>
      obtain ⟨rfl, rfl⟩ := hplace
      refine (insort_perm _ _ _).trans ?_
      exact ((h.handlers eventType eventKey).cons _).trans (List.perm_append_singleton _ _).symm
    · exact h.handlers eventType' eventKey'

/-- Two live subscriptions with one number are one. -/
theorem Tracks.eq_of_order (h : Tracks s l) {a : Subscription T K H} (ha : a ∈ l.subscriptions)
    {n : Nat} {b : Subscription T K H} (hb : s.callbacks[n]? = some b)
    (horder : a.prioritizedHandler.order = n) : a = b := by
  have hknown := h.known a ha
  rw [horder, hb] at hknown
  exact (Option.some.inj hknown).symm

theorem Tracks.bucket_ordered (h : Tracks s l) (eventType : T) (eventKey : Option K) :
    (l.bucket eventType eventKey).Pairwise fun a b => a.order < b.order :=
  (h.ordered.filter _).map _ fun _ _ hlt => hlt

theorem Tracks.bucket_nodup (h : Tracks s l) (eventType : T) (eventKey : Option K) :
    (l.bucket eventType eventKey).Nodup :=
  List.nodup_iff_pairwise_ne.mpr <| (h.bucket_ordered eventType eventKey).imp fun hlt heq =>
    Nat.ne_of_lt hlt (congrArg _ heq)

theorem Tracks.unsubscribe [DecidableEq H] (h : Tracks s l) {n : Nat}
    {subscription : Subscription T K H} (hget : s.callbacks[n]? = some subscription) :
    Tracks { s with bus := s.bus.unsubscribe subscription }
      (l.keep (·.prioritizedHandler.order ≠ n)) := by
  have hbucket : ∀ eventType eventKey,
      (s.bus.unsubscribe subscription).bucket eventType eventKey =
        if subscription.eventType = eventType ∧ subscription.eventKey = eventKey then
          (s.bus.bucket eventType eventKey).erase subscription.prioritizedHandler
        else s.bus.bucket eventType eventKey := by
    intro eventType eventKey
    rw [EventBus.unsubscribe, EventBus.bucket_setBucket]
    split
    next hplace => rw [hplace.1, hplace.2]
    · rfl
  refine h.keep rfl (fun eventType eventKey => ?_) fun eventType eventKey => ?_
  · rw [hbucket]
    split
    · exact List.erase_sublist
    · exact List.Sublist.refl _
  · rw [hbucket]
    split
    next hplace =>
      refine ((h.handlers eventType eventKey).erase _).trans (List.Perm.of_eq ?_)
      rw [(h.bucket_nodup eventType eventKey).erase_eq_filter, Live.bucket, List.filter_map,
        List.filter_filter, Live.bucket, Live.keep, List.filter_filter]
      congr 1
      apply List.filter_congr
      intro a ha
      have horder : a.prioritizedHandler = subscription.prioritizedHandler ↔
          a.prioritizedHandler.order = n := by
        constructor
        · exact fun heq => heq ▸ h.numbered n subscription hget
        · exact fun heq => congrArg _ (h.eq_of_order ha hget heq)
      rw [Bool.and_comm]
      congr 1
      by_cases heq : a.prioritizedHandler.order = n
      · simp [horder.mpr heq, h.numbered n subscription hget]
      · simp [heq, mt horder.mp heq]
    next hplace =>
      refine (h.handlers eventType eventKey).trans (List.Perm.of_eq ?_)
      rw [Live.bucket, Live.bucket, Live.keep, List.filter_filter]
      congr 1
      apply List.filter_congr
      intro a ha
      by_cases hat : a.eventType = eventType ∧ a.eventKey = eventKey
      · have hne : a.prioritizedHandler.order ≠ n := by
          rintro heq
          cases h.eq_of_order ha hget heq
          exact hplace hat
        simp [hat, hne]
      · simp [hat]

theorem Tracks.step [DecidableEq H] {externalEventTypes : List T} (h : Tracks s l)
    {a : BusAction T K H} (hstep : s.step externalEventTypes a = some s') :
    Tracks s' (l.step externalEventTypes a) := by
  cases a with
  | subscribe eventType eventKey handler priority =>
    cases hstep
    exact h.subscribe eventType eventKey handler priority
  | unsubscribe n =>
    obtain ⟨subscription, hget, rfl⟩ := Option.map_eq_some_iff.mp hstep
    exact h.unsubscribe hget
  | clearSubscriptions eventType =>
    cases hstep
    cases eventType with
    | none =>
      refine h.clear (p := fun _ _ => false) rfl fun eventType eventKey => ?_
      rfl
    | some eventType =>
      refine h.clear (p := fun t _ => t ≠ eventType) rfl fun eventType' eventKey => ?_
      rw [EventBus.bucket_clearSubscriptions_some]
      by_cases heq : eventType = eventType'
      · simp [heq]
      · simp [heq, Ne.symm heq]
  | clearSubscriptionsByKey eventKey =>
    cases hstep
    refine h.clear (p := fun _ k => k ≠ eventKey) rfl fun eventType eventKey' => ?_
    rw [EventBus.bucket_clearSubscriptionsByKey]
    by_cases heq : eventKey = eventKey'
    · simp [heq]
    · simp [heq, Ne.symm heq]
  | clearExternalSubscriptions =>
    cases hstep
    refine h.clear (p := fun t _ => t ∉ externalEventTypes)
      (EventBus.handlerOrderCounter_clearExternalSubscriptions _) fun eventType eventKey => ?_
    rw [EventBus.bucket_clearExternalSubscriptions]
    by_cases hmem : eventType ∈ externalEventTypes
    · simp [hmem]
    · simp [hmem]

theorem Tracks.steps [DecidableEq H] {externalEventTypes : List T} {as : List (BusAction T K H)}
    (hsteps : (BusHistory.system externalEventTypes).Steps Free s as s') (h : Tracks s l) :
    Tracks s' (as.foldl (Live.step externalEventTypes) l) := by
  induction hsteps generalizing l with
  | nil => exact h
  | cons _ hstep _ ih => exact ih (h.step hstep)

theorem tracks_after [DecidableEq H] {externalEventTypes : List T} {as : List (BusAction T K H)}
    (hsteps : (BusHistory.system externalEventTypes).Steps Free {} as s) :
    Tracks s (Live.after externalEventTypes as) :=
  Tracks.init.steps hsteps

end Steps

/-! ## Delivery -/

theorem EventPriority.value_injective {p q : EventPriority} (h : p.value = q.value) : p = q := by
  cases p <;> cases q <;> first | rfl | cases h

/-- The order in which handlers are called. -/
def PrioritizedHandler.Before (a b : PrioritizedHandler H) : Prop :=
  b.priority.value < a.priority.value ∨ a.priority = b.priority ∧ a.order < b.order

theorem PrioritizedHandler.before_of_le {a b : PrioritizedHandler H} (h : a.sortKey ≤ b.sortKey)
    (hne : a.order ≠ b.order) : a.Before b := by
  rcases Prod.Lex.toLex_le_toLex.mp h with hlt | ⟨heq, hle⟩
  · exact .inl (by simpa using hlt)
  · exact .inr ⟨EventPriority.value_injective (by simpa using heq), Nat.lt_of_le_of_ne hle hne⟩

def Subscription.Matches (subscription : Subscription T K H) (eventType : T)
    (eventKey : Option K) : Prop :=
  subscription.eventType = eventType ∧
    (subscription.eventKey = eventKey ∨ subscription.eventKey = none)

instance (subscription : Subscription T K H) (eventType : T) (eventKey : Option K) :
    Decidable (subscription.Matches eventType eventKey) :=
  inferInstanceAs (Decidable (_ ∧ _))

/-- The live subscriptions that an event goes to. -/
def Live.matching (l : Live T K H) (eventType : T) (eventKey : Option K) :
    List (PrioritizedHandler H) :=
  (l.subscriptions.filter (·.Matches eventType eventKey)).map (·.prioritizedHandler)

section Delivery

variable {s : BusHistory T K H} {l : Live T K H}

/-- Those of the key and the wildcards. -/
theorem Live.matching_perm (l : Live T K H) (eventType : T) (eventKey : Option K) :
    ((if eventKey = none then [] else l.bucket eventType eventKey) ++
      l.bucket eventType none).Perm (l.matching eventType eventKey) := by
  cases eventKey with
  | none =>
    rw [if_pos rfl, List.nil_append, bucket, matching]
    refine List.Perm.of_eq (congrArg _ (List.filter_congr fun a _ => ?_))
    simp [Subscription.Matches]
  | some key =>
    rw [if_neg (Option.some_ne_none key), bucket, bucket, ← List.map_append, matching]
    refine List.Perm.map _ (List.Perm.trans (List.Perm.of_eq ?_)
      (List.filter_append_perm (fun a => a.eventKey ≠ none) _))
    rw [List.filter_filter, List.filter_filter]
    congr 1
    · refine List.filter_congr fun a _ => ?_
      cases hkey : a.eventKey with
      | none => simp [Subscription.Matches, hkey]
      | some key' => simp [Subscription.Matches, hkey]
    · refine List.filter_congr fun a _ => ?_
      cases hkey : a.eventKey with
      | none => simp [Subscription.Matches, hkey]
      | some key' => simp [Subscription.Matches, hkey]

theorem Tracks.prioritizedHandlers_perm (h : Tracks s l) (eventType : T) (eventKey : Option K) :
    (s.bus.prioritizedHandlers eventType eventKey).Perm (l.matching eventType eventKey) := by
  have hspecific : (s.bus.specific eventType eventKey).Perm
      (if eventKey = none then [] else l.bucket eventType eventKey) := by
    rw [EventBus.specific]
    split
    · exact List.Perm.refl _
    · exact h.handlers eventType eventKey
  exact (EventBus.prioritizedHandlers_perm eventType eventKey).trans
    ((hspecific.append (h.handlers eventType none)).trans (l.matching_perm eventType eventKey))

theorem Tracks.matching_ordered (h : Tracks s l) (eventType : T) (eventKey : Option K) :
    (l.matching eventType eventKey).Pairwise fun a b => a.order < b.order :=
  (h.ordered.filter _).map _ fun _ _ hlt => hlt

theorem Tracks.prioritizedHandlers_orders (h : Tracks s l) (eventType : T)
    (eventKey : Option K) : (s.bus.prioritizedHandlers eventType eventKey).Pairwise fun a b =>
      a.order ≠ b.order :=
  ((h.prioritizedHandlers_perm eventType eventKey).pairwise_iff fun hne => hne.symm).mpr
    ((h.matching_ordered eventType eventKey).imp Nat.ne_of_lt)

theorem Tracks.prioritizedHandlers_before (h : Tracks s l) (eventType : T)
    (eventKey : Option K) :
    (s.bus.prioritizedHandlers eventType eventKey).Pairwise PrioritizedHandler.Before :=
  (EventBus.prioritizedHandlers_sorted h.sorted eventType eventKey).imp₂
    (fun _ _ hle hne => PrioritizedHandler.before_of_le hle hne)
    (h.prioritizedHandlers_orders eventType eventKey)

/-- After any history, whatever the handlers do, an event goes to the live subscriptions that match
it, once to each, by priority and then in the order of subscription. -/
theorem publish_delivers [DecidableEq H] {V : Type*} (externalEventTypes : List T)
    (as : List (BusAction T K H)) (s : BusHistory T K H)
    (h : (BusHistory.system externalEventTypes).Steps Free {} as s) (run : Handlers T K V H)
    (event : Event T K V) :
    let calls := (s.bus.publish run event).2
    (∀ call ∈ calls, call.2 = event) ∧
      (calls.map Prod.fst).Perm
        ((Live.after externalEventTypes as).matching event.type event.key) ∧
      (calls.map Prod.fst).Nodup ∧
      (calls.map Prod.fst).Pairwise PrioritizedHandler.Before := by
  have htracks := tracks_after h
  have hcalls : (s.bus.publish run event).2.map Prod.fst =
      s.bus.prioritizedHandlers event.type event.key := by
    rw [EventBus.publish_calls, List.map_map]
    exact List.map_id _
  dsimp only
  rw [hcalls]
  refine ⟨?_, htracks.prioritizedHandlers_perm _ _, ?_, htracks.prioritizedHandlers_before _ _⟩
  · rw [EventBus.publish_calls]
    intro call hcall
    obtain ⟨ph, -, rfl⟩ := List.mem_map.mp hcall
    rfl
  · exact List.nodup_iff_pairwise_ne.mpr
      ((htracks.prioritizedHandlers_orders _ _).imp fun hne heq => hne (congrArg _ heq))

end Delivery

/-! ### A history with clears -/

/-- A callback that is called twice, and one that is called after a clear and a new subscription. -/
def sampleHistory : List (BusAction String String Nat) :=
  [.subscribe "value" (some "LEVEL") 0 .normal, .subscribe "value" none 1 .low,
    .subscribe "value" (some "LEVEL") 2 .normal, .unsubscribe 0, .unsubscribe 0,
    .clearSubscriptionsByKey (some "LEVEL"), .subscribe "value" (some "LEVEL") 2 .normal,
    .unsubscribe 2, .subscribe "value" (some "LEVEL") 3 .normal,
    .subscribe "value" none 4 .critical]

/-- Handler 4 unsubscribes nobody and raises. -/
def sampleHandlers : Handlers String String Unit Nat := fun handler _ bus =>
  (bus, if handler = 4 then .error { cls := .other } else .ok ())

theorem publish_delivers_cleared : ∃ s,
    (BusHistory.system []).Steps Free {} sampleHistory s ∧
    let calls := (s.bus.publish sampleHandlers ⟨"value", some "LEVEL", ()⟩).2
    calls.map (·.1.handler) = [4, 2, 3, 1] ∧ (calls.map Prod.fst).Nodup := by
  obtain ⟨s, hs, htest⟩ := replay_any (p := fun s : BusHistory String String Nat =>
      (s.bus.publish sampleHandlers ⟨"value", some "LEVEL", ()⟩).2.map (·.1.handler) =
        [4, 2, 3, 1])
    (show ((BusHistory.system []).replay Free {} sampleHistory).any _ = true by decide)
  exact ⟨s, steps_of_replay hs, htest,
    (publish_delivers [] sampleHistory s (steps_of_replay hs) sampleHandlers _).2.2.1⟩

end AioHomematic.Central
