import AioHomematic.Central.Coordinators.Event.Subscribed

/-!
# Subscriptions of re-created devices

A clean-up that comes late meets the subscriptions to the successor of its data
point, which has the same unique id. `Separate` says that there are none as long
as the clean-up is pending.
-/

namespace AioHomematic.Central

open Lib StepSystem

namespace EventCoordinator

variable {c t : EventCoordinator} {p : CreatedDataPoint}

/-! ## Successors -/

/-- No subscription under the unique id of `p` is to a data point that succeeds `p`. -/
def NoSuccessor (p : CreatedDataPoint) (c : EventCoordinator) : Prop :=
  ∀ s ∈ c.live.subscriptions, ∀ n d, s.prioritizedHandler.handler = .subscriber n →
    s.eventKey = some (.uniqueId p.info.uniqueId) → c.dataPoints[n]? = some d → ¬d.Succeeds p

theorem NoSuccessor.filter_eq_nil (h : NoSuccessor p c) :
    c.live.subscriptions.filter (c.isOfSuccessor p) = [] := by
  rw [List.filter_eq_nil_iff]
  intro s hs hsucceeds
  rw [isOfSuccessor] at hsucceeds
  split at hsucceeds
  next n hhandler =>
    obtain ⟨hkey, hany⟩ := Bool.and_eq_true_iff.mp hsucceeds
    obtain ⟨d, hget, hd⟩ := (Option.any_eq_true _ _).mp hany
    exact h s hs n d hhandler (of_decide_eq_true hkey) hget (of_decide_eq_true hd)
  · cases hsucceeds

theorem isOwn_of_subscriber {s : Subscription EventType EventKey EventHandler} {n : Nat}
    (h : s.prioritizedHandler.handler = .subscriber n) : isOwn s = false := by
  rw [isOwn, h]
  rfl

theorem NoSuccessor.same (h : NoSuccessor p c) (hsame : SameDevices c t) : NoSuccessor p t := by
  intro s hs n d hhandler hkey hget
  rw [hsame.dataPoints] at hget
  exact h s (hsame.subscribers s hs (isOwn_of_subscriber hhandler)) n d hhandler hkey hget

theorem NoSuccessor.lost_cleanupSubscriptions (h : NoSuccessor p c) :
    (c.cleanupSubscriptions p).lost = c.lost := by
  show c.lost ++ c.live.subscriptions.filter (c.isOfSuccessor p) = c.lost
  rw [h.filter_eq_nil, List.append_nil]

theorem lost_foldl_cleanupSubscriptions {ps : List CreatedDataPoint}
    (h : ∀ p ∈ ps, NoSuccessor p c) : (ps.foldl cleanupSubscriptions c).lost = c.lost := by
  induction ps generalizing c with
  | nil => rfl
  | cons p ps ih =>
    have hp := h p (List.mem_cons_self ..)
    refine (ih fun p' hp' => ?_).trans hp.lost_cleanupSubscriptions
    exact (h p' (List.mem_cons_of_mem _ hp')).same (sameDevices_cleanupSubscriptions c p)

/-- The clean-up task of `p` has not run to its end. -/
def Pending (p : CreatedDataPoint) (c : EventCoordinator) : Prop :=
  ∃ r ∈ c.removals, r.2 ≠ .ended ∧ c.dataPoints[r.1]? = some p

/-! ## The device registry -/

/-- The device in the registry is the last one with its address. -/
structure Registered (dataPoints : List CreatedDataPoint) (devices : Dict String Nat)
    (devicesMade : Nat) : Prop where
  device_lt : ∀ p ∈ dataPoints, p.device < devicesMade
  registered_lt : ∀ address device, devices.get? address = some device → device < devicesMade
  latest : ∀ address device, devices.get? address = some device → ∀ p ∈ dataPoints,
    p.address = address → p.device ≤ device
  address : ∀ address device, devices.get? address = some device → ∀ p ∈ dataPoints,
    p.device = device → p.address = address

section Registered

variable {dataPoints ps : List CreatedDataPoint} {devices : Dict String Nat} {devicesMade : Nat}

theorem Registered.erase (h : Registered dataPoints devices devicesMade) (address : String) :
    Registered dataPoints (devices.erase address) devicesMade := by
  have hget : ∀ address' device, (devices.erase address).get? address' = some device →
      devices.get? address' = some device := by
    intro address' device hget
    rw [Dict.get?_erase] at hget
    split at hget
    · cases hget
    · exact hget
  exact ⟨h.device_lt, fun address' device h' => h.registered_lt _ _ (hget _ _ h'),
    fun address' device h' => h.latest _ _ (hget _ _ h'),
    fun address' device h' => h.address _ _ (hget _ _ h')⟩

/-- The data points of a new device; its address is not in the registry. -/
theorem Registered.concat (h : Registered dataPoints devices devicesMade) {address : String}
    (hget : devices.get? address = none)
    (hps : ∀ p ∈ ps, p.device = devicesMade ∧ p.address = address) :
    Registered (dataPoints ++ ps) devices (devicesMade + 1) where
  device_lt p hp := by
    rcases List.mem_append.mp hp with hp | hp
    · have := h.device_lt p hp
      omega
    · have := (hps p hp).1
      omega
  registered_lt address' device hget' := by
    have := h.registered_lt address' device hget'
    omega
  latest address' device hget' p hp haddress := by
    rcases List.mem_append.mp hp with hp | hp
    · exact h.latest address' device hget' p hp haddress
    · rw [← haddress, (hps p hp).2, hget] at hget'
      cases hget'
  address address' device hget' p hp hdevice := by
    rcases List.mem_append.mp hp with hp | hp
    · exact h.address address' device hget' p hp hdevice
    · have := h.registered_lt address' device hget'
      have := (hps p hp).1
      omega

theorem Registered.set (h : Registered dataPoints devices (devicesMade + 1)) {address : String}
    (hlast : ∀ p ∈ dataPoints, p.device = devicesMade → p.address = address) :
    Registered dataPoints (devices.set address devicesMade) (devicesMade + 1) := by
  have hget : ∀ address' device, (devices.set address devicesMade).get? address' = some device →
      address = address' ∧ devicesMade = device ∨ devices.get? address' = some device := by
    intro address' device hget
    rw [Dict.get?_set] at hget
    split at hget
    next heq => exact .inl ⟨heq, Option.some.inj hget⟩
    · exact .inr hget
  constructor
  case device_lt => exact h.device_lt
  case registered_lt =>
    intro address' device h'
    rcases hget address' device h' with ⟨-, rfl⟩ | h'
    · omega
    · exact h.registered_lt address' device h'
  case latest =>
    intro address' device h' p hp haddress
    rcases hget address' device h' with ⟨-, rfl⟩ | h'
    · exact Nat.le_of_lt_succ (h.device_lt p hp)
    · exact h.latest address' device h' p hp haddress
  case address =>
    intro address' device h' p hp hdevice
    rcases hget address' device h' with ⟨rfl, rfl⟩ | h'
    · exact hlast p hp hdevice
    · exact h.address address' device h' p hp hdevice

end Registered

/-! ## Clean-ups and successors -/

structure Separate (c : EventCoordinator) : Prop where
  registered : Registered c.dataPoints c.devices c.devicesMade
  subscriber_lt : ∀ s ∈ c.live.subscriptions, ∀ n,
    s.prioritizedHandler.handler = .subscriber n → n < c.dataPoints.length
  removal_lt : ∀ r ∈ c.removals, r.1 < c.dataPoints.length
  pending : ∀ p, Pending p c → NoSuccessor p c
  lost : c.lost = []

theorem Separate.noSuccessor (h : Separate c) {address : String} {device : Nat}
    (hget : c.devices.get? address = some device) (hp : p ∈ c.dataPoints)
    (hdevice : p.device = device) : NoSuccessor p c := by
  rintro s - n d - - hd ⟨haddress, hlt⟩
  have hle := h.registered.latest address device hget d (List.mem_of_getElem? hd)
    (haddress.trans (h.registered.address address device hget p hp hdevice))
  omega

theorem Separate.same (h : Separate c) (hsame : SameDevices c t) (hlost : t.lost = c.lost) :
    Separate t where
  registered := by
    rw [hsame.dataPoints, hsame.devices, hsame.devicesMade]
    exact h.registered
  subscriber_lt s hs n hhandler := by
    rw [hsame.dataPoints]
    exact h.subscriber_lt s (hsame.subscribers s hs (isOwn_of_subscriber hhandler)) n hhandler
  removal_lt := by
    rw [hsame.dataPoints, hsame.removals]
    exact h.removal_lt
  pending p hp := by
    refine (h.pending p ?_).same hsame
    rwa [Pending, hsame.removals, hsame.dataPoints] at hp
  lost := hlost.trans h.lost

/-- A removal goes on. -/
theorem Separate.setRemoval (h : Separate c) {i n : Nat} {phase phase' : RemovalPhase}
    (hget : c.removals[i]? = some (n, phase)) (hphase : phase = .ended → phase' = .ended) :
    Separate { c with removals := c.removals.set i (n, phase') } where
  registered := h.registered
  subscriber_lt := h.subscriber_lt
  removal_lt r hr := by
    rcases List.mem_or_eq_of_mem_set hr with hr | rfl
    · exact h.removal_lt r hr
    · exact h.removal_lt (n, phase) (List.mem_of_getElem? hget)
  pending p hp := by
    obtain ⟨r, hr, hne, hp⟩ := hp
    rcases List.mem_or_eq_of_mem_set hr with hr | rfl
    · exact h.pending p ⟨r, hr, hne, hp⟩
    · exact h.pending p ⟨(n, phase), List.mem_of_getElem? hget, mt hphase hne, hp⟩
  lost := h.lost

theorem Separate.resume (h : Separate c) {i n : Nat} {phase : RemovalPhase}
    (hget : c.removals[i]? = some (n, phase)) (hresume : c.resumeRemoval i n phase = some t) :
    Separate t := by
  cases phase with
  | scheduled =>
    cases hresume
    exact h.setRemoval hget fun hended => by cases hended
  | publishing =>
    obtain ⟨p, hp, rfl⟩ := Option.map_eq_some_iff.mp hresume
    have hpending : Pending p c := ⟨_, List.mem_of_getElem? hget, by simp, hp⟩
    have hno := h.pending p hpending
    have hcleaned := h.same (sameDevices_cleanupSubscriptions c p) hno.lost_cleanupSubscriptions
    have hget' : (c.cleanupSubscriptions p).removals[i]? = some (n, .publishing) := hget
    exact hcleaned.setRemoval hget' fun hended => by cases hended
  | ended => cases hresume

theorem mem_ofDevice {device n : Nat} :
    n ∈ c.ofDevice device ↔ ∃ p, c.dataPoints[n]? = some p ∧ p.device = device := by
  rw [ofDevice, List.mem_filter, List.mem_range, Option.any_eq_true]
  constructor
  · rintro ⟨-, p, hget, hdevice⟩
    exact ⟨p, hget, of_decide_eq_true hdevice⟩
  · rintro ⟨p, hget, hdevice⟩
    exact ⟨(List.getElem?_eq_some_iff.mp hget).1, p, hget, decide_eq_true hdevice⟩

theorem Separate.remove (h : Separate c) {address : String} {device : Nat}
    (hget : c.devices.get? address = some device) : Separate (c.remove device) := by
  rw [EventCoordinator.remove]
  split
  · exact h
  dsimp only
  generalize hgroups : c.dataPoints.filter _ = groups
  have hsame : SameDevices c (groups.foldl cleanupSubscriptions c) :=
    .foldl sameDevices_cleanupSubscriptions groups c
  have hlost : (groups.foldl cleanupSubscriptions c).lost = c.lost := by
    refine lost_foldl_cleanupSubscriptions fun p hp => ?_
    rw [← hgroups] at hp
    obtain ⟨hp, hgroup⟩ := List.mem_filter.mp hp
    exact h.noSuccessor hget hp (of_decide_eq_true (Bool.and_eq_true_iff.mp hgroup).1)
  have hcleaned := h.same hsame hlost
  generalize groups.foldl cleanupSubscriptions c = u at hsame hcleaned
  constructor
  case registered => exact hcleaned.registered
  case subscriber_lt => exact hcleaned.subscriber_lt
  case removal_lt =>
    intro r hr
    show r.1 < u.dataPoints.length
    rw [hsame.dataPoints]
    rcases List.mem_append.mp hr with hr | hr
    · exact h.removal_lt r hr
    · obtain ⟨n, hn, rfl⟩ := List.mem_map.mp hr
      obtain ⟨p, hp, -⟩ := mem_ofDevice.mp hn
      exact (List.getElem?_eq_some_iff.mp hp).1
  case pending =>
    rintro p ⟨r, hr, hne, hp⟩
    have hp' : c.dataPoints[r.1]? = some p := hsame.dataPoints ▸ hp
    suffices hno : NoSuccessor p c from (hno.same hsame : NoSuccessor p u)
    rcases List.mem_append.mp hr with hr | hr
    · exact h.pending p ⟨r, hr, hne, hp'⟩
    · obtain ⟨n, hn, rfl⟩ := List.mem_map.mp hr
      obtain ⟨q, hq, hdevice⟩ := mem_ofDevice.mp hn
      cases hq.symm.trans hp'
      exact h.noSuccessor hget (List.mem_of_getElem? hq) hdevice
  case lost => exact hcleaned.lost

/-- What the creation of the data points of a new device adds. -/
structure Creates (address : String) (c t : EventCoordinator) : Prop where
  dataPoints : ∃ ps, t.dataPoints = c.dataPoints ++ ps ∧
    ∀ p ∈ ps, p.device = c.devicesMade ∧ p.address = address
  devices : t.devices = c.devices
  removals : t.removals = c.removals
  lost : t.lost = c.lost
  subscribers : ∀ s ∈ t.live.subscriptions, isOwn s = false → s ∈ c.live.subscriptions

theorem Creates.addDataPoint {address : String} (h : Creates address c t) (info : DataPointInfo) :
    Creates address c (t.addDataPoint c.devicesMade address info) := by
  have hsame := sameDevices_addDataPointSubscription t.dataPoints.length info t
  obtain ⟨ps, hps, hof⟩ := h.dataPoints
  constructor
  case dataPoints =>
    refine ⟨ps ++ [⟨info, c.devicesMade, address⟩], ?_, fun p hp => ?_⟩
    · rw [← List.append_assoc, ← hps]
      rfl
    · rcases List.mem_append.mp hp with hp | hp
      · exact hof p hp
      · cases List.mem_singleton.mp hp
        exact ⟨rfl, rfl⟩
  case devices => exact hsame.devices.trans h.devices
  case removals => exact hsame.removals.trans h.removals
  case lost => exact (lost_addDataPointSubscription _ info t).trans h.lost
  case subscribers =>
    exact fun s hs hown => h.subscribers s (hsame.subscribers s hs hown) hown

theorem creates_foldl_addDataPoint (address : String) (infos : List DataPointInfo)
    (c : EventCoordinator) :
    Creates address c (infos.foldl (addDataPoint c.devicesMade address) c) :=
  List.foldlRecOn (motive := Creates address c) infos _
    ⟨⟨[], (List.append_nil _).symm, fun _ hp => by cases hp⟩, rfl, rfl, rfl, fun _ hs _ => hs⟩
    fun _ ht info _ => ht.addDataPoint info

theorem Separate.createDevice (h : Separate c) (address : String) (infos : List DataPointInfo)
    (raises : Bool) : Separate (c.createDevice address infos raises) := by
  rw [EventCoordinator.createDevice]
  split
  · exact h
  next hcontains =>
  have hget : c.devices.get? address = none := by
    by_contra hne
    exact hcontains (Dict.contains_iff.mpr hne)
  have hcreates := creates_foldl_addDataPoint address infos c
  dsimp only
  generalize infos.foldl (addDataPoint c.devicesMade address) c = u at hcreates
  obtain ⟨ps, hps, hof⟩ := hcreates.dataPoints
  have hold : ∀ n < c.dataPoints.length, u.dataPoints[n]? = c.dataPoints[n]? := by
    intro n hn
    rw [hps, List.getElem?_append_left hn]
  have hle : c.dataPoints.length ≤ u.dataPoints.length := by
    rw [hps, List.length_append]
    omega
  have hadded := h.registered.concat hget hof
  constructor
  case registered =>
    dsimp only
    rw [hps]
    split
    · exact hadded
    · refine hadded.set fun p hp hdevice => ?_
      rcases List.mem_append.mp hp with hp | hp
      · have := h.registered.device_lt p hp
        omega
      · exact (hof p hp).2
  case subscriber_lt =>
    intro s hs n hhandler
    have hlt := h.subscriber_lt s
      (hcreates.subscribers s hs (isOwn_of_subscriber hhandler)) n hhandler
    exact Nat.lt_of_lt_of_le hlt hle
  case removal_lt =>
    intro r hr
    exact Nat.lt_of_lt_of_le (h.removal_lt r (hcreates.removals ▸ hr)) hle
  case pending =>
    rintro p ⟨r, hr, hne, hp⟩ s hs n d hhandler hkey hd
    have hr' : r ∈ c.removals := hcreates.removals ▸ hr
    have hs' := hcreates.subscribers s hs (isOwn_of_subscriber hhandler)
    have hp' := (hold r.1 (h.removal_lt r hr')).symm.trans hp
    have hd' := (hold n (h.subscriber_lt s hs' n hhandler)).symm.trans hd
    exact h.pending p ⟨r, hr', hne, hp'⟩ s hs' n d hhandler hkey hd'
  case lost => exact hcreates.lost.trans h.lost

theorem Separate.subscribe (h : Separate c) {eventType : EventType} {n : Nat}
    {d : CreatedDataPoint} (hd : c.dataPoints[n]? = some d)
    (hapart : Apart c (.subscribe eventType n)) :
    Separate (c.subscribe eventType (.uniqueId d.info.uniqueId) (.subscriber n)) := by
  constructor
  case registered => exact h.registered
  case subscriber_lt =>
    intro s hs m hhandler
    rcases List.mem_append.mp hs with hs | hs
    · exact h.subscriber_lt s hs m hhandler
    · cases List.mem_singleton.mp hs
      cases hhandler
      exact (List.getElem?_eq_some_iff.mp hd).1
  case removal_lt => exact h.removal_lt
  case pending =>
    intro p hp s hs m d' hhandler hkey hd'
    rcases List.mem_append.mp hs with hs | hs
    · exact h.pending p hp s hs m d' hhandler hkey hd'
    · cases List.mem_singleton.mp hs
      cases hhandler
      cases hd.symm.trans hd'
      obtain ⟨r, hr, hne, hget⟩ := hp
      intro hsucceeds
      refine hapart n rfl d hd r hr hne p hget hsucceeds ?_
      simpa using hkey
  case lost => exact h.lost

theorem lost_stop (c : EventCoordinator) : c.stop.lost = c.clear.lost := by
  have hcall : ∀ (a : BusAction EventType EventKey EventHandler) (u : EventCoordinator),
      (u.call a).lost = u.lost := fun _ _ => rfl
  rw [stop, hcall, hcall]

theorem sameDevices_stop (c : EventCoordinator) : SameDevices c.clear c.stop :=
  (sameDevices_drop (a := .clearExternalSubscriptions) rfl).trans
    (sameDevices_drop (a := .clearSubscriptions none) rfl)

theorem Separate.clear (h : Separate c) : Separate c.clear := by
  have hsame := sameDevices_unsubscribeAll c.unsubscribes c
  have hlost : (c.unsubscribes.foldl (fun c m => c.call (.unsubscribe m)) c).lost = c.lost :=
    List.foldlRecOn (motive := fun t : EventCoordinator => t.lost = c.lost) _ _ rfl
      fun _ ht _ _ => ht
  obtain ⟨hregistered, hsubscriber, hremoval, hpending, hlost⟩ := h.same hsame hlost
  exact ⟨hregistered, hsubscriber, hremoval, hpending, hlost⟩

theorem Separate.step {a : Action} (h : Separate c) (hapart : Apart c a)
    (hstep : c.step a = some t) : Separate t := by
  cases a with
  | createDevice address infos raises =>
    cases hstep
    exact h.createDevice address infos raises
  | removeDevice address =>
    cases hstep
    rw [removeDevice]
    split
    · exact h
    next device hget =>
      obtain ⟨hregistered, hsubscriber, hremoval, hpending, hlost⟩ := h.remove hget
      exact ⟨hregistered, hsubscriber, hremoval, hpending, hlost⟩
  | unregister address =>
    obtain ⟨-, ht⟩ := Option.ite_none_right_eq_some.mp hstep
    cases ht
    exact ⟨h.registered.erase address, h.subscriber_lt, h.removal_lt, h.pending, h.lost⟩
  | resume i =>
    rw [EventCoordinator.step] at hstep
    split at hstep
    next n phase hget => exact h.resume hget hstep
    · cases hstep
  | subscribe eventType n =>
    obtain ⟨-, ht⟩ := Option.ite_none_right_eq_some.mp hstep
    obtain ⟨d, hd, rfl⟩ := Option.map_eq_some_iff.mp ht
    exact h.subscribe hd hapart
  | unsubscribe m =>
    obtain ⟨-, ht⟩ := Option.ite_none_right_eq_some.mp hstep
    cases ht
    exact h.same (sameDevices_drop rfl) rfl
  | clear =>
    cases hstep
    exact h.clear
  | stop =>
    cases hstep
    exact h.clear.same (sameDevices_stop c) (lost_stop c)

theorem separate_init : Separate {} where
  registered := by
    constructor
    case device_lt =>
      intro p hp
      cases hp
    case registered_lt =>
      intro address device hget
      cases hget
    case latest =>
      intro address device hget
      cases hget
    case address =>
      intro address device hget
      cases hget
  subscriber_lt s hs := by cases hs
  removal_lt r hr := by cases hr
  pending p hp := by
    obtain ⟨r, hr, -⟩ := hp
    cases hr
  lost := rfl

/-! ## Runs -/

/-- In any run, an event of the backend goes to current data points only if and only if no data
point that the coordinator has subscribed since its last `clear` has been removed; and no clean-up
takes a subscription of a successor, if none is made while the clean-up is pending. -/
theorem readded_subscriptions (c : EventCoordinator) (h : system.Reach Free c) :
    (c.OnlyCurrent ↔ ∀ n, c.IsSubscribed n → c.Current n) ∧
      (system.Reach Apart c → c.lost = []) := by
  constructor
  · have hsubscribed : Subscribed c :=
      h.invariant (P := Subscribed) subscribed_init fun _ _ _ hc _ hstep => hc.step hstep
    exact hsubscribed.onlyCurrent_iff
  · intro hapart
    have hseparate : Separate c :=
      hapart.invariant (P := Separate) separate_init fun _ _ _ hc ha hstep => hc.step ha hstep
    exact hseparate.lost

def exampleDpk : DataPointKey := ⟨"ccu-HmIP-RF", "VCU0000001:1", .values, "LEVEL"⟩

def exampleInfo : DataPointInfo := { dpk := exampleDpk, uniqueId := "vcu0000001_1_level" }

/-- `update_device` after a subscription. -/
def updated : List Action :=
  [.createDevice "VCU0000001" [exampleInfo] false, .subscribe .dataPointStateChanged 0,
    .removeDevice "VCU0000001", .unregister "VCU0000001"]

/-- The coordinator is cleared, and the clean-up has run, before the device is created anew. -/
theorem readded_subscriptions_cleared : ∃ c, system.Reach Free c ∧
    c.dataPoints.length = 2 ∧ c.live.subscriptions.length = 2 ∧ c.OnlyCurrent ∧ c.lost = [] := by
  have hrun : (system.replay Apart system.init (updated ++ [.resume 0, .resume 0, .clear,
      .createDevice "VCU0000001" [exampleInfo] false, .subscribe .dataPointStateChanged 1])).any
        fun c => c.dataPoints.length = 2 ∧ c.live.subscriptions.length = 2 ∧
          ∀ n < c.dataPoints.length, c.cleared ≤ n → ∀ p ∈ c.dataPoints[n]?,
            c.devices.get? p.address = some p.device ∧ p.device ∉ c.removed := by
    decide +kernel
  obtain ⟨c, hc, hdataPoints, hlive, hcurrent⟩ := replay_any hrun
  have hreach := reach_of_replay hc
  have hfree : system.Reach Free c := ⟨hreach.choose, hreach.choose_spec.free⟩
  refine ⟨c, hfree, hdataPoints, hlive, (readded_subscriptions c hfree).1.mpr ?_,
    (readded_subscriptions c hfree).2 hreach⟩
  rintro n ⟨hle, p, hget, -⟩
  exact ⟨p, hget, hcurrent n (List.getElem?_eq_some_iff.mp hget).1 hle p hget⟩

/-- The clean-up runs after the device is created anew and subscribed to: all tasks have run, an
event goes to the removed data point too, and the subscription is gone. -/
theorem updated_delivers_to_removed : ∃ c, system.Reach Free c ∧
    (∀ r ∈ c.removals, r.2 = .ended) ∧ ¬c.OnlyCurrent ∧ c.lost ≠ [] := by
  have hrun : (system.replay Free system.init
      (updated ++ [.createDevice "VCU0000001" [exampleInfo] false,
        .subscribe .dataPointStateChanged 1, .resume 0, .resume 0])).any
        fun c => (∀ r ∈ c.removals, r.2 = .ended) ∧ c.lost.length ≠ 0 ∧
          (∀ p ∈ c.dataPoints[0]?, p.device ∈ c.removed) ∧
          ∃ ph ∈ c.history.bus.prioritizedHandlers .dataPointValueReceived
            (some (.dpk exampleDpk)), ph.handler.dataPoint? = some 0 := by
    decide +kernel
  obtain ⟨c, hc, hended, hlost, hremoved, hhandler⟩ := replay_any hrun
  refine ⟨c, reach_of_replay hc, hended, fun honly => ?_, fun hnil => hlost (by rw [hnil]; rfl)⟩
  obtain ⟨ph, hph, hn⟩ := hhandler
  let event : Event EventType EventKey Unit :=
    ⟨.dataPointValueReceived, some (.dpk exampleDpk), ()⟩
  obtain ⟨p, hget, -, hnot⟩ := honly Unit (fun _ _ bus => (bus, .ok ())) event exampleDpk rfl
    (ph, event) (by rw [EventBus.publish_calls]; exact List.mem_map_of_mem hph) 0 hn
  exact hnot (hremoved p hget)

end EventCoordinator

end AioHomematic.Central
