import AioHomematic.Model.DataPoint.Loading

/-!
# Loads without a reading

A whole call of `load_data_point_value`, with `direct_call` too, while nothing else writes to the
data point. A failed call of the backend leaves `_NO_VALUE_CACHE_ENTRY` in the cache and the value
as it is. An answer without the parameter, such as the empty one for a device that is not available,
is `None` instead, and `None` is written: `currentValue_call_iff`.
-/

namespace AioHomematic.Model

open Lib Store Support

/-- What comes of a call of `get_value`: when it has the semaphore, and what the backend answers if
it is asked; `none` is a `BaseHomematicException`. -/
structure Answer (R : Type*) where
  acquiredAt : Nat
  available : Bool
  answeredAt : Nat
  result : Option (Dict String R)

/-- A call, with what comes of its calls of `get_value` for the value and for the paired status. -/
structure LoadCall (R : Type*) where
  callSource : CallSource
  directCall : Bool
  value : Answer R
  status : Answer R

namespace Loading

variable {R P : Type*}

def atTime (now : Nat) (s : Loading R P) : Loading R P := { s with now }

/-- The first lines of `get_value`. -/
def cachedValue (dpk : DataPointKey) (directCall : Bool) (s : Loading R P) : Option (Cached R) :=
  if directCall then none else s.getValueFromCache dpk

def lookedUp (dpk : DataPointKey) (directCall : Bool) (s : Loading R P) : Loading R P :=
  if directCall then s else s.checked dpk

/-- `get_value`. -/
def getValueAlone (dpk : DataPointKey) (directCall : Bool) (a : Answer R) (s : Loading R P) :
    Held R × Loading R P :=
  let s := s.atTime a.acquiredAt
  match s.cachedValue dpk directCall with
  | some cached => (cached.held, s.lookedUp dpk directCall)
  | none =>
    let s := s.lookedUp dpk directCall
    match s.valuesForCache dpk a.available with
    | some values => (s.fetched dpk values, s.addEntries dpk values)
    | none =>
      let s := s.atTime a.answeredAt
      let values := valuesOfResult dpk a.result
      (s.fetched dpk values, s.addEntries dpk values)

/-- `_load_status_value`, if there is a paired status. -/
def loadStatusValue (c : LoadCall R) (s : Loading R P) : Loading R P :=
  match s.info.statusDpk with
  | some dpk =>
    let status := s.getValueAlone dpk c.directCall c.status
    status.2.updateStatus status.1.value
  | none => s

/-- The placeholder of an unknown status does not replace a known value. -/
def keepsKnownValue (s : Loading R P) : Bool :=
  s.info.statusDpk.isSome && decide (s.statusValue = some .unknown) && s.dataPoint.isRefreshed

variable [DecidableEq P]

/-- `load_data_point_value`. -/
def call (c : LoadCall R) (s : Loading R P) : Loading R P :=
  let dpk := s.dataPoint.info.dpk
  if s.ignores c.callSource then
    match s.getGlobalValue dpk with
    | some cached => (s.checked dpk).write cached.held
    | none => s.checked dpk
  else if c.directCall = false ∧ changedWithinSeconds s.now s.dataPoint.refreshedAt maxCacheAge then s
  else if ¬s.info.isReadable then s
  else
    let value := s.getValueAlone dpk c.directCall c.value
    let s := value.2.loadStatusValue c
    if s.keepsKnownValue then s else s.write value.1

/-! ## What a call gets -/

/-- What `get_value` adds to the cache of the device. -/
def answer? (dpk : DataPointKey) (directCall : Bool) (a : Answer R) (s : Loading R P) :
    Option (Dict String (Option R)) :=
  if ((s.atTime a.acquiredAt).cachedValue dpk directCall).isSome then none
  else some ((s.valuesForCache dpk a.available).getD (valuesOfResult dpk a.result))

end Loading

namespace LoadCall

variable {R P : Type*} [DecidableEq P] (c : LoadCall R) (s : Loading R P)

/-- The call gets as far as `get_value`. -/
structure Asks : Prop where
  notIgnored : s.ignores c.callSource = false
  due : ¬(c.directCall = false ∧
    changedWithinSeconds s.now s.dataPoint.refreshedAt maxCacheAge = true)
  readable : s.info.isReadable = true

/-- The state in which the paired status is loaded. -/
def afterValue : Loading R P := (s.getValueAlone s.dataPoint.info.dpk c.directCall c.value).2

/-- The answer for the value, if the caches have none. -/
def valueAnswer : Option (Dict String (Option R)) :=
  s.answer? s.dataPoint.info.dpk c.directCall c.value

def statusAnswer : Option (Dict String (Option R)) :=
  s.info.statusDpk.bind fun dpk => (c.afterValue s).answer? dpk c.directCall c.status

/-- Nothing that the call finds or fetches has a value for the parameter. -/
structure NoReading : Prop where
  ignored : s.ignores c.callSource = true → s.getGlobalValue s.dataPoint.info.dpk = none
  cached : ∀ cached ∈ (s.atTime c.value.acquiredAt).cachedValue s.dataPoint.info.dpk c.directCall,
    cached.value = none
  value : ∀ values ∈ c.valueAnswer s, ∀ v, values.get? s.dataPoint.info.dpk.parameter ≠ some (some v)
  status : ∀ values ∈ c.statusAnswer s, ∀ v,
    values.get? s.dataPoint.info.dpk.parameter ≠ some (some v)

/-- The answer does not mention the parameter. -/
def Missing : Prop := ∃ values ∈ c.valueAnswer s, values.get? s.dataPoint.info.dpk.parameter = none

/-- A later call is served from an entry that this one has left for its parameter. -/
structure Serves (c' : LoadCall R) (t : Loading R P) : Prop where
  dpk : t.dataPoint.info.dpk = s.dataPoint.info.dpk
  asks : c'.Asks t
  indirect : c'.directCall = false
  filled : (s.call c).deviceCache.get? s.dataPoint.info.dpk ≠ s.deviceCache.get? s.dataPoint.info.dpk
  kept : t.deviceCache.get? s.dataPoint.info.dpk = (s.call c).deviceCache.get? s.dataPoint.info.dpk
  noGlobalValue : (t.atTime c'.value.acquiredAt).getGlobalValue t.dataPoint.info.dpk = none
  valid : ((t.atTime c'.value.acquiredAt).getDeviceValue t.dataPoint.info.dpk).isSome = true

end LoadCall

/-! ## One call of `get_value` -/

namespace Loading

variable {R P : Type*} {s : Loading R P} {dpk : DataPointKey} {directCall : Bool} {a : Answer R}

theorem lookedUp_eq (dpk : DataPointKey) (directCall : Bool) (s : Loading R P) :
    ∃ data, s.lookedUp dpk directCall = { s with data } := by
  unfold lookedUp checked
  split
  · exact ⟨s.data, rfl⟩
  · split
    · exact ⟨_, rfl⟩
    · exact ⟨s.data, rfl⟩

theorem getValueAlone_of_cached {cached : Cached R}
    (h : (s.atTime a.acquiredAt).cachedValue dpk directCall = some cached) :
    s.getValueAlone dpk directCall a =
      (cached.held, (s.atTime a.acquiredAt).lookedUp dpk directCall) := by
  unfold getValueAlone
  dsimp only
  rw [h]

/-- What an answer leaves: `t` is `s` at some time, after the lookup in the data cache. -/
theorem getValueAlone_of_answer {values : Dict String (Option R)}
    (h : s.answer? dpk directCall a = some values) :
    ∃ now data, s.getValueAlone dpk directCall a =
      (fetched dpk values { s with now, data }, addEntries dpk values { s with now, data }) := by
  unfold answer? at h
  split at h
  · cases h
  next hcached =>
    obtain ⟨data, hlooked⟩ := lookedUp_eq dpk directCall (s.atTime a.acquiredAt)
    have hnone := Option.not_isSome_iff_eq_none.mp hcached
    have hvalues : valuesForCache dpk a.available ((s.atTime a.acquiredAt).lookedUp dpk directCall) =
        s.valuesForCache dpk a.available := by
      rw [hlooked]
      rfl
    unfold getValueAlone
    dsimp only
    rw [hnone]
    dsimp only
    rw [hvalues]
    cases hbackend : s.valuesForCache dpk a.available with
    | some values' =>
      rw [hbackend, Option.getD_some] at h
      obtain rfl := Option.some.inj h
      exact ⟨a.acquiredAt, data, by rw [hlooked]; rfl⟩
    | none =>
      rw [hbackend, Option.getD_none] at h
      obtain rfl := Option.some.inj h
      exact ⟨a.answeredAt, data, by rw [hlooked]; rfl⟩

theorem cached_or_answer (s : Loading R P) (dpk : DataPointKey) (directCall : Bool) (a : Answer R) :
    (∃ cached, (s.atTime a.acquiredAt).cachedValue dpk directCall = some cached ∧
      s.answer? dpk directCall a = none) ∨ ∃ values, s.answer? dpk directCall a = some values := by
  unfold answer?
  cases h : (s.atTime a.acquiredAt).cachedValue dpk directCall with
  | some cached => exact .inl ⟨cached, rfl, rfl⟩
  | none => exact .inr ⟨_, rfl⟩

/-- `get_value` does not touch the data point. -/
theorem frame_getValueAlone (s : Loading R P) (dpk : DataPointKey) (directCall : Bool)
    (a : Answer R) :
    (s.getValueAlone dpk directCall a).2.dataPoint = s.dataPoint ∧
      (s.getValueAlone dpk directCall a).2.info = s.info := by
  rcases cached_or_answer s dpk directCall a with ⟨cached, h, -⟩ | ⟨values, h⟩
  · obtain ⟨data, hlooked⟩ := lookedUp_eq dpk directCall (s.atTime a.acquiredAt)
    rw [getValueAlone_of_cached h, hlooked]
    exact ⟨rfl, rfl⟩
  · obtain ⟨now, data, heq⟩ := getValueAlone_of_answer h
    rw [heq]
    exact ⟨rfl, rfl⟩

/-- An entry of the cache stays or is one of the added values. -/
theorem get?_addEntries (dpk k : DataPointKey) (values : Dict String (Option R)) (s : Loading R P) :
    (s.addEntries dpk values).deviceCache.get? k = s.deviceCache.get? k ∨
      ∃ v, values.get? k.parameter = some v ∧
        (s.addEntries dpk values).deviceCache.get? k = some ⟨some v, s.now⟩ := by
  have hfold : ∀ (entries : List (String × Option R))
      (cache : Dict DataPointKey (Support.CacheEntry (Option R))),
      (entries.foldl (fun cache e => cache.set { dpk with parameter := e.1 } ⟨some e.2, s.now⟩)
        cache).get? k = cache.get? k ∨
      ∃ e ∈ entries, e.1 = k.parameter ∧ (entries.foldl
        (fun cache e => cache.set { dpk with parameter := e.1 } ⟨some e.2, s.now⟩) cache).get? k =
          some ⟨some e.2, s.now⟩ := by
    intro entries
    induction entries with
    | nil => exact fun _ => .inl rfl
    | cons e entries ih =>
      intro cache
      rw [List.foldl_cons]
      rcases ih (cache.set { dpk with parameter := e.1 } ⟨some e.2, s.now⟩) with hsame | ⟨e', he', h⟩
      · rw [hsame, Dict.get?_set]
        split
        next hk => exact .inr ⟨e, List.mem_cons_self, by rw [← hk], rfl⟩
        next => exact .inl rfl
      · exact .inr ⟨e', List.mem_cons_of_mem _ he', h⟩
  rcases hfold values.entries s.deviceCache with hsame | ⟨e, he, hk, h⟩
  · exact .inl hsame
  · exact .inr ⟨e.2, by rw [← hk]; exact Dict.get?_eq_some.mpr he, h⟩

/-- What `get_value` leaves of an entry: nothing new, or a value of its answer. -/
theorem get?_getValueAlone (s : Loading R P) (dpk k : DataPointKey) (directCall : Bool)
    (a : Answer R) :
    (s.getValueAlone dpk directCall a).2.deviceCache.get? k = s.deviceCache.get? k ∨
      ∃ values ∈ s.answer? dpk directCall a, ∃ v now, values.get? k.parameter = some v ∧
        (s.getValueAlone dpk directCall a).2.deviceCache.get? k = some ⟨some v, now⟩ := by
  rcases cached_or_answer s dpk directCall a with ⟨cached, h, -⟩ | ⟨values, h⟩
  · obtain ⟨data, hlooked⟩ := lookedUp_eq dpk directCall (s.atTime a.acquiredAt)
    rw [getValueAlone_of_cached h, hlooked]
    exact .inl rfl
  · obtain ⟨now, data, heq⟩ := getValueAlone_of_answer h
    rw [heq]
    rcases get?_addEntries dpk k values { s with now, data } with hsame | ⟨v, hv, hnew⟩
    · exact .inl hsame
    · exact .inr ⟨values, h, v, now, hv, hnew⟩

theorem frame_loadStatusValue (c : LoadCall R) (s : Loading R P) :
    (s.loadStatusValue c).dataPoint = s.dataPoint ∧ (s.loadStatusValue c).info = s.info := by
  unfold loadStatusValue
  split
  next dpk _ =>
    have hframe := frame_getValueAlone s dpk c.directCall c.status
    dsimp only
    unfold updateStatus
    split
    · exact hframe
    · exact hframe
  next => exact ⟨rfl, rfl⟩

variable [DecidableEq P]

theorem currentValue_write (held : Held R) (s : Loading R P) :
    (s.write held).dataPoint.currentValue =
      match held.value with
      | .noCacheEntry => s.dataPoint.currentValue
      | .entry v => s.dataPoint.info.convertValue v := by
  show (s.dataPoint.load held.value s.now).currentValue = _
  unfold DataPoint.load
  cases held.value with
  | noCacheEntry => exact s.dataPoint.currentValue_writeValue_noCacheEntry s.now
  | entry v => exact s.dataPoint.currentValue_writeValue_entry v s.now

end Loading

/-! ## A whole call -/

namespace LoadCall

variable {R P : Type*} [DecidableEq P] {c c' : LoadCall R} {s t : Loading R P}

theorem call_of_asks (h : c.Asks s) :
    s.call c =
      if ((c.afterValue s).loadStatusValue c).keepsKnownValue then (c.afterValue s).loadStatusValue c
      else ((c.afterValue s).loadStatusValue c).write
        (s.getValueAlone s.dataPoint.info.dpk c.directCall c.value).1 := by
  unfold Loading.call
  dsimp only
  rw [if_neg (by simp [h.notIgnored]), if_neg h.due, if_neg (by simp [h.readable])]
  rfl

/-- A call that does not ask writes what the data cache of the central has, if anything. -/
theorem call_of_not_asks (h : ¬c.Asks s)
    (hignored : s.ignores c.callSource = true → s.getGlobalValue s.dataPoint.info.dpk = none) :
    (s.call c).dataPoint = s.dataPoint ∧ (s.call c).deviceCache = s.deviceCache := by
  unfold Loading.call
  dsimp only
  split
  next hi =>
    rw [hignored hi]
    dsimp only
    unfold Loading.checked
    split
    · exact ⟨rfl, rfl⟩
    · exact ⟨rfl, rfl⟩
  next hi =>
    split
    · exact ⟨rfl, rfl⟩
    next hdue =>
      split
      · exact ⟨rfl, rfl⟩
      next hreadable =>
        exact absurd ⟨by simpa using hi, hdue, by simpa using hreadable⟩ h

omit [DecidableEq P] in
/-- The data point and its information after both calls of `get_value`. -/
theorem frame_status (c : LoadCall R) (s : Loading R P) :
    ((c.afterValue s).loadStatusValue c).dataPoint = s.dataPoint ∧
      ((c.afterValue s).loadStatusValue c).info = s.info := by
  obtain ⟨hdata, hinfo⟩ := Loading.frame_loadStatusValue c (c.afterValue s)
  obtain ⟨hdata', hinfo'⟩ :=
    Loading.frame_getValueAlone s s.dataPoint.info.dpk c.directCall c.value
  exact ⟨hdata.trans hdata', hinfo.trans hinfo'⟩

/-- The paired status makes the call keep the value that is known. -/
def KeptByStatus (c : LoadCall R) (s : Loading R P) : Prop :=
  ((c.afterValue s).loadStatusValue c).keepsKnownValue = true

omit [DecidableEq P] in
/-- Without a reading the call holds `NO_CACHE_ENTRY` or, if the answer is without the parameter,
`None`. -/
theorem value_of_noReading (h : c.NoReading s) :
    (¬c.Missing s → (s.getValueAlone s.dataPoint.info.dpk c.directCall c.value).1.value =
      .noCacheEntry) ∧
    (c.Missing s → (s.getValueAlone s.dataPoint.info.dpk c.directCall c.value).1.value =
      .entry s.info.pyNone) := by
  rcases Loading.cached_or_answer s s.dataPoint.info.dpk c.directCall c.value with
    ⟨cached, hcached, hnone⟩ | ⟨values, hanswer⟩
  · rw [Loading.getValueAlone_of_cached hcached]
    refine ⟨fun _ => ?_, ?_⟩
    · show cached.value.elim _ _ = _
      rw [h.cached cached hcached]
      rfl
    · rintro ⟨values, hvalues, -⟩
      rw [valueAnswer, hnone] at hvalues
      cases hvalues
  · obtain ⟨now, data, heq⟩ := Loading.getValueAlone_of_answer hanswer
    rw [heq]
    have hvalue := h.value values hanswer
    cases hget : values.get? s.dataPoint.info.dpk.parameter with
    | none =>
      refine ⟨fun hpresent => absurd ⟨values, hanswer, hget⟩ hpresent, fun _ => ?_⟩
      simp only [Loading.fetched, hget]
    | some v =>
      cases v with
      | some v => exact absurd hget (hvalue v)
      | none =>
        refine ⟨fun _ => ?_, ?_⟩
        · simp only [Loading.fetched, hget]
          rfl
        · rintro ⟨values', hvalues', hmissing⟩
          obtain rfl : values = values' := Option.some.inj (hanswer.symm.trans hvalues')
          cases hget.symm.trans hmissing

theorem currentValue_call_iff (h : c.NoReading s) :
    (s.call c).dataPoint.currentValue = s.dataPoint.currentValue ↔
      (c.Asks s → c.Missing s → c.KeptByStatus s ∨
        s.dataPoint.currentValue = s.dataPoint.info.convertValue s.info.pyNone) := by
  by_cases hasks : c.Asks s
  · obtain ⟨hdata, -⟩ := c.frame_status s
    obtain ⟨hpresent, hmissing⟩ := value_of_noReading h
    rw [call_of_asks hasks, forall_prop_of_true hasks]
    by_cases hkept : ((c.afterValue s).loadStatusValue c).keepsKnownValue = true
    · rw [if_pos hkept, hdata]
      exact iff_of_true rfl fun _ => .inl hkept
    · rw [if_neg hkept, Loading.currentValue_write, hdata]
      by_cases hm : c.Missing s
      · rw [hmissing hm, forall_prop_of_true hm]
        exact ⟨fun heq => .inr heq.symm, fun hor => (hor.resolve_left hkept).symm⟩
      · rw [hpresent hm]
        exact iff_of_true rfl fun hm' => absurd hm' hm
  · rw [(call_of_not_asks hasks h.ignored).1]
    exact iff_of_true rfl fun hasks' => absurd hasks' hasks

/-- What the call leaves in the cache for its parameter is a failure. -/
theorem failure_of_filled (h : c.NoReading s)
    (hfilled : (s.call c).deviceCache.get? s.dataPoint.info.dpk ≠
      s.deviceCache.get? s.dataPoint.info.dpk) :
    ∃ now, (s.call c).deviceCache.get? s.dataPoint.info.dpk = some ⟨some none, now⟩ := by
  have hasks : c.Asks s := by
    by_contra hno
    exact hfilled (by rw [(call_of_not_asks hno h.ignored).2])
  have hcall : (s.call c).deviceCache = ((c.afterValue s).loadStatusValue c).deviceCache := by
    rw [call_of_asks hasks]
    split <;> rfl
  -- the status comes last, and so do its entries
  have hstatus : ((c.afterValue s).loadStatusValue c).deviceCache.get? s.dataPoint.info.dpk =
        (c.afterValue s).deviceCache.get? s.dataPoint.info.dpk ∨
      ∃ now, ((c.afterValue s).loadStatusValue c).deviceCache.get? s.dataPoint.info.dpk =
        some ⟨some none, now⟩ := by
    have hinfo : (c.afterValue s).info = s.info := (Loading.frame_getValueAlone s _ _ _).2
    unfold Loading.loadStatusValue
    rw [hinfo]
    split
    next dpk hdpk =>
      have hcache : ∀ (status : CacheEntry R) (u : Loading R P),
          (u.updateStatus status).deviceCache = u.deviceCache := by
        intro status u
        cases status <;> rfl
      dsimp only
      rw [hcache]
      rcases Loading.get?_getValueAlone (c.afterValue s) dpk s.dataPoint.info.dpk c.directCall
        c.status with hsame | ⟨values, hvalues, v, now, hv, hnew⟩
      · exact .inl hsame
      · have hanswer : values ∈ c.statusAnswer s := by
          rw [statusAnswer, hdpk]
          exact hvalues
        cases v with
        | none => exact .inr ⟨now, hnew⟩
        | some v => exact absurd hv (h.status values hanswer v)
    next => exact .inl rfl
  rw [hcall] at hfilled ⊢
  rcases hstatus with hsame | hnew
  · rw [hsame] at hfilled ⊢
    rcases Loading.get?_getValueAlone s s.dataPoint.info.dpk s.dataPoint.info.dpk c.directCall c.value
      with hold | ⟨values, hvalues, v, now, hv, hnew⟩
    · exact absurd hold hfilled
    · cases v with
      | none => exact ⟨now, hnew⟩
      | some v => exact absurd hv (h.value values hvalues v)
  · exact hnew

/-- A later call that is served from there leaves the value as it is. -/
theorem currentValue_of_serves (h : c.NoReading s) (hserves : c.Serves s c' t) :
    (t.call c').dataPoint.currentValue = t.dataPoint.currentValue := by
  obtain ⟨now, hfailure⟩ := failure_of_filled h hserves.filled
  have hentry : t.deviceCache.get? t.dataPoint.info.dpk = some ⟨some none, now⟩ := by
    rw [hserves.dpk, hserves.kept, hfailure]
  obtain ⟨cached, hcached⟩ := Option.isSome_iff_exists.mp hserves.valid
  have hnone : cached.value = none := by
    unfold Loading.getDeviceValue at hcached
    rw [show (t.atTime c'.value.acquiredAt).deviceCache = t.deviceCache from rfl, hentry] at hcached
    simp only [Option.bind_some, Option.map_some] at hcached
    split at hcached
    · cases hcached
      rfl
    · cases hcached
  have hvalue : (t.atTime c'.value.acquiredAt).cachedValue t.dataPoint.info.dpk c'.directCall =
      some cached := by
    rw [hserves.indirect]
    show Option.or _ _ = _
    rw [hserves.noGlobalValue, Option.none_or, hcached]
  obtain ⟨hdata, -⟩ := c'.frame_status t
  rw [call_of_asks hserves.asks, Loading.getValueAlone_of_cached hvalue]
  split
  · rw [hdata]
  · rw [Loading.currentValue_write, hdata]
    show (match cached.value.elim CacheEntry.noCacheEntry CacheEntry.entry with
      | .noCacheEntry => _
      | .entry v => _) = _
    rw [hnone]
    rfl

/--
A call without a reading leaves the confirmed value as it is, and so do the calls that are served
from what it leaves in the cache; unless the answer does not mention the parameter: then the value
stays only if it is `None` already, or if the paired status keeps it.
-/
theorem keepsValue_iff (c : LoadCall R) (s : Loading R P) (h : c.NoReading s) :
    ((s.call c).dataPoint.currentValue = s.dataPoint.currentValue ∧
      ∀ (c' : LoadCall R) (t : Loading R P), c.Serves s c' t →
        (t.call c').dataPoint.currentValue = t.dataPoint.currentValue) ↔
    (c.Asks s → c.Missing s → c.KeptByStatus s ∨
      s.dataPoint.currentValue = s.dataPoint.info.convertValue s.info.pyNone) := by
  rw [← currentValue_call_iff h]
  exact and_iff_left fun c' t hserves => currentValue_of_serves h hserves

/-- A boolean data point with the value 1, ten seconds after its event. -/
def refreshed : Loading (Option Nat) Nat where
  now := 12000000
  info := { interface := "HmIP-RF", pyNone := none }
  dataPoint :=
    { info :=
        { dpk := ⟨"CCU-HmIP-RF", "0001D3C99C6AB3:0", .values, "LOW_BAT"⟩
          convertValue := id }
      currentValue := some 1
      refreshedAt := 2000000 }

/-- A load for which the backend raises, if it is asked. -/
def failing (available : Bool) : LoadCall (Option Nat) where
  callSource := .manualOrScheduled
  directCall := false
  value := ⟨12000000, available, 12100000, none⟩
  status := ⟨12100000, available, 12200000, none⟩

theorem keepsValue_iff_failing :
    (refreshed.call (failing true)).dataPoint.currentValue = some 1 ∧
      ∀ (c' : LoadCall (Option Nat)) (t : Loading (Option Nat) Nat),
        (failing true).Serves refreshed c' t →
          (t.call c').dataPoint.currentValue = t.dataPoint.currentValue := by
  have hanswer : (failing true).valueAnswer refreshed = some (Dict.empty.set "LOW_BAT" none) := rfl
  refine (keepsValue_iff (failing true) refreshed ⟨?_, ?_, ?_, ?_⟩).mpr fun _ hmissing => ?_
  · exact fun _ => rfl
  · intro cached hcached
    cases hcached
  · intro values hvalues v hv
    rw [hanswer] at hvalues
    cases hvalues
    cases hv
  · intro values hvalues
    cases hvalues
  · obtain ⟨values, hvalues, hget⟩ := hmissing
    rw [hanswer] at hvalues
    cases hvalues
    cases hget

/-- A load while the device is not available takes the value away. -/
theorem not_keepsValue :
    (failing false).NoReading refreshed ∧ refreshed.dataPoint.currentValue = some 1 ∧
      (refreshed.call (failing false)).dataPoint.currentValue = none := by
  refine ⟨⟨fun _ => rfl, ?_, ?_, ?_⟩, rfl, rfl⟩
  · intro cached hcached
    cases hcached
  · intro values hvalues v hv
    cases hvalues
    cases hv
  · intro values hvalues
    cases hvalues

end LoadCall

end AioHomematic.Model
