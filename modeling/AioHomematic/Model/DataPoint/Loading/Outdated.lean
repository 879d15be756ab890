import AioHomematic.Model.DataPoint.Loading

/-!
# Outdated loads

A load checks `_refreshed_at` before it waits, a data point that is ignored on the initial load is
not checked at all, and the data cache keeps its values for as long as the devices are being
created. `Inv` is what the checks are for: the last event is not newer than what a load holds of a
cache. It is kept while the caches answer in time (`AnswersInTime`) and no event comes between the
answer and its write; otherwise a value that was fetched before the last event can replace it.
-/

namespace AioHomematic.Model

open Lib StepSystem Store Support

namespace DataPoint

variable {R P : Type*} [DecidableEq P] (d : DataPoint R P)

theorem refreshedAt_writeValue_entry (v : R) (t : Nat) :
    (d.writeValue (.entry v) t).2.refreshedAt = t := by
  unfold writeValue
  dsimp only
  split <;> rfl

theorem refreshedAt_writeValue_noCacheEntry (t : Nat) :
    (d.writeValue .noCacheEntry t).2.refreshedAt = d.refreshedAt := by
  unfold writeValue
  dsimp only
  split <;> rfl

theorem refreshedAt_load (v : CacheEntry R) (t : Nat) :
    (d.load v t).refreshedAt = t ∨ (d.load v t).refreshedAt = d.refreshedAt := by
  cases v with
  | noCacheEntry => exact .inr (d.refreshedAt_writeValue_noCacheEntry t)
  | entry v => exact .inl (d.refreshedAt_writeValue_entry v t)

end DataPoint

namespace Loading

variable {R P : Type*} {s t : Loading R P} {n : Nat}

/-! ## The condition on the steps -/

/-- A cache answers with a value that is not older than the last event. So it is if the value is not
older than the maximum age, and the check of `_refreshed_at` would be passed now, or no event has
come since it was. -/
def AnswersInTime (unchanged : Bool) (c : Cached R) (s : Loading R P) : Prop :=
  (∀ e ∈ s.lastEvent, (e : Int) ≤ c.refreshedAt) ∨
    AgedAtMost s.now c.refreshedAt maxCacheAge ∧
      (unchanged = true ∨ changedWithinSeconds s.now s.dataPoint.refreshedAt maxCacheAge = false)

/-- The condition on an action at the time `s.now`. -/
def InTime (s : Loading R P) : Action R → Prop
  | .load callSource =>
    s.ignores callSource = true →
      ∀ c ∈ s.getGlobalValue s.dataPoint.info.dpk, s.AnswersInTime false c
  | .acquired n _ =>
    ∀ unchanged ∈ (s.loads[n]?).bind LoadPhase.unchanged,
      ∀ c ∈ s.getValueFromCache s.dataPoint.info.dpk, s.AnswersInTime unchanged c
  | .event _ receivedAt => ∀ phase ∈ s.loads, ∀ keptAt ∈ phase.keptAt, (receivedAt : Int) ≤ keptAt
  | _ => True

def Covered (s : Loading R P) (a : Nat × Action R) : Prop := { s with now := a.1 }.InTime a.2

/-! ## The invariant -/

/-- The last event is not newer than what a load holds or has written, and it is older than the
maximum age where a load waits that has passed its check since. -/
structure Inv (s : Loading R P) : Prop where
  refreshed : ∀ e ∈ s.lastEvent, 0 < e ∧ e ≤ s.dataPoint.refreshedAt
  past : s.dataPoint.refreshedAt ≤ s.now
  passed : ∀ phase ∈ s.loads, phase.unchanged = some true → ∀ e ∈ s.lastEvent,
    (e : Int) + maxCacheAge * microsecondsPerSecond ≤ s.now
  held : ∀ phase ∈ s.loads, ∀ keptAt ∈ phase.keptAt, ∀ e ∈ s.lastEvent, (e : Int) ≤ keptAt
  replaced : ∀ r ∈ s.replaced, ∀ e ∈ r.lastEvent, (e : Int) ≤ r.keptAt

theorem old_of_check (hinv : Inv s)
    (hcheck : changedWithinSeconds s.now s.dataPoint.refreshedAt maxCacheAge = false) :
    ∀ e ∈ s.lastEvent, (e : Int) + maxCacheAge * microsecondsPerSecond ≤ s.now := by
  intro e he
  obtain ⟨hset, hle⟩ := hinv.refreshed e he
  have hne : (s.dataPoint.refreshedAt : Int) ≠ Support.initDatetime := by
    simp only [Support.initDatetime]
    omega
  have hold := aged_of_not_changedWithinSeconds hne (Int.ofNat_le.mpr hinv.past) hcheck
  omega

/-- Such an answer is not older than the last event. -/
theorem le_of_answersInTime {unchanged : Bool} {c : Cached R} (hinv : Inv s)
    (hpassed : unchanged = true → ∀ e ∈ s.lastEvent,
      (e : Int) + maxCacheAge * microsecondsPerSecond ≤ s.now)
    (h : s.AnswersInTime unchanged c) : ∀ e ∈ s.lastEvent, (e : Int) ≤ c.refreshedAt := by
  intro e he
  rcases h with hle | ⟨haged, hchecked⟩
  · exact hle e he
  · have hevent : (e : Int) + maxCacheAge * microsecondsPerSecond ≤ s.now := by
      rcases hchecked with hunchanged | hchecked
      · exact hpassed hunchanged e he
      · exact old_of_check hinv hchecked e he
    unfold AgedAtMost at haged
    omega

theorem Inv.of_eq (hinv : Inv s) (hnow : t.now = s.now) (hdata : t.dataPoint = s.dataPoint)
    (hloads : t.loads = s.loads) (hlast : t.lastEvent = s.lastEvent)
    (hreplaced : t.replaced = s.replaced) : Inv t where
  refreshed := by rw [hlast, hdata]; exact hinv.refreshed
  past := by rw [hdata, hnow]; exact hinv.past
  passed := by rw [hloads, hlast, hnow]; exact hinv.passed
  held := by rw [hloads, hlast]; exact hinv.held
  replaced := by rw [hreplaced]; exact hinv.replaced

theorem inv_checked (hinv : Inv s) (dpk : DataPointKey) : Inv (s.checked dpk) := by
  unfold checked
  split
  · exact hinv.of_eq rfl rfl rfl rfl rfl
  · exact hinv

theorem lastEvent_checked (dpk : DataPointKey) : (s.checked dpk).lastEvent = s.lastEvent := by
  unfold checked
  split <;> rfl

theorem inv_addEntries (hinv : Inv s) (dpk : DataPointKey) (values : Dict String (Option R)) :
    Inv (s.addEntries dpk values) :=
  hinv.of_eq rfl rfl rfl rfl rfl

theorem inv_setLoad (hinv : Inv s) (n : Nat) {phase : LoadPhase R}
    (hpassed : phase.unchanged ≠ some true)
    (hheld : ∀ keptAt ∈ phase.keptAt, ∀ e ∈ s.lastEvent, (e : Int) ≤ keptAt) :
    Inv (s.setLoad n phase) where
  refreshed := hinv.refreshed
  past := hinv.past
  passed := by
    intro phase' hphase' hunchanged
    rcases List.mem_or_eq_of_mem_set hphase' with hmem | rfl
    · exact hinv.passed phase' hmem hunchanged
    · exact absurd hunchanged hpassed
  held := by
    intro phase' hphase'
    rcases List.mem_or_eq_of_mem_set hphase' with hmem | rfl
    · exact hinv.held phase' hmem
    · exact hheld
  replaced := hinv.replaced

/-- The value is not older than the last event, if it comes from a cache. -/
def NotOlder (held : Held R) (s : Loading R P) : Prop :=
  ∀ keptAt ∈ held.keptAt, ∀ e ∈ s.lastEvent, (e : Int) ≤ keptAt

theorem lastEvent_updateStatus (status : CacheEntry R) :
    (s.updateStatus status).lastEvent = s.lastEvent := by
  cases status <;> rfl

theorem inv_updateStatus (hinv : Inv s) (status : CacheEntry R) : Inv (s.updateStatus status) := by
  cases status with
  | entry value => exact hinv.of_eq rfl rfl rfl rfl rfl
  | noCacheEntry => exact hinv

theorem inv_getValue (hinv : Inv s) (n : Nat) (dpk : DataPointKey) (available : Bool)
    {phase : LoadPhase R} (hpassed : phase.unchanged ≠ some true)
    (hphase : ∀ keptAt ∈ phase.keptAt, ∀ e ∈ s.lastEvent, (e : Int) ≤ keptAt)
    {loaded : Held R → Loading R P → Loading R P}
    (hcached : ∀ c ∈ s.getValueFromCache dpk, Inv (loaded c.held (s.checked dpk)))
    (hloaded : ∀ held t, held.keptAt = none → t.lastEvent = s.lastEvent → Inv t →
      Inv (loaded held t)) :
    Inv (s.getValue n dpk available phase loaded) := by
  have hchecked := inv_checked hinv dpk
  unfold getValue
  dsimp only
  split
  next cached hc => exact hcached cached hc
  · split
    · exact hloaded _ _ rfl (lastEvent_checked dpk) (inv_addEntries hchecked _ _)
    · refine inv_setLoad hchecked n hpassed ?_
      rw [lastEvent_checked]
      exact hphase

variable [DecidableEq P]

theorem inv_write (hinv : Inv s) {held : Held R} (hheld : NotOlder held s) :
    Inv (s.write held) where
  refreshed := by
    intro e he
    obtain ⟨hset, hle⟩ := hinv.refreshed e he
    have hpast := hinv.past
    refine ⟨hset, ?_⟩
    rcases s.dataPoint.refreshedAt_load held.value s.now with hload | hload
    · exact (hle.trans hpast).trans (Nat.le_of_eq hload.symm)
    · exact hle.trans (Nat.le_of_eq hload.symm)
  past := by
    rcases s.dataPoint.refreshedAt_load held.value s.now with hload | hload
    · exact Nat.le_of_eq hload
    · exact (Nat.le_of_eq hload).trans hinv.past
  passed := hinv.passed
  held := hinv.held
  replaced := by
    intro r hr
    simp only [write] at hr
    split at hr
    next value keptAt =>
      rcases List.mem_append.mp hr with hr | hr
      · exact hinv.replaced r hr
      · cases List.mem_singleton.mp hr
        exact hheld keptAt rfl
    · exact hinv.replaced r hr

theorem inv_valueLoaded (hinv : Inv s) (n : Nat) {held : Held R} (hheld : NotOlder held s) :
    Inv (s.valueLoaded n held) := by
  unfold valueLoaded
  split
  · exact inv_setLoad hinv n nofun hheld
  · exact inv_setLoad (inv_write hinv hheld) n nofun nofun

theorem inv_statusLoaded (hinv : Inv s) (n : Nat) {held : Held R} (hheld : NotOlder held s)
    (status : CacheEntry R) : Inv (s.statusLoaded n held status) := by
  have hupdated := inv_updateStatus hinv status
  have hheld : NotOlder held (s.updateStatus status) := by
    unfold NotOlder
    rw [lastEvent_updateStatus]
    exact hheld
  unfold statusLoaded
  dsimp only
  split
  · exact inv_setLoad hupdated n nofun nofun
  · exact inv_setLoad (inv_write hupdated hheld) n nofun nofun

theorem inv_loadDataPointValue (hinv : Inv s) {callSource : CallSource}
    (ha : s.InTime (.load callSource)) : Inv (s.loadDataPointValue callSource) := by
  unfold loadDataPointValue
  dsimp only
  split
  next hignores =>
    split
    next c hc =>
      refine inv_write (inv_checked hinv _) ?_
      intro keptAt hkept e he
      cases Option.some.inj hkept
      rw [lastEvent_checked] at he
      have hanswers := ha hignores c hc
      exact le_of_answersInTime hinv (fun h => absurd h (by decide)) hanswers e he
    · exact inv_checked hinv _
  · split
    · exact hinv
    next hchanged =>
      split
      · exact hinv
      · have hold := old_of_check hinv (Bool.eq_false_of_not_eq_true hchanged)
        refine ⟨hinv.refreshed, hinv.past, ?_, ?_, hinv.replaced⟩
        · intro phase hphase hunchanged
          rcases List.mem_append.mp hphase with hphase | hphase
          · exact hinv.passed phase hphase hunchanged
          · exact hold
        · intro phase hphase
          rcases List.mem_append.mp hphase with hphase | hphase
          · exact hinv.held phase hphase
          · cases List.mem_singleton.mp hphase
            exact nofun

theorem inv_acquired (hinv : Inv s) {available : Bool} (ha : s.InTime (.acquired n available))
    (h : s.run (.acquired n available) = some t) : Inv t := by
  simp only [run] at h
  split at h
  next unchanged hfree hn =>
    cases h
    have hpassed : unchanged = true → ∀ e ∈ s.lastEvent,
        (e : Int) + maxCacheAge * microsecondsPerSecond ≤ s.now := by
      rintro rfl
      exact hinv.passed _ (List.mem_of_getElem? hn) rfl
    have hfetching : (LoadPhase.fetching : LoadPhase R).unchanged ≠ some true := nofun
    refine inv_getValue hinv n _ available hfetching nofun ?_ ?_
    · intro c hc
      have hanswers := ha unchanged (by rw [hn]; rfl) c hc
      refine inv_valueLoaded (inv_checked hinv _) n ?_
      intro keptAt hkept
      cases Option.some.inj hkept
      rw [lastEvent_checked]
      exact le_of_answersInTime hinv hpassed hanswers
    · intro held t hkept hlast ht
      refine inv_valueLoaded ht n fun keptAt hkeptAt => ?_
      rw [hkept] at hkeptAt
      cases hkeptAt
  next held dpk hfree hn hdpk =>
    cases h
    have hheld := hinv.held _ (List.mem_of_getElem? hn)
    have hfetching : (LoadPhase.statusFetching held).unchanged ≠ some true := nofun
    refine inv_getValue hinv n dpk available hfetching hheld ?_ ?_
    · intro c hc
      refine inv_statusLoaded (inv_checked hinv _) n ?_ _
      unfold NotOlder
      rw [lastEvent_checked]
      exact hheld
    · intro status t _ hlast ht
      refine inv_statusLoaded ht n ?_ _
      unfold NotOlder
      rw [hlast]
      exact hheld
  · cases h

theorem inv_answered (hinv : Inv s) {result : Option (Dict String R)}
    (h : s.run (.answered n result) = some t) : Inv t := by
  simp only [run] at h
  split at h
  · cases h
    exact inv_valueLoaded (inv_addEntries hinv _ _) n nofun
  next held dpk hn hdpk =>
    cases h
    exact inv_statusLoaded (inv_addEntries hinv _ _) n
      (hinv.held _ (List.mem_of_getElem? hn)) _
  · cases h

theorem keptAt_changed (phase : LoadPhase R) : phase.changed.keptAt = phase.keptAt := by
  cases phase <;> rfl

theorem unchanged_changed (phase : LoadPhase R) : phase.changed.unchanged ≠ some true := by
  cases phase <;> simp [LoadPhase.changed, LoadPhase.unchanged]

theorem inv_event (hinv : Inv s) {value : R} {receivedAt : Nat}
    (ha : s.InTime (.event value receivedAt)) (h : s.run (.event value receivedAt) = some t) :
    Inv t := by
  simp only [run] at h
  split at h
  next htime =>
    cases h
    have hrefreshed : (s.dataPoint.event value receivedAt).refreshedAt = receivedAt :=
      DataPoint.refreshedAt_writeValue_entry ..
    refine ⟨?_, ?_, ?_, ?_, hinv.replaced⟩
    · intro e he
      cases Option.some.inj he
      exact ⟨htime.1, Nat.le_of_eq hrefreshed.symm⟩
    · exact (Nat.le_of_eq hrefreshed).trans htime.2
    · intro phase hphase hunchanged
      obtain ⟨phase, -, rfl⟩ := List.mem_map.mp hphase
      exact absurd hunchanged (unchanged_changed phase)
    · intro phase' hphase' keptAt hkept e he
      obtain ⟨phase, hphase, rfl⟩ := List.mem_map.mp hphase'
      rw [keptAt_changed] at hkept
      cases Option.some.inj he
      exact ha phase hphase keptAt hkept
  · cases h

theorem inv_run (hinv : Inv s) {a : Action R} (ha : s.InTime a) (h : s.run a = some t) :
    Inv t := by
  cases a with
  | load callSource =>
    cases h
    exact inv_loadDataPointValue hinv ha
  | acquired n available => exact inv_acquired hinv ha h
  | answered n result => exact inv_answered hinv h
  | cancel n =>
    obtain ⟨phase, -, rfl⟩ := Option.map_eq_some_iff.mp h
    exact inv_setLoad hinv n nofun nofun
  | event value receivedAt => exact inv_event hinv ha h
  | statusEvent value =>
    cases h
    exact inv_updateStatus hinv _
  | fetchAllDeviceData interface allDeviceData =>
    cases h
    exact hinv.of_eq rfl rfl rfl rfl rfl
  | clearData interface =>
    cases h
    exact hinv.of_eq rfl rfl rfl rfl rfl
  | cleanupData =>
    cases h
    exact hinv.of_eq rfl rfl rfl rfl rfl
  | setInitializationComplete =>
    cases h
    exact hinv.of_eq rfl rfl rfl rfl rfl
  | addEntries dpk values =>
    cases h
    exact inv_addEntries hinv dpk values

omit [DecidableEq P] in
theorem inv_later (hinv : Inv s) {now : Nat} (hnow : s.now ≤ now) : Inv { s with now := now } where
  refreshed := hinv.refreshed
  past := hinv.past.trans hnow
  passed := fun phase hphase hunchanged e he =>
    (hinv.passed phase hphase hunchanged e he).trans (Int.ofNat_le.mpr hnow)
  held := hinv.held
  replaced := hinv.replaced

variable {info : LoadInfo R} {dataPoint : ParameterInfo R P}

theorem reach_inv (h : (system info dataPoint).Reach Covered s) : Inv s := by
  refine h.invariant (P := Inv) ?_ ?_
  · refine ⟨?_, Nat.le_refl 0, ?_, ?_, ?_⟩
    · intro e he
      cases he
    · intro phase hphase
      cases hphase
    · intro phase hphase
      cases hphase
    · intro r hr
      cases hr
  · intro s a t hinv ha hstep
    simp only [system] at hstep
    split at hstep
    · cases hstep
    next hnow => exact inv_run (inv_later hinv (Nat.not_lt.mp hnow)) ha hstep

/-! ## What the checks of the code do -/

omit [DecidableEq P] in
/-- Once the devices are created, a cache answers only within the maximum age. -/
theorem changed_of_cached {dpk : DataPointKey} {c : Cached R}
    (hcreated : s.data.isInitializing = false) (hc : c ∈ s.getValueFromCache dpk) :
    changedWithinSeconds s.now c.refreshedAt maxCacheAge = true := by
  rcases Option.or_eq_some_iff.mp hc with hglobal | ⟨-, hdevice⟩
  · unfold getGlobalValue at hglobal
    split at hglobal
    · obtain ⟨value, hvalue, rfl⟩ := Option.map_eq_some_iff.mp hglobal
      refine Bool.eq_true_of_not_eq_false fun hchanged => ?_
      have hempty : (s.data.isEmpty s.now s.info.interface).1 = true := by
        simp only [CentralDataCache.isEmpty, hcreated]
        rw [hchanged]
        split <;> rfl
      simp only [getData, CentralDataCache.getData, if_pos hempty] at hvalue
      cases hvalue
    · cases hglobal
  · obtain ⟨entry, -, hentry⟩ := Option.bind_eq_some_iff.mp hdevice
    split at hentry
    next hvalid =>
      obtain ⟨value, -, rfl⟩ := Option.map_eq_some_iff.mp hentry
      exact (Bool.and_eq_true_iff.mp hvalid).2
    · cases hentry

omit [DecidableEq P] in
/-- Once the devices are created, and unless full days hide an age, a load that no event has
overtaken since its check is answered in time. -/
theorem inTime_of_unchanged {available : Bool} (hn : s.loads[n]? = some (.waiting true))
    (hcreated : s.data.isInitializing = false)
    (htells : ∀ c ∈ s.getValueFromCache s.dataPoint.info.dpk,
      Tells s.now c.refreshedAt maxCacheAge) : s.InTime (.acquired n available) := by
  intro unchanged hunchanged c hc
  rw [hn] at hunchanged
  cases Option.some.inj hunchanged
  have hchanged := changed_of_cached hcreated hc
  exact .inr ⟨changedWithinSeconds_iff.mpr (htells c hc) hchanged, .inl rfl⟩

instance (unchanged : Bool) (c : Cached R) (s : Loading R P) :
    Decidable (s.AnswersInTime unchanged c) :=
  inferInstanceAs (Decidable ((∀ e ∈ s.lastEvent, (e : Int) ≤ c.refreshedAt) ∨
    AgedAtMost s.now c.refreshedAt maxCacheAge ∧
      (unchanged = true ∨ changedWithinSeconds s.now s.dataPoint.refreshedAt maxCacheAge = false)))

instance (s : Loading R P) : DecidablePred (InTime s)
  | .load callSource => inferInstanceAs (Decidable (s.ignores callSource = true →
      ∀ c ∈ s.getGlobalValue s.dataPoint.info.dpk, s.AnswersInTime false c))
  | .acquired n _ => inferInstanceAs (Decidable
      (∀ unchanged ∈ (s.loads[n]?).bind LoadPhase.unchanged,
        ∀ c ∈ s.getValueFromCache s.dataPoint.info.dpk, s.AnswersInTime unchanged c))
  | .event _ receivedAt => inferInstanceAs (Decidable
      (∀ phase ∈ s.loads, ∀ keptAt ∈ phase.keptAt, (receivedAt : Int) ≤ keptAt))
  | .answered .. => .isTrue trivial
  | .cancel _ => .isTrue trivial
  | .statusEvent _ => .isTrue trivial
  | .fetchAllDeviceData .. => .isTrue trivial
  | .clearData _ => .isTrue trivial
  | .cleanupData => .isTrue trivial
  | .setInitializationComplete => .isTrue trivial
  | .addEntries .. => .isTrue trivial

instance : DecidableRel (Covered : Loading R P → Nat × Action R → Prop) := fun s a =>
  inferInstanceAs (Decidable ({ s with now := a.1 }.InTime a.2))

/-- A load of an ignored data point that is not covered puts an older value back. -/
theorem outdated_of_ignored {callSource : CallSource} (h : ¬s.InTime (.load callSource)) :
    ∃ r ∈ (s.loadDataPointValue callSource).replaced, ∃ e ∈ r.lastEvent, r.keptAt < (e : Int) := by
  simp only [InTime, AnswersInTime] at h
  push Not at h
  obtain ⟨hignores, c, hc, ⟨e, he, hlt⟩, -⟩ := h
  have hvalue : ∃ value, c.value = some value := by
    unfold getGlobalValue at hc
    split at hc
    · obtain ⟨value, -, rfl⟩ := Option.map_eq_some_iff.mp hc
      exact ⟨value, rfl⟩
    · cases hc
  obtain ⟨value, hvalue⟩ := hvalue
  have hheld : c.held = ⟨.entry value, some c.refreshedAt⟩ := by
    rw [Cached.held, hvalue]
    rfl
  refine ⟨⟨c.refreshedAt, (s.checked s.dataPoint.info.dpk).lastEvent⟩, ?_, e, ?_, hlt⟩
  · simp only [loadDataPointValue, if_pos hignores]
    rw [Option.mem_def.mp hc]
    simp only [write, hheld]
    exact List.mem_append_right _ List.mem_cons_self
  · rw [lastEvent_checked]
    exact he

/-- While the caches answer in time and no event overtakes an answer, no value of a cache that is
older than the last event replaces the confirmed value. The checks of the code see to it that a
load which waits is answered in time, if no event has come since its check; without them, a data
point that is ignored on the initial load gets an older value back whenever it is not. -/
theorem replaced_not_outdated (info : LoadInfo R) (dataPoint : ParameterInfo R P)
    (s : Loading R P) (h : (system info dataPoint).Reach Covered s) :
    (∀ r ∈ s.replaced, ∀ e ∈ r.lastEvent, (e : Int) ≤ r.keptAt) ∧
    (∀ now n available, s.loads[n]? = some (.waiting true) → s.data.isInitializing = false →
      (∀ c ∈ getValueFromCache s.dataPoint.info.dpk { s with now := now },
        Tells now c.refreshedAt maxCacheAge) → Covered s (now, .acquired n available)) ∧
    (∀ now callSource t, (system info dataPoint).step s (now, .load callSource) = some t →
      ¬Covered s (now, .load callSource) →
      ∃ r ∈ t.replaced, ∃ e ∈ r.lastEvent, r.keptAt < (e : Int)) := by
  refine ⟨(reach_inv h).replaced, ?_, ?_⟩
  · intro now n available hn hcreated htells
    exact inTime_of_unchanged hn hcreated htells
  · intro now callSource t hstep hnot
    simp only [system] at hstep
    split at hstep
    · cases hstep
    · cases hstep
      exact outdated_of_ignored hnot

def lowBat : ParameterInfo Nat Nat where
  dpk := ⟨"CCU-HmIP-RF", "0001D3C99C6AB3:0", .values, "LOW_BAT"⟩
  convertValue := some

def sampleInfo (ignoreOnInitialLoad : Bool) : LoadInfo Nat :=
  { interface := "HmIP-RF", ignoreOnInitialLoad, pyNone := 0 }

/-- All values are fetched a second after the start, and an event comes a second later. -/
def sampleEvent : List (Nat × Action Nat) :=
  [(1000000, .setInitializationComplete),
    (1000000, .fetchAllDeviceData "HmIP-RF"
      (Dict.empty.set "HmIP-RF.0001D3C99C6AB3:0.LOW_BAT" 0)),
    (2000000, .event 1 2000000)]

/-- Ten seconds after the event, a load finds what was fetched in between. -/
def sampleLoad : List (Nat × Action Nat) :=
  sampleEvent ++ [(11000000, .fetchAllDeviceData "HmIP-RF"
      (Dict.empty.set "HmIP-RF.0001D3C99C6AB3:0.LOW_BAT" 2)),
    (12000000, .load .manualOrScheduled), (12000000, .acquired 0 true)]

theorem replaced_not_outdated_refetched :
    ∃ s, (system (sampleInfo false) lowBat).replay Covered
        (system (sampleInfo false) lowBat).init sampleLoad = some s ∧
      s.replaced ≠ [] ∧ ∀ r ∈ s.replaced, ∀ e ∈ r.lastEvent, (e : Int) ≤ r.keptAt := by
  obtain ⟨s, hs, hreplaced⟩ := replay_any (p := fun s : Loading Nat Nat => s.replaced ≠ [])
    (show ((system (sampleInfo false) lowBat).replay Covered
      (system (sampleInfo false) lowBat).init sampleLoad).any _ = true by decide +kernel)
  have hcurrent := replaced_not_outdated (sampleInfo false) lowBat s (reach_of_replay hs)
  exact ⟨s, hs, hreplaced, hcurrent.1⟩

/-- The load of a data point that is ignored on the initial load puts the value that was fetched
before the event back. -/
theorem replaced_outdated :
    ∃ s t, (system (sampleInfo true) lowBat).Reach Free s ∧
      (system (sampleInfo true) lowBat).step s (3000000, .load .haInit) = some t ∧
      s.dataPoint.currentValue = some 1 ∧ t.dataPoint.currentValue = some 0 ∧
      t.replaced = [⟨1000000, some 2000000⟩] := by
  obtain ⟨s, hs, hevent, htest⟩ := replay_any
    (p := fun s : Loading Nat Nat => s.dataPoint.currentValue = some 1 ∧
      ((system (sampleInfo true) lowBat).step s (3000000, .load .haInit)).any (fun t =>
        decide (t.dataPoint.currentValue = some 0 ∧
          t.replaced = [⟨1000000, some 2000000⟩])) = true)
    (show ((system (sampleInfo true) lowBat).replay Free (system (sampleInfo true) lowBat).init
      sampleEvent).any _ = true by decide +kernel)
  obtain ⟨t, ht, htest⟩ := (Option.any_eq_true _ _).mp htest
  exact ⟨s, t, reach_of_replay hs, ht, hevent, of_decide_eq_true htest⟩

end Loading

end AioHomematic.Model
