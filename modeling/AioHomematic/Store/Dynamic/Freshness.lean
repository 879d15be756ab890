import AioHomematic.Lib.StepSystem
import AioHomematic.Store.Dynamic.Command
import AioHomematic.Store.Dynamic.Data

/-!
# The freshness of cached values

The data cache, the command tracker of a client and the values that a device
has loaded (`_ValueCache`), with the last write to each key. `fresh_of_reach`
says when a read delivers nothing that is older than the maximum age given for
it.
-/

namespace AioHomematic.Store

open Lib Support StepSystem

inductive CacheAction (V : Type*) where
  | addData (interface : String) (allDeviceData : Dict String V)
  | getData (interface channelAddress parameter : String)
  | clearData (interface : Option String)
  | cleanupData
  | setInitializationComplete
  | addPutParamset (channelAddress : String) (paramsetKey : ParamsetKey) (values : Dict String V)
  | addSetValue (combined : Option (Dict String V)) (channelAddress parameter : String) (value : V)
  | getLastValueSend (dpk : DataPointKey) (maxAge : Int)
  | removeLastValueSend (dpk : DataPointKey) (value : Option V) (maxAge : Int)
  | cleanupExpired (maxAge : Int)
  | clearCommands
  | addEntryToDeviceCache (dpk : DataPointKey) (value : Option V)

/-- `dataWrites`, `commandWrites` and `entryWrites` are the last writes, with their times. -/
structure Caches (V : Type*) where
  now : Int
  data : CentralDataCache V := {}
  commands : CommandTracker V
  deviceCache : Dict DataPointKey (CacheEntry V) := .empty
  dataWrites : Dict String (Int × Dict String V) := .empty
  commandWrites : Dict DataPointKey (Int × V) := .empty
  entryWrites : Dict DataPointKey (Int × Option V) := .empty

namespace Caches

variable {V : Type*} [DecidableEq V] (s : Caches V) (interfaces : List String)

/-- The commands are written now. -/
def wrote (commands : List (DataPointKey × V)) : Dict DataPointKey (Int × V) :=
  commands.foldl (fun writes e => writes.set e.1 (s.now, e.2)) s.commandWrites

/-- An action at the time `s.now`. -/
def run : CacheAction V → Caches V
  | .addData interface allDeviceData =>
    { s with
      data := s.data.addData s.now interface allDeviceData
      dataWrites := s.dataWrites.set interface (s.now, allDeviceData) }
  | .getData interface channelAddress parameter =>
    { s with data := (s.data.getData s.now interface channelAddress parameter).2 }
  | .clearData (some interface) => { s with data := s.data.clear interface }
  | .clearData none => { s with data := s.data.clearAll interfaces }
  | .cleanupData => { s with data := s.data.cleanup s.now }
  | .setInitializationComplete => { s with data := s.data.setInitializationComplete }
  | .addPutParamset channelAddress paramsetKey values =>
    { s with
      commands := s.commands.addPutParamset s.now channelAddress paramsetKey values
      commandWrites := s.wrote (s.commands.paramsetCommands channelAddress paramsetKey values) }
  | .addSetValue combined channelAddress parameter value =>
    { s with
      commands := s.commands.addSetValue s.now combined channelAddress parameter value
      commandWrites := s.wrote
        (s.commands.valueCommands combined channelAddress parameter value) }
  | .getLastValueSend dpk maxAge =>
    { s with commands := (s.commands.getLastValueSend s.now dpk maxAge).2 }
  | .removeLastValueSend dpk value maxAge =>
    { s with commands := s.commands.removeLastValueSend s.now dpk value maxAge }
  | .cleanupExpired maxAge => { s with commands := s.commands.cleanupExpired s.now maxAge }
  | .clearCommands => { s with commands := { s.commands with lastSendCommand := .empty } }
  | .addEntryToDeviceCache dpk value =>
    { s with
      deviceCache := s.deviceCache.set dpk { value, refreshAt := s.now }
      entryWrites := s.entryWrites.set dpk (s.now, value) }

/-- Actions with their times, which do not go back. -/
def system (start : Int) (interfaceId : String) : StepSystem (Caches V) (Int × CacheAction V) where
  init := { now := start, commands := { interfaceId } }
  step s a := if a.1 < s.now then none else some ({ s with now := a.1 }.run interfaces a.2)

/-! ## Reading -/

inductive Read where
  | getData (interface channelAddress parameter : String)
  | getLastValueSend (dpk : DataPointKey) (maxAge : Int)
  /-- The entry of a device, if it is valid. -/
  | deviceCache (dpk : DataPointKey)

/-- What a read delivers. -/
def deliver (now : Int) : Read → Option V
  | .getData interface channelAddress parameter =>
    (s.data.getData now interface channelAddress parameter).1
  | .getLastValueSend dpk maxAge => (s.commands.getLastValueSend now dpk maxAge).1
  | .deviceCache dpk =>
    (s.deviceCache.get? dpk).bind fun entry => if entry.isValid now then entry.value else none

/-- The maximum age given for a read; for the data cache there is none before the devices have been
created. -/
def maximumAge : Read → Option Int
  | .getData .. => if s.data.isInitializing then none else some maxCacheAge
  | .getLastValueSend _ maxAge => some maxAge
  | .deviceCache _ => some maxCacheAge

/-- The last write to what is read. -/
def lastWrite : Read → Option (Int × V)
  | .getData interface channelAddress parameter =>
    (s.dataWrites.get? interface).bind fun write =>
      (write.2.get? (CentralDataCache.dataKey interface channelAddress parameter)).map (write.1, ·)
  | .getLastValueSend dpk _ => s.commandWrites.get? dpk
  | .deviceCache dpk => (s.entryWrites.get? dpk).bind fun write => write.2.map (write.1, ·)

/-- What the read delivers was written last, and its age does not exceed the maximum. -/
def FreshRead (now : Int) (r : Read) : Prop :=
  ∀ value, s.deliver now r = some value → ∀ maxAge, s.maximumAge r = some maxAge →
    ∃ writtenAt, s.lastWrite r = some (writtenAt, value) ∧ AgedAtMost now writtenAt maxAge

/-- What is stored for a read, with the time kept for it. -/
def stored : Read → Option (Int × V)
  | .getData interface channelAddress parameter =>
    (s.data.find interface channelAddress parameter).map (s.data.getRefreshedAt interface, ·)
  | .getLastValueSend dpk _ =>
    (s.commands.lastSendCommand.get? dpk).map fun cached => (cached.sentAt, cached.value)
  | .deviceCache dpk =>
    (s.deviceCache.get? dpk).bind fun entry => entry.value.map (entry.refreshAt, ·)

/-- Nothing is stored that has an age whose full days hide that it is too high. -/
def Told (now : Int) (r : Read) : Prop :=
  ∀ writtenAt value, s.stored r = some (writtenAt, value) →
    ∀ maxAge, s.maximumAge r = some maxAge → Tells now writtenAt maxAge

variable {s interfaces}

omit [DecidableEq V] in
theorem stored_getData_of_hasNoData {interface : String} (h : s.data.hasNoData interface = true)
    (channelAddress parameter : String) :
    s.stored (.getData interface channelAddress parameter) = none := by
  simp only [CentralDataCache.hasNoData] at h
  simp only [stored, CentralDataCache.find]
  split at h
  next hnone =>
    rw [hnone]
    rfl
  next data hdata =>
    rw [hdata, Option.bind_some, Dict.get?, List.isEmpty_iff.mp h]
    rfl

theorem deliver_iff {now : Int} {r : Read} {value : V} :
    s.deliver now r = some value ↔
      ∃ writtenAt, s.stored r = some (writtenAt, value) ∧ ∀ maxAge, s.maximumAge r = some maxAge →
        changedWithinSeconds now writtenAt maxAge = true := by
  cases r with
  | getData interface channelAddress parameter =>
    simp only [deliver, CentralDataCache.getData, CentralDataCache.isEmpty, maximumAge]
    split
    next hempty =>
      rw [stored_getData_of_hasNoData hempty]
      simp
    next hdata =>
      cases s.data.isInitializing with
      | true => simp [stored]
      | false =>
        cases hchanged : changedWithinSeconds now (s.data.getRefreshedAt interface) maxCacheAge with
        | true => simp [stored, hchanged]
        | false => simp [stored, hchanged]
  | getLastValueSend dpk maxAge =>
    simp only [deliver, CommandTracker.getLastValueSend, stored, maximumAge]
    cases s.commands.lastSendCommand.get? dpk with
    | none => simp
    | some cached =>
      dsimp only
      split
      next hchanged => simp [hchanged]
      next hchanged => simp [hchanged]
  | deviceCache dpk =>
    simp only [deliver, stored, maximumAge]
    cases s.deviceCache.get? dpk with
    | none => simp
    | some entry =>
      cases hvalue : entry.value with
      | none => simp [hvalue]
      | some v =>
        cases hchanged : changedWithinSeconds now entry.refreshAt maxCacheAge with
        | true => simp [CacheEntry.isValid, hvalue, hchanged]
        | false => simp [CacheEntry.isValid, hvalue, hchanged]

/-! ## Runs -/

/-- What is stored are the last writes, with their times. -/
structure Recorded (s : Caches V) : Prop where
  data : s.data.RecordedBy s.dataWrites
  commands : s.commands.RecordedBy s.commandWrites
  entries : ∀ dpk entry, s.deviceCache.get? dpk = some entry →
    s.entryWrites.get? dpk = some (entry.refreshAt, entry.value)

theorem recorded_run (h : s.Recorded) (a : CacheAction V) : (s.run interfaces a).Recorded := by
  cases a with
  | addData interface allDeviceData =>
    exact { h with data := CentralDataCache.recordedBy_addData h.data _ _ _ }
  | getData interface channelAddress parameter =>
    exact { h with data := CentralDataCache.recordedBy_getData h.data _ _ _ _ }
  | clearData interface =>
    cases interface with
    | some interface => exact { h with data := CentralDataCache.recordedBy_clear h.data _ }
    | none => exact { h with data := CentralDataCache.recordedBy_clearAll h.data _ }
  | cleanupData => exact { h with data := CentralDataCache.recordedBy_cleanup h.data _ }
  | setInitializationComplete => exact { h with }
  | addPutParamset channelAddress paramsetKey values =>
    exact { h with
      commands := CommandTracker.recordedBy_sent
        (CommandTracker.recordedBy_makeRoom h.commands _) _ _ }
  | addSetValue combined channelAddress parameter value =>
    exact { h with commands := CommandTracker.recordedBy_addSetValue h.commands _ _ _ _ _ }
  | getLastValueSend dpk maxAge =>
    exact { h with commands := CommandTracker.recordedBy_getLastValueSend h.commands _ _ _ }
  | removeLastValueSend dpk value maxAge =>
    exact { h with commands := CommandTracker.recordedBy_removeLastValueSend h.commands _ _ _ _ }
  | cleanupExpired maxAge =>
    exact { h with commands := CommandTracker.recordedBy_without h.commands _ }
  | clearCommands => exact { h with commands := nofun }
  | addEntryToDeviceCache dpk value =>
    refine { h with entries := fun dpk' entry hentry => ?_ }
    simp only [run, Dict.get?_set] at hentry ⊢
    split at hentry
    next heq =>
      obtain rfl := Option.some.inj hentry
      exact if_pos heq
    next hother =>
      rw [if_neg hother]
      exact h.entries dpk' entry hentry

theorem recorded_of_reach {start : Int} {interfaceId : String}
    (hr : (system interfaces start interfaceId).Reach Free s) : s.Recorded := by
  refine hr.invariant ⟨nofun, nofun, nofun⟩ fun s a t h _ hs => ?_
  simp only [system] at hs
  split at hs
  · cases hs
  · obtain rfl := Option.some.inj hs
    exact recorded_run (s := { s with now := a.1 }) ⟨h.data, h.commands, h.entries⟩ a.2

omit [DecidableEq V] in
theorem Recorded.lastWrite (h : s.Recorded) {r : Read} {write : Int × V}
    (hstored : s.stored r = some write) : s.lastWrite r = some write := by
  cases r with
  | getData interface channelAddress parameter =>
    simp only [stored, CentralDataCache.find, Option.map_eq_some_iff, Option.bind_eq_some_iff]
      at hstored
    obtain ⟨value, ⟨data, hdata, hvalue⟩, rfl⟩ := hstored
    have hne : data.entries ≠ [] := by
      intro hnil
      rw [Dict.get?, hnil] at hvalue
      cases hvalue
    simp [Caches.lastWrite, h.data interface data hdata hne, hvalue]
  | getLastValueSend dpk maxAge =>
    obtain ⟨cached, hcached, rfl⟩ := Option.map_eq_some_iff.mp hstored
    exact h.commands dpk cached hcached
  | deviceCache dpk =>
    obtain ⟨entry, hentry, hvalue⟩ := Option.bind_eq_some_iff.mp hstored
    simp only [Caches.lastWrite, h.entries dpk entry hentry]
    exact hvalue

/-- Within a day nothing is delivered that is too old. -/
theorem fresh_within_day {start : Int} {interfaceId : String}
    (hr : (system interfaces start interfaceId).Reach Free s) {now : Int} {r : Read}
    (hday : ∀ writtenAt value, s.stored r = some (writtenAt, value) →
      writtenAt ≤ now ∧ now - writtenAt < secondsPerDay * microsecondsPerSecond) :
    s.FreshRead now r := by
  intro value hdeliver maxAge hmax
  obtain ⟨writtenAt, hstored, hchanged⟩ := deliver_iff.mp hdeliver
  obtain ⟨hlater, hwithin⟩ := hday writtenAt value hstored
  exact ⟨writtenAt, (recorded_of_reach hr).lastWrite hstored,
    changedWithinSeconds_iff.mpr (tells_within_day hlater hwithin) (hchanged maxAge hmax)⟩

/-- A read delivers nothing that is too old unless the full days of its age hide it. -/
theorem fresh_of_reach {start : Int} {interfaceId : String}
    (hr : (system interfaces start interfaceId).Reach Free s) (now : Int) (r : Read) :
    s.FreshRead now r ↔ s.Told now r := by
  have hrecorded := recorded_of_reach hr
  constructor
  · intro hfresh writtenAt value hstored maxAge hmax
    refine changedWithinSeconds_iff.mp fun hchanged => ?_
    have hdeliver : s.deliver now r = some value :=
      deliver_iff.mpr ⟨writtenAt, hstored, fun maxAge' hmax' => by
        obtain rfl := Option.some.inj (hmax.symm.trans hmax')
        exact hchanged⟩
    obtain ⟨writtenAt', hlast, haged⟩ := hfresh value hdeliver maxAge hmax
    rw [hrecorded.lastWrite hstored] at hlast
    obtain rfl := congrArg Prod.fst (Option.some.inj hlast)
    exact haged
  · intro htold value hdeliver maxAge hmax
    obtain ⟨writtenAt, hstored, hchanged⟩ := deliver_iff.mp hdeliver
    exact ⟨writtenAt, hrecorded.lastWrite hstored,
      changedWithinSeconds_iff.mpr (htold writtenAt value hstored maxAge hmax)
        (hchanged maxAge hmax)⟩

/-- The data of an interface, written a second after `INIT_DATETIME`. -/
def fetched : List (Int × CacheAction Nat) :=
  [(1000000, .setInitializationComplete),
    (1000000, .addData "HmIP-RF" (Dict.empty.set "HmIP-RF.0001D3C99C6AB3:1.STATE" 1))]

def stateRead : Read := .getData "HmIP-RF" "0001D3C99C6AB3:1" "STATE"

def oneDayLater : Int := 1000000 + 86405 * 1000000

/-- A value that was written a day and five seconds ago is delivered. -/
theorem not_fresh : ∃ s : Caches Nat, (system [] 0 "HmIP-RF").Reach Free s ∧
    s.now ≤ oneDayLater ∧ ¬ s.FreshRead oneDayLater stateRead := by
  obtain ⟨s, hs, hlater, hdeliver, hmax, hlast⟩ := replay_any (p := fun s : Caches Nat =>
      s.now ≤ oneDayLater ∧ s.deliver oneDayLater stateRead = some 1 ∧
        s.maximumAge stateRead = some 10 ∧ s.lastWrite stateRead = some (1000000, 1))
    (show ((system [] 0 "HmIP-RF").replay Free (system [] 0 "HmIP-RF").init fetched).any _ = true
      by decide +kernel)
  refine ⟨s, reach_of_replay hs, hlater, fun hfresh => ?_⟩
  obtain ⟨writtenAt, hlast', haged⟩ := hfresh 1 hdeliver 10 hmax
  obtain rfl := congrArg Prod.fst (Option.some.inj (hlast.symm.trans hlast'))
  exact absurd haged (by decide)

theorem fresh_of_reach_fetched : ∃ s : Caches Nat, s.deliver 6000000 stateRead = some 1 ∧
    (s.FreshRead 6000000 stateRead ↔ s.Told 6000000 stateRead) := by
  obtain ⟨s, hs, hdeliver⟩ := replay_any
    (p := fun s : Caches Nat => s.deliver 6000000 stateRead = some 1)
    (show ((system [] 0 "HmIP-RF").replay Free (system [] 0 "HmIP-RF").init fetched).any _ = true
      by decide +kernel)
  exact ⟨s, hdeliver, fresh_of_reach (reach_of_replay hs) 6000000 stateRead⟩

end Caches

end AioHomematic.Store
