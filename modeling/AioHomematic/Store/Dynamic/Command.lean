import AioHomematic.Const
import AioHomematic.Lib.Dict
import AioHomematic.Support.Age

/-!
# The command tracker

`CommandTracker` of `store/dynamic/command.py`, for one interface: the value
sent last to a data point and when. Expired commands are removed when they are
read and when there are many; of too many the oldest fifth is removed.
-/

namespace AioHomematic.Store

open Lib Support

/-- `LAST_COMMAND_SEND_STORE_TIMEOUT`. -/
def lastCommandSendStoreTimeout : Int := 60

/-- `LAST_COMMAND_SEND_TRACKER_CLEANUP_THRESHOLD`. -/
def lastCommandSendTrackerCleanupThreshold : Nat := 100

/-- `COMMAND_TRACKER_MAX_SIZE`. -/
def commandTrackerMaxSize : Nat := 500

structure CachedCommand (V : Type*) where
  value : V
  sentAt : Int
deriving DecidableEq

structure CommandTracker (V : Type*) where
  interfaceId : String
  lastSendCommand : Dict DataPointKey (CachedCommand V) := .empty

namespace CommandTracker

variable {V : Type*} (t : CommandTracker V)

/-- The tracker without these commands. -/
def without (keys : List DataPointKey) : CommandTracker V :=
  { t with lastSendCommand := keys.foldl Dict.erase t.lastSendCommand }

def cleanupExpired (now maxAge : Int) : CommandTracker V :=
  t.without ((t.lastSendCommand.entries.filter fun e =>
    !changedWithinSeconds now e.2.sentAt maxAge).map Prod.fst)

/-- `_enforce_size_limit`. -/
def enforceSizeLimit : CommandTracker V :=
  let currentSize := t.lastSendCommand.entries.length
  if commandTrackerMaxSize ≤ currentSize then
    let sortedEntries := t.lastSendCommand.entries.mergeSort fun e e' => e.2.sentAt ≤ e'.2.sentAt
    let removeCount := max 1 (currentSize / 5)
    t.without ((sortedEntries.take removeCount).map Prod.fst)
  else t

/-- What comes before a command is added. -/
def makeRoom (now : Int) : CommandTracker V :=
  if lastCommandSendTrackerCleanupThreshold < t.lastSendCommand.entries.length then
    (t.cleanupExpired now lastCommandSendStoreTimeout).enforceSizeLimit
  else t.enforceSizeLimit

def sent (now : Int) (commands : List (DataPointKey × V)) : CommandTracker V :=
  { t with
    lastSendCommand := commands.foldl
      (fun lastSendCommand e => lastSendCommand.set e.1 { value := e.2, sentAt := now })
      t.lastSendCommand }

/-- The commands that `add_put_paramset` adds. -/
def paramsetCommands (channelAddress : String) (paramsetKey : ParamsetKey)
    (values : Dict String V) : List (DataPointKey × V) :=
  values.entries.map fun e => (⟨t.interfaceId, channelAddress, paramsetKey, e.1⟩, e.2)

def addPutParamset (now : Int) (channelAddress : String) (paramsetKey : ParamsetKey)
    (values : Dict String V) : CommandTracker V :=
  (t.makeRoom now).sent now (t.paramsetCommands channelAddress paramsetKey values)

/-- The commands that `add_set_value` adds; `combined` is what the value of a combined parameter
stands for, `none` for any other parameter. -/
def valueCommands (combined : Option (Dict String V)) (channelAddress parameter : String)
    (value : V) : List (DataPointKey × V) :=
  match combined with
  | some values => t.paramsetCommands channelAddress .values values
  | none => [(⟨t.interfaceId, channelAddress, .values, parameter⟩, value)]

/-- `add_set_value`; a combined value that stands for nothing is not tracked. -/
def addSetValue (now : Int) (combined : Option (Dict String V)) (channelAddress parameter : String)
    (value : V) : CommandTracker V :=
  match t.valueCommands combined channelAddress parameter value with
  | [] => t
  | commands => (t.makeRoom now).sent now commands

def removeLastValueSend [DecidableEq V] (now : Int) (dpk : DataPointKey) (value : Option V)
    (maxAge : Int) : CommandTracker V :=
  match t.lastSendCommand.get? dpk with
  | some cached =>
    if changedWithinSeconds now cached.sentAt maxAge = false ∨ value = some cached.value then
      t.without [dpk]
    else t
  | none => t

def getLastValueSend [DecidableEq V] (now : Int) (dpk : DataPointKey) (maxAge : Int) :
    Option V × CommandTracker V :=
  match t.lastSendCommand.get? dpk with
  | some cached =>
    if changedWithinSeconds now cached.sentAt maxAge then (some cached.value, t)
    else (none, t.removeLastValueSend now dpk none maxAge)
  | none => (none, t)

/-! ## What is tracked -/

section Lookup

variable (t : CommandTracker V)

theorem get?_without (keys : List DataPointKey) (k : DataPointKey) :
    (t.without keys).lastSendCommand.get? k =
      if k ∈ keys then none else t.lastSendCommand.get? k :=
  Dict.get?_foldl_erase keys t.lastSendCommand k

/-- A command that was sent to the data point, or that has expired, is forgotten. -/
theorem get?_removeLastValueSend [DecidableEq V] (now : Int) (dpk k : DataPointKey)
    (value : Option V) (maxAge : Int) :
    (t.removeLastValueSend now dpk value maxAge).lastSendCommand.get? k =
      (t.lastSendCommand.get? k).filter fun cached =>
        decide (k = dpk → changedWithinSeconds now cached.sentAt maxAge = true ∧
          value ≠ some cached.value) := by
  unfold removeLastValueSend
  by_cases hk : k = dpk
  · subst hk
    cases hcached : t.lastSendCommand.get? k with
    | none =>
      dsimp only
      rw [hcached]
      rfl
    | some cached =>
      dsimp only
      split
      next hgone =>
        rw [get?_without, if_pos List.mem_cons_self, Option.filter_some, if_neg]
        rw [decide_eq_true_eq, forall_prop_of_true rfl]
        rintro ⟨hfresh, hvalue⟩
        rcases hgone with hexpired | hsame
        · rw [hfresh] at hexpired
          cases hexpired
        · exact hvalue hsame
      next hstays =>
        rw [not_or, Bool.not_eq_false] at hstays
        rw [hcached, Option.filter_some, if_pos (decide_eq_true fun _ => hstays)]
  · have hfilter : ∀ cached? : Option (CachedCommand V), (cached?.filter fun cached =>
        decide (k = dpk → changedWithinSeconds now cached.sentAt maxAge = true ∧
          value ≠ some cached.value)) = cached? := by
      intro cached?
      cases cached? with
      | none => rfl
      | some cached => rw [Option.filter_some, if_pos (decide_eq_true fun h => absurd h hk)]
    rw [hfilter]
    split
    · split
      · rw [get?_without, if_neg (by simpa using hk)]
      · rfl
    · rfl

theorem getLastValueSend_fst [DecidableEq V] (now : Int) (dpk : DataPointKey) (maxAge : Int) :
    (t.getLastValueSend now dpk maxAge).1 =
      ((t.lastSendCommand.get? dpk).filter fun cached =>
        changedWithinSeconds now cached.sentAt maxAge).map (·.value) := by
  unfold getLastValueSend
  cases t.lastSendCommand.get? dpk with
  | none => rfl
  | some cached =>
    rw [Option.filter_some]
    dsimp only
    split <;> rfl

/-- A read forgets the command of its data point if that has expired. -/
theorem get?_getLastValueSend [DecidableEq V] (now : Int) (dpk k : DataPointKey) (maxAge : Int) :
    (t.getLastValueSend now dpk maxAge).2.lastSendCommand.get? k =
      (t.lastSendCommand.get? k).filter fun cached =>
        decide (k = dpk → changedWithinSeconds now cached.sentAt maxAge = true) := by
  have hself : ∀ h : (∀ cached ∈ t.lastSendCommand.get? k, k = dpk →
      changedWithinSeconds now cached.sentAt maxAge = true), ((t.lastSendCommand.get? k).filter
        fun cached => decide (k = dpk → changedWithinSeconds now cached.sentAt maxAge = true)) =
      t.lastSendCommand.get? k := by
    intro h
    cases hcached : t.lastSendCommand.get? k with
    | none => rfl
    | some cached => rw [Option.filter_some, if_pos (decide_eq_true (h cached hcached))]
  unfold getLastValueSend
  split
  next cached hcached =>
    split
    next hfresh =>
      refine (hself ?_).symm
      rintro cached' hcached' rfl
      obtain rfl : cached = cached' := Option.some.inj (hcached.symm.trans hcached')
      exact hfresh
    next =>
      rw [get?_removeLastValueSend]
      simp only [ne_eq, reduceCtorEq, not_false_eq_true, and_true]
  next hnone =>
    refine (hself ?_).symm
    rintro cached hcached rfl
    rw [hnone] at hcached
    cases hcached

@[simp] theorem interfaceId_removeLastValueSend [DecidableEq V] (now : Int) (dpk : DataPointKey)
    (value : Option V) (maxAge : Int) :
    (t.removeLastValueSend now dpk value maxAge).interfaceId = t.interfaceId := by
  unfold removeLastValueSend
  split
  · split <;> rfl
  · rfl

@[simp] theorem interfaceId_getLastValueSend [DecidableEq V] (now : Int) (dpk : DataPointKey)
    (maxAge : Int) : (t.getLastValueSend now dpk maxAge).2.interfaceId = t.interfaceId := by
  unfold getLastValueSend
  split
  · split
    · rfl
    · exact interfaceId_removeLastValueSend ..
  · rfl

/-- Few commands are all kept. -/
theorem makeRoom_of_few (now : Int)
    (h : t.lastSendCommand.entries.length ≤ lastCommandSendTrackerCleanupThreshold) :
    t.makeRoom now = t := by
  have hmax : ¬commandTrackerMaxSize ≤ t.lastSendCommand.entries.length := by
    unfold lastCommandSendTrackerCleanupThreshold at h
    unfold commandTrackerMaxSize
    omega
  rw [makeRoom, if_neg (Nat.not_lt.mpr h)]
  exact if_neg hmax

theorem get?_sent (now : Int) (commands : List (DataPointKey × V)) (k : DataPointKey) :
    (t.sent now commands).lastSendCommand.get? k =
      ((commands.filter (·.1 = k)).getLast?.map fun e => ⟨e.2, now⟩).or
        (t.lastSendCommand.get? k) := by
  have hassign : (t.sent now commands).lastSendCommand =
      t.lastSendCommand.assign (commands.map fun e => (e.1, ⟨e.2, now⟩)) := by
    rw [Dict.assign, List.foldl_map]
    rfl
  rw [hassign, Dict.get?_assign, List.filter_map, List.getLast?_map, Option.map_map]
  rfl

/-- A paramset that is sent is tracked by its parameters. -/
theorem get?_addPutParamset (now : Int) (channelAddress : String) (paramsetKey : ParamsetKey)
    (values : Dict String V) (parameter : String) :
    (t.addPutParamset now channelAddress paramsetKey values).lastSendCommand.get?
        ⟨t.interfaceId, channelAddress, paramsetKey, parameter⟩ =
      ((values.get? parameter).map fun value => ⟨value, now⟩).or
        ((t.makeRoom now).lastSendCommand.get?
          ⟨t.interfaceId, channelAddress, paramsetKey, parameter⟩) := by
  have hfilter : ((t.paramsetCommands channelAddress paramsetKey values).filter
      (·.1 = ⟨t.interfaceId, channelAddress, paramsetKey, parameter⟩)) =
      (values.entries.filter (·.1 = parameter)).map fun e =>
        (⟨t.interfaceId, channelAddress, paramsetKey, e.1⟩, e.2) := by
    rw [paramsetCommands, List.filter_map]
    congr 2
    funext e
    simp
  rw [addPutParamset, get?_sent, hfilter, List.getLast?_map, Option.map_map,
    ← Dict.getLast?_filter_entries values, Option.map_map]
  rfl

theorem key_of_addPutParamset {now : Int} {channelAddress : String} {paramsetKey : ParamsetKey}
    {values : Dict String V} {k : DataPointKey} {c : CachedCommand V}
    (h : (t.addPutParamset now channelAddress paramsetKey values).lastSendCommand.get? k = some c) :
    (∃ parameter ∈ values.keys, k = ⟨t.interfaceId, channelAddress, paramsetKey, parameter⟩) ∨
      (t.makeRoom now).lastSendCommand.get? k = some c := by
  rw [addPutParamset, get?_sent, Option.or_eq_some_iff] at h
  rcases h with hsent | ⟨-, hkept⟩
  · obtain ⟨e, he, -⟩ := Option.map_eq_some_iff.mp hsent
    obtain ⟨he, hk⟩ := List.mem_filter.mp (List.mem_of_getLast? he)
    obtain ⟨e', he', rfl⟩ := List.mem_map.mp he
    exact .inl ⟨e'.1, List.mem_map_of_mem he', (of_decide_eq_true hk).symm⟩
  · exact .inr hkept

end Lookup

/-! ## The last writes -/

/-- What is tracked is the last write of its data point, with its time. -/
def RecordedBy (writes : Dict DataPointKey (Int × V)) : Prop :=
  ∀ dpk cached, t.lastSendCommand.get? dpk = some cached →
    writes.get? dpk = some (cached.sentAt, cached.value)

variable {t} {writes : Dict DataPointKey (Int × V)}

theorem recordedBy_without (h : t.RecordedBy writes) (keys : List DataPointKey) :
    (t.without keys).RecordedBy writes := by
  intro dpk cached hcached
  rw [without, Dict.get?_foldl_erase] at hcached
  split at hcached
  · cases hcached
  · exact h dpk cached hcached

theorem recordedBy_enforceSizeLimit (h : t.RecordedBy writes) :
    t.enforceSizeLimit.RecordedBy writes := by
  simp only [enforceSizeLimit]
  split
  · exact recordedBy_without h _
  · exact h

theorem recordedBy_makeRoom (h : t.RecordedBy writes) (now : Int) :
    (t.makeRoom now).RecordedBy writes := by
  simp only [makeRoom]
  split
  · exact recordedBy_enforceSizeLimit (recordedBy_without h _)
  · exact recordedBy_enforceSizeLimit h

theorem recordedBy_sent (h : t.RecordedBy writes) (now : Int)
    (commands : List (DataPointKey × V)) :
    (t.sent now commands).RecordedBy
      (commands.foldl (fun writes e => writes.set e.1 (now, e.2)) writes) := by
  induction commands generalizing t writes with
  | nil => exact h
  | cons e commands ih =>
    refine ih (t := t.sent now [e]) fun dpk cached hcached => ?_
    simp only [sent, List.foldl_cons, List.foldl_nil, Dict.get?_set] at hcached
    rw [Dict.get?_set]
    split at hcached
    next heq =>
      obtain rfl := Option.some.inj hcached
      exact if_pos heq
    next hother =>
      rw [if_neg hother]
      exact h dpk cached hcached

theorem recordedBy_addSetValue (h : t.RecordedBy writes) (now : Int)
    (combined : Option (Dict String V)) (channelAddress parameter : String) (value : V) :
    (t.addSetValue now combined channelAddress parameter value).RecordedBy
      ((t.valueCommands combined channelAddress parameter value).foldl
        (fun writes e => writes.set e.1 (now, e.2)) writes) := by
  simp only [addSetValue]
  cases t.valueCommands combined channelAddress parameter value with
  | nil => exact h
  | cons e commands => exact recordedBy_sent (recordedBy_makeRoom h now) now (e :: commands)

theorem recordedBy_removeLastValueSend [DecidableEq V] (h : t.RecordedBy writes) (now : Int)
    (dpk : DataPointKey) (value : Option V) (maxAge : Int) :
    (t.removeLastValueSend now dpk value maxAge).RecordedBy writes := by
  simp only [removeLastValueSend]
  cases t.lastSendCommand.get? dpk with
  | none => exact h
  | some cached =>
    dsimp only
    split
    · exact recordedBy_without h _
    · exact h

theorem recordedBy_getLastValueSend [DecidableEq V] (h : t.RecordedBy writes) (now : Int)
    (dpk : DataPointKey) (maxAge : Int) :
    (t.getLastValueSend now dpk maxAge).2.RecordedBy writes := by
  simp only [getLastValueSend]
  cases t.lastSendCommand.get? dpk with
  | none => exact h
  | some cached =>
    dsimp only
    split
    · exact h
    · exact recordedBy_removeLastValueSend h now dpk none maxAge

end CommandTracker

end AioHomematic.Store
