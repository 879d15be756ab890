import AioHomematic.Const
import AioHomematic.Exceptions
import AioHomematic.Lib.Dict
import AioHomematic.Support.Address
import AioHomematic.Support.Age
import Mathlib.Data.Finset.Basic

/-!
# The cache of device details

`DeviceDetailsCache` of `store/dynamic/details.py`, with `fetch_device_details` of the client, which
fills it. A load asks the backend up to three times and is suspended each time; `LoadRun` keeps what
the cache is like then. No other writer is running. `load_atomic_iff` says when the readers see
nothing of a load before it is done.
-/

namespace AioHomematic.Store

open Lib Support

/-! ## The cache -/

structure ChannelDetail where
  address : String
  name : String
  id : Int

/-- `interface` is what the device names, where that is an interface. -/
structure DeviceDetail extends ChannelDetail where
  interface : Option Interface
  channels : List ChannelDetail

/-- The functions of an address come in the order in which its set is read. -/
structure DeviceDetailsCache where
  channelRooms : Dict String (Finset String) := .empty
  deviceChannelIseIds : Dict String Int := .empty
  deviceRooms : Dict String (Finset String) := .empty
  functions : Dict String (List String) := .empty
  interfaceCache : Dict String Interface := .empty
  namesCache : Dict String String := .empty
  refreshedAt : Int := initDatetime

namespace DeviceDetailsCache

variable (c : DeviceDetailsCache)

def addAddressIseId (address : String) (iseId : Int) : DeviceDetailsCache :=
  { c with deviceChannelIseIds := c.deviceChannelIseIds.set address iseId }

def addInterface (address : String) (interface : Interface) : DeviceDetailsCache :=
  { c with interfaceCache := c.interfaceCache.set address interface }

def addName (address name : String) : DeviceDetailsCache :=
  { c with namesCache := c.namesCache.set address name }

def clear : DeviceDetailsCache :=
  { c with
    namesCache := .empty, channelRooms := .empty, deviceRooms := .empty, functions := .empty
    refreshedAt := initDatetime }

/-! ### Reading -/

/-- The empty set that a read of an unknown channel leaves behind reads like no set. -/
def getChannelRooms (channelAddress : String) : Finset String :=
  (c.channelRooms.get? channelAddress).getD ∅

def getDeviceRooms (deviceAddress : String) : Finset String :=
  (c.deviceRooms.get? deviceAddress).getD ∅

def getFunctionText (address : String) : Option String :=
  match c.functions.get? address with
  | none => none
  | some functions => if functions ≠ [] then some (",".intercalate functions) else none

def getName (address : String) : Option String := c.namesCache.get? address

/-- What the readers return. -/
structure Reads where
  name : String → Option String
  deviceRooms : String → Finset String
  channelRooms : String → Finset String
  functionText : String → Option String

def reads : Reads where
  name := c.getName
  deviceRooms := c.getDeviceRooms
  channelRooms := c.getChannelRooms
  functionText := c.getFunctionText

/-! ### Filling -/

/-- An id of 0 is none. -/
def addDetail (detail : ChannelDetail) : DeviceDetailsCache :=
  let c := c.addName detail.address detail.name
  if detail.id ≠ 0 then c.addAddressIseId detail.address detail.id else c

/-- One round of the loop of `fetch_device_details`. -/
def addDeviceDetail (clientInterface : Interface) (c : DeviceDetailsCache) (device : DeviceDetail) :
    DeviceDetailsCache :=
  let c := c.addDetail device.toChannelDetail
  let c := c.addInterface device.address (device.interface.getD clientInterface)
  device.channels.foldl addDetail c

/-- One round of the loop of `_prepare_device_rooms`. -/
def addRooms (deviceRooms : Dict String (Finset String)) (entry : String × Finset String) :
    Option (Dict String (Finset String)) :=
  if entry.2 = ∅ then some deviceRooms
  else (getDeviceAddress entry.1).map fun deviceAddress =>
    deviceRooms.modifyD deviceAddress ∅ (· ∪ entry.2)

/-- The rooms of all channels of a device; `none` where a channel address has no device part. -/
def prepareDeviceRooms : Option (Dict String (Finset String)) :=
  c.channelRooms.entries.foldlM addRooms .empty

end DeviceDetailsCache

/-! ## Loading -/

/-- What the backend answers to a load. `none` where it is not asked: there is no primary client, or
it has no rooms or no functions. -/
structure DetailsAnswers where
  clientInterface : Interface
  details : Option (Except PyException (List DeviceDetail))
  rooms : Option (Except PyException (Dict String (Finset String)))
  functions : Option (Except PyException (Dict String (List String)))

/-- The cache at each suspension, and in the end. -/
structure LoadRun where
  suspended : List DeviceDetailsCache
  result : Except PyException Unit
  cache : DeviceDetailsCache

namespace LoadRun

/-- It was suspended before. -/
def after (c : DeviceDetailsCache) (r : LoadRun) : LoadRun :=
  { r with suspended := c :: r.suspended }

def failed (exc : PyException) (c : DeviceDetailsCache) : LoadRun := ⟨[], .error exc, c⟩

end LoadRun

namespace DeviceDetailsCache

variable (now : Int) (answers : DetailsAnswers)

/-- The last part of `load`. -/
def loadFunctions (c : DeviceDetailsCache) : LoadRun :=
  let c := { c with functions := .empty }
  match answers.functions with
  | none => ⟨[], .ok (), { c with refreshedAt := now }⟩
  | some (.error exc) => (LoadRun.failed exc c).after c
  | some (.ok functions) =>
    LoadRun.after c
      ⟨[], .ok (), { c with functions := c.functions.merge functions, refreshedAt := now }⟩

/-- The rooms of the channels are there. -/
def loadDeviceRooms (c : DeviceDetailsCache) : LoadRun :=
  let c := { c with deviceRooms := .empty }
  match c.prepareDeviceRooms with
  | none => .failed { cls := .other } c
  | some deviceRooms =>
    loadFunctions now answers { c with deviceRooms := c.deviceRooms.merge deviceRooms }

def loadRooms (c : DeviceDetailsCache) : LoadRun :=
  let c := { c with channelRooms := .empty }
  match answers.rooms with
  | none => loadDeviceRooms now answers c
  | some (.error exc) => (LoadRun.failed exc c).after c
  | some (.ok rooms) =>
    (loadDeviceRooms now answers { c with channelRooms := c.channelRooms.merge rooms }).after c

/-- The part of `load` that asks for the details. -/
def loadDetails (c : DeviceDetailsCache) : LoadRun :=
  match answers.details with
  | none => loadRooms now answers c
  | some (.error exc) => (LoadRun.failed exc c).after c
  | some (.ok details) =>
    (loadRooms now answers (details.foldl (addDeviceDetail answers.clientInterface) c)).after c

/-- The load of a cache that was loaded a short while ago does nothing. -/
def isFresh (directCall : Bool) (c : DeviceDetailsCache) : Bool :=
  !directCall && changedWithinSeconds now c.refreshedAt (maxCacheAge / 3)

def load (directCall : Bool) (c : DeviceDetailsCache) : LoadRun :=
  if c.isFresh now directCall then ⟨[], .ok (), c⟩ else loadDetails now answers c.clear

end DeviceDetailsCache

/-! ## What readers see -/

namespace LoadRun

/-- Nothing of the load is seen before it is done, and only then the cache counts as refreshed. -/
structure Atomic (c : DeviceDetailsCache) (r : LoadRun) : Prop where
  suspended : ∀ c' ∈ r.suspended, c'.reads = c.reads
  failed : ∀ exc, r.result = .error exc → r.cache.reads = c.reads ∧
    (r.cache.refreshedAt = c.refreshedAt ∨ r.cache.refreshedAt = initDatetime)

/-- The readers see these while the load is suspended, and after a failure. -/
structure Sees (reads : DeviceDetailsCache.Reads) (r : LoadRun) : Prop where
  suspended : ∀ c ∈ r.suspended, c.reads = reads
  failed : ∀ exc, r.result = .error exc → r.cache.reads = reads

variable {reads : DeviceDetailsCache.Reads} {c : DeviceDetailsCache} {r : LoadRun}

@[simp] theorem sees_after : Sees reads (r.after c) ↔ c.reads = reads ∧ Sees reads r := by
  constructor
  · rintro ⟨hsuspended, hfailed⟩
    obtain ⟨hc, hr⟩ := List.forall_mem_cons.mp hsuspended
    exact ⟨hc, hr, hfailed⟩
  · rintro ⟨hc, hr, hfailed⟩
    exact ⟨List.forall_mem_cons.mpr ⟨hc, hr⟩, hfailed⟩

@[simp] theorem sees_failed {exc : PyException} :
    Sees reads (failed exc c) ↔ c.reads = reads :=
  ⟨fun h => h.failed exc rfl, fun h => ⟨nofun, fun _ _ => h⟩⟩

@[simp] theorem sees_done : Sees reads ⟨[], .ok (), c⟩ := ⟨nofun, nofun⟩

end LoadRun

namespace DeviceDetailsCache

variable {now : Int} {answers : DetailsAnswers} {reads : Reads} {c : DeviceDetailsCache}

/-- Every reader finds nothing. -/
structure Blank (c : DeviceDetailsCache) : Prop where
  name : ∀ address, c.getName address = none
  deviceRooms : ∀ address, c.getDeviceRooms address = ∅
  channelRooms : ∀ address, c.getChannelRooms address = ∅
  functionText : ∀ address, c.getFunctionText address = none

theorem reads_clear_eq_iff : c.clear.reads = c.reads ↔ c.Blank := by
  constructor
  · intro h
    obtain ⟨hname, hdevice, hchannel, hfunction⟩ := Reads.mk.inj h
    exact ⟨fun a => (congrFun hname a).symm, fun a => (congrFun hdevice a).symm,
      fun a => (congrFun hchannel a).symm, fun a => (congrFun hfunction a).symm⟩
  · intro h
    exact (Reads.mk.injEq ..).mpr ⟨funext fun a => (h.name a).symm,
      funext fun a => (h.deviceRooms a).symm, funext fun a => (h.channelRooms a).symm,
      funext fun a => (h.functionText a).symm⟩

/-! ### Functions -/

/-- What a load has filled so far are at most names. -/
structure Unfilled (c : DeviceDetailsCache) : Prop where
  channelRooms : c.channelRooms = .empty
  deviceRooms : c.deviceRooms = .empty
  functions : c.functions = .empty

theorem sees_loadFunctions (h : c.functions = .empty) :
    (c.loadFunctions now answers).Sees reads ↔ (answers.functions ≠ none → c.reads = reads) := by
  have hc : { c with functions := .empty } = c := by rw [← h]
  unfold loadFunctions
  rw [hc]
  cases answers.functions with
  | none => simp
  | some answer => cases answer <;> simp

/-! ### Rooms -/

theorem merge_empty {ν : Type} (d : Dict String ν) : Dict.empty.merge d = d :=
  Dict.ext (Dict.entries_merge fun k _ => by simp)

theorem foldlM_addRooms_ne_none_iff {es : List (String × Finset String)}
    {deviceRooms : Dict String (Finset String)} : es.foldlM addRooms deviceRooms ≠ none ↔
      ∀ e ∈ es, e.2 ≠ ∅ → getDeviceAddress e.1 ≠ none := by
  induction es generalizing deviceRooms with
  | nil => simp
  | cons e es ih =>
    rw [List.foldlM_cons, List.forall_mem_cons]
    by_cases hrooms : e.2 = ∅
    · have hadd : addRooms deviceRooms e = some deviceRooms := if_pos hrooms
      rw [hadd]
      exact ih.trans (by simp [hrooms])
    · have hadd : addRooms deviceRooms e = (getDeviceAddress e.1).map fun deviceAddress =>
          deviceRooms.modifyD deviceAddress ∅ (· ∪ e.2) := if_neg hrooms
      rw [hadd]
      cases getDeviceAddress e.1 with
      | none => simp [hrooms]
      | some deviceAddress => exact ih.trans (by simp)

/-- The rooms of devices are found unless a channel with rooms has no device. -/
theorem prepareDeviceRooms_ne_none_iff : c.prepareDeviceRooms ≠ none ↔
    ∀ e ∈ c.channelRooms.entries, e.2 ≠ ∅ → getDeviceAddress e.1 ≠ none :=
  foldlM_addRooms_ne_none_iff

theorem prepareDeviceRooms_of_empty (h : ∀ e ∈ c.channelRooms.entries, e.2 = ∅) :
    c.prepareDeviceRooms = some .empty := by
  have hfold : ∀ es : List (String × Finset String), (∀ e ∈ es, e.2 = ∅) →
      es.foldlM addRooms Dict.empty = some Dict.empty := by
    intro es hes
    induction es with
    | nil => rfl
    | cons e es ih =>
      obtain ⟨he, hes⟩ := List.forall_mem_cons.mp hes
      have hadd : addRooms Dict.empty e = some Dict.empty := if_pos he
      rw [List.foldlM_cons, hadd]
      exact ih hes
  exact hfold _ h

theorem getChannelRooms_eq_empty_iff : (∀ a, c.getChannelRooms a = ∅) ↔
    ∀ e ∈ c.channelRooms.entries, e.2 = ∅ := by
  constructor
  · intro h e he
    have hget : c.channelRooms.get? e.1 = some e.2 := Dict.get?_eq_some.mpr he
    have := h e.1
    rwa [getChannelRooms, hget] at this
  · intro h a
    rw [getChannelRooms]
    cases hget : c.channelRooms.get? a with
    | none => rfl
    | some names => exact h (a, names) (Dict.get?_eq_some.mp hget)

theorem entries_empty_of_reads_eq {c' : DeviceDetailsCache} (h : c.Unfilled)
    (hreads : c'.reads = c.reads) : ∀ e ∈ c'.channelRooms.entries, e.2 = ∅ := by
  refine getChannelRooms_eq_empty_iff.mp fun a => ?_
  have hchannel := congrFun (Reads.mk.inj hreads).2.2.1 a
  rw [hchannel, getChannelRooms, h.channelRooms]
  rfl

/-- Rooms that are no rooms are not seen. -/
theorem reads_withRooms (h : c.Unfilled) {rooms : Dict String (Finset String)}
    (hrooms : ∀ e ∈ rooms.entries, e.2 = ∅) :
    { c with channelRooms := rooms, deviceRooms := .empty }.reads = c.reads := by
  have hchannel : { c with channelRooms := rooms, deviceRooms := .empty }.getChannelRooms =
      c.getChannelRooms := by
    funext a
    rw [getChannelRooms_eq_empty_iff.mpr hrooms, getChannelRooms, h.channelRooms]
    rfl
  have hdevice : { c with channelRooms := rooms, deviceRooms := .empty }.getDeviceRooms =
      c.getDeviceRooms := by
    funext a
    rw [getDeviceRooms, getDeviceRooms, h.deviceRooms]
  exact (Reads.mk.injEq ..).mpr ⟨rfl, hdevice, hchannel, rfl⟩

/-- The rest of a load, once the rooms of the channels are there. -/
theorem sees_loadDeviceRooms (h : c.Unfilled) (rooms : Dict String (Finset String)) :
    ({ c with channelRooms := rooms }.loadDeviceRooms now answers).Sees c.reads ↔
      ∀ e ∈ rooms.entries, e.2 ≠ ∅ → getDeviceAddress e.1 ≠ none ∧ answers.functions = none := by
  cases hprepare : { c with channelRooms := rooms, deviceRooms := .empty }.prepareDeviceRooms with
  | none =>
    simp only [loadDeviceRooms, hprepare, LoadRun.sees_failed]
    constructor
    · intro hreads
      have hempty := entries_empty_of_reads_eq h hreads
      cases hprepare.symm.trans (prepareDeviceRooms_of_empty hempty)
    · intro hhidden
      exact absurd hprepare (prepareDeviceRooms_ne_none_iff.mpr fun e he hne =>
        (hhidden e he hne).1)
  | some deviceRooms =>
    have hsome := ne_of_eq_of_ne hprepare (Option.some_ne_none _)
    have hparsed := prepareDeviceRooms_ne_none_iff.mp hsome
    have hfunctions : { c with channelRooms := rooms, deviceRooms := deviceRooms }.functions =
        .empty := h.functions
    simp only [loadDeviceRooms, hprepare, merge_empty]
    rw [sees_loadFunctions hfunctions]
    constructor
    · intro hsees e he hne
      refine ⟨hparsed e he hne, ?_⟩
      by_contra hfunctions
      exact hne (entries_empty_of_reads_eq h (hsees hfunctions) e he)
    · intro hhidden hfunctions
      have hempty : ∀ e ∈ rooms.entries, e.2 = ∅ := by
        intro e he
        by_contra hne
        exact hfunctions (hhidden e he hne).2
      rw [prepareDeviceRooms_of_empty hempty] at hprepare
      cases hprepare
      exact reads_withRooms h hempty

/-- The rooms that are answered are seen as soon as there is a further call. -/
def RoomsHidden (answers : DetailsAnswers) : Prop :=
  ∀ rooms, answers.rooms = some (.ok rooms) →
    ∀ e ∈ rooms.entries, e.2 ≠ ∅ → getDeviceAddress e.1 ≠ none ∧ answers.functions = none

/-- The part of a load from the rooms on, seen from its start. -/
theorem sees_loadRooms (h : c.Unfilled) : (c.loadRooms now answers).Sees c.reads ↔
    RoomsHidden answers := by
  have hc : { c with channelRooms := .empty } = c := by rw [← h.channelRooms]
  unfold loadRooms RoomsHidden
  rw [hc]
  cases hrooms : answers.rooms with
  | none =>
    have hsees := @sees_loadDeviceRooms now answers c h .empty
    rw [hc] at hsees
    simp only [hsees]
    exact iff_of_true nofun nofun
  | some answer =>
    cases answer with
    | error exc => simp
    | ok rooms => simp [merge_empty, h.channelRooms, sees_loadDeviceRooms h]

/-- A load that still asks somebody shows the cache as it is. -/
theorem reads_of_sees_loadRooms (h : c.Unfilled)
    (hasks : answers.rooms ≠ none ∨ answers.functions ≠ none)
    (hsees : (c.loadRooms now answers).Sees reads) : c.reads = reads := by
  have hc : { c with channelRooms := .empty } = c := by rw [← h.channelRooms]
  have hc' : { c with deviceRooms := .empty } = c := by rw [← h.deviceRooms]
  unfold loadRooms at hsees
  rw [hc] at hsees
  cases hrooms : answers.rooms with
  | none =>
    have hprepare : c.prepareDeviceRooms = some .empty :=
      prepareDeviceRooms_of_empty (by rw [h.channelRooms]; exact nofun)
    rw [hrooms] at hsees
    simp only [loadDeviceRooms, hc', hprepare, merge_empty] at hsees
    exact (sees_loadFunctions h.functions).mp hsees (hasks.resolve_left (not_not_intro hrooms))
  | some answer =>
    rw [hrooms] at hsees
    cases answer with
    | error exc => exact (LoadRun.sees_after.mp hsees).1
    | ok rooms => exact (LoadRun.sees_after.mp hsees).1

/-! ### Details -/

theorem unfilled_addDetail (h : c.Unfilled) (detail : ChannelDetail) :
    (c.addDetail detail).Unfilled := by
  unfold addDetail
  dsimp only
  split <;> exact ⟨h.channelRooms, h.deviceRooms, h.functions⟩

theorem unfilled_addDeviceDetail (h : c.Unfilled) (clientInterface : Interface)
    (device : DeviceDetail) : (addDeviceDetail clientInterface c device).Unfilled := by
  have hchannels : ∀ (channels : List ChannelDetail) (c : DeviceDetailsCache), c.Unfilled →
      (channels.foldl addDetail c).Unfilled := by
    intro channels
    induction channels with
    | nil => exact fun c h => h
    | cons channel channels ih => exact fun c h => ih _ (unfilled_addDetail h channel)
  have hdevice := unfilled_addDetail h device.toChannelDetail
  exact hchannels _ _ ⟨hdevice.channelRooms, hdevice.deviceRooms, hdevice.functions⟩

/-- Names are only added. -/
theorem getName_addDetail_ne_none {detail : ChannelDetail} {address : String} :
    (c.addDetail detail).getName address ≠ none ↔
      detail.address = address ∨ c.getName address ≠ none := by
  have hname : (c.addDetail detail).namesCache = c.namesCache.set detail.address detail.name := by
    unfold addDetail
    dsimp only
    split <;> rfl
  rw [getName, hname, Dict.get?_set]
  split
  next heq => exact iff_of_true (Option.some_ne_none _) (.inl heq)
  next hne => exact (or_iff_right hne).symm

theorem getName_foldl_addDetail_ne_none {channels : List ChannelDetail} {address : String}
    (h : c.getName address ≠ none) : (channels.foldl addDetail c).getName address ≠ none := by
  induction channels generalizing c with
  | nil => exact h
  | cons channel channels ih => exact ih (getName_addDetail_ne_none.mpr (.inr h))

theorem getName_addDeviceDetail_ne_none {clientInterface : Interface} {device : DeviceDetail}
    {address : String} (h : device.address = address ∨ c.getName address ≠ none) :
    (addDeviceDetail clientInterface c device).getName address ≠ none :=
  getName_foldl_addDetail_ne_none (getName_addDetail_ne_none.mpr h)

theorem getName_foldl_addDeviceDetail_ne_none {clientInterface : Interface}
    {details : List DeviceDetail} {address : String} (h : c.getName address ≠ none) :
    (details.foldl (addDeviceDetail clientInterface) c).getName address ≠ none := by
  induction details generalizing c with
  | nil => exact h
  | cons device details ih => exact ih (getName_addDeviceDetail_ne_none (.inr h))

theorem unfilled_foldl_addDeviceDetail (h : c.Unfilled) (clientInterface : Interface)
    (details : List DeviceDetail) :
    (details.foldl (addDeviceDetail clientInterface) c).Unfilled := by
  induction details generalizing c with
  | nil => exact h
  | cons device details ih => exact ih (unfilled_addDeviceDetail h clientInterface device)

/-- Details that are answered are seen as soon as there is a further call. -/
def DetailsHidden (answers : DetailsAnswers) : Prop :=
  ∀ details, answers.details = some (.ok details) →
    details = [] ∨ answers.rooms = none ∧ answers.functions = none

/-- What a load fills before its last call is answered is nothing. -/
def FillsNothing (answers : DetailsAnswers) : Prop :=
  (∃ exc, answers.details = some (.error exc)) ∨ DetailsHidden answers ∧ RoomsHidden answers

/-- Without a call there is nothing to be seen. -/
def Asks (answers : DetailsAnswers) : Prop :=
  answers.details ≠ none ∨ answers.rooms ≠ none ∨ answers.functions ≠ none

theorem sees_loadRooms_of_not_asks (hrooms : answers.rooms = none)
    (hfunctions : answers.functions = none) : (c.loadRooms now answers).Sees reads := by
  have hprepare : { c with channelRooms := .empty, deviceRooms := .empty }.prepareDeviceRooms =
      some .empty := prepareDeviceRooms_of_empty nofun
  simp [loadRooms, hrooms, loadDeviceRooms, hprepare, loadFunctions, hfunctions]

theorem not_sees_of_details (h : c.Unfilled) (hnames : c.namesCache = .empty)
    {details : List DeviceDetail} (hne : details ≠ [])
    (hasks : answers.rooms ≠ none ∨ answers.functions ≠ none) :
    ¬ ((details.foldl (addDeviceDetail answers.clientInterface) c).loadRooms now answers).Sees
      c.reads := by
  intro hsees
  obtain ⟨device, details, rfl⟩ := List.exists_cons_of_ne_nil hne
  have hreads := reads_of_sees_loadRooms
    (unfilled_foldl_addDeviceDetail h answers.clientInterface _) hasks hsees
  have hname := congrFun (Reads.mk.inj hreads).1 device.address
  refine getName_foldl_addDeviceDetail_ne_none (getName_addDeviceDetail_ne_none (.inl rfl))
    (hname.trans ?_)
  rw [getName, hnames, Dict.get?_empty]

/-- A load that asks somebody shows the emptied cache first. -/
theorem sees_loadDetails_iff (h : c.Unfilled) (hnames : c.namesCache = .empty)
    (hasks : Asks answers) :
    (c.loadDetails now answers).Sees reads ↔ c.reads = reads ∧ FillsNothing answers := by
  unfold loadDetails
  cases hdetails : answers.details with
  | none =>
    have hfills : FillsNothing answers ↔ RoomsHidden answers := by
      simp [FillsNothing, DetailsHidden, hdetails]
    rw [hfills]
    constructor
    · intro hsees
      obtain rfl := reads_of_sees_loadRooms h (hasks.resolve_left (not_not_intro hdetails)) hsees
      exact ⟨rfl, (sees_loadRooms h).mp hsees⟩
    · rintro ⟨rfl, hhidden⟩
      exact (sees_loadRooms h).mpr hhidden
  | some answer =>
    cases answer with
    | error exc => simp [FillsNothing, hdetails]
    | ok details =>
      simp only [LoadRun.sees_after, and_congr_right_iff]
      rintro rfl
      by_cases hnil : details = []
      · subst hnil
        have hfills : FillsNothing answers ↔ RoomsHidden answers := by
          simp [FillsNothing, DetailsHidden, hdetails]
        rw [hfills]
        exact sees_loadRooms h
      · by_cases hmore : answers.rooms ≠ none ∨ answers.functions ≠ none
        · refine iff_of_false (not_sees_of_details h hnames hnil hmore) ?_
          rintro (⟨exc, hexc⟩ | ⟨hhidden, -⟩)
          · cases hdetails.symm.trans hexc
          · rcases hhidden details hdetails with hnil' | ⟨hrooms, hfunctions⟩
            · exact hnil hnil'
            · exact hmore.elim (· hrooms) (· hfunctions)
        · obtain ⟨hrooms, hfunctions⟩ := not_or.mp hmore
          have hrooms := not_not.mp hrooms
          have hfunctions := not_not.mp hfunctions
          refine iff_of_true (sees_loadRooms_of_not_asks hrooms hfunctions) (.inr ⟨?_, ?_⟩)
          · exact fun _ _ => .inr ⟨hrooms, hfunctions⟩
          · exact fun rooms hsome => by cases hrooms.symm.trans hsome

/-! ### The whole load -/

theorem unfilled_clear (c : DeviceDetailsCache) : c.clear.Unfilled := ⟨rfl, rfl, rfl⟩

theorem refreshedAt_addDetail (detail : ChannelDetail) :
    (c.addDetail detail).refreshedAt = c.refreshedAt := by
  unfold addDetail
  dsimp only
  split <;> rfl

theorem refreshedAt_addDeviceDetail (clientInterface : Interface) (device : DeviceDetail) :
    (addDeviceDetail clientInterface c device).refreshedAt = c.refreshedAt := by
  have hchannels : ∀ (channels : List ChannelDetail) (c : DeviceDetailsCache),
      (channels.foldl addDetail c).refreshedAt = c.refreshedAt := by
    intro channels
    induction channels with
    | nil => exact fun c => rfl
    | cons channel channels ih => exact fun c => (ih _).trans (refreshedAt_addDetail channel)
  exact (hchannels _ _).trans (refreshedAt_addDetail device.toChannelDetail)

theorem refreshedAt_foldl_addDeviceDetail (clientInterface : Interface)
    (details : List DeviceDetail) :
    (details.foldl (addDeviceDetail clientInterface) c).refreshedAt = c.refreshedAt := by
  induction details generalizing c with
  | nil => rfl
  | cons device details ih => exact ih.trans (refreshedAt_addDeviceDetail clientInterface device)

theorem loadFunctions_failed {exc : PyException}
    (h : (c.loadFunctions now answers).result = .error exc) :
    (c.loadFunctions now answers).cache.refreshedAt = c.refreshedAt := by
  unfold loadFunctions at h ⊢
  cases hfunctions : answers.functions with
  | none => simp [hfunctions] at h
  | some answer =>
    cases answer with
    | error _ => rfl
    | ok functions => simp [hfunctions, LoadRun.after] at h

theorem loadDeviceRooms_failed {exc : PyException}
    (h : (c.loadDeviceRooms now answers).result = .error exc) :
    (c.loadDeviceRooms now answers).cache.refreshedAt = c.refreshedAt := by
  unfold loadDeviceRooms at h ⊢
  dsimp only at h ⊢
  split at h
  next => rfl
  next => exact loadFunctions_failed h

theorem loadRooms_failed {exc : PyException} (h : (c.loadRooms now answers).result = .error exc) :
    (c.loadRooms now answers).cache.refreshedAt = c.refreshedAt := by
  unfold loadRooms at h ⊢
  cases hrooms : answers.rooms with
  | none => rw [hrooms] at h; exact loadDeviceRooms_failed h
  | some answer =>
    rw [hrooms] at h
    cases answer with
    | error _ => rfl
    | ok rooms => exact loadDeviceRooms_failed h

/-- What fails does not count as refreshed. -/
theorem loadDetails_failed {exc : PyException}
    (h : (c.loadDetails now answers).result = .error exc) :
    (c.loadDetails now answers).cache.refreshedAt = c.refreshedAt := by
  unfold loadDetails at h ⊢
  cases hdetails : answers.details with
  | none => rw [hdetails] at h; exact loadRooms_failed h
  | some answer =>
    rw [hdetails] at h
    cases answer with
    | error _ => rfl
    | ok details =>
      exact (loadRooms_failed h).trans
        (refreshedAt_foldl_addDeviceDetail answers.clientInterface details)

theorem atomic_loadDetails_iff_sees {c c' : DeviceDetailsCache}
    (hrefreshed : c'.refreshedAt = initDatetime) :
    (c'.loadDetails now answers).Atomic c ↔ (c'.loadDetails now answers).Sees c.reads := by
  constructor
  · rintro ⟨hsuspended, hfailed⟩
    exact ⟨hsuspended, fun exc hexc => (hfailed exc hexc).1⟩
  · rintro ⟨hsuspended, hfailed⟩
    refine ⟨hsuspended, fun exc hexc => ⟨hfailed exc hexc, .inr ?_⟩⟩
    rw [loadDetails_failed hexc, hrefreshed]

/-- The readers see nothing of a load exactly when it does nothing, asks nobody, or starts with an
empty cache and fills nothing before its last answer. -/
theorem load_atomic_iff (now : Int) (answers : DetailsAnswers) (directCall : Bool)
    (c : DeviceDetailsCache) :
    (c.load now answers directCall).Atomic c ↔
      c.isFresh now directCall = true ∨ ¬ Asks answers ∨ c.Blank ∧ FillsNothing answers := by
  unfold load
  by_cases hfresh : c.isFresh now directCall = true
  · rw [if_pos hfresh]
    exact iff_of_true ⟨nofun, nofun⟩ (.inl hfresh)
  · rw [if_neg hfresh, or_iff_right hfresh, atomic_loadDetails_iff_sees rfl]
    by_cases hasks : Asks answers
    · rw [or_iff_right (not_not_intro hasks),
        sees_loadDetails_iff (unfilled_clear c) rfl hasks, reads_clear_eq_iff]
    · obtain ⟨hdetails, hmore⟩ := not_or.mp hasks
      obtain ⟨hrooms, hfunctions⟩ := not_or.mp hmore
      refine iff_of_true ?_ (.inl hasks)
      unfold loadDetails
      rw [not_not.mp hdetails]
      exact sees_loadRooms_of_not_asks (not_not.mp hrooms) (not_not.mp hfunctions)

def named : DeviceDetailsCache :=
  { namesCache := Dict.empty.set "VCU0000001" "Hallway" }

def unreachable : DetailsAnswers where
  clientInterface := .hmipRf
  details := some (.error { cls := .noConnectionException })
  rooms := none
  functions := none

/-- The names of a cache are gone while it is loaded again, and stay so if that fails. -/
theorem not_load_atomic : ¬ ∀ (now : Int) (answers : DetailsAnswers) (directCall : Bool)
    (c : DeviceDetailsCache), (c.load now answers directCall).Atomic c := by
  intro h
  have hreads := (h 0 unreachable true named).suspended named.clear (List.mem_singleton.mpr rfl)
  have hname := congrFun (Reads.mk.inj hreads).1 "VCU0000001"
  revert hname
  decide

end DeviceDetailsCache

end AioHomematic.Store
