import AioHomematic.Lib.StepSystem
import AioHomematic.Store.Persistent.Device.Indexes

/-!
# Reloading the device cache

The cache with all its interfaces. `load` takes over the content and builds the
indexes from it, except for keys with an underscore in front. The cache is
`Consistent` when loading the content that it would save gives the indexes that
it has; `consistent_step_iff` says which steps keep that.
-/

namespace AioHomematic.Store

open Lib Support StepSystem

/-- The three dictionaries by interface. -/
structure DeviceDescriptionCache where
  registries : Dict String DeviceDescriptionRegistry := .empty

namespace DeviceDescriptionCache

variable (c : DeviceDescriptionCache)

def registry (interfaceId : String) : DeviceDescriptionRegistry :=
  (c.registries.get? interfaceId).getD .empty

def put (interfaceId : String) (r : DeviceDescriptionRegistry) : DeviceDescriptionCache where
  registries := c.registries.set interfaceId r

/-- `_content`, which is saved. -/
def content : Dict String (List DeviceDescription) := c.registries.map (·.rawDeviceDescriptions)

def addDevice (interfaceId : String) (d : DeviceDescription) :
    Except PyException Unit × DeviceDescriptionCache :=
  let added := (c.registry interfaceId).addDevice d
  (added.1, c.put interfaceId added.2)

def removeDevice (device : DeviceRemovalInfo) : DeviceDescriptionCache :=
  c.put device.interfaceId ((c.registry device.interfaceId).removeDevice device)

/-- The new content before the indexes are built. -/
def cleared (data : Dict String (List DeviceDescription)) : DeviceDescriptionCache where
  registries := data.map fun ds =>
    { rawDeviceDescriptions := ds
      addresses := .empty
      deviceDescriptions := .empty
      keyed := DeviceDescriptionRegistry.keyed_empty }

def convertAll (c : DeviceDescriptionCache) :
    List (String × List DeviceDescription) → Except PyException Unit × DeviceDescriptionCache
  | [] => (.ok (), c)
  | (interfaceId, ds) :: rest =>
    if isMetadataKey interfaceId then c.convertAll rest
    else
      match (c.registry interfaceId).convertDeviceDescriptions ds with
      | (.ok (), r) => (c.put interfaceId r).convertAll rest
      | (.error exc, r) => (.error exc, c.put interfaceId r)

/-- `load`, where it takes over `data`: `_process_loaded_content`. -/
def processLoadedContent (data : Dict String (List DeviceDescription)) :
    Except PyException Unit × DeviceDescriptionCache :=
  (cleared data).convertAll data.entries

/-- The indexes are those that loading the content builds. -/
def Consistent : Prop :=
  ∃ loaded, processLoadedContent c.content = (.ok (), loaded) ∧
    ∀ interfaceId, (c.registry interfaceId).SameIndexes (loaded.registry interfaceId)

/-! ## What a reload builds -/

/-- The descriptions that are indexed. -/
def indexed (interfaceId : String) (ds : List DeviceDescription) : List DeviceDescription :=
  if isMetadataKey interfaceId then [] else ds

theorem registry_put (r : DeviceDescriptionRegistry) (interfaceId interfaceId' : String) :
    (c.put interfaceId r).registry interfaceId' =
      if interfaceId = interfaceId' then r else c.registry interfaceId' := by
  rw [registry, put, Dict.get?_set]
  split <;> rfl

variable {c} {data : Dict String (List DeviceDescription)}

theorem get?_content (interfaceId : String) :
    (c.content.get? interfaceId).getD [] = (c.registry interfaceId).rawDeviceDescriptions := by
  rw [content, Dict.get?_map, registry]
  cases c.registries.get? interfaceId with
  | none => rfl
  | some r => rfl

theorem indexes_cleared (interfaceId : String) :
    ((cleared data).registry interfaceId).Indexes [] := by
  rw [registry, cleared, Dict.get?_map]
  cases data.get? interfaceId with
  | none => exact DeviceDescriptionRegistry.indexes_nil rfl rfl
  | some ds => exact DeviceDescriptionRegistry.indexes_nil rfl rfl

theorem rawDeviceDescriptions_cleared (interfaceId : String) :
    ((cleared data).registry interfaceId).rawDeviceDescriptions =
      (data.get? interfaceId).getD [] := by
  rw [registry, cleared, Dict.get?_map]
  cases data.get? interfaceId with
  | none => rfl
  | some ds => rfl

theorem rawDeviceDescriptions_convertAll {es : List (String × List DeviceDescription)}
    (interfaceId : String) :
    ((c.convertAll es).2.registry interfaceId).rawDeviceDescriptions =
      (c.registry interfaceId).rawDeviceDescriptions := by
  have hput : ∀ (c : DeviceDescriptionCache) iid ds,
      ((c.put iid ((c.registry iid).convertDeviceDescriptions ds).2).registry
        interfaceId).rawDeviceDescriptions = (c.registry interfaceId).rawDeviceDescriptions := by
    intro c iid ds
    rw [registry_put]
    split
    next heq => rw [DeviceDescriptionRegistry.rawDeviceDescriptions_convert, heq]
    · rfl
  induction es generalizing c with
  | nil => rfl
  | cons e es ih =>
    obtain ⟨iid, ds⟩ := e
    have := hput c iid ds
    unfold convertAll
    split
    · exact ih
    · split
      next r heq => rw [ih, ← this, heq]
      next exc r heq => rw [← this, heq]

theorem convertAll_ok_iff {es : List (String × List DeviceDescription)} :
    (c.convertAll es).1 = .ok () ↔
      ∀ e ∈ es, DeviceDescriptionRegistry.Parsed (indexed e.1 e.2) := by
  induction es generalizing c with
  | nil => simp [convertAll]
  | cons e es ih =>
    obtain ⟨iid, ds⟩ := e
    have hconvert : ((c.registry iid).convertDeviceDescriptions ds).1 = .ok () ↔
        DeviceDescriptionRegistry.Parsed ds := DeviceDescriptionRegistry.convert_ok_iff
    unfold convertAll indexed
    rw [List.forall_mem_cons]
    split
    · rw [ih]
      exact (and_iff_right (by simp [DeviceDescriptionRegistry.Parsed])).symm
    · rw [← hconvert]
      split
      next r heq => rw [ih, heq]; simp [indexed]
      next exc r heq => rw [heq]; simp

theorem registry_convertAll_of_notMem {es : List (String × List DeviceDescription)}
    {interfaceId : String} (h : interfaceId ∉ es.map Prod.fst) :
    (c.convertAll es).2.registry interfaceId = c.registry interfaceId := by
  induction es generalizing c with
  | nil => rfl
  | cons e es ih =>
    obtain ⟨iid, ds⟩ := e
    rw [List.map_cons, List.mem_cons, not_or] at h
    unfold convertAll
    split
    · exact ih h.2
    · split
      · rw [ih h.2, registry_put, if_neg (Ne.symm h.1)]
      · rw [registry_put, if_neg (Ne.symm h.1)]

theorem indexes_convertAll {es : List (String × List DeviceDescription)}
    (hnodup : (es.map Prod.fst).Nodup) (hok : (c.convertAll es).1 = .ok ()) {interfaceId : String}
    {ds : List DeviceDescription} (hmem : (interfaceId, ds) ∈ es)
    (hempty : (c.registry interfaceId).Indexes []) :
    ((c.convertAll es).2.registry interfaceId).Indexes (indexed interfaceId ds) := by
  induction es generalizing c with
  | nil => cases hmem
  | cons e es ih =>
    obtain ⟨iid, ds'⟩ := e
    obtain ⟨hnotMem, hnodup⟩ := List.nodup_cons.mp hnodup
    unfold convertAll at hok ⊢
    split at hok
    next hmeta =>
      rw [if_pos hmeta]
      rcases List.mem_cons.mp hmem with heq | hmem
      · cases heq
        rwa [registry_convertAll_of_notMem hnotMem, indexed, if_pos hmeta]
      · exact ih hnodup hok hmem hempty
    next hmeta =>
      rw [if_neg hmeta]
      split at hok
      next r hconvert =>
        rcases List.mem_cons.mp hmem with heq | hmem
        · cases heq
          rw [registry_convertAll_of_notMem hnotMem, registry_put, if_pos rfl, indexed,
            if_neg hmeta]
          exact hempty.convert hconvert
        · refine ih hnodup hok hmem ?_
          rw [registry_put, if_neg]
          · exact hempty
          · rintro rfl
            exact hnotMem (List.mem_map.mpr ⟨_, hmem, rfl⟩)
      next exc r hconvert => cases hok

theorem processLoadedContent_ok_iff : (processLoadedContent data).1 = .ok () ↔
    ∀ interfaceId, DeviceDescriptionRegistry.Parsed
      (indexed interfaceId ((data.get? interfaceId).getD [])) := by
  rw [processLoadedContent, convertAll_ok_iff]
  constructor
  · intro h interfaceId
    cases hds : data.get? interfaceId with
    | none => simp [indexed, DeviceDescriptionRegistry.Parsed]
    | some ds => exact h (interfaceId, ds) (Dict.get?_eq_some.mp hds)
  · rintro h ⟨interfaceId, ds⟩ hmem
    have := h interfaceId
    rwa [Dict.get?_eq_some.mpr hmem] at this

theorem indexes_processLoadedContent (hok : (processLoadedContent data).1 = .ok ())
    (interfaceId : String) :
    ((processLoadedContent data).2.registry interfaceId).Indexes
      (indexed interfaceId ((data.get? interfaceId).getD [])) := by
  cases hds : data.get? interfaceId with
  | none =>
    rw [processLoadedContent,
      registry_convertAll_of_notMem (Dict.get?_eq_none.mp hds), Option.getD_none, indexed, ite_self]
    exact indexes_cleared interfaceId
  | some ds =>
    exact indexes_convertAll data.nodup hok (Dict.get?_eq_some.mp hds) (indexes_cleared interfaceId)

theorem rawDeviceDescriptions_processLoadedContent (interfaceId : String) :
    ((processLoadedContent data).2.registry interfaceId).rawDeviceDescriptions =
      (data.get? interfaceId).getD [] :=
  (rawDeviceDescriptions_convertAll interfaceId).trans (rawDeviceDescriptions_cleared interfaceId)

/-- What is indexed can be parsed, and the registry has its indexes. -/
def UpToDate (c : DeviceDescriptionCache) (interfaceId : String) : Prop :=
  DeviceDescriptionRegistry.Parsed
      (indexed interfaceId (c.registry interfaceId).rawDeviceDescriptions) ∧
    (c.registry interfaceId).Indexes
      (indexed interfaceId (c.registry interfaceId).rawDeviceDescriptions)

theorem consistent_iff : c.Consistent ↔ ∀ interfaceId, c.UpToDate interfaceId := by
  constructor
  · rintro ⟨loaded, hloaded, hsame⟩ interfaceId
    have hok : (processLoadedContent c.content).1 = .ok () := by rw [hloaded]
    have hparsed := processLoadedContent_ok_iff.mp hok interfaceId
    have hindexes := indexes_processLoadedContent hok interfaceId
    rw [get?_content] at hparsed hindexes
    rw [hloaded] at hindexes
    exact ⟨hparsed, (hsame interfaceId).indexes hindexes⟩
  · intro h
    have hok : (processLoadedContent c.content).1 = .ok () := by
      rw [processLoadedContent_ok_iff]
      intro interfaceId
      rw [get?_content]
      exact (h interfaceId).1
    refine ⟨(processLoadedContent c.content).2, Prod.ext hok rfl, fun interfaceId => ?_⟩
    have hindexes := indexes_processLoadedContent hok interfaceId
    rw [get?_content] at hindexes
    exact (h interfaceId).2.same hindexes

/-! ## The steps -/

inductive CacheAction where
  | addDevice (interfaceId : String) (d : DeviceDescription)
  | removeDevice (device : DeviceRemovalInfo)
  /-- `load`, where the file holds new data. -/
  | load (data : Dict String (List DeviceDescription))

def step (c : DeviceDescriptionCache) : CacheAction → DeviceDescriptionCache
  | .addDevice interfaceId d => (c.addDevice interfaceId d).2
  | .removeDevice device => c.removeDevice device
  | .load data => (processLoadedContent data).2

def system : StepSystem DeviceDescriptionCache CacheAction where
  init := {}
  step c a := some (c.step a)

def Keeps (c : DeviceDescriptionCache) : CacheAction → Prop
  | .addDevice interfaceId d =>
    if isMetadataKey interfaceId then getDeviceAddress d.address = none
    else DeviceDescriptionRegistry.KeepsAdd (c.registry interfaceId).rawDeviceDescriptions d
  | .removeDevice device =>
    DeviceDescriptionRegistry.KeepsRemove
      (indexed device.interfaceId (c.registry device.interfaceId).rawDeviceDescriptions) device
  | .load data => ∀ interfaceId ∈ data.keys,
    DeviceDescriptionRegistry.Parsed (indexed interfaceId ((data.get? interfaceId).getD []))

instance : DecidableRel Keeps
  | c, .addDevice interfaceId d =>
    inferInstanceAs (Decidable (if isMetadataKey interfaceId then getDeviceAddress d.address = none
      else DeviceDescriptionRegistry.KeepsAdd (c.registry interfaceId).rawDeviceDescriptions d))
  | c, .removeDevice device =>
    inferInstanceAs (Decidable (DeviceDescriptionRegistry.KeepsRemove
      (indexed device.interfaceId (c.registry device.interfaceId).rawDeviceDescriptions) device))
  | _, .load data =>
    inferInstanceAs (Decidable (∀ interfaceId ∈ data.keys, DeviceDescriptionRegistry.Parsed
      (indexed interfaceId ((data.get? interfaceId).getD []))))

/-- A step on one registry leaves the others alone. -/
theorem upToDate_put {r : DeviceDescriptionRegistry} {interfaceId : String}
    (h : ∀ interfaceId, c.UpToDate interfaceId) :
    (∀ interfaceId', (c.put interfaceId r).UpToDate interfaceId') ↔
      DeviceDescriptionRegistry.Parsed (indexed interfaceId r.rawDeviceDescriptions) ∧
        r.Indexes (indexed interfaceId r.rawDeviceDescriptions) := by
  constructor
  · intro h'
    have := h' interfaceId
    rwa [UpToDate, registry_put, if_pos rfl] at this
  · intro hr interfaceId'
    rw [UpToDate, registry_put]
    split
    next heq => exact heq ▸ hr
    · exact h interfaceId'

theorem consistent_addDevice_iff (h : c.Consistent) (interfaceId : String)
    (d : DeviceDescription) :
    (c.step (.addDevice interfaceId d)).Consistent ↔ c.Keeps (.addDevice interfaceId d) := by
  have hold := consistent_iff.mp h interfaceId
  rw [consistent_iff, step, DeviceDescriptionCache.addDevice, upToDate_put (consistent_iff.mp h),
    Keeps]
  simp only [UpToDate, indexed] at hold ⊢
  split at hold
  next hmeta =>
    simp only [if_pos hmeta]
    rw [and_iff_right (by simp [DeviceDescriptionRegistry.Parsed])]
    exact DeviceDescriptionRegistry.indexes_nil_addDevice_iff hold.2
  next hmeta =>
    simp only [if_neg hmeta]
    exact DeviceDescriptionRegistry.indexes_addDevice_iff hold.1 hold.2

theorem consistent_removeDevice_iff (h : c.Consistent) (device : DeviceRemovalInfo) :
    (c.step (.removeDevice device)).Consistent ↔ c.Keeps (.removeDevice device) := by
  have hold := consistent_iff.mp h device.interfaceId
  have hfilter : indexed device.interfaceId
      ((c.registry device.interfaceId).removeDevice device).rawDeviceDescriptions =
        (indexed device.interfaceId
          (c.registry device.interfaceId).rawDeviceDescriptions).filter
            (·.address ∉ device.address :: device.channels) := by
    unfold indexed
    split <;> rfl
  rw [consistent_iff, step, DeviceDescriptionCache.removeDevice,
    upToDate_put (consistent_iff.mp h), Keeps, hfilter]
  constructor
  · exact fun h' => DeviceDescriptionRegistry.keepsRemove_of_indexes h'.2
  · intro hkeep
    exact ⟨fun d hd => hold.1 d (List.mem_filter.mp hd).1, hold.2.removeDevice hkeep⟩

theorem consistent_load_iff : (c.step (.load data)).Consistent ↔ c.Keeps (.load data) := by
  have hkeys : c.Keeps (.load data) ↔ (processLoadedContent data).1 = .ok () := by
    rw [Keeps, processLoadedContent_ok_iff]
    refine ⟨fun h interfaceId => ?_, fun h interfaceId _ => h interfaceId⟩
    by_cases hmem : interfaceId ∈ data.keys
    · exact h interfaceId hmem
    · rw [Dict.get?_eq_none.mpr hmem]
      simp [indexed, DeviceDescriptionRegistry.Parsed]
  rw [consistent_iff, hkeys, step]
  constructor
  · intro h
    rw [processLoadedContent_ok_iff]
    intro interfaceId
    have := (h interfaceId).1
    rwa [rawDeviceDescriptions_processLoadedContent] at this
  · intro hok interfaceId
    rw [UpToDate, rawDeviceDescriptions_processLoadedContent]
    exact ⟨processLoadedContent_ok_iff.mp hok interfaceId,
      indexes_processLoadedContent hok interfaceId⟩

theorem consistent_step_iff (h : c.Consistent) (a : CacheAction) :
    (c.step a).Consistent ↔ c.Keeps a := by
  cases a with
  | addDevice interfaceId d => exact consistent_addDevice_iff h interfaceId d
  | removeDevice device => exact consistent_removeDevice_iff h device
  | load data => exact consistent_load_iff

theorem consistent_init : system.init.Consistent :=
  consistent_iff.mpr fun _ =>
    ⟨by simp [indexed, registry, system, DeviceDescriptionRegistry.empty,
      DeviceDescriptionRegistry.Parsed], by
      rw [indexed]
      split <;> exact DeviceDescriptionRegistry.indexes_nil rfl rfl⟩

/-- What a caller of the cache sees of consistent indexes. -/
structure Reported (r : DeviceDescriptionRegistry) : Prop where
  present : ∀ d ∈ r.rawDeviceDescriptions, ∃ dev, getDeviceAddress d.address = some dev ∧
    dev ∈ r.getAddresses ∧ d.address ∈ r.channelAddresses dev
  removed : ∀ a, (∀ d ∈ r.rawDeviceDescriptions, d.address ≠ a) →
    r.getDeviceDescription a = none ∧ ∀ dev, a ∈ r.channelAddresses dev → a = dev

theorem reported_of_consistent (h : c.Consistent) (interfaceId : String)
    (hmeta : isMetadataKey interfaceId = false) : Reported (c.registry interfaceId) := by
  obtain ⟨hparsed, hindexes⟩ := consistent_iff.mp h interfaceId
  rw [indexed, hmeta, if_neg Bool.false_ne_true] at hparsed hindexes
  constructor
  case present =>
    intro d hd
    obtain ⟨dev, hdev⟩ := Option.ne_none_iff_exists'.mp (hparsed d hd)
    exact ⟨dev, hdev, (hindexes.devices dev).mpr ⟨d, hd, hdev⟩,
      (hindexes.channels dev d.address).mpr ⟨d, hd, hdev, .inr rfl⟩⟩
  case removed =>
    intro a hgone
    constructor
    · rw [hindexes.descriptions, List.filter_eq_nil_iff.mpr, List.getLast?_nil]
      intro d hd
      simpa using hgone d hd
    · intro dev ha
      obtain ⟨d, hd, -, heq | heq⟩ := (hindexes.channels dev a).mp ha
      · exact heq
      · exact absurd heq.symm (hgone d hd)

/-- In a run that never adds a known device with known channels again and never leaves a channel
behind, the indexes are those of a reload, and only such a step keeps them so. -/
theorem consistent_of_reach (c : DeviceDescriptionCache) (h : system.Reach Keeps c) :
    c.Consistent ∧
      (∀ interfaceId, isMetadataKey interfaceId = false → Reported (c.registry interfaceId)) ∧
      ∀ a, (c.step a).Consistent ↔ c.Keeps a := by
  have hconsistent : c.Consistent :=
    h.invariant consistent_init fun c a c' hc hkeep hstep => by
      cases hstep
      exact (consistent_step_iff hc a).mpr hkeep
  exact ⟨hconsistent, reported_of_consistent hconsistent,
    consistent_step_iff hconsistent⟩

/-! ### A device with one channel -/

def switchDevice : DeviceDescription where
  type := "HM-LC-Sw1-Pl"
  address := "VCU0000001"
  paramsets := [.master]
  children := ["VCU0000001:1"]
  children_of := by decide

def switchChannel : DeviceDescription where
  type := "SWITCH"
  address := "VCU0000001:1"
  paramsets := [.values]
  children := []
  parent := some "VCU0000001"
  children_of := by decide

def switchRemoval : DeviceRemovalInfo where
  interfaceId := "ccu-BidCos-RF"
  address := "VCU0000001"
  channels := ["VCU0000001", "VCU0000001:1"]
  isDevice := by decide
  channels_of := by decide

/-- The channel comes first, it is added again, and the device is paired again. -/
theorem consistent_of_reach_paired : ∃ c, system.Reach Keeps c ∧ c.Consistent ∧
    (c.registry "ccu-BidCos-RF").channelAddresses "VCU0000001" =
      ["VCU0000001:1", "VCU0000001"] := by
  obtain ⟨c, hc, htest⟩ := replay_any
    (p := fun c : DeviceDescriptionCache =>
      (c.registry "ccu-BidCos-RF").channelAddresses "VCU0000001" = ["VCU0000001:1", "VCU0000001"])
    (show (system.replay Keeps system.init
      [.addDevice "ccu-BidCos-RF" switchChannel, .addDevice "ccu-BidCos-RF" switchDevice,
        .removeDevice switchRemoval, .addDevice "ccu-BidCos-RF" switchDevice,
        .addDevice "ccu-BidCos-RF" switchChannel,
        .addDevice "ccu-BidCos-RF" switchChannel]).any _ = true by decide)
  exact ⟨c, reach_of_replay hc, (consistent_of_reach c (reach_of_replay hc)).1, htest⟩

/-- The device is added again while its channel is known: the channel is in the content, but no
longer among the addresses of its device. -/
theorem not_consistent_device_added_again : ∃ c, system.Reach Free c ∧
    switchChannel ∈ (c.registry "ccu-BidCos-RF").rawDeviceDescriptions ∧
    "VCU0000001:1" ∉ (c.registry "ccu-BidCos-RF").channelAddresses "VCU0000001" ∧
    ¬ c.Consistent := by
  obtain ⟨c, hc, hraw, hlost⟩ := replay_any
    (p := fun c : DeviceDescriptionCache =>
      switchChannel ∈ (c.registry "ccu-BidCos-RF").rawDeviceDescriptions ∧
      "VCU0000001:1" ∉ (c.registry "ccu-BidCos-RF").channelAddresses "VCU0000001")
    (show (system.replay Free system.init
      [.addDevice "ccu-BidCos-RF" switchDevice, .addDevice "ccu-BidCos-RF" switchChannel,
        .addDevice "ccu-BidCos-RF" switchDevice]).any _ = true by decide)
  refine ⟨c, reach_of_replay hc, hraw, hlost, fun hconsistent => hlost ?_⟩
  obtain ⟨dev, hdev, -, hmem⟩ :=
    (reported_of_consistent hconsistent "ccu-BidCos-RF" (by decide)).present _ hraw
  cases (show some "VCU0000001" = some dev from hdev)
  exact hmem

end DeviceDescriptionCache

end AioHomematic.Store
