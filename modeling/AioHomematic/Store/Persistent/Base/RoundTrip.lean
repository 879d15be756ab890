import AioHomematic.Store.Persistent.Base

/-!
# What a cache loads of what it saved

Content that `save` or `save_delayed` brought to disk, and a new cache of the
same class that loads it. `save_delayed` writes the content without its schema
version, and `load` takes such a file for one of version 1.
-/

namespace AioHomematic.Store.Persistent

open Lib

inductive Route where
  | save
  | saveDelayed

namespace Route

/-- The data that are written. -/
def data (route : Route) (schemaVersion : Int) (content : Content) : View :=
  match route with
  | .save => saveData schemaVersion content
  | .saveDelayed => delayedData

end Route

variable {H : Type*} [DecidableEq H]

/-- Save the content and let the storage write it; nothing else is going on, and there may be files
from before. -/
def persist (route : Route) (options : StorageOptions) (schemaVersion : Int) (digest : Json → H)
    (before : Files Json) (lastHashSaved : Option H) (useCaches : Bool) (content : Content) :
    Option (Files Json) :=
  let config := storageConfig options false
  let cache : Cache Content View Json H Unit :=
    { storage := { files := before }, lastHashSaved, useCaches }
  match route with
  | .save =>
    let saving := (cache.save (hashSha256 digest content.value) config content
      (saveData schemaVersion content) ()).1
    (saving.storage.work config content true).map (·.files)
  | .saveDelayed =>
    (((cache.saveDelayed delayedData).storage.triggerDelayedSave 0).bind fun fired =>
      fired.runDelayedTask config content ()).bind fun saving =>
        (saving.work config content true).map (·.files)

/-- A new cache of the class loads the content from these files, and nothing is migrated. -/
def Restores (options : StorageOptions) (cls : CacheClass) (digest : Json → H) (files : Files Json)
    (content : Dict String Json) : Prop :=
  ∃ file loaded, files.load = some file ∧ options.load file = some loaded ∧
    loaded.migrated = none ∧
    load cls digest .empty none (some (some loaded.data)) = some
      { result := .loadSuccess, content, lastHashSaved := some (hashSha256 digest content) }

/-- The file says which version it has, and no key of the content is taken for metadata. -/
structure Recognised (route : Route) (options : StorageOptions) (cls : CacheClass)
    (content : Dict String Json) : Prop where
  schemaVersion : route = .saveDelayed → cls.schemaVersion ≤ 1
  reserved : content.contains "_schema_version" = false
  metadata : options.rawMode = true →
    ¬ (content.contains "data" = true ∧ content.contains "_version" = true)
  version : options.rawMode = true → options.migrateFunc ≠ none → options.version ≤ 1

/-- What was saved is what is loaded. -/
theorem load_of_persist {route : Route} {options : StorageOptions} {schemaVersion : Int}
    {digest : Json → H} {before files : Files Json} {lastHashSaved : Option H} {useCaches : Bool}
    {content : Content}
    (h : persist route options schemaVersion digest before lastHashSaved useCaches content =
      some files) :
    files.load = some (options.toSave (route.data schemaVersion content content)) := by
  unfold persist at h
  cases route with
  | save =>
    dsimp only at h
    unfold Cache.save at h
    split at h
    · cases h
      rfl
    · cases h
  | saveDelayed =>
    dsimp only at h
    unfold Cache.saveDelayed at h
    split at h
    · cases h
      rfl
    · cases h

/-! ## Metadata -/

section Metadata

variable {options : StorageOptions} {data : Dict String Json} {loaded : StorageOptions.Loaded}

theorem load_wrapped (hraw : options.rawMode = false) :
    options.load (options.toSave data) = some { data := .ofDict data } := by
  have hunwrap : StorageOptions.parseAndUnwrap (options.toSave data) =
      ((Dict.empty.set "_version" (.int options.version)).set "_key"
        (.str options.key)).set "data" (.ofDict data) := by
    simp only [StorageOptions.parseAndUnwrap, StorageOptions.toSave, hraw, Bool.false_eq_true,
      if_false, Json.asDict_ofDict]
    rfl
  have hnumber : (Json.int options.version).asNumber = some (options.version : Rat) := rfl
  have hlt : ¬ (options.version : Rat) < (options.version : Rat) := Rat.lt_irrefl
  unfold StorageOptions.load
  rw [hunwrap]
  simp only [Dict.get?_set, String.reduceEq, if_true, if_false, Option.getD_some, hnumber,
    if_neg hlt]
  split <;> rfl

/-- Data without a wrapper, which do not look wrapped, are of storage version 1. -/
theorem load_raw (hraw : options.rawMode = true)
    (hmetadata : ¬ (data.contains "data" = true ∧ data.contains "_version" = true)) :
    options.load (options.toSave data) =
      match options.migrateFunc with
      | none => some { data := .ofDict data }
      | some migrate =>
        if (1 : Rat) < options.version then
          (migrate (.ofDict data)).map fun migrated =>
            { data := migrated, migrated := some migrated }
        else some { data := .ofDict data } := by
  have hunwrap : StorageOptions.parseAndUnwrap (options.toSave data) =
      (Dict.empty.set "data" (.ofDict data)).set "_version" (.int 1) := by
    simp only [StorageOptions.parseAndUnwrap, StorageOptions.toSave, hraw, if_true,
      Json.asDict_ofDict, if_neg hmetadata]
  have hnumber : (Json.int 1).asNumber = some 1 := rfl
  unfold StorageOptions.load
  rw [hunwrap]
  cases options.migrateFunc with
  | none =>
    simp only [Dict.get?_set, String.reduceEq, if_true, if_false, Option.getD_some, hnumber]
  | some migrate =>
    simp only [Dict.get?_set, String.reduceEq, if_true, if_false, Option.getD_some, hnumber]

/-- Of raw data that look wrapped, the part under `data` is loaded. -/
theorem load_mistaken (hraw : options.rawMode = true) (hdata : data.contains "data" = true)
    (hversion : data.contains "_version" = true)
    (h : options.load (options.toSave data) = some loaded) (hmigrated : loaded.migrated = none) :
    data.get? "data" = some loaded.data := by
  have hunwrap : StorageOptions.parseAndUnwrap (options.toSave data) = data := by
    simp only [StorageOptions.parseAndUnwrap, StorageOptions.toSave, hraw, if_true,
      Json.asDict_ofDict, hdata, hversion, and_self]
  obtain ⟨json, hjson⟩ := Option.isSome_iff_exists.mp hdata
  unfold StorageOptions.load at h
  rw [hunwrap] at h
  simp only [hjson, Option.getD_some] at h
  rw [hjson]
  split at h
  · cases h
  · split at h
    · cases h
      rfl
    · split at h
      · obtain ⟨migrated, -, rfl⟩ := Option.map_eq_some_iff.mp h
        cases hmigrated
      · cases h
        rfl

end Metadata

/-! ## The schema version -/

section SchemaVersion

variable {route : Route} {schemaVersion : Int} {content : Content}

theorem entries_data (h : content.value.contains "_schema_version" = false) :
    (route.data schemaVersion content content).entries =
      match route with
      | .save => ("_schema_version", .int schemaVersion) :: content.value.entries
      | .saveDelayed => content.value.entries := by
  cases route with
  | save =>
    refine (Dict.entries_merge fun key hkey hmem => ?_).trans rfl
    rw [Dict.keys_set, Dict.keys_empty] at hmem
    rw [List.mem_singleton.mp hmem] at hkey
    obtain ⟨value, hvalue⟩ := Dict.mem_keys.mp hkey
    rw [Dict.contains, Content.value, hvalue] at h
    cases h
  | saveDelayed => rfl

theorem get?_data (h : content.value.contains "_schema_version" = false) {key : String}
    (hkey : key ≠ "_schema_version") :
    (route.data schemaVersion content content).get? key = content.value.get? key := by
  rw [Dict.get?, entries_data h]
  cases route with
  | save => exact if_neg (Ne.symm hkey)
  | saveDelayed => rfl

theorem erase_data (h : content.value.contains "_schema_version" = false) :
    (route.data schemaVersion content content).erase "_schema_version" = content.value := by
  have hkeep : content.value.entries.filter (·.1 ≠ "_schema_version") = content.value.entries := by
    refine List.filter_eq_self.mpr fun entry hentry => decide_eq_true fun heq => ?_
    have hget : content.value.get? "_schema_version" = some entry.2 :=
      Dict.get?_eq_some.mpr (heq ▸ hentry)
    rw [Dict.contains, hget] at h
    cases h
  refine Dict.ext ?_
  change (route.data schemaVersion content content).entries.filter (·.1 ≠ "_schema_version") = _
  rw [entries_data h]
  cases route with
  | save => exact (List.filter_cons_of_neg (by simp)).trans hkeep
  | saveDelayed => exact hkeep

/-- What `load` takes for the version of the file. -/
theorem version_data (h : content.value.contains "_schema_version" = false) :
    (((route.data schemaVersion content content).get? "_schema_version").getD (.int 1)).asNumber =
      match route with
      | .save => some (schemaVersion : Rat)
      | .saveDelayed => some 1 := by
  rw [Dict.get?, entries_data h]
  cases route with
  | save => rfl
  | saveDelayed =>
    have hnone : Dict.lookup "_schema_version" content.value.entries = none := by
      rw [Dict.contains, Option.isSome_eq_false_iff, Option.isNone_iff_eq_none] at h
      exact h
    rw [hnone]
    rfl

end SchemaVersion

section Load

variable {cls : CacheClass} {digest : Json → H} {json : Json} {content : Dict String Json}

theorem load_eq_success_iff :
    load cls digest .empty none (some (some json)) = some
        { result := .loadSuccess, content, lastHashSaved := some (hashSha256 digest content) } ↔
      ∃ data, json.asDict = some data ∧ data.erase "_schema_version" = content ∧
        ∃ version, ((data.get? "_schema_version").getD (.int 1)).asNumber = some version ∧
          ¬ version < cls.schemaVersion := by
  constructor
  · intro h
    unfold load at h
    dsimp only at h
    split at h
    · cases h
    next data hdata =>
      refine ⟨data, hdata, ?_⟩
      split at h
      · cases h
      next version hversion =>
        split at h
        · split at h
          · cases h
          · simp [loadCurrent] at h
        next hlt =>
          simp only [loadCurrent, reduceCtorEq, if_false, Option.some.injEq,
            LoadOutcome.mk.injEq] at h
          exact ⟨h.2.1, version, hversion, hlt⟩
  · rintro ⟨data, hdata, rfl, version, hversion, hlt⟩
    unfold load
    simp only [hdata, hversion, if_neg hlt, loadCurrent, reduceCtorEq, if_false]

end Load

/-! ## Round trips -/

theorem eq_of_asDict {json : Json} {data : Dict String Json} (h : json.asDict = some data) :
    json = .ofDict data := by
  unfold Json.asDict at h
  split at h
  · split at h
    · cases h
      rfl
    · cases h
  all_goals cases h

/-- No content lies under a key of itself. -/
theorem not_part_of_itself {content data : Dict String Json} {key key' : String}
    (hdata : data.erase key = content) : content.get? key' ≠ some (.ofDict data) := by
  intro hget
  have hmem := List.sizeOf_lt_of_mem (Dict.get?_eq_some.mp hget)
  have hfilter : ∀ es : List (String × Json),
      sizeOf (es.filter (·.1 ≠ key)) ≤ sizeOf es := by
    intro es
    induction es with
    | nil => exact Nat.le_refl _
    | cons e es ih =>
      rw [List.filter_cons]
      split
      · simp only [List.cons.sizeOf_spec]
        omega
      · simp only [List.cons.sizeOf_spec]
        omega
  have hle : sizeOf content.entries ≤ sizeOf data.entries := hdata ▸ hfilter data.entries
  simp only [Prod.mk.sizeOf_spec, Json.ofDict, Json.obj.sizeOf_spec] at hmem
  omega

theorem one_lt_intCast {n : Int} : (1 : Rat) < n ↔ 1 < n := Rat.intCast_lt_intCast (a := 1)

section RoundTrip

variable {route : Route} {options : StorageOptions} {cls : CacheClass} {digest : Json → H}
  {files : Files Json} {content : Content}

theorem restores_of_recognised
    (hfile : files.load = some (options.toSave (route.data cls.schemaVersion content content)))
    (h : Recognised route options cls content.value) :
    Restores options cls digest files content.value := by
  have hload : options.load (options.toSave (route.data cls.schemaVersion content content)) =
      some { data := .ofDict (route.data cls.schemaVersion content content) } := by
    cases hraw : options.rawMode with
    | false => exact load_wrapped hraw
    | true =>
      have hmetadata := h.metadata hraw
      have hget : ∀ key, key ≠ "_schema_version" → content.value.get? key =
          (route.data cls.schemaVersion content content).get? key :=
        fun key hkey => (get?_data h.reserved hkey).symm
      rw [Dict.contains, Dict.contains, hget _ (by decide), hget _ (by decide)] at hmetadata
      rw [load_raw hraw hmetadata]
      split
      · rfl
      next migrate hmigrate =>
        have hle := h.version hraw (by simp [hmigrate])
        rw [if_neg (one_lt_intCast.not.mpr (by omega))]
  refine ⟨_, _, hfile, hload, rfl, load_eq_success_iff.mpr ⟨_, Json.asDict_ofDict _,
    erase_data h.reserved, ?_⟩⟩
  rw [version_data h.reserved]
  cases route with
  | save => exact ⟨_, rfl, Rat.lt_irrefl⟩
  | saveDelayed =>
    have hle := h.schemaVersion rfl
    exact ⟨_, rfl, one_lt_intCast.not.mpr (by omega)⟩

theorem recognised_of_restores
    (hfile : files.load = some (options.toSave (route.data cls.schemaVersion content content)))
    (h : Restores options cls digest files content.value) :
    Recognised route options cls content.value := by
  obtain ⟨file, loaded, hf, hload, hmigrated, hsuccess⟩ := h
  cases hfile.symm.trans hf
  obtain ⟨data, hdata, herase, version, hversion, hlt⟩ := load_eq_success_iff.mp hsuccess
  have hreserved : content.value.contains "_schema_version" = false := by
    rw [← herase, Dict.contains, Dict.get?_erase_self]
    rfl
  have hschema : loaded.data = .ofDict (route.data cls.schemaVersion content content) →
      route = .saveDelayed → cls.schemaVersion ≤ 1 := by
    rintro heq rfl
    rw [heq, Json.asDict_ofDict] at hdata
    cases hdata
    rw [version_data hreserved] at hversion
    cases hversion
    have hle := one_lt_intCast.not.mp hlt
    omega
  cases hraw : options.rawMode with
  | false =>
    rw [load_wrapped hraw] at hload
    cases hload
    exact ⟨hschema rfl, hreserved, fun h => by simp [hraw] at h, fun h => by simp [hraw] at h⟩
  | true =>
    by_cases hmetadata :
        (route.data cls.schemaVersion content content).contains "data" = true ∧
          (route.data cls.schemaVersion content content).contains "_version" = true
    · have hpart := load_mistaken hraw hmetadata.1 hmetadata.2 hload hmigrated
      rw [get?_data hreserved (by decide), eq_of_asDict hdata] at hpart
      exact absurd hpart (not_part_of_itself herase)
    · rw [load_raw hraw hmetadata] at hload
      have hunwrapped : ¬ (content.value.contains "data" = true ∧
          content.value.contains "_version" = true) := by
        rwa [Dict.contains, Dict.contains, get?_data hreserved (by decide),
          get?_data hreserved (by decide)] at hmetadata
      split at hload
      next hnone =>
        cases hload
        exact ⟨hschema rfl, hreserved, fun _ => hunwrapped, fun _ hmigrate => absurd hnone hmigrate⟩
      next migrate hmigrate =>
        split at hload
        · obtain ⟨migrated, -, rfl⟩ := Option.map_eq_some_iff.mp hload
          cases hmigrated
        next hle =>
          cases hload
          have hle := one_lt_intCast.not.mp hle
          exact ⟨hschema rfl, hreserved, fun _ => hunwrapped, fun _ _ => by omega⟩

end RoundTrip

def sampleOptions : StorageOptions where
  key := "incidents"
  version := 1
  rawMode := true
  migrateFunc := none

/-- A class with this schema version and the `_migrate_schema` of the base class. -/
def sampleClass (schemaVersion : Int) : CacheClass where
  schemaVersion
  migrateSchema _ _ := none

def sampleContent : Content where
  entries := Dict.empty.set "incidents" 0
  objects _ := .arr []

end AioHomematic.Store.Persistent
