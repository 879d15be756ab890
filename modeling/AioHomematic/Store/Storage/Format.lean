import Mathlib.Data.List.Sort
import AioHomematic.Lib.Dict

/-!
# What is in a storage file

JSON values, and the metadata that `Storage` puts around the data: `_save_sync`
adds them unless the storage is raw, `_parse_and_unwrap` recognises them by the
keys `data` and `_version`, and `load` takes the data out and migrates them.
-/

namespace AioHomematic.Store

open Lib

inductive Json where
  | null
  | bool (value : Bool)
  | int (value : Int)
  | float (value : Rat)
  | str (value : String)
  | arr (items : List Json)
  | obj (fields : List (String × Json))

namespace Json

/-! ## Equality -/

mutual

def beq : Json → Json → Bool
  | .null, .null => true
  | .bool a, .bool b => a = b
  | .int a, .int b => a = b
  | .float a, .float b => a = b
  | .str a, .str b => a = b
  | .arr a, .arr b => beqItems a b
  | .obj a, .obj b => beqFields a b
  | _, _ => false

def beqItems : List Json → List Json → Bool
  | [], [] => true
  | a :: as, b :: bs => a.beq b && beqItems as bs
  | _, _ => false

def beqFields : List (String × Json) → List (String × Json) → Bool
  | [], [] => true
  | (k, a) :: as, (k', b) :: bs => k = k' && a.beq b && beqFields as bs
  | _, _ => false

end

mutual

theorem beq_iff : ∀ a b : Json, a.beq b = true ↔ a = b
  | .null, b => by cases b <;> simp [beq]
  | .bool _, b => by cases b <;> simp [beq]
  | .int _, b => by cases b <;> simp [beq]
  | .float _, b => by cases b <;> simp [beq]
  | .str _, b => by cases b <;> simp [beq]
  | .arr items, b => by cases b <;> simp [beq, beqItems_iff items]
  | .obj fields, b => by cases b <;> simp [beq, beqFields_iff fields]

theorem beqItems_iff : ∀ as bs : List Json, beqItems as bs = true ↔ as = bs
  | [], bs => by cases bs <;> simp [beqItems]
  | a :: as, bs => by cases bs <;> simp [beqItems, beq_iff a, beqItems_iff as]

theorem beqFields_iff : ∀ as bs : List (String × Json), beqFields as bs = true ↔ as = bs
  | [], bs => by cases bs <;> simp [beqFields]
  | (k, a) :: as, bs => by
    cases bs <;> simp [beqFields, beq_iff a, beqFields_iff as, Prod.ext_iff, and_assoc]

end

instance : DecidableEq Json := fun a b => decidable_of_iff _ (beq_iff a b)

/-! ## Values -/

def ofDict (data : Dict String Json) : Json := .obj data.entries

def asDict : Json → Option (Dict String Json)
  | .obj fields => if h : (fields.map Prod.fst).Nodup then some ⟨fields, h⟩ else none
  | .null => none
  | .bool _ => none
  | .int _ => none
  | .float _ => none
  | .str _ => none
  | .arr _ => none

/-- What Python compares with a number. -/
def asNumber : Json → Option Rat
  | .int value => some value
  | .float value => some value
  | .bool value => some (if value then 1 else 0)
  | .null => none
  | .str _ => none
  | .arr _ => none
  | .obj _ => none

mutual

/-- `OPT_SORT_KEYS`. -/
def sortKeys : Json → Json
  | .arr items => .arr (sortItems items)
  | .obj fields => .obj ((sortFields fields).insertionSort fun a b => a.1 ≤ b.1)
  | .null => .null
  | .bool value => .bool value
  | .int value => .int value
  | .float value => .float value
  | .str value => .str value

def sortItems : List Json → List Json
  | [] => []
  | item :: items => item.sortKeys :: sortItems items

def sortFields : List (String × Json) → List (String × Json)
  | [] => []
  | (key, value) :: fields => (key, value.sortKeys) :: sortFields fields

end

@[simp] theorem asDict_ofDict (data : Dict String Json) : (ofDict data).asDict = some data :=
  dif_pos data.nodup

end Json

structure StorageOptions where
  key : String
  version : Int
  rawMode : Bool
  /-- `_migrate_func`; `none` when it raises. -/
  migrateFunc : Option (Json → Option Json)

namespace StorageOptions

variable (options : StorageOptions)

/-- `to_save` of `_save_sync`. -/
def toSave (data : Dict String Json) : Json :=
  if options.rawMode then .ofDict data
  else .ofDict (((Dict.empty.set "_version" (.int options.version)).set "_key"
    (.str options.key)).set "data" (.ofDict data))

def parseAndUnwrap (rawData : Json) : Dict String Json :=
  let unwrapped := (Dict.empty.set "data" rawData).set "_version" (.int 1)
  match rawData.asDict with
  | none => unwrapped
  | some dict => if dict.contains "data" ∧ dict.contains "_version" then dict else unwrapped

/-- What `load` returns; `migrated` is what it saves again. -/
structure Loaded where
  data : Json
  migrated : Option Json := none

/-- `load` of an existing file; `none` when it raises. -/
def load (file : Json) : Option Loaded :=
  let rawData := parseAndUnwrap file
  let data := (rawData.get? "data").getD (.ofDict rawData)
  match ((rawData.get? "_version").getD (.int 1)).asNumber with
  | none => none
  | some storedVersion =>
    match options.migrateFunc with
    | none => some { data }
    | some migrate =>
      if storedVersion < options.version then
        (migrate data).map fun migrated => { data := migrated, migrated := some migrated }
      else some { data }

end StorageOptions

end AioHomematic.Store
