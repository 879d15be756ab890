import AioHomematic.Lib.PyLiteral
import AioHomematic.Support.FileOps

/-!
# Frozen parameters

`freeze_params` writes the parameters of a recorded call as a text, which is the key of the
recorded response, and `unfreeze_params` reads it again. What raises gives nothing.

`freeze_params` ends with `str(res)`, at every level: inside a container there are only the
texts of its items.
-/

namespace AioHomematic.Store

open Lib Support

variable {F : Type} [FiniteFloat F]

/-- What `repr`, `literal_eval` and `datetime` leave open. -/
structure PyText (F : Type) where
  printable : Char → Bool
  /-- Literals that are not the `repr` of a value. -/
  otherLiteral : List Char → Option (PyValue F)
  fromisoformat : String → Option PyDatetime

def asciiText : PyText Empty := ⟨fun _ => false, fun _ => none, fun _ => none⟩

/-- `str(value)`. -/
def pyStr (py : PyText F) : PyValue F → String
  | .str s => s
  | v => String.ofList (v.repr py.printable)

/-- `sorted(texts, key=repr)`. -/
def sortedByRepr (py : PyText F) (texts : List String) : List String :=
  texts.insertionSort fun s t =>
    ¬ PyValue.reprStr py.printable t.toList < PyValue.reprStr py.printable s.toList

mutual

def freezeParams (py : PyText F) : PyValue F → Option String
  | .datetime d => some (pyStr py (.tuple [.str "__datetime__", .str d.isoformat]))
  | .dict es =>
    (freezeValues py es).bind fun frozen =>
      (PyValue.sorted? frozen).map fun frozen =>
        pyStr py (.dict (frozen.map fun e => (e.1, .str e.2)))
  | .list xs => (freezeItems py xs).map fun frozen => pyStr py (.tuple (frozen.map .str))
  | .tuple xs => (freezeItems py xs).map fun frozen => pyStr py (.tuple (frozen.map .str))
  | .set xs =>
    (freezeItems py xs).map fun frozen =>
      pyStr py (.tuple [.str "__set__", .tuple ((sortedByRepr py frozen).map .str)])
  | v => some (pyStr py v)

def freezeItems (py : PyText F) : List (PyValue F) → Option (List String)
  | [] => some []
  | x :: xs =>
    (freezeParams py x).bind fun frozen => (freezeItems py xs).map fun rest => frozen :: rest

def freezeValues (py : PyText F) :
    List (PyValue F × PyValue F) → Option (List (PyValue F × String))
  | [] => some []
  | (k, v) :: es =>
    (freezeParams py v).bind fun frozen =>
      (freezeValues py es).map fun rest => (k, frozen) :: rest

end

def literalEval (py : PyText F) (s : String) : Option (PyValue F) :=
  (PyValue.unrepr s.toList).or (py.otherLiteral s.toList)

/-- A string that looks like a dict literal. -/
def InBraces (s : String) : Prop := s.toList.head? = some '{' ∧ s.toList.getLast? = some '}'

instance (s : String) : Decidable (InBraces s) := inferInstanceAs (Decidable (_ ∧ _))

/-- A set of values that have been read; nothing where one of them is not hashable. -/
def setOf (xs : List (PyValue F)) : Option (PyValue F) :=
  if xs.all PyValue.hashable then some (.set (PyValue.distinct xs)) else none

/-- A string, or what it says if it looks like a dict literal. -/
def walkStr (py : PyText F) (s : String) : Option (PyValue F) :=
  if InBraces s then literalEval py s else some (.str s)

mutual

def walk (py : PyText F) : PyValue F → Option (PyValue F)
  | .tuple [.str tag, .tuple xs] =>
    if tag = "__set__" then (walkItems py xs).bind setOf
    else (walkStr py tag).bind fun x => (walk py (.tuple xs)).map fun y => .tuple [x, y]
  | .tuple [.str tag, .str iso] =>
    if tag = "__datetime__" then
      match py.fromisoformat iso with
      | some d => some (.datetime d)
      | none => some (.str iso)
    else (walkStr py tag).bind fun x => (walkStr py iso).map fun y => .tuple [x, y]
  | .tuple xs => (walkItems py xs).map .tuple
  | .dict es => (walkValues py es).map .dict
  | .list xs => (walkItems py xs).map .list
  | .str s => walkStr py s
  | v => some v

def walkItems (py : PyText F) : List (PyValue F) → Option (List (PyValue F))
  | [] => some []
  | x :: xs => (walk py x).bind fun y => (walkItems py xs).map fun ys => y :: ys

def walkValues (py : PyText F) :
    List (PyValue F × PyValue F) → Option (List (PyValue F × PyValue F))
  | [] => some []
  | (k, v) :: es => (walk py v).bind fun w => (walkValues py es).map fun rest => (k, w) :: rest

end

def unfreezeParams (py : PyText F) (frozenParams : String) : Option (PyValue F) :=
  match literalEval py frozenParams with
  | none => some (.str frozenParams)
  | some v => walk py v

/-! ## Scripts -/

def isScriptKey (k : PyValue F) : Bool := k.eq (.str "script")

/-- Clean the script in parameters; what is not a string has no lines and raises. -/
def cleanupParamsForSession : PyValue F → Option (PyValue F)
  | .dict es =>
    match es.find? fun e => isScriptKey e.1 with
    | none => some (.dict es)
    | some (_, .str script) =>
      let cleaned := String.ofList (cleanupScriptForSessionRecorder script.toList)
      some (.dict (es.map fun e => if isScriptKey e.1 then (e.1, .str cleaned) else e))
    | some _ => none
  | v => some v

/-- Cleaning parameters again changes nothing. -/
theorem cleanupParamsForSession_of_cleaned {params cleaned : PyValue F}
    (h : cleanupParamsForSession params = some cleaned) :
    cleanupParamsForSession cleaned = some cleaned := by
  cases params with
  | dict es =>
    rw [cleanupParamsForSession] at h
    split at h
    next hfind =>
      cases h
      rw [cleanupParamsForSession, hfind]
    next k script hfind =>
      simp only [Option.some_inj] at h
      subst h
      have hkeys : ∀ l : List (PyValue F × PyValue F),
          (l.map fun e => if isScriptKey e.1 then
            (e.1, PyValue.str (String.ofList (cleanupScriptForSessionRecorder script.toList)))
            else e).find? (fun e => isScriptKey e.1) =
          (l.find? fun e => isScriptKey e.1).map fun e =>
            (e.1, .str (String.ofList (cleanupScriptForSessionRecorder script.toList))) := by
        intro l
        induction l with
        | nil => rfl
        | cons e l ih =>
          rw [List.map_cons, List.find?_cons, List.find?_cons]
          by_cases hkey : isScriptKey e.1 = true
          · simp [hkey]
          · simp [hkey, ih]
      rw [cleanupParamsForSession, hkeys, hfind, Option.map_some]
      simp only [String.toList_ofList, cleanupScript_cleanupScript, List.map_map]
      refine congrArg (fun es => some (PyValue.dict es)) (List.map_congr_left fun e _ => ?_)
      by_cases hkey : isScriptKey e.1 = true
      · simp [hkey]
      · simp [hkey]
    next => cases h
  | _ => cases h; rfl

end AioHomematic.Store
