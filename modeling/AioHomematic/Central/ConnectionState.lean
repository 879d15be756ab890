import Mathlib.Data.List.Basic
import Mathlib.Data.List.Nodup

/-!
# The connection state of the central

`CentralConnectionState` keeps a list of interface ids with a known problem for
each of the two transports. Neither list repeats an id, so `remove_issue`, which
removes the first occurrence, removes the issue. The events that a change
publishes are not part of the model.
-/

namespace AioHomematic.Central

/-- The class of the issuer. -/
inductive ConnectionProblemIssuer where
  | aioJsonRpcAioHttpClient
  | baseRpcProxy
deriving DecidableEq

/-- The interface ids with an issue of one transport. -/
structure IssueList where
  iids : List String
  nodup : iids.Nodup
deriving DecidableEq

namespace IssueList

def empty : IssueList := ⟨[], List.nodup_nil⟩

def append (issues : IssueList) (iid : String) (h : iid ∉ issues.iids) : IssueList where
  iids := issues.iids ++ [iid]
  nodup := by
    rw [← List.concat_eq_append]
    exact issues.nodup.concat h

def remove (issues : IssueList) (iid : String) : IssueList where
  iids := issues.iids.erase iid
  nodup := issues.nodup.erase iid

theorem mem_append {issues : IssueList} {iid : String} {h : iid ∉ issues.iids} {other : String} :
    other ∈ (issues.append iid h).iids ↔ other ∈ issues.iids ∨ other = iid := by
  simp [append]

theorem mem_remove {issues : IssueList} {iid other : String} :
    other ∈ (issues.remove iid).iids ↔ other ≠ iid ∧ other ∈ issues.iids :=
  issues.nodup.mem_erase_iff

end IssueList

structure CentralConnectionState where
  jsonIssues : IssueList := .empty
  rpcProxyIssues : IssueList := .empty
deriving DecidableEq

namespace CentralConnectionState

variable {s : CentralConnectionState} {issuer issuer' : ConnectionProblemIssuer} {iid iid' : String}

/-- The list that `isinstance(issuer, ..)` selects. -/
def issues (s : CentralConnectionState) : ConnectionProblemIssuer → IssueList
  | .aioJsonRpcAioHttpClient => s.jsonIssues
  | .baseRpcProxy => s.rpcProxyIssues

def setIssues (s : CentralConnectionState) (l : IssueList) :
    ConnectionProblemIssuer → CentralConnectionState
  | .aioJsonRpcAioHttpClient => { s with jsonIssues := l }
  | .baseRpcProxy => { s with rpcProxyIssues := l }

def isIssue (issuer : ConnectionProblemIssuer) (iid : String) (s : CentralConnectionState) : Bool :=
  iid ∈ (s.issues issuer).iids

def addIssue (issuer : ConnectionProblemIssuer) (iid : String) (s : CentralConnectionState) :
    Bool × CentralConnectionState :=
  if h : iid ∉ (s.issues issuer).iids then
    (true, s.setIssues ((s.issues issuer).append iid h) issuer)
  else (false, s)

def removeIssue (issuer : ConnectionProblemIssuer) (iid : String) (s : CentralConnectionState) :
    Bool × CentralConnectionState :=
  if iid ∈ (s.issues issuer).iids then
    (true, s.setIssues ((s.issues issuer).remove iid) issuer)
  else (false, s)

theorem issues_setIssues (s : CentralConnectionState) (l : IssueList)
    (issuer issuer' : ConnectionProblemIssuer) :
    (s.setIssues l issuer).issues issuer' = if issuer' = issuer then l else s.issues issuer' := by
  cases issuer <;> cases issuer' <;> rfl

theorem isIssue_iff : s.isIssue issuer iid = true ↔ iid ∈ (s.issues issuer).iids :=
  decide_eq_true_iff

@[simp] theorem isIssue_empty : ({} : CentralConnectionState).isIssue issuer iid = false := by
  cases issuer <;> rfl

theorem isIssue_addIssue : (s.addIssue issuer iid).2.isIssue issuer' iid' = true ↔
    issuer' = issuer ∧ iid' = iid ∨ s.isIssue issuer' iid' = true := by
  rw [isIssue_iff, isIssue_iff, addIssue]
  split
  · rw [issues_setIssues]
    split
    · subst issuer'
      rw [IssueList.mem_append, or_comm]
      simp only [true_and]
    · simp [*]
  · have hmem : iid ∈ (s.issues issuer).iids := not_not.mp ‹_›
    refine ⟨.inr, fun h => h.elim ?_ id⟩
    rintro ⟨rfl, rfl⟩
    exact hmem

theorem isIssue_removeIssue : (s.removeIssue issuer iid).2.isIssue issuer' iid' = true ↔
    ¬(issuer' = issuer ∧ iid' = iid) ∧ s.isIssue issuer' iid' = true := by
  rw [isIssue_iff, isIssue_iff, removeIssue]
  split
  · rw [issues_setIssues]
    split
    · subst issuer'
      rw [IssueList.mem_remove]
      simp only [true_and, ne_eq]
    · simp [*]
  · refine ⟨fun h => ⟨?_, h⟩, fun h => h.2⟩
    rintro ⟨rfl, rfl⟩
    exact absurd h ‹_›

end CentralConnectionState

end AioHomematic.Central
