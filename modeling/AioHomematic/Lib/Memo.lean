import AioHomematic.Lib.Dict

/-!
# Memoised computations

A computation with a state returns `v` as long as an invariant `I` of the state holds: `Yields`.
The rules compose, and `yields_memo` is the one for an answer that is looked up in a cache and
stored in it. `Yields.after` is the rule for a run: what came before does not change an answer.

`LruCache` is `lru_cache` of a function that may fail. A key is found by an equality of its own, so
that the entry found may be one of another key; `LruCache.call_eq_iff` says when a call returns what
the function returns nevertheless.
-/

namespace AioHomematic.Lib

universe u

variable {σ α β ν : Type u} {κ : Type*} {I : σ → Prop}

/-- From every state that `I` holds of, `m` returns `v` and keeps `I`. -/
def Yields (I : σ → Prop) (m : StateM σ α) (v : α) : Prop :=
  ∀ s, I s → (m s).1 = v ∧ I (m s).2

namespace Yields

theorem pure (v : α) : Yields I (Pure.pure v : StateM σ α) v := fun _ h => ⟨rfl, h⟩

theorem bind {m : StateM σ α} {f : α → StateM σ β} {v : α} {w : β} (hm : Yields I m v)
    (hf : Yields I (f v) w) : Yields I (m >>= f) w := by
  intro s hs
  obtain ⟨hv, hI⟩ := hm s hs
  show (f (m s).1 (m s).2).1 = w ∧ I (f (m s).1 (m s).2).2
  rw [hv]
  exact hf _ hI

theorem ite {c : Prop} [Decidable c] {m m' : StateM σ α} {v v' : α} (h : c → Yields I m v)
    (h' : ¬c → Yields I m' v') : Yields I (if c then m else m') (if c then v else v') := by
  split
  next hc => exact h hc
  next hc => exact h' hc

theorem update {f : σ → σ} (h : ∀ s, I s → I (f s)) :
    Yields I (modify f : StateM σ PUnit) ⟨⟩ := fun s hs => ⟨rfl, h s hs⟩

/-- An answer after a list of other computations. -/
theorem after {ι : Type*} {run : ι → StateM σ β} {m : StateM σ α} {v : α} (hm : Yields I m v)
    (hrun : ∀ i, ∃ w, Yields I (run i) w) (history : List ι) {s : σ} (hs : I s) :
    (m (history.foldl (fun s i => (run i s).2) s)).1 = v := by
  induction history generalizing s with
  | nil => exact (hm s hs).1
  | cons i history ih =>
    obtain ⟨w, hw⟩ := hrun i
    exact ih (hw s hs).2

end Yields

section Memo

variable [DecidableEq κ]

/-- A cache of `f` has no value that `f` would not have. -/
def CacheOf (f : κ → ν) (cache : Dict κ ν) : Prop := ∀ k v, cache.get? k = some v → v = f k

theorem cacheOf_empty (f : κ → ν) : CacheOf f Dict.empty := by
  intro k v h
  cases h

theorem CacheOf.set {f : κ → ν} {cache : Dict κ ν} (h : CacheOf f cache) (k : κ) :
    CacheOf f (cache.set k (f k)) := by
  intro k' v hv
  rw [Dict.get?_set] at hv
  split at hv
  next heq =>
    cases heq
    exact (Option.some.inj hv).symm
  next hne => exact h k' v hv

/-- Look `k` up, and else compute its value and store it. -/
def memo (cache : σ → Dict κ ν) (store : Dict κ ν → σ → σ) (k : κ) (compute : StateM σ ν) :
    StateM σ ν := do
  match (cache (← get)).get? k with
  | some v => return v
  | none =>
    let v ← compute
    modify fun s => store ((cache s).set k v) s
    return v

theorem memo_eq (cache : σ → Dict κ ν) (store : Dict κ ν → σ → σ) (k : κ) (compute : StateM σ ν)
    (s : σ) :
    memo cache store k compute s =
      match (cache s).get? k with
      | some v => (v, s)
      | none => ((compute s).1, store ((cache (compute s).2).set k (compute s).1) (compute s).2) := by
  unfold memo
  show (match (cache s).get? k with
    | some v => Pure.pure v
    | none => _ : StateM σ ν) s = _
  cases (cache s).get? k <;> rfl

theorem yields_memo {cache : σ → Dict κ ν} {store : Dict κ ν → σ → σ} {f : κ → ν} {k : κ}
    {compute : StateM σ ν} (hcache : ∀ s, I s → CacheOf f (cache s))
    (hstore : ∀ s d, I s → CacheOf f d → I (store d s)) (hcompute : Yields I compute (f k)) :
    Yields I (memo cache store k compute) (f k) := by
  intro s hs
  rw [memo_eq]
  cases hget : (cache s).get? k with
  | some v => exact ⟨hcache s hs k v hget, hs⟩
  | none =>
    obtain ⟨hv, hI⟩ := hcompute s hs
    rw [hv]
    exact ⟨rfl, hstore _ _ hI ((hcache _ hI).set k)⟩

end Memo

/-! ## Caches that drop what was used least recently -/

/-- The entries, the one used least recently first. -/
abbrev LruCache (κ ν : Type*) := List (κ × ν)

namespace LruCache

variable {κ ν ε : Type*}

/-- The entry that a key finds. -/
def find? (same : κ → κ → Bool) (k : κ) (c : LruCache κ ν) : Option (κ × ν) :=
  List.find? (fun e => same e.1 k) c

def insert (maxsize : Nat) (e : κ × ν) (c : LruCache κ ν) : LruCache κ ν :=
  if c.length < maxsize then c ++ [e] else c.drop 1 ++ [e]

def call (same : κ → κ → Bool) (maxsize : Nat) (f : κ → Except ε ν) (k : κ) (c : LruCache κ ν) :
    Except ε ν × LruCache κ ν :=
  match c.find? same k with
  | some e => (.ok e.2, c.eraseP (fun e => same e.1 k) ++ [e])
  | none =>
    match f k with
    | .ok v => (.ok v, c.insert maxsize (k, v))
    | .error e => (.error e, c)

variable {same : κ → κ → Bool} {maxsize : Nat} {f : κ → Except ε ν} {k : κ} {c : LruCache κ ν}

/-- Every entry is a result of `f`. -/
def Caches (f : κ → Except ε ν) (c : LruCache κ ν) : Prop := ∀ e ∈ c, f e.1 = .ok e.2

theorem caches_nil : Caches f [] := nofun

theorem Caches.of_find? {e : κ × ν} (h : c.Caches f) (he : c.find? same k = some e) :
    f e.1 = .ok e.2 ∧ same e.1 k = true :=
  ⟨h e (List.mem_of_find?_eq_some he), by simpa using List.find?_some he⟩

theorem Caches.insert {v : ν} (h : c.Caches f) (hv : f k = .ok v) :
    (c.insert maxsize (k, v)).Caches f := by
  intro e he
  unfold LruCache.insert at he
  split at he
  next =>
    rcases List.mem_append.mp he with hold | hnew
    · exact h e hold
    · rw [List.mem_singleton.mp hnew]
      exact hv
  next =>
    rcases List.mem_append.mp he with hold | hnew
    · exact h e (List.mem_of_mem_drop hold)
    · rw [List.mem_singleton.mp hnew]
      exact hv

theorem Caches.call (h : c.Caches f) (k : κ) : (c.call same maxsize f k).2.Caches f := by
  unfold LruCache.call
  cases hfind : c.find? same k with
  | some e =>
    intro e' he'
    rcases List.mem_append.mp he' with hold | hmoved
    · exact h e' (List.mem_of_mem_eraseP hold)
    · rw [List.mem_singleton.mp hmoved]
      exact (h.of_find? hfind).1
  | none =>
    show Caches f (match f k with
      | .ok v => (Except.ok v, c.insert maxsize (k, v))
      | .error e => (Except.error e, c)).2
    cases hf : f k with
    | ok v => exact h.insert hf
    | error e => exact h

/-- A call returns what the function does, unless it finds the entry of a key with another result. -/
theorem call_eq_iff (h : c.Caches f) :
    (c.call same maxsize f k).1 = f k ↔ ∀ e, c.find? same k = some e → f e.1 = f k := by
  unfold LruCache.call
  cases hfind : c.find? same k with
  | some e =>
    have hstored := (h.of_find? hfind).1
    refine ⟨fun heq e' he' => ?_, fun hall => ?_⟩
    · obtain rfl := Option.some.inj he'
      exact hstored.trans heq
    · exact hstored.symm.trans (hall e rfl)
  | none =>
    refine ⟨nofun, fun _ => ?_⟩
    show (match f k with
      | .ok v => (Except.ok v, c.insert maxsize (k, v))
      | .error e => (Except.error e, c)).1 = f k
    cases f k <;> rfl

/-- Only a miss fails. -/
theorem of_call_error {e : ε} (h : (c.call same maxsize f k).1 = .error e) : f k = .error e := by
  unfold LruCache.call at h
  split at h
  · cases h
  · split at h
    · cases h
    next hf => exact hf.trans h

end LruCache

end AioHomematic.Lib
