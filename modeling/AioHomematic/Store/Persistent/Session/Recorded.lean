import AioHomematic.Store.Persistent.Session

/-!
# What the session recorder finds again

An item of the store is a response under an RPC type, a method, frozen parameters and a timestamp.
The purge drops the items that are expired, and the other methods are described by their items
too. `Newest` is the invariant of a run after a recording: the response stays the newest one of
its parameters while no other one is recorded for them and the recording is not expired.

`Tidy` says that no bucket is empty, at any level.
-/

namespace AioHomematic.Store.Persistent

open Lib StepSystem

variable {F : Type} [FiniteFloat F] {R : Type*}

namespace SessionStore

abbrev items (store : SessionStore R) : List ((String × String × String × Int) × R) :=
  (sessionLevels R).items store

/-! ## Buckets -/

theorem mem_items {store : SessionStore R} {rpcType method p : String} {ts : Int} {r : R} :
    ((rpcType, method, p, ts), r) ∈ items store ↔
      ∃ byMethod, store.get? rpcType = some byMethod ∧
        ∃ byParameter, byMethod.get? method = some byParameter ∧
          ((p, ts), r) ∈ (parameterLevels R).items byParameter := by
  rw [items, sessionLevels, Nested.mem_items_under]
  refine exists_congr fun byMethod => and_congr_right fun _ => ?_
  rw [Nested.mem_items_under]

theorem mem_parameterLevels {byParameter : ByParameter R} {p : String} {ts : Int} {r : R} :
    ((p, ts), r) ∈ (parameterLevels R).items byParameter ↔
      ∃ byTs, byParameter.get? p = some byTs ∧ byTs.get? ts = some r := by
  rw [parameterLevels, Nested.mem_items_under]
  refine exists_congr fun byTs => and_congr_right fun _ => ?_
  rw [Nested.mem_items_dict]

theorem parameterLevels_eq_nil (b : ByParameter R) (h : b.entries = []) :
    (parameterLevels R).items b = [] :=
  Nested.items_eq_nil_of_entries h

theorem bucket?_eq_some {store : SessionStore R} {rpcType method : String}
    {byMethod : ByMethod R} {byParameter : ByParameter R} :
    bucket? store rpcType method = some (byMethod, byParameter) ↔
      store.get? rpcType = some byMethod ∧ byMethod.get? method = some byParameter ∧
        byParameter.entries ≠ [] := by
  simp only [bucket?, Option.bind_eq_some_iff]
  constructor
  · rintro ⟨byMethod', hm, byParameter', hp, hsome⟩
    split at hsome
    · cases hsome
    next hne =>
      obtain ⟨rfl, rfl⟩ := Prod.mk.inj (Option.some_inj.mp hsome)
      exact ⟨hm, hp, fun hnil => hne (by rw [hnil]; rfl)⟩
  · rintro ⟨hm, hp, hne⟩
    refine ⟨byMethod, hm, byParameter, hp, ?_⟩
    rw [if_neg (mt List.isEmpty_iff.mp hne)]

/-- The items of a method are those of its bucket. -/
theorem mem_items_of_bucket {store : SessionStore R} {rpcType method p : String} {ts : Int}
    {r : R} : ((rpcType, method, p, ts), r) ∈ items store ↔
      ∃ b, bucket? store rpcType method = some b ∧
        ((p, ts), r) ∈ (parameterLevels R).items b.2 := by
  rw [mem_items]
  constructor
  · rintro ⟨byMethod, hm, byParameter, hp, hitem⟩
    refine ⟨(byMethod, byParameter), bucket?_eq_some.mpr ⟨hm, hp, fun hnil => ?_⟩, hitem⟩
    rw [parameterLevels_eq_nil byParameter hnil] at hitem
    cases hitem
  · rintro ⟨b, hb, hitem⟩
    obtain ⟨hm, hp, -⟩ := bucket?_eq_some.mp hb
    exact ⟨b.1, hm, b.2, hp, hitem⟩

/-- Another bucket for a method. -/
theorem mem_items_setBucket {store : SessionStore R} {rpcType method rpcType' method' p : String}
    {ts : Int} {r : R} {byMethod : ByMethod R} (h : store.get? rpcType = some byMethod)
    (b : ByParameter R) :
    ((rpcType', method', p, ts), r) ∈
        items (store.setFilled rpcType (byMethod.setFilled method b)) ↔
      if rpcType = rpcType' ∧ method = method' then ((p, ts), r) ∈ (parameterLevels R).items b
      else ((rpcType', method', p, ts), r) ∈ items store := by
  rw [items, sessionLevels, Nested.mem_items_setFilled fun s => Nested.items_eq_nil_of_entries]
  by_cases hrpc : rpcType = rpcType'
  · subst hrpc
    rw [if_pos rfl, Nested.mem_items_setFilled parameterLevels_eq_nil]
    by_cases hmethod : method = method'
    · rw [if_pos hmethod, if_pos ⟨rfl, hmethod⟩]
    · rw [if_neg hmethod, if_neg fun hand => hmethod hand.2, Nested.mem_items_under, mem_items, h]
      simp
  · rw [if_neg hrpc, if_neg fun hand => hrpc hand.1]
    exact Iff.rfl

/-! ## The purge -/

section Purge

variable {config : SessionConfig} {now : Int} {store : SessionStore R}

theorem mem_live {byParameter : ByParameter R} {p : String} {ts : Int} {r : R} :
    ((p, ts), r) ∈ (parameterLevels R).items (live config now byParameter) ↔
      ((p, ts), r) ∈ (parameterLevels R).items byParameter ∧ isExpired config now ts = false := by
  have hrest : ∀ {byTs : ByTimestamp R},
      (byTs.filterKeys fun ts => !isExpired config now ts).get? ts = some r ↔
        byTs.get? ts = some r ∧ isExpired config now ts = false := by
    intro byTs
    rw [Dict.get?_filterKeys]
    cases isExpired config now ts <;> simp
  rw [mem_parameterLevels, mem_parameterLevels, live]
  simp only [Dict.get?_filterMap]
  constructor
  · rintro ⟨rest, hrestEq, hget⟩
    obtain ⟨byTs, hbyTs, hsome⟩ := Option.bind_eq_some_iff.mp hrestEq
    split at hsome
    · cases hsome
    · cases hsome
      exact ⟨⟨byTs, hbyTs, (hrest.mp hget).1⟩, (hrest.mp hget).2⟩
  · rintro ⟨⟨byTs, hbyTs, hget⟩, hlive⟩
    have hgetRest := hrest.mpr ⟨hget, hlive⟩
    refine ⟨_, ?_, hgetRest⟩
    rw [hbyTs, Option.bind_some, if_neg]
    exact mt List.isEmpty_iff.mp (Dict.entries_ne_nil.mpr ⟨ts, r, hgetRest⟩)

/-- The purge of a method drops its expired items and nothing else. -/
theorem mem_purge {rpcType method rpcType' method' p : String} {ts : Int} {r : R} :
    ((rpcType', method', p, ts), r) ∈ items (purgeExpiredAt config now store rpcType method) ↔
      ((rpcType', method', p, ts), r) ∈ items store ∧
        ¬(rpcType = rpcType' ∧ method = method' ∧ isExpired config now ts = true) := by
  unfold purgeExpiredAt
  split
  next hzero =>
    have hlive : isExpired config now ts = false := by simp [isExpired, hzero]
    simp [hlive]
  next =>
    cases hbucket : bucket? store rpcType method with
    | none =>
      refine ⟨fun hitem => ⟨hitem, ?_⟩, And.left⟩
      rintro ⟨rfl, rfl, -⟩
      obtain ⟨b, hb, -⟩ := mem_items_of_bucket.mp hitem
      rw [hbucket] at hb
      cases hb
    | some b =>
      obtain ⟨hm, hp, -⟩ := bucket?_eq_some.mp hbucket
      simp only
      rw [mem_items_setBucket hm]
      split
      next heq =>
        obtain ⟨rfl, rfl⟩ := heq
        rw [mem_live, mem_items_of_bucket, hbucket]
        simp
      next hne =>
        exact ⟨fun hitem => ⟨hitem, fun h => hne ⟨h.1, h.2.1⟩⟩, And.left⟩

theorem mem_of_mem_purge {rpcType method : String} {e : (String × String × String × Int) × R}
    (h : e ∈ items (purgeExpiredAt config now store rpcType method)) : e ∈ items store := by
  obtain ⟨⟨rpcType', method', p, ts⟩, r⟩ := e
  exact (mem_purge.mp h).1

theorem mem_purge_of_live {rpcType method rpcType' method' p : String} {ts : Int} {r : R}
    (h : ((rpcType', method', p, ts), r) ∈ items store)
    (hlive : isExpired config now ts = false) :
    ((rpcType', method', p, ts), r) ∈ items (purgeExpiredAt config now store rpcType method) :=
  mem_purge.mpr ⟨h, fun hexpired => by rw [hlive] at hexpired; exact nomatch hexpired.2.2⟩

/-- `cleanup` purges the methods one after the other. -/
theorem cleanup_induction {P : SessionStore R → Prop}
    (hpurge : ∀ s rpcType method, P s → P (purgeExpiredAt config now s rpcType method))
    (h : P store) : P (cleanup config now store) := by
  unfold cleanup
  refine List.foldlRecOn store.entries _ h fun s hs e _ => ?_
  exact List.foldlRecOn e.2.keys _ hs fun s hs method _ => hpurge s e.1 method hs

end Purge

/-! ## Lookups -/

section Lookup

theorem latest?_eq_some {byTs : ByTimestamp R} {ts : Int} {r : R} :
    latest? byTs = some (ts, r) ↔
      byTs.get? ts = some r ∧ ∀ ts' r', byTs.get? ts' = some r' → ts' ≤ ts := by
  have hmax : ∀ ts', byTs.keys.max? = some ts' ↔
      ts' ∈ byTs.keys ∧ ∀ ts'' ∈ byTs.keys, ts'' ≤ ts' := fun _ => List.max?_eq_some_iff
  rw [latest?, Option.bind_eq_some_iff]
  constructor
  · rintro ⟨ts', hts', hsome⟩
    obtain ⟨r', hr', heq⟩ := Option.map_eq_some_iff.mp hsome
    obtain ⟨rfl, rfl⟩ := Prod.mk.inj heq
    exact ⟨hr', fun ts'' r'' hget => ((hmax ts').mp hts').2 ts'' (Dict.mem_keys.mpr ⟨r'', hget⟩)⟩
  · rintro ⟨hget, hle⟩
    refine ⟨ts, (hmax ts).mpr ⟨Dict.mem_keys.mpr ⟨r, hget⟩, fun ts' hts' => ?_⟩, ?_⟩
    · obtain ⟨r', hr'⟩ := Dict.mem_keys.mp hts'
      exact hle ts' r' hr'
    · rw [hget, Option.map_some]

/-- The response is the newest one under the parameters. -/
def Newest (store : SessionStore R) (rpcType method p : String) (ts : Int) (r : R) : Prop :=
  ((rpcType, method, p, ts), r) ∈ items store ∧
    ∀ ts' r', ((rpcType, method, p, ts'), r') ∈ items store → ts' ≤ ts

theorem Newest.unique {store : SessionStore R} {rpcType method p : String} {ts ts' : Int}
    {r r' : R} (h : Newest store rpcType method p ts r)
    (h' : Newest store rpcType method p ts' r') : ts = ts' ∧ r = r' := by
  have hts : ts = ts' := Int.le_antisymm (h'.2 ts r h.1) (h.2 ts' r' h'.1)
  subst hts
  have hinj := List.inj_on_of_nodup_map ((sessionLevels R).nodup store) h.1 h'.1 rfl
  exact ⟨rfl, congrArg Prod.snd hinj⟩

variable {py : PyText F} {store : SessionStore R} {rpcType method p : String}
  {params : PyValue F} {ts : Int} {r : R}

theorem newest_of_bucket {byMethod : ByMethod R} {byParameter : ByParameter R}
    (hbucket : bucket? store rpcType method = some (byMethod, byParameter)) :
    Newest store rpcType method p ts r ↔
      ∃ byTs, byParameter.get? p = some byTs ∧ latest? byTs = some (ts, r) := by
  have hitem : ∀ ts r, ((rpcType, method, p, ts), r) ∈ items store ↔
      ∃ byTs, byParameter.get? p = some byTs ∧ byTs.get? ts = some r := by
    intro ts r
    rw [mem_items_of_bucket, hbucket, ← mem_parameterLevels]
    simp
  simp only [Newest, hitem, latest?_eq_some]
  constructor
  · rintro ⟨⟨byTs, hbyTs, hget⟩, hle⟩
    exact ⟨byTs, hbyTs, hget, fun ts' r' hget' => hle ts' r' ⟨byTs, hbyTs, hget'⟩⟩
  · rintro ⟨byTs, hbyTs, hget, hle⟩
    refine ⟨⟨byTs, hbyTs, hget⟩, ?_⟩
    rintro ts' r' ⟨byTs', hbyTs', hget'⟩
    cases hbyTs.symm.trans hbyTs'
    exact hle ts' r' hget'

theorem lookup_eq_found : lookup py store rpcType method params = .found (p, ts, r) ↔
    lookupKey py params = some p ∧ Newest store rpcType method p ts r := by
  unfold lookup
  cases hbucket : bucket? store rpcType method with
  | none =>
    refine iff_of_false nofun fun h => ?_
    obtain ⟨b, hb, -⟩ := mem_items_of_bucket.mp h.2.1
    rw [hbucket] at hb
    cases hb
  | some b =>
    obtain ⟨byMethod, byParameter⟩ := b
    cases hkey : lookupKey py params with
    | none => exact iff_of_false nofun fun h => nomatch h.1
    | some frozenParam =>
      simp only [Option.some_inj]
      cases hlatest : (byParameter.get? frozenParam).bind latest? with
      | none =>
        refine iff_of_false nofun ?_
        rintro ⟨rfl, hnewest⟩
        obtain ⟨byTs, hbyTs, hlast⟩ := (newest_of_bucket hbucket).mp hnewest
        rw [hbyTs, Option.bind_some, hlast] at hlatest
        cases hlatest
      | some last =>
        obtain ⟨byTs, hbyTs, hlast⟩ := Option.bind_eq_some_iff.mp hlatest
        have hnewest : Newest store rpcType method frozenParam last.1 last.2 :=
          (newest_of_bucket hbucket).mpr ⟨byTs, hbyTs, hlast⟩
        constructor
        · intro hfound
          cases hfound
          exact ⟨rfl, hnewest⟩
        · rintro ⟨rfl, hnewest'⟩
          obtain ⟨rfl, rfl⟩ := hnewest.unique hnewest'
          rfl

end Lookup

/-! ## What a method does to the items -/

section Effects

variable {config : SessionConfig} {py : PyText F} {now : Int} {store : SessionStore R}
  {rpcType method : String} {params : PyValue F}

theorem getLatestByMethod_fst : (getLatestByMethod config py now store rpcType method).1 =
    purgeExpiredAt config now store rpcType method := by
  unfold getLatestByMethod
  simp only
  split <;> rfl

theorem getLatestByParams_fst : (getLatestByParams config py now store rpcType method params).1 =
    purgeExpiredAt config now store rpcType method := by
  unfold getLatestByParams
  simp only
  split <;> rfl

theorem peekTs_fst : (peekTs config py now store rpcType method params).1 =
    purgeExpiredAt config now store rpcType method := by
  unfold peekTs
  simp only
  split <;> rfl

/-- The item that a method puts into the store. -/
inductive Writes (config : SessionConfig) (py : PyText F) (now : Int) (store : SessionStore R) :
    SessionOp F R → (String × String × String × Int) × R → Prop where
  | set {rpcType method p : String} {params : PyValue F} {r : R} {ts : Option Int} :
      freezeParams py params = some p →
      Writes config py now store (.set rpcType method params r ts)
        ((rpcType, method, p, ts.getD now), r)
  /-- The newest response gets another timestamp. -/
  | refresh {rpcType method p : String} {params : PyValue F} {ts : Int} {r : R} :
      config.refreshOnGet = true → lookupKey py params = some p →
      Newest (purgeExpiredAt config now store rpcType method) rpcType method p ts r →
      Writes config py now store (.get rpcType method params) ((rpcType, method, p, now), r)

/-- A `get` purges, and may write. -/
theorem get_fst (config : SessionConfig) (py : PyText F) (now : Int) (store : SessionStore R)
    (rpcType method : String) (params : PyValue F) :
    (get config py now store rpcType method params).1 =
        purgeExpiredAt config now store rpcType method ∧
      (∀ e, ¬ Writes config py now store (.get rpcType method params) e) ∨
    ∃ k r, Writes config py now store (.get rpcType method params) (k, r) ∧
      (get config py now store rpcType method params).1 =
        (sessionLevels R).put (purgeExpiredAt config now store rpcType method) k r := by
  have hnone : ∀ answer, lookup py (purgeExpiredAt config now store rpcType method) rpcType method
      params = answer → (∀ found, answer ≠ .found found) →
      ∀ e, ¬ Writes config py now store (.get rpcType method params) e := by
    intro answer hanswer hne e hwrites
    cases hwrites with
    | refresh _ hkey hnewest =>
      exact hne _ (hanswer.symm.trans (lookup_eq_found.mpr ⟨hkey, hnewest⟩))
  unfold get
  simp only
  split
  next hlookup => exact .inl ⟨rfl, hnone _ hlookup nofun⟩
  next hlookup => exact .inl ⟨rfl, hnone _ hlookup nofun⟩
  next p ts r hlookup =>
    obtain ⟨hkey, hnewest⟩ := lookup_eq_found.mp hlookup
    split
    next hrefresh => exact .inr ⟨_, _, .refresh hrefresh hkey hnewest, rfl⟩
    next hrefresh =>
      refine .inl ⟨rfl, fun e hwrites => ?_⟩
      cases hwrites with
      | refresh h => exact hrefresh h

theorem mem_delete {rpcType' method' p : String} {ts : Int} {r : R} :
    ((rpcType', method', p, ts), r) ∈ items (delete py store rpcType method params).1 ↔
      ((rpcType', method', p, ts), r) ∈ items store ∧
        ¬(rpcType = rpcType' ∧ method = method' ∧ lookupKey py params = some p) := by
  unfold delete
  split
  next hbucket =>
    refine ⟨fun hitem => ⟨hitem, ?_⟩, And.left⟩
    rintro ⟨rfl, rfl, -⟩
    obtain ⟨b, hb, -⟩ := mem_items_of_bucket.mp hitem
    rw [hbucket] at hb
    cases hb
  next byMethod byParameter hbucket =>
    obtain ⟨hm, -, -⟩ := bucket?_eq_some.mp hbucket
    have hitem : ((rpcType, method, p, ts), r) ∈ items store ↔
        ((p, ts), r) ∈ (parameterLevels R).items byParameter := by
      rw [mem_items_of_bucket, hbucket]
      simp
    cases hkey : lookupKey py params with
    | none => simp
    | some frozenParam =>
      simp only [Option.some_inj]
      split
      · rw [mem_items_setBucket hm, mem_parameterLevels, Dict.get?_erase]
        split
        next heq =>
          obtain ⟨rfl, rfl⟩ := heq
          rw [hitem, mem_parameterLevels]
          by_cases hp : frozenParam = p
          · simp [hp]
          · simp [hp]
        next hne => exact ⟨fun h => ⟨h, fun hand => hne ⟨hand.1, hand.2.1⟩⟩, And.left⟩
      next habsent =>
        refine ⟨fun h => ⟨h, ?_⟩, And.left⟩
        rintro ⟨rfl, rfl, rfl⟩
        obtain ⟨byTs, hbyTs, -⟩ := mem_parameterLevels.mp (hitem.mp h)
        exact habsent (Dict.contains_iff.mpr (by rw [hbyTs]; exact Option.some_ne_none _))

/-- A method writes at most one item; the others have been there before. -/
theorem mem_of_mem_perform {op : SessionOp F R} {e : (String × String × String × Int) × R}
    (h : e ∈ items (perform config py now store op)) :
    e ∈ items store ∨ Writes config py now store op e := by
  obtain ⟨⟨rpcType', method', p, ts⟩, r⟩ := e
  cases op with
  | cleanup =>
    refine .inl ?_
    revert h
    exact cleanup_induction (P := fun s => _ ∈ items s → _ ∈ items store)
      (fun s rpcType method ih hitem => ih (mem_of_mem_purge hitem)) id
  | clear => exact nomatch h
  | delete rpcType method params => exact .inl (mem_delete.mp h).1
  | get rpcType method params =>
    rw [perform] at h
    obtain ⟨hget, -⟩ | ⟨k, r', hwrites, hget⟩ := get_fst config py now store rpcType method params
    · rw [hget] at h
      exact .inl (mem_of_mem_purge h)
    · rw [hget, items, (sessionLevels R).mem_put] at h
      split at h
      next heq =>
        subst heq h
        exact .inr hwrites
      · exact .inl (mem_of_mem_purge h)
  | getLatestByMethod rpcType method =>
    rw [perform, getLatestByMethod_fst] at h
    exact .inl (mem_of_mem_purge h)
  | getLatestByParams rpcType method params =>
    rw [perform, getLatestByParams_fst] at h
    exact .inl (mem_of_mem_purge h)
  | peekTs rpcType method params =>
    rw [perform, peekTs_fst] at h
    exact .inl (mem_of_mem_purge h)
  | set rpcType method params response ts =>
    rw [perform, set] at h
    split at h
    · exact .inl (mem_of_mem_purge h)
    next frozenParam hfreeze =>
      rw [items, (sessionLevels R).mem_put] at h
      split at h
      next heq =>
        obtain ⟨rfl, rfl, rfl, rfl⟩ := by simpa only [Prod.mk.injEq] using heq
        subst h
        exact .inr (.set hfreeze)
      · exact .inl (mem_of_mem_purge h)

/-- The methods that take away or replace what is recorded under some parameters. -/
def Spares (py : PyText F) (rpcType method p : String) : SessionOp F R → Prop
  | .clear => False
  | .delete rpcType' method' params =>
    ¬(rpcType' = rpcType ∧ method' = method ∧ lookupKey py params = some p)
  | .set rpcType' method' params _ _ =>
    ¬(rpcType' = rpcType ∧ method' = method ∧ freezeParams py params = some p)
  | _ => True

/-- What is not expired stays, unless it gets another response. -/
theorem mem_perform_of_live {op : SessionOp F R} {rpcType method p : String} {ts : Int} {r : R}
    (h : ((rpcType, method, p, ts), r) ∈ items store) (hlive : isExpired config now ts = false)
    (hspares : Spares py rpcType method p op) :
    ((rpcType, method, p, ts), r) ∈ items (perform config py now store op) ∨
      ∃ r', Writes config py now store op ((rpcType, method, p, ts), r') := by
  cases op with
  | cleanup =>
    exact .inl (cleanup_induction (P := fun s => _ ∈ items s)
      (fun s rpcType method hitem => mem_purge_of_live hitem hlive) h)
  | clear => exact hspares.elim
  | delete rpcType' method' params => exact .inl (mem_delete.mpr ⟨h, hspares⟩)
  | get rpcType' method' params =>
    rw [perform]
    obtain ⟨hget, -⟩ | ⟨k, r', hwrites, hget⟩ := get_fst config py now store rpcType' method' params
    · rw [hget]
      exact .inl (mem_purge_of_live h hlive)
    · rw [hget, items, (sessionLevels R).mem_put]
      split
      next heq => exact .inr ⟨r', heq ▸ hwrites⟩
      · exact .inl (mem_purge_of_live h hlive)
  | getLatestByMethod rpcType' method' =>
    rw [perform, getLatestByMethod_fst]
    exact .inl (mem_purge_of_live h hlive)
  | getLatestByParams rpcType' method' params =>
    rw [perform, getLatestByParams_fst]
    exact .inl (mem_purge_of_live h hlive)
  | peekTs rpcType' method' params =>
    rw [perform, peekTs_fst]
    exact .inl (mem_purge_of_live h hlive)
  | set rpcType' method' params response ts' =>
    rw [perform, set]
    split
    · exact .inl (mem_purge_of_live h hlive)
    next frozenParam hfreeze =>
      rw [items, (sessionLevels R).mem_put, if_neg]
      · exact .inl (mem_purge_of_live h hlive)
      · intro heq
        obtain ⟨rfl, rfl, rfl, -⟩ := by simpa only [Prod.mk.injEq] using heq
        exact hspares ⟨rfl, rfl, hfreeze⟩

theorem mem_perform_of_writes {op : SessionOp F R} {e : (String × String × String × Int) × R}
    (h : Writes config py now store op e) : e ∈ items (perform config py now store op) := by
  cases h with
  | set hfreeze =>
    rw [perform, set]
    simp only [hfreeze]
    rw [items, (sessionLevels R).mem_put, if_pos rfl]
  | refresh hrefresh hkey hnewest =>
    rw [perform, get]
    simp only [lookup_eq_found.mpr ⟨hkey, hnewest⟩, hrefresh, if_true]
    rw [items, (sessionLevels R).mem_put, if_pos rfl]

end Effects

/-! ## Runs after a recording -/

section Run

variable {config : SessionConfig} {py : PyText F} {now : Int} {store : SessionStore R}
  {rpcType method p : String} {ts : Int} {r : R}

theorem isExpired_of_le {ts' : Int} (hle : ts ≤ ts') (h : isExpired config now ts = false) :
    isExpired config now ts' = false := by
  unfold isExpired at h ⊢
  rw [decide_eq_false_iff_not] at h ⊢
  rintro ⟨hne, hlt⟩
  refine h ⟨hne, lt_of_lt_of_le hlt ?_⟩
  exact Rat.intCast_le_intCast.mpr (by omega)

theorem Newest.purge (h : Newest store rpcType method p ts r)
    (hlive : isExpired config now ts = false) (rpcType' method' : String) :
    Newest (purgeExpiredAt config now store rpcType' method') rpcType method p ts r :=
  ⟨mem_purge_of_live h.1 hlive, fun ts' r' hitem => h.2 ts' r' (mem_of_mem_purge hitem)⟩

/-- One step: the response may get a later timestamp. -/
theorem Newest.perform (h : Newest store rpcType method p ts r)
    (hlive : isExpired config now ts = false) {op : SessionOp F R}
    (hspares : Spares py rpcType method p op) :
    ∃ ts', ts ≤ ts' ∧ Newest (perform config py now store op) rpcType method p ts' r := by
  -- what is written under these parameters is the response again
  have hwritten : ∀ {ts' r'}, Writes config py now store op ((rpcType, method, p, ts'), r') →
      ts' = now ∧ r' = r := by
    intro ts' r' hwrites
    cases hwrites with
    | set hfreeze => exact absurd ⟨rfl, rfl, hfreeze⟩ hspares
    | refresh _ _ hnewest => exact ⟨rfl, ((h.purge hlive _ _).unique hnewest).2.symm⟩
  have hold : ∀ {ts' r'},
      ((rpcType, method, p, ts'), r') ∈ items (SessionStore.perform config py now store op) →
      ts' ≤ ts ∨ Writes config py now store op ((rpcType, method, p, ts'), r') := by
    intro ts' r' hitem
    exact (mem_of_mem_perform hitem).imp_left (h.2 ts' r')
  by_cases hrefresh : Writes config py now store op ((rpcType, method, p, now), r)
  · by_cases hle : ts ≤ now
    · refine ⟨now, hle, mem_perform_of_writes hrefresh, fun ts' r' hitem => ?_⟩
      obtain hle' | hwrites := hold hitem
      · exact Int.le_trans hle' hle
      · exact Int.le_of_eq (hwritten hwrites).1
    · refine ⟨ts, Int.le_refl ts, ?_, fun ts' r' hitem => ?_⟩
      · obtain hitem | ⟨r', hwrites⟩ := mem_perform_of_live h.1 hlive hspares
        · exact hitem
        · have := (hwritten hwrites).1
          omega
      · obtain hle' | hwrites := hold hitem
        · exact hle'
        · have := (hwritten hwrites).1
          omega
  · have hnone : ∀ {ts' r'}, ¬ Writes config py now store op ((rpcType, method, p, ts'), r') := by
      intro ts' r' hwrites
      obtain ⟨rfl, rfl⟩ := hwritten hwrites
      exact hrefresh hwrites
    refine ⟨ts, Int.le_refl ts, ?_, fun ts' r' hitem => (hold hitem).resolve_right hnone⟩
    obtain hitem | ⟨r', hwrites⟩ := mem_perform_of_live h.1 hlive hspares
    · exact hitem
    · exact absurd hwrites hnone

/-- The methods between a recording and a lookup: none takes the recording away, and each is
called while it is not expired. -/
def Between (config : SessionConfig) (py : PyText F) (rpcType method p : String) (ts : Int)
    (_store : SessionStore R) (action : Int × SessionOp F R) : Prop :=
  isExpired config action.1 ts = false ∧ Spares py rpcType method p action.2

theorem Newest.steps {as : List (Int × SessionOp F R)} {t : SessionStore R}
    (hsteps :
      (sessionRecorder config py R).Steps (Between config py rpcType method p ts) store as t)
    (h : Newest store rpcType method p ts r) :
    ∃ ts', ts ≤ ts' ∧ Newest t rpcType method p ts' r := by
  refine hsteps.invariant (P := fun s => ∃ ts', ts ≤ ts' ∧ Newest s rpcType method p ts' r) ?_
    ⟨ts, Int.le_refl ts, h⟩
  rintro s ⟨now, op⟩ t ⟨ts', hle, hnewest⟩ ⟨hlive, hspares⟩ hstep
  cases hstep
  obtain ⟨ts'', hle', hnewest'⟩ := hnewest.perform (isExpired_of_le hle hlive) hspares
  exact ⟨ts'', Int.le_trans hle hle', hnewest'⟩

/-- A recording that is not older than the others of its parameters is the newest one. -/
theorem newest_set {params : PyValue F} {ts : Option Int}
    (hfreeze : freezeParams py params = some p)
    (hle : ∀ ts' r', ((rpcType, method, p, ts'), r') ∈ items store → ts' ≤ ts.getD now) :
    Newest (set config py now store rpcType method params r ts) rpcType method p (ts.getD now)
      r := by
  have hitem : ∀ {ts' r'}, ((rpcType, method, p, ts'), r') ∈
      items (set config py now store rpcType method params r ts) →
      ts' = ts.getD now ∨ ((rpcType, method, p, ts'), r') ∈ items store := by
    intro ts' r' hmem
    have hmem : ((rpcType, method, p, ts'), r') ∈
        items (perform config py now store (.set rpcType method params r ts)) := hmem
    obtain hold | hwrites := mem_of_mem_perform hmem
    · exact .inr hold
    · cases hwrites
      exact .inl rfl
  have hput : ((rpcType, method, p, ts.getD now), r) ∈
      items (perform config py now store (.set rpcType method params r ts)) :=
    mem_perform_of_writes (.set hfreeze)
  refine ⟨hput, fun ts' r' hmem => ?_⟩
  obtain rfl | hold := hitem hmem
  · exact Int.le_refl _
  · exact hle ts' r' hold

theorem get_snd {params : PyValue F} (hkey : lookupKey py params = some p)
    (h : Newest store rpcType method p ts r) (hlive : isExpired config now ts = false) :
    (get config py now store rpcType method params).2 = .found r := by
  unfold get
  simp only [lookup_eq_found.mpr ⟨hkey, h.purge hlive rpcType method⟩]
  split <;> rfl

end Run

/-! ## Empty buckets -/

section Tidy

/-- No bucket is empty, at any level. -/
def Tidy (store : SessionStore R) : Prop :=
  Dict.AllValues (Dict.Filled (Dict.Filled (Dict.Filled fun _ => True))) store

variable {config : SessionConfig} {py : PyText F} {now : Int} {store : SessionStore R}

theorem Tidy.bucket (h : Tidy store) {rpcType method : String}
    {b : ByMethod R × ByParameter R} (hbucket : bucket? store rpcType method = some b) :
    b.1.AllValues (Dict.Filled (Dict.Filled fun _ => True)) ∧
      b.2.AllValues (Dict.Filled fun _ => True) := by
  obtain ⟨hm, hp, -⟩ := bucket?_eq_some.mp hbucket
  have hbyMethod := (h rpcType b.1 hm).2
  exact ⟨hbyMethod, (hbyMethod method b.2 hp).2⟩

theorem tidy_live (byParameter : ByParameter R) :
    (live config now byParameter).AllValues (Dict.Filled fun _ => True) := by
  intro p rest hget
  rw [live, Dict.get?_filterMap] at hget
  obtain ⟨byTs, -, hsome⟩ := Option.bind_eq_some_iff.mp hget
  simp only at hsome
  split at hsome
  · cases hsome
  next hne =>
    cases hsome
    exact ⟨mt List.isEmpty_iff.mpr hne, fun _ _ _ => trivial⟩

theorem Tidy.purge (h : Tidy store) (rpcType method : String) :
    Tidy (purgeExpiredAt config now store rpcType method) := by
  unfold purgeExpiredAt
  split
  · exact h
  · split
    · exact h
    next hbucket =>
      exact h.setFilled rpcType ((h.bucket hbucket).1.setFilled method (tidy_live _))

theorem Tidy.put (h : Tidy store) (k : String × String × String × Int) (r : R) :
    Tidy ((sessionLevels R).put store k r) := by
  have hall : ∀ {κ ν : Type _} [DecidableEq κ] {P : ν → Prop} {d : Dict κ ν},
      d = Dict.empty ∨ d.Filled P → d.AllValues P := by
    rintro κ ν _ P d (rfl | hfilled)
    · exact .empty P
    · exact hfilled.2
  have hput := Nested.filled_put (n := (parameterLevels R).under)
    (P := Dict.Filled (Dict.Filled (Dict.Filled fun _ => True)))
    (fun s k v hs => Nested.filled_put (fun s k v hs => Nested.filled_put
      (fun s k v hs => (hall hs).filled_set trivial) (hall hs) k v) (hall hs) k v) h k r
  exact hput.2

theorem Tidy.perform (h : Tidy store) (op : SessionOp F R) :
    Tidy (perform config py now store op) := by
  cases op with
  | cleanup => exact cleanup_induction (fun s rpcType method hs => hs.purge rpcType method) h
  | clear => exact .empty _
  | delete rpcType method params =>
    rw [SessionStore.perform, delete]
    split
    · exact h
    next hbucket =>
      split
      · exact h
      · split
        · exact h.setFilled rpcType
            ((h.bucket hbucket).1.setFilled method ((h.bucket hbucket).2.erase _))
        · exact h
  | get rpcType method params =>
    rw [SessionStore.perform]
    obtain ⟨hget, -⟩ | ⟨k, r, -, hget⟩ := get_fst config py now store rpcType method params
    · rw [hget]
      exact h.purge rpcType method
    · rw [hget]
      exact (h.purge rpcType method).put k r
  | getLatestByMethod rpcType method =>
    rw [SessionStore.perform, getLatestByMethod_fst]
    exact h.purge rpcType method
  | getLatestByParams rpcType method params =>
    rw [SessionStore.perform, getLatestByParams_fst]
    exact h.purge rpcType method
  | peekTs rpcType method params =>
    rw [SessionStore.perform, peekTs_fst]
    exact h.purge rpcType method
  | set rpcType method params response ts =>
    rw [SessionStore.perform, set]
    split
    · exact h.purge rpcType method
    · exact (h.purge rpcType method).put _ response

theorem tidy_of_reach (h : (sessionRecorder config py R).Reach Free store) : Tidy store := by
  refine h.invariant (.empty _) ?_
  rintro s ⟨now, op⟩ t hs - hstep
  cases hstep
  exact hs.perform op

end Tidy

/-! ## Set and get -/

section SetGet

variable {config : SessionConfig} {py : PyText F} {now : Int} {store : SessionStore R}

def IsRead : SessionOp F R → Prop
  | .get _ _ _ => True
  | .getLatestByMethod _ _ => True
  | .getLatestByParams _ _ _ => True
  | .peekTs _ _ _ => True
  | _ => False

/-- A read makes no entry; it may give the newest response of an entry another timestamp. -/
theorem mem_of_mem_read {op : SessionOp F R} (hread : IsRead op)
    {e : (String × String × String × Int) × R} (h : e ∈ items (perform config py now store op)) :
    e ∈ items store ∨ config.refreshOnGet = true ∧ e.1.2.2.2 = now ∧
      ∃ ts, ((e.1.1, e.1.2.1, e.1.2.2.1, ts), e.2) ∈ items store := by
  obtain hold | hwrites := mem_of_mem_perform h
  · exact .inl hold
  · cases hwrites with
    | set => exact hread.elim
    | refresh hrefresh _ hnewest =>
      exact .inr ⟨hrefresh, rfl, _, mem_of_mem_purge hnewest.1⟩

/-- What was recorded with a cleaned script is found under the cleaned and under the uncleaned
parameters. -/
theorem get_of_recorded {rpcType method p : String} {params recorded : PyValue F} {r : R}
    {ts : Option Int} {as : List (Int × SessionOp F R)} {t : SessionStore R} {now' : Int}
    (hclean : cleanupParamsForSession params = some recorded)
    (hfreeze : freezeParams py recorded = some p)
    (hle : ∀ ts' r', ((rpcType, method, p, ts'), r') ∈ items store → ts' ≤ ts.getD now)
    (hsteps : (sessionRecorder config py R).Steps
      (Between config py rpcType method p (ts.getD now))
      (set config py now store rpcType method recorded r ts) as t)
    (hlive : isExpired config now' (ts.getD now) = false) :
    (get config py now' t rpcType method params).2 = .found r ∧
      (get config py now' t rpcType method recorded).2 = .found r := by
  obtain ⟨ts', hle', hnewest⟩ := Newest.steps hsteps (newest_set hfreeze hle)
  have hlive' := isExpired_of_le hle' hlive
  have hkey : lookupKey py params = some p := by
    rw [lookupKey, hclean, Option.bind_some, hfreeze]
  have hkey' : lookupKey py recorded = some p := by
    rw [lookupKey, cleanupParamsForSession_of_cleaned hclean, Option.bind_some, hfreeze]
  exact ⟨get_snd hkey hnewest hlive', get_snd hkey' hnewest hlive'⟩

end SetGet

/-- What was recorded with a cleaned script is found again while it is not expired, whatever is
called in between that leaves its parameters alone; a read makes no entry, and no bucket is ever
empty. -/
theorem recorded_is_found (config : SessionConfig) (py : PyText F) (R : Type*) :
    (∀ (store t : SessionStore R) (rpcType method p : String) (params recorded : PyValue F) (r : R)
      (ts : Option Int) (now now' : Int) (as : List (Int × SessionOp F R)),
      cleanupParamsForSession params = some recorded → freezeParams py recorded = some p →
      (∀ ts' r', ((rpcType, method, p, ts'), r') ∈ items store → ts' ≤ ts.getD now) →
      (sessionRecorder config py R).Steps (Between config py rpcType method p (ts.getD now))
        (set config py now store rpcType method recorded r ts) as t →
      isExpired config now' (ts.getD now) = false →
      (get config py now' t rpcType method params).2 = .found r ∧
        (get config py now' t rpcType method recorded).2 = .found r) ∧
    (∀ (store : SessionStore R) (now : Int) (op : SessionOp F R), IsRead op →
      ∀ e ∈ items (perform config py now store op),
        e ∈ items store ∨ config.refreshOnGet = true ∧ e.1.2.2.2 = now ∧
          ∃ ts, ((e.1.1, e.1.2.1, e.1.2.2.1, ts), e.2) ∈ items store) ∧
    ∀ store, (sessionRecorder config py R).Reach Free store → Tidy store := by
  refine ⟨?_, fun store now op hread e h => mem_of_mem_read hread h, fun store => tidy_of_reach⟩
  intro store t rpcType method p params recorded r ts now now' as hclean hfreeze hle hsteps hlive
  exact get_of_recorded hclean hfreeze hle hsteps hlive

def hour : SessionConfig := ⟨3600, by decide, false⟩

def scriptParams : PyValue Empty := .dict [(.str "script", .str "!# name: a.fn\nWrite(1);")]

def cleanedParams : PyValue Empty := .dict [(.str "script", .str "!# name: a.fn")]

/-- Recorded as the JSON-RPC client does it. -/
theorem recorded_is_found_script :
    (get hour asciiText 60 (set hour asciiText 0 .empty "json" "run" cleanedParams 1 none) "json"
        "run" scriptParams).2 = .found 1 :=
  ((recorded_is_found hour asciiText Nat).1 .empty _ "json" "run"
    "\x7b'script': '!# name: a.fn'\x7d" scriptParams cleanedParams 1 none 0 60 [] rfl (by decide)
    nofun (.nil _) (by decide)).1

/-- Recorded with its whole script, a response is not found again. -/
theorem not_recorded_is_found :
    ¬ ∀ (params : PyValue Empty) (response : Nat),
      (get hour asciiText 60 (set hour asciiText 0 .empty "json" "run" params response none) "json"
        "run" params).2 = .found response := by
  intro h
  have hmiss : (get hour asciiText 60
      (set hour asciiText 0 .empty "json" "run" scriptParams 1 none) "json" "run"
      scriptParams).2 = .default := rfl
  exact nomatch hmiss.symm.trans (h scriptParams 1)

end SessionStore

end AioHomematic.Store.Persistent
