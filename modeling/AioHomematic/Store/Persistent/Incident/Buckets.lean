import AioHomematic.Store.Persistent.Incident

/-!
# Incidents by type

The lists of an incident store are parts of its history; those of a type are
sorted, so that the limit per type drops the oldest. `load` and the merge of
`_ensure_loaded` are described by what becomes of the list of one type.
-/

namespace AioHomematic.Store.Persistent

open Lib StepSystem

variable {I τ H : Type*} [DecidableEq I] [LinearOrder τ]

/-! ## Lists of incidents -/

/-- Some incidents of a history, none of them twice. -/
structure Part (history l : Incidents I τ) : Prop where
  known : l ⊆ history
  nodup : l.Nodup

structure Bucket (history : Incidents I τ) (incidentType : I) (l : Incidents I τ) : Prop
    extends Part history l where
  typed : ∀ i ∈ l, i.incidentType = incidentType
  sorted : l.Pairwise fun i j => i.timestampIso ≤ j.timestampIso

/-- The incidents of a type that are at least as new. -/
def atLeastAsNew (history : Incidents I τ) (i : IncidentSnapshot I τ) : Incidents I τ :=
  history.filter fun j => j.incidentType = i.incidentType ∧ i.timestampIso ≤ j.timestampIso

section Lists

variable {history l : Incidents I τ} {i : IncidentSnapshot I τ} {incidentType : I}

omit [DecidableEq I] [LinearOrder τ] in
theorem Part.mono {history' : Incidents I τ} (h : Part history l) (hsub : history ⊆ history') :
    Part history' l := ⟨fun _ hi => hsub (h.known hi), h.nodup⟩

omit [DecidableEq I] in
theorem Bucket.mono {history' : Incidents I τ} (h : Bucket history incidentType l)
    (hsub : history ⊆ history') : Bucket history' incidentType l :=
  ⟨h.toPart.mono hsub, h.typed, h.sorted⟩

omit [DecidableEq I] in
theorem Bucket.nil : Bucket history incidentType [] :=
  ⟨⟨List.nil_subset _, List.nodup_nil⟩, fun _ hi => (by cases hi), List.Pairwise.nil⟩

omit [DecidableEq I] in
theorem Bucket.limited (h : Bucket history incidentType l) (maxPerType : Nat) :
    Bucket history incidentType (limited maxPerType l) where
  known _ hi := h.known (List.mem_of_mem_drop hi)
  nodup := h.nodup.sublist (List.drop_sublist ..)
  typed i hi := h.typed i (List.mem_of_mem_drop hi)
  sorted := h.sorted.sublist (List.drop_sublist ..)

/-- The limit drops an incident only when enough newer ones are left. -/
theorem Bucket.mem_limited (h : Bucket history incidentType l) {maxPerType : Nat} (hi : i ∈ l) :
    i ∈ Persistent.limited maxPerType l ∨ maxPerType < (atLeastAsNew history i).length := by
  by_cases hmem : i ∈ Persistent.limited maxPerType l
  · exact .inl hmem
  right
  set k := l.length - maxPerType with hk
  have hsplit : l.take k ++ l.drop k = l := List.take_append_drop k l
  have htake : i ∈ l.take k := by
    rw [← hsplit, List.mem_append] at hi
    exact hi.resolve_right hmem
  have hnewer : ∀ j ∈ l.drop k, i.timestampIso ≤ j.timestampIso := by
    have hsorted := h.sorted
    rw [← hsplit, List.pairwise_append] at hsorted
    exact hsorted.2.2 i htake
  have hlength : (l.drop k).length = maxPerType := by
    have hpos : 0 < k := by
      refine Nat.pos_of_ne_zero fun hzero => ?_
      rw [hzero] at htake
      cases htake
    rw [List.length_drop]
    omega
  have hnodup : (i :: l.drop k).Nodup :=
    List.nodup_cons.mpr ⟨hmem, h.nodup.sublist (List.drop_sublist ..)⟩
  have hsub : i :: l.drop k ⊆ atLeastAsNew history i := by
    intro j hj
    refine List.mem_filter.mpr ?_
    rcases List.mem_cons.mp hj with rfl | hj
    · exact ⟨h.known hi, decide_eq_true ⟨rfl, le_refl _⟩⟩
    · have hjl := List.mem_of_mem_drop hj
      exact ⟨h.known hjl,
        decide_eq_true ⟨(h.typed j hjl).trans (h.typed i hi).symm, hnewer j hj⟩⟩
  have hle := (List.subperm_of_subset hnodup hsub).length_le
  rw [List.length_cons, hlength] at hle
  exact hle

omit [DecidableEq I] in
theorem mem_sortByTimestamp : i ∈ sortByTimestamp l ↔ i ∈ l :=
  (List.perm_insertionSort _ l).mem_iff

omit [DecidableEq I] in
theorem Part.sortByTimestamp (h : Part history l) : Part history (sortByTimestamp l) :=
  ⟨fun _ hi => h.known (mem_sortByTimestamp.mp hi),
    (List.perm_insertionSort _ l).nodup_iff.mpr h.nodup⟩

omit [DecidableEq I] in
theorem Part.bucket (h : Part history l) (incidentType : I)
    (htyped : ∀ i ∈ l, i.incidentType = incidentType) :
    Bucket history incidentType (Persistent.sortByTimestamp l) := by
  have : Std.Total fun i j : IncidentSnapshot I τ => i.timestampIso ≤ j.timestampIso :=
    ⟨fun i j => le_total i.timestampIso j.timestampIso⟩
  have : IsTrans (IncidentSnapshot I τ) fun i j => i.timestampIso ≤ j.timestampIso :=
    ⟨fun _ _ _ => le_trans⟩
  exact ⟨h.sortByTimestamp, fun i hi => htyped i (mem_sortByTimestamp.mp hi),
    List.pairwise_insertionSort _ _⟩

end Lists

/-! ## Incidents by type -/

/-- `byType.get(type, [])`. -/
def look (byType : Dict I (Incidents I τ)) (incidentType : I) : Incidents I τ :=
  (byType.get? incidentType).getD []

section ByType

variable {history : Incidents I τ} {byType session : Dict I (Incidents I τ)} {incidentType : I}

omit [LinearOrder τ] in
theorem look_map {f : Incidents I τ → Incidents I τ} (h : f [] = []) :
    look (byType.map f) incidentType = f (look byType incidentType) := by
  rw [look, look, Dict.get?_map]
  cases byType.get? incidentType with
  | none => exact h.symm
  | some l => rfl

omit [DecidableEq I] in
theorem limited_sort_nil (maxPerType : Nat) :
    limited maxPerType (sortByTimestamp ([] : Incidents I τ)) = [] := List.drop_nil

omit [LinearOrder τ] in
theorem look_mergeSession : look (IncidentStore.mergeSession session byType) incidentType =
    look byType incidentType ++ (look session incidentType).filter fun i =>
      i.incidentId ∉ (look byType incidentType).map IncidentSnapshot.incidentId := by
  have hget := Dict.get?_foldl_set (fun (old : Option (Incidents I τ)) (l : Incidents I τ) =>
    old.getD [] ++ l.filter fun i =>
      i.incidentId ∉ (old.getD []).map IncidentSnapshot.incidentId) byType session incidentType
  rw [look, IncidentStore.mergeSession, hget]
  cases hsession : session.get? incidentType with
  | none => simp [look, hsession]
  | some l => simp [look, hsession]

theorem look_processLoadedContent (config : IncidentConfig τ) (now : Nat) (data : Incidents I τ) :
    look (IncidentStore.processLoadedContent config now data) incidentType =
      limited config.maxPerType (sortByTimestamp ((data.filter fun i =>
        !config.isExpired now i.timestampIso).filter fun i => i.incidentType = incidentType)) := by
  rw [IncidentStore.processLoadedContent,
    look_map (f := fun l => limited config.maxPerType (sortByTimestamp l))
      (limited_sort_nil config.maxPerType), look,
    Dict.getD_get?_group]

/-- The merge keeps what is there and adds what is missing. -/
theorem part_mergeSession (hbyType : Bucket history incidentType (look byType incidentType))
    (hsession : Bucket history incidentType (look session incidentType)) :
    Part history (look (IncidentStore.mergeSession session byType) incidentType) ∧
      ∀ i ∈ look (IncidentStore.mergeSession session byType) incidentType,
        i.incidentType = incidentType := by
  rw [look_mergeSession]
  refine ⟨⟨fun i hi => ?_, ?_⟩, fun i hi => ?_⟩
  · rcases List.mem_append.mp hi with hi | hi
    · exact hbyType.known hi
    · exact hsession.known (List.mem_filter.mp hi).1
  · rw [List.nodup_append]
    refine ⟨hbyType.nodup, hsession.nodup.filter _, fun i hi j hj => ?_⟩
    rintro rfl
    exact of_decide_eq_true (List.mem_filter.mp hj).2 (List.mem_map_of_mem hi)
  · rcases List.mem_append.mp hi with hi | hi
    · exact hbyType.typed i hi
    · exact hsession.typed i (List.mem_filter.mp hi).1

/-- What `_ensure_loaded` keeps after the merge. -/
theorem bucket_settled (config : IncidentConfig τ)
    (hbyType : Bucket history incidentType (look byType incidentType))
    (hsession : Bucket history incidentType (look session incidentType)) :
    let settled := (IncidentStore.mergeSession session byType).map fun incidents =>
      limited config.maxPerType (sortByTimestamp incidents)
    Bucket history incidentType (look settled incidentType) ∧
      ∀ i ∈ look byType incidentType, i ∈ look settled incidentType ∨
        config.maxPerType < (atLeastAsNew history i).length := by
  obtain ⟨hpart, htyped⟩ := part_mergeSession hbyType hsession
  have hbucket := hpart.bucket incidentType htyped
  dsimp only
  rw [look_map (f := fun incidents => limited config.maxPerType (sortByTimestamp incidents))
    (limited_sort_nil config.maxPerType)]
  refine ⟨hbucket.limited _, fun i hi => hbucket.mem_limited (mem_sortByTimestamp.mpr ?_)⟩
  rw [look_mergeSession]
  exact List.mem_append_left _ hi

/-- What `_process_loaded_content` keeps. -/
theorem bucket_processed (config : IncidentConfig τ) (now : Nat) {data : Incidents I τ}
    (hdata : Part history data) (incidentType : I) :
    let processed := IncidentStore.processLoadedContent config now data
    Bucket history incidentType (look processed incidentType) ∧
      ∀ i ∈ data, i.incidentType = incidentType → i ∈ look processed incidentType ∨
        config.isExpired now i.timestampIso = true ∨
          config.maxPerType < (atLeastAsNew history i).length := by
  have hpart : Part history ((data.filter fun i => !config.isExpired now i.timestampIso).filter
      fun i => i.incidentType = incidentType) :=
    ⟨fun i hi => hdata.known (List.mem_filter.mp (List.mem_filter.mp hi).1).1,
      (hdata.nodup.filter _).filter _⟩
  have hbucket := hpart.bucket incidentType fun i hi => of_decide_eq_true (List.mem_filter.mp hi).2
  dsimp only
  rw [look_processLoadedContent]
  refine ⟨hbucket.limited _, fun i hi htype => ?_⟩
  cases hexpired : config.isExpired now i.timestampIso with
  | true => exact .inr (.inl rfl)
  | false =>
    refine (hbucket.mem_limited (mem_sortByTimestamp.mpr ?_)).imp_right .inr
    refine List.mem_filter.mpr ⟨List.mem_filter.mpr ⟨hi, ?_⟩, decide_eq_true htype⟩
    rw [hexpired]
    rfl

end ByType

/-! ## The flat list -/

section Flat

variable {history : Incidents I τ} {store : IncidentStore I τ H}

theorem mem_incidents {i : IncidentSnapshot I τ} :
    i ∈ store.incidents ↔ ∃ incidentType, i ∈ store.ofType incidentType := by
  rw [IncidentStore.incidents, mem_sortByTimestamp, List.mem_flatten]
  constructor
  · rintro ⟨l, hl, hi⟩
    obtain ⟨entry, hentry, rfl⟩ := List.mem_map.mp hl
    refine ⟨entry.1, ?_⟩
    rw [IncidentStore.ofType, Dict.get?_eq_some.mpr hentry]
    exact hi
  · rintro ⟨incidentType, hi⟩
    rw [IncidentStore.ofType] at hi
    cases hget : store.incidentsByType.get? incidentType with
    | none => rw [hget] at hi; cases hi
    | some l =>
      rw [hget] at hi
      exact ⟨l, List.mem_map.mpr ⟨_, Dict.get?_eq_some.mp hget, rfl⟩, hi⟩

theorem part_incidents (h : ∀ incidentType,
    Bucket history incidentType (store.ofType incidentType)) : Part history store.incidents := by
  refine Part.sortByTimestamp ⟨fun i hi => ?_, ?_⟩
  · obtain ⟨t, hi⟩ := mem_incidents.mp (mem_sortByTimestamp.mpr hi)
    exact (h t).known hi
  · have hof : ∀ entry ∈ store.incidentsByType.entries, store.ofType entry.1 = entry.2 :=
      fun entry hentry => by
        rw [IncidentStore.ofType, Dict.get?_eq_some.mpr hentry]
        rfl
    rw [List.nodup_flatten]
    constructor
    · intro l hl
      obtain ⟨entry, hentry, rfl⟩ := List.mem_map.mp hl
      exact hof entry hentry ▸ (h entry.1).nodup
    · rw [Dict.values, List.pairwise_map]
      have hkeys := store.incidentsByType.nodup
      rw [List.nodup_iff_pairwise_ne, List.pairwise_map] at hkeys
      refine hkeys.imp_of_mem fun {a b} ha hb hne i hia hib => hne ?_
      rw [← hof a ha] at hia
      rw [← hof b hb] at hib
      exact ((h a.1).typed i hia).symm.trans ((h b.1).typed i hib)

end Flat

end AioHomematic.Store.Persistent
