import AioHomematic.Model.Custom.Cover.Pending

/-!
# Tilt commands

A command that does not say a level, such as the ones that only tilt a blind, sends the level of the
last movement as long as that is pending, and the level that was reported last otherwise: this holds
in every run whose steps meet `Covered`. It does not hold in every run. `stop` sends STOP and touches
neither the optimistic value of the level nor the command that the tracker keeps, so that the next
command that does not say a level sends the level of the movement that was stopped
(`coordinate_of_stopped`).

The other parts of `Covered` are about what a send, a report or a rollback leaves behind: a level that
was not sent, or of a movement that is over.
-/

namespace AioHomematic.Model

open Client Lib StepSystem Store Support

variable {L : Type*}

namespace BlindPhase

def send : BlindPhase L → Option (BlindSend L)
  | sending send => some send
  | _ => none

/-- A command that does not say a level. -/
def lacksLevel : BlindPhase L → Bool
  | waiting none _ => true
  | _ => false

end BlindPhase

/-- The level that the backend has taken. -/
def BlindSend.sentLevel (result : Except PyException CallResult) (send : BlindSend L) : Option L :=
  match result with
  | .ok .sent => send.level
  | _ => none

namespace Blind

/-! ## The condition on the steps -/

section Condition

variable [DecidableEq L]

/-- What `stop` meets when its STOP has been sent. -/
def Stands (s : Blind L) : Prop :=
  (∀ phase ∈ s.calls, phase.setsLevels = false) ∧
    ∀ m ∈ s.movement, s.Pending m → m.value = s.reportedLevel

/-- A send that ends has sent a level that has not been reported since, or leaves nothing. -/
def EndsClean (send : BlindSend L) (result : Except PyException CallResult) (s : Blind L) : Prop :=
  (∀ value ∈ send.sentLevel result, send.reported = true → value = s.reportedLevel) ∧
    (send.sentLevel result = none → (s.notSent send result).ShowsReported ∧
      (s.notSent send result).OnlyLeft (s.notSent send result).aimed)

/-- The condition on an action at the time `s.now`. -/
def Meets (s : Blind L) : Action L → Prop
  | .acquired n =>
    (s.calls[n]?).any BlindPhase.lacksLevel = true →
      ∀ c ∈ s.tracked, Tells s.now c.sentAt lastCommandSendStoreTimeout
  | .timedOut n => s.calls[n]? = some .stopWaiting
  | .stopEnded n (.ok .sent) => s.calls[n]? = some .stopSending → s.Stands
  | .sendEnded n result =>
    ∀ send ∈ (s.calls[n]?).bind BlindPhase.send, (s.clearInFlight send).EndsClean send result
  | .levelEvent value receivedAt =>
    ¬s.Sending → Settled
      ((s.confirmed s.levelKey value).levelReported value (s.level.event value receivedAt))
  | .levelLoad value =>
    ¬s.Sending → Settled (s.levelReported value (s.level.load (.entry value) s.now))
  | .groupLevelEvent value => ¬s.Sending → Settled { s with groupLevelValue := some value }
  | .levelRollback =>
    s.level.isOptimistic = true → s.readsGroup = true ∨
      s.level.optimistic.previousValue = s.reported
  | _ => True

def Covered (s : Blind L) (a : Nat × Action L) : Prop := { s with now := a.1 }.Meets a.2

/-! The condition can be evaluated. -/

omit [DecidableEq L] in
theorem sending_iff {s : Blind L} : (∃ phase ∈ s.calls, phase.send.isSome = true) ↔ s.Sending := by
  constructor
  · rintro ⟨phase, hphase, hsome⟩
    obtain ⟨n, hn⟩ := List.mem_iff_getElem?.mp hphase
    cases phase with
    | sending send => exact ⟨n, send, hn⟩
    | _ => cases hsome
  · rintro ⟨n, send, hn⟩
    exact ⟨_, List.mem_of_getElem? hn, rfl⟩

instance (s : Blind L) : Decidable s.Sending := decidable_of_iff _ sending_iff

omit [DecidableEq L] in
theorem onlyLeft_iff {l : L} {s : Blind L} :
    ((∀ l' ∈ s.level.optimistic.value, l' = l) ∧ (∀ c ∈ s.tracked, s.Recent c → c.value = l) ∧
      ∀ l' ∈ s.unconfirmedShown, l' = l) ↔ s.OnlyLeft l := by
  constructor
  · rintro ⟨hoptimistic, htracked, hshown⟩ l' (hl | ⟨c, hc, hrecent, rfl⟩ | hl)
    · exact hoptimistic l' hl
    · exact htracked c hc hrecent
    · exact hshown l' hl
  · intro h
    exact ⟨fun l' hl => h l' (.inl hl), fun c hc hrecent => h _ (.inr (.inl ⟨c, hc, hrecent, rfl⟩)),
      fun l' hl => h l' (.inr (.inr hl))⟩

instance (l : L) (s : Blind L) : Decidable (s.OnlyLeft l) := decidable_of_iff _ onlyLeft_iff

instance (s : Blind L) : Decidable s.Settled := inferInstanceAs (Decidable (_ → _))

instance (s : Blind L) : Decidable s.ShowsReported := inferInstanceAs (Decidable (_ ∨ _))

instance (s : Blind L) : Decidable s.Stands := inferInstanceAs (Decidable (_ ∧ _))

instance (send : BlindSend L) (result : Except PyException CallResult) (s : Blind L) :
    Decidable (s.EndsClean send result) :=
  inferInstanceAs (Decidable (_ ∧ (_ → _)))

instance (s : Blind L) : DecidablePred s.Meets
  | .acquired _ => inferInstanceAs (Decidable (_ → _))
  | .timedOut _ => inferInstanceAs (Decidable (_ = _))
  | .stopEnded _ (.ok .sent) => inferInstanceAs (Decidable (_ → _))
  | .sendEnded n result => inferInstanceAs (Decidable (∀ send ∈ (s.calls[n]?).bind BlindPhase.send,
      (s.clearInFlight send).EndsClean send result))
  | .levelEvent .. => inferInstanceAs (Decidable (_ → _))
  | .levelLoad _ => inferInstanceAs (Decidable (_ → _))
  | .groupLevelEvent _ => inferInstanceAs (Decidable (_ → _))
  | .levelRollback => inferInstanceAs (Decidable (_ → _))
  | .stopEnded _ (.ok .nothing) => .isTrue trivial
  | .stopEnded _ (.error _) => .isTrue trivial
  | .command _ | .cancel _ | .staged _ | .tiltEvent .. | .tiltLoad _ | .groupTiltEvent _
  | .tiltRollback => .isTrue trivial

instance : DecidableRel (Covered : Blind L → Nat × Action L → Prop) := fun s a =>
  inferInstanceAs (Decidable ({ s with now := a.1 }.Meets a.2))

end Condition

/-! ## Reports and rollbacks -/

/-- Nothing is left in `t` that is not left in `s`. -/
structure Fewer (s t : Blind L) : Prop where
  optimistic : ∀ l, t.level.optimistic.value = some l → s.level.optimistic.value = some l
  tracked : ∀ c ∈ t.tracked, t.Recent c → c ∈ s.tracked ∧ s.Recent c
  unconfirmed : ∀ l, t.unconfirmedShown = some l → s.unconfirmedShown = some l
  movement : ∀ m ∈ t.movement, m ∈ s.movement

section Reports

variable {s t : Blind L} {n : Nat}

theorem Fewer.left (h : Fewer s t) {l : L} (hl : t.Left l) : s.Left l := by
  rcases hl with hoptimistic | ⟨c, hc, hrecent, hvalue⟩ | hshown
  · exact .inl (h.optimistic l hoptimistic)
  · obtain ⟨hc, hrecent⟩ := h.tracked c hc hrecent
    exact .inr (.inl ⟨c, hc, hrecent, hvalue⟩)
  · exact .inr (.inr (h.unconfirmed l hshown))

theorem Inv.of_fewer (h : Inv s) (hbase : Base t) (hfewer : Fewer s t) (hinfo : t.info = s.info)
    (hinFlight : t.inFlight = s.inFlight) (hlock : t.lockHolder = s.lockHolder)
    (hcalls : t.calls = s.calls) (hsettled : ¬s.Sending → Settled t) : Inv t where
  toBase := hbase
  lock := by
    rw [hcalls, hlock]
    exact h.lock
  inFlight := by
    rw [hinFlight, hinfo, hcalls, show t.levelKey = s.levelKey by rw [levelKey, hinfo]; rfl]
    exact h.inFlight
  left := by
    intro hnot l hl
    have hnot' : ¬s.Sending := by
      unfold Sending at hnot ⊢
      rwa [hcalls] at hnot
    cases hm : t.movement with
    | none =>
      rw [hsettled hnot' hm l hl, aimed, hm]
      rfl
    | some m =>
      rw [h.left hnot' l (hfewer.left hl), aimed_of_movement (hfewer.movement m hm),
        aimed_of_movement hm]
  sending := by
    rw [hcalls]
    intro k send hk
    obtain ⟨hoptimistic, hshown⟩ := h.sending k send hk
    refine ⟨fun l hl => ?_, fun l hl m hm => ?_⟩
    · obtain ⟨hcarried, hother⟩ := hoptimistic l (hfewer.optimistic l hl)
      exact ⟨hcarried, fun hnone m hm => hother hnone m (hfewer.movement m hm)⟩
    · exact hshown l (hfewer.unconfirmed l hl) m (hfewer.movement m hm)

/-- Time passes. -/
theorem Inv.later (h : Inv s) {now : Nat} (hnow : s.now ≤ now) : Inv { s with now } := by
  have hrecent : ∀ c, Recent c { s with now } → s.Recent c := by
    intro c hc
    have hlt : (now : Int) < c.sentAt + lastCommandSendStoreTimeout * microsecondsPerSecond := hc
    unfold Recent
    omega
  have hfewer : Fewer s { s with now } :=
    ⟨fun _ hl => hl, fun c hc hlater => ⟨hc, hrecent c hlater⟩, fun _ hl => hl, fun _ hm => hm⟩
  refine h.of_fewer { h.toBase with
    clock := Nat.lt_of_lt_of_le h.clock hnow
    sentAt := fun c hc => ?_
    recent := fun m hm hlater => h.recent m hm (hrecent m hlater)
    last := fun c hc hlater => h.last c hc (hrecent c hlater) } hfewer rfl rfl rfl rfl ?_
  · obtain ⟨hset, hpast⟩ := h.sentAt c hc
    exact ⟨hset, by show c.sentAt ≤ (now : Int); omega⟩
  · intro hnot hnone l hl
    have haimed := h.left hnot l (hfewer.left hl)
    rw [aimed, show s.movement = none from hnone] at haimed
    exact haimed

theorem Base.stopped (h : Base s) : Base { s with movement := none } :=
  { h with
    recent := nofun
    last := fun _ _ _ => .inr rfl }

theorem unconfirmedShown_of_reset (h : s.level.unconfirmedRefreshedAt = initDatetime) :
    s.unconfirmedShown = none := by
  unfold unconfirmedShown
  rw [h, if_neg (show ¬s.level.refreshedAt < initDatetime from Nat.not_lt_zero _)]
  exact ite_self _

/-- The data point of the level is rolled back, or its timer has done nothing. -/
theorem Inv.rolledBack (h : Inv s) {level : DataPoint L L} (hinfo : level.info = s.level.info)
    (hshows : ShowsReported { s with level })
    (hoptimistic : ∀ l, level.optimistic.value = some l → s.level.optimistic.value = some l)
    (hunconfirmed : level.unconfirmedRefreshedAt = initDatetime ∨
      level.unconfirmedRefreshedAt = s.level.unconfirmedRefreshedAt ∧
        level.unconfirmedValue = s.level.unconfirmedValue ∧ level.refreshedAt = s.level.refreshedAt) :
    Inv { s with level } := by
  have hfewer : Fewer s { s with level } := by
    refine ⟨hoptimistic, fun c hc hrecent => ⟨hc, hrecent⟩, fun l hl => ?_, fun m hm => hm⟩
    rcases hunconfirmed with hreset | ⟨hrefreshed, hvalue, hconfirmed⟩
    · rw [unconfirmedShown_of_reset hreset] at hl
      cases hl
    · unfold unconfirmedShown at hl ⊢
      rw [← hl, ← hrefreshed, ← hvalue, ← hconfirmed]
      rfl
  refine h.of_fewer { h.toBase with
    levelInfo := hinfo.trans h.levelInfo
    shows := hshows
    optimistic := fun hactive => ?_
    unconfirmed := ?_ } hfewer rfl rfl rfl rfl ?_
  · obtain ⟨l, hl⟩ := Option.isSome_iff_exists.mp hactive
    show s.info.combined = none ∧ DataPoint.appliesOptimistic level.info = true
    rw [hinfo]
    exact h.optimistic (Option.isSome_iff_exists.mpr ⟨l, hoptimistic l hl⟩)
  · rcases hunconfirmed with hreset | ⟨hrefreshed, hvalue, -⟩
    · exact .inl hreset
    · show level.unconfirmedRefreshedAt = initDatetime ∨
        s.info.requiresPolling = true ∧ level.unconfirmedValue.isSome = true
      rw [hrefreshed, hvalue]
      exact h.unconfirmed
  · intro hnot hnone l hl
    have haimed := h.left hnot l (hfewer.left hl)
    rw [aimed, show s.movement = none from hnone] at haimed
    exact haimed

variable [DecidableEq L]

theorem setsLevels_levelReported (value : L) (phase : BlindPhase L) :
    (phase.levelReported value).setsLevels = phase.setsLevels := by
  cases phase <;> rfl

/-- The commands take note that the level has been reported. -/
theorem Inv.map_calls (h : Inv s) (value : L) :
    Inv { s with calls := s.calls.map (·.levelReported value) } := by
  have hback : ∀ (k : Nat) (send : BlindSend L),
      (s.calls.map (·.levelReported value))[k]? = some (.sending send) →
      ∃ send', s.calls[k]? = some (.sending send') ∧ send'.level = send.level := by
    intro k send hk
    rw [List.getElem?_map, Option.map_eq_some_iff] at hk
    obtain ⟨phase, hk, hphase⟩ := hk
    cases phase with
    | sending send' =>
      obtain rfl := BlindPhase.sending.inj hphase
      exact ⟨send', hk, rfl⟩
    | _ => cases hphase
  have hforth : ∀ (k : Nat) (send : BlindSend L), s.calls[k]? = some (.sending send) →
      ∃ reported, (s.calls.map (·.levelReported value))[k]? =
        some (.sending { send with reported }) := by
    intro k send hk
    rw [List.getElem?_map, hk]
    exact ⟨_, rfl⟩
  refine ⟨(SameLevel.rest s _ _ _ _).base h.toBase rfl rfl (fun _ _ hk => hk) h.tiltOnly,
    ?_, ?_, ?_, ?_⟩
  · intro k phase hk hsets
    rw [List.getElem?_map, Option.map_eq_some_iff] at hk
    obtain ⟨phase', hk, rfl⟩ := hk
    rw [setsLevels_levelReported] at hsets
    exact h.lock k phase' hk hsets
  · intro v hv
    obtain ⟨k, send, hk, hsend⟩ := h.inFlight v hv
    obtain ⟨reported, hk⟩ := hforth k send hk
    exact ⟨k, _, hk, hsend⟩
  · intro hnot
    refine h.left ?_
    rintro ⟨k, send, hk⟩
    obtain ⟨reported, hk⟩ := hforth k send hk
    exact hnot ⟨k, _, hk⟩
  · intro k send hk
    obtain ⟨send', hk, hlevel⟩ := hback k send hk
    have hleaves := h.sending k send' hk
    unfold SendLeaves at hleaves ⊢
    rw [← hlevel]
    exact hleaves

/-- The level is reported, and at most the command of that level is forgotten. -/
theorem Inv.levelReported (h : Inv s) {value : L} {tracker : CommandTracker L}
    {level : DataPoint L L} (hid : tracker.interfaceId = s.tracker.interfaceId)
    (hshrinks : ∀ k c, tracker.lastSendCommand.get? k = some c →
      s.tracker.lastSendCommand.get? k = some c)
    (hkeeps : ∀ c, s.tracked = some c → s.Recent c → c.value ≠ value →
      tracker.lastSendCommand.get? s.levelKey = some c)
    (hinfo : level.info = s.level.info) (hcurrent : level.currentValue = some value)
    (hreset : level.unconfirmedRefreshedAt = initDatetime)
    (hoptimistic : ∀ l, level.optimistic.value = some l → s.level.optimistic.value = some l)
    (hsettled : ¬s.Sending → Settled (Blind.levelReported value level { s with tracker })) :
    Inv (Blind.levelReported value level { s with tracker }) := by
  have hmovement : ∀ m ∈ s.movement.filter (·.value ≠ value),
      s.movement = some m ∧ m.value ≠ value := by
    intro m hm
    obtain ⟨hm, hne⟩ := Option.filter_eq_some_iff.mp hm
    exact ⟨hm, of_decide_eq_true hne⟩
  have hbase : Base { s with
      tracker, level, reported := some value, movement := s.movement.filter (·.value ≠ value) } :=
    { h.toBase with
      levelInfo := hinfo.trans h.levelInfo
      interfaceId := hid.trans h.interfaceId
      keys := fun k c hk => h.keys k c (hshrinks k c hk)
      sentAt := fun c hc => h.sentAt c (hshrinks _ c hc)
      recent := fun m hm hrecent =>
        hkeeps m (h.recent m (hmovement m hm).1 hrecent) hrecent (hmovement m hm).2
      last := by
        intro c hc hrecent
        rcases h.last c (hshrinks _ c hc) hrecent with hm | hnone
        · show s.movement.filter _ = some c ∨ s.movement.filter _ = none
          rw [hm, Option.filter_some]
          split
          · exact .inl rfl
          · exact .inr rfl
        · exact .inr (by rw [hnone]; rfl)
      shows := .inr hcurrent
      optimistic := by
        intro hactive
        obtain ⟨l, hl⟩ := Option.isSome_iff_exists.mp hactive
        show s.info.combined = none ∧ DataPoint.appliesOptimistic level.info = true
        rw [hinfo]
        exact h.optimistic (Option.isSome_iff_exists.mpr ⟨l, hoptimistic l hl⟩)
      unconfirmed := .inl hreset }
  have hfewer : Fewer s { s with
      tracker, level, reported := some value, movement := s.movement.filter (·.value ≠ value) } := by
    refine ⟨hoptimistic, fun c hc hrecent => ⟨hshrinks _ c hc, hrecent⟩, fun l hl => ?_,
      fun m hm => (hmovement m hm).1⟩
    rw [unconfirmedShown_of_reset hreset] at hl
    cases hl
  exact (h.of_fewer hbase hfewer rfl rfl rfl rfl hsettled).map_calls value

end Reports

/-! ## The end of a send -/

section Ends

variable [DecidableEq L] {s t : Blind L} {n : Nat} {send : BlindSend L}

omit [DecidableEq L] in
theorem few_of_keys (h : Base s) :
    s.tracker.lastSendCommand.entries.length ≤ lastCommandSendTrackerCleanupThreshold := by
  have hkeys : s.tracker.lastSendCommand.keys ⊆ [s.levelKey, s.tiltKey] := by
    intro k hk
    obtain ⟨c, hc⟩ := Dict.mem_keys.mp hk
    rcases h.keys k c hc with rfl | rfl
    · exact List.mem_cons_self
    · exact List.mem_cons_of_mem _ List.mem_cons_self
  have hlength : s.tracker.lastSendCommand.entries.length ≤ 2 := by
    rw [← List.length_map (f := Prod.fst)]
    exact (List.subperm_of_subset s.tracker.lastSendCommand.nodup hkeys).length_le
  exact hlength.trans (by decide +kernel)

omit [DecidableEq L] in
theorem get?_sentValues (s : Blind L) (send : BlindSend L) :
    (s.sentValues send).get? s.info.level.parameter = send.level := by
  unfold sentValues
  cases send.level with
  | some level => exact Dict.get?_set_self ..
  | none =>
    show (Dict.empty.set? s.info.tilt.parameter send.tilt).get? s.info.level.parameter = none
    cases send.tilt with
    | none => rfl
    | some tilt => exact Dict.get?_set_of_ne _ _ (Ne.symm s.info.parameter_ne)

/-- What the tracker keeps for the level once the levels are sent. -/
theorem tracked_sent (h : Base s) :
    (s.sent send).tracked = (send.level.map fun level => ⟨level, s.now⟩).or s.tracked := by
  have hget := s.tracker.get?_addPutParamset s.now s.info.channelAddress .values
    (s.sentValues send) s.info.level.parameter
  rw [h.interfaceId, get?_sentValues, CommandTracker.makeRoom_of_few _ _ (few_of_keys h)] at hget
  exact hget

theorem writeUnconfirmed_cases (value : Option L) (d : DataPoint L L) (s : Blind L) :
    (s.writeUnconfirmed value d).info = d.info ∧
    (s.writeUnconfirmed value d).optimistic = d.optimistic ∧
    (s.writeUnconfirmed value d).currentValue = d.currentValue ∧
    (s.writeUnconfirmed value d = d ∧ (value = none ∨ s.info.requiresPolling = false) ∨
      ∃ v, value = some v ∧ s.info.requiresPolling = true ∧
        (s.writeUnconfirmed value d).unconfirmedValue = d.info.convertValue v) := by
  unfold writeUnconfirmed
  cases value with
  | none => exact ⟨rfl, rfl, rfl, .inl ⟨rfl, .inl rfl⟩⟩
  | some value =>
    dsimp only
    split
    next hpolling =>
      refine ⟨DataPoint.info_writeUnconfirmedValue .., DataPoint.optimistic_writeUnconfirmedValue ..,
        ?_, .inr ⟨value, rfl, hpolling, ?_⟩⟩
      · unfold DataPoint.writeUnconfirmedValue
        dsimp only
        split <;> rfl
      · unfold DataPoint.writeUnconfirmedValue
        dsimp only
        split <;> rfl
    next hpolling => exact ⟨rfl, rfl, rfl, .inl ⟨rfl, .inr (Bool.eq_false_of_not_eq_true hpolling)⟩⟩

omit [DecidableEq L] in
theorem key_sentValues {parameter : String} (h : parameter ∈ (s.sentValues send).keys) :
    s.info.dpk parameter = s.levelKey ∨ s.info.dpk parameter = s.tiltKey := by
  obtain ⟨v, hv⟩ := Dict.mem_keys.mp h
  by_cases hlevel : s.info.level.parameter = parameter
  · exact .inl (congrArg s.info.dpk hlevel.symm)
  · by_cases htilt : s.info.tilt.parameter = parameter
    · exact .inr (congrArg s.info.dpk htilt.symm)
    · revert hv
      unfold sentValues
      cases send.level <;> cases send.tilt <;>
        simp [Dict.set?, Dict.get?_set, hlevel, htilt]

theorem base_sent (h : Base s) : Base (s.sent send) := by
  obtain ⟨hinfo, hoptimistic, hcurrent, hunconfirmed⟩ :=
    writeUnconfirmed_cases send.level s.level s
  obtain ⟨htilt, -, -, -⟩ := writeUnconfirmed_cases send.tilt s.tilt s
  have htracked : (s.sent send).tracked = _ := tracked_sent h
  have hroom := CommandTracker.makeRoom_of_few s.tracker s.now (few_of_keys h)
  refine {
    levelInfo := hinfo.trans h.levelInfo
    tiltInfo := htilt.trans h.tiltInfo
    interfaceId := ?_
    clock := h.clock
    keys := ?_
    sentAt := ?_
    recent := ?_
    last := ?_
    shows := ?_
    optimistic := ?_
    unconfirmed := ?_
    tiltOnly := h.tiltOnly }
  · show (s.tracker.makeRoom s.now).interfaceId = s.info.interfaceId
    rw [hroom, h.interfaceId]
  · intro k c hk
    rcases s.tracker.key_of_addPutParamset hk with ⟨parameter, hparameter, rfl⟩ | hk
    · rw [h.interfaceId]
      exact key_sentValues hparameter
    · rw [hroom] at hk
      exact h.keys k c hk
  · rw [htracked]
    cases send.level with
    | none => exact h.sentAt
    | some v =>
      intro c hc
      obtain rfl := Option.some.inj hc
      exact ⟨Int.natCast_pos.mpr h.clock, le_refl (s.now : Int)⟩
  · rw [htracked]
    show ∀ m ∈ send.movement s.now s.movement, _
    unfold BlindSend.movement
    cases send.level with
    | none => exact h.recent
    | some v =>
      intro m hm _
      dsimp only at hm
      split at hm
      · cases hm
      · exact hm
  · rw [htracked]
    show ∀ c ∈ _, _ → send.movement s.now s.movement = some c ∨ send.movement s.now s.movement = none
    unfold BlindSend.movement
    cases send.level with
    | none => exact h.last
    | some v =>
      intro c hc _
      dsimp only
      split
      · exact .inr rfl
      · exact .inl hc
  · refine h.shows.imp_right fun hshows => ?_
    exact hcurrent.trans hshows
  · intro hactive
    show s.info.combined = none ∧
      DataPoint.appliesOptimistic (s.writeUnconfirmed send.level s.level).info = true
    rw [hinfo]
    refine h.optimistic ?_
    rw [← hactive]
    exact congrArg OptimisticValueTracker.isActive hoptimistic.symm
  · rcases hunconfirmed with ⟨heq, -⟩ | ⟨v, -, hpolling, hvalue⟩
    · show (s.writeUnconfirmed send.level s.level).unconfirmedRefreshedAt = _ ∨ _ ∧
        (s.writeUnconfirmed send.level s.level).unconfirmedValue.isSome = true
      rw [heq]
      exact h.unconfirmed
    · refine .inr ⟨hpolling, ?_⟩
      show (s.writeUnconfirmed send.level s.level).unconfirmedValue.isSome = true
      rw [hvalue, h.levelInfo]
      rfl

/-- The level that has been sent is what is left. -/
theorem left_sent (h : Base s) (hsending : s.SendLeaves send) {v : L} (hv : send.level = some v)
    (hclean : send.reported = true → v = s.reportedLevel) :
    (s.sent send).OnlyLeft (s.sent send).aimed := by
  obtain ⟨-, hoptimistic, -, hunconfirmed⟩ := writeUnconfirmed_cases send.level s.level s
  have haimed : (s.sent send).aimed = v := by
    show ((send.movement s.now s.movement).map (·.value)).getD s.reportedLevel = v
    unfold BlindSend.movement
    rw [hv]
    dsimp only
    split
    next hreported => exact (hclean hreported).symm
    next => rfl
  rw [haimed]
  rintro l (hl | ⟨c, hc, -, rfl⟩ | hl)
  · have hl : s.level.optimistic.value = some l :=
      (congrArg OptimisticValueTracker.value hoptimistic).symm.trans hl
    exact (hsending.1 l hl).1 v hv
  · rw [tracked_sent h, hv] at hc
    obtain rfl := Option.some.inj hc
    rfl
  · have hshown : (s.writeUnconfirmed send.level s.level).unconfirmedValue = some l ∧
        (s.writeUnconfirmed send.level s.level).refreshedAt <
          (s.writeUnconfirmed send.level s.level).unconfirmedRefreshedAt := by
      unfold unconfirmedShown at hl
      split at hl
      · cases hl
      · split at hl
        next hlater => exact ⟨hl, hlater⟩
        next => cases hl
    rcases hunconfirmed with ⟨heq, hnone | hpush⟩ | ⟨v', hv', -, hvalue⟩
    · cases hv.symm.trans hnone
    · rw [heq] at hshown
      rcases h.unconfirmed with hreset | ⟨hpolling, -⟩
      · rw [hreset] at hshown
        exact absurd hshown.2 (Nat.not_lt_zero _)
      · cases hpush.symm.trans hpolling
    · rw [hvalue, h.levelInfo] at hshown
      obtain rfl := Option.some.inj (hv'.symm.trans hv)
      exact (Option.some.inj hshown.1).symm

/-- The backend has taken the levels of command `n`. -/
theorem Quiet.inv_sent (h : Quiet n s) (hsending : s.SendLeaves send)
    (hclean : s.EndsClean send (.ok .sent)) : Inv ((s.sent send).endCall n) := by
  have hquiet : Quiet n (s.sent send) :=
    ⟨base_sent h.toBase, h.called, h.holder, h.others, h.notInFlight⟩
  refine hquiet.inv_endCall ?_
  cases hv : send.level with
  | some v =>
    exact left_sent h.toBase hsending hv (hclean.1 v hv)
  | none =>
    obtain ⟨heq, -⟩ | ⟨v, hsome, -⟩ := (writeUnconfirmed_cases send.level s.level s).2.2.2
    · have hsame : SameLevel s (s.sent send) := by
        refine ⟨rfl, rfl, heq, rfl, rfl, ?_, fun c _ => ?_⟩
        · show send.movement s.now s.movement = s.movement
          rw [BlindSend.movement, hv]
        · rw [tracked_sent h.toBase, hv]
          rfl
      intro l hl
      rw [hsame.aimed]
      exact (hclean.2 hv).2 l (hsame.left_iff.mp hl)
    · cases hv.symm.trans hsome

omit [DecidableEq L] in
theorem rollback_cases (value : Option L) (d : DataPoint L L) :
    (rollback value d).info = d.info ∧ (rollback value d = d ∨
      (rollback value d).isOptimistic = false ∧
        (rollback value d).unconfirmedRefreshedAt = initDatetime) := by
  unfold rollback
  split
  · refine ⟨DataPoint.info_rollbackOptimisticValue d, ?_⟩
    cases hactive : d.isOptimistic with
    | true =>
      exact .inr ⟨DataPoint.isActive_rollbackOptimisticValue d,
        (DataPoint.rollbackOptimisticValue_of_active hactive).2.1⟩
    | false => exact .inl (DataPoint.rollbackOptimisticValue_of_inactive hactive)
  · exact ⟨rfl, .inl rfl⟩

omit [DecidableEq L] in
theorem notSent_cases (send : BlindSend L) (result : Except PyException CallResult) (s : Blind L) :
    ∃ level tilt, s.notSent send result = { s with level, tilt } ∧
      level.info = s.level.info ∧ tilt.info = s.tilt.info ∧ (level = s.level ∨
        level.isOptimistic = false ∧ level.unconfirmedRefreshedAt = initDatetime) := by
  have hnothing : ∃ level tilt, s = { s with level, tilt } ∧ level.info = s.level.info ∧
      tilt.info = s.tilt.info ∧ (level = s.level ∨
        level.isOptimistic = false ∧ level.unconfirmedRefreshedAt = initDatetime) :=
    ⟨s.level, s.tilt, rfl, rfl, rfl, .inl rfl⟩
  unfold notSent
  cases result with
  | ok result => exact hnothing
  | error exc =>
    dsimp only
    split
    · obtain ⟨hlevel, hrollback⟩ := rollback_cases send.level s.level
      exact ⟨_, _, rfl, hlevel, (rollback_cases send.tilt s.tilt).1, hrollback⟩
    · exact hnothing

omit [DecidableEq L] in
/-- The backend has not taken the levels of command `n`. -/
theorem Quiet.inv_notSent (h : Quiet n s) {result : Except PyException CallResult}
    (hshows : (s.notSent send result).ShowsReported)
    (hleft : (s.notSent send result).OnlyLeft (s.notSent send result).aimed) :
    Inv ((s.notSent send result).endCall n) := by
  obtain ⟨level, tilt, heq, hlevel, htilt, hrollback⟩ := notSent_cases send result s
  rw [heq] at hshows hleft ⊢
  have hbase : Base { s with level, tilt } := by
    refine { h.toBase with
      levelInfo := hlevel.trans h.levelInfo
      tiltInfo := htilt.trans h.tiltInfo
      shows := hshows
      optimistic := ?_
      unconfirmed := ?_ }
    · rcases hrollback with rfl | ⟨hinactive, -⟩
      · exact h.optimistic
      · intro hactive
        cases hinactive.symm.trans hactive
    · rcases hrollback with rfl | ⟨-, hreset⟩
      · exact h.unconfirmed
      · exact .inl hreset
  have hquiet : Quiet n { s with level, tilt } :=
    ⟨hbase, h.called, h.holder, h.others, h.notInFlight⟩
  exact hquiet.inv_endCall hleft

omit [DecidableEq L] in
theorem sameLevel_clearInFlight [DecidableEq L] (send : BlindSend L) (s : Blind L) :
    SameLevel s (s.clearInFlight send) := by
  unfold clearInFlight
  split
  · exact SameLevel.rest s _ _ _ _
  · exact SameLevel.rest s _ _ _ _

theorem Inv.sendEnded (h : Inv s) {result : Except PyException CallResult}
    (hmeets : s.Meets (.sendEnded n result)) (hstep : s.sendEnded n result = some t) : Inv t := by
  unfold Blind.sendEnded at hstep
  split at hstep
  next send hn =>
    have hquiet := h.quiet_of_sending hn
    have hclean : (s.clearInFlight send).EndsClean send result := hmeets send (by rw [hn]; rfl)
    have hsending := (sameLevel_clearInFlight send s).sendLeaves_iff.mpr (h.sending n send hn)
    split at hstep
    · split at hstep
      · obtain rfl := Option.some.inj hstep
        exact hquiet.inv_sent hsending hclean
      · cases hstep
    next hne =>
      obtain rfl := Option.some.inj hstep
      have hnothing : send.sentLevel result = none := by
        unfold BlindSend.sentLevel
        split
        · exact absurd rfl hne
        · rfl
      obtain ⟨hshows, hleft⟩ := hclean.2 hnothing
      exact hquiet.inv_notSent hshows hleft
  next => cases hstep

/-! ## The other steps of a command -/

omit [DecidableEq L] in
theorem stage_eq (send : BlindSend L) (s : Blind L) :
    ∃ inFlight, s.stage send = { s with inFlight } ∧ inFlight.get? s.levelKey =
      if s.info.combined.isSome then s.inFlight.get? s.levelKey
      else send.level.or (s.inFlight.get? s.levelKey) := by
  have hset : ∀ (d : Dict DataPointKey L) (k k' : DataPointKey) (value : Option L),
      (d.set? k value).get? k' = if k = k' then value.or (d.get? k') else d.get? k' := by
    intro d k k' value
    cases value with
    | none => exact (ite_self _).symm
    | some value => exact Dict.get?_set ..
  unfold stage
  split
  · exact ⟨_, rfl, rfl⟩
  · refine ⟨_, rfl, ?_⟩
    rw [hset, if_neg (levelKey_ne_tiltKey s).symm, hset, if_pos rfl]

omit [DecidableEq L] in
/-- The levels of command `n` are handed to the backend. -/
theorem Inv.staged (h : Inv s) (hn : s.calls[n]? = some (.sending send)) :
    Inv ((s.stage send).setCall n (.sending { send with staged := true })) := by
  obtain ⟨inFlight, heq, hget⟩ := stage_eq send s
  rw [heq]
  have hself : ((s.calls.set n (.sending { send with staged := true }))[n]?) =
      some (.sending { send with staged := true }) :=
    List.getElem?_set_self (length_of_getElem? hn)
  refine ⟨(SameLevel.rest s _ _ _ _).base h.toBase rfl rfl (fun _ _ hk => hk) h.tiltOnly,
    ?_, ?_, ?_, ?_⟩
  · intro k phase hk hsets
    rcases getElem?_setCall hk with ⟨rfl, -⟩ | ⟨-, hk⟩
    · exact h.lock k _ hn rfl
    · exact h.lock k phase hk hsets
  · intro v hv
    have hv : inFlight.get? s.levelKey = some v := hv
    rw [hget] at hv
    have hold : s.inFlight.get? s.levelKey = some v → s.info.combined = none ∧ send.level = some v := by
      intro hold
      obtain ⟨k, send', hk, -, hcombined, hlevel⟩ := h.inFlight v hold
      obtain rfl := h.holder_eq hn rfl hk rfl
      cases hn.symm.trans hk
      exact ⟨hcombined, hlevel⟩
    have hcarried : s.info.combined = none ∧ send.level = some v := by
      split at hv
      · exact hold hv
      next hcombined =>
        rcases Option.or_eq_some_iff.mp hv with hlevel | ⟨-, hv⟩
        · exact ⟨Option.not_isSome_iff_eq_none.mp hcombined, hlevel⟩
        · exact hold hv
    exact ⟨n, _, hself, rfl, hcarried⟩
  · exact fun hnot => absurd ⟨n, _, hself⟩ hnot
  · intro k send' hk
    rcases getElem?_setCall hk with ⟨-, heq⟩ | ⟨-, hk⟩
    · obtain rfl := BlindPhase.sending.inj heq
      exact h.sending n send hn
    · exact h.sending k send' hk

end Ends

/-! ## Waiting and stopping -/

section Waiting

variable {s t : Blind L} {n : Nat}

/-- A command that does not set levels goes on without doing so. -/
theorem Inv.setCall (h : Inv s) {before after : BlindPhase L} (hn : s.calls[n]? = some before)
    (hbefore : before.setsLevels = false) (hafter : after.setsLevels = false)
    {lockHolder : Option Nat} (hlock : ∀ k, k ≠ n → s.lockHolder = some k → lockHolder = some k) :
    Inv { s.setCall n after with lockHolder } := by
  refine h.of_same (SameLevel.rest s _ _ _ _)
    ((SameLevel.rest s _ _ _ _).base h.toBase rfl rfl (fun _ _ hk => hk) h.tiltOnly) rfl ?_ ?_
  · intro k phase hsets
    show (s.calls.set n after)[k]? = some phase ↔ _
    by_cases hkn : n = k
    · subst hkn
      rw [List.getElem?_set_self (length_of_getElem? hn), hn]
      refine iff_of_false ?_ ?_
      · rintro ⟨⟩
        cases hafter.symm.trans hsets
      · rintro ⟨⟩
        cases hbefore.symm.trans hsets
    · rw [List.getElem?_set_ne hkn]
  · intro k phase hsets hk hholder
    refine hlock k ?_ hholder
    rintro rfl
    cases hn.symm.trans hk
    cases hbefore.symm.trans hsets

/-- A command that does not set levels ends. -/
theorem Inv.endCall (h : Inv s) {phase : BlindPhase L} (hn : s.calls[n]? = some phase)
    (hphase : phase.setsLevels = false) : Inv (s.endCall n) := by
  refine h.setCall hn hphase rfl fun k hkn hholder => ?_
  rw [hholder, if_neg (fun heq => hkn (Option.some.inj heq))]

/-- A command waits for the lock. -/
theorem Inv.addCall (h : Inv s) {phase : BlindPhase L} (hphase : phase.setsLevels = false) :
    Inv (s.addCall phase) := by
  refine h.of_same (SameLevel.rest s _ _ _ _)
    ((SameLevel.rest s _ _ _ _).base h.toBase rfl rfl (fun _ _ hk => hk) h.tiltOnly) rfl ?_
    (fun _ _ _ _ hholder => hholder)
  intro k phase' hsets
  show (s.calls ++ [phase])[k]? = some phase' ↔ _
  rcases lt_trichotomy k s.calls.length with hlt | rfl | hgt
  · rw [List.getElem?_append_left hlt]
  · rw [List.getElem?_concat_length, List.getElem?_eq_none (le_refl _)]
    refine iff_of_false ?_ nofun
    rintro ⟨⟩
    cases hphase.symm.trans hsets
  · rw [List.getElem?_eq_none (by rw [List.length_append]; exact hgt),
      List.getElem?_eq_none (le_of_lt hgt)]

variable [DecidableEq L]

theorem Inv.command (h : Inv s) (c : Command) : Inv (s.command c) := by
  unfold Blind.command
  cases c with
  | stop => exact h.addCall rfl
  | _ =>
    dsimp only
    split
    · exact h.addCall rfl
    · exact h

theorem Inv.cancel (h : Inv s) (hstep : s.run (.cancel n) = some t) : Inv t := by
  unfold run at hstep
  dsimp only at hstep
  split at hstep
  next level tilt hn =>
    obtain rfl := Option.some.inj hstep
    exact h.setCall hn rfl rfl fun k _ hholder => hholder
  next hn =>
    obtain rfl := Option.some.inj hstep
    exact h.setCall hn rfl rfl fun k _ hholder => hholder
  next => cases hstep

theorem Inv.acquired (h : Inv s) (hmeets : s.Meets (.acquired n)) (hfree : s.lockHolder = none)
    (hstep : { s with lockHolder := some n }.proceed n = some t) : Inv t := by
  unfold proceed at hstep
  split at hstep
  next level tilt hn =>
    obtain rfl := Option.some.inj hstep
    have hn : s.calls[n]? = some (.waiting level tilt) := hn
    obtain ⟨hquiet, hleft⟩ := h.quiet_of_idle (h.idle_of_free hfree) (length_of_getElem? hn)
    refine hquiet.inv_setLevel hleft ?_
    rintro rfl
    exact hmeets (by rw [hn]; rfl)
  next hn =>
    obtain rfl := Option.some.inj hstep
    have hn : s.calls[n]? = some .stopWaiting := hn
    refine h.setCall hn rfl rfl fun k _ hholder => ?_
    cases hfree.symm.trans hholder
  next => cases hstep

theorem Inv.timedOut (h : Inv s) (hmeets : s.Meets (.timedOut n)) (hstep : s.proceed n = some t) :
    Inv t := by
  have hn : s.calls[n]? = some .stopWaiting := hmeets
  unfold proceed at hstep
  rw [hn] at hstep
  obtain rfl := Option.some.inj hstep
  exact h.setCall hn rfl rfl fun k _ hholder => hholder

/-- What a STOP leaves while the blind stands is the level that was reported last. -/
theorem Inv.stopped (h : Inv s) (hstands : s.Stands) : Inv { s with movement := none } := by
  obtain ⟨hnone, hpending⟩ := hstands
  have hfewer : Fewer s { s with movement := none } :=
    ⟨fun _ hl => hl, fun c hc hrecent => ⟨hc, hrecent⟩, fun _ hl => hl, nofun⟩
  refine h.of_fewer h.toBase.stopped hfewer rfl rfl rfl rfl fun hnot _ l hl => ?_
  have hl := hfewer.left hl
  show l = s.reportedLevel
  rw [expectedLevel_of_left h.toBase (h.left hnot) hl]
  unfold expectedLevel
  split
  next m hm =>
    split
    next hpends => exact hpending m hm hpends
    next => rfl
  next => rfl

theorem Inv.stopEnded (h : Inv s) {result : Except PyException CallResult}
    (hmeets : s.Meets (.stopEnded n result)) (hstep : s.stopEnded n result = some t) : Inv t := by
  unfold Blind.stopEnded at hstep
  extract_lets s' at hstep
  have hs' : s' = s ∨ result = .ok .sent ∧ s' = { s with movement := none } := by
    unfold s'
    split
    · exact .inr ⟨rfl, rfl⟩
    · exact .inl rfl
  clear_value s'
  split at hstep
  next level tilt hn =>
    obtain rfl := Option.some.inj hstep
    obtain ⟨hquiet, hleft⟩ := h.quiet_of_stopping hn
    rcases hs' with rfl | ⟨-, rfl⟩
    · exact hquiet.inv_sendLevel (fun l hl m hm => (hleft l hl).trans (aimed_of_movement hm)) ..
    · have hstopped : Quiet n { s with movement := none } :=
        ⟨hquiet.toBase.stopped, hquiet.called, hquiet.holder, hquiet.others, hquiet.notInFlight⟩
      exact hstopped.inv_sendLevel (fun _ _ => nofun) ..
  next hn =>
    obtain rfl := Option.some.inj hstep
    obtain ⟨hquiet, hleft⟩ := h.quiet_of_stopping hn
    rcases hs' with rfl | ⟨hresult, -⟩
    · exact hquiet.inv_endCall hleft
    · cases hresult
  next hn =>
    obtain rfl := Option.some.inj hstep
    rcases hs' with rfl | ⟨rfl, rfl⟩
    · exact h.endCall hn rfl
    · exact (h.stopped (hmeets hn)).endCall hn rfl
  next => cases hstep

end Waiting

/-! ## Events, loads and timers -/

section Events

variable {s t : Blind L} {n : Nat}

theorem value_confirmOptimistic {d : DataPoint L L} {l : L}
    (h : d.confirmOptimistic.optimistic.value = some l) : d.optimistic.value = some l := by
  unfold DataPoint.confirmOptimistic at h
  split at h
  · dsimp only at h
    split at h
    · cases h
    · exact h
  · exact h

/-- The tilt and its command do not matter for the level. -/
theorem Inv.tiltChanged (h : Inv s) {tracker : CommandTracker L} {tilt : DataPoint L L}
    (hid : tracker.interfaceId = s.tracker.interfaceId)
    (hshrinks : ∀ k c, tracker.lastSendCommand.get? k = some c →
      s.tracker.lastSendCommand.get? k = some c)
    (hkeeps : ∀ c, tracker.lastSendCommand.get? s.levelKey = some c ↔ s.tracked = some c)
    (htilt : tilt.info = s.tilt.info) : Inv { s with tracker, tilt } := by
  have hsame : SameLevel s { s with tracker, tilt } :=
    ⟨rfl, rfl, rfl, rfl, rfl, rfl, fun c _ => hkeeps c⟩
  exact h.of_same hsame (hsame.base h.toBase htilt hid hshrinks h.tiltOnly) rfl
    (fun _ _ _ => Iff.rfl) (fun _ _ _ _ hholder => hholder)

theorem Inv.tiltRollback (h : Inv s) {tilt : DataPoint L L}
    (hstep : s.tilt.rollbackTimeout = some tilt) : Inv { s with tilt } := by
  refine h.tiltChanged rfl (fun _ _ hk => hk) (fun _ => Iff.rfl) ?_
  rw [DataPoint.rollbackTimeout_eq hstep]
  split
  · exact DataPoint.info_rollbackOptimisticValue ..
  · rfl

variable [DecidableEq L]

theorem shrinks_removeLastValueSend (t : CommandTracker L) (now : Int) (dpk : DataPointKey)
    (value : Option L) (maxAge : Int) (k : DataPointKey) (c : CachedCommand L)
    (h : (t.removeLastValueSend now dpk value maxAge).lastSendCommand.get? k = some c) :
    t.lastSendCommand.get? k = some c := by
  rw [CommandTracker.get?_removeLastValueSend, Option.filter_eq_some_iff] at h
  exact h.1

theorem Inv.levelEvent (h : Inv s) {value : L} {receivedAt : Nat}
    (hmeets : s.Meets (.levelEvent value receivedAt)) :
    Inv ((s.confirmed s.levelKey value).levelReported value (s.level.event value receivedAt)) := by
  refine h.levelReported (CommandTracker.interfaceId_removeLastValueSend ..)
    (shrinks_removeLastValueSend _ _ _ _ _) ?_ (DataPoint.info_event ..) ?_
    (DataPoint.unconfirmedRefreshedAt_event ..) ?_ hmeets
  · intro c hc hrecent hne
    have hget : s.tracker.lastSendCommand.get? s.levelKey = some c := hc
    rw [CommandTracker.get?_removeLastValueSend, hget, Option.filter_some, if_pos]
    refine decide_eq_true fun _ => ⟨fresh_of_recent hrecent (h.sentAt c hc), fun heq => ?_⟩
    exact hne (Option.some.inj heq).symm
  · rw [DataPoint.currentValue_event, h.levelInfo]
    rfl
  · intro l hl
    rw [DataPoint.optimistic_event] at hl
    exact value_confirmOptimistic hl

theorem Inv.levelLoad (h : Inv s) {value : L} (hmeets : s.Meets (.levelLoad value)) :
    Inv (s.levelReported value (s.level.load (.entry value) s.now)) := by
  refine h.levelReported rfl (fun _ _ hk => hk) (fun _ hc _ _ => hc)
    (DataPoint.info_writeValue ..) ?_ (DataPoint.unconfirmedRefreshedAt_writeValue ..) ?_ hmeets
  · show (s.level.writeValue (.entry value) s.now).2.currentValue = some value
    rw [DataPoint.currentValue_writeValue_entry, h.levelInfo]
    rfl
  · intro l hl
    rwa [DataPoint.load, DataPoint.optimistic_writeValue] at hl

theorem Inv.tiltEvent (h : Inv s) (value : L) (receivedAt : Nat) :
    Inv { s.confirmed s.tiltKey value with tilt := s.tilt.event value receivedAt } := by
  refine h.tiltChanged (CommandTracker.interfaceId_removeLastValueSend ..)
    (shrinks_removeLastValueSend _ _ _ _ _) (fun c => ?_) (DataPoint.info_event ..)
  unfold confirmed
  rw [CommandTracker.get?_removeLastValueSend, Option.filter_eq_some_iff]
  exact and_iff_left (decide_eq_true fun hkey => absurd hkey (levelKey_ne_tiltKey s))

theorem Inv.groupLevelEvent (h : Inv s) {value : L} (hmeets : s.Meets (.groupLevelEvent value)) :
    Inv { s with groupLevelValue := some value } := by
  have hreads : s.readsGroup = true → readsGroup { s with groupLevelValue := some value } = true := by
    intro hreads
    exact Bool.and_eq_true_iff.mpr ⟨(Bool.and_eq_true_iff.mp hreads).1, rfl⟩
  have hfewer : Fewer s { s with groupLevelValue := some value } := by
    refine ⟨fun _ hl => hl, fun c hc hrecent => ⟨hc, hrecent⟩, fun l hl => ?_, fun _ hm => hm⟩
    unfold unconfirmedShown at hl ⊢
    split at hl
    · cases hl
    next hnot => rwa [if_neg fun h => hnot (hreads h)]
  exact h.of_fewer { h.toBase with shows := h.shows.imp_left hreads } hfewer rfl rfl rfl rfl hmeets

theorem Inv.levelRollback (h : Inv s) (hmeets : s.Meets .levelRollback) {level : DataPoint L L}
    (hstep : s.level.rollbackTimeout = some level) : Inv { s with level } := by
  obtain rfl := DataPoint.rollbackTimeout_eq hstep
  split
  next hactive =>
    obtain ⟨hcurrent, hreset, -, -⟩ := DataPoint.rollbackOptimisticValue_of_active hactive
    refine h.rolledBack (DataPoint.info_rollbackOptimisticValue ..) ?_ ?_ (.inl hreset)
    · exact (hmeets hactive).imp_right hcurrent.trans
    · intro l hl
      have hinactive := DataPoint.isActive_rollbackOptimisticValue s.level
      rw [OptimisticValueTracker.isActive, hl] at hinactive
      cases hinactive
  next => exact h.rolledBack rfl h.shows (fun _ hl => hl) (.inr ⟨rfl, rfl, rfl⟩)

end Events

/-! ## Runs -/

section Runs

variable [DecidableEq L] {s t : Blind L} {n : Nat}

theorem Inv.run (h : Inv s) {a : Action L} (hmeets : s.Meets a) (hstep : s.run a = some t) :
    Inv t := by
  unfold Blind.run at hstep
  cases a with
  | command c =>
    obtain rfl := Option.some.inj hstep
    exact h.command c
  | acquired n =>
    dsimp only at hstep
    split at hstep
    next hfree => exact h.acquired hmeets hfree hstep
    next => cases hstep
  | timedOut n => exact h.timedOut hmeets hstep
  | cancel n => exact h.cancel hstep
  | stopEnded n result => exact h.stopEnded hmeets hstep
  | staged n =>
    dsimp only at hstep
    split at hstep
    next send hn =>
      split at hstep
      · obtain rfl := Option.some.inj hstep
        exact h.staged hn
      · cases hstep
    next => cases hstep
  | sendEnded n result => exact h.sendEnded hmeets hstep
  | levelEvent value receivedAt =>
    obtain rfl := Option.some.inj hstep
    exact h.levelEvent hmeets
  | levelLoad value =>
    obtain rfl := Option.some.inj hstep
    exact h.levelLoad hmeets
  | tiltEvent value receivedAt =>
    obtain rfl := Option.some.inj hstep
    exact h.tiltEvent value receivedAt
  | tiltLoad value =>
    obtain rfl := Option.some.inj hstep
    exact h.tiltChanged rfl (fun _ _ hk => hk) (fun _ => Iff.rfl) (DataPoint.info_writeValue ..)
  | groupLevelEvent value =>
    obtain rfl := Option.some.inj hstep
    exact h.groupLevelEvent hmeets
  | groupTiltEvent value =>
    obtain rfl := Option.some.inj hstep
    have hsame : SameLevel s { s with groupTiltValue := some value } :=
      ⟨rfl, rfl, rfl, rfl, rfl, rfl, fun _ _ => Iff.rfl⟩
    exact h.of_same hsame (hsame.base h.toBase rfl rfl (fun _ _ hk => hk) h.tiltOnly) rfl
      (fun _ _ _ => Iff.rfl) (fun _ _ _ _ hholder => hholder)
  | levelRollback =>
    obtain ⟨level, hlevel, rfl⟩ := Option.map_eq_some_iff.mp hstep
    exact h.levelRollback hmeets hlevel
  | tiltRollback =>
    obtain ⟨tilt, htilt, rfl⟩ := Option.map_eq_some_iff.mp hstep
    exact h.tiltRollback htilt

omit [DecidableEq L] in
theorem inv_init (info : BlindInfo L) : Inv (init info) where
  levelInfo := rfl
  tiltInfo := rfl
  interfaceId := rfl
  clock := Nat.one_pos
  keys := nofun
  sentAt := nofun
  recent := nofun
  last := nofun
  shows := .inr rfl
  optimistic := nofun
  unconfirmed := .inl rfl
  tiltOnly := nofun
  lock := nofun
  inFlight := nofun
  left := by
    intro _ l hl
    rcases hl with hl | ⟨c, hc, -⟩ | hl
    · cases hl
    · cases hc
    · rw [unconfirmedShown_of_reset rfl] at hl
      cases hl
  sending := nofun

theorem run_of_step {info : BlindInfo L} {a : Nat × Action L}
    (hstep : (system info).step s a = some t) :
    s.now ≤ a.1 ∧ Blind.run { s with now := a.1 } a.2 = some t := by
  have hstep : (if a.1 < s.now then none else Blind.run { s with now := a.1 } a.2) = some t := hstep
  split at hstep
  · cases hstep
  next hnow => exact ⟨Nat.le_of_not_lt hnow, hstep⟩

theorem inv_step {info : BlindInfo L} {a : Nat × Action L} (h : Inv s) (hcovered : s.Covered a)
    (hstep : (system info).step s a = some t) : Inv t := by
  obtain ⟨hnow, hstep⟩ := run_of_step hstep
  exact (h.later hnow).run hcovered hstep

/-! ## STOP -/

/-- A lookup reads the time, the values in flight and the tracker. -/
theorem coordinate_congr (hnow : t.now = s.now) (hinFlight : t.inFlight = s.inFlight)
    (htracker : t.tracker = s.tracker) (given : Option L) (d : DataPoint L L) (shown : L) :
    (t.coordinate given d shown).1 = (s.coordinate given d shown).1 := by
  have htarget : (t.target d).1 = (s.target d).1 := by
    unfold target unconfirmedLastValueSend
    rw [hnow, hinFlight, htracker]
    split
    · rfl
    · split <;> rfl
  unfold coordinate
  cases given with
  | some value => rfl
  | none =>
    cases ht : t.target d with
    | mk value t' =>
      cases hs : s.target d with
      | mk value' s' =>
        rw [ht, hs] at htarget
        obtain rfl : value = value' := htarget
        cases value <;> rfl

theorem tiltOnly_setLevel (n : Nat) (level tilt : Option L) (s : Blind L) :
    (s.setLevel n level tilt).tiltOnly =
      s.recorded level (s.coordinate level s.level s.groupLevel).1.1 := by
  unfold setLevel sendLevel
  dsimp only
  split
  · rfl
  · split <;> rfl

/-- After a STOP, the level of the movement that was stopped is taken as if it were still pending. -/
theorem coordinate_of_stopped (h : Inv s)
    (hidle : ∀ phase ∈ s.calls, phase.setsLevels = false) (hn : n < s.calls.length)
    {m : CachedCommand L} (hm : m ∈ s.movement) (hpending : s.Pending m)
    (htells : ∀ c ∈ s.tracked, Tells s.now c.sentAt lastCommandSendStoreTimeout) :
    (coordinate none s.level s.groupLevel { s with movement := none }).1.1 = m.value := by
  obtain ⟨hquiet, hleft⟩ :=
    h.quiet_of_idle (fun _ phase hk => hidle phase (List.mem_of_getElem? hk)) hn
  have hlevel := hquiet.coordinate_level hleft htells
  have hexpected : s.expectedLevel = m.value := by
    unfold expectedLevel
    rw [Option.mem_def.mp hm]
    exact if_pos hpending
  have hread := coordinate_congr (s := { s with lockHolder := some n })
    (t := { s with movement := none }) rfl rfl rfl none s.level s.groupLevel
  rw [hread]
  exact hlevel.trans hexpected

theorem setLevel_of_acquired {level tilt : Option L} (hn : s.calls[n]? = some (.waiting level tilt))
    (hstep : s.run (.acquired n) = some t) :
    t = { s with lockHolder := some n }.setLevel n level tilt := by
  unfold run at hstep
  dsimp only at hstep
  split at hstep
  · unfold proceed at hstep
    dsimp only at hstep
    rw [hn] at hstep
    exact (Option.some.inj hstep).symm
  · cases hstep

/-- The command that waits for the lock while `stop` sends STOP restarts the movement, unless there is
none to restart. -/
theorem restarts_of_stopped (h : Inv s) {k : Nat} {tilt : Option L} {u : Blind L}
    (hidle : ∀ phase ∈ s.calls, phase.setsLevels = false)
    (hn : s.calls[n]? = some .stopSending) (hk : s.calls[k]? = some (.waiting none tilt))
    (hstands : ¬s.Stands)
    (hmeets : (({ s with movement := none } : Blind L).endCall n).Meets (.acquired k))
    (hstep : (({ s with movement := none } : Blind L).endCall n).run (.acquired k) = some u) :
    ∃ e ∈ u.tiltOnly, e.level ≠ e.expected := by
  obtain ⟨m, hm, hpending, hne⟩ : ∃ m ∈ s.movement, s.Pending m ∧ m.value ≠ s.reportedLevel := by
    by_contra hnone
    refine hstands ⟨hidle, fun m hm hpending => ?_⟩
    by_contra hne
    exact hnone ⟨m, hm, hpending, hne⟩
  have hkn : n ≠ k := by
    rintro rfl
    cases hn.symm.trans hk
  have hwaits : (s.calls.set n .ended)[k]? = some (.waiting none tilt) := by
    rw [List.getElem?_set_ne hkn, hk]
  have hlevel := coordinate_of_stopped h hidle (length_of_getElem? hk) hm hpending
    (hmeets (congrArg (Option.any BlindPhase.lacksLevel) hwaits))
  rw [setLevel_of_acquired hwaits hstep, tiltOnly_setLevel]
  refine ⟨_, List.mem_concat_self, fun heq => hne ?_⟩
  have hread := coordinate_congr (s := { s with movement := none })
    (t := { ({ s with movement := none } : Blind L).endCall n with lockHolder := some k })
    rfl rfl rfl none s.level s.groupLevel
  exact ((congrArg Prod.fst hread).trans hlevel).symm.trans heq

/-- In a run whose steps all meet the condition, every command that does not say a level takes the
one of the last movement, if that is pending, and the one reported last otherwise. A `stop` that does
not meet it restarts the movement with the command that waits for the lock. -/
theorem tiltOnly_expected {info : BlindInfo L} (h : (system info).Reach Covered s) :
    (∀ e ∈ s.tiltOnly, e.level = e.expected) ∧
    ∀ now n k tilt t u, (∀ phase ∈ s.calls, phase.setsLevels = false) →
      s.calls[k]? = some (.waiting none tilt) → ¬Covered s (now, .stopEnded n (.ok .sent)) →
      (system info).step s (now, .stopEnded n (.ok .sent)) = some t →
      Covered t (now, .acquired k) → (system info).step t (now, .acquired k) = some u →
      ∃ e ∈ u.tiltOnly, e.level ≠ e.expected := by
  have hinv : Inv s := h.invariant (inv_init info) fun _ _ _ => inv_step
  refine ⟨hinv.tiltOnly, ?_⟩
  intro now n k tilt t u hidle hk hnot hstop hcovered hstep
  obtain ⟨hnow, hstop⟩ := run_of_step hstop
  obtain ⟨-, hstep⟩ := run_of_step hstep
  obtain ⟨hn, hstands⟩ := Classical.not_imp.mp hnot
  obtain rfl : Blind.endCall n { s with now, movement := none } = t := by
    have hstop : Blind.stopEnded n (.ok .sent) { s with now } = some t := hstop
    unfold Blind.stopEnded at hstop
    rw [hn] at hstop
    exact Option.some.inj hstop
  exact restarts_of_stopped (hinv.later hnow) hidle hn hk hstands hcovered hstep

end Runs

/-! ## A stopped movement -/

/-- Levels in percent. -/
def sampleInfo : BlindInfo Nat where
  interfaceId := "CCU-HmIP-RF"
  channelAddress := "000A1D89A3B5C7:4"
  level := { parameter := "LEVEL" }
  tilt := { parameter := "LEVEL_2" }
  parameter_ne := by decide
  positionToLevel := Int.toNat
  levelToPosition := Int.ofNat
  closedLevel := 0
  openLevel := 100
  openTiltLevel := 100

/-- The blind is closed, and `set_position(position=80)` is sent. -/
def movementRun : List (Nat × Action Nat) :=
  [(1, .levelEvent 0 1), (2, .command (.setPosition (some 80) none)), (2, .acquired 0),
    (2, .staged 0), (3, .sendEnded 0 (.ok .sent))]

/-- `set_position(tilt_position=30)`, up to the STOP before the levels. -/
def tiltRun (now n : Nat) : List (Nat × Action Nat) :=
  [(now, .command (.setPosition none (some 30))), (now, .acquired n)]

theorem tiltOnly_expected_moving : ∃ s : Blind Nat, (system sampleInfo).Reach Covered s ∧
    s.tiltOnly = [⟨80, 80⟩] ∧ ∀ e ∈ s.tiltOnly, e.level = e.expected := by
  obtain ⟨s, hs, htilt⟩ := replay_any (p := fun s => s.tiltOnly = [⟨80, 80⟩])
    (show ((system sampleInfo).replay Covered (init sampleInfo)
      (movementRun ++ tiltRun 4 1)).any _ = true by decide +kernel)
  have hreach : (system sampleInfo).Reach Covered s := reach_of_replay hs
  exact ⟨s, hreach, htilt, (tiltOnly_expected hreach).1⟩

/-- `stop()` while the blind is on its way to 80, and a report that it has come to 40. -/
def stopRun : List (Nat × Action Nat) :=
  [(4, .command .stop), (4, .acquired 1), (5, .stopEnded 1 (.ok .sent)), (6, .levelEvent 40 6)]

/-- The tilt command after that sends the blind to 80 again. -/
theorem not_tiltOnly_expected : ¬∀ s : Blind Nat, (system sampleInfo).Reach Free s →
    ∀ e ∈ s.tiltOnly, e.level = e.expected := by
  intro h
  obtain ⟨s, hs, htilt⟩ := replay_any (p := fun s => s.tiltOnly = [⟨80, 40⟩])
    (show ((system sampleInfo).replay Free (init sampleInfo)
      (movementRun ++ stopRun ++ tiltRun 7 2)).any _ = true by decide +kernel)
  have he : (⟨80, 40⟩ : TiltOnly Nat) ∈ s.tiltOnly := by
    rw [htilt]
    exact List.mem_singleton_self _
  cases h s (reach_of_replay hs) _ he

end Blind

end AioHomematic.Model
