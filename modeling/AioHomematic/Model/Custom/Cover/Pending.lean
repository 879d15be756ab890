import AioHomematic.Model.Custom.Cover

/-!
# Pending movements

A command that does not say a level takes the first of the level's optimistic value, the value in
flight, the value that was sent last, and the level that the blind shows; each of them is written and
forgotten at other times. `Inv` is what relates them to the last movement: while no command sends,
they hold its level, or the one that was reported last, and nothing is in flight. Only a command that
has the lock sets levels, and `Quiet` is the invariant from the point of view of that command.
`Quiet.coordinate_level` is what follows for the level it takes.
-/

namespace AioHomematic.Model

open Client Lib StepSystem Store Support

namespace Blind

variable {L : Type*}

/-! ## What is left of a movement -/

section Left

variable [DecidableEq L]

/-- The command that the tracker keeps for the level. -/
def tracked (s : Blind L) : Option (CachedCommand L) := s.tracker.lastSendCommand.get? s.levelKey

/-- A level that a command has left: the optimistic value, the value sent last, or the unconfirmed
value. -/
def Left (l : L) (s : Blind L) : Prop :=
  s.level.optimistic.value = some l ∨ (∃ c ∈ s.tracked, s.Recent c ∧ c.value = l) ∨
    s.unconfirmedShown = some l

/-- The level of the last movement, or the level reported last. -/
def aimed (s : Blind L) : L := (s.movement.map (·.value)).getD s.reportedLevel

def OnlyLeft (l : L) (s : Blind L) : Prop := ∀ l', s.Left l' → l' = l

/-- Only the last movement has left a level that differs from the one reported last. -/
def Settled (s : Blind L) : Prop := s.movement = none → s.OnlyLeft s.reportedLevel

def ShowsReported (s : Blind L) : Prop := s.readsGroup = true ∨ s.level.currentValue = s.reported

def Sending (s : Blind L) : Prop := ∃ (n : Nat) (send : BlindSend L), s.calls[n]? = some (.sending send)

end Left

/-! ## The invariant -/

/-- What holds in any phase of a command. -/
structure Base (s : Blind L) : Prop where
  levelInfo : s.level.info = s.info.parameterInfo s.info.level
  tiltInfo : s.tilt.info = s.info.parameterInfo s.info.tilt
  interfaceId : s.tracker.interfaceId = s.info.interfaceId
  clock : 0 < s.now
  keys : ∀ k c, s.tracker.lastSendCommand.get? k = some c → k = s.levelKey ∨ k = s.tiltKey
  sentAt : ∀ c ∈ s.tracked, 0 < c.sentAt ∧ c.sentAt ≤ s.now
  recent : ∀ m ∈ s.movement, s.Recent m → s.tracked = some m
  last : ∀ c ∈ s.tracked, s.Recent c → s.movement = some c ∨ s.movement = none
  shows : s.ShowsReported
  optimistic : s.level.isOptimistic = true →
    s.info.combined = none ∧ DataPoint.appliesOptimistic s.level.info = true
  unconfirmed : s.level.unconfirmedRefreshedAt = initDatetime ∨
    s.info.requiresPolling = true ∧ s.level.unconfirmedValue.isSome = true
  tiltOnly : ∀ e ∈ s.tiltOnly, e.level = e.expected

/-- What is left while a command sends: its own level, if it carries one, over the movement's. -/
def SendLeaves (send : BlindSend L) (s : Blind L) : Prop :=
  (∀ l, s.level.optimistic.value = some l → (∀ v ∈ send.level, l = v) ∧
    (send.level = none → ∀ m ∈ s.movement, l = m.value)) ∧
  ∀ l, s.unconfirmedShown = some l → ∀ m ∈ s.movement, l = m.value

structure Inv (s : Blind L) : Prop extends Base s where
  lock : ∀ n phase, s.calls[n]? = some phase → phase.setsLevels = true → s.lockHolder = some n
  inFlight : ∀ v, s.inFlight.get? s.levelKey = some v → ∃ (n : Nat) (send : BlindSend L),
    s.calls[n]? = some (.sending send) ∧ send.staged = true ∧ s.info.combined = none ∧
      send.level = some v
  left : ¬s.Sending → s.OnlyLeft s.aimed
  sending : ∀ (n : Nat) (send : BlindSend L), s.calls[n]? = some (.sending send) → s.SendLeaves send

/-- Command `n` has the lock, and no other command sets levels. -/
structure Quiet (n : Nat) (s : Blind L) : Prop extends Base s where
  called : n < s.calls.length
  holder : s.lockHolder = some n
  others : ∀ k phase, k ≠ n → s.calls[k]? = some phase → phase.setsLevels = false
  notInFlight : s.inFlight.get? s.levelKey = none

/-- The part of the state that is read for the level; an expired command may be forgotten. -/
structure SameLevel (s t : Blind L) : Prop where
  now : t.now = s.now
  info : t.info = s.info
  level : t.level = s.level
  groupLevelValue : t.groupLevelValue = s.groupLevelValue
  reported : t.reported = s.reported
  movement : t.movement = s.movement
  tracked : ∀ c, s.Recent c → (t.tracked = some c ↔ s.tracked = some c)

section Basic

variable {s t : Blind L} {n : Nat}

theorem levelKey_ne_tiltKey (s : Blind L) : s.levelKey ≠ s.tiltKey := fun h =>
  s.info.parameter_ne (congrArg DataPointKey.parameter h)

theorem fresh_of_recent {c : CachedCommand L} (h : s.Recent c)
    (hsent : 0 < c.sentAt ∧ c.sentAt ≤ s.now) :
    changedWithinSeconds s.now c.sentAt lastCommandSendStoreTimeout = true := by
  obtain ⟨hset, hpast⟩ := hsent
  unfold Recent at h
  refine decide_eq_true ⟨by simp only [Support.initDatetime]; omega, ?_⟩
  simp only [seconds, microsecondsPerSecond, secondsPerDay, lastCommandSendStoreTimeout] at h ⊢
  omega

theorem recent_of_fresh {c : CachedCommand L} (hsent : 0 < c.sentAt ∧ c.sentAt ≤ s.now)
    (htells : Tells s.now c.sentAt lastCommandSendStoreTimeout)
    (h : changedWithinSeconds s.now c.sentAt lastCommandSendStoreTimeout = true) : s.Recent c := by
  have haged := changedWithinSeconds_iff.mpr htells h
  obtain ⟨-, hseconds⟩ := of_decide_eq_true h
  obtain ⟨-, hpast⟩ := hsent
  unfold AgedAtMost at haged
  unfold Recent
  simp only [seconds, microsecondsPerSecond, secondsPerDay, lastCommandSendStoreTimeout]
    at hseconds haged ⊢
  omega

namespace SameLevel

/-- The commands and the lock do not matter. -/
theorem rest (s : Blind L) (inFlight : Dict DataPointKey L) (calls : List (BlindPhase L))
    (lockHolder : Option Nat) (tiltOnly : List (TiltOnly L)) :
    SameLevel s { s with inFlight, calls, lockHolder, tiltOnly } :=
  ⟨rfl, rfl, rfl, rfl, rfl, rfl, fun _ _ => Iff.rfl⟩

variable (h : SameLevel s t)
include h

theorem recent_iff {c : CachedCommand L} : t.Recent c ↔ s.Recent c := by
  unfold Recent
  rw [h.now]

theorem reportedLevel : t.reportedLevel = s.reportedLevel := by
  unfold Blind.reportedLevel
  rw [h.info, h.groupLevelValue, h.reported]

theorem readsGroup : t.readsGroup = s.readsGroup := by
  unfold Blind.readsGroup
  rw [h.info, h.groupLevelValue]

theorem unconfirmedShown : t.unconfirmedShown = s.unconfirmedShown := by
  unfold Blind.unconfirmedShown
  rw [h.readsGroup, h.level]

theorem aimed : t.aimed = s.aimed := by
  unfold Blind.aimed
  rw [h.movement, h.reportedLevel]

theorem left_iff {l : L} : t.Left l ↔ s.Left l := by
  have htracked : (∃ c ∈ t.tracked, t.Recent c ∧ c.value = l) ↔
      ∃ c ∈ s.tracked, s.Recent c ∧ c.value = l := by
    refine exists_congr fun c => ?_
    rw [h.recent_iff]
    constructor
    · rintro ⟨hc, hrecent, hl⟩
      exact ⟨(h.tracked c hrecent).mp hc, hrecent, hl⟩
    · rintro ⟨hc, hrecent, hl⟩
      exact ⟨(h.tracked c hrecent).mpr hc, hrecent, hl⟩
  unfold Left
  rw [h.level, h.unconfirmedShown, htracked]

theorem sendLeaves_iff {send : BlindSend L} : t.SendLeaves send ↔ s.SendLeaves send := by
  unfold SendLeaves
  rw [h.level, h.unconfirmedShown, h.movement]

theorem base (hbase : Base s) (htilt : t.tilt.info = s.tilt.info)
    (hid : t.tracker.interfaceId = s.tracker.interfaceId)
    (hshrinks : ∀ k c, t.tracker.lastSendCommand.get? k = some c →
      s.tracker.lastSendCommand.get? k = some c)
    (htiltOnly : ∀ e ∈ t.tiltOnly, e.level = e.expected) : Base t where
  levelInfo := by rw [h.level, h.info]; exact hbase.levelInfo
  tiltInfo := by rw [htilt, h.info]; exact hbase.tiltInfo
  interfaceId := by rw [hid, h.info]; exact hbase.interfaceId
  clock := by rw [h.now]; exact hbase.clock
  keys := by
    unfold levelKey tiltKey
    rw [h.info]
    exact fun k c hk => hbase.keys k c (hshrinks k c hk)
  sentAt := by
    unfold Blind.tracked levelKey
    rw [h.info, h.now]
    exact fun c hc => hbase.sentAt c (hshrinks _ c hc)
  recent := by
    rw [h.movement]
    intro m hm hrecent
    have hrecent := h.recent_iff.mp hrecent
    exact (h.tracked m hrecent).mpr (hbase.recent m hm hrecent)
  last := by
    rw [h.movement]
    intro c hc hrecent
    have hrecent := h.recent_iff.mp hrecent
    exact hbase.last c ((h.tracked c hrecent).mp hc) hrecent
  shows := by
    unfold ShowsReported
    rw [h.readsGroup, h.level, h.reported]
    exact hbase.shows
  optimistic := by rw [h.level, h.info]; exact hbase.optimistic
  unconfirmed := by rw [h.level, h.info]; exact hbase.unconfirmed
  tiltOnly := htiltOnly

end SameLevel

end Basic

/-! ## The lock -/

section Lock

variable {s t : Blind L} {n : Nat}

theorem getElem?_setCall {phase phase' : BlindPhase L} {k : Nat}
    (h : (s.setCall n phase).calls[k]? = some phase') :
    k = n ∧ phase' = phase ∨ k ≠ n ∧ s.calls[k]? = some phase' := by
  simp only [setCall, List.getElem?_set] at h
  split at h
  next heq =>
    split at h
    · exact .inl ⟨heq.symm, (Option.some.inj h).symm⟩
    · cases h
  next hne => exact .inr ⟨Ne.symm hne, h⟩

/-- Command `n` goes on with the lock. -/
theorem Quiet.inv_setCall {phase : BlindPhase L} (h : Quiet n s)
    (hleft : (∀ send, phase ≠ .sending send) → s.OnlyLeft s.aimed)
    (hsend : ∀ send, phase = .sending send → s.SendLeaves send) : Inv (s.setCall n phase) where
  toBase := (SameLevel.rest s _ _ _ _).base h.toBase rfl rfl (fun _ _ hk => hk) h.tiltOnly
  lock := by
    intro k phase' hk hsets
    rcases getElem?_setCall hk with ⟨hkn, -⟩ | ⟨hkn, hk⟩
    · rw [hkn]
      exact h.holder
    · rw [h.others k phase' hkn hk] at hsets
      cases hsets
  inFlight := by
    intro v hv
    cases h.notInFlight.symm.trans hv
  left := by
    intro hnot
    refine hleft fun send heq => hnot ⟨n, send, ?_⟩
    rw [← heq]
    exact List.getElem?_set_self h.called
  sending := by
    intro k send hk
    rcases getElem?_setCall hk with ⟨-, heq⟩ | ⟨hkn, hk⟩
    · exact hsend send heq.symm
    · cases h.others k _ hkn hk

/-- Command `n` ends and releases the lock. -/
theorem Quiet.inv_endCall (h : Quiet n s) (hleft : s.OnlyLeft s.aimed) :
    Inv (s.endCall n) := by
  have hinv : Inv (s.setCall n .ended) := h.inv_setCall (fun _ => hleft) nofun
  refine { hinv with lock := fun k phase hk hsets => ?_ }
  rcases getElem?_setCall hk with ⟨-, rfl⟩ | ⟨hkn, hk⟩
  · cases hsets
  · rw [h.others k phase hkn hk] at hsets
    cases hsets

/-- A step that keeps the level and the commands that set levels. -/
theorem Inv.of_same (h : Inv s) (hsame : SameLevel s t) (hbase : Base t)
    (hinFlight : t.inFlight.get? t.levelKey = s.inFlight.get? s.levelKey)
    (hcalls : ∀ (k : Nat) (phase : BlindPhase L), phase.setsLevels = true →
      (t.calls[k]? = some phase ↔ s.calls[k]? = some phase))
    (hlock : ∀ (k : Nat) (phase : BlindPhase L), phase.setsLevels = true →
      s.calls[k]? = some phase → s.lockHolder = some k → t.lockHolder = some k) : Inv t where
  toBase := hbase
  lock := by
    intro k phase hk hsets
    have hk := (hcalls k phase hsets).mp hk
    exact hlock k phase hsets hk (h.lock k phase hk hsets)
  inFlight := by
    intro v hv
    rw [hinFlight] at hv
    obtain ⟨k, send, hk, hsend⟩ := h.inFlight v hv
    rw [hsame.info]
    exact ⟨k, send, (hcalls k _ rfl).mpr hk, hsend⟩
  left := by
    intro hnot l hl
    rw [hsame.aimed]
    refine h.left ?_ l (hsame.left_iff.mp hl)
    rintro ⟨k, send, hk⟩
    exact hnot ⟨k, send, (hcalls k _ rfl).mpr hk⟩
  sending := by
    intro k send hk
    exact hsame.sendLeaves_iff.mpr (h.sending k send ((hcalls k _ rfl).mp hk))

theorem Inv.holder_eq (h : Inv s) {k : Nat} {phase phase' : BlindPhase L}
    (hn : s.calls[n]? = some phase) (hsets : phase.setsLevels = true)
    (hk : s.calls[k]? = some phase') (hsets' : phase'.setsLevels = true) : k = n :=
  Option.some.inj ((h.lock k phase' hk hsets').symm.trans (h.lock n phase hn hsets))

theorem Inv.others (h : Inv s) {phase : BlindPhase L} (hn : s.calls[n]? = some phase)
    (hsets : phase.setsLevels = true) (k : Nat) (phase' : BlindPhase L) (hkn : k ≠ n)
    (hk : s.calls[k]? = some phase') : phase'.setsLevels = false :=
  Bool.eq_false_of_not_eq_true fun hsets' => hkn (h.holder_eq hn hsets hk hsets')

theorem length_of_getElem? {phase : BlindPhase L} (hn : s.calls[n]? = some phase) :
    n < s.calls.length := (List.getElem?_eq_some_iff.mp hn).1

theorem Inv.quiet_of_stopping (h : Inv s) {level tilt : L}
    (hn : s.calls[n]? = some (.stopping level tilt)) :
    Quiet n s ∧ s.OnlyLeft s.aimed := by
  have hnot : ∀ (k : Nat) (send : BlindSend L), s.calls[k]? ≠ some (.sending send) := by
    intro k send hk
    obtain rfl := h.holder_eq hn rfl hk rfl
    cases hn.symm.trans hk
  refine ⟨⟨h.toBase, length_of_getElem? hn, h.lock n _ hn rfl, h.others hn rfl, ?_⟩,
    h.left fun ⟨k, send, hk⟩ => hnot k send hk⟩
  rw [Option.eq_none_iff_forall_ne_some]
  intro v hv
  obtain ⟨k, send, hk, -⟩ := h.inFlight v hv
  exact hnot k send hk

/-- While no command sets levels, command `n` may take the lock. -/
theorem Inv.quiet_of_idle (h : Inv s)
    (hidle : ∀ (k : Nat) (phase : BlindPhase L), s.calls[k]? = some phase → phase.setsLevels = false)
    (hn : n < s.calls.length) :
    Quiet n { s with lockHolder := some n } ∧ s.OnlyLeft s.aimed := by
  have hnot : ¬s.Sending := by
    rintro ⟨k, send, hk⟩
    cases hidle k _ hk
  refine ⟨⟨(SameLevel.rest s _ _ _ _).base h.toBase rfl rfl (fun _ _ hk => hk) h.tiltOnly, hn, rfl,
    fun k phase _ hk => hidle k phase hk, ?_⟩, h.left hnot⟩
  show s.inFlight.get? s.levelKey = none
  rw [Option.eq_none_iff_forall_ne_some]
  intro v hv
  obtain ⟨k, send, hk, -⟩ := h.inFlight v hv
  exact hnot ⟨k, send, hk⟩

theorem Inv.idle_of_free (h : Inv s) (hfree : s.lockHolder = none) (k : Nat) (phase : BlindPhase L)
    (hk : s.calls[k]? = some phase) : phase.setsLevels = false := by
  refine Bool.eq_false_of_not_eq_true fun hsets => ?_
  cases hfree.symm.trans (h.lock k phase hk hsets)

end Lock

section Sends

variable [DecidableEq L] {s t : Blind L} {n : Nat}

theorem get?_clearValue (dpk k : DataPointKey) (value : Option L) (inFlight : Dict DataPointKey L) :
    (clearValue dpk value inFlight).get? k =
      if k = dpk ∧ inFlight.get? k = value then none else inFlight.get? k := by
  unfold clearValue
  by_cases hk : k = dpk
  · subst hk
    cases value with
    | none => simp
    | some value =>
      by_cases hvalue : inFlight.get? k = some value
      · simp [hvalue]
      · simp [hvalue]
  · rw [if_neg (not_and_of_not_left _ hk)]
    split
    · exact Dict.get?_erase_of_ne _ (Ne.symm hk)
    · rfl

/-- A send that ends is not in flight any more. -/
theorem Inv.quiet_of_sending (h : Inv s) {send : BlindSend L}
    (hn : s.calls[n]? = some (.sending send)) : Quiet n (s.clearInFlight send) := by
  have hown : ∀ v, s.inFlight.get? s.levelKey = some v →
      send.staged = true ∧ s.info.combined = none ∧ send.level = some v := by
    intro v hv
    obtain ⟨k, send', hk, hsend'⟩ := h.inFlight v hv
    obtain rfl := h.holder_eq hn rfl hk rfl
    cases hn.symm.trans hk
    exact hsend'
  unfold clearInFlight
  split
  next hnothing =>
    refine ⟨h.toBase, length_of_getElem? hn, h.lock n _ hn rfl, h.others hn rfl, ?_⟩
    rw [Option.eq_none_iff_forall_ne_some]
    intro v hv
    obtain ⟨hstaged, hcombined, -⟩ := hown v hv
    simp [hstaged, hcombined] at hnothing
  next =>
    refine ⟨(SameLevel.rest s _ _ _ _).base h.toBase rfl rfl (fun _ _ hk => hk) h.tiltOnly,
      length_of_getElem? hn, h.lock n _ hn rfl, h.others hn rfl, ?_⟩
    show (clearValue s.tiltKey send.tilt (clearValue s.levelKey send.level s.inFlight)).get?
      s.levelKey = none
    rw [get?_clearValue, if_neg (fun hkey => levelKey_ne_tiltKey s hkey.1), get?_clearValue]
    cases hvalue : s.inFlight.get? s.levelKey with
    | none => exact ite_self _
    | some v => rw [if_pos ⟨rfl, (hown v hvalue).2.2.symm⟩]

omit [DecidableEq L] in
theorem applyCollected_cases (value : Option L) (now : Nat) (d : DataPoint L L) :
    (∃ v o, value = some v ∧ DataPoint.appliesOptimistic d.info = true ∧
      applyCollected value now d = { d with optimistic := o } ∧ o.value = some v) ∨
    (applyCollected value now d = d ∧
      (value = none ∨ DataPoint.appliesOptimistic d.info = false)) := by
  cases value with
  | none => exact .inr ⟨rfl, .inl rfl⟩
  | some v =>
    cases happlies : DataPoint.appliesOptimistic d.info with
    | true => exact .inl ⟨v, _, rfl, rfl, DataPoint.applyOptimisticValue_of_applies happlies _ _, rfl⟩
    | false =>
      refine .inr ⟨?_, .inr rfl⟩
      show d.applyOptimisticValue (some v) now = d
      unfold DataPoint.applyOptimisticValue
      rw [happlies]
      rfl

omit [DecidableEq L] in
theorem aimed_of_movement {m : CachedCommand L} (hm : m ∈ s.movement) : s.aimed = m.value := by
  unfold aimed
  rw [Option.mem_def.mp hm]
  rfl

omit [DecidableEq L] in
/-- A command that has the lock starts to send. -/
theorem Quiet.inv_sendLevel (h : Quiet n s)
    (hleft : ∀ l, s.Left l → ∀ m ∈ s.movement, l = m.value) (level tilt : L) :
    Inv (s.sendLevel n level tilt) := by
  have hidle : s.level.isOptimistic = false → ∀ l, s.level.optimistic.value ≠ some l := by
    intro hidle l hl
    rw [show s.level.isOptimistic = s.level.optimistic.value.isSome from rfl, hl] at hidle
    cases hidle
  unfold sendLevel
  dsimp only
  split
  next hcombined =>
    refine h.inv_setCall (fun hnot => absurd rfl (hnot _)) fun send _ => ⟨fun l hl => ?_, ?_⟩
    · refine absurd hl (hidle (Bool.eq_false_of_not_eq_true fun hactive => ?_) l)
      rw [(h.optimistic hactive).1] at hcombined
      cases hcombined
    · exact fun l hl => hleft l (.inr (.inr hl))
  next hcombined =>
    have hnone : s.info.combined = none := Option.not_isSome_iff_eq_none.mp hcombined
    set send := s.carried level tilt with hsend
    have htilt : (applyCollected send.tilt s.now s.tilt).info = s.tilt.info := by
      rcases applyCollected_cases send.tilt s.now s.tilt with ⟨v, o, -, -, heq, -⟩ | ⟨heq, -⟩
      · rw [heq]
      · rw [heq]
    rcases applyCollected_cases send.level s.now s.level with
      ⟨v, o, hv, happlies, heq, ho⟩ | ⟨heq, hnot⟩
    · rw [heq]
      have hbase : Base { s with
          tilt := applyCollected send.tilt s.now s.tilt
          level := { s.level with optimistic := o } } :=
        { h.toBase with
          tiltInfo := htilt.trans h.tiltInfo
          optimistic := fun _ => ⟨hnone, happlies⟩ }
      have hquiet : Quiet n { s with
          tilt := applyCollected send.tilt s.now s.tilt
          level := { s.level with optimistic := o } } :=
        ⟨hbase, h.called, h.holder, h.others, h.notInFlight⟩
      refine hquiet.inv_setCall (fun hnot => absurd rfl (hnot _)) ?_
      rintro send' hsend'
      obtain rfl := BlindPhase.sending.inj hsend'
      refine ⟨fun l hl => ⟨?_, ?_⟩, fun l hl => hleft l (.inr (.inr hl))⟩
      · intro v' hv'
        rw [hv] at hv'
        cases hv'
        exact Option.some.inj (hl.symm.trans ho)
      · intro hlevel
        cases hv.symm.trans hlevel
    · rw [heq]
      have hquiet : Quiet n { s with tilt := applyCollected send.tilt s.now s.tilt } :=
        ⟨{ h.toBase with tiltInfo := htilt.trans h.tiltInfo }, h.called, h.holder, h.others,
          h.notInFlight⟩
      refine hquiet.inv_setCall (fun hnot => absurd rfl (hnot _)) ?_
      rintro send' hsend'
      obtain rfl := BlindPhase.sending.inj hsend'
      refine ⟨fun l hl => ⟨?_, fun _ => hleft l (.inl hl)⟩, fun l hl => hleft l (.inr (.inr hl))⟩
      intro v' hv'
      rcases hnot with hnone' | hnever
      · cases hnone'.symm.trans hv'
      · refine absurd hl (hidle (Bool.eq_false_of_not_eq_true fun hactive => ?_) l)
        cases hnever.symm.trans (h.optimistic hactive).2

/-! ## The level of a command that does not say one -/

/-- A lookup only forgets commands that have expired. -/
theorem coordinate_snd (given : Option L) (d : DataPoint L L) (shown : L) (s : Blind L) :
    (s.coordinate given d shown).2 = s ∨ (s.coordinate given d shown).2 =
      { s with
        tracker :=
          (s.tracker.getLastValueSend s.now d.info.dpk lastCommandSendStoreTimeout).2 } := by
  have htarget : (s.target d).2 = s ∨ (s.target d).2 = { s with
      tracker :=
        (s.tracker.getLastValueSend s.now d.info.dpk lastCommandSendStoreTimeout).2 } := by
    unfold target unconfirmedLastValueSend
    split
    · exact .inl rfl
    · split
      · exact .inl rfl
      · exact .inr rfl
  unfold coordinate
  cases given with
  | some value => exact .inl rfl
  | none =>
    cases htarget' : s.target d with
    | mk value t =>
      rw [htarget'] at htarget
      cases value <;> exact htarget

theorem sameLevel_getLastValueSend (hbase : Base s) (dpk : DataPointKey) :
    SameLevel s { s with
      tracker := (s.tracker.getLastValueSend s.now dpk lastCommandSendStoreTimeout).2 } := by
  refine ⟨rfl, rfl, rfl, rfl, rfl, rfl, fun c hrecent => ?_⟩
  show (s.tracker.getLastValueSend s.now dpk lastCommandSendStoreTimeout).2.lastSendCommand.get?
    s.levelKey = some c ↔ _
  rw [CommandTracker.get?_getLastValueSend, Option.filter_eq_some_iff]
  refine and_iff_left_of_imp fun hc => decide_eq_true fun _ => ?_
  exact fresh_of_recent hrecent (hbase.sentAt c hc)

theorem shrinks_getLastValueSend (t : CommandTracker L) (now : Int) (dpk : DataPointKey)
    (maxAge : Int) (k : DataPointKey) (c : CachedCommand L)
    (h : (t.getLastValueSend now dpk maxAge).2.lastSendCommand.get? k = some c) :
    t.lastSendCommand.get? k = some c := by
  rw [CommandTracker.get?_getLastValueSend, Option.filter_eq_some_iff] at h
  exact h.1

theorem quiet_coordinate (h : Quiet n s) (given : Option L) (d : DataPoint L L) (shown : L) :
    Quiet n (s.coordinate given d shown).2 ∧ SameLevel s (s.coordinate given d shown).2 := by
  rcases coordinate_snd given d shown s with heq | heq
  · rw [heq]
    exact ⟨h, SameLevel.rest s _ _ _ _⟩
  · rw [heq]
    have hsame := sameLevel_getLastValueSend h.toBase d.info.dpk
    exact ⟨⟨hsame.base h.toBase rfl (CommandTracker.interfaceId_getLastValueSend ..)
      (shrinks_getLastValueSend _ _ _ _) h.tiltOnly, h.called, h.holder, h.others, h.notInFlight⟩,
      hsame⟩

/-- What is left is expected: a movement whose level is left is pending. -/
theorem expectedLevel_of_left (hbase : Base s) (hleft : s.OnlyLeft s.aimed) {l : L}
    (h : s.Left l) : l = s.expectedLevel := by
  have haimed := hleft l h
  unfold expectedLevel
  cases hm : s.movement with
  | none =>
    rw [haimed, aimed, hm]
    rfl
  | some m =>
    have hvalue : l = m.value := haimed.trans (aimed_of_movement hm)
    have hpending : s.Pending m := by
      rcases h with hoptimistic | ⟨c, hc, hrecent, -⟩ | hshown
      · exact .inr (.inl (hvalue ▸ hoptimistic))
      · rcases hbase.last c hc hrecent with heq | hnone
        · obtain rfl := Option.some.inj (hm.symm.trans heq)
          exact .inl hrecent
        · cases hm.symm.trans hnone
      · exact .inr (.inr (hvalue ▸ hshown))
    dsimp only
    rw [if_pos hpending, hvalue]

omit [DecidableEq L] in
/-- Where no value is left, the blind shows the level that was reported last. -/
theorem groupLevel_eq_reportedLevel (hbase : Base s) (hidle : s.level.isOptimistic = false)
    (hshown : s.unconfirmedShown = none) : s.groupLevel = s.reportedLevel := by
  have hvalue : s.level.value = s.level.storedValue := DataPoint.value_of_inactive hidle
  unfold groupLevel shown reportedLevel
  rw [hvalue]
  cases hgroup : s.readsGroup with
  | true =>
    obtain ⟨huses, hsome⟩ := Bool.and_eq_true_iff.mp hgroup
    obtain ⟨value, hsome⟩ := Option.isSome_iff_exists.mp hsome
    rw [huses, hsome]
    rfl
  | false =>
    have hnone : (if s.info.usesGroupChannel then s.groupLevelValue else none) = none := by
      split
      next huses =>
        rw [readsGroup, huses, Bool.true_and] at hgroup
        exact Option.not_isSome_iff_eq_none.mp (by rw [hgroup]; exact Bool.false_ne_true)
      next => rfl
    have hcurrent : s.level.currentValue = s.reported := by
      rcases hbase.shows with hreads | hcurrent
      · cases hgroup.symm.trans hreads
      · exact hcurrent
    have hstored : s.level.storedValue = s.level.currentValue := by
      rcases hbase.unconfirmed with hreset | ⟨-, hsome⟩
      · exact DataPoint.storedValue_eq_currentValue hreset
      · refine if_neg fun hlater => ?_
        rw [unconfirmedShown, hgroup, if_neg Bool.false_ne_true, if_pos hlater] at hshown
        rw [hshown] at hsome
        cases hsome
    rw [hnone, hstored, hcurrent]

omit [DecidableEq L] in
theorem groupLevel_eq_unconfirmed (hidle : s.level.isOptimistic = false) {l : L}
    (hshown : s.unconfirmedShown = some l) : s.groupLevel = l := by
  have hvalue : s.level.value = s.level.storedValue := DataPoint.value_of_inactive hidle
  unfold unconfirmedShown at hshown
  split at hshown
  · cases hshown
  next hgroup =>
    split at hshown
    next hlater =>
      have hnone : (if s.info.usesGroupChannel then s.groupLevelValue else none) = none := by
        split
        next huses =>
          rw [readsGroup, huses, Bool.true_and] at hgroup
          exact Option.not_isSome_iff_eq_none.mp hgroup
        next => rfl
      have hstored : s.level.storedValue = some l := (if_pos hlater).trans hshown
      unfold groupLevel shown
      rw [hvalue, hnone, hstored]
      rfl
    next => cases hshown

/-- While no other command sets levels, a command that does not say a level takes the one that is
expected. -/
theorem Quiet.coordinate_level (h : Quiet n s) (hleft : s.OnlyLeft s.aimed)
    (htells : ∀ c ∈ s.tracked, Tells s.now c.sentAt lastCommandSendStoreTimeout) :
    (s.coordinate none s.level s.groupLevel).1.1 = s.expectedLevel := by
  have hkey : s.level.info.dpk = s.levelKey := by
    rw [h.levelInfo]
    rfl
  have hexpected := fun l => expectedLevel_of_left h.toBase hleft (l := l)
  unfold coordinate target
  dsimp only
  cases hactive : s.level.isOptimistic with
  | true =>
    obtain ⟨l, hl⟩ := Option.isSome_iff_exists.mp hactive
    have hvalue : s.level.value = some l := (if_pos hactive).trans hl
    rw [hvalue]
    exact hexpected l (.inl hl)
  | false =>
    have hnot : ∀ l, s.level.optimistic.value ≠ some l := by
      intro l hl
      rw [show s.level.isOptimistic = s.level.optimistic.value.isSome from rfl, hl] at hactive
      cases hactive
    unfold unconfirmedLastValueSend
    rw [hkey, h.notInFlight]
    rw [Bool.false_and, if_neg Bool.false_ne_true]
    dsimp only
    rw [CommandTracker.getLastValueSend_fst]
    have htracked : s.tracker.lastSendCommand.get? s.levelKey = s.tracked := rfl
    rw [htracked]
    cases hfresh : s.tracked.filter fun cached =>
        changedWithinSeconds s.now cached.sentAt lastCommandSendStoreTimeout with
    | some c =>
      obtain ⟨hc, hfresh⟩ := Option.filter_eq_some_iff.mp hfresh
      have hrecent := recent_of_fresh (h.sentAt c hc) (htells c hc) hfresh
      exact hexpected c.value (.inr (.inl ⟨c, hc, hrecent, rfl⟩))
    | none =>
      show s.groupLevel = s.expectedLevel
      cases hshown : s.unconfirmedShown with
      | some l =>
        rw [groupLevel_eq_unconfirmed hactive hshown]
        exact hexpected l (.inr (.inr hshown))
      | none =>
        rw [groupLevel_eq_reportedLevel h.toBase hactive hshown]
        unfold expectedLevel
        cases hm : s.movement with
        | none => rfl
        | some m =>
          refine (if_neg ?_).symm
          rintro (hrecent | hoptimistic | hunconfirmed)
          · have hc := h.recent m hm hrecent
            have hchanged := fresh_of_recent hrecent (h.sentAt m hc)
            rw [hc, Option.filter_some, if_pos hchanged] at hfresh
            cases hfresh
          · exact hnot _ hoptimistic
          · cases hshown.symm.trans hunconfirmed

/-- `_set_level` of a command that has the lock. -/
theorem Quiet.inv_setLevel (h : Quiet n s) (hleft : s.OnlyLeft s.aimed)
    {level tilt : Option L} (htells : level = none →
      ∀ c ∈ s.tracked, Tells s.now c.sentAt lastCommandSendStoreTimeout) :
    Inv (s.setLevel n level tilt) := by
  obtain ⟨hquiet, hsame⟩ := quiet_coordinate h level s.level s.groupLevel
  obtain ⟨hquiet', hsame'⟩ := quiet_coordinate hquiet tilt s.tilt s.groupTiltLevel
  have htiltOnly : ∀ e ∈ s.recorded level (s.coordinate level s.level s.groupLevel).1.1,
      e.level = e.expected := by
    unfold recorded
    cases level with
    | some value => exact h.tiltOnly
    | none =>
      intro e he
      rcases List.mem_append.mp he with he | he
      · exact h.tiltOnly e he
      · obtain rfl := List.mem_singleton.mp he
        exact h.coordinate_level hleft (htells rfl)
  have hleft' : OnlyLeft ((s.coordinate level s.level s.groupLevel).2.coordinate tilt s.tilt
      s.groupTiltLevel).2.aimed ((s.coordinate level s.level s.groupLevel).2.coordinate tilt s.tilt
      s.groupTiltLevel).2 := by
    intro l hl
    rw [hsame'.aimed, hsame.aimed]
    exact hleft l (hsame.left_iff.mp (hsame'.left_iff.mp hl))
  unfold setLevel
  dsimp only
  generalize (s.coordinate level s.level s.groupLevel).2.coordinate tilt s.tilt s.groupTiltLevel =
    forTilt at hquiet' hsame' hleft'
  have hrecorded : Quiet n { forTilt.2 with
      tiltOnly := s.recorded level (s.coordinate level s.level s.groupLevel).1.1 } :=
    ⟨{ hquiet'.toBase with tiltOnly := htiltOnly }, hquiet'.called, hquiet'.holder, hquiet'.others,
      hquiet'.notInFlight⟩
  split
  · exact hrecorded.inv_setCall (fun _ => hleft') nofun
  · refine hrecorded.inv_sendLevel (fun l hl m hm => ?_) _ _
    exact (hleft' l hl).trans (aimed_of_movement hm)

end Sends

end Blind

end AioHomematic.Model
