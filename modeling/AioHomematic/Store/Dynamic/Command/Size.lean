import AioHomematic.Lib.Nested
import AioHomematic.Store.Dynamic.Freshness

/-!
# The size of the command tracker

Room is made before commands are added, but not for all of them: a paramset may
hold more commands than there is room for, and `size_le_iff` says how many. What
goes to make room is the oldest, as far as `timedelta.seconds` tells the ages
apart (`oldestFirst_makeRoom`).
-/

namespace AioHomematic.Store

open Lib Support StepSystem

namespace CommandTracker

variable {V : Type*} (t : CommandTracker V)

def size : Nat := t.lastSendCommand.entries.length

/-- One command is not newer than another. -/
def notNewer (e e' : DataPointKey × CachedCommand V) : Bool := e.2.sentAt ≤ e'.2.sentAt

/-- The commands for data points that are not tracked yet. -/
def added (commands : List (DataPointKey × V)) : List (DataPointKey × V) :=
  commands.filter (·.1 ∉ t.lastSendCommand.keys)

/-- The commands fit after room has been made for them. -/
def Fits (now : Int) (commands : List (DataPointKey × V)) : Prop :=
  (t.makeRoom now).size + ((t.makeRoom now).added commands).length ≤ commandTrackerMaxSize

instance (now : Int) (commands : List (DataPointKey × V)) : Decidable (t.Fits now commands) :=
  inferInstanceAs (Decidable (_ ≤ _))

/-- What has gone is not newer than what is left. -/
def OldestFirst (t' : CommandTracker V) : Prop :=
  ∀ e ∈ t.lastSendCommand.entries, e ∉ t'.lastSendCommand.entries →
    ∀ e' ∈ t'.lastSendCommand.entries, e.2.sentAt ≤ e'.2.sentAt

/-- A command that is older than the maximum age counts as such. -/
def Told (now maxAge : Int) : Prop :=
  ∀ e ∈ t.lastSendCommand.entries,
    AgedAtMost now e.2.sentAt maxAge ∨ maxAge ≤ seconds (now - e.2.sentAt)

/-- Every command was sent between `INIT_DATETIME` and now. -/
def SentBy (now : Int) : Prop :=
  ∀ e ∈ t.lastSendCommand.entries, initDatetime ≤ e.2.sentAt ∧ e.2.sentAt ≤ now

variable {t} {now maxAge : Int} {commands : List (DataPointKey × V)}

/-! ## Sizes -/

theorem entries_without (keys : List DataPointKey) :
    (t.without keys).lastSendCommand.entries =
      t.lastSendCommand.entries.filter (·.1 ∉ keys) :=
  Dict.entries_foldl_erase keys t.lastSendCommand

theorem size_without_le (keys : List DataPointKey) : (t.without keys).size ≤ t.size :=
  Dict.length_foldl_erase_le keys t.lastSendCommand

theorem size_sent (now : Int) (hnodup : (commands.map Prod.fst).Nodup) :
    (t.sent now commands).size = t.size + (t.added commands).length := by
  induction commands generalizing t with
  | nil => rfl
  | cons e commands ih =>
    obtain ⟨hnew, hnodup⟩ := List.nodup_cons.mp hnodup
    have hkeys : (t.sent now [e]).lastSendCommand.keys = _ := Dict.keys_set ..
    have hadded : (t.sent now [e]).added commands = t.added commands := by
      refine List.filter_congr fun c hc => ?_
      have hne : c.1 ≠ e.1 := fun heq => hnew (heq ▸ List.mem_map_of_mem hc)
      rw [hkeys]
      split
      · rfl
      · simp [hne]
    have hsize : ∀ t' : CommandTracker V, t'.size = t'.lastSendCommand.keys.length :=
      fun t' => (List.length_map Prod.fst).symm
    change ((t.sent now [e]).sent now commands).size = _
    rw [ih hnodup, hadded, hsize, hkeys, hsize, added, added, List.filter_cons]
    by_cases hknown : e.1 ∈ t.lastSendCommand.keys
    · simp [hknown]
    · simp only [hknown, if_false, not_false_eq_true, decide_true, if_true, List.length_append,
        List.length_cons, List.length_nil]
      omega

theorem nodup_paramsetCommands (t : CommandTracker V) (channelAddress : String)
    (paramsetKey : ParamsetKey) (values : Dict String V) :
    ((t.paramsetCommands channelAddress paramsetKey values).map Prod.fst).Nodup := by
  have hkeys : (t.paramsetCommands channelAddress paramsetKey values).map Prod.fst =
      values.keys.map fun p => ⟨t.interfaceId, channelAddress, paramsetKey, p⟩ := by
    simp only [paramsetCommands, Dict.keys, List.map_map, Function.comp_def]
  rw [hkeys]
  exact List.Nodup.map (fun _ _ heq => (DataPointKey.mk.inj heq).2.2.2) values.nodup

theorem nodup_valueCommands (t : CommandTracker V) (combined : Option (Dict String V))
    (channelAddress parameter : String) (value : V) :
    ((t.valueCommands combined channelAddress parameter value).map Prod.fst).Nodup := by
  unfold valueCommands
  split
  · exact nodup_paramsetCommands ..
  · exact List.nodup_singleton _

/-! ## What goes -/

theorem oldestFirst_refl (t : CommandTracker V) : t.OldestFirst t :=
  fun _ he hgone => absurd he hgone

theorem oldestFirst_enforceSizeLimit (t : CommandTracker V) : t.OldestFirst t.enforceSizeLimit := by
  unfold enforceSizeLimit
  dsimp only
  split
  · intro e he hgone e' hkept
    have htrans : ∀ a b c : DataPointKey × CachedCommand V,
        notNewer a b → notNewer b c → notNewer a c := fun a b c hab hbc =>
      decide_eq_true (Int.le_trans (of_decide_eq_true hab) (of_decide_eq_true hbc))
    have htotal : ∀ a b : DataPointKey × CachedCommand V,
        (notNewer a b || notNewer b a) = true := fun a b => by
      simpa [notNewer] using Int.le_total a.2.sentAt b.2.sentAt
    exact of_decide_eq_true (Dict.le_of_evicted htrans htotal he hgone hkept)
  · exact oldestFirst_refl t

theorem mem_cleanupExpired {e : DataPointKey × CachedCommand V} :
    e ∈ (t.cleanupExpired now maxAge).lastSendCommand.entries ↔
      e ∈ t.lastSendCommand.entries ∧ changedWithinSeconds now e.2.sentAt maxAge = true := by
  rw [cleanupExpired, entries_without, List.mem_filter, decide_eq_true_eq]
  refine and_congr_right fun he => ?_
  constructor
  · intro hstays
    by_contra hexpired
    refine hstays (List.mem_map_of_mem (List.mem_filter.mpr ⟨he, ?_⟩))
    simpa using hexpired
  · intro hfresh hmem
    obtain ⟨e', he', hkey⟩ := List.mem_map.mp hmem
    obtain ⟨he', hexpired⟩ := List.mem_filter.mp he'
    obtain rfl : e' = e := List.inj_on_of_nodup_map t.lastSendCommand.nodup he' he hkey
    simp [hfresh] at hexpired

/-- What counts as expired is older than what does not, where every age is told. -/
theorem sentAt_le_of_told {sentAt sentAt' : Int} (hpast : sentAt ≤ now)
    (hepoch : initDatetime ≤ sentAt')
    (htold : AgedAtMost now sentAt' maxAge ∨ maxAge ≤ seconds (now - sentAt'))
    (hexpired : ¬ changedWithinSeconds now sentAt maxAge = true)
    (hfresh : changedWithinSeconds now sentAt' maxAge = true) : sentAt ≤ sentAt' := by
  have hfresh := (of_decide_eq_true hfresh).2
  by_cases hsentinel : sentAt = initDatetime
  · exact hsentinel ▸ hepoch
  have hold : maxAge ≤ seconds (now - sentAt) :=
    Int.not_lt.mp fun hlt => hexpired (decide_eq_true ⟨hsentinel, hlt⟩)
  have haged := htold.resolve_right (Int.not_le.mpr hfresh)
  simp only [seconds, microsecondsPerSecond, secondsPerDay, AgedAtMost] at hold haged
  omega

theorem oldestFirst_cleanupExpired (hsent : t.SentBy now) (htold : t.Told now maxAge) :
    t.OldestFirst (t.cleanupExpired now maxAge) := by
  intro e he hgone e' hkept
  obtain ⟨he', hfresh⟩ := mem_cleanupExpired.mp hkept
  exact sentAt_le_of_told (hsent e he).2 (hsent e' he').1 (htold e' he')
    (fun hfresh => hgone (mem_cleanupExpired.mpr ⟨he, hfresh⟩)) hfresh

/-- Where there are many commands, their ages are told. -/
def ToldIfMany (t : CommandTracker V) (now : Int) : Prop :=
  lastCommandSendTrackerCleanupThreshold < t.size → t.Told now lastCommandSendStoreTimeout

theorem oldestFirst_makeRoom (hsent : t.SentBy now) (htold : t.ToldIfMany now) :
    t.OldestFirst (t.makeRoom now) := by
  unfold makeRoom
  split
  next hmany =>
    -- A command goes because it is expired, or because it is among the oldest of the others.
    intro e he hgone e' hkept
    by_cases hfresh : e ∈ (t.cleanupExpired now lastCommandSendStoreTimeout).lastSendCommand.entries
    · exact oldestFirst_enforceSizeLimit _ e hfresh hgone e' hkept
    · refine oldestFirst_cleanupExpired hsent (htold hmany) e he hfresh e' ?_
      unfold enforceSizeLimit at hkept
      dsimp only at hkept
      split at hkept
      · rw [entries_without] at hkept
        exact (List.mem_filter.mp hkept).1
      · exact hkept
  · exact oldestFirst_enforceSizeLimit t

/-! ## Sent by now -/

theorem sentBy_later (h : t.SentBy now) {later : Int} (hle : now ≤ later) : t.SentBy later :=
  fun e he => ⟨(h e he).1, Int.le_trans (h e he).2 hle⟩

theorem sentBy_without (h : t.SentBy now) (keys : List DataPointKey) :
    (t.without keys).SentBy now := by
  intro e he
  rw [entries_without] at he
  exact h e (List.mem_filter.mp he).1

theorem sentBy_makeRoom (h : t.SentBy now) (now' : Int) : (t.makeRoom now').SentBy now := by
  have henforced : ∀ t' : CommandTracker V, t'.SentBy now → t'.enforceSizeLimit.SentBy now := by
    intro t' h'
    unfold enforceSizeLimit
    dsimp only
    split
    · exact sentBy_without h' _
    · exact h'
  unfold makeRoom
  split
  · exact henforced _ (sentBy_without h _)
  · exact henforced t h

theorem sentBy_sent (h : t.SentBy now) (hepoch : initDatetime ≤ now)
    (commands : List (DataPointKey × V)) : (t.sent now commands).SentBy now := by
  induction commands generalizing t with
  | nil => exact h
  | cons c commands ih =>
    refine ih (t := t.sent now [c]) fun e he => ?_
    have hmem := Nested.mem_entries_set.mp he
    split at hmem
    next => exact hmem ▸ ⟨hepoch, Int.le_refl now⟩
    next => exact h e hmem

end CommandTracker

/-! ## Runs -/

namespace Caches

variable {V : Type*} [DecidableEq V] (s : Caches V)

omit [DecidableEq V] in
/-- The commands that an action adds after it has made room for them. -/
def commandsAdded (s : Caches V) : CacheAction V → Option (List (DataPointKey × V))
  | .addPutParamset channelAddress paramsetKey values =>
    some (s.commands.paramsetCommands channelAddress paramsetKey values)
  | .addSetValue combined channelAddress parameter value =>
    match s.commands.valueCommands combined channelAddress parameter value with
    | [] => none
    | commands => some commands
  | _ => none

/-- There is room for the commands that are added. -/
def Roomy (a : Int × CacheAction V) : Prop :=
  ∀ commands ∈ s.commandsAdded a.2, s.commands.Fits a.1 commands

/-- The tracker when the action has removed what is expired or too much. -/
def afterEviction (a : Int × CacheAction V) : CommandTracker V :=
  match a.2 with
  | .cleanupExpired maxAge => s.commands.cleanupExpired a.1 maxAge
  | action => if (s.commandsAdded action).isSome then s.commands.makeRoom a.1 else s.commands

/-- The ages of the commands are told where an action looks at them. -/
def ToldApart (a : Int × CacheAction V) : Prop :=
  match a.2 with
  | .cleanupExpired maxAge => s.commands.Told a.1 maxAge
  | action => (s.commandsAdded action).isSome → s.commands.ToldIfMany a.1

instance : DecidableRel (Roomy (V := V)) := fun s a =>
  inferInstanceAs (Decidable (∀ commands ∈ s.commandsAdded a.2, s.commands.Fits a.1 commands))

variable {s} {interfaces : List String} {action : CacheAction V}

omit [DecidableEq V] in
theorem nodup_commandsAdded {commands : List (DataPointKey × V)}
    (h : s.commandsAdded action = some commands) : (commands.map Prod.fst).Nodup := by
  cases action with
  | addPutParamset =>
    cases h
    exact CommandTracker.nodup_paramsetCommands ..
  | addSetValue combined channelAddress parameter value =>
    have hnodup := s.commands.nodup_valueCommands combined channelAddress parameter value
    cases hcommands : s.commands.valueCommands combined channelAddress parameter value with
    | nil => simp [commandsAdded, hcommands] at h
    | cons e rest =>
      simp only [commandsAdded, hcommands, Option.some.injEq] at h
      rw [hcommands] at hnodup
      exact h ▸ hnodup
  | _ => cases h

theorem commands_run_of_added {commands : List (DataPointKey × V)}
    (h : s.commandsAdded action = some commands) :
    (s.run interfaces action).commands = (s.commands.makeRoom s.now).sent s.now commands := by
  cases action with
  | addPutParamset =>
    cases h
    rfl
  | addSetValue combined channelAddress parameter value =>
    simp only [run, CommandTracker.addSetValue]
    cases hcommands : s.commands.valueCommands combined channelAddress parameter value with
    | nil => simp [commandsAdded, hcommands] at h
    | cons e rest =>
      simp only [commandsAdded, hcommands, Option.some.injEq] at h
      exact h ▸ rfl
  | _ => cases h

variable (interfaces) in
/-- Without commands to add, the tracker only loses some. -/
theorem commands_run_of_not_added (h : s.commandsAdded action = none) :
    (s.run interfaces action).commands = s.commands ∨
      (∃ keys, (s.run interfaces action).commands = s.commands.without keys) ∨
      (s.run interfaces action).commands = { s.commands with lastSendCommand := .empty } := by
  have hremoved : ∀ dpk value maxAge,
      s.commands.removeLastValueSend s.now dpk value maxAge = s.commands ∨
        ∃ keys, s.commands.removeLastValueSend s.now dpk value maxAge =
          s.commands.without keys := by
    intro dpk value maxAge
    unfold CommandTracker.removeLastValueSend
    split
    · split
      · exact .inr ⟨_, rfl⟩
      · exact .inl rfl
    · exact .inl rfl
  cases action with
  | addPutParamset => cases h
  | addSetValue combined channelAddress parameter value =>
    cases hcommands : s.commands.valueCommands combined channelAddress parameter value with
    | nil =>
      refine .inl ?_
      simp only [run, CommandTracker.addSetValue, hcommands]
    | cons e rest => simp [commandsAdded, hcommands] at h
  | getLastValueSend dpk maxAge =>
    simp only [run, CommandTracker.getLastValueSend]
    split
    · split
      · exact .inl rfl
      · exact (hremoved dpk none maxAge).imp_right .inl
    · exact .inl rfl
  | removeLastValueSend dpk value maxAge => exact (hremoved dpk value maxAge).imp_right .inl
  | cleanupExpired => exact .inr (.inl ⟨_, rfl⟩)
  | clearCommands => exact .inr (.inr rfl)
  | clearData interface => cases interface <;> exact .inl rfl
  | _ => exact .inl rfl

theorem size_run_le_iff (h : s.commands.size ≤ commandTrackerMaxSize) :
    (s.run interfaces action).commands.size ≤ commandTrackerMaxSize ↔ s.Roomy (s.now, action) := by
  cases hadded : s.commandsAdded action with
  | some commands =>
    rw [commands_run_of_added hadded, CommandTracker.size_sent _ (nodup_commandsAdded hadded)]
    simp only [Roomy, hadded, Option.mem_some_iff, forall_eq', CommandTracker.Fits]
  | none =>
    refine iff_of_true ?_ (by simp [Roomy, hadded])
    rcases commands_run_of_not_added interfaces hadded with heq | ⟨keys, heq⟩ | heq
    · exact heq ▸ h
    · exact heq ▸ Nat.le_trans (CommandTracker.size_without_le keys) h
    · exact heq ▸ Nat.zero_le _

theorem sentBy_run (h : s.commands.SentBy s.now) (hepoch : initDatetime ≤ s.now) :
    (s.run interfaces action).commands.SentBy s.now := by
  cases hadded : s.commandsAdded action with
  | some commands =>
    rw [commands_run_of_added hadded]
    exact CommandTracker.sentBy_sent (CommandTracker.sentBy_makeRoom h _) hepoch commands
  | none =>
    rcases commands_run_of_not_added interfaces hadded with heq | ⟨keys, heq⟩ | heq
    · exact heq ▸ h
    · exact heq ▸ CommandTracker.sentBy_without h keys
    · exact heq ▸ nofun

omit [DecidableEq V] in
theorem oldestFirst_afterEviction (hsent : s.commands.SentBy s.now)
    (htold : s.ToldApart (s.now, action)) :
    s.commands.OldestFirst (s.afterEviction (s.now, action)) := by
  unfold afterEviction ToldApart at *
  cases action with
  | cleanupExpired maxAge => exact CommandTracker.oldestFirst_cleanupExpired hsent htold
  | _ =>
    dsimp only at htold ⊢
    split
    next hadded => exact CommandTracker.oldestFirst_makeRoom hsent (htold hadded)
    next => exact CommandTracker.oldestFirst_refl _

/-- As long as every batch finds room the tracker keeps its limit, and only such a batch exceeds
it; what goes where the ages are told is the oldest. -/
theorem sized_of_reach {start : Nat} {interfaceId : String} (s : Caches V)
    (h : (system interfaces start interfaceId).Reach Roomy s) :
    s.commands.size ≤ commandTrackerMaxSize ∧
      ∀ a t, (system interfaces start interfaceId).step s a = some t →
        (t.commands.size ≤ commandTrackerMaxSize ↔ s.Roomy a) ∧
        (s.ToldApart a → s.commands.OldestFirst (s.afterEviction a)) := by
  have hstep : ∀ (s : Caches V) a t, (system interfaces start interfaceId).step s a = some t →
      s.now ≤ a.1 ∧ t = { s with now := a.1 }.run interfaces a.2 := by
    intro s a t hs
    simp only [system] at hs
    split at hs
    · cases hs
    · exact ⟨Int.not_lt.mp ‹_›, (Option.some.inj hs).symm⟩
  have hinv : (s.commands.size ≤ commandTrackerMaxSize) ∧ s.commands.SentBy s.now ∧
      initDatetime ≤ s.now := by
    refine h.invariant (P := fun s => s.commands.size ≤ commandTrackerMaxSize ∧
      s.commands.SentBy s.now ∧ initDatetime ≤ s.now)
      ⟨Nat.zero_le _, fun _ he => absurd he List.not_mem_nil, Int.natCast_nonneg start⟩ ?_
    rintro s a t ⟨hsize, hsent, hepoch⟩ hroomy hs
    obtain ⟨hlater, rfl⟩ := hstep s a t hs
    have hnow : (Caches.run { s with now := a.1 } interfaces a.2).now = a.1 := by
      cases a.2 with
      | clearData interface => cases interface <;> rfl
      | _ => rfl
    refine ⟨(size_run_le_iff (s := { s with now := a.1 }) hsize).mpr hroomy, ?_, ?_⟩
    · rw [hnow]
      exact sentBy_run (s := { s with now := a.1 }) (CommandTracker.sentBy_later hsent hlater)
        (Int.le_trans hepoch hlater)
    · rw [hnow]
      exact Int.le_trans hepoch hlater
  obtain ⟨hsize, hsent, -⟩ := hinv
  refine ⟨hsize, fun a t hs => ?_⟩
  obtain ⟨hlater, rfl⟩ := hstep s a t hs
  exact ⟨size_run_le_iff (s := { s with now := a.1 }) hsize,
    oldestFirst_afterEviction (s := { s with now := a.1 })
      (CommandTracker.sentBy_later hsent hlater)⟩

/-- A paramset and then a value. -/
theorem sized_of_reach_two : ∃ s : Caches Nat, s.commands.size = 2 ∧
    s.commands.size ≤ commandTrackerMaxSize ∧
    ∀ a t, (system [] (0 : Nat) "HmIP-RF").step s a = some t →
      (t.commands.size ≤ commandTrackerMaxSize ↔ s.Roomy a) ∧
      (s.ToldApart a → s.commands.OldestFirst (s.afterEviction a)) := by
  obtain ⟨s, hs, hsize⟩ := replay_any (p := fun s : Caches Nat => s.commands.size = 2)
    (show ((system [] (0 : Nat) "HmIP-RF").replay Roomy
      (system [] (0 : Nat) "HmIP-RF").init
      [(1000000, .addPutParamset "0001D3C99C6AB3:1" .values (Dict.empty.set "LEVEL" 1)),
        (2000000, .addSetValue none "0001D3C99C6AB3:1" "STATE" 1)]).any _ = true
      by decide +kernel)
  exact ⟨s, hsize, sized_of_reach s (reach_of_replay hs)⟩

/-- A day and five seconds old, a command stays while one goes that was sent a minute ago. -/
theorem not_oldestFirst_day_old : ∃ s : Caches Nat, (system [] 0 "HmIP-RF").Reach Free s ∧
    s.now ≤ oneDayLater ∧ ¬ s.commands.OldestFirst
      (s.afterEviction (oneDayLater, .cleanupExpired lastCommandSendStoreTimeout)) := by
  obtain ⟨s, hs, hlater, e, he, e', he', hgone, hkept, hnewer⟩ := replay_any
    (p := fun s : Caches Nat => s.now ≤ oneDayLater ∧
      ∃ e ∈ s.commands.lastSendCommand.entries, ∃ e' ∈ s.commands.lastSendCommand.entries,
        e ∉ (s.commands.cleanupExpired oneDayLater
          lastCommandSendStoreTimeout).lastSendCommand.entries ∧
        e' ∈ (s.commands.cleanupExpired oneDayLater
          lastCommandSendStoreTimeout).lastSendCommand.entries ∧ e'.2.sentAt < e.2.sentAt)
    (show ((system [] 0 "HmIP-RF").replay Free (system [] 0 "HmIP-RF").init
      [(1000000, .addSetValue none "0001D3C99C6AB3:1" "STATE" 1),
        (oneDayLater - 61000000, .addSetValue none "0001D3C99C6AB3:2" "STATE" 1)]).any _ = true
      by decide +kernel)
  exact ⟨s, reach_of_replay hs, hlater,
    fun h => absurd (h e he hgone e' hkept) (Int.not_le.mpr hnewer)⟩

/-! ### A schedule in one paramset -/

/-- As many parameters as a number says. -/
def parameters (n : Nat) : Dict String Nat where
  entries := (List.range n).map fun i => ("P1_TEMPERATURE_MONDAY_" ++ i.repr, 0)
  nodup := by
    rw [List.map_map]
    refine List.Nodup.map (fun i j heq => ?_) List.nodup_range
    have hrepr : i.repr.toList = j.repr.toList := by
      have happ := congrArg String.toList heq
      simp only [Function.comp_apply, String.toList_append] at happ
      exact List.append_cancel_left happ
    rw [Nat.toList_repr, Nat.toList_repr] at hrepr
    rw [← Nat.ofDigitChars_ten_toDigits (n := i), hrepr, Nat.ofDigitChars_ten_toDigits]

/-- More parameters at once than commands are tracked. -/
theorem not_sized_put_paramset : ∃ s : Caches Nat, (system [] 0 "HmIP-RF").Reach Free s ∧
    ¬ s.commands.size ≤ commandTrackerMaxSize := by
  let a : CacheAction Nat := .addPutParamset "0001D3C99C6AB3:1" .master (parameters 501)
  let s : Caches Nat := { now := 1000000, commands := { interfaceId := "HmIP-RF" } }
  refine ⟨s.run [] a, Reach.init.step (a := (1000000, a)) trivial rfl, fun h => ?_⟩
  have hiff : (s.run [] a).commands.size ≤ commandTrackerMaxSize ↔ s.Roomy (s.now, a) :=
    size_run_le_iff (Nat.zero_le _)
  have hroomy := hiff.mp h
  have hfits : 0 + (List.filter _ _).length ≤ 500 := hroomy _ rfl
  rw [List.filter_eq_self.mpr (by intro e _; exact decide_eq_true nofun)] at hfits
  simp [CommandTracker.paramsetCommands, parameters] at hfits

end Caches

end AioHomematic.Store
