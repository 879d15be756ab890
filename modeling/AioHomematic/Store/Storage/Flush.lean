import AioHomematic.Store.Storage.Delayed

/-!
# What a flush and a removal leave behind

The requests reach the file in the order of their numbers as long as the pending
data are those of the last request when they are taken. `Valid` says that the
data in the slot and at the lock are those of their requests, `Ordered` that the
lock lines them up, `Current` what has come of the last request and of the
removals.
-/

namespace AioHomematic.Store

open Lib StepSystem

variable {W D F : Type*}

/-! ## Numbers -/

/-- Requests are numbered from 1. -/
def requestAt (requests : List (Request W D)) : Nat → Option (Request W D)
  | 0 => none
  | n + 1 => requests[n]?

section RequestAt

variable {requests : List (Request W D)} {r r' : Request W D} {n : Nat}

theorem requestAt_append (h : requestAt requests n = some r) (later : List (Request W D)) :
    requestAt (requests ++ later) n = some r := by
  cases n with
  | zero => cases h
  | succ n =>
    rw [requestAt] at h ⊢
    rw [List.getElem?_append_left (List.getElem?_eq_some_iff.mp h).1, h]

theorem requestAt_concat : requestAt (requests ++ [r]) (requests.length + 1) = some r :=
  List.getElem?_concat_length

theorem le_of_requestAt (h : requestAt requests n = some r) : n ≤ requests.length := by
  cases n with
  | zero => exact Nat.zero_le _
  | succ n => exact (List.getElem?_eq_some_iff.mp h).1

theorem requestAt_concat_cases (h : requestAt (requests ++ [r]) n = some r') :
    requestAt requests n = some r' ∨ n = requests.length + 1 ∧ r' = r := by
  cases n with
  | zero => cases h
  | succ n =>
    rw [requestAt, List.getElem?_append] at h
    split at h
    · exact .inl h
    next hle =>
      have hlt := (List.getElem?_eq_some_iff.mp h).1
      rw [List.length_singleton] at hlt
      have hn : n = requests.length := by omega
      subst hn
      rw [Nat.sub_self] at h
      exact .inr ⟨rfl, (Option.some.inj h).symm⟩

end RequestAt

/-- The numbers in the files. -/
def written (files : Files (Nat × F)) : List Nat :=
  files.json.toList.map Prod.fst ++ files.zip.toList.map Prod.fst

theorem mem_written_save {asZip : Bool} {files : Files (Nat × F)} {file : Nat × F} {m : Nat}
    (h : m ∈ written (files.save asZip file)) : m = file.1 ∨ m ∈ written files := by
  unfold Files.save written at h
  split at h
  · rw [List.mem_append] at h
    rcases h with h | h
    · exact .inr (List.mem_append.mpr (.inl h))
    · exact .inl (List.mem_singleton.mp h)
  · rw [List.mem_append] at h
    rcases h with h | h
    · exact .inl (List.mem_singleton.mp h)
    · exact .inr (List.mem_append.mpr (.inr h))

theorem mem_written_remove {files : Files (Nat × F)} {m : Nat} (h : m ∈ written files.remove) :
    m ∈ written files :=
  List.mem_append.mpr (.inr h)

theorem mem_written_of_target {asZip : Bool} {files : Files (Nat × F)} {file : Nat × F}
    (h : files.target asZip = some file) : file.1 ∈ written files := by
  unfold Files.target at h
  split at h
  · exact List.mem_append.mpr (.inr (by simp [h]))
  · exact List.mem_append.mpr (.inl (by simp [h]))

theorem target_save (asZip : Bool) (files : Files (Nat × F)) (file : Nat × F) :
    (files.save asZip file).target asZip = some file := by
  unfold Files.save Files.target
  split <;> rfl

/-- The requests at the lock that are not carried out yet. -/
def waiting (lock : List (NumberedEntry D F)) : List Nat :=
  (lock.filter fun entry => entry.result.isNone).filterMap LockEntry.number

section Waiting

variable {entry : NumberedEntry D F} {lock : List (NumberedEntry D F)}

theorem waiting_concat (h : entry.result = none) :
    waiting (lock ++ [entry]) = waiting lock ++ entry.number.toList := by
  rw [waiting, List.filter_append, List.filterMap_append, ← waiting]
  cases hnumber : entry.number with
  | none => simp [h, hnumber]
  | some n => simp [h, hnumber]

theorem waiting_cons (h : entry.result = none) :
    waiting (entry :: lock) = entry.number.toList ++ waiting lock := by
  rw [waiting, List.filter_cons_of_pos (by simp [h]), List.filterMap_cons]
  cases hnumber : entry.number with
  | none => rfl
  | some n => rfl

theorem waiting_cons_of_some {result : JobResult (Nat × F)} (h : entry.result = some result) :
    waiting (entry :: lock) = waiting lock := by
  rw [waiting, List.filter_cons_of_neg (by simp [h]), waiting]

end Waiting

/-! ## Data -/

/-- An entry at the lock is what a request asked for. -/
def Asks (requests : List (Request W D)) (entry : NumberedEntry D F) : Prop :=
  match entry.job with
  | .save data => ∃ r, requestAt requests data.1 = some r ∧ r.Gives data.2
  | .remove => ∃ n, entry.caller = .request n ∧ requestAt requests n = some .remove
  | .load => True

theorem Asks.append {requests : List (Request W D)} {entry : NumberedEntry D F}
    (h : Asks requests entry) (later : List (Request W D)) : Asks (requests ++ later) entry := by
  unfold Asks at h ⊢
  split at h
  · obtain ⟨r, hr, hgives⟩ := h
    exact ⟨r, requestAt_append hr later, hgives⟩
  · obtain ⟨n, hcaller, hr⟩ := h
    exact ⟨n, hcaller, requestAt_append hr later⟩
  · trivial

/-- The entry that carries out a removal. -/
theorem Asks.of_remove {requests : List (Request W D)} {entry : NumberedEntry D F} {n : Nat}
    (h : Asks requests entry) (hnumber : entry.number = some n)
    (hn : requestAt requests n = some .remove) :
    entry.job = .remove ∧ entry.caller = .request n := by
  unfold Asks at h
  unfold LockEntry.number at hnumber
  split at h
  next data hjob =>
    rw [hjob] at hnumber
    cases hnumber
    obtain ⟨r, hr, hgives⟩ := h
    cases hr.symm.trans hn
    cases hgives
  next hjob =>
    obtain ⟨n', hcaller, -⟩ := h
    rw [hjob, hcaller] at hnumber
    cases hnumber
    exact ⟨hjob, hcaller⟩
  next hjob =>
    rw [hjob] at hnumber
    cases hnumber

namespace Traffic

variable {config : StorageConfig W D F} {v v' : Traffic W D F}

structure Valid (v : Traffic W D F) : Prop where
  pending : ∀ f, v.pending = some f →
    ∃ n dataFunc, requestAt v.requests n = some (.delaySave dataFunc) ∧ f = fun w => (n, dataFunc w)
  entries : ∀ entry ∈ v.lock, Asks v.requests entry
  flushes : ∀ entry ∈ v.lock, ∀ made, entry.caller = .flush made → entry.saves = some made
  files : ∀ m ∈ written v.files, m = 0 ∨
    ∃ r, requestAt v.requests m = some r ∧ r.isRemoval = false

/-- More requests and another entry at the lock. -/
theorem Valid.acquire (h : v.Valid) (later : List (Request W D)) {e : NumberedEntry D F}
    (hentry : Asks (v.requests ++ later) e)
    (hflush : ∀ made, e.caller = .flush made → e.saves = some made) :
    Valid { v with requests := v.requests ++ later, lock := v.lock ++ [e] } where
  pending f hf := by
    obtain ⟨n, dataFunc, hr, rfl⟩ := h.pending f hf
    exact ⟨n, dataFunc, requestAt_append hr later, rfl⟩
  entries entry hmem := by
    rcases List.mem_append.mp hmem with hmem | hmem
    · exact (h.entries entry hmem).append later
    · rw [List.mem_singleton.mp hmem]
      exact hentry
  flushes entry hmem := by
    rcases List.mem_append.mp hmem with hmem | hmem
    · exact h.flushes entry hmem
    · rw [List.mem_singleton.mp hmem]
      exact hflush
  files m hm := by
    rcases h.files m hm with hzero | ⟨r, hr, hsaves⟩
    · exact .inl hzero
    · exact .inr ⟨r, requestAt_append hr later, hsaves⟩

theorem Valid.move (h : v.Valid) (hmove : v.Move config v') : v'.Valid := by
  cases hmove with
  | quiet => exact h
  | save data =>
    exact h.acquire [.save data] ⟨.save data, requestAt_concat, rfl⟩
      fun _ hcaller => by cases hcaller
  | delaySave dataFunc =>
    have hlater := h.acquire [.delaySave dataFunc] (e := { job := .load, caller := .load }) trivial
      fun _ hcaller => by cases hcaller
    refine ⟨fun f hf => ?_, fun e he => (h.entries e he).append _, h.flushes, hlater.files⟩
    cases hf
    exact ⟨_, dataFunc, requestAt_concat, rfl⟩
  | remove =>
    exact h.acquire [.remove] ⟨_, rfl, requestAt_concat⟩ fun _ hcaller => by cases hcaller
  | load =>
    have hload := h.acquire [] (e := { job := .load, caller := .load }) trivial
      fun _ hcaller => by cases hcaller
    rw [List.append_nil] at hload
    exact hload
  | take dataFunc w caller hpending hlatest hcaller =>
    obtain ⟨n, g, hr, rfl⟩ := h.pending dataFunc hpending
    have htake := h.acquire [] (e := { job := .save (n, g w), caller })
      ⟨.delaySave g, requestAt_append hr [], w, rfl⟩ fun made hmade => by
        rcases hcaller with rfl | rfl
        · cases hmade
        · cases hmade
          exact congrArg some hlatest
    rw [List.append_nil] at htake
    refine ⟨fun f hf => ?_, htake.entries, htake.flushes, htake.files⟩
    cases hf
  | work entry lock w hlock hresult hremoves =>
    have hmem : ∀ e ∈ lock, e ∈ v.lock := fun e he => hlock ▸ List.mem_cons_of_mem entry he
    have hentry : entry ∈ v.lock := hlock ▸ List.mem_cons_self
    refine ⟨h.pending, fun e he => ?_, fun e he => ?_, fun m hm => ?_⟩
    · rcases List.mem_cons.mp he with rfl | he
      · exact h.entries entry hentry
      · exact h.entries e (hmem e he)
    · rcases List.mem_cons.mp he with rfl | he
      · exact h.flushes entry hentry
      · exact h.flushes e (hmem e he)
    · have hasks := h.entries entry hentry
      unfold Asks at hasks
      unfold Storage.runJob at hm
      split at hm
      next data hjob =>
        rw [hjob] at hasks
        obtain ⟨r, hr, hgives⟩ := hasks
        rcases mem_written_save hm with rfl | hm
        · refine .inr ⟨r, hr, ?_⟩
          cases r with
          | save => rfl
          | delaySave => rfl
          | remove => cases hgives
        · exact h.files m hm
      · exact h.files m (mem_written_remove hm)
      · exact h.files m hm
  | resume entry lock result hlock hresult =>
    have hmem : ∀ e ∈ lock, e ∈ v.lock := fun e he => hlock ▸ List.mem_cons_of_mem entry he
    exact ⟨h.pending, fun e he => h.entries e (hmem e he), fun e he => h.flushes e (hmem e he),
      h.files⟩

/-! ## Order -/

structure Ordered (v : Traffic W D F) : Prop where
  /-- Only the head of the lock has had its turn. -/
  tail : ∀ entry ∈ v.lock.tail, entry.result = none
  ordered : (waiting v.lock).Pairwise (· < ·)
  older : ∀ m ∈ written v.files, ∀ n ∈ waiting v.lock, m < n
  made : ∀ n, n ∈ written v.files ∨ n ∈ waiting v.lock → n ≤ v.requests.length
  pending : ∀ f, v.pending = some f → ∀ w, (f w).1 ≤ v.requests.length ∧
    (f w).1 ∉ written v.files ∧ (f w).1 ∉ waiting v.lock

/-- An entry at the lock with a new number, if any. -/
theorem Ordered.acquire (h : v.Ordered) (later : List (Request W D)) {e : NumberedEntry D F}
    (hresult : e.result = none)
    (hnew : ∀ n, e.number = some n → n ≤ (v.requests ++ later).length ∧
      (∀ m ∈ written v.files, m < n) ∧ ∀ m ∈ waiting v.lock, m < n)
    (pending : Option (W → Nat × D)) (hpending : ∀ f, pending = some f →
      v.pending = some f ∧ ∀ w n, e.number = some n → (f w).1 ≠ n) :
    Ordered { requests := v.requests ++ later, pending, lock := v.lock ++ [e],
              files := v.files } where
  tail entry hmem := by
    dsimp only at hmem
    cases hlock : v.lock with
    | nil => rw [hlock] at hmem; cases hmem
    | cons head lock =>
      rw [hlock, List.cons_append, List.tail_cons, List.mem_append] at hmem
      rcases hmem with hmem | hmem
      · exact h.tail entry (hlock ▸ hmem)
      · rw [List.mem_singleton.mp hmem]
        exact hresult
  ordered := by
    dsimp only
    rw [waiting_concat hresult, List.pairwise_append]
    refine ⟨h.ordered, by cases e.number <;> simp, fun m hm n hn => ?_⟩
    exact (hnew n (Option.mem_toList.mp hn)).2.2 m hm
  older m hm n hn := by
    dsimp only at hn
    rw [waiting_concat hresult, List.mem_append, Option.mem_toList] at hn
    rcases hn with hn | hn
    · exact h.older m hm n hn
    · exact (hnew n hn).2.1 m hm
  made n hn := by
    dsimp only at hn
    rw [waiting_concat hresult, List.mem_append, Option.mem_toList, ← or_assoc] at hn
    rcases hn with hn | hn
    · have hle := h.made n hn
      dsimp only
      rw [List.length_append]
      omega
    · exact (hnew n hn).1
  pending f hf w := by
    obtain ⟨hf, hne⟩ := hpending f hf
    obtain ⟨hle, hwritten, hwaiting⟩ := h.pending f hf w
    dsimp only
    rw [waiting_concat hresult, List.mem_append, Option.mem_toList, List.length_append]
    refine ⟨by omega, hwritten, ?_⟩
    rintro (hmem | hmem)
    · exact hwaiting hmem
    · exact hne w _ hmem rfl

theorem Ordered.move (h : v.Ordered) (hmove : v.Move config v') : v'.Ordered := by
  have hnew : ∀ (r : Request W D) (n : Nat), some (v.requests.length + 1) = some n →
      n ≤ (v.requests ++ [r]).length ∧ (∀ m ∈ written v.files, m < n) ∧
        ∀ m ∈ waiting v.lock, m < n := by
    rintro r n hn
    cases hn
    rw [List.length_append]
    exact ⟨Nat.le_refl _, fun m hm => Nat.lt_succ_of_le (h.made m (.inl hm)),
      fun m hm => Nat.lt_succ_of_le (h.made m (.inr hm))⟩
  have hpending : ∀ f, v.pending = some f → v.pending = some f ∧
      ∀ w n, some (v.requests.length + 1) = some n → (f w).1 ≠ n := by
    rintro f hf
    refine ⟨hf, fun w n hn heq => ?_⟩
    cases hn
    have hle := (h.pending f hf w).1
    omega
  cases hmove with
  | quiet => exact h
  | save data =>
    exact h.acquire [.save data] (e := { job := .save (v.requests.length + 1, data)
                                         caller := .request (v.requests.length + 1) })
      rfl (hnew _) v.pending hpending
  | delaySave dataFunc =>
    have hlength : (v.requests ++ [Request.delaySave dataFunc]).length = v.requests.length + 1 :=
      List.length_append
    refine ⟨h.tail, h.ordered, h.older, fun n hn => ?_, fun f hf w => ?_⟩
    · have hle := h.made n hn
      dsimp only
      omega
    · cases hf
      dsimp only
      refine ⟨by omega, fun hmem => ?_, fun hmem => ?_⟩
      · have hle := h.made _ (.inl hmem)
        omega
      · have hle := h.made _ (.inr hmem)
        omega
  | remove =>
    exact h.acquire [.remove] (e := { job := .remove
                                      caller := .request (v.requests.length + 1) })
      rfl (hnew _) v.pending hpending
  | load =>
    have hload := h.acquire [] (e := { job := .load, caller := .load }) rfl
      (fun _ hn => by cases hn) v.pending fun f hf => ⟨hf, fun _ _ hn => by cases hn⟩
    rw [List.append_nil] at hload
    exact hload
  | take dataFunc w caller hpending hlatest hcaller =>
    obtain ⟨hle, hwritten, hwaiting⟩ := h.pending dataFunc hpending w
    have htake := h.acquire [] (e := { job := .save (dataFunc w), caller }) rfl
      (fun n hn => by
        cases hn
        rw [List.append_nil]
        refine ⟨hle, fun m hm => ?_, fun m hm => ?_⟩
        · have hmade := h.made m (.inl hm)
          have hne := ne_of_mem_of_not_mem hm hwritten
          omega
        · have hmade := h.made m (.inr hm)
          have hne := ne_of_mem_of_not_mem hm hwaiting
          omega)
      none fun f hf => by cases hf
    rw [List.append_nil] at htake
    exact htake
  | work entry lock w hlock hresult hremoves =>
    have hwaiting : waiting v.lock = entry.number.toList ++ waiting lock := by
      rw [hlock, waiting_cons hresult]
    have hwritten : ∀ m ∈ written (Storage.runJob config.numbered w v.files true entry.job).1,
        entry.number = some m ∨ m ∈ written v.files := by
      intro m hm
      unfold Storage.runJob at hm
      split at hm
      next data hjob =>
        rcases mem_written_save hm with rfl | hm
        · exact .inl (by simp only [LockEntry.number, hjob]; rfl)
        · exact .inr hm
      · exact .inr (mem_written_remove hm)
      · exact .inr hm
    have hordered := h.ordered
    rw [hwaiting, List.pairwise_append] at hordered
    have hmem : ∀ n ∈ waiting lock, n ∈ waiting v.lock := fun n hn =>
      hwaiting ▸ List.mem_append_right _ hn
    have hnumber : ∀ n, entry.number = some n → n ∈ waiting v.lock := fun n hn =>
      hwaiting ▸ List.mem_append_left _ (Option.mem_toList.mpr hn)
    refine ⟨fun e he => h.tail e (hlock ▸ he), ?_, fun m hm n hn => ?_, fun n hn => ?_,
      fun f hf w' => ?_⟩
    · dsimp only
      rw [waiting_cons_of_some rfl]
      exact hordered.2.1
    · dsimp only at hn
      rw [waiting_cons_of_some rfl] at hn
      rcases hwritten m hm with hm | hm
      · exact hordered.2.2 m (Option.mem_toList.mpr hm) n hn
      · exact h.older m hm n (hmem n hn)
    · dsimp only at hn
      rw [waiting_cons_of_some rfl] at hn
      rcases hn with hn | hn
      · rcases hwritten n hn with hn | hn
        · exact h.made n (.inr (hnumber n hn))
        · exact h.made n (.inl hn)
      · exact h.made n (.inr (hmem n hn))
    · obtain ⟨hle, hnotWritten, hnotWaiting⟩ := h.pending f hf w'
      dsimp only
      rw [waiting_cons_of_some rfl]
      refine ⟨hle, fun hm => ?_, fun hm => hnotWaiting (hmem _ hm)⟩
      rcases hwritten _ hm with hm | hm
      · exact hnotWaiting (hnumber _ hm)
      · exact hnotWritten hm
  | resume entry lock result hlock hresult =>
    have hwaiting : waiting v.lock = waiting lock := by
      rw [hlock, waiting_cons_of_some hresult]
    have htail : ∀ e ∈ lock, e.result = none := fun e he => h.tail e (by rw [hlock]; exact he)
    refine ⟨fun e he => htail e (List.mem_of_mem_tail he), ?_, ?_, ?_, ?_⟩
    · exact hwaiting ▸ h.ordered
    · exact hwaiting ▸ h.older
    · exact hwaiting ▸ h.made
    · exact hwaiting ▸ h.pending

/-! ## What has come of the requests -/

/-- The file is that of this request. -/
def Holds (config : StorageConfig W D F) (v : Traffic W D F) (n : Nat) : Prop :=
  ∃ r data w, requestAt v.requests n = some r ∧ r.Gives data ∧
    v.files.target config.asZip = some (n, config.toSave w data)

/-- The last request is pending, at the lock, or in the file. -/
def LastKept (config : StorageConfig W D F) (v : Traffic W D F) : Prop :=
  ∀ r, requestAt v.requests v.requests.length = some r → r.isRemoval = false →
    (∃ f, v.pending = some f ∧ ∀ w, (f w).1 = v.requests.length) ∨
      v.requests.length ∈ waiting v.lock ∨ v.Holds config v.requests.length

/-- What a removal has left behind is newer than the removal. -/
def RemovalsKept (v : Traffic W D F) : Prop :=
  ∀ n, requestAt v.requests n = some .remove →
    n ∈ waiting v.lock ∨ (∀ m ∈ written v.files, n < m) ∧ ∀ m ∈ waiting v.lock, n < m

/-- What the holder of the lock has written is still there. -/
def HeadKept (config : StorageConfig W D F) (v : Traffic W D F) : Prop :=
  ∀ entry lock, v.lock = entry :: lock → entry.result ≠ none → ∀ data, entry.job = .save data →
    ∃ w, v.files.target config.asZip = some (data.1, config.toSave w data.2)

theorem Holds.mem_written {n : Nat} (h : v.Holds config n) : n ∈ written v.files := by
  obtain ⟨_, _, _, -, -, htarget⟩ := h
  exact mem_written_of_target htarget

/-- Who carries out a request that is no removal saves its data. -/
theorem saves_of_number {requests : List (Request W D)} {e : NumberedEntry D F}
    (hasks : Asks requests e) {n : Nat} (hn : e.number = some n) {r : Request W D}
    (hr : requestAt requests n = some r) (hsaves : r.isRemoval = false) :
    ∃ data, e.job = .save data ∧ data.1 = n ∧ r.Gives data.2 := by
  unfold Asks at hasks
  unfold LockEntry.number at hn
  split at hasks
  next data hjob =>
    rw [hjob] at hn
    cases hn
    obtain ⟨r', hr', hgives⟩ := hasks
    cases hr.symm.trans hr'
    exact ⟨data, hjob, rfl, hgives⟩
  next hjob =>
    obtain ⟨n', hcaller, hremove⟩ := hasks
    rw [hjob, hcaller] at hn
    cases hn
    cases hr.symm.trans hremove
    cases hsaves
  next hjob =>
    rw [hjob] at hn
    cases hn

theorem mem_waiting_concat {lock : List (NumberedEntry D F)} {e : NumberedEntry D F}
    (hresult : e.result = none) {n : Nat} (hn : e.number = some n) :
    n ∈ waiting (lock ++ [e]) := by
  rw [waiting_concat hresult]
  exact List.mem_append_right _ (Option.mem_toList.mpr hn)

theorem LastKept.move (h : v.LastKept config) (hvalid : v.Valid) (hordered : v.Ordered)
    (hmove : v.Move config v') : v'.LastKept config := by
  cases hmove with
  | quiet => exact h
  | save data =>
    intro r _ _
    refine .inr (.inl ?_)
    dsimp only
    rw [List.length_append]
    exact mem_waiting_concat rfl rfl
  | delaySave dataFunc =>
    intro r _ _
    refine .inl ⟨_, rfl, fun w => ?_⟩
    dsimp only
    rw [List.length_append]
    rfl
  | remove =>
    intro r hr hsaves
    dsimp only at hr
    rw [List.length_append, List.length_singleton, requestAt_concat] at hr
    cases hr
    cases hsaves
  | load =>
    intro r hr hsaves
    rcases h r hr hsaves with hpending | hmem | hholds
    · exact .inl hpending
    · refine .inr (.inl ?_)
      dsimp only
      rw [waiting_concat rfl]
      exact List.mem_append_left _ hmem
    · exact .inr (.inr hholds)
  | take dataFunc w caller hpending hlatest hcaller =>
    intro r hr hsaves
    exact .inr (.inl (mem_waiting_concat rfl (congrArg some hlatest)))
  | work entry lock w hlock hresult hremoves =>
    intro r hr hsaves
    have hwaiting : waiting v.lock = entry.number.toList ++ waiting lock := by
      rw [hlock, waiting_cons hresult]
    have hasks := hvalid.entries entry (hlock ▸ List.mem_cons_self)
    rcases h r hr hsaves with hpending | hmem | hholds
    · exact .inl hpending
    · rw [hwaiting, List.mem_append, Option.mem_toList] at hmem
      rcases hmem with hnumber | hmem
      · obtain ⟨data, hjob, hdata, hgives⟩ := saves_of_number hasks hnumber hr hsaves
        refine .inr (.inr ⟨r, data.2, w, hr, hgives, ?_⟩)
        simp only [Storage.runJob, hjob, if_true]
        rw [← hdata]
        exact target_save ..
      · refine .inr (.inl ?_)
        dsimp only
        rw [waiting_cons_of_some rfl]
        exact hmem
    · have hnumber : entry.number = none := by
        cases hn : entry.number with
        | none => rfl
        | some n =>
          have hmem : n ∈ waiting v.lock := by rw [hwaiting, hn]; exact List.mem_cons_self
          have hlt := hordered.older _ hholds.mem_written n hmem
          have hle := hordered.made n (.inr hmem)
          omega
      have hjob : entry.job = .load := by
        unfold LockEntry.number at hnumber
        unfold Asks at hasks
        split at hasks
        next hjob => rw [hjob] at hnumber; cases hnumber
        next hjob =>
          obtain ⟨n, hcaller, -⟩ := hasks
          rw [hjob, hcaller] at hnumber
          cases hnumber
        next hjob => exact hjob
      refine .inr (.inr ?_)
      simpa only [Holds, Storage.runJob, hjob, if_true] using hholds
  | resume entry lock result hlock hresult =>
    intro r hr hsaves
    rcases h r hr hsaves with hpending | hmem | hholds
    · exact .inl hpending
    · rw [hlock, waiting_cons_of_some hresult] at hmem
      exact .inr (.inl hmem)
    · exact .inr (.inr hholds)

theorem RemovalsKept.move (h : v.RemovalsKept) (hvalid : v.Valid) (hordered : v.Ordered)
    (hmove : v.Move config v') : v'.RemovalsKept := by
  have hacquire : ∀ (n : Nat) (e : NumberedEntry D F), e.result = none →
      (∀ m, e.number = some m → n < m) →
      (n ∈ waiting v.lock ∨ (∀ m ∈ written v.files, n < m) ∧ ∀ m ∈ waiting v.lock, n < m) →
      n ∈ waiting (v.lock ++ [e]) ∨
        (∀ m ∈ written v.files, n < m) ∧ ∀ m ∈ waiting (v.lock ++ [e]), n < m := by
    intro n e hresult hnew hn
    rw [waiting_concat hresult]
    rcases hn with hmem | ⟨hwritten, hwaiting⟩
    · exact .inl (List.mem_append_left _ hmem)
    · refine .inr ⟨hwritten, fun m hm => ?_⟩
      rw [List.mem_append, Option.mem_toList] at hm
      rcases hm with hm | hm
      · exact hwaiting m hm
      · exact hnew m hm
  have hnew : ∀ n, requestAt v.requests n = some .remove →
      ∀ m, some (v.requests.length + 1) = some m → n < m := by
    rintro n hn m hm
    cases hm
    exact Nat.lt_succ_of_le (le_of_requestAt hn)
  cases hmove with
  | quiet => exact h
  | save data =>
    intro n hn
    rcases requestAt_concat_cases hn with hn | ⟨-, hr⟩
    · exact hacquire n _ rfl (hnew n hn) (h n hn)
    · cases hr
  | delaySave dataFunc =>
    intro n hn
    rcases requestAt_concat_cases hn with hn | ⟨-, hr⟩
    · exact h n hn
    · cases hr
  | remove =>
    intro n hn
    rcases requestAt_concat_cases hn with hn | ⟨rfl, -⟩
    · exact hacquire n _ rfl (hnew n hn) (h n hn)
    · exact .inl (mem_waiting_concat rfl rfl)
  | load =>
    intro n hn
    exact hacquire n _ rfl (fun m hm => by cases hm) (h n hn)
  | take dataFunc w caller hpending hlatest hcaller =>
    intro n hn
    refine hacquire n _ rfl (fun m hm => ?_) (h n hn)
    obtain ⟨k, g, hk, rfl⟩ := hvalid.pending dataFunc hpending
    cases hm
    have hle : n ≤ v.requests.length := le_of_requestAt hn
    have hne : n ≠ k := by
      rintro rfl
      cases hn.symm.trans hk
    dsimp only at hlatest ⊢
    omega
  | work entry lock w hlock hresult hremoves =>
    intro n hn
    have hwaiting : waiting v.lock = entry.number.toList ++ waiting lock := by
      rw [hlock, waiting_cons hresult]
    have hasks := hvalid.entries entry (hlock ▸ List.mem_cons_self)
    have hpairwise := hordered.ordered
    rw [hwaiting, List.pairwise_append] at hpairwise
    dsimp only
    rw [waiting_cons_of_some rfl]
    rcases h n hn with hmem | ⟨hwritten, hnewer⟩
    · rw [hwaiting, List.mem_append, Option.mem_toList] at hmem
      rcases hmem with hnumber | hmem
      · refine .inr ⟨?_, hpairwise.2.2 n (Option.mem_toList.mpr hnumber)⟩
        obtain ⟨hjob, -⟩ := hasks.of_remove hnumber hn
        intro m hm
        have hzip := hremoves (by simp only [LockEntry.removes, hjob])
        simp [Storage.runJob, hjob, Files.remove, written, hzip] at hm
      · exact .inl hmem
    · refine .inr ⟨fun m hm => ?_, fun m hm => hnewer m (hwaiting ▸ List.mem_append_right _ hm)⟩
      unfold Storage.runJob at hm
      split at hm
      next data hjob =>
        rcases mem_written_save hm with rfl | hm
        · refine hnewer _ ?_
          rw [hwaiting]
          refine List.mem_append_left _ (Option.mem_toList.mpr ?_)
          simp only [LockEntry.number, hjob]
          rfl
        · exact hwritten m hm
      · exact hwritten m (mem_written_remove hm)
      · exact hwritten m hm
  | resume entry lock result hlock hresult =>
    intro n hn
    have hmem := h n hn
    rw [hlock, waiting_cons_of_some hresult] at hmem
    exact hmem

theorem HeadKept.move (h : v.HeadKept config) (hordered : v.Ordered)
    (hmove : v.Move config v') : v'.HeadKept config := by
  have hacquire : ∀ e : NumberedEntry D F, e.result = none → ∀ entry lock,
      v.lock ++ [e] = entry :: lock → entry.result ≠ none → ∃ lock', v.lock = entry :: lock' := by
    intro e he entry lock hlock hresult
    cases hold : v.lock with
    | nil =>
      rw [hold] at hlock
      cases hlock
      exact absurd he hresult
    | cons entry' lock' =>
      rw [hold] at hlock
      cases hlock
      exact ⟨lock', rfl⟩
  cases hmove with
  | quiet => exact h
  | save data =>
    intro entry lock hlock hresult
    obtain ⟨lock', hold⟩ := hacquire _ rfl entry lock hlock hresult
    exact h entry lock' hold hresult
  | delaySave dataFunc => exact h
  | remove =>
    intro entry lock hlock hresult
    obtain ⟨lock', hold⟩ := hacquire _ rfl entry lock hlock hresult
    exact h entry lock' hold hresult
  | load =>
    intro entry lock hlock hresult
    obtain ⟨lock', hold⟩ := hacquire _ rfl entry lock hlock hresult
    exact h entry lock' hold hresult
  | take dataFunc w caller hpending hlatest hcaller =>
    intro entry lock hlock hresult
    obtain ⟨lock', hold⟩ := hacquire _ rfl entry lock hlock hresult
    exact h entry lock' hold hresult
  | work entry lock w hlock hresult hremoves =>
    intro entry' lock' hlock' _ data hjob
    cases hlock'
    refine ⟨w, ?_⟩
    dsimp only at hjob
    simp only [Storage.runJob, hjob, if_true]
    exact target_save ..
  | resume entry lock result hlock hresult =>
    rintro entry' lock' rfl hresult'
    exact absurd (hordered.tail entry' (by rw [hlock]; exact List.mem_cons_self)) hresult'

structure Kept (config : StorageConfig W D F) (v : Traffic W D F) : Prop where
  valid : v.Valid
  ordered : v.Ordered
  last : v.LastKept config
  removals : v.RemovalsKept
  head : v.HeadKept config

theorem Kept.move (h : v.Kept config) (hmove : v.Move config v') : v'.Kept config where
  valid := h.valid.move hmove
  ordered := h.ordered.move hmove
  last := h.last.move h.valid h.ordered hmove
  removals := h.removals.move h.valid h.ordered hmove
  head := h.head.move h.ordered hmove

end Traffic

namespace StorageRun

/-! ## Runs -/

/-- What a flush and a removal promise: the flush that returned in the last step has left the data
of the request before it in the file; after a removal that has returned, and no save since it was
requested, nothing is loaded. -/
structure Correct (config : StorageConfig W D F) (s : StorageRun W D F) : Prop where
  flushed : ∀ made, s.flushed = some made → ∀ r, requestAt s.requests made = some r →
    r.isRemoval = false → ∃ data w, r.Gives data ∧
      s.storage.files.target config.asZip = some (made, config.toSave w data)
  removed : ∀ n, requestAt s.requests n = some .remove →
    (∀ m r, n < m → requestAt s.requests m = some r → r.isRemoval = true) →
    (∀ entry ∈ s.storage.lock, entry.caller ≠ .request n) → s.storage.files.load = none

variable {config : StorageConfig W D F} {s t : StorageRun W D F} {a : StorageAction W D}

theorem kept_init (world : W) (files : Files F) :
    (init world files : StorageRun W D F).traffic.Kept config := by
  have hwritten : ∀ m ∈ written (init world files : StorageRun W D F).traffic.files, m = 0 := by
    intro m hm
    simp only [init, traffic, written, List.mem_append, List.mem_map, Option.mem_toList,
      Option.map_eq_some_iff] at hm
    rcases hm with ⟨_, ⟨_, -, rfl⟩, rfl⟩ | ⟨_, ⟨_, -, rfl⟩, rfl⟩
    · rfl
    · rfl
  have hrequest : ∀ n (r : Request W D), requestAt [] n ≠ some r := by
    intro n r h
    cases n with
    | zero => cases h
    | succ n => cases h
  constructor
  · exact ⟨fun _ h => (by cases h), fun _ h => (by cases h), fun _ h => (by cases h),
      fun m hm => .inl (hwritten m hm)⟩
  · refine ⟨fun _ h => (by cases h), List.Pairwise.nil, fun _ _ _ h => (by cases h), fun n hn => ?_,
      fun _ h => (by cases h)⟩
    rcases hn with hn | hn
    · exact Nat.le_of_eq (hwritten n hn)
    · cases hn
  · exact fun r hr => absurd hr (hrequest _ r)
  · exact fun n hn => absurd hn (hrequest n _)
  · exact fun _ _ h => (by cases h)

theorem kept_of_reach {world : W} {files : Files F}
    (h : (system config world files).Reach (Ok config) s) : s.traffic.Kept config :=
  h.invariant (P := fun s => s.traffic.Kept config) (kept_init world files)
    fun _ _ _ hs hok hstep => hs.move (move_of_step hok hstep)

theorem removed_of_kept (h : s.traffic.Kept config) {n : Nat}
    (hn : requestAt s.requests n = some .remove)
    (hlater : ∀ m r, n < m → requestAt s.requests m = some r → r.isRemoval = true)
    (hreturned : ∀ entry ∈ s.storage.lock, entry.caller ≠ .request n) :
    s.storage.files.load = none := by
  have hwaiting : n ∉ waiting s.storage.lock := by
    intro hmem
    obtain ⟨entry, hentry, hnumber⟩ := List.mem_filterMap.mp hmem
    have hmem := (List.mem_filter.mp hentry).1
    obtain ⟨-, hcaller⟩ := (h.valid.entries entry hmem).of_remove hnumber hn
    exact hreturned entry hmem hcaller
  rcases h.removals n hn with hmem | ⟨hwritten, -⟩
  · exact absurd hmem hwaiting
  have hnone : ∀ m, m ∉ written s.storage.files := by
    intro m hm
    have hlt := hwritten m hm
    rcases h.valid.files m hm with rfl | ⟨r, hr, hsaves⟩
    · exact absurd hlt (Nat.not_lt_zero n)
    · rw [hlater m r hlt hr] at hsaves
      cases hsaves
  cases hload : s.storage.files.load with
  | none => rfl
  | some file =>
    refine absurd ?_ (hnone file.1)
    unfold Files.load at hload
    unfold written
    split at hload
    next hjson => simp [hload]
    next hjson =>
      cases hload
      simp [hjson]

theorem flushed_of_step (h : s.traffic.Kept config) (hok : Ok config s a)
    (hstep : step config s a = some t) {made : Nat} (hflushed : t.flushed = some made)
    {r : Request W D} (hr : requestAt t.requests made = some r) (hsaves : r.isRemoval = false) :
    ∃ data w, r.Gives data ∧
      t.storage.files.target config.asZip = some (made, config.toSave w data) := by
  cases a with
  | save data =>
    obtain ⟨_, -, rfl⟩ := Option.map_eq_some_iff.mp hstep
    cases hflushed
  | delaySave dataFunc =>
    cases hstep
    cases hflushed
  | remove =>
    cases hstep
    cases hflushed
  | load =>
    cases hstep
    cases hflushed
  | flush =>
    obtain ⟨htake, hnothing⟩ := hok
    cases hstep
    dsimp only at hflushed hr ⊢
    obtain ⟨hcancelled, -, hfiles⟩ := s.storage.cancelTimer_keeps
    cases hpending : s.storage.pendingDataFunc with
    | some dataFunc =>
      -- these data can be saved, so the flush waits
      simp only [TakesLatest, hpending] at htake
      rw [Storage.flush, Storage.executeDelayedSave_some (hcancelled.trans hpending) htake.2]
        at hflushed
      cases hflushed
    | none =>
      rw [Storage.flush, Storage.executeDelayedSave_none (hcancelled.trans hpending)] at hflushed ⊢
      cases hflushed
      rcases h.last r hr hsaves with ⟨f, hf, -⟩ | hmem | hholds
      · cases hpending.symm.trans hf
      · obtain ⟨entry, hentry, hnumber⟩ := List.mem_filterMap.mp hmem
        obtain ⟨hmem, hresult⟩ := List.mem_filter.mp hentry
        obtain ⟨data, hjob, hdata, -⟩ :=
          Traffic.saves_of_number (h.valid.entries entry hmem) hnumber hr hsaves
        refine absurd ?_ (hnothing (by simp [hpending]) entry hmem hresult)
        simp only [LockEntry.saves, hjob, hdata]
        rfl
      · obtain ⟨r', data, w, hr', hgives, htarget⟩ := hholds
        cases hr.symm.trans hr'
        exact ⟨data, w, hgives, hfiles ▸ htarget⟩
  | fireTimer timer =>
    obtain ⟨_, -, rfl⟩ := Option.map_eq_some_iff.mp hstep
    cases hflushed
  | runDelayedTask =>
    obtain ⟨_, -, rfl⟩ := Option.map_eq_some_iff.mp hstep
    cases hflushed
  | work ok =>
    obtain ⟨_, -, rfl⟩ := Option.map_eq_some_iff.mp hstep
    cases hflushed
  | resume =>
    obtain ⟨resumed, hresume, rfl⟩ := Option.map_eq_some_iff.mp hstep
    obtain ⟨entry, lock, result, hlock, hresult, rfl⟩ := Storage.resume_eq_some hresume
    have hmem : entry ∈ s.traffic.lock := by
      rw [traffic, hlock]
      exact List.mem_cons_self
    have hcaller : entry.caller = .flush made := by
      cases hc : entry.caller with
      | request n => simp [hc, Caller.flushed] at hflushed
      | load => simp [hc, Caller.flushed] at hflushed
      | delayedTask => simp [hc, Caller.flushed] at hflushed
      | flush made' =>
        simp only [hc, Caller.flushed, Option.some.injEq] at hflushed
        rw [hflushed]
    have hnumber : entry.saves = some made := h.valid.flushes entry hmem made hcaller
    obtain ⟨data, hjob, hdata⟩ : ∃ data, entry.job = .save data ∧ data.1 = made := by
      unfold LockEntry.saves at hnumber
      split at hnumber
      next data hjob => exact ⟨data, hjob, Option.some.inj hnumber⟩
      · cases hnumber
      · cases hnumber
    have hasks := h.valid.entries entry hmem
    rw [Asks, hjob] at hasks
    obtain ⟨r', hr', hgives⟩ := hasks
    rw [hdata] at hr'
    cases hr.symm.trans hr'
    obtain ⟨w, htarget⟩ := h.head entry lock hlock (by simp [hresult]) data hjob
    rw [hdata] at htarget
    exact ⟨data.2, w, hgives, htarget⟩
  | change world =>
    cases hstep
    cases hflushed

/-- Any run in which pending data are taken for the last request only, no flush with nothing pending
is called while the last save is under way, and a removal finds no file that it does not unlink. -/
theorem flush_correct_of_reach (config : StorageConfig W D F) (world : W) (files : Files F)
    (s : StorageRun W D F) (h : (system config world files).Reach (Ok config) s) :
    s.Correct config := by
  have hkept := kept_of_reach h
  refine ⟨?_, fun n hn hlater hreturned => removed_of_kept hkept hn hlater hreturned⟩
  have hboth := h.invariant (P := fun s => s.traffic.Kept config ∧ ∀ made, s.flushed = some made →
      ∀ r, requestAt s.requests made = some r → r.isRemoval = false →
        ∃ data w, r.Gives data ∧
          s.storage.files.target config.asZip = some (made, config.toSave w data))
    ⟨kept_init world files, fun _ hflushed => by cases hflushed⟩
    fun s a t hs hok hstep => ⟨hs.1.move (move_of_step hok hstep),
      fun _ hflushed _ hr hsaves => flushed_of_step hs.1 hok hstep hflushed hr hsaves⟩
  exact hboth.2

/-! ### Samples -/

def sampleConfig (asZip : Bool) : StorageConfig Unit Nat Nat where
  asZip
  serializable _ _ := true
  toSave _ data := data

/-- A flush of pending data that waits for an earlier save, and a removal. -/
def flushedHistory : List (StorageAction Unit Nat) :=
  [.save 1, .delaySave fun _ => 2, .flush, .work true, .resume, .work true, .resume, .remove,
    .work true, .resume]

theorem flush_correct_of_reach_flushed : ∃ s, (system (sampleConfig false) () {}).Reach
    (Ok (sampleConfig false)) s ∧ s.requests.length = 3 ∧ s.Correct (sampleConfig false) := by
  obtain ⟨s, hs, hlength⟩ := replay_any (p := fun s : StorageRun Unit Nat Nat =>
      s.requests.length = 3)
    (show ((system (sampleConfig false) () {}).replay (Ok (sampleConfig false)) (init () {})
      flushedHistory).any _ = true by decide)
  exact ⟨s, reach_of_replay hs, hlength, flush_correct_of_reach _ _ _ s (reach_of_replay hs)⟩

theorem not_correct_of_flushed {made : Nat} (hflushed : s.flushed = some made)
    (hsaves : (requestAt s.requests made).any fun r => !r.isRemoval)
    (htarget : (s.storage.files.target config.asZip).map Prod.fst ≠ some made) :
    ¬ s.Correct config := by
  intro h
  obtain ⟨r, hr, hsaves⟩ := (Option.any_eq_true _ _).mp hsaves
  obtain ⟨data, w, -, hfile⟩ := h.flushed made hflushed r hr (by simpa using hsaves)
  rw [hfile] at htarget
  exact htarget rfl

theorem not_correct_of_removed
    (hremoval : (requestAt s.requests s.requests.length).any Request.isRemoval)
    (hlock : s.storage.lock.isEmpty) (hload : s.storage.files.load.isSome) :
    ¬ s.Correct config := by
  intro h
  obtain ⟨r, hr, hremoval⟩ := (Option.any_eq_true _ _).mp hremoval
  have hremove : r = .remove := by
    cases r with
    | save => cases hremoval
    | delaySave => cases hremoval
    | remove => rfl
  have hnone := h.removed s.requests.length (hremove ▸ hr)
    (fun m r' hlt hr' => absurd (le_of_requestAt hr') (Nat.not_le_of_lt hlt))
    (fun entry hentry => by rw [List.isEmpty_iff.mp hlock] at hentry; cases hentry)
  rw [hnone] at hload
  cases hload

/-- The flush returns while the delayed task still writes. -/
def flushedDuringWrite : List (StorageAction Unit Nat) :=
  [.delaySave fun _ => 1, .fireTimer 0, .runDelayedTask, .flush]

/-- The flush writes the pending data over those of a later save. -/
def flushedOverSave : List (StorageAction Unit Nat) :=
  [.delaySave fun _ => 1, .save 2, .flush, .work true, .resume, .work true, .resume]

/-- The delayed save comes after the removal. -/
def removedWhilePending : List (StorageAction Unit Nat) :=
  [.delaySave fun _ => 1, .remove, .work true, .resume, .fireTimer 0, .runDelayedTask, .work true,
    .resume]

/-- The removal does not unlink a compressed file. -/
def removedZip : List (StorageAction Unit Nat) :=
  [.save 1, .work true, .resume, .remove, .work true, .resume]

theorem not_flush_correct :
    (∃ s, (system (sampleConfig false) () {}).Steps Free (init () {}) flushedDuringWrite s ∧
      s.flushed = some 1 ∧ s.storage.files.json = none ∧ ¬ s.Correct (sampleConfig false)) ∧
    (∃ s, (system (sampleConfig false) () {}).Steps Free (init () {}) flushedOverSave s ∧
      s.flushed = some 2 ∧ s.storage.files.json = some (1, 1) ∧
      ¬ s.Correct (sampleConfig false)) ∧
    (∃ s, (system (sampleConfig false) () {}).Steps Free (init () {}) removedWhilePending s ∧
      s.storage.files.load = some (1, 1) ∧ ¬ s.Correct (sampleConfig false)) ∧
    ∃ s, (system (sampleConfig true) () {}).Steps Free (init () {}) removedZip s ∧
      s.storage.files.load = some (1, 1) ∧ ¬ s.Correct (sampleConfig true) := by
  refine ⟨?_, ?_, ?_, ?_⟩
  · obtain ⟨s, hs, hflushed, hsaves, hjson⟩ := replay_any (p := fun s : StorageRun Unit Nat Nat =>
        s.flushed = some 1 ∧ ((requestAt s.requests 1).any fun r => !r.isRemoval) ∧
          s.storage.files.json = none)
      (show ((system (sampleConfig false) () {}).replay Free (init () {})
        flushedDuringWrite).any _ = true by decide)
    refine ⟨s, steps_of_replay hs, hflushed, hjson, not_correct_of_flushed hflushed hsaves ?_⟩
    simp [sampleConfig, Files.target, hjson]
  · obtain ⟨s, hs, hflushed, hsaves, hjson⟩ := replay_any (p := fun s : StorageRun Unit Nat Nat =>
        s.flushed = some 2 ∧ ((requestAt s.requests 2).any fun r => !r.isRemoval) ∧
          s.storage.files.json = some (1, 1))
      (show ((system (sampleConfig false) () {}).replay Free (init () {})
        flushedOverSave).any _ = true by decide)
    refine ⟨s, steps_of_replay hs, hflushed, hjson, not_correct_of_flushed hflushed hsaves ?_⟩
    simp [sampleConfig, Files.target, hjson]
  · obtain ⟨s, hs, hremoval, hlock, hload⟩ := replay_any (p := fun s : StorageRun Unit Nat Nat =>
        (requestAt s.requests s.requests.length).any Request.isRemoval ∧
          s.storage.lock.isEmpty ∧ s.storage.files.load = some (1, 1))
      (show ((system (sampleConfig false) () {}).replay Free (init () {})
        removedWhilePending).any _ = true by decide)
    exact ⟨s, steps_of_replay hs, hload, not_correct_of_removed hremoval hlock (by simp [hload])⟩
  · obtain ⟨s, hs, hremoval, hlock, hload⟩ := replay_any (p := fun s : StorageRun Unit Nat Nat =>
        (requestAt s.requests s.requests.length).any Request.isRemoval ∧
          s.storage.lock.isEmpty ∧ s.storage.files.load = some (1, 1))
      (show ((system (sampleConfig true) () {}).replay Free (init () {})
        removedZip).any _ = true by decide)
    exact ⟨s, steps_of_replay hs, hload, not_correct_of_removed hremoval hlock (by simp [hload])⟩

end StorageRun

end AioHomematic.Store
