import AioHomematic.Central.Coordinators.Client

/-!
# The primary client is registered

`primary_client` remembers a client, and nothing that takes clients out of the map makes it
forget one. So it is right as long as no segment removes the client that it remembers, and wrong
from the first one that does.
-/

namespace AioHomematic.Central.ClientCoordinator

open Lib

variable {s t : ClientCoordinator} {configs : List InterfaceConfig}

/-- Whoever reads the primary client gets `None` or a registered client. A client has no mark that
it is stopped: a stopped one counts until the end of `stop_clients`, which takes it out. -/
def PrimaryRegistered (s : ClientCoordinator) : Prop :=
  ∀ available, ∀ client ∈ (s.readPrimaryClient available).1, client ∈ s.clients.values

/-- The segment does not remove the client that is remembered. -/
def Keeps (s : ClientCoordinator) : Segment → Prop
  | .register client =>
    ∀ primary ∈ s.primaryClient, primary.interfaceId = client.interfaceId → primary = client
  | .removeUnavailable availableInterfaces =>
    ∀ primary ∈ s.primaryClient, primary.interface ∈ availableInterfaces
  | .clear => s.primaryClient = none
  | _ => True

/-- The clients stand under their own interface ids. -/
def Keyed (s : ClientCoordinator) : Prop :=
  ∀ interfaceId client, s.clients.get? interfaceId = some client →
    client.interfaceId = interfaceId

/-! ## What a segment does to the map -/

theorem mem_values (h : Keyed s) {client : Client} :
    client ∈ s.clients.values ↔ s.clients.get? client.interfaceId = some client := by
  rw [Dict.values, List.mem_map]
  constructor
  · rintro ⟨e, he, rfl⟩
    have hget := Dict.get?_eq_some.mpr he
    rwa [h _ _ hget]
  · exact fun hget => ⟨_, Dict.get?_eq_some.mp hget, rfl⟩

/-- The interface ids that the first pass of `_init_clients` removes. -/
theorem mem_unavailable (h : Keyed s) {availableInterfaces : List Interface}
    {interfaceId : String} :
    interfaceId ∈ (s.clients.values.filter (·.interface ∉ availableInterfaces)).map
        (·.interfaceId) ↔
      ∃ client, s.clients.get? interfaceId = some client ∧
        client.interface ∉ availableInterfaces := by
  rw [List.mem_map]
  refine exists_congr fun client => ?_
  rw [List.mem_filter, mem_values h, decide_eq_true_iff]
  constructor
  · rintro ⟨⟨hget, hnot⟩, rfl⟩
    exact ⟨hget, hnot⟩
  · rintro ⟨hget, hnot⟩
    have hid := h _ _ hget
    exact ⟨⟨hid.symm ▸ hget, hnot⟩, hid⟩

theorem get?_removeUnavailable (h : Keyed s) (availableInterfaces : List Interface)
    {interfaceId : String} {client : Client} :
    (s.removeUnavailable availableInterfaces).clients.get? interfaceId = some client ↔
      s.clients.get? interfaceId = some client ∧ client.interface ∈ availableInterfaces := by
  rw [removeUnavailable, Dict.get?_foldl_erase, Option.ite_none_left_eq_some, mem_unavailable h,
    and_comm]
  refine and_congr_right fun hget => ?_
  rw [hget]
  simp

theorem Keyed.apply (h : Keyed s) (segment : Segment) : Keyed (s.apply segment) := by
  cases segment with
  | register client =>
    intro interfaceId other hget
    rw [ClientCoordinator.apply, register, Dict.get?_set] at hget
    split at hget
    next heq =>
      obtain rfl := Option.some.inj hget
      exact heq
    · exact h _ _ hget
  | removeUnavailable availableInterfaces =>
    exact fun interfaceId client hget => h _ _ ((get?_removeUnavailable h _).mp hget).1
  | disable interfaceConfig => exact h
  | started => exact h
  | clear =>
    intro interfaceId client hget
    cases hget
  | readPrimaryClient available =>
    rw [ClientCoordinator.apply, readPrimaryClient]
    split
    · exact h
    · split <;> exact h

/-! ## The client that is remembered -/

/-- What is read for the first time is registered; what is remembered has to be. -/
theorem primaryRegistered_iff : PrimaryRegistered s ↔
    ∀ primary ∈ s.primaryClient, primary ∈ s.clients.values := by
  constructor
  · intro h primary hprimary
    refine h (fun _ => true) primary ?_
    rw [readPrimaryClient, hprimary]
    rfl
  · intro h available client hclient
    rw [readPrimaryClient] at hclient
    split at hclient
    next primary hprimary =>
      obtain rfl := Option.some.inj hclient
      exact h _ hprimary
    · split at hclient
      next primary hfound =>
        obtain rfl := Option.some.inj hclient
        rw [getPrimaryClient, Option.or_eq_some_iff] at hfound
        obtain hfind | ⟨-, hlast⟩ := hfound
        · exact List.mem_of_find?_eq_some hfind
        · exact List.mem_of_getLast? hlast
      · cases hclient

theorem PrimaryRegistered.readPrimaryClient (h : PrimaryRegistered s) (available : Client → Bool) :
    PrimaryRegistered (s.readPrimaryClient available).2 := by
  have hread := h available
  rw [primaryRegistered_iff] at h ⊢
  rw [ClientCoordinator.readPrimaryClient] at hread ⊢
  split at hread
  · exact h
  · split at hread
    · exact hread
    · exact h

/-- One segment, from a state in which the primary client is right. -/
theorem primaryRegistered_apply_iff (hkeyed : Keyed s) (h : PrimaryRegistered s)
    (segment : Segment) : PrimaryRegistered (s.apply segment) ↔ Keeps s segment := by
  have hold := primaryRegistered_iff.mp h
  have hmem : ∀ primary ∈ s.primaryClient, s.clients.get? primary.interfaceId = some primary :=
    fun primary hprimary => (mem_values hkeyed).mp (hold primary hprimary)
  cases segment with
  | disable interfaceConfig => exact iff_of_true (primaryRegistered_iff.mpr hold) trivial
  | started => exact iff_of_true (primaryRegistered_iff.mpr hold) trivial
  | readPrimaryClient available => exact iff_of_true (h.readPrimaryClient available) trivial
  | clear =>
    rw [primaryRegistered_iff]
    show (∀ primary ∈ s.primaryClient, primary ∈ []) ↔ s.primaryClient = none
    constructor
    · exact fun hnone => Option.eq_none_iff_forall_not_mem.mpr fun primary hprimary =>
        List.not_mem_nil (hnone primary hprimary)
    · intro hnone primary hprimary
      rw [hnone] at hprimary
      cases hprimary
  | register client =>
    rw [primaryRegistered_iff]
    refine forall₂_congr fun primary hprimary => ?_
    rw [mem_values (hkeyed.apply (.register client))]
    show (s.clients.set client.interfaceId client).get? primary.interfaceId = some primary ↔ _
    rw [Dict.get?_set, hmem primary hprimary]
    split
    next heq => exact ⟨fun h _ => (Option.some.inj h).symm, fun h => (h heq.symm) ▸ rfl⟩
    next hne => exact iff_of_true rfl fun heq => absurd heq.symm hne
  | removeUnavailable availableInterfaces =>
    rw [primaryRegistered_iff]
    refine forall₂_congr fun primary hprimary => ?_
    rw [mem_values (hkeyed.apply (.removeUnavailable availableInterfaces))]
    show (s.removeUnavailable availableInterfaces).clients.get? _ = _ ↔ _
    rw [get?_removeUnavailable hkeyed, and_iff_right (hmem primary hprimary)]

/-! ## Runs -/

/-- In every run that keeps the client that is remembered, the primary client is `None` or a
registered client; and the run goes wrong with the first segment that does not. -/
theorem primaryClient_registered (h : (segments configs).Reach Keeps s) :
    PrimaryRegistered s ∧ ∀ segment, PrimaryRegistered (s.apply segment) ↔ Keeps s segment := by
  have hinv : Keyed s ∧ PrimaryRegistered s := by
    refine h.invariant (P := fun s => Keyed s ∧ PrimaryRegistered s) ?_ ?_
    · exact ⟨nofun, primaryRegistered_iff.mpr nofun⟩
    · rintro s segment _ ⟨hkeyed, hregistered⟩ hkeeps ⟨⟩
      exact ⟨hkeyed.apply segment,
        (primaryRegistered_apply_iff hkeyed hregistered segment).mpr hkeeps⟩
  exact ⟨hinv.2, primaryRegistered_apply_iff hinv.1 hinv.2⟩

/-! ## A restart -/

def bidcosConfig : InterfaceConfig := ⟨"ccu-BidCos-RF", .bidcosRf⟩

/-- A start in which the one interface gets a new client. -/
def startAnswers (ref : Nat) (availableInterfaces : List Interface) : Answers where
  createdClient interfaceConfig :=
    some ⟨ref, interfaceConfig.interfaceId, interfaceConfig.interface⟩
  clientInterfaces := fun _ => [.bidcosRf]
  availableInterfaces := availableInterfaces

def stopped : ClientCoordinator :=
  ((segments [bidcosConfig]).init.startClients (startAnswers 0 [.bidcosRf])).2.stopClients

theorem primaryClient_registered_started :
    PrimaryRegistered ((segments [bidcosConfig]).init.register ⟨0, "ccu-BidCos-RF", .bidcosRf⟩) :=
  (@primaryClient_registered _ [bidcosConfig]
    (.step .init (a := .register ⟨0, "ccu-BidCos-RF", .bidcosRf⟩) nofun rfl)).1

/-- After a stop the primary client is the one that was stopped, and so it is after a restart; it
is a removed one, too, if the backend does not have its interface. -/
theorem not_primaryRegistered :
    (stopped.readPrimaryClient fun _ => true).1 = some ⟨0, "ccu-BidCos-RF", .bidcosRf⟩ ∧
      stopped.clients.values = [] ∧
      ((stopped.startClients (startAnswers 1 [.bidcosRf])).2.readPrimaryClient fun _ => true).1 =
        some ⟨0, "ccu-BidCos-RF", .bidcosRf⟩ ∧
      (stopped.startClients (startAnswers 1 [.bidcosRf])).2.clients.values =
        [⟨1, "ccu-BidCos-RF", .bidcosRf⟩] ∧
      ¬ PrimaryRegistered
        ((segments [bidcosConfig]).init.startClients (startAnswers 0 [.hmipRf])).2 := by
  refine ⟨by decide, by decide, by decide, by decide, ?_⟩
  rw [primaryRegistered_iff]
  decide

end AioHomematic.Central.ClientCoordinator
