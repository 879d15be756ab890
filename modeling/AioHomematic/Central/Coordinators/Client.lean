import AioHomematic.Const
import AioHomematic.Lib.Dict
import AioHomematic.Lib.StepSystem

/-!
# The clients of a central

`ClientCoordinator`: the map of the clients and the primary client, which the property
`primary_client` remembers when it is read for the first time.

A `Segment` is a stretch of the coordinator without a suspension that touches the clients;
other tasks run between any two, and read the primary client at any time. `startClients`,
`stopClients` and `restartClients` are the operations with what they get from outside;
`leads_startClients` and `leads_restartClients` say that they are made of segments.
-/

namespace AioHomematic.Central

open Lib

/-- A client object; `ref` tells it from others of the same interface. -/
structure Client where
  ref : Nat
  interfaceId : String
  interface : Interface
deriving DecidableEq

structure InterfaceConfig where
  interfaceId : String
  interface : Interface
deriving DecidableEq

structure ClientCoordinator where
  clients : Dict String Client := .empty
  /-- `_primary_client`. -/
  primaryClient : Option Client := none
  clientsStarted : Bool := false
  /-- `enabled_interface_configs`, in the order in which they are gone through. -/
  enabledInterfaceConfigs : List InterfaceConfig := []
deriving DecidableEq

namespace ClientCoordinator

/-! ## The primary client -/

/-- `_get_primary_client`: the last client if no candidate is available. -/
def getPrimaryClient (available : Client → Bool) (s : ClientCoordinator) : Option Client :=
  (s.clients.values.find? fun client =>
    client.interface.isPrimaryClientCandidate && available client).or s.clients.values.getLast?

/-- The property `primary_client`. -/
def readPrimaryClient (available : Client → Bool) (s : ClientCoordinator) :
    Option Client × ClientCoordinator :=
  match s.primaryClient with
  | some client => (some client, s)
  | none =>
    match s.getPrimaryClient available with
    | some client => (some client, { s with primaryClient := some client })
    | none => (none, s)

/-! ## Segments -/

def register (client : Client) (s : ClientCoordinator) : ClientCoordinator :=
  { s with clients := s.clients.set client.interfaceId client }

def disable (interfaceConfig : InterfaceConfig) (s : ClientCoordinator) : ClientCoordinator :=
  { s with enabledInterfaceConfigs := s.enabledInterfaceConfigs.filter (· ≠ interfaceConfig) }

/-- The first pass of `_init_clients`. -/
def removeUnavailable (availableInterfaces : List Interface) (s : ClientCoordinator) :
    ClientCoordinator :=
  { s with
    clients := ((s.clients.values.filter (·.interface ∉ availableInterfaces)).map
      (·.interfaceId)).foldl Dict.erase s.clients }

/-- The end of `start_clients`. -/
def started (s : ClientCoordinator) : ClientCoordinator := { s with clientsStarted := true }

/-- The end of `stop_clients`, after the last client has stopped. -/
def clear (s : ClientCoordinator) : ClientCoordinator :=
  { s with clients := .empty, clientsStarted := false }

inductive Segment where
  | register (client : Client)
  | disable (interfaceConfig : InterfaceConfig)
  | readPrimaryClient (available : Client → Bool)
  | removeUnavailable (availableInterfaces : List Interface)
  | started
  | clear

def apply (s : ClientCoordinator) : Segment → ClientCoordinator
  | .register client => s.register client
  | .disable interfaceConfig => s.disable interfaceConfig
  | .readPrimaryClient available => (s.readPrimaryClient available).2
  | .removeUnavailable availableInterfaces => s.removeUnavailable availableInterfaces
  | .started => s.started
  | .clear => s.clear

/-- Segments of any tasks, in any order. -/
def segments (enabledInterfaceConfigs : List InterfaceConfig) :
    StepSystem ClientCoordinator Segment where
  init := { enabledInterfaceConfigs }
  step s segment := some (s.apply segment)

/-! ## Operations -/

/-- Where a start reads the primary client. -/
inductive Reading where
  | secondary (interfaceConfig : InterfaceConfig)
  | created
  | healthTracker
deriving DecidableEq

/-- What a start gets from outside. -/
structure Answers where
  /-- The check of the JSON port, which is made if there is one. -/
  jsonPortReady : Bool := true
  /-- What `_create_client` ends with; it registers nothing if it fails. -/
  createdClient : InterfaceConfig → Option Client
  /-- The order in which the tasks of the secondary clients are done. -/
  finished : List InterfaceConfig → List InterfaceConfig := id
  available : Reading → Client → Bool := fun _ _ => true
  /-- `system_information.available_interfaces` of a client. -/
  clientInterfaces : Client → List Interface
  /-- The same of the central. -/
  availableInterfaces : List Interface

def createClient (a : Answers) (s : ClientCoordinator) (interfaceConfig : InterfaceConfig) :
    ClientCoordinator :=
  match a.createdClient interfaceConfig with
  | some client => s.register client
  | none => s

/-- One secondary interface: it is disabled if the backend of the primary client lacks it. -/
def addSecondaryConfig (a : Answers) (p : List InterfaceConfig × ClientCoordinator)
    (interfaceConfig : InterfaceConfig) : List InterfaceConfig × ClientCoordinator :=
  match p.2.readPrimaryClient (a.available (.secondary interfaceConfig)) with
  | (none, s) => (p.1 ++ [interfaceConfig], s)
  | (some client, s) =>
    if interfaceConfig.interface ∈ a.clientInterfaces client then (p.1 ++ [interfaceConfig], s)
    else (p.1, s.disable interfaceConfig)

def allClientsActive (s : ClientCoordinator) : Bool :=
  0 < s.clients.entries.length && s.clients.entries.length = s.enabledInterfaceConfigs.length

def createPrimaryClients (a : Answers) (s : ClientCoordinator) : ClientCoordinator :=
  (s.enabledInterfaceConfigs.filter (·.interface.isPrimaryClientCandidate)).foldl
    (createClient a) s

def createSecondaryClients (a : Answers) (s : ClientCoordinator) : ClientCoordinator :=
  let p := (s.enabledInterfaceConfigs.filter (!·.interface.isPrimaryClientCandidate)).foldl
    (addSecondaryConfig a) ([], s)
  (a.finished p.1).foldl (createClient a) p.2

def createClients (a : Answers) (s : ClientCoordinator) : Bool × ClientCoordinator :=
  if s.clients.entries ≠ [] then (false, s)
  else if s.enabledInterfaceConfigs = [] then (false, s)
  else if a.jsonPortReady = false then (false, s)
  else
    let s := (s.createPrimaryClients a).createSecondaryClients a
    if s.allClientsActive = false then (false, s)
    else (true, (s.readPrimaryClient (a.available .created)).2)

def startClients (a : Answers) (s : ClientCoordinator) : Bool × ClientCoordinator :=
  match s.createClients a with
  | (false, s) => (false, s)
  | (true, s) =>
    let s := (s.readPrimaryClient (a.available .healthTracker)).2
    (true, (s.removeUnavailable a.availableInterfaces).started)

def stopClients (s : ClientCoordinator) : ClientCoordinator := s.clear

def restartClients (a : Answers) (s : ClientCoordinator) : ClientCoordinator :=
  (s.stopClients.startClients a).2

/-! ## The operations as segments -/

variable {configs : List InterfaceConfig} {s t : ClientCoordinator}

/-- A run of segments leads from one state to the other. -/
def Leads (s t : ClientCoordinator) : Prop :=
  ∃ run : List Segment, t = run.foldl apply s

namespace Leads

theorem refl (s : ClientCoordinator) : Leads s s := ⟨[], rfl⟩

theorem trans {u : ClientCoordinator} (h : Leads s t) (h' : Leads t u) : Leads s u := by
  obtain ⟨run, rfl⟩ := h
  obtain ⟨run', rfl⟩ := h'
  exact ⟨run ++ run', List.foldl_append.symm⟩

theorem segment (s : ClientCoordinator) (segment : Segment) : Leads s (s.apply segment) :=
  ⟨[segment], rfl⟩

theorem steps (h : Leads s t) : ∃ run, (segments configs).Steps StepSystem.Free s run t := by
  obtain ⟨run, rfl⟩ := h
  refine ⟨run, ?_⟩
  induction run generalizing s with
  | nil => exact .nil s
  | cons segment run ih => exact .cons trivial rfl ih

end Leads

theorem leads_createClient (a : Answers) (interfaceConfigs : List InterfaceConfig)
    (s : ClientCoordinator) : Leads s (interfaceConfigs.foldl (createClient a) s) := by
  induction interfaceConfigs generalizing s with
  | nil => exact .refl s
  | cons interfaceConfig interfaceConfigs ih =>
    refine .trans ?_ (ih _)
    rw [createClient]
    split
    next client _ => exact .segment s (.register client)
    · exact .refl s

theorem leads_addSecondaryConfig (a : Answers) (interfaceConfigs : List InterfaceConfig)
    (p : List InterfaceConfig × ClientCoordinator) :
    Leads p.2 (interfaceConfigs.foldl (addSecondaryConfig a) p).2 := by
  induction interfaceConfigs generalizing p with
  | nil => exact .refl p.2
  | cons interfaceConfig interfaceConfigs ih =>
    refine .trans ?_ (ih _)
    have hread : Leads p.2 (p.2.readPrimaryClient (a.available (.secondary interfaceConfig))).2 :=
      .segment p.2 (.readPrimaryClient _)
    rw [addSecondaryConfig]
    split
    next s hs =>
      rw [hs] at hread
      exact hread
    next client s hs =>
      rw [hs] at hread
      split
      · exact hread
      · exact .trans hread (.segment s (.disable interfaceConfig))

theorem leads_createClients (a : Answers) (s : ClientCoordinator) :
    Leads s (s.createClients a).2 := by
  rw [createClients]
  split
  · exact .refl s
  split
  · exact .refl s
  split
  · exact .refl s
  · have hcreated : Leads s ((s.createPrimaryClients a).createSecondaryClients a) :=
      ((leads_createClient a _ s).trans (leads_addSecondaryConfig a _ ([], _))).trans
        (leads_createClient a _ _)
    dsimp only
    split
    · exact hcreated
    · exact hcreated.trans (.segment _ (.readPrimaryClient _))

theorem leads_startClients (a : Answers) (s : ClientCoordinator) :
    Leads s (s.startClients a).2 := by
  have hcreated := leads_createClients a s
  rw [startClients]
  split
  next s' hs =>
    rw [hs] at hcreated
    exact hcreated
  next s' hs =>
    rw [hs] at hcreated
    exact ((hcreated.trans (.segment _ (.readPrimaryClient _))).trans
      (.segment _ (.removeUnavailable _))).trans (.segment _ .started)

theorem leads_restartClients (a : Answers) (s : ClientCoordinator) :
    Leads s (s.restartClients a) :=
  .trans (.segment s .clear) (leads_startClients a s.clear)

end ClientCoordinator

end AioHomematic.Central
