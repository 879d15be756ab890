import AioHomematic.Lib.Dict
import AioHomematic.Support.Age
import AioHomematic.Exceptions

/-!
# The central data cache

`CentralDataCache` of `store/dynamic/data.py`: the values of all devices of an
interface and the time they were fetched. They expire when they are read, but
not before the devices have been created.
-/

namespace AioHomematic.Store

open Lib Support

structure CentralDataCache (V : Type*) where
  valueCache : Dict String (Dict String V) := .empty
  refreshedAt : Dict String Int := .empty
  isInitializing : Bool := true

namespace CentralDataCache

variable {V : Type*} (c : CentralDataCache V)

def addData (now : Int) (interface : String) (allDeviceData : Dict String V) :
    CentralDataCache V :=
  { c with
    valueCache := c.valueCache.set interface allDeviceData
    refreshedAt := c.refreshedAt.set interface now }

/-- `clear` of one interface. -/
def clear (interface : String) : CentralDataCache V :=
  { c with
    valueCache := c.valueCache.set interface .empty
    refreshedAt := c.refreshedAt.set interface initDatetime }

/-- `clear` of all interfaces that have devices. -/
def clearAll (interfaces : List String) : CentralDataCache V := interfaces.foldl clear c

def setInitializationComplete : CentralDataCache V := { c with isInitializing := false }

/-- `_get_refreshed_at`. -/
def getRefreshedAt (interface : String) : Int :=
  (c.refreshedAt.get? interface).getD initDatetime

/-- Nothing is stored for the interface. -/
def hasNoData (interface : String) : Bool :=
  match c.valueCache.get? interface with
  | none => true
  | some data => data.entries.isEmpty

/-- `_is_empty`, with what it leaves of the cache. -/
def isEmpty (now : Int) (interface : String) : Bool × CentralDataCache V :=
  if c.hasNoData interface then (true, c)
  else if c.isInitializing then (false, c)
  else if changedWithinSeconds now (c.getRefreshedAt interface) maxCacheAge then (false, c)
  else (true, c.clear interface)

def cleanup (now : Int) : CentralDataCache V :=
  c.valueCache.keys.foldl (fun c interface => (c.isEmpty now interface).2) c

def dataKey (interface channelAddress parameter : String) : String :=
  interface ++ "." ++ channelAddress ++ "." ++ parameter

/-- What is stored, whatever its age. -/
def find (interface channelAddress parameter : String) : Option V :=
  (c.valueCache.get? interface).bind (·.get? (dataKey interface channelAddress parameter))

/-- `get_data`; `none` is `NO_CACHE_ENTRY`. -/
def getData (now : Int) (interface channelAddress parameter : String) :
    Option V × CentralDataCache V :=
  let (empty, checked) := c.isEmpty now interface
  if empty then (none, checked) else (checked.find interface channelAddress parameter, checked)

/-! ## The last writes -/

/-- What is stored is the last write of its interface, with its time. -/
def RecordedBy (writes : Dict String (Int × Dict String V)) : Prop :=
  ∀ interface data, c.valueCache.get? interface = some data → data.entries ≠ [] →
    writes.get? interface = some (c.getRefreshedAt interface, data)

variable {c} {writes : Dict String (Int × Dict String V)}

theorem recordedBy_addData (h : c.RecordedBy writes) (now : Int) (interface : String)
    (allDeviceData : Dict String V) :
    (c.addData now interface allDeviceData).RecordedBy
      (writes.set interface (now, allDeviceData)) := by
  intro interface' data hdata hne
  simp only [addData, Dict.get?_set] at hdata
  simp only [addData, getRefreshedAt, Dict.get?_set]
  split at hdata
  next heq =>
    obtain rfl := Option.some.inj hdata
    rw [if_pos heq, if_pos heq]
    rfl
  next hother =>
    rw [if_neg hother, if_neg hother]
    exact h interface' data hdata hne

theorem recordedBy_clear (h : c.RecordedBy writes) (interface : String) :
    (c.clear interface).RecordedBy writes := by
  intro interface' data hdata hne
  simp only [clear, Dict.get?_set] at hdata
  split at hdata
  next =>
    obtain rfl := Option.some.inj hdata
    exact absurd rfl hne
  next hother =>
    rw [getRefreshedAt, clear, Dict.get?_set_of_ne _ _ hother]
    exact h interface' data hdata hne

theorem recordedBy_clearAll (h : c.RecordedBy writes) (interfaces : List String) :
    (c.clearAll interfaces).RecordedBy writes := by
  unfold clearAll
  induction interfaces generalizing c with
  | nil => exact h
  | cons interface interfaces ih => exact ih (recordedBy_clear h interface)

theorem isEmpty_snd (c : CentralDataCache V) (now : Int) (interface : String) :
    (c.isEmpty now interface).2 = c ∨ (c.isEmpty now interface).2 = c.clear interface := by
  simp only [isEmpty]
  split
  · exact .inl rfl
  split
  · exact .inl rfl
  split
  · exact .inl rfl
  · exact .inr rfl

theorem recordedBy_isEmpty (h : c.RecordedBy writes) (now : Int) (interface : String) :
    (c.isEmpty now interface).2.RecordedBy writes := by
  obtain heq | heq := c.isEmpty_snd now interface
  · rw [heq]
    exact h
  · rw [heq]
    exact recordedBy_clear h interface

theorem recordedBy_cleanup (h : c.RecordedBy writes) (now : Int) :
    (c.cleanup now).RecordedBy writes := by
  unfold cleanup
  generalize c.valueCache.keys = interfaces
  induction interfaces generalizing c with
  | nil => exact h
  | cons interface interfaces ih => exact ih (recordedBy_isEmpty h now interface)

theorem recordedBy_getData (h : c.RecordedBy writes) (now : Int)
    (interface channelAddress parameter : String) :
    (c.getData now interface channelAddress parameter).2.RecordedBy writes := by
  have hchecked := recordedBy_isEmpty h now interface
  simp only [getData]
  split
  · exact hchecked
  · exact hchecked

end CentralDataCache

end AioHomematic.Store

/-!
## Loading the central data cache

`CentralDataCache.load`. Fetching from a client awaits its backend, and `fetch`
says what the clock and the cache are when that is over, whatever other tasks
have done meanwhile. The loop leaves out clients of other interfaces, and it is
over at the first client whose interface is fresh: `served_load_iff` says when
no client is missed by that.
-/

namespace AioHomematic.Store

open Lib Support

/-- What `load` asks of a client. -/
structure DataClient where
  interfaceId : String
  interface : String
deriving DecidableEq

/-- The clients of a central, by interface id. -/
structure ClientProvider where
  clients : List DataClient
  nodup : (clients.map (·.interfaceId)).Nodup

namespace CentralDataCache

/-- The clock and the cache. -/
structure Moment (V : Type*) where
  now : Int
  data : CentralDataCache V

/-- `int(MAX_CACHE_AGE / 3)`. -/
def loadAge : Int := maxCacheAge / 3

variable {V : Type*}

/-- The values of the interface were fetched a moment ago. -/
def Moment.fresh (m : Moment V) (interface : String) : Bool :=
  changedWithinSeconds m.now (m.data.getRefreshedAt interface) loadAge

/-- The clients that the argument `interface` selects; `none` selects all. -/
def Selected (interface : Option String) (client : DataClient) : Prop :=
  ∀ i ∈ interface, i = client.interface

instance (interface : Option String) (client : DataClient) :
    Decidable (Selected interface client) :=
  inferInstanceAs (Decidable (∀ i ∈ interface, i = client.interface))

section

variable (fetch : Moment V → DataClient → Except PyException (Moment V)) (directCall : Bool)
  (interface : Option String)

/-- `load`, with the clients that were fetched. -/
def load : Moment V → List DataClient → Except PyException (List DataClient × Moment V)
  | m, [] => .ok ([], m)
  | m, client :: clients =>
    if ¬ Selected interface client then load m clients
    else if directCall = false ∧ m.fresh client.interface = true then .ok ([], m)
    else
      match fetch m client with
      | .error exc => .error exc
      | .ok m' =>
        match load m' clients with
        | .error exc => .error exc
        | .ok (fetched, last) => .ok (client :: fetched, last)

/-- Every client of the list that is selected was fetched, or its interface is fresh. -/
def Served (clients : List DataClient) (result : List DataClient × Moment V) : Prop :=
  ∀ client ∈ clients, Selected interface client →
    client ∈ result.1 ∨ result.2.fresh client.interface = true

/-- The loop has done with these clients, and goes on. -/
inductive Arrives : Moment V → List DataClient → Moment V → Prop where
  | refl (m : Moment V) : Arrives m [] m
  | skip {m m' : Moment V} {client : DataClient} {clients : List DataClient} :
      ¬ Selected interface client → Arrives m clients m' → Arrives m (client :: clients) m'
  | fetched {m m' last : Moment V} {client : DataClient} {clients : List DataClient} :
      Selected interface client → ¬ (directCall = false ∧ m.fresh client.interface = true) →
      fetch m client = .ok m' → Arrives m' clients last → Arrives m (client :: clients) last

/-- Only fresh interfaces come after the first fresh one, unless the call is direct. -/
def FreshLast (m : Moment V) (clients : List DataClient) : Prop :=
  directCall = false → ∀ before client after m', clients = before ++ client :: after →
    Arrives fetch directCall interface m before m' → Selected interface client →
    m'.fresh client.interface = true →
    ∀ c ∈ after, Selected interface c → m'.fresh c.interface = true

end

variable {fetch : Moment V → DataClient → Except PyException (Moment V)} {directCall : Bool}
  {interface : Option String} {m : Moment V} {client : DataClient} {clients : List DataClient}

/-! ## One client -/

theorem freshLast_skip (hskip : ¬ Selected interface client) :
    FreshLast fetch directCall interface m (client :: clients) ↔
      FreshLast fetch directCall interface m clients := by
  refine forall_congr' fun _ => ⟨fun h before c after m' heq harrives => ?_, ?_⟩
  · exact h (client :: before) c after m' (by rw [heq, List.cons_append]) (.skip hskip harrives)
  · intro h before c after m' heq harrives hselected
    cases harrives with
    | refl =>
      cases heq
      exact absurd hselected hskip
    | skip _ harrives =>
      exact h _ c after m' (List.cons.inj heq).2 harrives hselected
    | fetched hselected' =>
      obtain ⟨rfl, -⟩ := List.cons.inj heq
      exact absurd hselected' hskip

theorem freshLast_fresh (hselected : Selected interface client)
    (hfresh : directCall = false ∧ m.fresh client.interface = true) :
    FreshLast fetch directCall interface m (client :: clients) ↔
      ∀ c ∈ clients, Selected interface c → m.fresh c.interface = true := by
  constructor
  · intro h
    exact h hfresh.1 [] client clients m rfl (.refl m) hselected hfresh.2
  · intro h _ before c after m' heq harrives
    cases harrives with
    | refl =>
      cases heq
      exact fun _ _ => h
    | skip hskip =>
      obtain ⟨rfl, -⟩ := List.cons.inj heq
      exact absurd hselected hskip
    | fetched _ hstale =>
      obtain ⟨rfl, -⟩ := List.cons.inj heq
      exact absurd hfresh hstale

theorem freshLast_stale (hselected : Selected interface client)
    (hstale : ¬ (directCall = false ∧ m.fresh client.interface = true)) :
    FreshLast fetch directCall interface m (client :: clients) ↔
      ∀ m', fetch m client = .ok m' → FreshLast fetch directCall interface m' clients := by
  constructor
  · intro h m' hfetch hcached before c after m'' heq harrives
    exact h hcached (client :: before) c after m'' (by rw [heq, List.cons_append])
      (.fetched hselected hstale hfetch harrives)
  · intro h hcached before c after m'' heq harrives _ hfresh
    cases harrives with
    | refl =>
      cases heq
      exact absurd ⟨hcached, hfresh⟩ hstale
    | skip hskip =>
      obtain ⟨rfl, -⟩ := List.cons.inj heq
      exact absurd hselected hskip
    | fetched _ _ hfetch harrives =>
      obtain ⟨hclient, hclients⟩ := List.cons.inj heq
      subst hclient
      exact h _ hfetch hcached _ c after m'' hclients harrives ‹_› hfresh

theorem freshLast_fetched {m' : Moment V} (hselected : Selected interface client)
    (hstale : ¬ (directCall = false ∧ m.fresh client.interface = true))
    (hfetch : fetch m client = .ok m') :
    FreshLast fetch directCall interface m (client :: clients) ↔
      FreshLast fetch directCall interface m' clients := by
  rw [freshLast_stale hselected hstale]
  constructor
  · exact fun h => h m' hfetch
  · intro h m'' hfetch'
    cases hfetch.symm.trans hfetch'
    exact h

theorem freshLast_error {exc : PyException} (hselected : Selected interface client)
    (hstale : ¬ (directCall = false ∧ m.fresh client.interface = true))
    (hfetch : fetch m client = .error exc) :
    FreshLast fetch directCall interface m (client :: clients) := by
  rw [freshLast_stale hselected hstale]
  intro m' hfetch'
  cases hfetch.symm.trans hfetch'

/-! ## The loop -/

theorem served_fetched {fetched : List DataClient} {last : Moment V} (hnew : client ∉ clients) :
    Served interface (client :: clients) (client :: fetched, last) ↔
      Served interface clients (fetched, last) := by
  unfold Served
  rw [List.forall_mem_cons]
  constructor
  · rintro ⟨-, h⟩ c hc hselected
    rcases h c hc hselected with hfetched | hfresh
    · rcases List.mem_cons.mp hfetched with rfl | hfetched
      · exact absurd hc hnew
      · exact .inl hfetched
    · exact .inr hfresh
  · intro h
    refine ⟨fun _ => .inl (List.mem_cons_self ..), fun c hc hselected => ?_⟩
    exact (h c hc hselected).imp_left (List.mem_cons_of_mem client)

theorem served_load (hnodup : clients.Nodup) :
    (∀ result, load fetch directCall interface m clients = .ok result →
        Served interface clients result) ↔
      FreshLast fetch directCall interface m clients := by
  induction clients generalizing m with
  | nil =>
    refine iff_of_true (fun _ _ _ hc => nomatch hc) fun _ before c after _ heq => ?_
    exact absurd heq.symm (List.append_ne_nil_of_right_ne_nil _ (List.cons_ne_nil c after))
  | cons client clients ih =>
    obtain ⟨hnew, hnodup⟩ := List.nodup_cons.mp hnodup
    by_cases hselected : Selected interface client
    case neg =>
      rw [freshLast_skip hselected, ← ih hnodup, load, if_pos hselected]
      refine forall₂_congr fun result _ => ?_
      rw [Served, List.forall_mem_cons, and_iff_right fun h => absurd h hselected, Served]
    by_cases hfresh : directCall = false ∧ m.fresh client.interface = true
    case pos =>
      rw [freshLast_fresh hselected hfresh, load, if_neg (not_not.mpr hselected), if_pos hfresh]
      simp [Served, hfresh.2]
    rw [load, if_neg (not_not.mpr hselected), if_neg hfresh]
    cases hfetch : fetch m client with
    | error exc =>
      exact iff_of_true nofun (freshLast_error hselected hfresh hfetch)
    | ok m' =>
      rw [freshLast_fetched hselected hfresh hfetch, ← ih hnodup]
      dsimp only
      cases load fetch directCall interface m' clients with
      | error exc => exact iff_of_true nofun nofun
      | ok result =>
        simp only [Except.ok.injEq, forall_eq']
        exact served_fetched hnew

/-- `load` fetches or finds fresh all that is selected unless a fresh interface comes before one
that is not. -/
theorem served_load_iff (fetch : Moment V → DataClient → Except PyException (Moment V))
    (directCall : Bool) (interface : Option String) (m : Moment V) (provider : ClientProvider) :
    (∀ result, load fetch directCall interface m provider.clients = .ok result →
        Served interface provider.clients result) ↔
      FreshLast fetch directCall interface m provider.clients :=
  served_load provider.nodup.of_map

/-! ### Two interfaces, the first one fresh -/

def twoClients : ClientProvider where
  clients := [⟨"ccu-HmIP-RF", "HmIP-RF"⟩, ⟨"ccu-BidCos-RF", "BidCos-RF"⟩]
  nodup := by decide

/-- Values are fetched at once. -/
def fetchAtOnce (m : Moment Nat) (client : DataClient) : Except PyException (Moment Nat) :=
  .ok { m with data := m.data.addData m.now client.interface (Dict.empty.set "STATE" 1) }

/-- Two seconds after the values of one interface were fetched. -/
def halfLoaded : Moment Nat where
  now := 3000000
  data := CentralDataCache.addData {} 1000000 "HmIP-RF" (Dict.empty.set "STATE" 1)

theorem not_served_first_fresh :
    load fetchAtOnce false none halfLoaded twoClients.clients = .ok ([], halfLoaded) ∧
      halfLoaded.fresh "BidCos-RF" = false ∧
      ¬ Served none twoClients.clients ([], halfLoaded) := by
  have hstale : halfLoaded.fresh "BidCos-RF" = false := by decide
  refine ⟨rfl, hstale, fun h => ?_⟩
  rcases h ⟨"ccu-BidCos-RF", "BidCos-RF"⟩ (by decide) nofun with hfetched | hfresh
  · cases hfetched
  · exact Bool.false_ne_true (hstale.symm.trans hfresh)

end CentralDataCache

end AioHomematic.Store
