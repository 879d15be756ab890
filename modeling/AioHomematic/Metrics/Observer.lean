import AioHomematic.Const
import AioHomematic.Lib.Summary
import Mathlib.Algebra.Order.Ring.Unbundled.Rat
import Mathlib.Algebra.Ring.Rat
import Mathlib.Data.List.DropRight
import Mathlib.Order.WithBot

/-!
# The metrics observer

`MetricsObserver` with `LatencyTracker`, `HealthState` and `ObserverSnapshot`.
Durations and gauges are exact numbers here; `math.inf` is the top. The trackers
of several keys are put together like the samples of one, so they are a monoid,
and a tracker never has a negative maximum.
-/

namespace AioHomematic.Metrics

open Lib

/-- `MAX_METRIC_KEYS`. -/
def maxMetricKeys : Nat := 10000

/-! ## Latency -/

@[ext] structure LatencyTracker where
  count : Nat
  totalMs : ℚ
  minMs : WithTop ℚ
  maxMs : ℚ
  maxMs_nonneg : 0 ≤ maxMs

namespace LatencyTracker

/-- `LatencyTracker()`. -/
instance : Zero LatencyTracker := ⟨⟨0, 0, ⊤, 0, le_rfl⟩⟩

/-- What an aggregation makes of the result and the tracker of one more key. -/
instance : Add LatencyTracker where
  add a b :=
    { count := a.count + b.count
      totalMs := a.totalMs + b.totalMs
      minMs := min a.minMs b.minMs
      maxMs := max a.maxMs b.maxMs
      maxMs_nonneg := le_max_of_le_left a.maxMs_nonneg }

instance : AddCommMonoid LatencyTracker where
  add_assoc a b c := LatencyTracker.ext (Nat.add_assoc _ _ _) (add_assoc _ _ _) (min_assoc _ _ _)
    (max_assoc _ _ _)
  zero_add a := LatencyTracker.ext (Nat.zero_add _) (zero_add _) (min_eq_right le_top)
    (max_eq_right a.maxMs_nonneg)
  add_zero a := LatencyTracker.ext (Nat.add_zero _) (add_zero _) (min_eq_left le_top)
    (max_eq_left a.maxMs_nonneg)
  add_comm a b := LatencyTracker.ext (Nat.add_comm _ _) (add_comm _ _) (min_comm _ _)
    (max_comm _ _)
  nsmul := nsmulRec

def record (durationMs : ℚ) (t : LatencyTracker) : LatencyTracker where
  count := t.count + 1
  totalMs := t.totalMs + durationMs
  minMs := min t.minMs durationMs
  maxMs := max t.maxMs durationMs
  maxMs_nonneg := le_max_of_le_left t.maxMs_nonneg

/-- The tracker of one sample. -/
def sample (durationMs : ℚ) : LatencyTracker := record durationMs 0

theorem record_eq (durationMs : ℚ) (t : LatencyTracker) :
    t.record durationMs = t + sample durationMs := by
  refine LatencyTracker.ext rfl ?_ ?_ ?_
  · exact congrArg (t.totalMs + ·) (zero_add durationMs).symm
  · exact congrArg (min t.minMs) (min_eq_right le_top).symm
  · show max t.maxMs durationMs = max t.maxMs (max 0 durationMs)
    rw [← max_assoc, max_eq_left t.maxMs_nonneg]

/-- The tracker of some samples. -/
def ofSamples (durations : List ℚ) : LatencyTracker where
  count := durations.length
  totalMs := durations.sum
  minMs := durations.foldr (fun d m => min (d : WithTop ℚ) m) ⊤
  maxMs := durations.foldr max 0
  maxMs_nonneg := by
    induction durations with
    | nil => exact le_rfl
    | cons d durations ih => exact le_max_of_le_right ih

theorem sum_samples (durations : List ℚ) : (durations.map sample).sum = ofSamples durations := by
  induction durations with
  | nil => rfl
  | cons d durations ih =>
    rw [List.map_cons, List.sum_cons, ih]
    refine LatencyTracker.ext (Nat.add_comm _ _) ?_ ?_ ?_
    · show (0 + d) + durations.sum = (d :: durations).sum
      rw [zero_add, List.sum_cons]
    · exact congrArg (min · _) (min_eq_right le_top)
    · show max (max 0 d) (ofSamples durations).maxMs = max d (ofSamples durations).maxMs
      rw [max_comm 0 d, max_assoc, max_eq_right (ofSamples durations).maxMs_nonneg]

end LatencyTracker

structure HealthState where
  healthy : Bool := true
  reason : Option String := none
deriving DecidableEq

/-! ## Events and the observer -/

inductive MetricEvent where
  | latency (metricKey : String) (durationMs : ℚ) (timestamp : Int)
  | counter (metricKey : String) (delta : Int) (timestamp : Int)
  | gauge (metricKey : String) (value : ℚ) (timestamp : Int)
  | health (metricKey : String) (healthy : Bool) (reason : Option String) (timestamp : Int)

structure MetricsObserver where
  latency : Dict String LatencyTracker := .empty
  counters : Dict String Int := .empty
  gauges : Dict String ℚ := .empty
  health : Dict String HealthState := .empty
  lastEventTime : Option Int := none

namespace MetricsObserver

def handleLatency (metricKey : String) (durationMs : ℚ) (timestamp : Int) (o : MetricsObserver) :
    MetricsObserver :=
  if maxMetricKeys ≤ o.latency.entries.length then o
  else
    { o with
      latency := o.latency.modifyD metricKey 0 (·.record durationMs)
      lastEventTime := some timestamp }

def handleCounter (metricKey : String) (delta timestamp : Int) (o : MetricsObserver) :
    MetricsObserver :=
  if maxMetricKeys ≤ o.counters.entries.length then o
  else
    { o with
      counters := o.counters.modifyD metricKey 0 (· + delta)
      lastEventTime := some timestamp }

def handleGauge (metricKey : String) (value : ℚ) (timestamp : Int) (o : MetricsObserver) :
    MetricsObserver :=
  if maxMetricKeys ≤ o.gauges.entries.length then o
  else { o with gauges := o.gauges.set metricKey value, lastEventTime := some timestamp }

def handleHealth (metricKey : String) (healthy : Bool) (reason : Option String) (timestamp : Int)
    (o : MetricsObserver) : MetricsObserver :=
  { o with
    health := o.health.set metricKey { healthy, reason }
    lastEventTime := some timestamp }

def handle : MetricEvent → MetricsObserver → MetricsObserver
  | .latency metricKey durationMs timestamp => handleLatency metricKey durationMs timestamp
  | .counter metricKey delta timestamp => handleCounter metricKey delta timestamp
  | .gauge metricKey value timestamp => handleGauge metricKey value timestamp
  | .health metricKey healthy reason timestamp => handleHealth metricKey healthy reason timestamp

def clear (_ : MetricsObserver) : MetricsObserver := {}

def recordEventReceived (now : Int) (o : MetricsObserver) : MetricsObserver :=
  { o with lastEventTime := some now }

def getAggregatedCounter (pattern : String) (o : MetricsObserver) : Int :=
  (o.counters.entries.filter fun e => startsWith e.1 pattern).foldl
    (fun total e => total + e.2) 0

/-- One round of the loop in `get_aggregated_latency`. -/
def aggregate (result tracker : LatencyTracker) : LatencyTracker where
  count := result.count + tracker.count
  totalMs := result.totalMs + tracker.totalMs
  minMs := if tracker.minMs ≠ ⊤ then min result.minMs tracker.minMs else result.minMs
  maxMs := max result.maxMs tracker.maxMs
  maxMs_nonneg := le_max_of_le_left result.maxMs_nonneg

def getAggregatedLatency (pattern : String) (o : MetricsObserver) : LatencyTracker :=
  (o.latency.entries.filter fun e => startsWith e.1 pattern).foldl
    (fun result e => aggregate result e.2) 0

/-- `snapshot()`: copies of the dictionaries. -/
structure Snapshot where
  latency : Dict String LatencyTracker
  counters : Dict String Int
  gauges : Dict String ℚ
  health : Dict String HealthState

def snapshot (o : MetricsObserver) : Snapshot where
  latency := o.latency
  counters := o.counters
  gauges := o.gauges
  health := o.health

namespace Snapshot

def aggregateCounters (pattern : String) (s : Snapshot) : Int :=
  (s.counters.entries.filter fun e => startsWith e.1 pattern).foldl
    (fun total e => total + e.2) 0

/-- `aggregate_latency`, which takes the minimum of every tracker. -/
def aggregateLatency (pattern : String) (s : Snapshot) : LatencyTracker :=
  (s.latency.entries.filter fun e => startsWith e.1 pattern).foldl
    (fun result e => result + e.2) 0

end Snapshot

def getGauge (key : String) (default : ℚ) (o : MetricsObserver) : ℚ :=
  (o.gauges.get? key).getD default

def getHealth (key : String) (o : MetricsObserver) : Option HealthState := o.health.get? key

/-! ## Runs -/

inductive Call where
  | handle (event : MetricEvent)
  | clear
  | recordEventReceived (now : Int)

def Call.isClear : Call → Bool
  | clear => true
  | _ => false

def apply (o : MetricsObserver) : Call → MetricsObserver
  | .handle event => o.handle event
  | .clear => o.clear
  | .recordEventReceived now => o.recordEventReceived now

def run (calls : List Call) : MetricsObserver := calls.foldl apply {}

/-- The calls since the last `clear()`. -/
def sinceClear (calls : List Call) : List Call := calls.rtakeWhile fun c => !c.isClear

def Call.duration? : Call → Option (String × ℚ)
  | .handle (.latency metricKey durationMs _) => some (metricKey, durationMs)
  | _ => none

def Call.count? : Call → Option (String × Int)
  | .handle (.counter metricKey delta _) => some (metricKey, delta)
  | _ => none

def Call.level? : Call → Option (String × ℚ)
  | .handle (.gauge metricKey value _) => some (metricKey, value)
  | _ => none

def Call.verdict? : Call → Option (String × HealthState)
  | .handle (.health metricKey healthy reason _) => some (metricKey, { healthy, reason })
  | _ => none

/-- The durations that have come since the last `clear()`, with their keys. -/
def durations (calls : List Call) : List (String × ℚ) := (sinceClear calls).filterMap Call.duration?

def counts (calls : List Call) : List (String × Int) := (sinceClear calls).filterMap Call.count?

def levels (calls : List Call) : List (String × ℚ) := (sinceClear calls).filterMap Call.level?

def verdicts (calls : List Call) : List (String × HealthState) :=
  (sinceClear calls).filterMap Call.verdict?

/-! ## What the observer holds -/

def addDuration : Dict String LatencyTracker → String × ℚ → Dict String LatencyTracker :=
  bounded maxMetricKeys (collect Prod.fst fun e => LatencyTracker.sample e.2)

def addCount : Dict String Int → String × Int → Dict String Int :=
  bounded maxMetricKeys (collect Prod.fst Prod.snd)

def setLevel : Dict String ℚ → String × ℚ → Dict String ℚ :=
  bounded maxMetricKeys (put Prod.fst Prod.snd)

def setVerdict : Dict String HealthState → String × HealthState → Dict String HealthState :=
  put Prod.fst Prod.snd

/-- The parts of the observer, as functions of what has come since the last `clear()`. -/
structure Holds (calls : List Call) (o : MetricsObserver) : Prop where
  latency : o.latency = (durations calls).foldl addDuration .empty
  counters : o.counters = (counts calls).foldl addCount .empty
  gauges : o.gauges = (levels calls).foldl setLevel .empty
  health : o.health = (verdicts calls).foldl setVerdict .empty

/-- What a call does to the parts of the observer. -/
structure Adds (c : Call) (o o' : MetricsObserver) : Prop where
  latency : o'.latency = c.duration?.toList.foldl addDuration o.latency
  counters : o'.counters = c.count?.toList.foldl addCount o.counters
  gauges : o'.gauges = c.level?.toList.foldl setLevel o.gauges
  health : o'.health = c.verdict?.toList.foldl setVerdict o.health

variable {calls : List Call} {o o' : MetricsObserver} {c : Call}

theorem apply_adds (hc : c.isClear = false) : Adds c o (o.apply c) := by
  cases c with
  | clear => cases hc
  | recordEventReceived now => exact ⟨rfl, rfl, rfl, rfl⟩
  | handle event =>
    cases event with
    | latency metricKey durationMs timestamp =>
      show Adds _ o (o.handleLatency metricKey durationMs timestamp)
      unfold handleLatency
      split
      next hfull => exact ⟨(if_pos hfull).symm, rfl, rfl, rfl⟩
      next hfull =>
        refine ⟨Eq.trans ?_ (if_neg hfull).symm, rfl, rfl, rfl⟩
        exact congrArg (o.latency.modifyD metricKey 0)
          (funext fun t => LatencyTracker.record_eq durationMs t)
    | counter metricKey delta timestamp =>
      show Adds _ o (o.handleCounter metricKey delta timestamp)
      unfold handleCounter
      split
      next hfull => exact ⟨rfl, (if_pos hfull).symm, rfl, rfl⟩
      next hfull => exact ⟨rfl, (if_neg hfull).symm, rfl, rfl⟩
    | gauge metricKey value timestamp =>
      show Adds _ o (o.handleGauge metricKey value timestamp)
      unfold handleGauge
      split
      next hfull => exact ⟨rfl, rfl, (if_pos hfull).symm, rfl⟩
      next hfull => exact ⟨rfl, rfl, (if_neg hfull).symm, rfl⟩
    | health metricKey healthy reason timestamp => exact ⟨rfl, rfl, rfl, rfl⟩

theorem filterMap_sinceClear {β : Type*} (f : Call → Option β) (hc : c.isClear = false) :
    (sinceClear (calls ++ [c])).filterMap f = (sinceClear calls).filterMap f ++ (f c).toList := by
  have hmore : sinceClear (calls ++ [c]) = sinceClear calls ++ [c] :=
    List.rtakeWhile_concat_pos _ _ _ (by rw [hc]; rfl)
  rw [hmore, List.filterMap_append]
  cases hf : f c <;> simp [hf]

theorem Holds.step (h : Holds calls o) (c : Call) : Holds (calls ++ [c]) (o.apply c) := by
  cases hc : c.isClear with
  | true =>
    have hnone : sinceClear (calls ++ [c]) = [] :=
      List.rtakeWhile_concat_neg _ _ _ (by rw [hc]; nofun)
    obtain rfl : c = .clear := by
      cases c <;> cases hc
      rfl
    unfold Call.isClear at hc
    constructor <;> simp only [durations, counts, levels, verdicts, hnone] <;> rfl
  | false =>
    have hadds := apply_adds (o := o) hc
    refine ⟨?_, ?_, ?_, ?_⟩
    · rw [hadds.latency, h.latency]
      unfold durations
      rw [filterMap_sinceClear _ hc, List.foldl_append]
    · rw [hadds.counters, h.counters]
      unfold counts
      rw [filterMap_sinceClear _ hc, List.foldl_append]
    · rw [hadds.gauges, h.gauges]
      unfold levels
      rw [filterMap_sinceClear _ hc, List.foldl_append]
    · rw [hadds.health, h.health]
      unfold verdicts
      rw [filterMap_sinceClear _ hc, List.foldl_append]

theorem holds_run (calls : List Call) : Holds calls (run calls) := by
  induction calls using List.reverseRecOn with
  | nil => exact ⟨rfl, rfl, rfl, rfl⟩
  | append_singleton calls c ih =>
    unfold run
    rw [List.foldl_append]
    exact ih.step c

/-! ## Aggregation -/

theorem aggregate_eq (result tracker : LatencyTracker) :
    aggregate result tracker = result + tracker := by
  refine LatencyTracker.ext rfl rfl ?_ rfl
  show (if tracker.minMs ≠ ⊤ then min result.minMs tracker.minMs else result.minMs) =
    min result.minMs tracker.minMs
  split
  · rfl
  next hnot => rw [not_not.mp hnot, min_eq_left le_top]

theorem foldl_add {M : Type*} [AddCommMonoid M] {κ : Type*} (l : List (κ × M)) (m : M) :
    l.foldl (fun result e => result + e.2) m = m + (l.map Prod.snd).sum := by
  induction l generalizing m with
  | nil => exact (add_zero m).symm
  | cons e l ih => rw [List.foldl_cons, ih, List.map_cons, List.sum_cons, add_assoc]

theorem getAggregatedCounter_eq (pattern : String) (o : MetricsObserver) :
    o.getAggregatedCounter pattern = total (startsWith · pattern) o.counters := by
  unfold getAggregatedCounter
  rw [foldl_add, zero_add]
  rfl

theorem getAggregatedLatency_eq (pattern : String) (o : MetricsObserver) :
    o.getAggregatedLatency pattern = total (startsWith · pattern) o.latency := by
  unfold getAggregatedLatency
  simp only [aggregate_eq]
  rw [foldl_add, zero_add]
  rfl

/-! ## The history of the observer -/

theorem amounts_sample (p : String → Bool) (l : List (String × ℚ)) :
    amounts p Prod.fst (fun e => LatencyTracker.sample e.2) l =
      LatencyTracker.ofSamples ((l.filter fun e => p e.1).map Prod.snd) := by
  unfold amounts
  rw [← LatencyTracker.sum_samples, List.map_map]
  rfl

/-- What the observer holds for any prefix of the keys is what has come for them since the last
`clear()`, until there are `MAX_METRIC_KEYS` keys of the kind; the gauges and the health states are
the last that have come, the former with the same bound. -/
theorem observer_history (calls : List Call) (pattern : String) :
    (run calls).getAggregatedCounter pattern =
        (((kept maxMetricKeys Prod.fst ∅ (counts calls)).filter fun e =>
          startsWith e.1 pattern).map Prod.snd).sum ∧
      (run calls).getAggregatedLatency pattern = LatencyTracker.ofSamples
        (((kept maxMetricKeys Prod.fst ∅ (durations calls)).filter fun e =>
          startsWith e.1 pattern).map Prod.snd) ∧
      (run calls).snapshot.aggregateCounters pattern = (run calls).getAggregatedCounter pattern ∧
      (run calls).snapshot.aggregateLatency pattern = (run calls).getAggregatedLatency pattern ∧
      (∀ key default, (run calls).getGauge key default =
        (latest Prod.fst Prod.snd key (kept maxMetricKeys Prod.fst ∅ (levels calls))).getD
          default) ∧
      (∀ key, (run calls).getHealth key = latest Prod.fst Prod.snd key (verdicts calls)) ∧
      (((counts calls).map Prod.fst).toFinset.card < maxMetricKeys →
        kept maxMetricKeys Prod.fst ∅ (counts calls) = counts calls) ∧
      (((durations calls).map Prod.fst).toFinset.card < maxMetricKeys →
        kept maxMetricKeys Prod.fst ∅ (durations calls) = durations calls) ∧
      (((levels calls).map Prod.fst).toFinset.card < maxMetricKeys →
        kept maxMetricKeys Prod.fst ∅ (levels calls) = levels calls) := by
  have hholds := holds_run calls
  refine ⟨?_, ?_, rfl, ?_, fun key default => ?_, fun key => ?_, fun hcard => ?_,
    fun hcard => ?_, fun hcard => ?_⟩
  · rw [getAggregatedCounter_eq, hholds.counters]
    exact total_bounded _ _ _ _
  · rw [getAggregatedLatency_eq, hholds.latency]
    exact (total_bounded _ _ _ _).trans (amounts_sample (startsWith · pattern) _)
  · unfold getAggregatedLatency
    simp only [aggregate_eq]
    rfl
  · unfold getGauge
    rw [hholds.gauges]
    exact congrArg (Option.getD · default) (get?_bounded_put _ _ _ _)
  · unfold getHealth
    rw [hholds.health]
    exact (get?_foldl_put _ _ _ _ _).trans Option.or_none
  · exact kept_eq_self (by rwa [Finset.empty_union])
  · exact kept_eq_self (by rwa [Finset.empty_union])
  · exact kept_eq_self (by rwa [Finset.empty_union])

end MetricsObserver

end AioHomematic.Metrics
