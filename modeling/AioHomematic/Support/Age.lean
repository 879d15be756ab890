import Mathlib.Tactic.Tauto

/-!
# The age of a value

`changed_within_seconds` and `CacheEntry` of `support`. Times are microseconds
since `INIT_DATETIME`, as `datetime.now()` reads them.
-/

namespace AioHomematic.Support

def initDatetime : Int := 0

def microsecondsPerSecond : Int := 1000000

def secondsPerDay : Int := 86400

/-- `MAX_CACHE_AGE`. -/
def maxCacheAge : Int := 10

/-- `timedelta.seconds`, which leaves out the full days. -/
def seconds (delta : Int) : Int := delta / microsecondsPerSecond % secondsPerDay

/-- `changed_within_seconds`, at the time `now`. -/
def changedWithinSeconds (now lastChange : Int) (maxAge : Int) : Bool :=
  decide (lastChange ≠ initDatetime ∧ seconds (now - lastChange) < maxAge)

/-- The age does not exceed a number of seconds. -/
def AgedAtMost (now lastChange : Int) (maxAge : Int) : Prop :=
  now - lastChange ≤ maxAge * microsecondsPerSecond

/-- The seconds that the age exceeds full days by tell whether it is too high. -/
def Tells (now lastChange : Int) (maxAge : Int) : Prop :=
  lastChange = initDatetime ∨ AgedAtMost now lastChange maxAge ∨
    maxAge ≤ seconds (now - lastChange)

instance (now lastChange : Int) (maxAge : Int) : Decidable (AgedAtMost now lastChange maxAge) :=
  inferInstanceAs (Decidable (_ ≤ _))

instance (now lastChange : Int) (maxAge : Int) : Decidable (Tells now lastChange maxAge) :=
  inferInstanceAs (Decidable (_ ∨ _ ∨ _))

theorem changedWithinSeconds_iff {now lastChange : Int} {maxAge : Int} :
    (changedWithinSeconds now lastChange maxAge = true → AgedAtMost now lastChange maxAge) ↔
      Tells now lastChange maxAge := by
  simp only [changedWithinSeconds, decide_eq_true_eq, Tells, ← Int.not_lt]
  tauto

/-- Within a day the age is always told. -/
theorem tells_within_day {now lastChange : Int} {maxAge : Int} (hlater : lastChange ≤ now)
    (hday : now - lastChange < secondsPerDay * microsecondsPerSecond) :
    Tells now lastChange maxAge := by
  by_cases haged : AgedAtMost now lastChange maxAge
  · exact .inr (.inl haged)
  · refine .inr (.inr ?_)
    have haged : maxAge * 1000000 < (now - lastChange : Int) := Int.not_le.mp haged
    have hlater : (0 : Int) ≤ now - lastChange := Int.sub_nonneg_of_le hlater
    have hday : (now - lastChange : Int) < 86400 * 1000000 := hday
    simp only [seconds, microsecondsPerSecond, secondsPerDay]
    omega

/-- A change that is not within the maximum age is older. -/
theorem aged_of_not_changedWithinSeconds {now lastChange maxAge : Int}
    (hset : lastChange ≠ initDatetime) (hlater : lastChange ≤ now)
    (h : changedWithinSeconds now lastChange maxAge = false) :
    lastChange + maxAge * microsecondsPerSecond ≤ now := by
  have hseconds : ¬seconds (now - lastChange) < maxAge := fun hlt =>
    of_decide_eq_false h ⟨hset, hlt⟩
  simp only [seconds, microsecondsPerSecond, secondsPerDay] at hseconds ⊢
  omega

/-! ## `CacheEntry` -/

/-- `none` is `NO_CACHE_ENTRY`. -/
structure CacheEntry (V : Type*) where
  value : Option V
  refreshAt : Int
deriving DecidableEq

namespace CacheEntry

variable {V : Type*}

def isValid (now : Int) (entry : CacheEntry V) : Bool :=
  entry.value.isSome && changedWithinSeconds now entry.refreshAt maxCacheAge

end CacheEntry

end AioHomematic.Support
