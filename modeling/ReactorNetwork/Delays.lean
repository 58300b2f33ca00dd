import Mathlib.Algebra.Order.Field.Rat
import Mathlib.Algebra.Order.Field.Basic
import Mathlib.Tactic.NormNum
import ReactorNetwork.TimerQueue

/-!
# From times to delays and back

Two conversions stand between the timer queue and the clock. Arming the timer
descriptor turns an expiration into a relative `timespec`; asking for a timer
turns a `double` of seconds into a `TimeStamp`. Each passes through a machine
integer narrower than its argument, and the laws here say for which arguments
nothing is lost on the way.

Nanosecond counts are signed 64-bit numbers, written as integers with the bound
`Representable` where it is needed. The microsecond count of the first
conversion is an unsigned 64-bit number; the one of the second is an `int`. A
`double` is a rational number, so the product with a million is exact.
-/

namespace ReactorNetwork

/-- The value of a signed 64-bit number. -/
def Representable (value : Int) : Prop := -2 ^ 63 ≤ value ∧ value < 2 ^ 63

instance (value : Int) : Decidable (Representable value) :=
  inferInstanceAs (Decidable (_ ∧ _))

/-- The conversion of a signed 64-bit number to `uint64_t`. -/
def toUint64 (value : Int) : Nat := (value % 2 ^ 64).toNat

/-- Microseconds in a second. -/
def kMicroSecondsPerSecond : Nat := 1000000

/-- A `struct timespec`. -/
structure Timespec where
  tvSec : Int
  tvNsec : Int
deriving DecidableEq, Repr

/-- A `struct itimerspec`. -/
structure Itimerspec where
  itInterval : Timespec
  itValue : Timespec
deriving DecidableEq, Repr

/-- The count is converted to `uint64_t` and then raised to the least delay. -/
def howMuchTimeFromNow (when_ : TimeStamp) (now : Int) : Timespec :=
  -- dividing by a duration of one microsecond truncates
  let count := toUint64 ((when_.val - now).tdiv 1000)
  let msInterval := if count < 100 then 100 else count
  ⟨(msInterval / kMicroSecondsPerSecond : Nat),
    (msInterval % kMicroSecondsPerSecond * 1000 : Nat)⟩

namespace TimerFd

/-- The `new_value` that `reset_timer_fd` passes to `timerfd_settime`. -/
def newValue (expiration : TimeStamp) (now : Int) : Itimerspec :=
  ⟨⟨0, 0⟩, howMuchTimeFromNow expiration now⟩

/-- The descriptor is armed once, with a well-formed `timespec` of as many whole
microseconds as remain, and never of less than a hundred. -/
def ArmedRight (expiration : TimeStamp) (now : Int) : Prop :=
  let spec := newValue expiration now
  spec.itInterval = ⟨0, 0⟩ ∧ 0 ≤ spec.itValue.tvNsec ∧ spec.itValue.tvNsec < 10 ^ 9 ∧
    spec.itValue.tvSec * 10 ^ 6 + spec.itValue.tvNsec / 1000 =
      max 100 ((expiration.val - now) / 1000)

instance (expiration : TimeStamp) (now : Int) : Decidable (ArmedRight expiration now) :=
  inferInstanceAs (Decidable (_ ∧ _ ∧ _ ∧ _))

end TimerFd

/-- The two fields put the microseconds back together. -/
theorem timespec_split (count : Nat) :
    let nanoseconds : Int := (count % kMicroSecondsPerSecond * 1000 : Nat)
    0 ≤ nanoseconds ∧ nanoseconds < 10 ^ 9 ∧
      ((count / kMicroSecondsPerSecond : Nat) : Int) * 10 ^ 6 + nanoseconds / 1000 = count := by
  simp only [kMicroSecondsPerSecond]
  omega

/-- A count that is not negative converts to itself. -/
theorem toUint64_nonneg {value : Int} (nonneg : 0 ≤ value) (representable : value < 2 ^ 63) :
    (toUint64 value : Int) = value := by
  simp only [toUint64]
  omega

/-- A negative count converts to a number no signed count reaches. -/
theorem toUint64_neg {value : Int} (negative : value < 0) (representable : -2 ^ 63 ≤ value) :
    2 ^ 63 ≤ toUint64 value := by
  simp only [toUint64]
  omega

/-- The fields of the `timespec` always add up to the count they were split from. -/
theorem howMuchTimeFromNow_total (when_ : TimeStamp) (now : Int) :
    let spec := howMuchTimeFromNow when_ now
    0 ≤ spec.tvNsec ∧ spec.tvNsec < 10 ^ 9 ∧
      spec.tvSec * 10 ^ 6 + spec.tvNsec / 1000 =
        max 100 (toUint64 ((when_.val - now).tdiv 1000) : Int) := by
  obtain ⟨lower, upper, total⟩ := timespec_split
    (if toUint64 ((when_.val - now).tdiv 1000) < 100 then 100
      else toUint64 ((when_.val - now).tdiv 1000))
  refine ⟨lower, upper, total.trans ?_⟩
  split <;> omega

/-- Truncation rounds a negative quotient up. -/
theorem tdiv_thousand (value : Int) :
    value.tdiv 1000 = if 0 ≤ value then value / 1000 else -(-value / 1000) := by
  split
  · rename_i nonneg
    exact Int.tdiv_eq_ediv_of_nonneg nonneg
  · rename_i negative
    have positive : 0 ≤ -value := by omega
    rw [← Int.tdiv_eq_ediv_of_nonneg positive, Int.neg_tdiv, Int.neg_neg]

namespace TimerFd

/-- The descriptor is armed for the time that remains exactly when the expiration
is less than a microsecond in the past, or not in the past at all.

Proof: the fields add up to the converted count whatever it is. Truncation and
rounding down agree on what remains of a future expiration, and both leave less
than a hundred for one less than a microsecond ago. A count that is negative is
converted before it is compared, and then exceeds every delay. -/
theorem armedRight_iff (expiration : TimeStamp) (now : Int)
    (representable : Representable (expiration.val - now)) :
    ArmedRight expiration now ↔ -1000 < expiration.val - now := by
  obtain ⟨lower, upper, total⟩ := howMuchTimeFromNow_total expiration now
  obtain ⟨notBelow, notAbove⟩ := representable
  have truncated := tdiv_thousand (expiration.val - now)
  constructor
  · rintro ⟨-, -, -, armed⟩
    by_contra past
    rw [if_neg (by omega)] at truncated
    have negative : (expiration.val - now).tdiv 1000 < 0 := by omega
    have bounded : -2 ^ 63 ≤ (expiration.val - now).tdiv 1000 := by omega
    have converted := toUint64_neg negative bounded
    have same := total.symm.trans armed
    omega
  · intro recent
    refine ⟨rfl, lower, upper, total.trans ?_⟩
    have nonneg : 0 ≤ (expiration.val - now).tdiv 1000 := by
      split at truncated <;> omega
    have bounded : (expiration.val - now).tdiv 1000 < 2 ^ 63 := by
      split at truncated <;> omega
    rw [toUint64_nonneg nonneg bounded]
    split at truncated <;> omega

/-- An expiration less than a microsecond ago is armed for a hundred
microseconds. -/
theorem armedRight_iff_justDue :
    Representable ((TimeStamp.ofTimePoint 5000).val - 5999) ∧
      (ArmedRight (TimeStamp.ofTimePoint 5000) 5999 ↔ -1000 < (5000 : Int) - 5999) :=
  ⟨by decide, armedRight_iff (TimeStamp.ofTimePoint 5000) 5999 (by decide)⟩

/-- A timer that is a millisecond late arms the descriptor for more than half a
million years. -/
theorem late_timer_never_fires :
    Representable ((TimeStamp.ofTimePoint 1000000).val - 2000000) ∧
      (newValue (TimeStamp.ofTimePoint 1000000) 2000000).itValue =
        ⟨18446744073709, 550616000⟩ ∧
      ¬ ArmedRight (TimeStamp.ofTimePoint 1000000) 2000000 := by
  decide

end TimerFd

/-- The conversion of a `double` to `int`: the fraction is dropped, and a value
that does not fit has no defined result. -/
def intOfDouble (value : ℚ) : Option Int :=
  let truncated := value.num.tdiv value.den
  if -2 ^ 31 ≤ truncated ∧ truncated < 2 ^ 31 then some truncated else none

/-- What a timer reads of an interval of so many seconds. -/
def Interval.ofSeconds (seconds : ℚ) : Option Interval :=
  (intOfDouble (seconds * 1000000)).map (fun microseconds => ⟨decide (0 < seconds), microseconds⟩)

/-- `add_time`, from the seconds its caller gives. -/
def addTime (timeStamp : TimeStamp) (seconds : ℚ) : Option TimeStamp :=
  (Interval.ofSeconds seconds).map (Timer.addTime timeStamp)

namespace EventLoop

/-- The timer that `run_after` adds. -/
def runAfter (now : TimeStamp) (delay : ℚ) : Option Timer :=
  (addTime now delay).map (fun time => ⟨time, ⟨false, 0⟩⟩)

/-- The timer that `run_every` adds. -/
def runEvery (now : TimeStamp) (interval : ℚ) : Option Timer := do
  let time ← addTime now interval
  let read ← Interval.ofSeconds interval
  pure ⟨time, read⟩

end EventLoop

namespace Delay

/-- A delay of a whole number of microseconds, in seconds. -/
def seconds (delay : Nat) : ℚ := (delay : ℚ) / 1000000

/-- The time so many microseconds after `now`. -/
def after (now : TimeStamp) (delay : Nat) : TimeStamp :=
  TimeStamp.ofTimePoint (now.val + 1000 * delay)

/-- The delay is kept exactly: by `add_time`, by the timer of `run_after`, by the
first expiration of the timer of `run_every`, and by each restart of it after any
restarts before. `reset` restarts repeating timers only. -/
structure Exact (now : TimeStamp) (delay : Nat) : Prop where
  addTime : addTime now (seconds delay) = some (after now delay)
  runAfter : (EventLoop.runAfter now (seconds delay)).map Timer.expiration =
    some (after now delay)
  runEvery : ∃ timer, EventLoop.runEvery now (seconds delay) = some timer ∧
    timer.expiration = after now delay ∧ (timer.repeats = true ↔ 0 < delay) ∧
    (timer.repeats = true → ∀ (earlier : List TimeStamp) (later : TimeStamp),
      ((earlier.foldl Timer.restart timer).restart later).expiration = after later delay)

/-- Two delays give expirations in the order of the delays. -/
def SameOrder (now : TimeStamp) (delay other : Nat) : Prop :=
  ∃ first second, addTime now (seconds delay) = some first ∧
    addTime now (seconds other) = some second ∧
    (first.val < second.val ↔ delay < other)

/-- The longest delay whose microseconds are an `int`. -/
def longest : Nat := 2147483647

/-- Whole microseconds survive the conversion while they fit. -/
theorem intOfDouble_whole (count : Nat) :
    intOfDouble (count : ℚ) = if count ≤ longest then some (count : Int) else none := by
  have truncated : ((count : ℚ).num.tdiv (count : ℚ).den) = (count : Int) := by simp
  simp only [intOfDouble, truncated]
  by_cases fits : count ≤ longest
  · rw [if_pos fits, if_pos]
    simp only [longest] at fits
    omega
  · rw [if_neg fits, if_neg]
    simp only [longest] at fits
    omega

/-- A delay of whole microseconds, given in seconds, becomes that interval if `int` can
hold it. -/
theorem ofSeconds_seconds (delay : Nat) :
    Interval.ofSeconds (seconds delay) =
      if delay ≤ longest then some ⟨decide (0 < delay), delay⟩ else none := by
  have product : seconds delay * 1000000 = (delay : ℚ) := by
    simp [seconds]
  have positive : 0 < seconds delay ↔ 0 < delay := by
    rw [seconds, div_pos_iff_of_pos_right (by norm_num), Nat.cast_pos]
  simp only [Interval.ofSeconds, product, intOfDouble_whole, positive]
  split <;> rfl

/-- It is added to a time in the same cases. -/
theorem addTime_seconds (now : TimeStamp) (delay : Nat) :
    addTime now (seconds delay) = if delay ≤ longest then some (after now delay) else none := by
  simp only [ReactorNetwork.addTime, ofSeconds_seconds]
  split <;> rfl

/-- Restarting changes the expiration only. -/
theorem restarts_interval (timer : Timer) (earlier : List TimeStamp) :
    (earlier.foldl Timer.restart timer).interval = timer.interval := by
  induction earlier generalizing timer with
  | nil => rfl
  | cons first rest inductionHypothesis =>
    have once : (timer.restart first).interval = timer.interval := by
      unfold Timer.restart
      split <;> rfl
    exact (inductionHypothesis (timer.restart first)).trans once

/-- A repeating timer expires an interval after its restart. -/
theorem restart_expiration {timer : Timer} (now : TimeStamp) (repeating : timer.repeats = true) :
    (timer.restart now).expiration = Timer.addTime now timer.interval := by
  simp [Timer.restart, repeating]

/-- A delay that fits is kept by each function it passes through. -/
theorem exact_of_le (now : TimeStamp) {delay : Nat} (fits : delay ≤ longest) :
    Exact now delay where
  addTime := by rw [addTime_seconds, if_pos fits]
  runAfter := by
    rw [EventLoop.runAfter, addTime_seconds, if_pos fits]
    rfl
  runEvery := by
    refine ⟨⟨after now delay, ⟨decide (0 < delay), delay⟩⟩, ?_, rfl, decide_eq_true_iff, ?_⟩
    · rw [EventLoop.runEvery, addTime_seconds, ofSeconds_seconds, if_pos fits, if_pos fits]
      rfl
    · intro repeating earlier later
      have interval := restarts_interval ⟨after now delay, ⟨decide (0 < delay), delay⟩⟩ earlier
      rw [restart_expiration later, interval]
      · rfl
      · rw [Timer.repeats, interval]
        exact repeating

/-- Delays are scheduled exactly, and in their order, while their microseconds
are an `int`.

Proof: a delay that fits is kept by each function. One that does not fit has no
defined conversion, so `add_time` gives nothing for it. -/
theorem exact_iff (now : TimeStamp) (delay other : Nat) :
    (Exact now delay ∧ Exact now other ∧ SameOrder now delay other) ↔
      delay ≤ longest ∧ other ≤ longest := by
  have fits : ∀ tested, Exact now tested → tested ≤ longest := by
    intro tested exact_
    by_contra tooLong
    have given := exact_.addTime
    rw [addTime_seconds, if_neg tooLong] at given
    cases given
  constructor
  · rintro ⟨first, second, -⟩
    exact ⟨fits delay first, fits other second⟩
  · rintro ⟨first, second⟩
    refine ⟨exact_of_le now first, exact_of_le now second, after now delay, after now other,
      (exact_of_le now first).addTime, (exact_of_le now second).addTime, ?_⟩
    simp only [after, TimeStamp.ofTimePoint]
    omega

/-- Thirty-six minutes are too long a delay: the conversion to `int` has no
defined result. -/
theorem too_long_a_delay :
    Representable ((TimeStamp.ofTimePoint 0).val + 1000 * 2147483648) ∧
      addTime (TimeStamp.ofTimePoint 0) (seconds 2147483648) = none ∧
      ¬ Exact (TimeStamp.ofTimePoint 0) 2147483648 := by
  have undefined : addTime (TimeStamp.ofTimePoint 0) (seconds 2147483648) = none := by
    rw [addTime_seconds, if_neg (by decide)]
  refine ⟨by decide, undefined, ?_⟩
  intro exact_
  have given := exact_.addTime
  rw [undefined] at given
  cases given

end Delay

end ReactorNetwork
