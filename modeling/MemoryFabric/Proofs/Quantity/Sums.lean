import Mathlib.Algebra.BigOperators.Group.List.Basic
import Mathlib.Algebra.GroupWithZero.Nat
import MemoryFabric.Proofs.Quantity.Latency

/-! Sums of many delays. However they are ordered and bracketed, the sum is as long as all
of them together, or the longest delay if that is shorter. -/

namespace MemoryFabric.Latency

/-! ## Laws of the sum -/

protected theorem add_assoc (first second third : Latency) :
    first + second + third = first + (second + third) := by
  rw [← toNanoseconds_inj]
  simp only [toNanoseconds_add]
  omega

protected theorem add_comm (first second : Latency) : first + second = second + first := by
  rw [← toNanoseconds_inj, toNanoseconds_add, toNanoseconds_add, Nat.add_comm]

theorem toNanoseconds_le_add_right (first second : Latency) :
    first.toNanoseconds ≤ (first + second).toNanoseconds := by
  have bound := first.toNanoseconds_le_longest
  rw [toNanoseconds_add]
  omega

theorem toNanoseconds_le_add_left (first second : Latency) :
    second.toNanoseconds ≤ (first + second).toNanoseconds := by
  rw [Latency.add_comm]
  exact toNanoseconds_le_add_right second first

/-! ## Many delays -/

inductive Bracketing where
  | empty
  | delay (latency : Latency)
  | sum (first second : Bracketing)

namespace Bracketing

def delays : Bracketing → List Latency
  | empty => []
  | delay latency => [latency]
  | sum first second => first.delays ++ second.delays

def total : Bracketing → Latency
  | empty => 0
  | delay latency => latency
  | sum first second => first.total + second.total

theorem toNanoseconds_total (bracketing : Bracketing) :
    bracketing.total.toNanoseconds =
      min (bracketing.delays.map toNanoseconds).sum longest.toNanoseconds := by
  induction bracketing with
  | empty => exact (Nat.zero_min _).symm
  | delay latency =>
      rw [delays, List.map_singleton, List.sum_singleton]
      exact (Nat.min_eq_left latency.toNanoseconds_le_longest).symm
  | sum first second firstTotal secondTotal =>
      rw [total, toNanoseconds_add, firstTotal, secondTotal, delays, List.map_append,
        List.sum_append]
      -- A part that is capped makes the whole reach the cap.
      omega

end Bracketing

theorem toNanoseconds_foldl_add (latencies : List Latency) (start : Latency) :
    (latencies.foldl (· + ·) start).toNanoseconds =
      min (start.toNanoseconds + (latencies.map toNanoseconds).sum) longest.toNanoseconds := by
  induction latencies generalizing start with
  | nil =>
      rw [List.foldl_nil, List.map_nil, List.sum_nil, Nat.add_zero]
      exact (Nat.min_eq_left start.toNanoseconds_le_longest).symm
  | cons latency rest induction =>
      rw [List.foldl_cons, induction, toNanoseconds_add, List.map_cons, List.sum_cons]
      omega

theorem seconds_eq_div (latency : Latency) :
    latency.seconds.toNat = latency.toNanoseconds / 10 ^ 9 := by
  have part := latency.nanoseconds_lt
  rw [toNanoseconds]
  simp only [nanosecondsPerSecond] at part ⊢
  omega

/-- Delays that are added in any order and with any bracketing come to the sum of their
nanoseconds, or to one nanosecond less than `2 ^ 64` seconds if that is less, in whole seconds
and a part of a second. The sum of two delays is therefore associative and commutative, no
delay changes nothing, and no delay makes a sum shorter. -/
theorem sums_capped_in_any_order :
    (∀ (latencies : List Latency) (bracketing : Bracketing), bracketing.delays.Perm latencies →
      bracketing.total.toNanoseconds =
          min (latencies.map toNanoseconds).sum (2 ^ 64 * 10 ^ 9 - 1) ∧
        bracketing.total.seconds.toNat = bracketing.total.toNanoseconds / 10 ^ 9 ∧
        bracketing.total.nanoseconds < 10 ^ 9 ∧
        latencies.foldl (· + ·) 0 = bracketing.total) ∧
    (∀ first second third : Latency, first + second + third = first + (second + third)) ∧
    (∀ first second : Latency, first + second = second + first) ∧
    (∀ latency : Latency, 0 + latency = latency ∧ latency + 0 = latency) ∧
    ∀ first second : Latency, first.toNanoseconds ≤ (first + second).toNanoseconds ∧
      second.toNanoseconds ≤ (first + second).toNanoseconds := by
  refine ⟨?_, Latency.add_assoc, Latency.add_comm, ?_, ?_⟩
  · intro latencies bracketing reordered
    have sums : (bracketing.delays.map toNanoseconds).sum = (latencies.map toNanoseconds).sum :=
      (reordered.map toNanoseconds).sum_eq
    have length : bracketing.total.toNanoseconds =
        min (latencies.map toNanoseconds).sum longest.toNanoseconds := by
      rw [bracketing.toNanoseconds_total, sums]
    refine ⟨?_, seconds_eq_div _, bracketing.total.nanoseconds_lt, ?_⟩
    · exact length
    · rw [← toNanoseconds_inj, length, toNanoseconds_foldl_add, toNanoseconds_zero, Nat.zero_add]
  · exact fun latency => ⟨latency.zero_add, latency.add_zero⟩
  · exact fun first second =>
      ⟨toNanoseconds_le_add_right first second, toNanoseconds_le_add_left first second⟩

def nearlyLongest : Latency :=
  ⟨0xFFFFFFFFFFFFFFFF, 500000000, by decide⟩

def halfSecond : Latency := ofNanoseconds 500000000

def overfilled : Bracketing :=
  .sum (.delay halfSecond) (.sum .empty (.delay nearlyLongest))

/-- Half a second more fills the last second, which carries over into one second too many. -/
theorem sums_capped_in_any_order_overfilled :
    overfilled.delays.Perm [nearlyLongest, halfSecond] ∧
      overfilled.total.toNanoseconds = 2 ^ 64 * 10 ^ 9 - 1 ∧
      [nearlyLongest, halfSecond].foldl (· + ·) 0 = longest := by
  have reordered : overfilled.delays.Perm [nearlyLongest, halfSecond] := .swap _ _ _
  have total : overfilled.total = longest := by decide +kernel
  obtain ⟨capped, -, -, folded⟩ := sums_capped_in_any_order.1 _ _ reordered
  have beyond : min (([nearlyLongest, halfSecond].map toNanoseconds).sum) (2 ^ 64 * 10 ^ 9 - 1) =
      2 ^ 64 * 10 ^ 9 - 1 := by decide +kernel
  exact ⟨reordered, capped.trans beyond, folded.trans total⟩

end MemoryFabric.Latency
