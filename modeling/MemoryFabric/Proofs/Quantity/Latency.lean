import MemoryFabric.Quantity.Latency

/-! Sums of delays. -/

namespace MemoryFabric.Latency

theorem ext {first second : Latency} (seconds : first.seconds = second.seconds)
    (nanoseconds : first.nanoseconds = second.nanoseconds) : first = second := by
  cases first
  cases second
  simp_all

theorem add_eq {first second sum : Latency}
    (seconds : first.seconds.toNat + second.seconds.toNat = sum.seconds.toNat)
    (nanoseconds : first.nanoseconds + second.nanoseconds = sum.nanoseconds) :
    first + second = sum := by
  have small := sum.nanoseconds_lt
  have total : first.seconds.toNat + second.seconds.toNat +
      (first.nanoseconds + second.nanoseconds) / nanosecondsPerSecond = sum.seconds.toNat := by
    rw [nanoseconds, Nat.div_eq_of_lt small, Nat.add_zero, seconds]
  change Latency.add first second = sum
  rw [Latency.add]
  rw [if_pos (by rw [total]; exact sum.seconds.toNat_lt)]
  apply ext
  · rw [total]
    exact UInt64.ofNat_toNat
  · dsimp only
    rw [nanoseconds]
    exact Nat.mod_eq_of_lt small

protected theorem zero_add (latency : Latency) : 0 + latency = latency :=
  add_eq (Nat.zero_add _) (Nat.zero_add _)

protected theorem add_zero (latency : Latency) : latency + 0 = latency :=
  add_eq (Nat.add_zero _) (Nat.add_zero _)

/-! ## Delays in nanoseconds -/

theorem toNanoseconds_zero : (0 : Latency).toNanoseconds = 0 := rfl

theorem toNanoseconds_longest :
    longest.toNanoseconds = 18446744073709551616 * 1000000000 - 1 := by
  decide

theorem toNanoseconds_le_longest (latency : Latency) :
    latency.toNanoseconds ≤ longest.toNanoseconds := by
  have seconds := latency.seconds.toNat_lt
  have nanoseconds := latency.nanoseconds_lt
  rw [toNanoseconds_longest, toNanoseconds]
  simp only [nanosecondsPerSecond] at nanoseconds ⊢
  omega

theorem toNanoseconds_inj {first second : Latency} :
    first.toNanoseconds = second.toNanoseconds ↔ first = second := by
  constructor
  · intro same
    have firstPart := first.nanoseconds_lt
    have secondPart := second.nanoseconds_lt
    simp only [toNanoseconds, nanosecondsPerSecond] at same firstPart secondPart
    apply ext
    · rw [← UInt64.toNat_inj]
      omega
    · omega
  · rintro rfl
    rfl

/-- A sum of two delays is as long as both, or the longest delay. -/
theorem toNanoseconds_add (first second : Latency) :
    (first + second).toNanoseconds =
      min (first.toNanoseconds + second.toNanoseconds) longest.toNanoseconds := by
  have firstPart := first.nanoseconds_lt
  have secondPart := second.nanoseconds_lt
  change (Latency.add first second).toNanoseconds = _
  rw [Latency.add, toNanoseconds_longest]
  split
  case isTrue fits =>
    rw [toNanoseconds, toNanoseconds, toNanoseconds, UInt64.toNat_ofNat_of_lt' fits]
    simp only [nanosecondsPerSecond, UInt64.size] at firstPart secondPart fits ⊢
    omega
  case isFalse beyond =>
    rw [toNanoseconds_longest, toNanoseconds, toNanoseconds]
    simp only [nanosecondsPerSecond, UInt64.size] at firstPart secondPart beyond ⊢
    omega

end MemoryFabric.Latency
