import RequestTelemetry.Tracking.Config

/-!
# What becomes of a configured timeout

A timeout is given as a duration and kept in whole milliseconds, cut off below and bounded by the
greatest number of 64 bits. Resolving puts the default in the place of zero. From a millisecond
upwards this never makes a timeout longer, takes less than a millisecond from it and keeps the order
of timeouts.

A duration below a millisecond is cut off to nothing, and nothing stands for the default: the
shortest timeouts become five seconds, longer than almost all that could have been asked for.
-/

namespace RequestTelemetry.Tracking.Config

/-- The timeout of deliveries after a duration was configured and the configuration resolved. -/
def resolvedTimeout (c : Config) (d : Duration) : Duration :=
  (c.withTimeout d).resolve.requestTimeout

theorem toNat_timeoutMs_resolve (c : Config) :
    c.resolve.timeoutMs.toNat = if c.timeoutMs.toNat = 0 then 5000 else c.timeoutMs.toNat := by
  rw [resolve]
  by_cases h : c.timeoutMs = 0
  · simp [h, defaultTimeoutMs]
  · have hne : c.timeoutMs.toNat ≠ 0 := fun hzero ↦ h (UInt64.toNat_inj.mp hzero)
    simp [h, hne]

/-- The milliseconds of a resolved timeout, zero being replaced. -/
theorem nanos_resolvedTimeout (c : Config) (d : Duration) :
    (c.resolvedTimeout d).nanos =
      (if d.nanos < 1000000 then 5000 else min (d.nanos / 1000000) Duration.maxWord) * 1000000 := by
  have hmillis : (c.withTimeout d).timeoutMs.toNat = min (d.nanos / 1000000) Duration.maxWord :=
    d.toNat_clampedMillis
  have hzero : min (d.nanos / 1000000) Duration.maxWord = 0 ↔ d.nanos < 1000000 := by
    have hmax := Duration.maxWord_eq
    omega
  rw [resolvedTimeout, requestTimeout, Duration.ofMillis, toNat_timeoutMs_resolve, hmillis]
  simp only [hzero]

/-- From a millisecond upwards nothing is replaced. -/
theorem nanos_resolvedTimeout_of_le (c : Config) {d : Duration} (h : 1000000 ≤ d.nanos) :
    (c.resolvedTimeout d).nanos = min (d.nanos / 1000000) Duration.maxWord * 1000000 := by
  rw [nanos_resolvedTimeout, if_neg (Nat.not_lt.mpr h)]

theorem resolvedTimeout_eq_default_iff (c : Config) (d : Duration) :
    c.resolvedTimeout d = .ofMillis 5000 ↔
      d.nanos < 1000000 ∨ 5000 * 1000000 ≤ d.nanos ∧ d.nanos < 5001 * 1000000 := by
  have hnanos : c.resolvedTimeout d = .ofMillis 5000 ↔
      (c.resolvedTimeout d).nanos = 5000 * 1000000 := by
    rw [Duration.ofMillis]
    exact ⟨congrArg Duration.nanos, congrArg Duration.mk⟩
  have hmax := Duration.maxWord_eq
  rw [hnanos, nanos_resolvedTimeout]
  by_cases h : d.nanos < 1000000
  · simp [h]
  · rw [if_neg h]
    omega

/-- **A configured timeout from a millisecond upwards is not stretched**: it is resolved to at most
what was asked for and less than a millisecond below it, or to the greatest number of milliseconds
where that is too small for it, and longer timeouts are resolved to longer ones. It is never zero.
The default appears for the durations of this length only, and for those below a millisecond. -/
theorem resolved_timeout_not_stretched (c : Config) (d : Duration) :
    0 < (c.resolvedTimeout d).nanos ∧
    (1000000 ≤ d.nanos →
      (c.resolvedTimeout d).nanos ≤ d.nanos ∧
      (d.nanos ≤ (Duration.ofMillis Duration.maxWord).nanos →
        d.nanos < (c.resolvedTimeout d).nanos + 1000000) ∧
      ((Duration.ofMillis Duration.maxWord).nanos < d.nanos →
        c.resolvedTimeout d = .ofMillis Duration.maxWord) ∧
      ∀ longer : Duration, d.nanos ≤ longer.nanos →
        (c.resolvedTimeout d).nanos ≤ (c.resolvedTimeout longer).nanos) ∧
    (c.resolvedTimeout d = .ofMillis 5000 ↔
      d.nanos < 1000000 ∨ 5000 * 1000000 ≤ d.nanos ∧ d.nanos < 5001 * 1000000) := by
  have hmax := Duration.maxWord_eq
  refine ⟨?_, fun h ↦ ?_, resolvedTimeout_eq_default_iff c d⟩
  · rw [nanos_resolvedTimeout]
    split <;> omega
  · have hnanos := nanos_resolvedTimeout_of_le c h
    simp only [Duration.ofMillis]
    refine ⟨?_, ?_, ?_, ?_⟩
    · omega
    · intro hle
      omega
    · intro hlt
      have hmillis : Duration.maxWord ≤ d.nanos / 1000000 := by omega
      rw [Nat.min_eq_right hmillis] at hnanos
      exact congrArg Duration.mk hnanos
    · intro longer hle
      have hlonger := nanos_resolvedTimeout_of_le c (Nat.le_trans h hle)
      omega

/-- A millisecond and a half becomes a millisecond, which is not above what becomes of two
seconds; the longest timeouts become the greatest number of milliseconds. -/
theorem resolved_timeouts_of_three_lengths :
    (default.resolvedTimeout ⟨1500000⟩).nanos ≤ 1500000 ∧
      1500000 < (default.resolvedTimeout ⟨1500000⟩).nanos + 1000000 ∧
      (default.resolvedTimeout ⟨1500000⟩).nanos ≤ (default.resolvedTimeout (.ofMillis 2000)).nanos ∧
      default.resolvedTimeout (.ofParts Duration.maxWord 999999999)
        = .ofMillis Duration.maxWord := by
  obtain ⟨hle, hnear, -, hmono⟩ :=
    (resolved_timeout_not_stretched default ⟨1500000⟩).2.1 (by decide)
  obtain ⟨-, -, hlong, -⟩ :=
    (resolved_timeout_not_stretched default (.ofParts Duration.maxWord 999999999)).2.1 (by decide)
  exact ⟨hle, hnear (by decide), hmono (.ofMillis 2000) (by decide), hlong (by decide)⟩

/-- Half a millisecond becomes five seconds: ten thousand times what was asked for, and more than
what becomes of a whole millisecond. -/
theorem half_millisecond_becomes_five_seconds :
    default.resolvedTimeout ⟨500000⟩ = .ofMillis 5000 ∧
      max 500000 1000000 < (default.resolvedTimeout ⟨500000⟩).nanos ∧
      (default.resolvedTimeout ⟨1000000⟩).nanos < (default.resolvedTimeout ⟨500000⟩).nanos := by
  decide

end RequestTelemetry.Tracking.Config
