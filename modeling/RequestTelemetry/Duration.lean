import RequestTelemetry.Text.Decimal

/-!
# Durations

A span of time in nanoseconds, with the reading of it in whole milliseconds and its diagnostic
text: the largest of the units second, millisecond, microsecond and nanosecond that fits, and as
many decimals as are needed.
-/

namespace RequestTelemetry

/-- The first whole millisecond at or after so many nanoseconds. Timers fire on these. -/
def timerTick (nanos : Nat) : Nat := nanos + (1000000 - nanos % 1000000) % 1000000

theorem le_timerTick (nanos : Nat) : nanos ≤ timerTick nanos := Nat.le_add_right _ _

/-- A span of time. -/
structure Duration where
  nanos : Nat
  deriving DecidableEq, Repr, Inhabited

namespace Duration

/-- Seconds and nanoseconds together. -/
def ofParts (secs nanos : Nat) : Duration := ⟨secs * 1000000000 + nanos⟩

/-- Whole milliseconds. -/
def ofMillis (ms : Nat) : Duration := ⟨ms * 1000000⟩

/-- The whole milliseconds of a duration. -/
def millis (d : Duration) : Nat := d.nanos / 1000000

/-- The shortest duration of whole milliseconds that is no shorter. -/
def roundUp (d : Duration) : Duration := ⟨timerTick d.nanos⟩

/-- The greatest number of 64 bits. -/
def maxWord : Nat := Nat.pow 2 64 - 1

theorem maxWord_eq : maxWord = 18446744073709551615 := rfl

/-- The whole milliseconds as a 64-bit number; a duration too long for one gives the greatest. -/
def clampedMillis (d : Duration) : UInt64 := (min d.millis maxWord).toUInt64

theorem toNat_clampedMillis (d : Duration) : d.clampedMillis.toNat = min d.millis maxWord := by
  have hlt : min d.millis maxWord < Nat.pow 2 64 :=
    Nat.lt_of_le_of_lt (Nat.min_le_right _ _) (by decide)
  exact Nat.mod_eq_of_lt hlt

/-- The decimals of `part / 10 ^ places`, with the point, and without zeros at the end. -/
def decimals (part places : Nat) : List Char :=
  let digits := Text.decimalDigits part
  let padded := List.replicate (places - digits.length) '0' ++ digits
  match (padded.reverse.dropWhile (· = '0')).reverse with
  | [] => []
  | ds => '.' :: ds

/-- The diagnostic text. -/
def diagnostic (d : Duration) : String :=
  let n := d.nanos
  let amount (places : Nat) (unit : String) : String :=
    String.ofList (Text.decimalDigits (n / Nat.pow 10 places)
      ++ decimals (n % Nat.pow 10 places) places) ++ unit
  if 1000000000 ≤ n then amount 9 "s"
  else if 1000000 ≤ n then amount 6 "ms"
  else if 1000 ≤ n then amount 3 "µs"
  else amount 0 "ns"

end Duration
end RequestTelemetry
