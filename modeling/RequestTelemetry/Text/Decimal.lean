/-!
# Decimal forms of floating-point numbers

A finite floating-point number is `m · 2 ^ q`; the reals that round to it form an interval around
it, whose ends belong to it when `m` is even. Its shortest decimal form is found in exact integer
arithmetic: on the grids of 1, 2, 3, … significant digits the two grid points next to the number
are tried, and the first grid with a point in the interval gives the digits, the nearer point
winning.
-/

namespace RequestTelemetry.Text

/-- A decimal number `digits · 10 ^ exponent`. -/
structure Decimal where
  digits : Nat
  exponent : Int
  deriving DecidableEq, Repr

/-- The decimal digits of a number. -/
def decimalDigits (n : Nat) : List Char := Nat.toDigits 10 n

theorem isDigit_of_mem_decimalDigits {n : Nat} {c : Char} (hc : c ∈ decimalDigits n) :
    c.isDigit = true :=
  Nat.isDigit_of_mem_toDigits (by decide) (by decide) hc

theorem exists_decimalDigits_eq_cons (n : Nat) : ∃ d ds, decimalDigits n = d :: ds :=
  List.exists_cons_of_ne_nil Nat.toDigits_ne_nil

/-- Further digits make a number no smaller. -/
theorem le_foldl_digits (n : Nat) (ds : List Nat) : n ≤ ds.foldl (fun m d ↦ m * 10 + d) n := by
  induction ds generalizing n with
  | nil => exact Nat.le_refl n
  | cons d ds ih =>
    have hstep : n ≤ n * 10 + d := by omega
    exact Nat.le_trans hstep (ih _)

/-- The value of the decimal digits of a number, read one after another. -/
theorem foldl_decimalDigits (n : Nat) :
    (decimalDigits n).foldl (fun m c ↦ m * 10 + (c.toNat - '0'.toNat)) 0 = n := by
  have h := Nat.ofDigitChars_ten_toDigits (n := n)
  rw [Nat.ofDigitChars_eq_foldl] at h
  simp only [Nat.mul_comm 10] at h
  exact h

namespace Decimal

/-- The same number without zeros at the end of its digits. -/
def normalize : Nat → Decimal → Decimal
  | 0, d => d
  | n + 1, d =>
    if d.digits ≠ 0 ∧ d.digits % 10 = 0 then normalize n ⟨d.digits / 10, d.exponent + 1⟩ else d

/-- The power of ten of the leading digit of `num / den`. -/
def leading (num den : Nat) : Int :=
  if den ≤ num then ((decimalDigits (num / den)).length : Int) - 1
  else
    let bound := (den + num - 1) / num
    0 - (decimalDigits (bound - 1)).length

/-- The numbers that round to `value / den`: from `low / den` to `high / den`, ends included if
`closed`. -/
structure Interval where
  low : Nat
  value : Nat
  high : Nat
  den : Nat
  closed : Bool

namespace Interval

/-- The interval of the positive double with the given bits, sign bit cleared. Below a power of two
the neighbour is half as far. -/
def ofBits (bits : Nat) : Interval :=
  let fraction := bits % Nat.pow 2 52
  let biased := bits / Nat.pow 2 52
  let m := if biased = 0 then fraction else fraction + Nat.pow 2 52
  let q : Int := ((if biased = 0 then 1 else biased : Nat) : Int) - 1077
  let low := if fraction = 0 ∧ 1 < biased then 4 * m - 1 else 4 * m - 2
  let scale := if 0 ≤ q then Nat.pow 2 q.toNat else 1
  let den := if 0 ≤ q then 1 else Nat.pow 2 (-q).toNat
  ⟨low * scale, 4 * m * scale, (4 * m + 2) * scale, den, m % 2 = 0⟩

/-- The point of the grid of multiples of `10 ^ exponent` in the interval that is nearest to the
value, if there is one. -/
def gridPoint? (i : Interval) (exponent : Int) : Option Decimal :=
  let up := if exponent < 0 then Nat.pow 10 (-exponent).toNat else 1
  let den := if exponent < 0 then i.den else i.den * Nat.pow 10 exponent.toNat
  let low := i.low * up
  let value := i.value * up
  let high := i.high * up
  let inside (d : Nat) : Bool :=
    if i.closed then low ≤ d * den && d * den ≤ high else low < d * den && d * den < high
  let below := value / den
  let above := below + 1
  let nearBelow := value - below * den
  let nearAbove := above * den - value
  match inside below, inside above with
  | true, true =>
    if nearBelow < nearAbove ∨ (nearBelow = nearAbove ∧ below % 2 = 0) then some ⟨below, exponent⟩
    else some ⟨above, exponent⟩
  | true, false => some ⟨below, exponent⟩
  | false, true => some ⟨above, exponent⟩
  | false, false => none

/-- The shortest decimal in the interval. -/
def shortest (i : Interval) : Decimal :=
  let lead := leading i.value i.den
  let found := (List.range 17).findSome? fun (n : Nat) ↦ i.gridPoint? (lead - (n : Int))
  normalize 20 (found.getD ⟨i.value / i.den, 0⟩)

end Interval

/-- The shortest decimal that reads back as a positive finite double. -/
def ofFloat (x : Float) : Decimal :=
  (Interval.ofBits (x.toBits.toNat % Nat.pow 2 63)).shortest

end Decimal

end RequestTelemetry.Text
