import RequestTelemetry.Text.Decimal

/-!
# Numbers of JSON documents

A number is an integer if it is written without fraction and exponent and fits 64 bits (unsigned if
positive, two's complement if negative), and a floating-point number otherwise; `-0` is a
floating-point number too. Integers and floating-point numbers are never equal.

Reading takes as many leading digits as fit 64 bits for the significand, counts the other integer
digits in the exponent, drops the other fraction digits, and scales by one multiplication or
division with a power of ten. A number beyond the largest double is refused.
-/

namespace RequestTelemetry

/-- A number of a JSON document. -/
inductive Number where
  | integer (n : Int)
  | float (x : Float)
  deriving Repr, Inhabited

namespace Number

/-- Floating-point numbers are compared as such, so both zeros are equal. -/
def same : Number → Number → Bool
  | integer a, integer b => a == b
  | float a, float b => a == b
  | _, _ => false

instance : BEq Number := ⟨same⟩

/-! ## Writing -/

/-- A floating-point number is written positionally from `0.00001` up to sixteen integer digits,
and with a signed exponent beyond; it always shows a point or an exponent. -/
def decimalText (d : Text.Decimal) : List Char :=
  let digits := Text.decimalDigits d.digits
  let lead : Int := d.exponent + (digits.length : Int) - 1
  if lead < -5 ∨ 15 < lead then
    let mantissa := match digits with
      | first :: second :: rest => first :: '.' :: second :: rest
      | short => short
    let sign := if lead < 0 then '-' else '+'
    mantissa ++ 'e' :: sign :: Text.decimalDigits lead.natAbs
  else if 0 ≤ d.exponent then
    digits ++ List.replicate d.exponent.toNat '0' ++ ['.', '0']
  else if lead < 0 then
    '0' :: '.' :: List.replicate (-lead - 1).toNat '0' ++ digits
  else
    let whole := (lead + 1).toNat
    digits.take whole ++ '.' :: digits.drop whole

/-- The text of a finite floating-point number. -/
def floatText (x : Float) : List Char :=
  let negative := Nat.pow 2 63 ≤ x.toBits.toNat
  let text := if x == 0 then ['0', '.', '0'] else decimalText (Text.Decimal.ofFloat x)
  if negative then '-' :: text else text

/-- The text of an integer. -/
def integerText : Int → List Char
  | .ofNat n => Text.decimalDigits n
  | .negSucc n => '-' :: Text.decimalDigits (n + 1)

/-- The text of a number. -/
def text : Number → List Char
  | integer n => integerText n
  | float x => floatText x

/-! ## Reading -/

/-- A number as written: sign, integer digits, fraction digits and exponent. -/
structure Lexeme where
  negative : Bool
  whole : List Nat
  fraction : Option (List Nat)
  exponent : Option (Bool × List Nat)
  deriving DecidableEq, Repr

/-- The value of a digit character. -/
def digit? (c : Char) : Option Nat :=
  if '0' ≤ c ∧ c ≤ '9' then some (c.toNat - '0'.toNat) else none

/-- The digits at the start of a text and the rest of it. -/
def takeDigits (cs : List Char) : List Nat × List Char :=
  (cs.takeWhile (fun c ↦ (digit? c).isSome) |>.filterMap digit?,
    cs.dropWhile fun c ↦ (digit? c).isSome)

/-- The greatest significand. -/
def significandMax : Nat := Nat.pow 2 64 - 1

/-- Extends a significand by digits while it fits; also how many digits were left over. -/
def significand (start : Nat) : List Nat → Nat × Nat
  | [] => (start, 0)
  | d :: ds =>
    if start * 10 + d ≤ significandMax then significand (start * 10 + d) ds
    else (start, ds.length + 1)

/-- A power of ten as a floating-point number. -/
def powerOfTen (n : Nat) : Float := Float.ofScientific 1 false n

/-- Divides by a power of ten, by way of the greatest one that is a double. -/
def scaleDown (x : Float) (n : Nat) : Float :=
  if n ≤ 308 then x / powerOfTen n
  else if x == 0 then x
  else scaleDown (x / powerOfTen 308) (n - 308)
termination_by n
decreasing_by omega

/-- `significand · 10 ^ exponent`, unless that is beyond the largest double. -/
def scaled? (significand : Nat) (exponent : Int) : Option Float :=
  let x := significand.toUInt64.toFloat
  if exponent < 0 then some (scaleDown x (-exponent).toNat)
  else if exponent ≤ 308 then
    let y := x * powerOfTen exponent.toNat
    if y.isInf then none else some y
  else if x == 0 then some x
  else none

/-- The greatest exponent that is read as a number. -/
def exponentMax : Nat := Nat.pow 2 31 - 1

/-- The floating-point number of a significand and an exponent as written. An exponent that is too
large to read gives zero if it is negative or the significand is zero. -/
def float? (negative : Bool) (significand : Nat) (shift : Int) :
    Option (Bool × List Nat) → Option Number
  | none => (scaled? significand shift).map sign
  | some (down, digits) =>
    let n := digits.foldl (fun n d ↦ n * 10 + d) 0
    if exponentMax < n then
      if significand ≠ 0 ∧ ¬down then none else some (sign 0)
    else (scaled? significand (if down then shift - n else shift + n)).map sign
where
  /-- The number with the sign it was written with. -/
  sign (x : Float) : Number := float (if negative then -x else x)

/-- The number a lexeme stands for. -/
def ofLexeme? (l : Lexeme) : Option Number :=
  let (whole, extra) := significand 0 l.whole
  match l.fraction with
  | some ds =>
    let (value, dropped) := significand whole ds
    float? l.negative value ((extra : Int) - ((ds.length - dropped : Nat) : Int)) l.exponent
  | none =>
    match l.exponent, extra with
    | none, 0 =>
      if ¬l.negative then some (integer whole)
      else if whole = 0 ∨ Nat.pow 2 63 < whole then some (float (-whole.toUInt64.toFloat))
      else some (integer (-whole))
    | exponent, extra => float? l.negative whole extra exponent

/-- Reads the fraction of a number; there is at least one digit after a point. -/
def readFraction? : List Char → Option (Option (List Nat) × List Char)
  | '.' :: rest =>
    let (ds, rest) := takeDigits rest
    if ds.isEmpty then none else some (some ds, rest)
  | rest => some (none, rest)

/-- Reads the exponent of a number; there is at least one digit in it. -/
def readExponent? : List Char → Option (Option (Bool × List Nat) × List Char)
  | c :: rest =>
    if c = 'e' ∨ c = 'E' then
      let (down, rest) := match rest with
        | '-' :: rest => (true, rest)
        | '+' :: rest => (false, rest)
        | rest => (false, rest)
      let (ds, rest) := takeDigits rest
      if ds.isEmpty then none else some (some (down, ds), rest)
    else some (none, c :: rest)
  | [] => some (none, [])

/-- Reads a number as written, after its sign. The integer part is `0` or starts with another
digit. -/
def readUnsigned? (negative : Bool) (cs : List Char) : Option (Lexeme × List Char) := do
  let (whole, cs) := takeDigits cs
  match whole with
  | [] => none
  | 0 :: _ :: _ => none
  | whole =>
    let (fraction, cs) ← readFraction? cs
    let (exponent, cs) ← readExponent? cs
    some (⟨negative, whole, fraction, exponent⟩, cs)

/-- Reads a number as written. -/
def readLexeme? : List Char → Option (Lexeme × List Char)
  | '-' :: rest => readUnsigned? true rest
  | cs => readUnsigned? false cs

/-- Reads a number off the start of a text. -/
def read? (cs : List Char) : Option (Number × List Char) := do
  let (lexeme, rest) ← readLexeme? cs
  let n ← ofLexeme? lexeme
  some (n, rest)

end Number
end RequestTelemetry
