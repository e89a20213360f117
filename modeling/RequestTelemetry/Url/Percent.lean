import RequestTelemetry.Http.Token

/-!
# Percent signs

In a URL an octet may be written as a percent sign and two hexadecimal digits. A percent sign
without two such digits after it stands for itself.
-/

namespace RequestTelemetry.Url

/-- A digit of base 16 in upper case. -/
def upperDigit (n : Nat) : Char := if n < 10 then Char.ofNat (0x30 + n) else Char.ofNat (0x37 + n)

/-- The value of a digit of base 16 in either case. -/
def digitValue? (c : Char) : Option Nat :=
  if '0' ≤ c ∧ c ≤ '9' then some (c.toNat - 0x30)
  else if 'A' ≤ c ∧ c ≤ 'F' then some (c.toNat - 0x37)
  else if 'a' ≤ c ∧ c ≤ 'f' then some (c.toNat - 0x57)
  else none

/-- An octet as a percent sign and two digits. -/
def escapeOctet (b : UInt8) : List Char :=
  ['%', upperDigit (b.toNat / 16), upperDigit (b.toNat % 16)]

/-- Writes characters, escaping the octets of those that a test names. -/
def escape (needed : Char → Bool) (cs : List Char) : List Char :=
  cs.flatMap fun c ↦
    if needed c then (String.utf8EncodeChar c).flatMap escapeOctet else [c]

/-- The octets that a text with percent signs stands for. -/
def octets : List Char → Bytes
  | '%' :: a :: b :: rest =>
    match digitValue? a, digitValue? b with
    | some x, some y => (x * 16 + y).toUInt8 :: octets rest
    | _, _ => 0x25 :: octets (a :: b :: rest)
  | c :: rest => String.utf8EncodeChar c ++ octets rest
  | [] => []

end RequestTelemetry.Url
