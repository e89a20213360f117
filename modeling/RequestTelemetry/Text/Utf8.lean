/-!
# UTF-8

Texts and octets. Encoding is per character; decoding is a machine that takes one octet at a time
and, between two octets, is either between characters or inside one. An ill-formed stretch counts
once for each maximal part that starts a well-formed character, so reading `E2 82` and then `41`
gives one failure and the letter `A`.

`decode?` refuses a sequence with a failure in it, `lossy` writes U+FFFD in place of each.
-/

namespace RequestTelemetry

/-- Octets, as header values and bodies carry them. -/
abbrev Bytes := List UInt8

namespace Utf8

/-- The octets of a list of characters. -/
def encodeChars (cs : List Char) : Bytes := cs.flatMap String.utf8EncodeChar

/-- The octets of a text. -/
def encode (s : String) : Bytes := encodeChars s.toList

/-- What the decoder knows inside a character: the bits read so far, how many octets are owed
after the next one, and the range the next one has to lie in. -/
structure Pending where
  bits : Nat
  owed : Nat
  low : UInt8
  high : UInt8
  deriving DecidableEq, Repr

/-- What a first octet says about its character. -/
inductive Opening where
  /-- The octet is a whole character. -/
  | whole (c : Char)
  /-- The octet opens a longer character. -/
  | opens (p : Pending)
  /-- No character starts with the octet. -/
  | never
  deriving DecidableEq, Repr

/-- The reading of an octet between characters. The second octet's range excludes overlong forms,
surrogates and everything above U+10FFFF. -/
def opening (b : UInt8) : Opening :=
  if b < 0x80 then .whole (Char.ofNat b.toNat)
  else if b < 0xC2 then .never
  else if b < 0xE0 then .opens ⟨(b &&& 0x1F).toNat, 0, 0x80, 0xBF⟩
  else if b = 0xE0 then .opens ⟨0, 1, 0xA0, 0xBF⟩
  else if b = 0xED then .opens ⟨0x0D, 1, 0x80, 0x9F⟩
  else if b < 0xF0 then .opens ⟨(b &&& 0x0F).toNat, 1, 0x80, 0xBF⟩
  else if b = 0xF0 then .opens ⟨0, 2, 0x90, 0xBF⟩
  else if b < 0xF4 then .opens ⟨(b &&& 0x07).toNat, 2, 0x80, 0xBF⟩
  else if b = 0xF4 then .opens ⟨4, 2, 0x80, 0x8F⟩
  else .never

/-- The decoder: what it has read, last first, `none` standing for an ill-formed stretch, and what
is pending. -/
structure Decoder where
  read : List (Option Char) := []
  pending : Option Pending := none
  deriving DecidableEq, Repr

namespace Decoder

/-- Takes an octet between characters. -/
def start (read : List (Option Char)) (b : UInt8) : Decoder :=
  match opening b with
  | .whole c => ⟨some c :: read, none⟩
  | .opens p => ⟨read, some p⟩
  | .never => ⟨none :: read, none⟩

/-- Takes an octet. One that cannot continue the pending character ends it as ill-formed and is
then read afresh. -/
def push (d : Decoder) (b : UInt8) : Decoder :=
  match d.pending with
  | none => start d.read b
  | some p =>
    if p.low ≤ b ∧ b ≤ p.high then
      let bits := p.bits * 64 + (b &&& 0x3F).toNat
      match p.owed with
      | 0 => ⟨some (Char.ofNat bits) :: d.read, none⟩
      | n + 1 => ⟨d.read, some ⟨bits, n, 0x80, 0xBF⟩⟩
    else start (none :: d.read) b

/-- Everything read, in order. A character cut short by the end is ill-formed. -/
def finish (d : Decoder) : List (Option Char) :=
  (if d.pending.isSome then none :: d.read else d.read).reverse

end Decoder

/-- The characters and ill-formed stretches of a sequence of octets. -/
def units (bs : Bytes) : List (Option Char) := (bs.foldl Decoder.push {}).finish

/-- The replacement character, written for an ill-formed stretch. -/
def replacement : Char := '\uFFFD'

/-- The characters of a sequence of octets, with U+FFFD for each ill-formed stretch. -/
def lossyChars (bs : Bytes) : List Char := (units bs).map fun u ↦ u.getD replacement

/-- The text of a sequence of octets, with U+FFFD for each ill-formed stretch. -/
def lossy (bs : Bytes) : String := String.ofList (lossyChars bs)

/-- The characters of a well-formed sequence of octets. -/
def decodeChars? (bs : Bytes) : Option (List Char) :=
  let us := units bs
  if us.all Option.isSome then some (us.filterMap id) else none

/-- The text of a well-formed sequence of octets. -/
def decode? (bs : Bytes) : Option String := (decodeChars? bs).map String.ofList

end Utf8
end RequestTelemetry
