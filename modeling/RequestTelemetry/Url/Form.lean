import RequestTelemetry.Url.Percent

/-!
# Form encoding

Names and values in a query: pairs between ampersands, split at the first equals sign, a plus sign
for a space, and percent signs before octets that are no letter, digit, `*`, `-`, `.` or `_`.
Reading gives U+FFFD for octets that are not UTF-8, and empty stretches between ampersands do not
count.
-/

namespace RequestTelemetry.Url.Form

/-- Whether an octet is written as itself. -/
def isPlain (b : UInt8) : Bool :=
  Http.isLetter b || Http.isDigit b || b == 0x2A || b == 0x2D || b == 0x2E || b == 0x5F

/-- An octet as it is written. -/
def writeOctet (b : UInt8) : List Char :=
  if isPlain b then [Http.toChar b] else if b = 0x20 then ['+'] else escapeOctet b

/-- A name or a value as it is written. -/
def write (s : String) : List Char := (Utf8.encode s).flatMap writeOctet

/-- A pair as it is written. -/
def writePair (p : String × String) : List Char := write p.1 ++ '=' :: write p.2

/-- Pairs as they are written. -/
def writePairs : List (String × String) → List Char
  | [] => []
  | [p] => writePair p
  | p :: q :: rest => writePair p ++ '&' :: writePairs (q :: rest)

/-- The name or value that a text stands for. -/
def read (cs : List Char) : String :=
  Utf8.lossy (octets (cs.map fun c ↦ if c = '+' then ' ' else c))

/-- The pair that a text stands for. A text without an equals sign is a name with an empty value. -/
def readPair (cs : List Char) : String × String :=
  (read (cs.takeWhile (· ≠ '=')), read ((cs.dropWhile (· ≠ '=')).drop 1))

/-- The stretches between ampersands. -/
def stretches : List Char → List (List Char)
  | [] => [[]]
  | c :: rest =>
    if c = '&' then [] :: stretches rest
    else
      match stretches rest with
      | s :: more => (c :: s) :: more
      | [] => [[c]]

/-- The pairs of a query. -/
def readPairs (cs : List Char) : List (String × String) :=
  ((stretches cs).filter (!·.isEmpty)).map readPair

end RequestTelemetry.Url.Form
