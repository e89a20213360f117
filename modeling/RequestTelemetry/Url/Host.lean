import RequestTelemetry.Net.Parser
import RequestTelemetry.Url.Percent

/-!
# Hosts

The host of a URL. For the schemes of the web it is a domain in lower case, an IPv4 address in any
of the numeric notations, or an IPv6 address in brackets; labels beyond ASCII are written in
Punycode. For other schemes it is any text without the characters that delimit a host.
-/

namespace RequestTelemetry.Url

/-! ## Punycode -/

namespace Punycode

/-- The digit of a value below 36. -/
def digit (n : Nat) : Char := if n < 26 then Char.ofNat (0x61 + n) else Char.ofNat (0x16 + n)

/-- Adjusts the bias after a delta. -/
def adaptFrom (fuel delta k : Nat) : Nat :=
  match fuel with
  | 0 => k
  | fuel + 1 =>
    if 455 < delta then adaptFrom fuel (delta / 35) (k + 36) else k + 36 * delta / (delta + 38)

/-- The bias after a delta, with the number of characters that are written. -/
def adapt (delta count : Nat) (first : Bool) : Nat :=
  let delta := if first then delta / 700 else delta / 2
  adaptFrom 32 (delta + delta / count) 0

/-- A delta in digits of variable base. -/
def deltaDigits (fuel q k bias : Nat) : List Char :=
  match fuel with
  | 0 => []
  | fuel + 1 =>
    let t := if k ≤ bias then 1 else if bias + 26 ≤ k then 26 else k - bias
    if q < t then [digit q]
    else digit (t + (q - t) % (36 - t)) :: deltaDigits fuel ((q - t) / (36 - t)) (k + 36) bias

/-- What is kept while a label is written. -/
structure State where
  delta : Nat
  bias : Nat
  handled : Nat
  output : List Char

/-- Writes the occurrences of the code point `n` in a label. -/
def writePoint (basic n : Nat) (s : State) (c : Char) : State :=
  if c.toNat < n then { s with delta := s.delta + 1 }
  else if c.toNat = n then
    { delta := 0, bias := adapt s.delta (s.handled + 1) (s.handled = basic),
      handled := s.handled + 1, output := s.output ++ deltaDigits 32 s.delta 36 s.bias }
  else s

/-- Writes the code points of a label from the least to the greatest. -/
def writePoints (label : List Char) (basic n : Nat) (s : State) : List Nat → List Char
  | [] => s.output
  | m :: rest =>
    let s := { s with delta := s.delta + (m - n) * (s.handled + 1) }
    let s := label.foldl (writePoint basic m) s
    writePoints label basic (m + 1) { s with delta := s.delta + 1 } rest

/-- A label beyond ASCII in ASCII characters. -/
def write (label : List Char) : List Char :=
  let basic := label.filter fun c ↦ c.toNat < 128
  let points := ((label.filter fun c ↦ 128 ≤ c.toNat).map Char.toNat).mergeSort.eraseReps
  let start := if basic.isEmpty then [] else basic ++ ['-']
  writePoints label basic.length 128 ⟨0, 72, basic.length, start⟩ points

end Punycode

/-! ## Domains -/

/-- Whether a character ends or delimits a host. -/
def isHostDelimiter (c : Char) : Bool :=
  c.toNat = 0 || "\t\n\r #/:<>?@[\\]^|".toList.contains c

/-- Whether a character may not stand in a domain. -/
def isDomainFault (c : Char) : Bool :=
  isHostDelimiter c || c.toNat < 0x21 || c = '%' || c.toNat = 0x7F

/-- A character in lower case, for the alphabets whose capitals lie a fixed distance before. -/
def lowerLetter (c : Char) : Char :=
  let n := c.toNat
  if n < 0x80 then c.toLower
  else if (0xC0 ≤ n ∧ n ≤ 0xDE ∧ n ≠ 0xD7) ∨ (0x391 ≤ n ∧ n ≤ 0x3A9) ∨ (0x410 ≤ n ∧ n ≤ 0x42F) then
    Char.ofNat (n + 32)
  else if 0x400 ≤ n ∧ n ≤ 0x40F then Char.ofNat (n + 80)
  else c

/-- Texts with a dot between them. -/
def joinDots : List (List Char) → List Char
  | [] => []
  | [x] => x
  | x :: y :: rest => x ++ '.' :: joinDots (y :: rest)

/-- The texts between dots. -/
def splitDots : List Char → List (List Char)
  | [] => [[]]
  | c :: rest =>
    if c = '.' then [] :: splitDots rest
    else
      match splitDots rest with
      | label :: labels => (c :: label) :: labels
      | [] => [[c]]

/-- A label in ASCII characters. -/
def asciiLabel (label : List Char) : List Char :=
  if label.all fun c ↦ c.toNat < 128 then label
  else 'x' :: 'n' :: '-' :: '-' :: Punycode.write label

/-- A domain in ASCII characters and in lower case. -/
def asciiDomain? (cs : List Char) : Option (List Char) :=
  let domain := joinDots ((splitDots (cs.map lowerLetter)).map asciiLabel)
  if domain.isEmpty ∨ domain.any isDomainFault then none else some domain

/-! ## IPv4 addresses in numeric notation -/

/-- The value of a part of an address: decimal, octal after a zero, or hexadecimal after `0x`. -/
def numericPart? (cs : List Char) : Option Nat :=
  let read (base : Nat) (cs : List Char) : Option Nat :=
    cs.foldlM (fun n c ↦ (Net.Reader.digit? base c).map (n * base + ·)) 0
  match cs with
  | [] => none
  | '0' :: 'x' :: rest => read 16 rest
  | '0' :: 'X' :: rest => read 16 rest
  | '0' :: c :: rest => read 8 (c :: rest)
  | cs => read 10 cs

/-- The labels of a domain without an empty one at the end. -/
def numericLabels (cs : List Char) : List (List Char) :=
  let labels := splitDots cs
  if 1 < labels.length ∧ labels.getLast? = some [] then labels.dropLast else labels

/-- Whether a domain ends in a number, so that it has to be an IPv4 address. -/
def endsInNumber (cs : List Char) : Bool :=
  match (numericLabels cs).getLast? with
  | none => false
  | some last => (!last.isEmpty && last.all Char.isDigit) || (numericPart? last).isSome

/-- The value of an address from its parts, the last of which fills the octets that are left. -/
def numericValue? : List Nat → Nat → Option Nat
  | [], _ => none
  | [last], left => if last < Nat.pow 256 left then some last else none
  | part :: rest, left =>
    if part < 256 then (numericValue? rest (left - 1)).map (part * Nat.pow 256 (left - 1) + ·)
    else none

/-- The IPv4 address that a domain writes. -/
def numericV4? (cs : List Char) : Option Net.V4 := do
  let labels := numericLabels cs
  if 4 < labels.length then none
  let parts ← labels.mapM numericPart?
  let n ← numericValue? parts 4
  some ⟨(n / Nat.pow 2 24).toUInt8, (n / Nat.pow 2 16).toUInt8, (n / Nat.pow 2 8).toUInt8,
    n.toUInt8⟩

/-! ## Hosts -/

/-- The text of an IPv6 address in a URL. -/
def v6Text (ip : Net.V6) : List Char :=
  let (start, length) := Net.V6.longestZeros ip.groups
  if 1 < length then
    Net.V6.groupChars (ip.groups.take start) ++ ':' :: ':' ::
      Net.V6.groupChars (ip.groups.drop (start + length))
  else Net.V6.groupChars ip.groups

/-- An address in brackets. -/
def bracketed? (cs : List Char) : Option (List Char) :=
  match cs.reverse with
  | ']' :: inner =>
    (Net.Reader.complete? (Net.Reader.v6? inner.reverse)).map fun ip ↦ '[' :: v6Text ip ++ [']']
  | _ => none

/-- Whether a character is a control character or lies beyond ASCII. -/
def isControl (c : Char) : Bool := c.toNat < 0x20 || 0x7E < c.toNat

/-- The normal form of a host, if it is one. Schemes of the web know domains and IPv4 addresses. -/
def host? (web : Bool) (cs : List Char) : Option (List Char) :=
  match cs with
  | '[' :: rest => bracketed? rest
  | cs =>
    if web then do
      let domain ← asciiDomain? (Utf8.lossyChars (octets cs))
      if endsInNumber domain then (numericV4? domain).map Net.V4.chars else some domain
    else if cs.any isHostDelimiter then none
    else some (escape isControl cs)

end RequestTelemetry.Url
