import RequestTelemetry.Json.Basic
import RequestTelemetry.Text.Utf8

/-!
# Reading JSON texts

The grammar of JSON, with nothing allowed beyond it: no trailing commas, no comments, control
characters escaped in strings, surrogates only in pairs. Containers nest at most 127 deep. Of
several members with one key the last counts.

The reader works on a list of characters and returns what it read with the rest of the list.
-/

namespace RequestTelemetry.Json

namespace Reader

/-- Whether a character may stand between two tokens. -/
def isGap (c : Char) : Bool := c = ' ' || c = '\n' || c = '\t' || c = '\r'

/-- The text after the gap at its start. -/
def skip (cs : List Char) : List Char := cs.dropWhile isGap

/-- The value of a hexadecimal digit. -/
def hexDigit? (c : Char) : Option Nat :=
  if '0' ≤ c ∧ c ≤ '9' then some (c.toNat - '0'.toNat)
  else if 'a' ≤ c ∧ c ≤ 'f' then some (c.toNat - 'a'.toNat + 10)
  else if 'A' ≤ c ∧ c ≤ 'F' then some (c.toNat - 'A'.toNat + 10)
  else none

/-- The number written by four hexadecimal digits. -/
def hex4? (a b c d : Char) : Option Nat := do
  let a ← hexDigit? a
  let b ← hexDigit? b
  let c ← hexDigit? c
  let d ← hexDigit? d
  some (((a * 16 + b) * 16 + c) * 16 + d)

/-- The character of a short escape. -/
def shortEscape? : Char → Option Char
  | '"' => some '"'
  | '\\' => some '\\'
  | '/' => some '/'
  | 'b' => some '\x08'
  | 'f' => some '\x0c'
  | 'n' => some '\n'
  | 'r' => some '\r'
  | 't' => some '\t'
  | _ => none

/-- Whether a number is the first of a surrogate pair. -/
def isHigh (n : Nat) : Bool := 0xD800 ≤ n && n < 0xDC00

/-- Whether a number is the second of a surrogate pair. -/
def isLow (n : Nat) : Bool := 0xDC00 ≤ n && n < 0xE000

/-- Reads the rest of a string after its opening quote. `read` holds its characters so far, last
first. -/
def stringFrom? (read : List Char) : List Char → Option (String × List Char)
  | [] => none
  | '"' :: rest => some (String.ofList read.reverse, rest)
  | '\\' :: 'u' :: a :: b :: c :: d :: rest =>
    match hex4? a b c d with
    | none => none
    | some n =>
      if isLow n then none
      else if isHigh n then
        match rest with
        | '\\' :: 'u' :: e :: f :: g :: h :: rest =>
          match hex4? e f g h with
          | none => none
          | some m =>
            if isLow m then
              stringFrom? (Char.ofNat (0x10000 + (n - 0xD800) * 0x400 + (m - 0xDC00)) :: read) rest
            else none
        | _ => none
      else stringFrom? (Char.ofNat n :: read) rest
  | '\\' :: c :: rest =>
    match shortEscape? c with
    | some e => stringFrom? (e :: read) rest
    | none => none
  | c :: rest => if c.toNat < 0x20 ∨ c = '\\' then none else stringFrom? (c :: read) rest

mutual

/-- Reads a value off the start of a text, without a gap before it. `depth` containers may still be
opened inside each other; `fuel` bounds the number of steps. -/
def value? (fuel depth : Nat) (cs : List Char) : Option (Json × List Char) :=
  match fuel with
  | 0 => none
  | fuel + 1 =>
    match cs with
    | 'n' :: 'u' :: 'l' :: 'l' :: rest => some (null, rest)
    | 't' :: 'r' :: 'u' :: 'e' :: rest => some (bool true, rest)
    | 'f' :: 'a' :: 'l' :: 's' :: 'e' :: rest => some (bool false, rest)
    | '"' :: rest => (stringFrom? [] rest).map fun (s, rest) ↦ (string s, rest)
    | '[' :: rest =>
      match depth with
      | 0 => none
      | depth + 1 =>
        match skip rest with
        | ']' :: rest => some (array [], rest)
        | rest => (items? fuel depth rest).map fun (xs, rest) ↦ (array xs, rest)
    | '\x7b' :: rest =>
      match depth with
      | 0 => none
      | depth + 1 =>
        match skip rest with
        | '\x7d' :: rest => some (object [], rest)
        | rest => (fields? fuel depth rest).map fun (xs, rest) ↦ (ofFields xs, rest)
    | cs => (Number.read? cs).map fun (n, rest) ↦ (number n, rest)

/-- Reads the items of an array and its closing bracket. -/
def items? (fuel depth : Nat) (cs : List Char) : Option (List Json × List Char) :=
  match fuel with
  | 0 => none
  | fuel + 1 =>
    match value? fuel depth cs with
    | none => none
    | some (x, rest) =>
      match skip rest with
      | ']' :: rest => some ([x], rest)
      | ',' :: rest => (items? fuel depth (skip rest)).map fun (xs, rest) ↦ (x :: xs, rest)
      | _ => none

/-- Reads the members of an object and its closing brace. -/
def fields? (fuel depth : Nat) (cs : List Char) : Option (List (String × Json) × List Char) :=
  match fuel with
  | 0 => none
  | fuel + 1 =>
    match cs with
    | '"' :: rest =>
      match stringFrom? [] rest with
      | none => none
      | some (key, rest) =>
        match skip rest with
        | ':' :: rest =>
          match value? fuel depth (skip rest) with
          | none => none
          | some (x, rest) =>
            match skip rest with
            | '\x7d' :: rest => some ([(key, x)], rest)
            | ',' :: rest =>
              (fields? fuel depth (skip rest)).map fun (xs, rest) ↦ ((key, x) :: xs, rest)
            | _ => none
        | _ => none
    | _ => none

end

end Reader

/-- How many containers may be open at a time. -/
def maxDepth : Nat := 127

/-- Reads a document. -/
def parseChars? (cs : List Char) : Option Json :=
  match Reader.value? (cs.length + 1) maxDepth (Reader.skip cs) with
  | some (j, rest) => if (Reader.skip rest).isEmpty then some j else none
  | none => none

/-- Reads a document. -/
def parse? (s : String) : Option Json := parseChars? s.toList

/-- Reads a document from octets, which have to be well-formed UTF-8. -/
def ofBytes? (bs : Bytes) : Option Json := (Utf8.decodeChars? bs).bind parseChars?

end RequestTelemetry.Json
