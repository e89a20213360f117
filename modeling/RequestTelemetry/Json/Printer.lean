import RequestTelemetry.Json.Basic
import RequestTelemetry.Text.Quoted
import RequestTelemetry.Text.Utf8

/-!
# JSON texts

The compact form of a value: no blanks, members in the order they are held, and in strings only
those characters escaped that have to be: the quote, the backslash and the control characters below
U+0020, with the short escape where there is one.
-/

namespace RequestTelemetry.Json

/-- A character as it stands in a string. -/
def escapedChar (c : Char) : List Char :=
  match c with
  | '"' => ['\\', '"']
  | '\\' => ['\\', '\\']
  | '\x08' => ['\\', 'b']
  | '\x0c' => ['\\', 'f']
  | '\n' => ['\\', 'n']
  | '\r' => ['\\', 'r']
  | '\t' => ['\\', 't']
  | c =>
    if c.toNat < 0x10 then ['\\', 'u', '0', '0', '0'] ++ Text.hexDigits c.toNat
    else if c.toNat < 0x20 then ['\\', 'u', '0', '0'] ++ Text.hexDigits c.toNat
    else [c]

/-- A string between quotes. -/
def stringText (s : String) : List Char := '"' :: s.toList.flatMap escapedChar ++ ['"']

mutual

/-- The characters of the compact form. -/
def renderChars : Json → List Char
  | null => ['n', 'u', 'l', 'l']
  | bool true => ['t', 'r', 'u', 'e']
  | bool false => ['f', 'a', 'l', 's', 'e']
  | number n => n.text
  | string s => stringText s
  | array items => '[' :: renderItems items ++ [']']
  | object fields => '\x7b' :: renderFields fields ++ ['\x7d']

/-- The items of an array, with commas between them. -/
def renderItems : List Json → List Char
  | [] => []
  | [x] => renderChars x
  | x :: y :: rest => renderChars x ++ ',' :: renderItems (y :: rest)

/-- The members of an object, with commas between them. -/
def renderFields : List (String × Json) → List Char
  | [] => []
  | [(k, x)] => stringText k ++ ':' :: renderChars x
  | (k, x) :: y :: rest => stringText k ++ ':' :: renderChars x ++ ',' :: renderFields (y :: rest)

end

/-- The compact form. -/
def render (j : Json) : String := String.ofList j.renderChars

/-- The octets of the compact form. -/
def renderBytes (j : Json) : Bytes := Utf8.encodeChars j.renderChars

end RequestTelemetry.Json
