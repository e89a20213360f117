import RequestTelemetry.Environment
import RequestTelemetry.Text.Alphanumeric
import RequestTelemetry.Text.Blank
import RequestTelemetry.Text.Utf8

/-!
# Variables from a `.env` file

A file of assignments `NAME=value`, one a line, with comments from a `#` at the start of a line or
after a blank. A quoted value may go on over several lines. In values outside single quotes a
backslash escapes, and `$NAME` or the name in braces after a dollar sign stands for the value of
another variable, or for nothing if there is no such variable.

Assignments are carried out one after another. A variable that is set already keeps its value, and
the first malformed line ends the loading.
-/

namespace RequestTelemetry.Dotenv

/-- Why loading ended early. -/
inductive Error where
  /-- A malformed line or value, and the position of the fault in it. -/
  | malformed (text : String) (position : Nat)
  /-- A line that is not UTF-8. -/
  | encoding
  deriving DecidableEq, Repr

/-- The text of an error. -/
def Error.message : Error → String
  | malformed text position =>
    "Error parsing line: '" ++ text ++ "', error at line index: " ++ toString position
  | encoding => "stream did not contain valid UTF-8"

/-- The number of octets of a text. -/
def octets (cs : List Char) : Nat := (Utf8.encodeChars cs).length

/-! ## Lines -/

/-- The lines of a file, each with the line feed at its end. -/
def rawLines : Bytes → List Bytes
  | [] => []
  | b :: rest =>
    if b = 0x0A then [b] :: rawLines rest
    else
      match rawLines rest with
      | line :: lines => (b :: line) :: lines
      | [] => [[b]]

/-- Where the end of a line leaves its text. -/
inductive Scan where
  /-- Outside quotes; the text may end here. -/
  | plain
  /-- Outside quotes after a blank, where a comment may start. -/
  | gap
  /-- After a backslash outside quotes. -/
  | escape
  /-- Inside single quotes. -/
  | strong
  /-- After a backslash inside single quotes. -/
  | strongEscape
  /-- Inside double quotes. -/
  | weak
  /-- After a backslash inside double quotes. -/
  | weakEscape
  deriving DecidableEq, Repr

/-- Takes a character outside quotes; blanks other than line ends leave a gap if `gaps` is set. -/
def Scan.outside (gaps : Bool) (c : Char) : Scan :=
  if c = '\\' then escape
  else if c = '"' then weak
  else if c = '\'' then strong
  else if gaps ∧ Text.isBlank c ∧ c ≠ '\n' ∧ c ≠ '\r' then gap
  else plain

/-- Takes a character that starts no comment. -/
def Scan.push : Scan → Char → Scan
  | plain, c => outside true c
  | gap, c => outside false c
  | escape, _ => plain
  | strong, c => if c = '\\' then strongEscape else if c = '\'' then plain else strong
  | strongEscape, _ => strong
  | weak, c => if c = '\\' then weakEscape else if c = '"' then plain else weak
  | weakEscape, _ => weak

/-- The part of a line before a comment, with the state at its end; without a comment there is
none after it. -/
def scanLine (s : Scan) : List Char → List Char × Option Scan
  | [] => ([], some s)
  | c :: rest =>
    if s = .gap ∧ c = '#' then ([], none)
    else
      let (kept, s) := scanLine (s.push c) rest
      (c :: kept, s)

/-- A line without its line end. -/
def withoutEnd (cs : List Char) : List Char :=
  match cs.reverse with
  | '\n' :: '\r' :: rest => rest.reverse
  | '\n' :: rest => rest.reverse
  | _ => cs

/-- The texts that assignments are read from: lines, joined while a quotation or an escape is open
at their end. `pending` is what is open so far. A comment line reads as an empty text. -/
def texts (pending : List Char) (s : Scan) : List Bytes → List (Except Error (List Char))
  | [] => if s = .plain then [] else [.error (.malformed (String.ofList pending) (octets pending))]
  | line :: lines =>
    match Utf8.decodeChars? line with
    | none => [.error .encoding]
    | some cs =>
      if (Text.trimStart (pending ++ cs)).head? = some '#' then .ok [] :: texts [] .plain lines
      else
        match scanLine s cs with
        | (kept, none) => .ok (pending ++ kept) :: texts [] .plain lines
        | (_, some .plain) => .ok (withoutEnd (pending ++ cs)) :: texts [] .plain lines
        | (_, some s) => texts (pending ++ cs) s lines

/-! ## Values -/

/-- Where a reference to another variable stands. -/
inductive Reference where
  | none
  /-- After the dollar sign, with the name so far, last character first. -/
  | bare (name : List Char)
  /-- Inside the braces, with the name so far, last character first. -/
  | braced (name : List Char)
  deriving DecidableEq, Repr

/-- What has been read of a value. -/
structure Value where
  /-- The characters of the value, last first. -/
  output : List Char := []
  strong : Bool := false
  weak : Bool := false
  escaped : Bool := false
  /-- Whether a blank has ended the value, so that only a comment may follow. -/
  ended : Bool := false
  reference : Reference := .none
  deriving DecidableEq, Repr

namespace Value

/-- Adds a character. -/
def push (v : Value) (c : Char) : Value := { v with output := c :: v.output }

/-- Puts the value of a variable for its name. -/
def substitute (v : Value) (lookup : String → String) (name : List Char) : Value :=
  { v with
    output := (lookup (String.ofList name.reverse)).toList.reverse ++ v.output
    reference := .none }

/-- The character that an escaped one stands for. -/
def escape? : Char → Option Char
  | '\\' => some '\\'
  | '\'' => some '\''
  | '"' => some '"'
  | '$' => some '$'
  | ' ' => some ' '
  | 'n' => some '\n'
  | _ => none

/-- Takes a character inside a reference. The one that ends a bare name belongs to the value, unless
it starts the next reference. -/
def inReference (v : Value) (lookup : String → String) (c : Char) : Value :=
  match v.reference with
  | .none => v
  | .bare name =>
    if Text.isAlphanumeric c then { v with reference := .bare (c :: name) }
    else if c = '\x7b' ∧ name.isEmpty then { v with reference := .braced [] }
    else
      let v := v.substitute lookup name
      if c = '$' then { v with reference := .bare [] } else v.push c
  | .braced name =>
    if c = '\x7d' then v.substitute lookup name else { v with reference := .braced (c :: name) }

/-- Takes a character outside references and escapes. -/
def inText (v : Value) (c : Char) : Value :=
  if c = '$' then { v with reference := .bare [] }
  else if v.weak then
    if c = '"' then { v with weak := false }
    else if c = '\\' then { v with escaped := true }
    else v.push c
  else if c = '\'' then { v with strong := true }
  else if c = '"' then { v with weak := true }
  else if c = '\\' then { v with escaped := true }
  else if c = ' ' ∨ c = '\t' then { v with ended := true }
  else v.push c

/-- Takes a character; there is none if it cannot stand here. -/
def next? (v : Value) (lookup : String → String) (c : Char) : Option Value :=
  if v.ended then if c = ' ' ∨ c = '\t' then some v else none
  else if v.escaped then (escape? c).map fun e ↦ { v.push e with escaped := false }
  else if v.strong then some (if c = '\'' then { v with strong := false } else v.push c)
  else if v.reference ≠ .none then some (v.inReference lookup c)
  else some (v.inText c)

/-- Takes characters up to the end or to a comment; a fault is told by how many came before it. -/
def run (lookup : String → String) (v : Value) (count : Nat) : List Char → Except Nat Value
  | [] => .ok v
  | c :: rest =>
    if v.ended ∧ c = '#' then .ok v
    else
      match v.next? lookup c with
      | some v => run lookup v (count + 1) rest
      | none => .error count

/-- The finished value, unless a quotation or a brace is open. -/
def finish? (v : Value) (lookup : String → String) : Option String :=
  match v.reference with
  | .braced _ => .none
  | reference =>
    if v.strong ∨ v.weak then .none
    else
      let name := match reference with
        | .bare name => name
        | _ => []
      some (String.ofList (v.substitute lookup name).output.reverse)

end Value

/-- Reads a value. An open end is a fault at the last octet. -/
def readValue (lookup : String → String) (cs : List Char) : Except Error String :=
  match Value.run lookup {} 0 cs with
  | .error count => .error (.malformed (String.ofList cs) count)
  | .ok v =>
    match v.finish? lookup with
    | some s => .ok s
    | none => .error (.malformed (String.ofList cs) (octets cs - 1))

/-! ## Assignments -/

/-- Whether a name may start with a character. -/
def startsName (c : Char) : Bool := c.isAlpha || c = '_'

/-- Whether a name may go on with a character. -/
def continuesName (c : Char) : Bool := c.isAlphanum || c = '_' || c = '.'

/-- The name at the start of a text, and the rest. -/
def readName? (cs : List Char) : Option (List Char × List Char) :=
  match cs with
  | c :: _ =>
    if startsName c then some (cs.takeWhile continuesName, cs.dropWhile continuesName) else none
  | [] => none

/-- The name of an assignment and what follows the equals sign, both without the blanks around
them. The word `export` may stand before the name. If there is none, what is left where the fault
was found. -/
def readTarget (cs : List Char) : Except (List Char) (String × List Char) :=
  match readName? cs with
  | none => .error cs
  | some (name, rest) =>
    match Text.trimStart rest with
    | '=' :: rest => .ok (String.ofList name, Text.trimStart rest)
    | rest =>
      if name = "export".toList then
        match readName? rest with
        | none => .error rest
        | some (name, rest) =>
          match Text.trimStart rest with
          | '=' :: rest => .ok (String.ofList name, Text.trimStart rest)
          | rest => .error rest
      else .error rest

/-- Reads an assignment. A blank text or a comment holds none; an absent value is empty. -/
def readAssignment (lookup : String → String) (text : List Char) :
    Except Error (Option (String × String)) :=
  let line := Text.trimEnd text
  let body := Text.trimStart line
  if body.isEmpty ∨ body.head? = some '#' then .ok none
  else
    match readTarget body with
    | .error rest => .error (.malformed (String.ofList text) (octets line - octets rest))
    | .ok (name, value) =>
      if value.isEmpty ∨ value.head? = some '#' then .ok (some (name, ""))
      else (readValue lookup value).map fun v ↦ some (name, v)

/-- Carries out the assignments of texts, and tells why it ended early. -/
def assign (env : Environment) : List (Except Error (List Char)) → Environment × Option Error
  | [] => (env, none)
  | .error e :: _ => (env, some e)
  | .ok text :: rest =>
    match readAssignment (fun name ↦ (env.get? name).getD "") text with
    | .error e => (env, some e)
    | .ok none => assign env rest
    | .ok (some (name, value)) => assign (env.setIfNew name value) rest

/-- The octets of a file without the byte order mark. -/
def withoutMark : Bytes → Bytes
  | 0xEF :: 0xBB :: 0xBF :: rest => rest
  | bs => bs

/-- Loads the content of a file into an environment. -/
def load (env : Environment) (content : Bytes) : Environment × Option Error :=
  assign env (texts [] .plain (rawLines (withoutMark content)))

end RequestTelemetry.Dotenv
