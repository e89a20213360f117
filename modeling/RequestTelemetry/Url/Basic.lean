import RequestTelemetry.Url.Form
import RequestTelemetry.Url.Host

/-!
# URLs

Reading an absolute URL into its parts, and writing it in normal form: scheme and host in lower
case, the default port left out, dot segments resolved, and the characters percent-encoded that may
not stand in their part. In the schemes of the web a backslash separates like a slash.
-/

namespace RequestTelemetry

/-- An absolute URL in normal form. -/
structure Url where
  scheme : String
  /-- The user name and, after a colon, the password. -/
  user : Option (List Char × Option (List Char))
  host : Option (List Char)
  port : Option Nat
  path : List Char
  query : Option (List Char)
  fragment : Option (List Char)
  deriving DecidableEq, Repr

namespace Url

/-- The default ports of the schemes of the web. -/
def webSchemes : List (String × Nat) :=
  [("http", 80), ("https", 443), ("ws", 80), ("wss", 443), ("ftp", 21)]

/-- Whether a scheme is one of the web. -/
def isWeb (scheme : String) : Bool := (webSchemes.lookup scheme).isSome

/-- Whether a character is escaped in a fragment. -/
def fragmentEscapes (c : Char) : Bool := isControl c || " \"<>\x60".toList.contains c

/-- Whether a character is escaped in a query. -/
def queryEscapes (web : Bool) (c : Char) : Bool :=
  isControl c || " \"#<>".toList.contains c || (web && c = '\'')

/-- Whether a character is escaped in a path. -/
def pathEscapes (c : Char) : Bool := fragmentEscapes c || "#?\x7b\x7d".toList.contains c

/-- Whether a character is escaped in user information. -/
def userEscapes (c : Char) : Bool := pathEscapes c || "/:;=@[\\]^|".toList.contains c

/-! ## Reading -/

/-- Without the spaces and control characters at both ends, and without tabs and line ends. -/
def cleaned (cs : List Char) : List Char :=
  let blank (c : Char) : Bool := c.toNat ≤ 0x20
  let inner := ((cs.dropWhile blank).reverse.dropWhile blank).reverse
  inner.filter fun c ↦ c ≠ '\t' ∧ c ≠ '\n' ∧ c ≠ '\r'

/-- The scheme before the first colon, in lower case, and what follows. -/
def readScheme? (cs : List Char) : Option (String × List Char) :=
  let isPart (c : Char) : Bool := c.isAlphanum || c = '+' || c = '-' || c = '.'
  match cs with
  | [] => none
  | c :: _ =>
    match cs.dropWhile isPart with
    | ':' :: rest =>
      if c.isAlpha then some (String.ofList ((cs.takeWhile isPart).map Char.toLower), rest)
      else none
    | _ => none

/-- Whether a character separates the segments of a path. -/
def isSeparator (web : Bool) (c : Char) : Bool := c = '/' || (web && c = '\\')

/-- Whether a segment stands for the present place. -/
def isDot (segment : List Char) : Bool :=
  [".", "%2e"].contains (String.ofList (segment.map Char.toLower))

/-- Whether a segment stands for the place above. -/
def isDoubleDot (segment : List Char) : Bool :=
  ["..", ".%2e", "%2e.", "%2e%2e"].contains (String.ofList (segment.map Char.toLower))

/-- The segments between separators. -/
def segments (web : Bool) : List Char → List (List Char)
  | [] => [[]]
  | c :: rest =>
    if isSeparator web c then [] :: segments web rest
    else
      match segments web rest with
      | s :: more => (c :: s) :: more
      | [] => [[c]]

/-- Resolves dot segments; `done` holds the resolved ones, last first. A dot segment at the end
leaves an empty segment. -/
def resolveDots (done : List (List Char)) : List (List Char) → List (List Char)
  | [] => done.reverse
  | s :: rest =>
    let last := rest.isEmpty
    if isDoubleDot s then
      let above := done.drop 1
      resolveDots (if last then [] :: above else above) rest
    else if isDot s then resolveDots (if last then [] :: done else done) rest
    else resolveDots (escape pathEscapes s :: done) rest

/-- The path that a text with a separator at its start writes. -/
def readPath (web : Bool) (cs : List Char) : List Char :=
  match cs with
  | [] => if web then ['/'] else []
  | c :: rest =>
    let body := if isSeparator web c then rest else c :: rest
    (resolveDots [] (segments web body)).flatMap ('/' :: ·)

/-- The user information before the last `@`, and what follows. Information without a name and a
password counts as none. -/
def readUser (cs : List Char) : Option (List Char × Option (List Char)) × List Char :=
  match cs.reverse.dropWhile (· ≠ '@') with
  | [] => (none, cs)
  | _ :: before =>
    let info := before.reverse
    let rest := cs.drop (info.length + 1)
    let name := escape userEscapes (info.takeWhile (· ≠ ':'))
    let word := escape userEscapes ((info.dropWhile (· ≠ ':')).drop 1)
    if name.isEmpty ∧ word.isEmpty then (none, rest)
    else (some (name, if word.isEmpty then none else some word), rest)

/-- The host and what follows: up to a colon outside brackets. -/
def splitHost (inside : Bool) : List Char → List Char × List Char
  | [] => ([], [])
  | c :: rest =>
    if c = ':' ∧ ¬inside then ([], c :: rest)
    else
      let inside := if c = '[' then true else if c = ']' then false else inside
      let (host, tail) := splitHost inside rest
      (c :: host, tail)

/-- The port after a colon, a number of at most 65535, or nothing; the scheme's own is left out. -/
def readPort? (scheme : String) (cs : List Char) : Option (Option Nat) :=
  match cs with
  | [] => some none
  | _ :: [] => some none
  | _ :: digits =>
    if digits.all Char.isDigit then
      let n := digits.foldl (fun n c ↦ n * 10 + (c.toNat - '0'.toNat)) 0
      if 65535 < n then none
      else if webSchemes.lookup scheme = some n then some none
      else some (some n)
    else none

/-- The parts after the path: query and fragment. -/
def readTail (web : Bool) (cs : List Char) : List Char × Option (List Char) × Option (List Char) :=
  let beforeHash := cs.takeWhile (· ≠ '#')
  let fragment := match cs.dropWhile (· ≠ '#') with
    | _ :: rest => some (escape fragmentEscapes rest)
    | [] => none
  let query := match beforeHash.dropWhile (· ≠ '?') with
    | _ :: rest => some (escape (queryEscapes web) rest)
    | [] => none
  (beforeHash.takeWhile (· ≠ '?'), query, fragment)

/-- Reads what follows the two slashes of a URL with an authority. -/
def readAuthority? (scheme : String) (cs : List Char) : Option Url := do
  let web := isWeb scheme
  let ends (c : Char) : Bool := isSeparator web c || c = '?' || c = '#'
  let authority := cs.takeWhile (!ends ·)
  let (user, rest) := readUser authority
  let (hostText, portText) := splitHost false rest
  let (pathText, query, fragment) := readTail web (cs.drop authority.length)
  let path := readPath web pathText
  if hostText.isEmpty then
    if web ∨ user.isSome ∨ !portText.isEmpty then none
    some ⟨scheme, none, none, none, '/' :: '/' :: path, query, fragment⟩
  else
    let host ← host? web hostText
    let port ← readPort? scheme portText
    some ⟨scheme, user, some host, port, path, query, fragment⟩

/-- A URL without a host. The path of a file is absolute and has slashes before it. -/
def ofPath (scheme : String) (cs : List Char) : Url :=
  let (pathText, query, fragment) := readTail false cs
  let path :=
    if scheme = "file" then '/' :: '/' :: readPath true pathText
    else if pathText.head? = some '/' then readPath false pathText
    else escape isControl pathText
  ⟨scheme, none, none, none, path, query, fragment⟩

/-- Reads an absolute URL. -/
def ofText? (s : String) : Option Url := do
  let (scheme, rest) ← readScheme? (cleaned s.toList)
  if isWeb scheme then readAuthority? scheme (rest.dropWhile (isSeparator true))
  else
    match rest with
    | '/' :: '/' :: rest => readAuthority? scheme rest
    | _ => some (ofPath scheme rest)

/-! ## Writing -/

/-- The authority as it is written, with the slashes before it. -/
def authorityChars (u : Url) : List Char :=
  match u.host with
  | none => []
  | some host =>
    let user := match u.user with
      | some (name, some word) => name ++ ':' :: word ++ ['@']
      | some (name, none) => name ++ ['@']
      | none => []
    let port := match u.port with
      | some n => ':' :: Net.decimal n
      | none => []
    '/' :: '/' :: user ++ host ++ port

/-- The normal form. -/
def text (u : Url) : String :=
  let query := match u.query with
    | some q => '?' :: q
    | none => []
  let fragment := match u.fragment with
    | some f => '#' :: f
    | none => []
  u.scheme ++ String.ofList (':' :: u.authorityChars ++ u.path ++ query ++ fragment)

/-- Adds pairs to the query, after those that it has. -/
def addPairs (u : Url) (pairs : List (String × String)) : Url :=
  let added := Form.writePairs pairs
  let query := match u.query with
    | none | some [] => added
    | some q => q ++ '&' :: added
  { u with query := some query }

/-- Whether user information is UTF-8 once it is decoded. -/
def readable (cs : List Char) : Bool := (Utf8.decode? (octets cs)).isSome

/-- Without user information; it goes into a header, if its name can be read and there is a name or
a password that can be read. -/
def withoutUser (u : Url) : Url :=
  match u.user with
  | some (name, word) =>
    if readable name ∧ (!name.isEmpty ∨ word.any readable) then { u with user := none } else u
  | none => u

end Url
end RequestTelemetry
