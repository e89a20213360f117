import RequestTelemetry.Http.Token

/-!
# Request targets

A request target is one of four forms: a path with an optional query, an absolute URI with scheme
and authority, an authority alone, or an asterisk. A fragment is dropped unread. The path of an
absolute URI that has none is `/`; an authority alone has no path.

Path and query may hold octets from 128 on as long as what is kept of them is UTF-8.
-/

namespace RequestTelemetry.Http

/-- Why octets are no request target. -/
inductive UriError where
  | empty
  | tooLong
  | invalidCharacter
  | invalidAuthority
  | invalidFormat
  | schemeTooLong
  deriving DecidableEq, Repr

/-- The text of an error. -/
def UriError.message : UriError → String
  | empty => "empty string"
  | tooLong => "uri too long"
  | invalidCharacter => "invalid uri character"
  | invalidAuthority => "invalid authority"
  | invalidFormat => "invalid format"
  | schemeTooLong => "scheme too long"

/-- A request target. -/
structure Uri where
  scheme : Option String
  authority : Option String
  path : String
  query : Option String
  deriving DecidableEq, Repr

namespace Uri

/-- The target `/`. -/
def root : Uri := ⟨none, none, "/", none⟩

instance : Inhabited Uri := ⟨root⟩

/-- A target as it is written. -/
def text (u : Uri) : String :=
  (u.scheme.map (· ++ "://")).getD "" ++ u.authority.getD "" ++ u.path ++
    (u.query.map ("?" ++ ·)).getD ""

/-! ## Path and query -/

/-- Whether an octet may stand in a path. -/
def isPathOctet (b : UInt8) : Bool :=
  b == 0x21 || (0x24 ≤ b && b ≤ 0x3B) || b == 0x3D || (0x40 ≤ b && b ≤ 0x5F) ||
    (0x61 ≤ b && b ≤ 0x7E) || b == 0x22 || 0x80 ≤ b

/-- Whether an octet may stand in a query. -/
def isQueryOctet (b : UInt8) : Bool :=
  b == 0x21 || (0x24 ≤ b && b ≤ 0x3B) || b == 0x3D || (0x3F ≤ b && b ≤ 0x7E) || 0x80 ≤ b

/-- Whether an octet ends a path. -/
def endsPath (b : UInt8) : Bool := b == 0x3F || b == 0x23

/-- Octets that are UTF-8 as a text. -/
def decoded (bs : Bytes) : Except UriError String :=
  match Utf8.decode? bs with
  | some s => .ok s
  | none => .error .invalidCharacter

/-- Reads a path and a query up to the fragment. -/
def readTarget (bs : Bytes) : Except UriError (String × Option String) := do
  let path := bs.takeWhile fun b ↦ !endsPath b
  if !path.all isPathOctet then throw .invalidCharacter
  match bs.drop path.length with
  | 0x3F :: rest =>
    let query := rest.takeWhile fun b ↦ b != 0x23
    if !query.all isQueryOctet then throw .invalidCharacter
    let whole ← decoded (path ++ 0x3F :: query)
    let chars := whole.toList
    let pathChars := chars.takeWhile fun c ↦ c != '?'
    return (String.ofList pathChars, some (String.ofList (chars.drop (pathChars.length + 1))))
  | _ => return (← decoded path, none)

/-! ## Authority -/

/-- Whether an octet may stand in an authority beside brackets, colons, `@` and `%`. -/
def isAuthorityOctet (b : UInt8) : Bool :=
  isLetter b || isDigit b || (Utf8.encode "!$&'()*+,-.;=_~").contains b

/-- The greatest number of colons in a row of an authority. -/
def maxColons : Nat := 8

/-- What has been seen of an authority. Colons and percent signs are counted afresh after user
information and after a bracketed host, where alone they are allowed in numbers. -/
structure AuthorityScan where
  colons : Nat := 0
  opened : Bool := false
  closed : Bool := false
  percent : Bool := false
  afterAt : Bool := false
  deriving DecidableEq, Repr

/-- Takes an octet of an authority. -/
def AuthorityScan.push (s : AuthorityScan) (b : UInt8) : Except UriError AuthorityScan :=
  let s := { s with afterAt := false }
  if b = 0x3A then
    if maxColons ≤ s.colons then .error .invalidAuthority
    else .ok { s with colons := s.colons + 1 }
  else if b = 0x5B then
    if s.percent ∨ s.opened then .error .invalidAuthority else .ok { s with opened := true }
  else if b = 0x5D then
    if ¬s.opened ∨ s.closed then .error .invalidAuthority
    else .ok { s with closed := true, colons := 0, percent := false }
  else if b = 0x40 then .ok { s with colons := 0, percent := false, afterAt := true }
  else if b = 0x25 then .ok { s with percent := true }
  else if isAuthorityOctet b then .ok s
  else .error .invalidCharacter

/-- Whether an octet ends an authority. -/
def endsAuthority (b : UInt8) : Bool := b == 0x2F || b == 0x3F || b == 0x23

/-- The authority at the start of octets and the rest of them. It has at most one colon beside
those of user information and bracketed host, and nothing is missing after an `@`. -/
def readAuthority (bs : Bytes) : Except UriError (Bytes × Bytes) := do
  let authority := bs.takeWhile fun b ↦ !endsAuthority b
  let s ← authority.foldlM AuthorityScan.push {}
  if s.opened ≠ s.closed ∨ 1 < s.colons ∨ s.afterAt ∨ s.percent then throw .invalidAuthority
  return (authority, bs.drop authority.length)

/-! ## Scheme -/

/-- Whether an octet may stand in a scheme. -/
def isSchemeOctet (b : UInt8) : Bool :=
  isLetter b || isDigit b || b == 0x2B || b == 0x2D || b == 0x2E || b == 0x7E

/-- The greatest length of a scheme. -/
def maxScheme : Nat := 64

/-- The scheme before `://` and what follows it. The schemes `http` and `https` are recognised in
any case and written in lower case. -/
def readScheme (bs : Bytes) : Except UriError (Option String × Bytes) :=
  if (bs.take 7).map toLower = Utf8.encode "http://" then .ok (some "http", bs.drop 7)
  else if (bs.take 8).map toLower = Utf8.encode "https://" then .ok (some "https", bs.drop 8)
  else
    let scheme := bs.takeWhile isSchemeOctet
    if 3 < bs.length ∧ (bs.drop scheme.length).take 3 = [0x3A, 0x2F, 0x2F] then
      if maxScheme < scheme.length then .error .schemeTooLong
      else .ok (some (asciiText scheme), bs.drop (scheme.length + 3))
    else .ok (none, bs)

/-! ## The whole -/

/-- The greatest length of a request target. -/
def maxLength : Nat := 65534

/-- A target that starts with its scheme or authority. -/
def ofFull (bs : Bytes) : Except UriError Uri := do
  let (scheme, rest) ← readScheme bs
  let (authority, rest) ← readAuthority rest
  match scheme with
  | none =>
    if !rest.isEmpty then throw .invalidFormat
    return ⟨none, some (asciiText authority), "", none⟩
  | some scheme =>
    if authority.isEmpty then throw .invalidFormat
    let (path, query) ← readTarget rest
    return ⟨some scheme, some (asciiText authority), if path.isEmpty then "/" else path, query⟩

/-- Reads a request target. -/
def ofBytes (bs : Bytes) : Except UriError Uri :=
  if maxLength < bs.length then .error .tooLong
  else
    match bs with
    | [] => .error .empty
    | [0x2F] => .ok root
    | [0x2A] => .ok ⟨none, none, "*", none⟩
    | [b] => do
      let (authority, rest) ← readAuthority [b]
      if !rest.isEmpty then throw .invalidCharacter
      return ⟨none, some (asciiText authority), "", none⟩
    | 0x2F :: _ => do
      let (path, query) ← readTarget bs
      return ⟨none, none, path, query⟩
    | _ => ofFull bs

/-- Reads a request target from a text. -/
def ofText (s : String) : Except UriError Uri := ofBytes (Utf8.encode s)

end Uri
end RequestTelemetry.Http
