import RequestTelemetry.Text.Utf8

/-!
# Tokens, methods and header names

A token is a non-empty sequence of visible ASCII octets without separators. A method is a token as
it stands; a header name is a token of at most 65535 octets in lower case, so that two spellings of
a name are the same name.
-/

namespace RequestTelemetry.Http

/-- Whether an octet is an ASCII letter. -/
def isLetter (b : UInt8) : Bool := (0x41 ≤ b && b ≤ 0x5A) || (0x61 ≤ b && b ≤ 0x7A)

/-- Whether an octet is an ASCII digit. -/
def isDigit (b : UInt8) : Bool := 0x30 ≤ b && b ≤ 0x39

/-- The ASCII character of an octet below 128. -/
def toChar (b : UInt8) : Char := Char.ofNat b.toNat

/-- The text of ASCII octets. -/
def asciiText (bs : Bytes) : String := String.ofList (bs.map toChar)

/-- An octet with capital ASCII letters turned into small ones. -/
def toLower (b : UInt8) : UInt8 := if 0x41 ≤ b ∧ b ≤ 0x5A then b + 0x20 else b

/-- Whether an octet may stand in a token. -/
def isTokenOctet (b : UInt8) : Bool :=
  isLetter b || isDigit b || (Utf8.encode "!#$%&'*+-.^_\x60|~").contains b

/-- Whether octets form a token. -/
def isToken (bs : Bytes) : Bool := !bs.isEmpty && bs.all isTokenOctet

/-- A request method. -/
structure Method where
  name : String
  deriving DecidableEq, Repr, Inhabited

namespace Method

/-- The method written by octets, if they form a token. -/
def ofBytes? (bs : Bytes) : Option Method := if isToken bs then some ⟨asciiText bs⟩ else none

/-- The method `GET`. -/
def get : Method := ⟨"GET"⟩

/-- The method `POST`. -/
def post : Method := ⟨"POST"⟩

/-- The method `HEAD`. -/
def head : Method := ⟨"HEAD"⟩

end Method

/-- A header name, in lower case. -/
structure HeaderName where
  name : String
  deriving DecidableEq, Repr, Inhabited

namespace HeaderName

/-- The greatest length of a header name. -/
def maxLength : Nat := 65535

/-- The header name written by octets, in any case. -/
def ofBytes? (bs : Bytes) : Option HeaderName :=
  if isToken bs ∧ bs.length ≤ maxLength then some ⟨asciiText (bs.map toLower)⟩ else none

/-- The header name written by a text, in any case. -/
def ofText? (s : String) : Option HeaderName := ofBytes? (Utf8.encode s)

/-- `content-type`, the media type of a body. -/
def contentType : HeaderName := ⟨"content-type"⟩

/-- `cookie`, the cookies a client holds. -/
def cookie : HeaderName := ⟨"cookie"⟩

/-- `user-agent`, the software a client runs. -/
def userAgent : HeaderName := ⟨"user-agent"⟩

/-- `location`, where a redirect leads. -/
def location : HeaderName := ⟨"location"⟩

/-- `accept`, the media types that a client takes. -/
def accept : HeaderName := ⟨"accept"⟩

/-- `host`, the server that a client asks. -/
def host : HeaderName := ⟨"host"⟩

/-- `content-length`, the number of octets of a body. -/
def contentLength : HeaderName := ⟨"content-length"⟩

/-- `referer`, where a client comes from. -/
def referer : HeaderName := ⟨"referer"⟩

end HeaderName
end RequestTelemetry.Http
