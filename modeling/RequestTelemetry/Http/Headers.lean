import RequestTelemetry.Http.Token

/-!
# Headers

A list of fields in the order they were added. A name may occur several times; looking it up gives
the first value, replacing it leaves one. A value holds no control octets but the tab; it reads as
ASCII text only if every octet is visible, a space or a tab.
-/

namespace RequestTelemetry.Http

/-- Whether an octet may stand in a header value. -/
def isValueOctet (b : UInt8) : Bool := (0x20 ≤ b && b != 0x7F) || b == 0x09

/-- Whether octets form a header value. -/
def isHeaderValue (bs : Bytes) : Bool := bs.all isValueOctet

/-- The text of a header value, if it is ASCII throughout. -/
def asciiValue? (bs : Bytes) : Option String :=
  if bs.all fun b ↦ (0x20 ≤ b && b < 0x7F) || b == 0x09 then some (asciiText bs) else none

/-- The header fields of a message. -/
structure Headers where
  fields : List (HeaderName × Bytes) := []
  deriving DecidableEq, Repr, Inhabited

namespace Headers

/-- No fields. -/
def empty : Headers := ⟨[]⟩

/-- Adds a field after the others. -/
def append (h : Headers) (name : HeaderName) (value : Bytes) : Headers :=
  ⟨h.fields ++ [(name, value)]⟩

/-- Sets a field: the values the name had are gone. -/
def insert (h : Headers) (name : HeaderName) (value : Bytes) : Headers :=
  ⟨h.fields.filter (fun f ↦ f.1 ≠ name) ++ [(name, value)]⟩

/-- The first value of a name. -/
def get? (h : Headers) (name : HeaderName) : Option Bytes := h.fields.lookup name

/-- The values of a name, in order. -/
def getAll (h : Headers) (name : HeaderName) : List Bytes :=
  (h.fields.filter fun f ↦ f.1 = name).map Prod.snd

/-- The first value of a name given as text; a text that is no header name finds nothing. -/
def find? (h : Headers) (name : String) : Option Bytes := (HeaderName.ofText? name).bind h.get?

/-- The fields in increasing order of names, those of one name in their order. -/
def sorted (h : Headers) : List (HeaderName × Bytes) :=
  h.fields.mergeSort fun f g ↦ !(g.1.name < f.1.name)

end Headers
end RequestTelemetry.Http
