import RequestTelemetry.Http.Request
import RequestTelemetry.Json.Diagnostic
import RequestTelemetry.Json.Parser
import RequestTelemetry.Json.Pointer
import RequestTelemetry.Url.Form

/-!
# Matchers

A request as a mock server records it, and conditions on it: a method, a path, query parameters,
headers, and members of a JSON body. All conditions have to hold; without any, every request
matches. The query is decoded and the body is read only where a condition asks for it.
-/

namespace RequestTelemetry.Mock

open Http

/-- A request as a mock server saw it. -/
structure Recorded where
  method : Method := .get
  uri : Uri := .root
  headers : Headers := {}
  body : Bytes := []
  deriving DecidableEq, Repr

/-- The decoded pairs of a target's query. -/
def queryPairs (u : Uri) : List (String × String) :=
  match u.query with
  | some q => Url.Form.readPairs q.toList
  | none => []

namespace Recorded

/-- The path of the target. -/
def path (r : Recorded) : String := r.uri.path

/-- The first value of a query parameter. -/
def queryParam? (r : Recorded) (name : String) : Option String := (queryPairs r.uri).lookup name

/-- The body as a JSON value, if it is one. -/
def json? (r : Recorded) : Option Json := Json.ofBytes? r.body

end Recorded

/-- Conditions on a request. -/
structure Matcher where
  method : Option Method := none
  path : Option String := none
  query : List (String × String) := []
  headers : List (String × String) := []
  json : List (String × Json) := []

namespace Matcher

/-- The matcher without conditions. -/
def empty : Matcher := {}

/-- Asks for a method. -/
def withMethod (m : Matcher) (method : Method) : Matcher := { m with method := some method }

/-- Asks for a path. -/
def withPath (m : Matcher) (path : String) : Matcher := { m with path := some path }

/-- Asks for a query parameter. -/
def withQuery (m : Matcher) (name value : String) : Matcher :=
  { m with query := m.query ++ [(name, value)] }

/-- Asks for the first value of a header. -/
def withHeader (m : Matcher) (name value : String) : Matcher :=
  { m with headers := m.headers ++ [(name, value)] }

/-- Asks for a value in the body at a pointer. -/
def withJson (m : Matcher) (pointer : String) (value : Json) : Matcher :=
  { m with json := m.json ++ [(pointer, value)] }

/-! ## Matching -/

/-- Whether the method is as asked. -/
def methodHolds (m : Matcher) (r : Recorded) : Bool := m.method.all (· = r.method)

/-- Whether the path is as asked. -/
def pathHolds (m : Matcher) (r : Recorded) : Bool := m.path.all (· = r.path)

/-- Whether every parameter occurs in the query. -/
def queryHolds (m : Matcher) (r : Recorded) : Bool :=
  m.query.isEmpty || (let pairs := queryPairs r.uri; m.query.all pairs.contains)

/-- Whether every header has the value. -/
def headersHold (m : Matcher) (r : Recorded) : Bool :=
  m.headers.all fun h ↦ r.headers.find? h.1 = some (Utf8.encode h.2)

/-- Whether every value stands in the body. -/
def jsonHolds (m : Matcher) (r : Recorded) : Bool :=
  m.json.isEmpty ||
    match r.json? with
    | none => false
    | some body => m.json.all fun field ↦
      match body.pointer? field.1 with
      | some found => found == field.2
      | none => false

/-- Whether a request satisfies all conditions. -/
def accepts (m : Matcher) (r : Recorded) : Bool :=
  m.methodHolds r && m.pathHolds r && m.queryHolds r && m.headersHold r && m.jsonHolds r

/-! ## Diagnostics -/

/-- A list in brackets. -/
def listText (items : List String) : String := "[" ++ String.intercalate ", " items ++ "]"

/-- Two texts in parentheses. -/
def pairText (a b : String) : String := "(" ++ a ++ ", " ++ b ++ ")"

/-- A text that may be missing. -/
def optionText : Option String → String
  | some s => "Some(" ++ s ++ ")"
  | none => "None"

/-- The diagnostic form. -/
def diagnostic (m : Matcher) : String :=
  let texts (pairs : List (String × String)) : String :=
    listText (pairs.map fun p ↦ pairText (Text.quoted p.1) (Text.quoted p.2))
  "RequestMatcher \x7b method: " ++ optionText (m.method.map Method.name) ++
    ", path: " ++ optionText (m.path.map Text.quoted) ++
    ", query: " ++ texts m.query ++ ", headers: " ++ texts m.headers ++
    ", json_fields: " ++
    listText (m.json.map fun p ↦ pairText (Text.quoted p.1) p.2.diagnostic) ++ " \x7d"

end Matcher
end RequestTelemetry.Mock
