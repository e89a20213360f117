import RequestTelemetry.Chain.Stack
import RequestTelemetry.Http.Response

/-!
# A client for tests

Sends requests through a chain without a connection. A request is put together leniently: headers
that are not valid are left out, and a target that cannot be read stands for `/`. A response can be
asked for its headers and its text, and held to a status.
-/

namespace RequestTelemetry

open Http

/-- A request as a test writes it. -/
structure TestRequest where
  method : Method := .get
  target : String
  headers : Headers := {}
  body : Option Bytes := none
  peer : Option Net.SocketAddr := none

namespace TestRequest

/-- Adds a header, if name and value are valid. -/
def header (r : TestRequest) (name value : String) : TestRequest :=
  match HeaderName.ofText? name with
  | none => r
  | some n =>
    if isHeaderValue (Utf8.encode value) then
      { r with headers := r.headers.append n (Utf8.encode value) }
    else r

/-- The request that a chain sees. -/
def toRequest (r : TestRequest) : Request where
  method := r.method
  uri := (Uri.ofText r.target).toOption.getD .root
  headers := r.headers
  body := some (r.body.getD [])
  peer := r.peer

/-- Sends the request through a chain. -/
def send (r : TestRequest) (stack : LayerStack) (handler : Handler) : Activity Response :=
  stack.execute handler r.toRequest

end TestRequest

namespace Http.Response

/-- The first value of a header, if it is ASCII text. -/
def header? (r : Response) (name : String) : Option String :=
  (r.headers.find? name).bind asciiValue?

/-- The body as text. -/
def text (r : Response) : String := Utf8.lossy r.body

/-- What is wrong if the status is not the expected one. -/
def statusFault? (r : Response) (expected : Status) : Option String :=
  if r.status = expected then none
  else
    some ("assertion \x60left == right\x60 failed: Expected status " ++ expected.text ++ ", got " ++
      r.status.text ++ ". Body: " ++ r.text ++ "\n  left: " ++ toString r.status.code ++
      "\n right: " ++ toString expected.code)

end Http.Response
end RequestTelemetry
