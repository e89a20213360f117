import RequestTelemetry.Http.Headers
import RequestTelemetry.Http.Uri
import RequestTelemetry.Net.Address

/-!
# Requests

A request as a handler sees it: its head, the body that was read off the connection, the address of
the peer, and the marks that layers have left on it. The body can be taken once; header values are
read as UTF-8 with replacement characters.
-/

namespace RequestTelemetry.Http

/-- A version of the protocol. -/
inductive Version where
  | http09
  | http10
  | http11
  | http2
  | http3
  deriving DecidableEq, Repr, Inhabited

/-- The text of a version. -/
def Version.text : Version → String
  | http09 => "HTTP/0.9"
  | http10 => "HTTP/1.0"
  | http11 => "HTTP/1.1"
  | http2 => "HTTP/2.0"
  | http3 => "HTTP/3.0"

/-- A request. -/
structure Request where
  method : Method := .get
  uri : Uri := .root
  version : Version := .http11
  headers : Headers := {}
  body : Option Bytes := some []
  peer : Option Net.SocketAddr := none
  marks : List String := []
  deriving DecidableEq, Repr

namespace Request

/-- The path of the target. -/
def path (r : Request) : String := r.uri.path

/-- The query of the target. -/
def query (r : Request) : Option String := r.uri.query

/-- The first value of a header as text. -/
def header? (r : Request) (name : String) : Option String :=
  (r.headers.find? name).map Utf8.lossy

/-- The first `user-agent` value, or nothing. -/
def userAgent (r : Request) : String :=
  ((r.headers.get? .userAgent).map Utf8.lossy).getD ""

/-- Takes the body: the request that is left has none. -/
def takeBody (r : Request) : Option Bytes × Request := (r.body, { r with body := none })

/-- The diagnostic form: method, target, version and peer. -/
def diagnostic (r : Request) : String :=
  let peer := match r.peer with
    | some a => "Some(" ++ a.text ++ ")"
    | none => "None"
  "Request \x7b method: " ++ r.method.name ++ ", uri: " ++ r.uri.text ++ ", version: " ++
    r.version.text ++ ", remote_addr: " ++ peer ++ " \x7d"

end Request
end RequestTelemetry.Http
