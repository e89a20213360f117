import RequestTelemetry.Chain.Stack
import RequestTelemetry.Http.Response
import RequestTelemetry.Net.Parser

/-!
# The server

Every request that comes over a connection runs through the chain once, with its whole body and the
address of the peer, and leaves one line in the log with its own method and path and the status of
the answer. A request whose body cannot be read is answered without the chain.
-/

namespace RequestTelemetry

open Http Tracking

/-- A request as it comes over a connection: the head, and the body or why it could not be read. -/
structure Incoming where
  method : Method
  uri : Uri
  version : Version := .http11
  headers : Headers := {}
  body : Except String Bytes

namespace Server

/-- The answer to a request whose body cannot be read. -/
def unreadable : Response :=
  (Reply.withStatus .badRequest (.text "Failed to read request body")).toResponse

/-- The whole milliseconds between two moments. -/
def millisBetween (start stop : Moment) : Nat := (Duration.mk (stop - start)).millis

/-- Logs an answer and gives it. -/
def finish (r : Incoming) (start : Moment) (response : Response) : Activity Response :=
  .clock fun stop ↦
    .act (.log (.answered r.method.name r.uri.path response.status (millisBetween start stop)))
      (.done response)

/-- The request that the chain sees. -/
def request (r : Incoming) (body : Bytes) (peer : Net.SocketAddr) : Request where
  method := r.method
  uri := r.uri
  version := r.version
  headers := r.headers
  body := some body
  peer := some peer

/-- Answers a request. -/
def handle (stack : LayerStack) (handler : Handler) (peer : Net.SocketAddr) (r : Incoming) :
    Activity Response :=
  .clock fun start ↦
    match r.body with
    | .ok body => (stack.execute handler (request r body peer)).bind (finish r start)
    | .error cause =>
      .act (.log (.bodyUnreadable r.method.name r.uri.path cause)) (finish r start unreadable)

/-- Why a server does not listen. -/
inductive BindError where
  | malformedAddress
  | addressUnavailable
  deriving DecidableEq, Repr

/-- The text of an error. -/
def BindError.message : BindError → String
  | malformedAddress => Net.SocketAddr.parseError
  | addressUnavailable => "Cannot assign requested address (os error 99)"

/-- The address at which a server listens; it has to be one of the machine's own. -/
def bind (address : String) : Except BindError Net.SocketAddr :=
  match Net.SocketAddr.ofText? address with
  | none => .error .malformedAddress
  | some a => if a.ip.isLocal then .ok a else .error .addressUnavailable

end Server
end RequestTelemetry
