import RequestTelemetry.Duration
import RequestTelemetry.Http.Response
import RequestTelemetry.Json.Printer
import RequestTelemetry.Tracking.Identity

/-!
# Events

One event summarises a request and its response. What concerns the request is read before the
request is handed on; the status and the time taken complete the event. A collector gets the event
inside a payload, written as compact JSON with the members in a fixed order.
-/

namespace RequestTelemetry.Tracking

open Http

/-- A summary of a request and its response. -/
@[ext]
structure Event where
  clientId : String
  path : String
  method : String
  statusCode : UInt16
  responseTimeMs : UInt64
  userAgent : String
  ipAddress : String
  deriving DecidableEq, Repr, Inhabited

/-- What an event says about the request. -/
structure RequestInfo where
  path : String
  method : String
  userAgent : String
  ipAddress : String
  clientId : String
  deriving DecidableEq, Repr, Inhabited

namespace RequestInfo

/-- Reads a request; the client id may come from the cookie with the given name. -/
def ofRequest (r : Request) (cookieName : String) : RequestInfo where
  path := r.path
  method := r.method.name
  userAgent := r.userAgent
  ipAddress := clientIp r
  clientId := Tracking.clientId r cookieName

/-- Completes the event. -/
def toEvent (i : RequestInfo) (status : Status) (elapsed : Duration) : Event where
  clientId := i.clientId
  path := i.path
  method := i.method
  statusCode := status.code.toUInt16
  responseTimeMs := elapsed.clampedMillis
  userAgent := i.userAgent
  ipAddress := i.ipAddress

end RequestInfo

namespace Event

/-- The name under which every request is reported. -/
def reportedName : String := "api_request"

/-- The payload a collector gets. -/
def payload (e : Event) : Json :=
  .object [
    ("client_id", .string e.clientId),
    ("events", .array [.object [
      ("name", .string reportedName),
      ("params", .object [
        ("path", .string e.path),
        ("method", .string e.method),
        ("status_code", .ofNat e.statusCode.toNat),
        ("response_time_ms", .ofNat e.responseTimeMs.toNat),
        ("user_agent", .string e.userAgent),
        ("ip_address", .string e.ipAddress)])]])]

/-- The octets of the payload. -/
def toJson (e : Event) : Bytes := e.payload.renderBytes

end Event
end RequestTelemetry.Tracking
