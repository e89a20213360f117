import RequestTelemetry.Environment.Dotenv
import RequestTelemetry.Tracking.Delivery

/-!
# The log

What the library reports about its own work. A line is a value; its level, message and fields are
functions of it.
-/

namespace RequestTelemetry

open Http Tracking

/-- Levels of log lines. -/
inductive Level where
  | debug
  | info
  | warn
  | error
  deriving DecidableEq, Repr

/-- The name of a level. -/
def Level.text : Level → String
  | debug => "DEBUG"
  | info => "INFO"
  | warn => "WARN"
  | error => "ERROR"

/-- A line of the log. -/
inductive LogLine where
  /-- A registered interceptor is built. -/
  | building (interceptor : String)
  /-- A request was tracked and its event submitted. -/
  | tracked (path method : String) (status : UInt16) (durationMs : UInt64) (responseBytes : Nat)
  /-- An event was delivered. -/
  | delivered (path clientId : String)
  /-- An event was not delivered. -/
  | undelivered (cause : DeliveryError)
  /-- An event was dropped because no delivery can run here. -/
  | dropped (path : String)
  /-- A `.env` file was loaded. -/
  | dotenvLoaded
  /-- A `.env` file was not loaded to its end. -/
  | dotenvFailed (cause : Dotenv.Error)
  /-- The server listens at an address. -/
  | listening (address : String)
  /-- A request was answered. -/
  | answered (method path : String) (status : Status) (durationMs : Nat)
  /-- The body of a request could not be read. -/
  | bodyUnreadable (method path cause : String)
  deriving DecidableEq, Repr

namespace LogLine

/-- The level of a line. An answer counts as an error if the server is at fault. -/
def level : LogLine → Level
  | building _ => .debug
  | tracked .. => .info
  | delivered .. => .debug
  | undelivered _ => .error
  | dropped _ => .warn
  | dotenvLoaded => .debug
  | dotenvFailed _ => .warn
  | listening _ => .info
  | answered _ _ status _ => if status.isServerError then .error else .info
  | bodyUnreadable .. => .warn

/-- The message of a line. -/
def message : LogLine → String
  | building _ => "Building interceptor"
  | tracked .. => "Analytics tracking sent"
  | delivered .. => "Analytics event delivered"
  | undelivered (.rejected ..) => "Analytics request failed"
  | undelivered (.serialization _) => "Failed to marshal analytics data"
  | undelivered _ => "Failed to send analytics data"
  | dropped _ => "No tokio runtime; analytics event dropped"
  | dotenvLoaded => "Loaded .env file"
  | dotenvFailed _ => "Failed to load .env file"
  | listening _ => "reqtrack server listening"
  | answered _ _ status _ => if status.isServerError then "Request failed" else "Request completed"
  | bodyUnreadable .. => "Failed to read request body"

/-- The fields of a line. -/
def fields : LogLine → List (String × Json)
  | building interceptor => [("interceptor", .string interceptor)]
  | tracked path method status durationMs responseBytes =>
    [("path", .string path), ("method", .string method), ("status", .ofNat status.toNat),
      ("duration_ms", .ofNat durationMs.toNat), ("response_bytes", .ofNat responseBytes)]
  | delivered path clientId => [("path", .string path), ("client_id", .string clientId)]
  | undelivered (.rejected status body) =>
    [("status", .ofNat status.code), ("response", .string body)]
  | undelivered cause => [("error", .string cause.message)]
  | dropped path => [("path", .string path)]
  | dotenvLoaded => []
  | dotenvFailed cause => [("error", .string cause.message)]
  | listening address => [("addr", .string address)]
  | answered method path status durationMs =>
    [("method", .string method), ("path", .string path),
      ("status", .string (toString status.code)), ("duration_ms", .string (toString durationMs))]
  | bodyUnreadable method path cause =>
    [("method", .string method), ("path", .string path), ("error", .string cause)]

/-- A line as it is written: level, message and fields. -/
def entry (l : LogLine) : Level × String × List (String × Json) :=
  (l.level, l.message, l.fields)

end LogLine

/-- The lines that the loading of a `.env` file leaves: none if there is no file. -/
def loadDotenv (env : Environment) : Option Bytes → Environment × List LogLine
  | none => (env, [])
  | some content =>
    match Dotenv.load env content with
    | (env, none) => (env, [.dotenvLoaded])
    | (env, some cause) => (env, [.dotenvFailed cause])

end RequestTelemetry
