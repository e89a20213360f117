import RequestTelemetry.Http.Headers
import RequestTelemetry.Http.Status

/-!
# Responses and replies

A response is held whole: status, headers and body. A handler may answer with any reply, and the
kind of the reply decides the media type: a text is `text/plain`, octets are
`application/octet-stream`, and a bare status has none. A status beside a reply replaces the
reply's own.
-/

namespace RequestTelemetry.Http

/-- A response. -/
structure Response where
  status : Status := .ok
  headers : Headers := {}
  body : Bytes := []
  deriving DecidableEq, Repr, Inhabited

/-- What a handler answers. -/
inductive Reply where
  /-- Nothing but success. -/
  | unit
  /-- A text. -/
  | text (s : String)
  /-- Octets. -/
  | bytes (body : Bytes)
  /-- A status alone. -/
  | status (s : Status)
  /-- A reply under another status. -/
  | withStatus (s : Status) (inner : Reply)
  /-- A response that is ready. -/
  | ready (r : Response)
  deriving DecidableEq, Repr

namespace Reply

/-- The response that holds a body of a media type. -/
def typed (mediaType : String) (body : Bytes) : Response :=
  { headers := ⟨[(.contentType, Utf8.encode mediaType)]⟩, body }

/-- The response that carries a reply. -/
def toResponse : Reply → Response
  | unit => {}
  | text s => typed "text/plain; charset=utf-8" (Utf8.encode s)
  | bytes body => typed "application/octet-stream" body
  | status s => { status := s }
  | withStatus s inner => { inner.toResponse with status := s }
  | ready r => r

end Reply
end RequestTelemetry.Http
