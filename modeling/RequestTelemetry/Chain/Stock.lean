import RequestTelemetry.Chain.Stack
import RequestTelemetry.Http.Response

/-!
# Ready-made layers and handlers

Small layers to put together chains from: observers, layers that answer, wait, mark or repeat
requests, and handlers that answer with a fixed reply, with the body, or with a description of the
request.
-/

namespace RequestTelemetry

open Http

namespace Layer

/-- Records requests on their way in and responses on their way out. -/
def observe (label : Json) : Layer where
  call r := .act (.sight (.entering label r)) <| .next r fun response ↦
    .act (.sight (.leaving label response)) (.done response)

/-- Answers every request by itself. -/
def answer (reply : Reply) : Layer where
  call _ := .done reply.toResponse

/-- Adds a header to every response. -/
def addHeader (name : HeaderName) (value : Bytes) : Layer where
  call r := .next r fun response ↦
    .done { response with headers := response.headers.append name value }

/-- Waits before a request is handed on and after it is answered. -/
def delay (before after : Duration) : Layer where
  call r := .wait before <| .next r fun response ↦ .wait after (.done response)

/-- Takes the body, so that the rest of the chain sees none. -/
def takeBody : Layer where
  call r :=
    let (body, rest) := r.takeBody
    .act (.sight (.tookBody body)) (.next rest .done)

/-- Leaves a mark on every request. -/
def mark (value : String) : Layer where
  call r := .next { r with marks := r.marks ++ [value] } .done

/-- A copy of a request as a client would send it again, with an empty body for one that was
taken, and without marks. -/
def resend (r : Request) : Request :=
  { method := r.method, uri := r.uri, headers := r.headers, body := some (r.body.getD []),
    peer := r.peer }

/-- Sends every request twice and answers with the second response. -/
def twice : Layer where
  call r := .next (resend r) fun _ ↦ .next (resend r) .done

end Layer

namespace Handler

/-- Records the request, waits and then answers. -/
def after (delay : Duration) (answer : Request → Reply) : Handler := fun r ↦
  .act (.sight (.handled r)) (.wait delay (.done (answer r).toResponse))

/-- The body of the request. -/
def echo (r : Request) : Reply := .bytes (r.body.getD [])

/-- What the request looks like: method, path, query, user agent, address of the peer, body and
marks, with bars between them. -/
def describe (r : Request) : Reply :=
  .text (String.intercalate "|"
    [r.method.name, r.path, r.query.getD "<none>", r.userAgent,
      (r.peer.map fun a ↦ a.ip.text).getD "", (r.body.map Utf8.lossy).getD "<none>",
      String.intercalate "," r.marks])

end Handler
end RequestTelemetry
