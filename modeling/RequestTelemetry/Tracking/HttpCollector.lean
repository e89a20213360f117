import RequestTelemetry.Network
import RequestTelemetry.Tracking.Config
import RequestTelemetry.Tracking.Delivery

/-!
# Collectors on the web

A collector at an endpoint gets every event as the JSON body of a `POST`, with the tracking id and
the secret as query parameters after those that the endpoint has. It takes an event by answering
200 or 204; any other status rejects it, with the body as the reason.

An endpoint that is no URL, has no host, is not of the schemes `http` and `https`, or cannot stand
in a request is a fault of the request itself; everything else that prevents an answer is a fault
of the transport.
-/

namespace RequestTelemetry.Tracking

open Http

/-- Why a request could not be sent. -/
inductive SendError where
  /-- The endpoint is no URL. -/
  | notAUrl
  /-- No request can be made for the URL. -/
  | badUrl (url : String)
  /-- No answer came from the URL. -/
  | noAnswer (url : String)
  /-- No answer came from the URL in time. -/
  | late (url : String)
  deriving DecidableEq, Repr

namespace SendError

/-- The text of an error. -/
def message : SendError → String
  | notAUrl => "builder error"
  | badUrl url => "builder error for url (" ++ url ++ ")"
  | noAnswer url => "error sending request for url (" ++ url ++ ")"
  | late url => "error sending request for url (" ++ url ++ ")"

/-- Whether time was the reason. -/
def isTimeout : SendError → Bool
  | late _ => true
  | _ => false

end SendError

/-- A collector at an endpoint. -/
structure HttpCollector where
  endpoint : String
  trackingId : String
  apiSecret : String
  timeout : Duration
  deriving DecidableEq, Repr

/-- How sending an event ended. -/
inductive SendResult where
  | taken
  | rejected (status : Status) (body : String)
  | failed (cause : SendError)
  deriving DecidableEq, Repr

namespace HttpCollector

/-- The collector that a resolved configuration names. -/
def ofConfig (c : Config) : HttpCollector :=
  ⟨c.endpointUrl, c.trackingId, c.apiSecret, c.requestTimeout⟩

/-- The query parameters of every request. -/
def parameters (c : HttpCollector) : List (String × String) :=
  [("measurement_id", c.trackingId), ("api_secret", c.apiSecret)]

/-- The URL of every request. -/
def url (c : HttpCollector) : Except SendError Url :=
  match Url.ofText? c.endpoint with
  | none => .error .notAUrl
  | some u =>
    if u.host.isNone then .error (.badUrl u.text)
    else
      let u := u.withoutUser.addPairs c.parameters
      if u.scheme ≠ "http" ∧ u.scheme ≠ "https" then .error (.badUrl u.text)
      else
        match Uri.ofText u.text with
        | .error _ => .error (.badUrl u.text)
        | .ok _ => .ok u

/-- The request that carries an event; its target is that of the URL. A client takes answers of all
media types. -/
def request (e : Event) : Mock.Recorded where
  method := .post
  headers := ⟨[(.contentType, Utf8.encode "application/json"), (.accept, Utf8.encode "*/*")]⟩
  body := e.toJson

/-- How many redirects are followed. -/
def maxRedirects : Nat := 10

/-- What a response means. -/
def judge (r : Response) : SendResult :=
  if r.status = .ok ∨ r.status = .noContent then .taken
  else .rejected r.status (Utf8.lossy r.body)

/-- Sends an event: how that ended, how long it took, and the network after it. An answer that comes
together with the timeout is too late, and without any time nothing is sent. -/
def send (c : HttpCollector) (n : Network) (e : Event) : SendResult × Duration × Network :=
  match c.url with
  | .error cause => (.failed cause, ⟨0⟩, n)
  | .ok u =>
    if c.timeout.nanos = 0 then (.failed (.late u.text), ⟨0⟩, n)
    else
      let (answer, delay, n) := n.follow maxRedirects u (request e)
      if c.timeout.nanos ≤ delay.nanos then (.failed (.late u.text), c.timeout, n)
      else ((answer.map judge).getD (.failed (.noAnswer u.text)), delay, n)

/-- A result as the ending of a delivery. -/
def ending : SendResult → Ending
  | .taken => .delivered
  | .rejected status body => .failed (.rejected status body)
  | .failed cause => .failed (.transport cause.message)

/-- The name of the collector: its URL, or the endpoint if that leads to none. -/
def label (c : HttpCollector) : String :=
  match c.url with
  | .ok u => u.text
  | .error _ => c.endpoint

/-- The collector in a network. Earlier events have gone through the network before. -/
def toCollector (c : HttpCollector) (n : Network) : Collector where
  label := c.label
  attempt earlier e :=
    let n := earlier.foldl (fun n e ↦ (c.send n e).2.2) n
    let (result, delay, _) := c.send n e
    ⟨some delay, ending result⟩

/-- The collector of a resolved configuration, with a client that is built for its timeout: what the
client reaches, or why there can be none. -/
def build (client : Duration → Except String Network) (c : Config) :
    Except DeliveryError Collector :=
  match client c.requestTimeout with
  | .error detail => .error (.client detail)
  | .ok n => .ok ((ofConfig c).toCollector n)

end HttpCollector
end RequestTelemetry.Tracking
