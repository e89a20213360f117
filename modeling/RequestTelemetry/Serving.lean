import RequestTelemetry.Chain.Timeline
import RequestTelemetry.Network
import RequestTelemetry.Server
import RequestTelemetry.Tracking.HttpCollector

/-!
# Serving sessions

A server with its chain on a timeline, and the network that its clients and its deliveries use. The
server starts to listen, and says so in the log, when the session first waits for something. A
request that finds no way through the network fails at once and lets nothing else happen.

What the collector got follows from the events handed over: each label is the URL to which an event
was sent.
-/

namespace RequestTelemetry

open Http Tracking

/-- A serving session. -/
structure Serving where
  stack : LayerStack
  handler : Handler
  /-- The address at which the server listens, as the log shows it. -/
  address : String
  peer : Net.SocketAddr
  timeline : Timeline := {}
  listening : Bool := false

namespace Serving

/-- Starts to listen, unless that has happened. -/
def listen (s : Serving) : Serving :=
  if s.listening then s
  else { s with listening := true, timeline := s.timeline.perform (.log (.listening s.address)) }

/-- Sends a request to the server and gives its response, if there is a way through the network. -/
def exchange (s : Serving) (n : Network) (r : Incoming) : Option Response × Serving :=
  match n with
  | .unreachable => (none, s)
  | .serving .. =>
    let s := s.listen
    let (response, timeline) := s.timeline.run (Server.handle s.stack s.handler s.peer r)
    (some response, { s with timeline })

/-- Lets every delivery that is under way end. -/
def land (t : Timeline) : Timeline :=
  let t := t.settle
  t.flights.foldl (fun t f ↦ (t.passUntil (max t.now f.due)).settle) t

/-- Waits for a number of deliveries. Waiting for none lets nothing happen. -/
def awaitDeliveries (s : Serving) (count : Nat) : Serving :=
  if count = 0 then s else { s.listen with timeline := land s.listen.timeline }

/-- The network after an event was sent to a URL. -/
def afterSending (n : Network) (handed : String × Event) : Network :=
  match Url.ofText? handed.1 with
  | none => n
  | some u => (n.follow HttpCollector.maxRedirects u (HttpCollector.request handed.2)).2.2

/-- The requests that the network's server got from the deliveries. -/
def collected (s : Serving) (n : Network) : List Mock.Recorded :=
  (s.timeline.handed.foldl afterSending n).received

end Serving
end RequestTelemetry
