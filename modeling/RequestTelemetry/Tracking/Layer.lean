import RequestTelemetry.Chain.Stack
import RequestTelemetry.Tracking.Capture
import RequestTelemetry.Tracking.Config

/-!
# The tracking layer

The layer reads what it reports of a request before it hands the request on, measures the time
until the response, logs one line and submits one event for it. The response goes back as it came.
A layer whose configuration is not active does nothing at all.
-/

namespace RequestTelemetry.Tracking

open Http

/-- A tracking layer: its resolved configuration, and the dispatcher if tracking is active. -/
structure TrackingLayer where
  config : Config
  dispatcher : Option Dispatcher

namespace TrackingLayer

/-- The layer that sends events to a collector; the configuration is resolved first. -/
def withCollector (config : Config) (collector : Collector) : TrackingLayer :=
  let config := config.resolve
  ⟨config, if config.isActive then some ⟨collector, config.requestTimeout⟩ else none⟩

/-- The layer that makes its own collector from the configuration, which is resolved first. No
collector is made while tracking is inactive. -/
def connect (make : Config → Except DeliveryError Collector) (config : Config) :
    Except DeliveryError TrackingLayer :=
  let config := config.resolve
  if config.isActive then
    match make config with
    | .error e => .error e
    | .ok collector => .ok ⟨config, some ⟨collector, config.requestTimeout⟩⟩
  else .ok ⟨config, none⟩

/-- Whether requests through the layer are tracked. -/
def isActive (l : TrackingLayer) : Bool := l.dispatcher.isSome

/-- The time from one moment to another. -/
def elapsed (start stop : Moment) : Duration := ⟨stop - start⟩

/-- The line that reports an event. -/
def reportLine (e : Event) (c : Capture) : LogLine :=
  .tracked e.path e.method e.statusCode e.responseTimeMs c.written

/-- Reports a response: logs the line, submits the event and passes the response on. -/
def report (config : Config) (d : Dispatcher) (info : RequestInfo) (time : Duration)
    (response : Response) : Step Response :=
  let (response, capture) := captureResponse response config.maxCaptureBytes.toNat
  let event := info.toEvent capture.status time
  .act (.log (reportLine event capture)) (.act (.submit d event) (.done response))

/-- What the layer does with a request. -/
def call (l : TrackingLayer) (r : Request) : Step Response :=
  match l.dispatcher with
  | none => .next r .done
  | some d =>
    let info := RequestInfo.ofRequest r l.config.clientIdCookie
    .clock fun start ↦ .next r fun response ↦ .clock fun stop ↦
      report l.config d info (elapsed start stop) response

/-- The layer as a part of a chain. -/
def toLayer (l : TrackingLayer) : Layer := ⟨l.call⟩

end TrackingLayer
end RequestTelemetry.Tracking
