import RequestTelemetry.Tracking.Event

/-!
# Deliveries

A collector takes events. Handing one over starts an attempt, which ends with a result after some
time, or never. A dispatcher gives every attempt the same time: an attempt that ends by then is the
delivery's ending, and otherwise the delivery ends as timed out at that moment.

Timers fire on whole milliseconds, the first at or after the moment they are set to; so a timer that
is set to no time at all waits for the next one, unless it starts on one. An attempt that takes no
time needs no timer and ends at once, and one that ends on the same millisecond as the timeout
counts. A timer whose moment the clock cannot name is set to thirty years instead.
-/

namespace RequestTelemetry.Tracking

open Http

/-- Why an event was not delivered. -/
inductive DeliveryError where
  /-- The event could not be encoded. -/
  | serialization (detail : String)
  /-- The collector could not be reached. -/
  | transport (detail : String)
  /-- The delivery did not end in time. -/
  | timeout (limit : Duration)
  /-- The collector answered with a status other than 200 and 204. -/
  | rejected (status : Status) (body : String)
  /-- The client for the collector could not be built. -/
  | client (detail : String)
  deriving DecidableEq, Repr

/-- The text of an error. -/
def DeliveryError.message : DeliveryError → String
  | serialization detail => "failed to encode analytics event: " ++ detail
  | transport detail => "failed to send analytics event: " ++ detail
  | timeout limit => "analytics event not delivered within " ++ limit.diagnostic
  | rejected status _ => "collector rejected analytics event with status " ++ status.text
  | client detail => "failed to build collector client: " ++ detail

/-- How a delivery ended. -/
inductive Ending where
  /-- The collector took the event. -/
  | delivered
  /-- The event was dropped. -/
  | failed (cause : DeliveryError)
  /-- The attempt broke off without a result. -/
  | panicked (text : String)
  deriving DecidableEq, Repr

/-- What a collector makes of an event: an ending after a delay, or none ever. -/
structure Attempt where
  delay : Option Duration
  ending : Ending
  deriving DecidableEq, Repr

/-- A receiver of events. What it makes of an event may depend on those it got before. -/
structure Collector where
  /-- The name under which handed events are recorded. -/
  label : String
  attempt : List Event → Event → Attempt

/-- A collector with the time it has for each event. -/
structure Dispatcher where
  collector : Collector
  timeout : Duration

/-- Moments, in nanoseconds since the start. -/
abbrev Moment := Nat

/-- The last moment that the clock can name: its seconds are numbers of 63 bits. -/
def lastMoment : Moment := Nat.pow 2 63 * 1000000000 - 1

/-- What a duration counts as whose end the clock cannot name, thirty years. -/
def farFuture : Duration := ⟨30 * 365 * 86400 * 1000000000⟩

/-- The moment to which a timer is set that starts at a moment. -/
def timerDeadline (start : Moment) (d : Duration) : Moment :=
  if start + d.nanos ≤ lastMoment then start + d.nanos else start + farFuture.nanos

/-- The moment at which such a timer fires. -/
def wakeUp (start : Moment) (d : Duration) : Moment := timerTick (timerDeadline start d)

theorem le_wakeUp (start : Moment) (d : Duration) : start ≤ wakeUp start d := by
  refine Nat.le_trans ?_ (le_timerTick _)
  rw [timerDeadline]
  split
  · exact Nat.le_add_right _ _
  · exact Nat.le_add_right _ _

/-- The moment at which an attempt ends that starts at a moment and takes so much time. -/
def doneAt (start : Moment) (d : Duration) : Moment :=
  if d.nanos = 0 then start else timerTick (start + d.nanos)

/-- When and how an attempt that starts at a moment ends, given so much time. -/
def Attempt.settle (a : Attempt) (limit : Duration) (start : Moment) : Moment × Ending :=
  let late := wakeUp start limit
  match a.delay with
  | none => (late, .failed (.timeout limit))
  | some d =>
    let finished := doneAt start d
    if finished ≤ late then (finished, a.ending) else (late, .failed (.timeout limit))

end RequestTelemetry.Tracking
