import RequestTelemetry.Chain.Activity

/-!
# Timelines

The state in which activities run: the time, what is kept, what has been seen and logged, the events
handed to collectors, and the deliveries that run in the background. One activity runs at a time;
background deliveries go on only while it waits or has ended.

At such a moment the deliveries that are due end, in the order of their times and then of their
starts; then the submitted events are handed over in order, and attempts that take no time end at
once. During a wait the deliveries due before its end do so; one that is due together with it comes
after the activity's next actions.
-/

namespace RequestTelemetry

open Http Tracking

/-- An event that waits to be handed to its collector. -/
structure Submission where
  id : Nat
  dispatcher : Dispatcher
  event : Event

/-- A delivery that is under way. -/
structure Flight where
  id : Nat
  event : Event
  due : Moment
  ending : Ending

/-- A delivery that has ended: the number of its submission, and when and how it ended. -/
structure Landing where
  id : Nat
  moment : Moment
  ending : Ending
  deriving DecidableEq, Repr

/-- The state in which activities run. -/
structure Timeline where
  now : Moment := 0
  /-- Whether deliveries can run in the background. -/
  background : Bool := true
  /-- What layers and handlers keep. -/
  memory : Memory := fun _ ↦ .null
  /-- What was seen, and when. -/
  sightings : List (Moment × Sighting) := []
  /-- The events handed over, with the labels of the collectors. -/
  handed : List (String × Event) := []
  logs : List LogLine := []
  /-- How many events were submitted. -/
  submitted : Nat := 0
  waiting : List Submission := []
  /-- The deliveries under way, in the order in which they end. -/
  flights : List Flight := []
  /-- The deliveries that have ended, in the order in which they did. -/
  landings : List Landing := []

/-- The log line of an ending; an attempt that broke off has none. -/
def Tracking.Ending.lines (e : Event) : Ending → List LogLine
  | .delivered => [.delivered e.path e.clientId]
  | .failed cause => [.undelivered cause]
  | .panicked _ => []

/-- Adds a flight behind those that end before it or with it. -/
def insertFlight (f : Flight) : List Flight → List Flight
  | [] => [f]
  | g :: rest => if f.due < g.due then f :: g :: rest else g :: insertFlight f rest

namespace Timeline

/-- Ends a delivery at its moment. -/
def land (t : Timeline) (f : Flight) : Timeline :=
  { t with
    landings := t.landings ++ [⟨f.id, f.due, f.ending⟩]
    logs := t.logs ++ f.ending.lines f.event }

/-- Ends the deliveries whose time satisfies a condition. -/
def landWhere (t : Timeline) (due : Moment → Bool) : Timeline :=
  (t.flights.filter fun f ↦ due f.due).foldl land
    { t with flights := t.flights.filter fun f ↦ !due f.due }

/-- The events that a collector was handed. -/
def handedTo (t : Timeline) (label : String) : List Event :=
  (t.handed.filter fun h ↦ h.1 = label).map Prod.snd

/-- Hands a submitted event to its collector. -/
def depart (t : Timeline) (s : Submission) : Timeline :=
  let collector := s.dispatcher.collector
  let attempt := collector.attempt (t.handedTo collector.label) s.event
  let (due, ending) := attempt.settle s.dispatcher.timeout t.now
  let flight : Flight := ⟨s.id, s.event, due, ending⟩
  let t := { t with handed := t.handed ++ [(collector.label, s.event)] }
  if due ≤ t.now then t.land flight else { t with flights := insertFlight flight t.flights }

/-- Lets the background run as far as it can without time passing. -/
def settle (t : Timeline) : Timeline :=
  let t := t.landWhere (· ≤ t.now)
  t.waiting.foldl depart { t with waiting := [] }

/-- Lets time pass up to a moment. -/
def passUntil (t : Timeline) (moment : Moment) : Timeline :=
  { t.settle.landWhere (· < moment) with now := moment }

/-- Waits; a wait that is over at once lets nothing else run. -/
def wait (t : Timeline) (d : Duration) : Timeline :=
  if wakeUp t.now d ≤ t.now then t else t.passUntil (wakeUp t.now d)

/-- Submits an event. Where no delivery can run it is dropped. -/
def submit (t : Timeline) (d : Dispatcher) (e : Event) : Timeline :=
  if t.background then
    { t with submitted := t.submitted + 1, waiting := t.waiting ++ [⟨t.submitted, d, e⟩] }
  else { t with logs := t.logs ++ [.dropped e.path] }

/-- Carries out an effect. -/
def perform (t : Timeline) : Effect → Timeline
  | .sight s => { t with sightings := t.sightings ++ [(t.now, s)] }
  | .keep name value => { t with memory := t.memory.keep name value }
  | .log line => { t with logs := t.logs ++ [line] }
  | .submit d e => t.submit d e

/-- Runs an activity to its result. -/
def run {α : Type} (t : Timeline) : Activity α → α × Timeline
  | .done a => (a, t)
  | .wait d rest => (t.wait d).run rest
  | .clock rest => t.run (rest t.now)
  | .fetch name rest => t.run (rest (t.memory name))
  | .act e rest => (t.perform e).run rest

@[simp] theorem run_done {α : Type} (t : Timeline) (a : α) : t.run (.done a) = (a, t) := rfl

@[simp] theorem run_wait {α : Type} (t : Timeline) (d : Duration) (rest : Activity α) :
    t.run (.wait d rest) = (t.wait d).run rest := rfl

@[simp] theorem run_clock {α : Type} (t : Timeline) (rest : Moment → Activity α) :
    t.run (.clock rest) = t.run (rest t.now) := rfl

@[simp] theorem run_fetch {α : Type} (t : Timeline) (name : String) (rest : Json → Activity α) :
    t.run (.fetch name rest) = t.run (rest (t.memory name)) := rfl

@[simp] theorem run_act {α : Type} (t : Timeline) (e : Effect) (rest : Activity α) :
    t.run (.act e rest) = (t.perform e).run rest := rfl

/-- An activity that goes on with another runs the other where it ended itself. -/
theorem run_bind {α β : Type} (t : Timeline) (a : Activity α) (f : α → Activity β) :
    t.run (a.bind f) = (t.run a).2.run (f (t.run a).1) := by
  induction a generalizing t with
  | done a => rfl
  | wait d rest ih => simp [ih]
  | clock rest ih => simp [ih]
  | fetch name rest ih => simp [ih]
  | act e rest ih => simp [ih]

end Timeline
end RequestTelemetry
