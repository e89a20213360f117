import RequestTelemetry.Http.Request
import RequestTelemetry.Log

/-!
# Activities

What a handler does until it answers, as a value: it may wait, read the clock, fetch what was kept,
leave an effect, and finally end with a result. A layer is the same with one more possibility, to
hand a request to the rest of the chain and go on with the response. `Step.run` puts the rest of the
chain in place.
-/

namespace RequestTelemetry

open Http Tracking

/-- What an observer of a chain saw. -/
inductive Sighting where
  /-- A request came to a labelled layer. -/
  | entering (label : Json) (request : Request)
  /-- A response passed a labelled layer on its way back. -/
  | leaving (label : Json) (response : Response)
  /-- A layer took the body. -/
  | tookBody (body : Option Bytes)
  /-- A request came to the handler. -/
  | handled (request : Request)

/-- What layers and the handler keep from one call to the next, under names. -/
abbrev Memory := String → Json

/-- The memory in which a name has a new value. -/
def Memory.keep (m : Memory) (name : String) (value : Json) : Memory :=
  fun other ↦ if other = name then value else m other

/-- What an activity leaves behind beside its result. -/
inductive Effect where
  | sight (s : Sighting)
  | keep (name : String) (value : Json)
  | log (line : LogLine)
  /-- An event is handed to a dispatcher, which delivers it in the background. -/
  | submit (d : Dispatcher) (e : Event)

/-- An activity that ends with a result. -/
inductive Activity (α : Type) where
  | done (a : α)
  | wait (d : Duration) (rest : Activity α)
  | clock (rest : Moment → Activity α)
  | fetch (name : String) (rest : Json → Activity α)
  | act (e : Effect) (rest : Activity α)

namespace Activity

/-- Goes on with another activity after the result. -/
def bind {α β : Type} : Activity α → (α → Activity β) → Activity β
  | done a, f => f a
  | wait d rest, f => wait d (rest.bind f)
  | clock rest, f => clock fun t ↦ (rest t).bind f
  | fetch name rest, f => fetch name fun value ↦ (rest value).bind f
  | act e rest, f => act e (rest.bind f)

/-- Applies a function to the result. -/
def map {α β : Type} (f : α → β) (t : Activity α) : Activity β := t.bind fun a ↦ done (f a)

@[simp] theorem bind_done {α β : Type} (a : α) (f : α → Activity β) : (done a).bind f = f a := rfl

@[simp] theorem bind_wait {α β : Type} (d : Duration) (t : Activity α) (f : α → Activity β) :
    (wait d t).bind f = wait d (t.bind f) := rfl

@[simp] theorem bind_clock {α β : Type} (k : Moment → Activity α) (f : α → Activity β) :
    (clock k).bind f = clock fun t ↦ (k t).bind f := rfl

@[simp] theorem bind_fetch {α β : Type} (name : String) (k : Json → Activity α)
    (f : α → Activity β) : (fetch name k).bind f = fetch name fun value ↦ (k value).bind f := rfl

@[simp] theorem bind_act {α β : Type} (e : Effect) (t : Activity α) (f : α → Activity β) :
    (act e t).bind f = act e (t.bind f) := rfl

end Activity

/-- An activity inside a chain, which may hand requests to the rest of the chain. -/
inductive Step (α : Type) where
  | done (a : α)
  | wait (d : Duration) (rest : Step α)
  | clock (rest : Moment → Step α)
  | fetch (name : String) (rest : Json → Step α)
  | act (e : Effect) (rest : Step α)
  | next (r : Request) (rest : Response → Step α)

namespace Step

/-- The activity in which `rest` is the rest of the chain. -/
def run {α : Type} (rest : Request → Activity Response) : Step α → Activity α
  | done a => .done a
  | wait d s => .wait d (s.run rest)
  | clock k => .clock fun t ↦ (k t).run rest
  | fetch name k => .fetch name fun value ↦ (k value).run rest
  | act e s => .act e (s.run rest)
  | next r k => (rest r).bind fun response ↦ (k response).run rest

end Step
end RequestTelemetry
