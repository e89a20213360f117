import RequestTelemetry.Chain.Stock
import RequestTelemetry.Proofs.Visits

/-!
# Stacks are compositions of their layers

Executing the layers of two stacks is executing the first around the second. What a layer makes of
the rest of the chain is its own affair: it may call it any number of times, and each call is one
run of everything below it; a layer that answers by itself runs nothing below.

Two things follow for observers. The layers of a stack stand in an order that its construction
fixes, the prepended ones before the pushed ones. And layers that record what passes them see a
request on its way in from the outside to the inside and the response on its way out in the
opposite order, as far in as the request comes.
-/

namespace RequestTelemetry

open Http

/-! ## Layers that answer by themselves -/

/-- An activity inside a chain that hands nothing on. -/
def Activity.toStep {α : Type} : Activity α → Step α
  | done a => .done a
  | wait d rest => .wait d rest.toStep
  | clock rest => .clock fun t ↦ (rest t).toStep
  | fetch name rest => .fetch name fun value ↦ (rest value).toStep
  | act e rest => .act e rest.toStep

@[simp] theorem Step.run_toStep {α : Type} (rest : Request → Activity Response) (x : Activity α) :
    x.toStep.run rest = x := by
  induction x with
  | done a => rfl
  | wait d x ih => rw [Activity.toStep, Step.run, ih]
  | clock k ih => simp only [Activity.toStep, Step.run, ih]
  | fetch name k ih => simp only [Activity.toStep, Step.run, ih]
  | act e x ih => rw [Activity.toStep, Step.run, ih]

/-- The layer that answers every request by itself, as a handler does. -/
def Layer.answering (g : Handler) : Layer := ⟨fun r ↦ (g r).toStep⟩

@[simp] theorem Layer.wrap_answering (g h : Handler) : (Layer.answering g).wrap h = g :=
  funext fun r ↦ Step.run_toStep h (g r)

/-- What is below a layer that answers by itself does not matter. -/
theorem LayerStack.execute_answering (outer inner : LayerStack) (g h : Handler) :
    (outer.push (.answering g) ++ inner).execute h = outer.execute g := by
  rw [execute_append, execute_push, Layer.wrap_answering]

/-! ## The order of construction -/

/-- A way in which something comes to a stack. -/
inductive Addition (α : Type) where
  /-- It becomes the innermost. -/
  | push (a : α)
  /-- It becomes the outermost. -/
  | prepend (a : α)

namespace Addition

variable {α β : Type}

/-- The addition of something else in the same way. -/
def map (f : α → β) : Addition α → Addition β
  | push a => push (f a)
  | prepend a => prepend (f a)

/-- What was pushed. -/
def pushed? : Addition α → Option α
  | push a => some a
  | prepend _ => none

/-- What was prepended. -/
def prepended? : Addition α → Option α
  | push _ => none
  | prepend a => some a

/-- What a sequence of additions leads to, from the outside in: what was prepended, the latest
first, and then what was pushed, in order. -/
def outsideIn (additions : List (Addition α)) : List α :=
  (additions.filterMap prepended?).reverse ++ additions.filterMap pushed?

theorem outsideIn_map (f : α → β) (additions : List (Addition α)) :
    outsideIn (additions.map (map f)) = (outsideIn additions).map f := by
  have hprepended : prepended? ∘ map f = fun x : Addition α ↦ x.prepended?.map f := by
    funext x
    cases x <;> rfl
  have hpushed : pushed? ∘ map f = fun x : Addition α ↦ x.pushed?.map f := by
    funext x
    cases x <;> rfl
  rw [outsideIn, List.filterMap_map, List.filterMap_map, hprepended, hpushed, outsideIn,
    List.map_append, List.map_reverse, List.map_filterMap, List.map_filterMap]

end Addition

namespace LayerStack

/-- The stack with one more layer. -/
def add (s : LayerStack) : Addition Layer → LayerStack
  | .push l => s.push l
  | .prepend l => s.prepend l

/-- The stack to which layers were added one after another. -/
def build (additions : List (Addition Layer)) : LayerStack := additions.foldl add empty

theorem layers_foldl_add (s : LayerStack) (additions : List (Addition Layer)) :
    (additions.foldl add s).layers =
      (additions.filterMap Addition.prepended?).reverse ++
        (s.layers ++ additions.filterMap Addition.pushed?) := by
  induction additions generalizing s with
  | nil => exact (List.append_nil _).symm
  | cons x additions ih =>
    rw [List.foldl_cons, ih]
    cases x with
    | push l =>
      rw [add, push, List.append_assoc]
      rfl
    | prepend l =>
      have hcons : (Addition.prepend l :: additions).filterMap Addition.prepended?
          = l :: additions.filterMap Addition.prepended? := rfl
      rw [hcons, List.reverse_cons, List.append_assoc]
      rfl

/-- The order of construction. -/
theorem layers_build (additions : List (Addition Layer)) :
    (build additions).layers = Addition.outsideIn additions :=
  layers_foldl_add empty additions

end LayerStack

/-! ## Recorders -/

namespace Timeline

/-- The timeline on which things were seen at its moment. -/
def see (t : Timeline) (seen : List Sighting) : Timeline :=
  { t with sightings := t.sightings ++ seen.map fun s ↦ (t.now, s) }

/-- What was seen, without the moments. -/
def shown (t : Timeline) : List Sighting := t.sightings.map Prod.snd

theorem see_nil (t : Timeline) : t.see [] = t := by
  rw [see, List.map_nil, List.append_nil]

theorem see_see (t : Timeline) (first second : List Sighting) :
    (t.see first).see second = t.see (first ++ second) := by
  rw [see, see, List.append_assoc, ← List.map_append]
  rfl

@[simp] theorem shown_see (t : Timeline) (seen : List Sighting) :
    (t.see seen).shown = t.shown ++ seen := by
  simp [shown, see, Function.comp_def]

@[simp] theorem shown_wait (t : Timeline) (d : Duration) : (t.wait d).shown = t.shown := by
  rw [shown, sightings_wait, shown]

/-- Recorders note a request from the outside in before anything else happens, and the response
from the inside out after everything else. -/
theorem run_recorders (t : Timeline) (labels : List Json) (h : Handler) (r : Request) :
    t.run ((LayerStack.mk (labels.map Layer.observe)).execute h r) =
      let after := (t.see (labels.map (.entering · r))).run (h r)
      (after.1, after.2.see (labels.reverse.map (.leaving · after.1))) := by
  induction labels generalizing t with
  | nil =>
    simp only [List.map_nil, List.reverse_nil, see_nil]
    rfl
  | cons label labels ih =>
    have hwrap : (LayerStack.mk ((label :: labels).map Layer.observe)).execute h r
        = .act (.sight (.entering label r))
          (((LayerStack.mk (labels.map Layer.observe)).execute h r).bind fun response ↦
            .act (.sight (.leaving label response)) (.done response)) := rfl
    have hsee : (t.see [.entering label r]).see (labels.map (.entering · r))
        = t.see ((label :: labels).map (.entering · r)) := see_see _ _ _
    have hperform : t.perform (.sight (.entering label r)) = t.see [.entering label r] := rfl
    rw [hwrap, run_act, run_bind, hperform, ih, hsee]
    simp only [List.reverse_cons, List.map_append, ← see_see]
    rfl

/-- The handler that records the request, waits and then answers. -/
theorem run_after (t : Timeline) (delay : Duration) (answer : Request → Reply) (r : Request) :
    t.run (Handler.after delay answer r)
      = ((answer r).toResponse, (t.see [.handled r]).wait delay) := rfl

end Timeline

/-! ## Composition -/

/-- **Stacks are compositions of their layers.**

* The layers of two stacks around a handler do what those of the first do around a handler that
  executes the second; a stack without layers is the handler.
* Wherever a layer stands, the answers to its calls are those of runs of the whole rest of the
  chain, one for each call and on the request of the call, and the rest runs at no other time; so
  if the layer calls nothing, nothing below it happens. If it answers by itself, the rest does not
  matter.
* Layers stand in the order of construction.
* Recorders note a request in this order and the response in the opposite one, around what the
  handler notes, or around the layer that answered by itself. -/
theorem stack_is_composition (outer inner : LayerStack) (h : Handler) (t : Timeline)
    (r : Request) :
    (t.run ((outer ++ inner).execute h r) = t.run (outer.execute (inner.execute h) r) ∧
        LayerStack.empty.execute h = h) ∧
      (∀ l : Layer,
        let account := (outer.push l ++ inner).account h t.scene r
        let calls := toldAt outer.size Entry.return? account.journal
        account.Tells t ((outer.push l ++ inner).execute h r) ∧
          Visits h (outer.size + 1) inner.layers t account.journal calls ∧
          (∀ (t' : Timeline) (r' : Request),
            (accountFrom h (outer.size + 1) inner.layers t'.scene r').Tells t'
              (inner.execute h r')) ∧
          toldAt (outer.size + 1) Entry.request? account.journal = calls.map Return.request ∧
          (calls = [] → ∀ e ∈ account.journal, e.place ≤ outer.size)) ∧
      (∀ g : Handler, (outer.push (.answering g) ++ inner).execute h = outer.execute g) ∧
      (∀ additions : List (Addition Layer),
        (LayerStack.build additions).layers = Addition.outsideIn additions) ∧
      ∀ (additions : List (Addition Json)) (delay : Duration) (answer : Request → Reply)
        (reply : Reply),
        let recorders := LayerStack.build (additions.map (.map Layer.observe))
        let labels := Addition.outsideIn additions
        (t.run (recorders.execute (Handler.after delay answer) r)).2.shown
            = t.shown ++ labels.map (.entering · r) ++ [.handled r]
              ++ labels.reverse.map (.leaving · (answer r).toResponse) ∧
          (t.run ((recorders.push (.answer reply) ++ inner).execute h r)).2.shown
            = t.shown ++ labels.map (.entering · r)
              ++ labels.reverse.map (.leaving · reply.toResponse) := by
  refine ⟨⟨?_, LayerStack.execute_empty h⟩, ?_,
    fun g ↦ LayerStack.execute_answering outer inner g h, LayerStack.layers_build, ?_⟩
  · rw [LayerStack.execute_append]
  · intro l account calls
    have hlayers : (outer.push l ++ inner).layers = outer.layers ++ l :: inner.layers :=
      List.append_assoc _ _ _
    have hvisits : Visits h (outer.size + 1) inner.layers t account.journal calls := by
      have hcalls := visits_calls h l inner.layers (Nat.zero_add outer.size).symm t r
      rwa [← hlayers] at hcalls
    refine ⟨LayerStack.tells_account _ h t r, hvisits,
      tells_accountFrom h inner.layers (outer.size + 1), hvisits.requests_eq, ?_⟩
    intro hnone e he
    exact Nat.le_of_lt_succ ((hnone ▸ hvisits).place_lt e he)
  · intro additions delay answer reply recorders labels
    have hrecorders : recorders = ⟨labels.map Layer.observe⟩ := by
      rw [← Addition.outsideIn_map, ← LayerStack.layers_build]
    have hanswer : Layer.answer reply = .answering fun _ ↦ .done reply.toResponse := rfl
    constructor
    · rw [hrecorders, Timeline.run_recorders, Timeline.run_after]
      simp only [Timeline.shown_see, Timeline.shown_wait]
    · rw [hanswer, LayerStack.execute_answering, hrecorders, Timeline.run_recorders,
        Timeline.run_done]
      simp only [Timeline.shown_see]

/-- Where the second of three layers answers, it makes no calls, and neither the third layer nor
the handler gets to see the request. -/
theorem answered_request_goes_no_further :
    let stack := (LayerStack.mk [.observe .null]).push (.answer (.status .badRequest)) ++
      ⟨[.observe (.bool true)]⟩
    let account := stack.account (Handler.after ⟨0⟩ Handler.echo) (Timeline.scene {}) {}
    toldAt 1 Entry.return? account.journal = [] ∧ ∀ e ∈ account.journal, e.place ≤ 1 := by
  have hcalls := (stack_is_composition ⟨[.observe .null]⟩ ⟨[.observe (.bool true)]⟩
    (Handler.after ⟨0⟩ Handler.echo) {} {}).2.1 (.answer (.status .badRequest))
  exact ⟨rfl, hcalls.2.2.2.2 rfl⟩

end RequestTelemetry
