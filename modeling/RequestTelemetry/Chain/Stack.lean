import RequestTelemetry.Chain.Activity

/-!
# Layers and stacks

A layer gets a request and decides whether and how often the rest of the chain sees one. A stack
holds layers, the outermost first. Executing a stack runs its layers around a handler: a layer's
rest of the chain is the stack of the layers below it.
-/

namespace RequestTelemetry

open Http

/-- The innermost part of a chain. -/
abbrev Handler := Request → Activity Response

/-- A layer of a chain. -/
structure Layer where
  call : Request → Step Response

/-- A layer around a handler. -/
def Layer.wrap (l : Layer) (h : Handler) : Handler := fun r ↦ (l.call r).run h

/-- Layers, outermost first. -/
structure LayerStack where
  layers : List Layer := []

namespace LayerStack

/-- The stack without layers. -/
def empty : LayerStack := ⟨[]⟩

/-- Adds an innermost layer. -/
def push (s : LayerStack) (l : Layer) : LayerStack := ⟨s.layers ++ [l]⟩

/-- Adds an outermost layer. -/
def prepend (s : LayerStack) (l : Layer) : LayerStack := ⟨l :: s.layers⟩

/-- The number of layers. -/
def size (s : LayerStack) : Nat := s.layers.length

/-- Whether there are no layers. -/
def isEmpty (s : LayerStack) : Bool := s.layers.isEmpty

@[simp] theorem size_push (s : LayerStack) (l : Layer) : (s.push l).size = s.size + 1 := by
  simp [push, size]

@[simp] theorem size_prepend (s : LayerStack) (l : Layer) : (s.prepend l).size = s.size + 1 := rfl

/-- The layers of one stack around those of another. -/
def append (s t : LayerStack) : LayerStack := ⟨s.layers ++ t.layers⟩

instance : Append LayerStack := ⟨append⟩

/-- Runs the layers around a handler. -/
def execute (s : LayerStack) (h : Handler) : Handler := s.layers.foldr Layer.wrap h

@[simp] theorem execute_empty (h : Handler) : empty.execute h = h := rfl

theorem execute_append (s t : LayerStack) (h : Handler) :
    (s ++ t).execute h = s.execute (t.execute h) :=
  List.foldr_append

theorem execute_push (s : LayerStack) (l : Layer) (h : Handler) :
    (s.push l).execute h = s.execute (l.wrap h) :=
  List.foldr_append

end LayerStack
end RequestTelemetry
