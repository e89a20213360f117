import RequestTelemetry.Json.Basic

/-!
# JSON pointers

A pointer addresses a value inside a document by a list of steps, each after a slash. In a step
`~1` stands for a slash and `~0` for a tilde. A step into an array is a number without sign and
without leading zeros.
-/

namespace RequestTelemetry.Json

namespace Pointer

/-- The pieces between slashes. -/
def split : List Char → List (List Char)
  | [] => [[]]
  | '/' :: rest => [] :: split rest
  | c :: rest =>
    match split rest with
    | piece :: pieces => (c :: piece) :: pieces
    | [] => [[c]]

/-- Puts slashes for `~1`. -/
def restoreSlash : List Char → List Char
  | '~' :: '1' :: rest => '/' :: restoreSlash rest
  | c :: rest => c :: restoreSlash rest
  | [] => []

/-- Puts tildes for `~0`. -/
def restoreTilde : List Char → List Char
  | '~' :: '0' :: rest => '~' :: restoreTilde rest
  | c :: rest => c :: restoreTilde rest
  | [] => []

/-- The step a piece stands for. -/
def step (piece : List Char) : String := String.ofList (restoreTilde (restoreSlash piece))

/-- The position a step means in an array. -/
def index? (s : String) : Option Nat :=
  match s.toList with
  | [] => none
  | ['0'] => some 0
  | '0' :: _ => none
  | cs =>
    if cs.all Char.isDigit then
      let n := cs.foldl (fun n c ↦ n * 10 + (c.toNat - '0'.toNat)) 0
      if n < Nat.pow 2 64 then some n else none
    else none

/-- Follows the steps from a value. -/
def follow : List String → Json → Option Json
  | [], j => some j
  | s :: steps, .object fields => (fields.lookup s).bind (follow steps)
  | s :: steps, .array items => ((index? s).bind fun i ↦ items[i]?).bind (follow steps)
  | _ :: _, _ => none

end Pointer

/-- The value a pointer addresses. The empty pointer addresses the whole; any other starts with a
slash. -/
def pointer? (j : Json) (pointer : String) : Option Json :=
  match pointer.toList with
  | [] => some j
  | '/' :: rest => Pointer.follow ((Pointer.split rest).map Pointer.step) j
  | _ => none

end RequestTelemetry.Json
