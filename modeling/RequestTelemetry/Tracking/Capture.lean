import RequestTelemetry.Http.Response

/-!
# Captures

A capture records the last status that was set and the octets that were written, of which it keeps
only the first up to a limit; the number of octets counts all of them.
-/

namespace RequestTelemetry.Tracking

open Http

/-- What was recorded of a response. -/
structure Capture where
  /-- How many octets are kept. -/
  limit : Nat
  /-- The last status set. -/
  status : Status := .ok
  /-- The octets kept. -/
  body : Bytes := []
  /-- How many octets were written. -/
  written : Nat := 0
  deriving DecidableEq, Repr

namespace Capture

/-- A capture of which nothing is recorded yet. -/
def empty (limit : Nat) : Capture := { limit }

/-- Records a status. -/
def setStatus (c : Capture) (status : Status) : Capture := { c with status }

/-- Records octets, and keeps as many of them as there is room for. -/
def write (c : Capture) (chunk : Bytes) : Capture :=
  { c with
    body := c.body ++ chunk.take (c.limit - c.body.length)
    written := c.written + chunk.length }

@[simp] theorem limit_write (c : Capture) (chunk : Bytes) : (c.write chunk).limit = c.limit := rfl

@[simp] theorem written_write (c : Capture) (chunk : Bytes) :
    (c.write chunk).written = c.written + chunk.length := rfl

/-- What is recorded of a response that is being written. -/
inductive Record where
  | status (status : Status)
  | chunk (octets : Bytes)
  deriving DecidableEq, Repr

/-- Records a status or octets. The answer to octets is how many there are, kept or not. -/
def record (c : Capture) : Record → Capture × Option Nat
  | .status status => (c.setStatus status, none)
  | .chunk octets => (c.write octets, some octets.length)

/-- Records one after another, with the answers. -/
def recordAll (c : Capture) : List Record → Capture × List (Option Nat)
  | [] => (c, [])
  | x :: rest =>
    let (c, answer) := c.record x
    let (c, answers) := c.recordAll rest
    (c, answer :: answers)

/-- Whether some octets were not kept. -/
def isTruncated (c : Capture) : Bool := c.body.length < c.written

/-- Records a response that is ready. -/
def ofResponse (r : Response) (limit : Nat) : Capture :=
  ((empty limit).setStatus r.status).write r.body

@[simp] theorem status_ofResponse (r : Response) (limit : Nat) :
    (ofResponse r limit).status = r.status := rfl

@[simp] theorem written_ofResponse (r : Response) (limit : Nat) :
    (ofResponse r limit).written = r.body.length := by
  rw [ofResponse, written_write]
  exact Nat.zero_add _

end Capture

/-- A response as it passes a capture: the same response, and what was recorded of it. -/
def captureResponse (r : Response) (limit : Nat) : Response × Capture :=
  (⟨r.status, r.headers, r.body⟩, .ofResponse r limit)

end RequestTelemetry.Tracking
