import RequestTelemetry.Duration
import RequestTelemetry.Http.Response
import RequestTelemetry.Mock.Matcher

/-!
# The mock server

Stands in for a collector. Expectations pair a matcher with a canned response and say how often
they should be met. Every request that arrives is recorded and counted for the last registered
expectation that accepts it, which answers it; a request that none accepts is unmatched and is
answered with 404. Verification names the first expectation that was not met as often as it asked.
-/

namespace RequestTelemetry.Mock

open Http

/-- A response that is ready to be given, perhaps after a delay. -/
structure Canned where
  status : Status := .noContent
  headers : Headers := {}
  body : Bytes := []
  delay : Option Duration := none
  deriving DecidableEq, Repr

namespace Canned

/-- Sets a header, if name and value are valid. -/
def header (c : Canned) (name value : String) : Canned :=
  match HeaderName.ofText? name with
  | none => c
  | some n =>
    if isHeaderValue (Utf8.encode value) then
      { c with headers := c.headers.insert n (Utf8.encode value) }
    else c

/-- The response that is given. -/
def toResponse (c : Canned) : Response := ⟨c.status, c.headers, c.body⟩

/-- The answer to a request that no expectation accepts. -/
def unmatched : Canned := { status := .notFound, body := Utf8.encode "No expectation matched" }

end Canned

/-- How often an expectation should be met. -/
inductive Times where
  | once
  | exactly (n : Nat)
  | atLeast (n : Nat)
  | atMost (n : Nat)
  | any
  deriving DecidableEq, Repr

namespace Times

/-- Whether a number of calls is as asked. -/
def allows : Times → Nat → Bool
  | once, n => n == 1
  | exactly m, n => n == m
  | atLeast m, n => m ≤ n
  | atMost m, n => n ≤ m
  | any, _ => true

/-- The diagnostic form. -/
def diagnostic : Times → String
  | once => "Once"
  | exactly n => "Exactly(" ++ toString n ++ ")"
  | atLeast n => "AtLeast(" ++ toString n ++ ")"
  | atMost n => "AtMost(" ++ toString n ++ ")"
  | any => "Any"

end Times

/-- A matcher with a response, and how often it should be and was met. -/
structure Expectation where
  matcher : Matcher
  response : Canned := {}
  times : Times := .any
  calls : Nat := 0

namespace Expectation

/-- What is wrong with the number of calls. -/
def fault? (e : Expectation) : Option String :=
  if e.times.allows e.calls then none
  else
    some ("Expectation " ++ e.matcher.diagnostic ++ " expected " ++ e.times.diagnostic ++
      " calls, got " ++ toString e.calls)

end Expectation

/-- A setting of an expectation that is being registered. -/
inductive Modifier where
  | respond (response : Canned)
  | times (n : Nat)
  | once
  | never

/-- Applies a setting; the last of a kind counts. -/
def Expectation.modify (e : Expectation) : Modifier → Expectation
  | .respond response => { e with response }
  | .times n => { e with times := .exactly n }
  | .once => { e with times := .once }
  | .never => { e with times := .exactly 0 }

/-- A mock server: expectations in the order of registration, and requests in the order of
arrival. -/
structure Server where
  expectations : List Expectation := []
  received : List Recorded := []
  unmatched : List Recorded := []

/-- Assigns a request to the last expectation that accepts it: counts it and gives the response. -/
def assign (r : Recorded) : List Expectation → Option (Canned × List Expectation)
  | [] => none
  | e :: rest =>
    match assign r rest with
    | some (response, rest) => some (response, e :: rest)
    | none =>
      if e.matcher.accepts r then some (e.response, { e with calls := e.calls + 1 } :: rest)
      else none

namespace Server

/-- The address at which a server listens: a free port of the machine itself. -/
def address (port : UInt16) : Net.SocketAddr := .v4 ⟨127, 0, 0, 1⟩ port

/-- The URL of a server. -/
def baseUrl (a : Net.SocketAddr) : String := "http://" ++ a.text

/-- The URL of a path on a server. -/
def urlOf (a : Net.SocketAddr) (path : String) : String := baseUrl a ++ path

/-- Registers an expectation. -/
def register (s : Server) (e : Expectation) : Server :=
  { s with expectations := s.expectations ++ [e] }

/-- Registers an expectation for a matcher, with settings. -/
def expect (s : Server) (m : Matcher) (modifiers : List Modifier) : Server :=
  s.register (modifiers.foldl Expectation.modify { matcher := m })

/-- A request arrives: it is recorded, counted and answered. -/
def arrive (s : Server) (r : Recorded) : Canned × Server :=
  match assign r s.expectations with
  | some (response, expectations) =>
    (response, { s with expectations, received := s.received ++ [r] })
  | none =>
    (.unmatched, { s with received := s.received ++ [r], unmatched := s.unmatched ++ [r] })

@[simp] theorem received_arrive (s : Server) (r : Recorded) :
    (s.arrive r).2.received = s.received ++ [r] := by
  unfold arrive
  split <;> rfl

/-- What is wrong with the first expectation that was not met as often as it asked. -/
def fault? (s : Server) : Option String := s.expectations.findSome? Expectation.fault?

end Server
end RequestTelemetry.Mock
