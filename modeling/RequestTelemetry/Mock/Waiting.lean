import RequestTelemetry.Mock.Server
import RequestTelemetry.Tracking.Delivery

/-!
# Waiting for arrivals

A waiter wants a number of requests to have arrived, up to a deadline. It listens for arrivals
first, looks at the list then, and sleeps only if the list is too short; an arrival is put on the
list first and announced then. So an arrival that the look misses is announced to a waiter that
listens already. A waiter that nothing woke up to its deadline takes the list as it is after that.
Any number of waiters come, and waiters and arrivals take their steps in any order.
-/

namespace RequestTelemetry.Mock

open Tracking

/-- Where a waiter stands. -/
inductive Phase where
  /-- About to listen. -/
  | starting
  /-- Listening, before its look at the list; perhaps there was an announcement already. -/
  | listening (announced : Bool)
  /-- Listening still, after a look that found the list too short. -/
  | drowsy (announced : Bool)
  /-- Asleep until an announcement or the deadline. -/
  | sleeping (announced : Bool)
  /-- Past its deadline, before it takes the list. -/
  | overdue
  /-- Back with what had arrived. -/
  | returned (requests : List Recorded) (moment : Moment)
  deriving DecidableEq, Repr

namespace Phase

/-- Hears an announcement, if there is an ear for it. -/
def hear : Phase → Phase
  | listening _ => listening true
  | drowsy _ => drowsy true
  | sleeping _ => sleeping true
  | phase => phase

end Phase

/-- A waiter. -/
structure Waiter where
  count : Nat
  deadline : Moment
  phase : Phase := .starting
  deriving DecidableEq, Repr

/-- The arrivals on the list, the waiters and the time. -/
structure Waiting where
  received : List Recorded := []
  /-- The positions of the arrivals that are not announced yet. -/
  unannounced : List Nat := []
  waiters : List Waiter := []
  now : Moment := 0
  deriving DecidableEq, Repr

/-- A step of a waiter. -/
inductive Move where
  /-- Starts to listen. -/
  | listen
  /-- Looks at the list, and returns if it is long enough. -/
  | look
  /-- Goes to sleep, the list being too short. -/
  | sleep
  /-- Starts over, having been woken. -/
  | wake
  /-- Gives up, the deadline being past and nothing having woken it. -/
  | expire
  /-- Returns with the list after giving up. -/
  | collect
  deriving DecidableEq, Repr

/-- A step of a waiter, of an arrival or of the clock. -/
inductive WaitingStep where
  /-- A waiter comes and gets its deadline. -/
  | join (count : Nat) (timeout : Duration)
  /-- The waiter at a position takes a step. -/
  | move (waiter : Nat) (m : Move)
  /-- A request is put on the list. -/
  | put (r : Recorded)
  /-- The arrival at a position is announced to all who listen. -/
  | announce (position : Nat)
  /-- Time passes. -/
  | pass (moment : Moment)
  deriving DecidableEq, Repr

namespace Waiting

/-- The phase that a step of a waiter leads to, if it can take that step. -/
def next? (s : Waiting) (w : Waiter) (m : Move) : Option Phase :=
  match m, w.phase with
  | .listen, .starting => some (.listening false)
  | .look, .listening announced =>
    if w.count ≤ s.received.length then some (.returned s.received s.now)
    else some (.drowsy announced)
  | .sleep, .drowsy announced => some (.sleeping announced)
  | .wake, .sleeping true => some .starting
  | .expire, .sleeping false => if w.deadline ≤ s.now then some .overdue else none
  | .collect, .overdue => some (.returned s.received s.now)
  | _, _ => none

/-- Changes the phase of a waiter. -/
def setPhase (s : Waiting) (i : Nat) (phase : Phase) : Waiting :=
  { s with waiters := s.waiters.modify i fun w ↦ { w with phase } }

@[simp] theorem received_setPhase (s : Waiting) (i : Nat) (phase : Phase) :
    (s.setPhase i phase).received = s.received := rfl

@[simp] theorem unannounced_setPhase (s : Waiting) (i : Nat) (phase : Phase) :
    (s.setPhase i phase).unannounced = s.unannounced := rfl

@[simp] theorem now_setPhase (s : Waiting) (i : Nat) (phase : Phase) :
    (s.setPhase i phase).now = s.now := rfl

theorem getElem?_setPhase (s : Waiting) (i j : Nat) (phase : Phase) :
    (s.setPhase i phase).waiters[j]? =
      if i = j then s.waiters[j]?.map fun w ↦ { w with phase } else s.waiters[j]? := by
  rw [setPhase, List.getElem?_modify]
  split <;> simp

/-- A waiter comes and gets its deadline. -/
def join (s : Waiting) (count : Nat) (timeout : Duration) : Waiting :=
  { s with waiters := s.waiters ++ [⟨count, s.now + timeout.nanos, .starting⟩] }

/-- A request is put on the list, to be announced later. -/
def put (s : Waiting) (r : Recorded) : Waiting :=
  { s with
    received := s.received ++ [r]
    unannounced := s.unannounced ++ [s.received.length] }

/-- The arrival at a position is announced. -/
def announce (s : Waiting) (position : Nat) : Waiting :=
  { s with
    unannounced := s.unannounced.erase position
    waiters := s.waiters.map fun w ↦ { w with phase := w.phase.hear } }

/-- Takes a step, if it is possible. -/
def step? (s : Waiting) : WaitingStep → Option Waiting
  | .join count timeout => some (s.join count timeout)
  | .move i m =>
    match s.waiters[i]? with
    | none => none
    | some w => (s.next? w m).map (s.setPhase i)
  | .put r => some (s.put r)
  | .announce position => if position ∈ s.unannounced then some (s.announce position) else none
  | .pass moment => if s.now ≤ moment then some { s with now := moment } else none

theorem step?_move_eq_some_iff {s t : Waiting} {i : Nat} {m : Move} :
    s.step? (.move i m) = some t ↔
      ∃ w phase, s.waiters[i]? = some w ∧ s.next? w m = some phase ∧ s.setPhase i phase = t := by
  rw [step?]
  cases s.waiters[i]? <;> simp

theorem step?_announce_eq_some_iff {s t : Waiting} {position : Nat} :
    s.step? (.announce position) = some t ↔
      position ∈ s.unannounced ∧ s.announce position = t := by
  simp [step?]

theorem step?_pass_eq_some_iff {s t : Waiting} {moment : Moment} :
    s.step? (.pass moment) = some t ↔ s.now ≤ moment ∧ { s with now := moment } = t := by
  simp [step?]

/-- Takes steps one after another, leaving out those that are not possible. -/
def run (s : Waiting) (steps : List WaitingStep) : Waiting :=
  steps.foldl (fun s step ↦ (s.step? step).getD s) s

@[simp] theorem run_nil (s : Waiting) : s.run [] = s := rfl

theorem run_cons (s : Waiting) (step : WaitingStep) (steps : List WaitingStep) :
    s.run (step :: steps) = ((s.step? step).getD s).run steps := rfl

/-- What the first waiter returned with. -/
def result (s : Waiting) : List Recorded :=
  match s.waiters with
  | ⟨_, _, .returned requests _⟩ :: _ => requests
  | _ => s.received

end Waiting

namespace Server

/-- The steps with which a lone waiter listens, looks at the list and goes to sleep if it is too
short. -/
def attempt : List WaitingStep := [.move 0 .listen, .move 0 .look, .move 0 .sleep]

/-- The steps of a lone waiter while requests arrive, the first of them at a position. -/
def waitSteps (count : Nat) (timeout : Duration) (position : Nat) (arrivals : List Recorded) :
    List WaitingStep :=
  .join count timeout :: attempt ++
    (arrivals.zipIdx position).flatMap (fun (r, i) ↦
      .put r :: .announce i :: .move 0 .wake :: attempt) ++
    [.pass timeout.nanos, .move 0 .expire, .move 0 .collect]

/-- What a lone waiter for `count` requests returns with, if the given requests arrive before its
deadline. -/
def waitFor (s : Server) (count : Nat) (timeout : Duration) (arrivals : List Recorded) :
    List Recorded :=
  let start : Waiting := { received := s.received }
  (start.run (waitSteps count timeout s.received.length arrivals)).result

end Server
end RequestTelemetry.Mock
