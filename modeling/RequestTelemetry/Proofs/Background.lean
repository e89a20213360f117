import Mathlib.Algebra.Order.Group.Multiset
import Mathlib.Data.Multiset.Filter
import Mathlib.Data.Multiset.Range
import Mathlib.Tactic.Abel
import RequestTelemetry.Proofs.Journal

/-!
# What the background does

Two accounts of a timeline that the background keeps, whatever the collectors do.

The *ledger* lists the events that were offered to collectors, those already handed over before
those that still wait, and the log lines that report tracked requests. Letting deliveries run moves
events from the second part of the list to the first and logs lines of other kinds only, so the
ledger changes by effects alone, one entry for one effect.

The *numbers* are those of all submissions that ended, are under way or wait. Every submission has
its number, and the background moves numbers but neither loses nor repeats one. So no event is
attempted again, however its delivery ended.
-/

namespace RequestTelemetry

open Http Tracking

/-- Whether a line reports a tracked request. -/
def LogLine.isTracked : LogLine → Bool
  | .tracked .. => true
  | _ => false

/-- Such a line is told by its message. -/
theorem LogLine.isTracked_eq (l : LogLine) :
    l.isTracked = decide (l.message = "Analytics tracking sent") := by
  cases l with
  | undelivered cause => cases cause <;> rfl
  | answered method path status durationMs =>
    show false = _
    cases h : status.isServerError <;> simp [message, h]
  | _ => rfl

namespace Timeline

/-- An event with the collector for which it waits. -/
def addressed (s : Submission) : String × Event := (s.dispatcher.collector.label, s.event)

/-- The events offered to collectors, and the lines about tracked requests. -/
structure Ledger where
  offered : List (String × Event)
  tracked : List LogLine

/-- The ledger of a timeline. -/
def ledger (t : Timeline) : Ledger :=
  ⟨t.handed ++ t.waiting.map addressed, t.logs.filter LogLine.isTracked⟩

/-! ## Lines of other kinds

Deliveries log lines about their endings only. The lines of any other kind are left as they are. -/

section Lines

variable {p : LogLine → Bool}

theorem filter_logs_foldl {β : Type} {step : Timeline → β → Timeline}
    (h : ∀ t b, (step t b).logs.filter p = t.logs.filter p) (t : Timeline) (bs : List β) :
    (bs.foldl step t).logs.filter p = t.logs.filter p := by
  induction bs generalizing t with
  | nil => rfl
  | cons b bs ih => rw [List.foldl_cons, ih, h]

variable (hp : ∀ (e : Event) (ending : Ending), (ending.lines e).filter p = [])
include hp

theorem filter_logs_land (t : Timeline) (f : Flight) :
    (t.land f).logs.filter p = t.logs.filter p := by
  rw [land, List.filter_append, hp, List.append_nil]

theorem filter_logs_landWhere (t : Timeline) (due : Moment → Bool) :
    (t.landWhere due).logs.filter p = t.logs.filter p :=
  filter_logs_foldl (filter_logs_land hp) _ _

theorem filter_logs_depart (t : Timeline) (s : Submission) :
    (t.depart s).logs.filter p = t.logs.filter p := by
  obtain ⟨f, -, -, h | h⟩ := t.depart_cases s
  · rw [h]
    exact filter_logs_land hp _ f
  · rw [h]
    rfl

theorem filter_logs_settle (t : Timeline) : t.settle.logs.filter p = t.logs.filter p := by
  rw [settle, filter_logs_foldl (filter_logs_depart hp)]
  exact filter_logs_landWhere hp t _

theorem filter_logs_wait (t : Timeline) (d : Duration) :
    (t.wait d).logs.filter p = t.logs.filter p := by
  rw [wait]
  split
  · rfl
  · exact (filter_logs_landWhere hp t.settle _).trans (filter_logs_settle hp t)

end Lines

/-! ## The ledger -/

/-- The lines about the ending of a delivery report no request. -/
theorem filter_isTracked_lines (e : Event) (ending : Ending) :
    (ending.lines e).filter LogLine.isTracked = [] := by
  cases ending <;> rfl

theorem handed_foldl_land (t : Timeline) (fs : List Flight) :
    (fs.foldl land t).handed = t.handed ∧ (fs.foldl land t).waiting = t.waiting := by
  induction fs generalizing t with
  | nil => exact ⟨rfl, rfl⟩
  | cons f fs ih => exact ih (t.land f)

@[simp] theorem ledger_landWhere (t : Timeline) (due : Moment → Bool) :
    (t.landWhere due).ledger = t.ledger := by
  have hlines := filter_logs_landWhere filter_isTracked_lines t due
  rw [landWhere] at hlines ⊢
  rw [ledger, ledger, hlines, (handed_foldl_land _ _).1, (handed_foldl_land _ _).2]

/-- Departures hand over what waited, in order, and leave alone what waits. -/
theorem foldl_depart (t : Timeline) (ss : List Submission) :
    (ss.foldl depart t).handed = t.handed ++ ss.map addressed ∧
      (ss.foldl depart t).waiting = t.waiting := by
  induction ss generalizing t with
  | nil => exact ⟨(List.append_nil _).symm, rfl⟩
  | cons s ss ih =>
    obtain ⟨hhanded, hwaiting⟩ := ih (t.depart s)
    have hdepart : (t.depart s).handed = t.handed ++ [addressed s] ∧
        (t.depart s).waiting = t.waiting := by
      obtain ⟨f, -, -, h | h⟩ := t.depart_cases s
      · rw [h]
        exact ⟨rfl, rfl⟩
      · rw [h]
        exact ⟨rfl, rfl⟩
    rw [List.foldl_cons, hhanded, hwaiting, hdepart.1, hdepart.2, List.append_assoc]
    exact ⟨rfl, rfl⟩

/-- Once the background has settled no event waits. -/
@[simp] theorem waiting_settle (t : Timeline) : t.settle.waiting = [] := by
  rw [settle]
  exact (foldl_depart _ _).2

theorem ledger_settle (t : Timeline) : t.settle.ledger = t.ledger := by
  have hland := ledger_landWhere t (· ≤ t.now)
  have hlines := filter_logs_settle filter_isTracked_lines t
  obtain ⟨hhanded, hwaiting⟩ :=
    foldl_depart { t.landWhere (· ≤ t.now) with waiting := [] } (t.landWhere (· ≤ t.now)).waiting
  rw [ledger, hlines, settle, hhanded, hwaiting, List.map_nil, List.append_nil]
  exact congrArg (Ledger.mk · _) (congrArg Ledger.offered hland)

/-- Once the background has settled every offered event was handed over. -/
theorem handed_settle (t : Timeline) : t.settle.handed = t.ledger.offered := by
  rw [← ledger_settle, ledger, waiting_settle, List.map_nil, List.append_nil]

@[simp] theorem ledger_wait (t : Timeline) (d : Duration) : (t.wait d).ledger = t.ledger := by
  rw [wait]
  split
  · rfl
  · exact (ledger_landWhere t.settle _).trans (ledger_settle t)

end Timeline

/-! ## Effects in the ledger -/

/-- The event that an effect offers to a collector. -/
def Effect.offer? : Effect → Option (String × Event)
  | .submit d e => some (d.collector.label, e)
  | _ => none

/-- The line that an effect logs about a tracked request. -/
def Effect.line? : Effect → Option LogLine
  | .log line => if line.isTracked then some line else none
  | _ => none

/-- The line of a kind that an effect logs. -/
def Effect.logged? (p : LogLine → Bool) : Effect → Option LogLine
  | .log line => if p line then some line else none
  | _ => none

namespace Timeline

/-- Where deliveries can run, an effect adds to the ledger what it offers and logs. -/
theorem ledger_perform {t : Timeline} (ht : t.background = true) (x : Effect) :
    (t.perform x).ledger =
      ⟨t.ledger.offered ++ x.offer?.toList, t.ledger.tracked ++ x.line?.toList⟩ := by
  cases x with
  | sight s => simp [perform, ledger, Effect.offer?, Effect.line?]
  | keep name value => simp [perform, ledger, Effect.offer?, Effect.line?]
  | log line =>
    have hline : [line].filter LogLine.isTracked = (Effect.log line).line?.toList := by
      rw [Effect.line?]
      cases h : line.isTracked <;> simp [h]
    simp only [perform, ledger, List.filter_append, hline]
    simp [Effect.offer?]
  | submit d e => simp [perform, submit, ht, ledger, addressed, Effect.offer?, Effect.line?]

/-- Replaying a journal adds to the ledger what its effects offer and log. -/
theorem ledger_replay {t : Timeline} (ht : t.background = true) (journal : List Entry) :
    (t.replay journal).ledger =
      ⟨t.ledger.offered ++ (journal.filterMap Entry.effect?).filterMap Effect.offer?,
        t.ledger.tracked ++ (journal.filterMap Entry.effect?).filterMap Effect.line?⟩ := by
  induction journal generalizing t with
  | nil => simp
  | cons e journal ih =>
    -- the rest of the journal runs where deliveries can run too
    have hbg : (t.follow e).background = true := (background_follow t e).trans ht
    rw [replay_cons, ih hbg]
    obtain ⟨place, moment, note⟩ := e
    cases note with
    | received r => rfl
    | paused d =>
      rw [follow, ledger_wait]
      rfl
    | did x =>
      simp only [follow, ledger_perform ht, List.append_assoc, List.filterMap_cons, Entry.effect?]
      cases x.offer? <;> cases x.line? <;> rfl
    | answered r sent response => rfl

/-- Where deliveries can run, replaying a journal adds to the lines of a kind that no delivery logs
what its effects log of the kind. -/
theorem filter_logs_replay {p : LogLine → Bool}
    (hp : ∀ (e : Event) (ending : Ending), (ending.lines e).filter p = []) {t : Timeline}
    (ht : t.background = true) (journal : List Entry) :
    (t.replay journal).logs.filter p
      = t.logs.filter p ++ (journal.filterMap Entry.effect?).filterMap (Effect.logged? p) := by
  induction journal generalizing t with
  | nil => simp
  | cons e journal ih =>
    have hbg : (t.follow e).background = true := (background_follow t e).trans ht
    rw [replay_cons, ih hbg]
    obtain ⟨place, moment, note⟩ := e
    cases note with
    | received r => rfl
    | paused d =>
      rw [follow, filter_logs_wait hp]
      rfl
    | did x =>
      have hperform : (t.perform x).logs.filter p
          = t.logs.filter p ++ (x.logged? p).toList := by
        cases x with
        | log line => by_cases h : p line <;> simp [perform, Effect.logged?, h]
        | submit d e => simp [perform, submit, ht, Effect.logged?]
        | sight s => simp [perform, Effect.logged?]
        | keep name value => simp [perform, Effect.logged?]
      simp only [follow, hperform, List.append_assoc, List.filterMap_cons, Entry.effect?]
      cases x.logged? p <;> rfl
    | answered r sent response => rfl

/-! ## Numbers -/

/-- The numbers of the submissions that ended, are under way or wait. -/
def numbers (t : Timeline) : Multiset Nat :=
  ↑(t.landings.map Landing.id) + ↑(t.flights.map Flight.id) + ↑(t.waiting.map Submission.id)

/-- Every submission has ended, is under way or waits, and does so once; one event was offered for
each. -/
structure Numbered (t : Timeline) : Prop where
  numbers_eq : t.numbers = Multiset.range t.submitted
  length_offered : t.ledger.offered.length = t.submitted

theorem numbers_land (t : Timeline) (f : Flight) : (t.land f).numbers = f.id ::ₘ t.numbers := by
  rw [numbers, land, List.map_append, ← Multiset.coe_add, numbers, ← Multiset.cons_add,
    ← Multiset.cons_add, add_comm (t.landings.map Landing.id : Multiset Nat)]
  rfl

/-- Steps that add one number each add the numbers of all. -/
theorem numbers_foldl {β : Type} {step : Timeline → β → Timeline} {id : β → Nat}
    (h : ∀ t b, (step t b).numbers = id b ::ₘ t.numbers) (t : Timeline) (bs : List β) :
    (bs.foldl step t).numbers = ↑(bs.map id) + t.numbers := by
  induction bs generalizing t with
  | nil => rw [List.foldl_nil, List.map_nil, Multiset.coe_nil, zero_add]
  | cons b bs ih =>
    rw [List.foldl_cons, ih, h, List.map_cons, ← Multiset.cons_coe, Multiset.add_cons,
      Multiset.cons_add]

/-- A filter and its complement split the numbers of the flights. -/
theorem numbers_filter_add (fs : List Flight) (p : Flight → Bool) :
    (↑((fs.filter p).map Flight.id) + ↑((fs.filter fun f ↦ !p f).map Flight.id) : Multiset Nat)
      = ↑(fs.map Flight.id) := by
  rw [Multiset.coe_add, Multiset.coe_eq_coe, ← List.map_append]
  exact (List.filter_append_perm p fs).map _

theorem numbers_landWhere (t : Timeline) (due : Moment → Bool) :
    (t.landWhere due).numbers = t.numbers := by
  rw [landWhere, numbers_foldl numbers_land, numbers, numbers,
    ← numbers_filter_add t.flights fun f ↦ due f.due]
  abel

theorem insertFlight_perm (f : Flight) (fs : List Flight) : (insertFlight f fs).Perm (f :: fs) := by
  induction fs with
  | nil => exact List.Perm.refl _
  | cons g fs ih =>
    rw [insertFlight]
    split
    · exact List.Perm.refl _
    · exact (ih.cons g).trans (List.Perm.swap f g fs)

theorem numbers_depart (t : Timeline) (s : Submission) :
    (t.depart s).numbers = s.id ::ₘ t.numbers := by
  obtain ⟨f, hid, -, h | h⟩ := t.depart_cases s
  · rw [h, numbers_land, hid]
    rfl
  -- flights are kept in the order in which they end, so the new one may stand anywhere
  · have hperm : (((insertFlight f t.flights).map Flight.id : List Nat) : Multiset Nat)
        = s.id ::ₘ ↑(t.flights.map Flight.id) := by
      rw [← hid, Multiset.cons_coe, Multiset.coe_eq_coe]
      exact (insertFlight_perm f t.flights).map _
    rw [h, numbers, hperm, Multiset.add_cons, Multiset.cons_add]
    rfl

theorem numbers_settle (t : Timeline) : t.settle.numbers = t.numbers := by
  rw [settle, numbers_foldl numbers_depart, ← numbers_landWhere t (· ≤ t.now)]
  -- the numbers of what waited come back as those of what departed
  generalize t.landWhere (· ≤ t.now) = t'
  rw [numbers, numbers, List.map_nil, Multiset.coe_nil, add_zero, add_comm]

@[simp] theorem numbers_wait (t : Timeline) (d : Duration) : (t.wait d).numbers = t.numbers := by
  rw [wait]
  split
  · rfl
  · exact (numbers_landWhere t.settle _).trans (numbers_settle t)

theorem submitted_settle (t : Timeline) : t.settle.submitted = t.submitted :=
  congrArg Foreground.submitted (foreground_settle t)

theorem submitted_wait (t : Timeline) (d : Duration) : (t.wait d).submitted = t.submitted :=
  congrArg Foreground.submitted (foreground_wait t d)

theorem Numbered.settle {t : Timeline} (h : t.Numbered) : t.settle.Numbered where
  numbers_eq := by rw [numbers_settle, submitted_settle, h.numbers_eq]
  length_offered := by rw [ledger_settle, submitted_settle, h.length_offered]

theorem Numbered.wait {t : Timeline} (h : t.Numbered) (d : Duration) : (t.wait d).Numbered where
  numbers_eq := by rw [numbers_wait, submitted_wait, h.numbers_eq]
  length_offered := by rw [ledger_wait, submitted_wait, h.length_offered]

/-- A submission takes the next number. -/
theorem Numbered.submit {t : Timeline} (h : t.Numbered) (d : Dispatcher) (e : Event) :
    (t.submit d e).Numbered := by
  rw [Timeline.submit]
  split
  · constructor
    · rw [Multiset.range_succ, ← h.numbers_eq, numbers, numbers, List.map_append,
        ← Multiset.coe_add, ← add_assoc, add_comm]
      rfl
    · have hlength := h.length_offered
      simp only [ledger, List.length_append, List.length_map, List.length_singleton] at hlength ⊢
      omega
  · exact ⟨h.numbers_eq, h.length_offered⟩

theorem Numbered.perform {t : Timeline} (h : t.Numbered) (x : Effect) : (t.perform x).Numbered := by
  cases x with
  | sight s => exact ⟨h.numbers_eq, h.length_offered⟩
  | keep name value => exact ⟨h.numbers_eq, h.length_offered⟩
  | log line => exact ⟨h.numbers_eq, h.length_offered⟩
  | submit d e => exact h.submit d e

theorem Numbered.replay {t : Timeline} (h : t.Numbered) (journal : List Entry) :
    (t.replay journal).Numbered := by
  induction journal generalizing t with
  | nil => exact h
  | cons e journal ih =>
    refine ih ?_
    rw [follow]
    split
    · exact h.wait _
    · exact h.perform _
    · exact h

end Timeline
end RequestTelemetry
