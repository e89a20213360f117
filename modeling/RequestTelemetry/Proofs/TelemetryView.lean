import RequestTelemetry.Proofs.Deliveries

/-!
# What is left of a timeline for telemetry

Of all that a timeline holds, collectors and the analytics log see a part only: the events that were
submitted and handed over, the deliveries, and the lines about them. `Timeline.telemetry` keeps that
part and forgets what layers keep, what observers saw and what others log. The background runs on it
as it runs on the whole, because forgetting this is a change that it does not notice
(`Timeline.Unnoticed`).

How long a chain waits at a time makes no difference to telemetry either. As long as nothing is
submitted in between, letting time pass up to a moment and then up to a later one lands the same
deliveries in the same order as letting it pass up to the later one at once, because the deliveries
under way stand in the order in which they end.
-/

namespace RequestTelemetry

open Http Tracking

/-! ## The order of deliveries under way -/

namespace Timeline

variable {t : Timeline}

/-- The deliveries under way stand in the order in which they end. -/
def Ordered (t : Timeline) : Prop := t.flights.Pairwise fun f g ↦ f.due ≤ g.due

theorem ordered_insertFlight {fs : List Flight} (h : fs.Pairwise fun f g ↦ f.due ≤ g.due)
    (f : Flight) : (insertFlight f fs).Pairwise fun f g ↦ f.due ≤ g.due := by
  induction fs with
  | nil => exact List.pairwise_singleton _ _
  | cons g fs ih =>
    obtain ⟨hg, hfs⟩ := List.pairwise_cons.mp h
    rw [insertFlight]
    split
    · next hlt =>
      refine List.pairwise_cons.mpr ⟨fun f' hf' ↦ ?_, h⟩
      rcases List.mem_cons.mp hf' with rfl | hf'
      · exact hlt.le
      · exact hlt.le.trans (hg f' hf')
    · next hle =>
      refine List.pairwise_cons.mpr ⟨fun f' hf' ↦ ?_, ih hfs⟩
      rcases List.mem_cons.mp ((insertFlight_perm f fs).mem_iff.mp hf') with rfl | hf'
      · exact Nat.le_of_not_lt hle
      · exact hg f' hf'

theorem Ordered.landWhere (h : t.Ordered) (due : Moment → Bool) : (t.landWhere due).Ordered := by
  rw [landWhere_eq]
  exact h.filter _

theorem Ordered.depart (h : t.Ordered) (s : Submission) : (t.depart s).Ordered := by
  rw [depart_eq]
  split
  · exact h
  · exact ordered_insertFlight h _

theorem Ordered.settle (h : t.Ordered) : t.settle.Ordered := by
  have hdeparted (ss : List Submission) {t : Timeline} (h : t.Ordered) :
      (ss.foldl Timeline.depart t).Ordered := by
    induction ss generalizing t with
    | nil => exact h
    | cons s ss ih => exact ih (h.depart s)
  exact hdeparted _ (h.landWhere _)

theorem Ordered.passUntil (h : t.Ordered) (moment : Moment) : (t.passUntil moment).Ordered :=
  h.settle.landWhere _

theorem Ordered.perform (h : t.Ordered) (e : Effect) : (t.perform e).Ordered := by
  cases e with
  | sight s => exact h
  | keep name value => exact h
  | log line => exact h
  | submit d e =>
    rw [Timeline.perform, submit]
    split
    · exact h
    · exact h

/-! ## Time passes at once -/

/-- Lets time pass up to a moment, if the moment is yet to come. -/
def reach (t : Timeline) (moment : Moment) : Timeline :=
  if t.now < moment then t.passUntil moment else t

theorem Ordered.reach (h : t.Ordered) (moment : Moment) : (t.reach moment).Ordered := by
  rw [Timeline.reach]
  split
  · exact h.passUntil moment
  · exact h

theorem reach_of_le {moment : Moment} (h : moment ≤ t.now) : t.reach moment = t :=
  if_neg (Nat.not_lt_of_le h)

/-- A wait lets time pass up to its end. -/
theorem wait_eq_reach (t : Timeline) (d : Duration) : t.wait d = t.reach (wakeUp t.now d) := by
  rw [wait]
  split
  · next hover => rw [reach_of_le hover]
  · next hlater => rw [reach, if_pos (Nat.lt_of_not_le hlater)]

end Timeline

/-! ## What the background does not notice -/

namespace Timeline

/-- A change of timelines that makes no difference to the background: it leaves alone what
deliveries depend on, and the lines of a delivery come behind what it makes of the log. -/
structure Unnoticed (change : Timeline → Timeline) : Prop where
  land : ∀ t f, (change t).land f = change (t.land f)
  flights_eq : ∀ t, (change t).flights = t.flights
  waiting_eq : ∀ t, (change t).waiting = t.waiting
  handed_eq : ∀ t, (change t).handed = t.handed
  now_eq : ∀ t, (change t).now = t.now
  set_flights : ∀ t flights, { change t with flights } = change { t with flights }
  set_waiting : ∀ t waiting, { change t with waiting } = change { t with waiting }
  set_handed : ∀ t handed, { change t with handed } = change { t with handed }
  set_now : ∀ t now, { change t with now } = change { t with now }

namespace Unnoticed

variable {change : Timeline → Timeline}

theorem landWhere (h : Unnoticed change) (t : Timeline) (due : Moment → Bool) :
    (change t).landWhere due = change (t.landWhere due) := by
  rw [Timeline.landWhere, h.flights_eq, h.set_flights, List.foldl_hom change h.land]
  rfl

theorem depart (h : Unnoticed change) (t : Timeline) (s : Submission) :
    (change t).depart s = change (t.depart s) := by
  have hflight : (change t).flightOf s = t.flightOf s := by
    rw [flightOf, handedTo, h.handed_eq, h.now_eq]
    rfl
  have hover : (change t).handOver s = change (t.handOver s) := by
    rw [handOver, h.handed_eq, h.set_handed]
    rfl
  rw [depart_eq, depart_eq, apply_ite change, hflight, hover, h.land, h.flights_eq, h.now_eq,
    h.set_flights]

theorem settle (h : Unnoticed change) (t : Timeline) : (change t).settle = change t.settle := by
  rw [Timeline.settle, h.now_eq, h.landWhere, h.waiting_eq, h.set_waiting,
    List.foldl_hom change h.depart]
  rfl

theorem reach (h : Unnoticed change) (t : Timeline) (moment : Moment) :
    (change t).reach moment = change (t.reach moment) := by
  rw [Timeline.reach, Timeline.reach, apply_ite change, h.now_eq, passUntil, h.settle, h.landWhere,
    h.set_now]
  rfl

theorem wait (h : Unnoticed change) (t : Timeline) (d : Duration) :
    (change t).wait d = change (t.wait d) := by
  rw [wait_eq_reach, wait_eq_reach, h.now_eq, h.reach]

end Unnoticed
end Timeline

/-! ## The view of telemetry -/

/-- Whether a line is about telemetry: about a tracked request, or about what became of an event. -/
def LogLine.isTelemetry : LogLine → Bool
  | .tracked .. => true
  | .delivered .. => true
  | .undelivered _ => true
  | .dropped _ => true
  | _ => false

/-- Whether an effect is about telemetry: a line about it, or an event that is submitted. -/
def Effect.isTelemetry : Effect → Bool
  | .log line => line.isTelemetry
  | .submit .. => true
  | _ => false

theorem filter_isTelemetry_lines (e : Event) (ending : Ending) :
    (ending.lines e).filter LogLine.isTelemetry = ending.lines e := by
  cases ending <;> rfl

namespace Timeline

/-- What is left of a timeline for telemetry. -/
def telemetry (t : Timeline) : Timeline :=
  { t with memory := fun _ ↦ .null, sightings := [], logs := t.logs.filter LogLine.isTelemetry }

theorem unnoticed_telemetry : Unnoticed telemetry where
  land := fun t f ↦ by simp only [land, telemetry, List.filter_append, filter_isTelemetry_lines]
  flights_eq := fun _ ↦ rfl
  waiting_eq := fun _ ↦ rfl
  handed_eq := fun _ ↦ rfl
  now_eq := fun _ ↦ rfl
  set_flights := fun _ _ ↦ rfl
  set_waiting := fun _ _ ↦ rfl
  set_handed := fun _ _ ↦ rfl
  set_now := fun _ _ ↦ rfl

/-- Effects about telemetry are carried out in its view, and others leave it alone. -/
theorem telemetry_perform (t : Timeline) (e : Effect) :
    (t.perform e).telemetry = if e.isTelemetry then t.telemetry.perform e else t.telemetry := by
  cases e with
  | sight s => rfl
  | keep name value => rfl
  | log line => cases h : line.isTelemetry <;> simp [perform, telemetry, Effect.isTelemetry, h]
  | submit d e =>
    rw [perform, submit, Effect.isTelemetry, if_pos rfl, perform, submit, apply_ite telemetry]
    refine ite_congr rfl (fun _ ↦ rfl) fun _ ↦ ?_
    simp [telemetry, LogLine.isTelemetry]

end Timeline
end RequestTelemetry
