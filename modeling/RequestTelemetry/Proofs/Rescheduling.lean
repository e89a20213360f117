import RequestTelemetry.Proofs.Scripts

/-!
# Sessions at other moments

Two sessions can tell telemetry to do the same at different moments, because what is around a
tracking layer waits for different times. Timers fire on whole milliseconds, so orders fare alike at
moments that are whole milliseconds apart: their deliveries end alike and after the same time.

In the log of a session the lines about endings stand among those that were logged by the chain. The
background does not look at the log, so the telemetry of a session is that of a timeline that serves
the orders in the script and logs nothing besides, but for the lines in the script. What is known of
deliveries on such a timeline is thus known of those in a session.
-/

namespace RequestTelemetry

open Http Tracking

/-! ## What a script asks for -/

/-- The order that a deed gives at a moment. -/
def Deed.order? (now : Moment) : Deed → Option Order
  | .effect (.submit d e) => some ⟨now, d, e⟩
  | _ => none

/-- The line that a deed logs. -/
def Deed.line? : Deed → Option LogLine
  | .effect (.log line) => some line
  | _ => none

namespace Timeline

variable {u v : Timeline} {lines : List LogLine} {orders : List Order}

/-- The timeline with lines at the head of its log. -/
def headed (head : List LogLine) (t : Timeline) : Timeline := { t with logs := head ++ t.logs }

theorem unnoticed_headed (head : List LogLine) : Unnoticed (headed head) where
  land := fun t f ↦ by simp only [land, headed, List.append_assoc]
  flights_eq := fun _ ↦ rfl
  waiting_eq := fun _ ↦ rfl
  handed_eq := fun _ ↦ rfl
  now_eq := fun _ ↦ rfl
  set_flights := fun _ _ ↦ rfl
  set_waiting := fun _ _ ↦ rfl
  set_handed := fun _ _ ↦ rfl
  set_now := fun _ _ ↦ rfl

theorem submit_headed (head : List LogLine) (t : Timeline) (d : Dispatcher) (e : Event) :
    (headed head t).submit d e = headed head (t.submit d e) := by
  rw [submit, submit, apply_ite (headed head)]
  refine ite_congr rfl (fun _ ↦ rfl) fun _ ↦ ?_
  simp only [headed, List.append_assoc]

/-- A timeline is another one, but for lines that were logged besides. -/
def LogsBesides (u v : Timeline) (lines : List LogLine) : Prop :=
  ∃ w head head', u = headed head w ∧ v = headed head' w ∧ head.Perm (lines ++ head')

namespace LogsBesides

theorem refl (u : Timeline) : u.LogsBesides u [] := ⟨u, [], [], rfl, rfl, .refl []⟩

theorem eq_but_logs (h : u.LogsBesides v lines) : u = { v with logs := u.logs } := by
  obtain ⟨w, head, head', rfl, rfl, -⟩ := h
  rfl

theorem logs_perm (h : u.LogsBesides v lines) : u.logs.Perm (lines ++ v.logs) := by
  obtain ⟨w, head, head', rfl, rfl, hperm⟩ := h
  rw [headed, headed, ← List.append_assoc]
  exact hperm.append_right w.logs

/-- A step that leaves the head of the log alone makes no difference. -/
theorem step (h : u.LogsBesides v lines) {f : Timeline → Timeline}
    (hf : ∀ head t, f (headed head t) = headed head (f t)) : (f u).LogsBesides (f v) lines := by
  obtain ⟨w, head, head', rfl, rfl, hperm⟩ := h
  exact ⟨f w, head, head', hf head w, hf head' w, hperm⟩

theorem log (h : u.LogsBesides v lines) (line : LogLine) :
    (u.perform (.log line)).LogsBesides v (lines ++ [line]) := by
  obtain ⟨w, head, head', rfl, rfl, hperm⟩ := h
  refine ⟨{ w with logs := [] }, head ++ w.logs ++ [line], head' ++ w.logs, ?_, ?_, ?_⟩
  · simp only [perform, headed, List.append_nil]
  · simp only [headed, List.append_nil]
  · have hlast : (head ++ w.logs ++ [line]).Perm ([line] ++ (head ++ w.logs)) :=
      List.perm_append_comm
    refine hlast.trans ?_
    have hlines : ([line] ++ (lines ++ head' ++ w.logs)).Perm
        (lines ++ [line] ++ (head' ++ w.logs)) := by
      rw [List.append_assoc, ← List.append_assoc]
      exact List.perm_append_comm.append_right _
    exact ((hperm.append_right w.logs).append_left [line]).trans hlines

end LogsBesides

/-- What layers keep and what is seen makes no difference to orders. -/
theorem Serves.recall {started pending : List Order} (h : u.Serves started pending)
    (memory : Memory) (sightings : List (Moment × Sighting)) :
    Serves { u with memory, sightings } started pending :=
  ⟨h.background, h.submitted_eq, h.waiting_eq, h.moment_le, h.moment_eq,
    h.started.of_le rfl rfl rfl rfl (Nat.le_refl _)⟩

/-- A timeline serves orders, and lines are logged besides. -/
def Reports (u : Timeline) (lines : List LogLine) (orders : List Order) : Prop :=
  ∃ v started pending, v.Serves started pending ∧ started ++ pending = orders ∧
    u.LogsBesides v lines

theorem Reports.wait (h : u.Reports lines orders) (d : Duration) :
    (u.wait d).Reports lines orders := by
  obtain ⟨v, started, pending, hserves, rfl, hbesides⟩ := h
  obtain ⟨started', pending', hwait, hsame⟩ := hserves.wait d
  exact ⟨v.wait d, started', pending', hwait, hsame,
    hbesides.step (f := fun t ↦ t.wait d) fun head t ↦ (unnoticed_headed head).wait t d⟩

theorem Reports.settle (h : u.Reports lines orders) : u.settle.Reports lines orders := by
  obtain ⟨v, started, pending, hserves, rfl, hbesides⟩ := h
  exact ⟨v.settle, started ++ pending, [], hserves.settle, List.append_nil _,
    hbesides.step fun head t ↦ (unnoticed_headed head).settle t⟩

theorem Reports.obey (h : u.Reports lines orders) (x : Deed) :
    (u.obey x).Reports (lines ++ x.line?.toList) (orders ++ (x.order? u.now).toList) := by
  rw [← List.append_nil lines, ← List.append_nil orders] at h
  cases x with
  | settle => exact h.settle
  | effect e =>
    obtain ⟨v, started, pending, hserves, hsame, hbesides⟩ := h
    cases e with
    | sight s =>
      exact ⟨_, started, pending, hserves.recall v.memory (v.sightings ++ [(v.now, s)]), hsame,
        hbesides.step (f := fun t ↦ t.perform (.sight s)) fun _ _ ↦ rfl⟩
    | keep name value =>
      exact ⟨_, started, pending, hserves.recall (v.memory.keep name value) v.sightings, hsame,
        hbesides.step (f := fun t ↦ t.perform (.keep name value)) fun _ _ ↦ rfl⟩
    | log line =>
      rw [List.append_nil] at hbesides
      exact ⟨v, started, pending, hserves, hsame, hbesides.log line⟩
    | submit d e =>
      have hnow : u.now = v.now := by rw [hbesides.eq_but_logs]
      refine ⟨v.submit d e, started, pending ++ [⟨v.now, d, e⟩], hserves.submit d e, ?_,
        hbesides.step (f := fun t ↦ t.submit d e) fun head t ↦ submit_headed head t d e⟩
      rw [hnow, ← List.append_assoc, hsame, List.append_nil]
      rfl

/-- Once the background has settled, the log has the lines and the reports on deliveries that have
ended. -/
theorem Reports.carries (h : u.Reports lines orders) :
    u.settle.handed = orders.map Order.address ∧
      ∃ ended, (ended ++ u.settle.flights).Perm (deliveries orders) ∧
        u.settle.landings = ended.map Flight.landing ∧
        u.settle.logs.Perm (lines ++ ended.flatMap Flight.lines) := by
  obtain ⟨v, started, pending, hserves, rfl, hbesides⟩ := h
  obtain ⟨hhanded, ended, hcarries⟩ := hserves.settle.started
  have hsettled := hbesides.step fun head t ↦ (unnoticed_headed head).settle t
  have hlogs := hsettled.logs_perm
  rw [hcarries.logs_eq] at hlogs
  refine ⟨?_, ended, ?_, ?_, hlogs⟩
  · rw [hsettled.eq_but_logs]
    exact hhanded
  · rw [hsettled.eq_but_logs]
    exact hcarries.perm
  · rw [hsettled.eq_but_logs]
    exact hcarries.landings_eq

variable {u' : Timeline} {orders' : List Order}

end Timeline

/-! ## Observations at other moments -/

section Tasks

variable (l : TrackingLayer) (seen : List (Moment × Observation))

variable {l seen} {seen' : List (Moment × Observation)}

end Tasks

end RequestTelemetry
