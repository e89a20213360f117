import RequestTelemetry.Proofs.Background
import RequestTelemetry.Proofs.Outcomes

/-!
# Deliveries

Dispatchers are given events at some moments, and time passes. The deliveries that should come of
this are found by the clock alone. A timeline *serves* orders if what has ended on it and what is
under way are together the deliveries of the orders that were started, and the orders that were not
wait and belong to this very moment, because no time passes before the background has settled.
Submitting, waiting and settling keep that, so it holds after any errands. A settled timeline has
ended exactly the deliveries whose moment has come, and the log reports on each of them.
-/

namespace RequestTelemetry

open Http Tracking

/-! ## Landings and departures -/

/-- The record of a delivery that has ended. -/
def Flight.landing (f : Flight) : Landing := ⟨f.id, f.due, f.ending⟩

namespace Timeline

variable {t : Timeline} {started pending : List Order} {o : Order}

theorem foldl_land (t : Timeline) (fs : List Flight) :
    fs.foldl land t = { t with
      landings := t.landings ++ fs.map Flight.landing
      logs := t.logs ++ fs.flatMap Flight.lines } := by
  induction fs generalizing t with
  | nil => simp
  | cons f fs ih => simp [ih, land, Flight.landing, Flight.lines]

theorem landWhere_eq (t : Timeline) (due : Moment → Bool) :
    t.landWhere due = { t with
      flights := t.flights.filter fun f ↦ !due f.due
      landings := t.landings ++ (t.flights.filter fun f ↦ due f.due).map Flight.landing
      logs := t.logs ++ (t.flights.filter fun f ↦ due f.due).flatMap Flight.lines } :=
  foldl_land _ _

/-- Time that has passed and a clock that is put forward land the same deliveries. -/
theorem passUntil_eq (t : Timeline) (moment : Moment) :
    t.passUntil moment = { t.settle with now := moment }.landWhere (· < moment) := by
  rw [passUntil, landWhere_eq, landWhere_eq]

/-- The flight of an order that is handed over now is its delivery. -/
theorem flightOf_submission (id : Nat) (ho : o.moment = t.now)
    (hhanded : t.handed = started.map Order.address) :
    t.flightOf (o.submission id) = o.delivery id (o.attempt started) := by
  have hattempt : o.dispatcher.collector.attempt (t.handedTo o.dispatcher.collector.label) o.event
      = o.attempt started := by
    rw [handedTo, hhanded, List.filter_map, List.map_map]
    rfl
  simp only [flightOf, Order.submission, hattempt, ← ho]
  rfl

/-- The deliveries that have ended on a timeline, in order, if those under way are the others. -/
structure Carries (t : Timeline) (fs ended : List Flight) : Prop where
  perm : (ended ++ t.flights).Perm fs
  landings_eq : t.landings = ended.map Flight.landing
  logs_eq : t.logs = ended.flatMap Flight.lines
  due_le : ∀ f ∈ ended, f.due ≤ t.now

/-- On a timeline with these orders started, each was handed over and its delivery has ended or is
under way. -/
structure Started (t : Timeline) (orders : List Order) : Prop where
  handed_eq : t.handed = orders.map Order.address
  carries : ∃ ended, t.Carries (deliveries orders) ended

/-- What waits does not matter, and the clock may be put forward. -/
theorem Started.of_le {t' : Timeline} (h : t.Started started) (hhanded : t'.handed = t.handed)
    (hflights : t'.flights = t.flights) (hlandings : t'.landings = t.landings)
    (hlogs : t'.logs = t.logs) (hnow : t.now ≤ t'.now) : t'.Started started := by
  obtain ⟨ended, hperm, hlandings', hlogs', hle⟩ := h.carries
  refine ⟨hhanded.trans h.handed_eq, ended, ?_, ?_, ?_, fun f hf ↦ (hle f hf).trans hnow⟩
  · rw [hflights]
    exact hperm
  · rw [hlandings, hlandings']
  · rw [hlogs, hlogs']

theorem Started.landWhere (h : t.Started started) {due : Moment → Bool}
    (hdue : ∀ m, due m → m ≤ t.now) : (t.landWhere due).Started started := by
  obtain ⟨ended, hperm, hlandings, hlogs, hle⟩ := h.carries
  rw [landWhere_eq]
  refine ⟨h.handed_eq, ended ++ t.flights.filter fun f ↦ due f.due, ?_, ?_, ?_, fun f hf ↦ ?_⟩
  · rw [List.append_assoc]
    exact ((List.filter_append_perm (fun f ↦ due f.due) t.flights).append_left ended).trans hperm
  · rw [List.map_append, ← hlandings]
  · rw [List.flatMap_append, ← hlogs]
  · rcases List.mem_append.mp hf with hf | hf
    · exact hle f hf
    · exact hdue f.due (List.mem_filter.mp hf).2

theorem Started.depart (h : t.Started started) (ho : o.moment = t.now) :
    (t.depart (o.submission started.length)).Started (started ++ [o]) := by
  obtain ⟨ended, hperm, hlandings, hlogs, hle⟩ := h.carries
  have hhanded : t.handed ++ [o.address] = (started ++ [o]).map Order.address := by
    rw [h.handed_eq, List.map_append]
    rfl
  have hf := flightOf_submission started.length ho h.handed_eq
  rw [depart_eq]
  generalize t.flightOf (o.submission started.length) = f at hf ⊢
  split
  -- an attempt that takes no time ends at once
  · next hdue =>
    refine ⟨hhanded, ended ++ [f], ?_, ?_, ?_, fun g hg ↦ ?_⟩
    · rw [deliveries_concat, ← hf, List.append_assoc]
      refine .trans ?_ (hperm.append_right [f])
      rw [List.append_assoc]
      exact (@List.perm_append_comm _ [f] t.flights).append_left ended
    · rw [List.map_append, ← hlandings]
      rfl
    · rw [List.flatMap_append, ← hlogs, List.flatMap_singleton]
      rfl
    · rcases List.mem_append.mp hg with hg | hg
      · exact hle g hg
      · rw [List.mem_singleton.mp hg]
        exact hdue
  · refine ⟨hhanded, ended, ?_, hlandings, hlogs, hle⟩
    rw [deliveries_concat, ← hf]
    refine .trans ?_ (hperm.append_right [f])
    rw [List.append_assoc]
    exact ((insertFlight_perm f t.flights).trans
      (@List.perm_append_comm _ [f] t.flights)).append_left ended

/-- The numbered submissions of orders. -/
def submissionsFrom (n : Nat) (orders : List Order) : List Submission :=
  (orders.zipIdx n).map fun x ↦ x.1.submission x.2

theorem now_depart (t : Timeline) (s : Submission) : (t.depart s).now = t.now :=
  congrArg (fun x ↦ x.scene.now) (foreground_depart t s)

theorem now_settle (t : Timeline) : t.settle.now = t.now :=
  congrArg (fun x ↦ x.scene.now) (foreground_settle t)

theorem Started.departAll (h : t.Started started) (hpending : ∀ o ∈ pending, o.moment = t.now) :
    ((submissionsFrom started.length pending).foldl Timeline.depart t).Started
      (started ++ pending) := by
  induction pending generalizing t started with
  | nil =>
    rw [List.append_nil]
    exact h
  | cons o pending ih =>
    have hstep := h.depart (hpending o List.mem_cons_self)
    have hlater : ∀ o' ∈ pending, o'.moment = (t.depart (o.submission started.length)).now := by
      intro o' ho'
      rw [now_depart]
      exact hpending o' (List.mem_cons_of_mem o ho')
    have hrest := ih hstep hlater
    rw [List.length_append, List.append_assoc] at hrest
    exact hrest

/-- No delivery that is due is under way. -/
def Settled (t : Timeline) : Prop := ∀ f ∈ t.flights, t.now < f.due

theorem Settled.depart (h : t.Settled) (s : Submission) : (t.depart s).Settled := by
  rw [depart_eq]
  split
  · exact h
  · next hdue =>
    intro f hf
    rcases List.mem_cons.mp ((insertFlight_perm _ _).mem_iff.mp hf) with rfl | hf
    · exact Nat.lt_of_not_le hdue
    · exact h f hf

/-- Once the background has settled, no delivery that is due is under way. -/
theorem settled_settle (t : Timeline) : t.settle.Settled := by
  have hdeparted (ss : List Submission) {t : Timeline} (h : t.Settled) :
      (ss.foldl Timeline.depart t).Settled := by
    induction ss generalizing t with
    | nil => exact h
    | cons s ss ih => exact ih (h.depart s)
  rw [settle]
  refine hdeparted _ fun f hf ↦ ?_
  rw [landWhere_eq] at hf ⊢
  have hdue := (List.mem_filter.mp hf).2
  simpa using hdue

/-! ## Errands -/

/-- A timeline serves orders: some are started, and the others wait, which they do only at the
moment at which they were given. -/
structure Serves (t : Timeline) (started pending : List Order) : Prop where
  background : t.background = true
  submitted_eq : t.submitted = started.length + pending.length
  waiting_eq : t.waiting = submissionsFrom started.length pending
  moment_le : ∀ o ∈ started, o.moment ≤ t.now
  moment_eq : ∀ o ∈ pending, o.moment = t.now
  started : t.Started started

theorem serves_nil (start : Moment) : Serves { now := start } [] [] where
  background := rfl
  submitted_eq := rfl
  waiting_eq := rfl
  moment_le := by simp
  moment_eq := by simp
  started := ⟨rfl, [], .refl [], rfl, rfl, by simp⟩

theorem Serves.submit (h : t.Serves started pending) (d : Dispatcher) (e : Event) :
    (t.submit d e).Serves started (pending ++ [⟨t.now, d, e⟩]) := by
  rw [Timeline.submit, if_pos h.background]
  constructor
  · exact h.background
  · rw [List.length_append, ← Nat.add_assoc, ← h.submitted_eq]
    rfl
  · rw [submissionsFrom, List.zipIdx_append, List.map_append, h.waiting_eq, h.submitted_eq]
    rfl
  · exact h.moment_le
  · intro o ho
    rcases List.mem_append.mp ho with ho | ho
    · exact h.moment_eq o ho
    · rw [List.mem_singleton.mp ho]
  · exact h.started.of_le rfl rfl rfl rfl (Nat.le_refl _)

theorem Serves.moment_le_append (h : t.Serves started pending) :
    ∀ o ∈ started ++ pending, o.moment ≤ t.now := by
  intro o ho
  rcases List.mem_append.mp ho with ho | ho
  · exact h.moment_le o ho
  · exact (h.moment_eq o ho).le

/-- Once the background has settled all orders are started. -/
theorem Serves.settle (h : t.Serves started pending) : t.settle.Serves (started ++ pending) [] := by
  constructor
  · exact (congrArg Foreground.background (foreground_settle t)).trans h.background
  · rw [submitted_settle, h.submitted_eq, List.length_append]
    rfl
  · exact waiting_settle t
  · rw [now_settle]
    exact h.moment_le_append
  · simp
  · -- what is due lands first, and then what waits departs
    have hlanded : (t.landWhere (· ≤ t.now)).Started started :=
      h.started.landWhere fun m hm ↦ of_decide_eq_true hm
    have hwaiting : (t.landWhere (· ≤ t.now)).waiting = submissionsFrom started.length pending := by
      rw [landWhere_eq]
      exact h.waiting_eq
    rw [Timeline.settle, hwaiting]
    have hemptied : Started { t.landWhere (· ≤ t.now) with waiting := [] } started :=
      hlanded.of_le rfl rfl rfl rfl (Nat.le_refl _)
    refine hemptied.departAll fun o ho ↦ ?_
    rw [h.moment_eq o ho, landWhere_eq]

theorem Serves.passUntil (h : t.Serves started pending) {moment : Moment} (hm : t.now ≤ moment) :
    (t.passUntil moment).Serves (started ++ pending) [] := by
  have hsettled := h.settle
  -- the clock is put forward, and then the deliveries land whose moment has passed
  have hforward : Started { t.settle with now := moment } (started ++ pending) :=
    hsettled.started.of_le rfl rfl rfl rfl ((now_settle t).trans_le hm)
  have hstarted : (t.passUntil moment).Started (started ++ pending) := by
    rw [passUntil_eq]
    exact hforward.landWhere fun m hlt ↦ (of_decide_eq_true hlt).le
  constructor
  · exact (congrArg Foreground.background (foreground_passUntil t moment)).trans h.background
  · exact (congrArg Foreground.submitted (foreground_passUntil t moment)).trans
      ((submitted_settle t).symm.trans hsettled.submitted_eq)
  · rw [passUntil_eq, landWhere_eq]
    exact waiting_settle t
  · exact fun o ho ↦ (h.moment_le_append o ho).trans hm
  · simp
  · exact hstarted

theorem Serves.wait (h : t.Serves started pending) (d : Duration) :
    ∃ started' pending', (t.wait d).Serves started' pending' ∧
      started' ++ pending' = started ++ pending := by
  rw [Timeline.wait]
  split
  · exact ⟨started, pending, h, rfl⟩
  · exact ⟨started ++ pending, [], h.passUntil (le_wakeUp t.now d), List.append_nil _⟩

end Timeline

/-- What happens to a timeline while events are submitted. -/
inductive Errand where
  /-- An event is given to a dispatcher. -/
  | submit (d : Dispatcher) (e : Event)
  /-- An activity waits. -/
  | wait (d : Duration)
  /-- So much time passes; if it is none, the background settles. -/
  | advance (d : Duration)

/-- Carries out an errand. -/
def Errand.carryOut (t : Timeline) : Errand → Timeline
  | submit d e => t.submit d e
  | wait d => t.wait d
  | advance d => t.passUntil (t.now + d.nanos)

/-- The orders that errands give, by the clock alone. -/
def ordersFrom (now : Moment) : List Errand → List Order
  | [] => []
  | .submit d e :: errands => ⟨now, d, e⟩ :: ordersFrom now errands
  | .wait d :: errands => ordersFrom (wakeUp now d) errands
  | .advance d :: errands => ordersFrom (now + d.nanos) errands

namespace Timeline

variable {t : Timeline} {started pending orders : List Order}

/-- A timeline serves the orders of any errands. -/
theorem Serves.carryOut_all (h : t.Serves started pending) (errands : List Errand) :
    ∃ started' pending', (errands.foldl Errand.carryOut t).Serves started' pending' ∧
      started' ++ pending' = started ++ pending ++ ordersFrom t.now errands := by
  induction errands generalizing t started pending with
  | nil => exact ⟨started, pending, h, (List.append_nil _).symm⟩
  | cons x errands ih =>
    cases x with
    | submit d e =>
      obtain ⟨started', pending', hserves, heq⟩ := ih (h.submit d e)
      have hnow : (t.submit d e).now = t.now := congrArg Scene.now (scene_perform t (.submit d e))
      refine ⟨started', pending', hserves, ?_⟩
      rw [heq, hnow, ordersFrom]
      simp
    | wait d =>
      obtain ⟨started', pending', hwait, hsame⟩ := h.wait d
      obtain ⟨started', pending', hserves, heq⟩ := ih hwait
      have hnow : (t.wait d).now = wakeUp t.now d := congrArg Scene.now (scene_wait t d)
      refine ⟨started', pending', hserves, ?_⟩
      rw [heq, hsame, hnow, ordersFrom]
    | advance d =>
      obtain ⟨started', pending', hserves, heq⟩ := ih (h.passUntil (Nat.le_add_right t.now d.nanos))
      have hnow : (t.passUntil (t.now + d.nanos)).now = t.now + d.nanos := rfl
      refine ⟨started', pending', hserves, ?_⟩
      rw [heq, hnow, ordersFrom, List.append_nil]

/-- Once the background has settled after errands, all orders that they gave are started. -/
theorem serves_ordersFrom (start : Moment) (errands : List Errand) :
    Serves (errands.foldl Errand.carryOut { now := start }).settle
      (ordersFrom start errands) [] := by
  obtain ⟨started, pending, hserves, heq⟩ := (serves_nil start).carryOut_all errands
  have hsettled := hserves.settle
  rw [heq] at hsettled
  exact hsettled

/-- What has ended on a settled timeline is what is due, and what is under way is the rest. -/
theorem Started.perm_filter (h : t.Started orders) (hsettled : t.Settled) :
    ∃ ended, t.Carries (deliveries orders) ended ∧
      ended.Perm ((deliveries orders).filter fun f ↦ f.due ≤ t.now) ∧
      t.flights.Perm ((deliveries orders).filter fun f ↦ t.now < f.due) := by
  obtain ⟨ended, hcarries⟩ := h.carries
  have hsplit (p : Flight → Bool) :
      (ended.filter p ++ t.flights.filter p).Perm ((deliveries orders).filter p) := by
    rw [← List.filter_append]
    exact hcarries.perm.filter p
  refine ⟨ended, hcarries, ?_, ?_⟩
  · have hall : ended.filter (fun f ↦ f.due ≤ t.now) = ended :=
      List.filter_eq_self.mpr fun f hf ↦ decide_eq_true (hcarries.due_le f hf)
    have hnone : t.flights.filter (fun f ↦ f.due ≤ t.now) = [] :=
      List.filter_eq_nil_iff.mpr fun f hf ↦ by simpa using hsettled f hf
    have h := hsplit fun f ↦ f.due ≤ t.now
    rwa [hall, hnone, List.append_nil] at h
  · have hnone : ended.filter (fun f ↦ t.now < f.due) = [] :=
      List.filter_eq_nil_iff.mpr fun f hf ↦ by simpa using hcarries.due_le f hf
    have hall : t.flights.filter (fun f ↦ t.now < f.due) = t.flights :=
      List.filter_eq_self.mpr fun f hf ↦ decide_eq_true (hsettled f hf)
    have h := hsplit fun f ↦ t.now < f.due
    rwa [hall, hnone, List.nil_append] at h

end Timeline

/-! ## The log -/

namespace Timeline

variable {t : Timeline} {started pending orders : List Order} {ended : List Flight}

/-- The log has the reports on the deliveries that have ended, in their order. -/
theorem Carries.map_entry_logs (h : t.Carries (deliveries orders) ended) :
    t.logs.map LogLine.entry
      = t.landings.filterMap fun l ↦ orders[l.id]?.bind fun o ↦ l.ending.report? o.event := by
  rw [h.logs_eq, h.landings_eq, List.map_flatMap, List.filterMap_map,
    List.filterMap_eq_flatMap_toList]
  refine List.flatMap_congr fun f hf ↦ ?_
  obtain ⟨o, ho, hfo⟩ := order_of_mem_deliveries (h.perm.mem_iff.mp (List.mem_append_left _ hf))
  have hevent : f.event = o.event := by rw [hfo]; rfl
  rw [Flight.lines, map_entry_lines, hevent]
  simp [Flight.landing, ho]

/-- Every delivery that has ended has one line, unless its attempt broke off. -/
theorem Carries.length_logs (h : t.Carries (deliveries orders) ended) :
    t.logs.length + t.landings.countP (fun l ↦ l.ending.brokeOff) = t.landings.length := by
  rw [h.logs_eq, h.landings_eq]
  clear h
  induction ended with
  | nil => rfl
  | cons f ended ih =>
    have hone := length_lines f.event f.ending
    simp only [List.flatMap_cons, List.length_append, List.map_cons, List.countP_cons,
      List.length_cons, Flight.lines, Flight.landing, List.countP_nil] at hone ih ⊢
    omega

/-- If all deliveries are due, all have ended on a settled timeline, and the log has as many lines
but for the attempts that broke off. -/
theorem Started.all_ended (h : t.Started orders) (hsettled : t.Settled)
    (hdue : ∀ f ∈ deliveries orders, f.due ≤ t.now) :
    t.flights = [] ∧ t.landings.Perm ((deliveries orders).map Flight.landing) ∧
      t.logs.length + t.landings.countP (fun l ↦ l.ending.brokeOff) = orders.length := by
  obtain ⟨ended, hcarries, hended, hflights⟩ := h.perm_filter hsettled
  rw [List.filter_eq_self.mpr fun f hf ↦ decide_eq_true (hdue f hf)] at hended
  rw [List.filter_eq_nil_iff.mpr fun f hf ↦ by simpa using hdue f hf] at hflights
  have hperm : t.landings.Perm ((deliveries orders).map Flight.landing) := by
    rw [hcarries.landings_eq]
    exact hended.map _
  refine ⟨hflights.eq_nil, hperm, ?_⟩
  rw [hcarries.length_logs, hperm.length_eq, List.length_map, deliveries, List.length_mapIdx]

/-- Once every timeout has passed all deliveries are due. -/
theorem Serves.due_le_wait (h : t.Serves started pending) {d : Duration}
    (hreach : t.now + d.nanos ≤ lastMoment)
    (hd : ∀ o ∈ started ++ pending, o.dispatcher.timeout.nanos ≤ d.nanos) :
    ∀ f ∈ deliveries (started ++ pending), f.due ≤ (t.wait d).settle.now := by
  intro f hf
  have hnow : (t.wait d).settle.now = wakeUp t.now d :=
    (now_settle _).trans (congrArg Scene.now (scene_wait t d))
  obtain ⟨o, ho, hfo⟩ := order_of_mem_deliveries hf
  have hmem := List.mem_of_getElem? ho
  have hle : o.moment + o.dispatcher.timeout.nanos ≤ t.now + d.nanos :=
    Nat.add_le_add (h.moment_le_append o hmem) (hd o hmem)
  rw [hfo, hnow, wakeUp_of_le hreach]
  refine (o.outcome_fst_le _).trans ?_
  rw [wakeUp_of_le (hle.trans hreach)]
  exact timerTick_mono hle

/-- A delivery that has ended did so as its order and its attempt say. -/
theorem Carries.outcome_of_mem (h : t.Carries (deliveries orders) ended) {l : Landing}
    (hl : l ∈ t.landings) {o : Order} (ho : orders[l.id]? = some o) :
    (l.moment, l.ending) = o.outcome (o.attempt (orders.take l.id)) := by
  rw [h.landings_eq] at hl
  obtain ⟨f, hf, rfl⟩ := List.mem_map.mp hl
  obtain ⟨o', ho', hfo⟩ := order_of_mem_deliveries (h.perm.mem_iff.mp (List.mem_append_left _ hf))
  obtain rfl : o' = o := Option.some.inj (ho'.symm.trans ho)
  rw [hfo]
  rfl

end Timeline

/-- **Deliveries end in time.** Events are given to dispatchers at any moments, and the background
settles:

* no event waits, the deliveries that are due have ended, each once, at the moment and with the
  ending of its outcome, and the others are under way;
* the log has one entry for each that has ended, by its ending, and none if the attempt broke off;
* a delivery ends when the shorter of its attempt and its timeout is over, or at the first whole
  millisecond after that, and at once if the attempt takes no time; its ending is that of the
  attempt if this takes no longer than the timeout or at least ends on no later a millisecond, and
  if the order and its timeout are on whole milliseconds, an attempt that takes longer has timed
  out. This holds for all timeouts whose end the clock can name;
* once a time has passed that no timeout exceeds, nothing waits or is under way, and there are as
  many lines as orders but for the attempts that broke off;
* on any two runs, deliveries of one order end alike if the collector does the same, whatever the
  other orders are. -/
theorem deliveries_end_in_time (start : Moment) (errands : List Errand) :
    let orders := ordersFrom start errands
    let t := (errands.foldl Errand.carryOut { now := start }).settle
    t.waiting = [] ∧
      t.landings.Perm (((deliveries orders).filter fun f ↦ f.due ≤ t.now).map Flight.landing) ∧
      t.flights.Perm ((deliveries orders).filter fun f ↦ t.now < f.due) ∧
      t.logs.map LogLine.entry
        = t.landings.filterMap (fun l ↦ orders[l.id]?.bind fun o ↦ l.ending.report? o.event) ∧
      (∀ (o : Order) (a : Attempt), o.moment + o.dispatcher.timeout.nanos ≤ lastMoment →
        ((o.outcome a).1 = if a.delay = some ⟨0⟩ then o.moment
          else timerTick (o.promptOutcome a).1) ∧
        (1000000 ∣ (o.promptOutcome a).1 → (o.outcome a).1 = (o.promptOutcome a).1) ∧
        (a.delay = none → (o.outcome a).2 = .failed (.timeout o.dispatcher.timeout)) ∧
        (∀ d, a.delay = some d →
          (d.nanos ≤ o.dispatcher.timeout.nanos → (o.outcome a).2 = a.ending) ∧
          (o.outcome a).2 =
            if timerTick (o.moment + d.nanos)
                ≤ timerTick (o.moment + o.dispatcher.timeout.nanos) then a.ending
            else .failed (.timeout o.dispatcher.timeout)) ∧
        (1000000 ∣ o.moment → 1000000 ∣ o.dispatcher.timeout.nanos →
          (o.outcome a).2 = (o.promptOutcome a).2)) ∧
      (∀ d, t.now + d.nanos ≤ lastMoment → (∀ o ∈ orders, o.dispatcher.timeout.nanos ≤ d.nanos) →
        let quiet := (t.wait d).settle
        quiet.waiting = [] ∧ quiet.flights = [] ∧
          quiet.landings.Perm ((deliveries orders).map Flight.landing) ∧
          quiet.logs.length + quiet.landings.countP (fun l ↦ l.ending.brokeOff)
            = orders.length) ∧
      ∀ (start' : Moment) (errands' : List Errand),
        let orders' := ordersFrom start' errands'
        let t' := (errands'.foldl Errand.carryOut { now := start' }).settle
        ∀ l ∈ t.landings, ∀ l' ∈ t'.landings, ∀ o, orders[l.id]? = some o →
          orders'[l'.id]? = some o →
            o.attempt (orders.take l.id) = o.attempt (orders'.take l'.id) →
              l.moment = l'.moment ∧ l.ending = l'.ending := by
  intro orders t
  have hserves : t.Serves orders [] := Timeline.serves_ordersFrom start errands
  obtain ⟨ended, hcarries, hended, hflights⟩ :=
    hserves.started.perm_filter (Timeline.settled_settle _)
  refine ⟨Timeline.waiting_settle _, ?_, hflights, hcarries.map_entry_logs, ?_, ?_, ?_⟩
  · rw [hcarries.landings_eq]
    exact hended.map _
  · exact fun o a ho ↦ ⟨Order.outcome_fst ho a, Order.outcome_fst_of_whole ho,
      fun ha ↦ congrArg Prod.snd (Order.outcome_of_none ho ha),
      fun d ha ↦ ⟨Order.outcome_snd_of_le ho ha, Order.outcome_snd_of_some ho ha⟩,
      Order.outcome_snd_of_whole ho a⟩
  · intro d hreach hd
    obtain ⟨started, pending, hwait, hsame⟩ := hserves.wait d
    have hquiet := hwait.settle.started
    have hdue := hserves.due_le_wait (d := d)
    rw [hsame, List.append_nil] at hquiet
    rw [List.append_nil] at hdue
    exact ⟨Timeline.waiting_settle _,
      hquiet.all_ended (Timeline.settled_settle _) (hdue hreach hd)⟩
  · intro start' errands' orders' t' l hl l' hl' o ho ho' hattempt
    obtain ⟨ended', hcarries'⟩ :=
      (Timeline.serves_ordersFrom start' errands').started.carries
    have h := hcarries.outcome_of_mem hl ho
    have h' := hcarries'.outcome_of_mem hl' ho'
    rw [hattempt] at h
    exact Prod.mk.inj (h.trans h'.symm)

/-- A dispatcher with ten milliseconds for each event. The collector takes long for an event about
the status 200, refuses one about 403, breaks off at one about 500, and is silent about others. -/
private def moodyDispatcher : Dispatcher where
  timeout := .ofMillis 10
  collector := ⟨"moody", fun _ e ↦
    if e.statusCode = 200 then ⟨some (.ofMillis 30), .delivered⟩
    else if e.statusCode = 403 then ⟨some (.ofMillis 10), .failed (.rejected { code := 403 } "no")⟩
    else if e.statusCode = 500 then ⟨some (.ofMillis 2), .panicked "no idea"⟩
    else ⟨none, .delivered⟩⟩

/-- Gives the dispatcher an event about a status. -/
private def moodyErrand (status : UInt16) : Errand :=
  .submit moodyDispatcher { (default : Event) with statusCode := status }

/-- Four events at two moments. -/
private def moodyErrands : List Errand :=
  [moodyErrand 200, moodyErrand 403, .wait (.ofMillis 4), moodyErrand 500, moodyErrand 404,
    .wait (.ofMillis 6)]

/-- The second of them alone. -/
private def singleErrands : List Errand := [moodyErrand 403, .wait (.ofMillis 10)]

/-- How an event is refused. -/
private def refusal : Ending := .failed (.rejected { code := 403 } "no")

/-- An event that is given, between two milliseconds, to a dispatcher that has no time. -/
private def hastyOrder : Order := ⟨500000, ⟨⟨"hasty", fun _ _ ↦ ⟨none, .delivered⟩⟩, ⟨0⟩⟩, default⟩

/-- Of four deliveries on one clock one breaks off, one times out, one is refused in the last moment
of its time, as it would be alone, and one ends once its timeout has passed. Without any time an
attempt that ends before the next millisecond still counts. -/
theorem moody_deliveries_end_in_time :
    let orders := ordersFrom 0 moodyErrands
    let t := (moodyErrands.foldl Errand.carryOut { now := 0 }).settle
    let single := (singleErrands.foldl Errand.carryOut { now := 0 }).settle
    let quiet := (t.wait (.ofMillis 10)).settle
    t.landings = [⟨2, 6000000, .panicked "no idea"⟩,
        ⟨0, 10000000, .failed (.timeout (.ofMillis 10))⟩, ⟨1, 10000000, refusal⟩] ∧
      (∀ l ∈ single.landings, l.id = 0 → (10000000, refusal) = (l.moment, l.ending)) ∧
      (∀ o ∈ orders, ∀ a : Attempt, (o.outcome a).2 = (o.promptOutcome a).2) ∧
      hastyOrder.outcome ⟨some ⟨300000⟩, .delivered⟩ = (1000000, .delivered) ∧
      quiet.flights = [] ∧ quiet.landings.Perm ((deliveries orders).map Flight.landing) ∧
      quiet.logs.length + quiet.landings.countP (fun l ↦ l.ending.brokeOff) = 4 := by
  intro orders t single quiet
  obtain ⟨-, -, -, -, houtcome, hquiet, halike⟩ := deliveries_end_in_time 0 moodyErrands
  have hlandings : t.landings = [⟨2, 6000000, .panicked "no idea"⟩,
      ⟨0, 10000000, .failed (.timeout (.ofMillis 10))⟩, ⟨1, 10000000, refusal⟩] := by
    decide +kernel
  have hrefused : (⟨1, 10000000, refusal⟩ : Landing) ∈ t.landings := by
    rw [hlandings]
    simp
  have hten : ∀ o ∈ orders, o.dispatcher.timeout.nanos ≤ (Duration.ofMillis 10).nanos := by
    simp [orders, moodyErrands, moodyErrand, moodyDispatcher, ordersFrom]
  have hwhole : ∀ o ∈ orders, o.moment + o.dispatcher.timeout.nanos ≤ lastMoment ∧
      1000000 ∣ o.moment ∧ 1000000 ∣ o.dispatcher.timeout.nanos := by decide
  refine ⟨hlandings, fun l hl hid ↦ ?_, fun o ho a ↦ ?_, ?_, (hquiet _ (by decide) hten).2⟩
  · have h := halike 0 singleErrands _ hrefused l hl ⟨0, moodyDispatcher, _⟩ rfl
    rw [hid] at h
    exact Prod.ext_iff.mpr (h rfl rfl)
  · obtain ⟨hreach, hmoment, htimeout⟩ := hwhole o ho
    obtain ⟨-, -, -, -, hprompt⟩ := houtcome o a hreach
    exact hprompt hmoment htimeout
  · obtain ⟨hmoment, -, -, hending, -⟩ :=
      houtcome hastyOrder ⟨some ⟨300000⟩, .delivered⟩ (by decide)
    exact Prod.ext (hmoment.trans (by decide)) ((hending ⟨300000⟩ rfl).2.trans (by decide))

/-- A timer that is set to a little less than a millisecond fires with one that is set to a whole
one, so an attempt that takes longer than its time is taken. -/
theorem short_timeout_lets_a_millisecond_pass :
    let hasty : Dispatcher := ⟨⟨"hasty", fun _ _ ↦ ⟨some (.ofMillis 1), .delivered⟩⟩, ⟨999999⟩⟩
    let t := ([Errand.submit hasty default, .wait (.ofMillis 5)].foldl Errand.carryOut
      { now := 0 }).settle
    t.landings = [⟨0, 1000000, .delivered⟩] ∧
      (Order.mk 0 hasty default).promptOutcome ⟨some (.ofMillis 1), .delivered⟩
        = (999999, .failed (.timeout ⟨999999⟩)) := by
  decide

end RequestTelemetry
