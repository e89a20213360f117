import Mathlib.Order.Nat
import RequestTelemetry.Chain.Timeline

/-!
# Outcomes of deliveries

What becomes of a delivery is settled by the moment at which it starts, the time that the dispatcher
has for it, and how long the collector's attempt takes and how it ends. `Order.outcome` says so, and
looks at no other order.

Timers fire on whole milliseconds, so a delivery ends at the first one at or after the end of its
time, unless the attempt takes no time at all. Where a timeout is not a whole number of
milliseconds, an attempt that takes a little longer can still come in time; on whole milliseconds
the outcome is the prompt one.

An ending is reported by one line of the log, whose level, message and fields it determines. Only an
attempt that broke off is reported by none.
-/

namespace RequestTelemetry

open Http Tracking

/-! ## Timers -/

theorem timerTick_mono {m m' : Nat} (h : m ≤ m') : timerTick m ≤ timerTick m' := by
  rw [timerTick, timerTick]
  omega

theorem timerTick_of_whole {m : Nat} (h : 1000000 ∣ m) : timerTick m = m := by
  rw [timerTick]
  omega

/-- A timer fires at the first whole millisecond, if the clock can name the end of its time. -/
theorem wakeUp_of_le {m : Moment} {d : Duration} (h : m + d.nanos ≤ lastMoment) :
    wakeUp m d = timerTick (m + d.nanos) := by
  rw [wakeUp, timerDeadline, if_pos h]

theorem doneAt_le_timerTick (m : Moment) (d : Duration) :
    doneAt m d ≤ timerTick (m + d.nanos) := by
  rw [doneAt]
  split
  · next h =>
    rw [h, Nat.add_zero]
    exact le_timerTick m
  · exact Nat.le_refl _

/-! ## Orders and their deliveries -/

/-- An event that was given to a dispatcher at a moment. -/
structure Order where
  moment : Moment
  dispatcher : Dispatcher
  event : Event

namespace Order

/-- What waits while an order does. -/
def submission (o : Order) (id : Nat) : Submission := ⟨id, o.dispatcher, o.event⟩

/-- How an order is recorded when it is handed over. -/
def address (o : Order) : String × Event := (o.dispatcher.collector.label, o.event)

/-- What the collector makes of an order after earlier ones. -/
def attempt (earlier : List Order) (o : Order) : Attempt :=
  let label := o.dispatcher.collector.label
  o.dispatcher.collector.attempt
    ((earlier.filter fun e ↦ e.dispatcher.collector.label = label).map event) o.event

/-- When and how the delivery of an order ends whose attempt is known. -/
def outcome (o : Order) (a : Attempt) : Moment × Ending := a.settle o.dispatcher.timeout o.moment

/-- When and how it would end if timers fired at the very moment that they are set to: when the
attempt or the time for it is over, with what came of the attempt if that is over by then, and as
timed out otherwise. -/
def promptOutcome (o : Order) (a : Attempt) : Moment × Ending :=
  let limit := o.dispatcher.timeout
  match a.delay with
  | none => (o.moment + limit.nanos, .failed (.timeout limit))
  | some d =>
    (o.moment + min d.nanos limit.nanos,
      if d.nanos ≤ limit.nanos then a.ending else .failed (.timeout limit))

/-- Whether the clock can name the end of the time for an order. -/
def InReach (o : Order) : Prop := o.moment + o.dispatcher.timeout.nanos ≤ lastMoment

instance (o : Order) : Decidable o.InReach := inferInstanceAs (Decidable (_ ≤ _))

/-- The delivery of an order under its number. -/
def delivery (o : Order) (id : Nat) (a : Attempt) : Flight :=
  ⟨id, o.event, (o.outcome a).1, (o.outcome a).2⟩

/-- No delivery outlasts its time. -/
theorem outcome_fst_le (o : Order) (a : Attempt) :
    (o.outcome a).1 ≤ wakeUp o.moment o.dispatcher.timeout := by
  obtain ⟨delay, ending⟩ := a
  cases delay with
  | none => exact Nat.le_refl _
  | some d =>
    simp only [outcome, Attempt.settle]
    split
    · next hle => exact hle
    · exact Nat.le_refl _

variable {o : Order}

/-- A delivery whose attempt never ends has timed out. -/
theorem outcome_of_none (ho : o.InReach) {a : Attempt} (ha : a.delay = none) :
    o.outcome a = (timerTick (o.moment + o.dispatcher.timeout.nanos),
      .failed (.timeout o.dispatcher.timeout)) := by
  simp only [outcome, Attempt.settle, ha, wakeUp_of_le ho]

/-- An attempt counts if it would end no later than the millisecond on which the timeout ends. -/
theorem outcome_of_some (ho : o.InReach) {a : Attempt} {d : Duration} (ha : a.delay = some d) :
    o.outcome a =
      if timerTick (o.moment + d.nanos) ≤ timerTick (o.moment + o.dispatcher.timeout.nanos) then
        (doneAt o.moment d, a.ending)
      else (timerTick (o.moment + o.dispatcher.timeout.nanos),
        .failed (.timeout o.dispatcher.timeout)) := by
  simp only [outcome, Attempt.settle, ha, wakeUp_of_le ho]
  refine if_congr ⟨fun h ↦ ?_, (doneAt_le_timerTick o.moment d).trans⟩ rfl rfl
  rw [doneAt] at h
  split at h
  · next hzero =>
    rw [hzero, Nat.add_zero]
    exact timerTick_mono (Nat.le_add_right _ _)
  · exact h

/-- How a delivery ends is decided by the milliseconds on which attempt and timeout end. -/
theorem outcome_snd_of_some (ho : o.InReach) {a : Attempt} {d : Duration} (ha : a.delay = some d) :
    (o.outcome a).2 =
      if timerTick (o.moment + d.nanos) ≤ timerTick (o.moment + o.dispatcher.timeout.nanos) then
        a.ending
      else .failed (.timeout o.dispatcher.timeout) := by
  rw [outcome_of_some ho ha, apply_ite Prod.snd]

/-- A delivery ends when its time is over, or at the first whole millisecond after that; one whose
attempt takes no time ends at once. -/
theorem outcome_fst (ho : o.InReach) (a : Attempt) :
    (o.outcome a).1 = if a.delay = some ⟨0⟩ then o.moment else timerTick (o.promptOutcome a).1 := by
  obtain ⟨_ | d, ending⟩ := a
  · rw [outcome_of_none ho rfl]
    rfl
  · have hprompt : (o.promptOutcome ⟨some d, ending⟩).1
        = o.moment + min d.nanos o.dispatcher.timeout.nanos := rfl
    rw [outcome_of_some ho rfl, apply_ite Prod.fst, hprompt]
    by_cases hzero : d = ⟨0⟩
    · subst hzero
      rw [if_pos rfl, if_pos (timerTick_mono (Nat.add_le_add_left (Nat.zero_le _) _))]
      rfl
    · have hne : d.nanos ≠ 0 := fun h ↦ hzero (congrArg Duration.mk h)
      rw [if_neg fun h ↦ hzero (Option.some.inj h), doneAt, if_neg hne]
      rcases Nat.le_total d.nanos o.dispatcher.timeout.nanos with hle | hle
      · rw [if_pos (timerTick_mono (Nat.add_le_add_left hle _)), Nat.min_eq_left hle]
      · rw [Nat.min_eq_right hle]
        split
        · next hlate =>
          exact Nat.le_antisymm hlate (timerTick_mono (Nat.add_le_add_left hle _))
        · rfl

/-- A delivery whose time is over on a whole millisecond ends then. -/
theorem outcome_fst_of_whole (ho : o.InReach) {a : Attempt}
    (h : 1000000 ∣ (o.promptOutcome a).1) : (o.outcome a).1 = (o.promptOutcome a).1 := by
  rw [outcome_fst ho]
  split
  · next hzero =>
    simp only [promptOutcome, hzero, Nat.zero_min, Nat.add_zero]
  · exact timerTick_of_whole h

/-- An attempt that takes no longer than the timeout counts. -/
theorem outcome_snd_of_le (ho : o.InReach) {a : Attempt} {d : Duration} (ha : a.delay = some d)
    (hd : d.nanos ≤ o.dispatcher.timeout.nanos) : (o.outcome a).2 = a.ending := by
  rw [outcome_snd_of_some ho ha, if_pos (timerTick_mono (Nat.add_le_add_left hd _))]

/-- From whole milliseconds on and with a timeout of whole milliseconds no other attempt does. -/
theorem outcome_snd_of_whole (ho : o.InReach) (a : Attempt) (hm : 1000000 ∣ o.moment)
    (hlimit : 1000000 ∣ o.dispatcher.timeout.nanos) :
    (o.outcome a).2 = (o.promptOutcome a).2 := by
  obtain ⟨_ | d, ending⟩ := a
  · rfl
  · rw [outcome_snd_of_some ho rfl]
    refine if_congr ⟨fun h ↦ ?_, fun h ↦ timerTick_mono (Nat.add_le_add_left h _)⟩ rfl rfl
    have hle := (le_timerTick _).trans (h.trans_eq (timerTick_of_whole (Nat.dvd_add hm hlimit)))
    exact Nat.le_of_add_le_add_left hle

/-! ### Other moments -/

/-- The order at another moment. -/
def retimed (f : Moment → Moment) (o : Order) : Order := { o with moment := f o.moment }

/-- The order at its phase in the first millisecond. -/
def phase (o : Order) : Order := o.retimed (· % 1000000)

end Order

/-- The deliveries of orders. -/
def deliveries (orders : List Order) : List Flight :=
  orders.mapIdx fun k o ↦ o.delivery k (o.attempt (orders.take k))

theorem deliveries_concat (orders : List Order) (o : Order) :
    deliveries (orders ++ [o])
      = deliveries orders ++ [o.delivery orders.length (o.attempt orders)] := by
  rw [deliveries, List.mapIdx_concat, List.take_left, deliveries]
  congr 1
  -- an order does not look at later ones
  refine List.mapIdx_eq_mapIdx_iff.mpr fun k hk ↦ ?_
  rw [List.take_append_of_le_length hk.le]

theorem getElem?_deliveries (orders : List Order) (k : Nat) :
    (deliveries orders)[k]? = orders[k]?.map fun o ↦ o.delivery k (o.attempt (orders.take k)) :=
  List.getElem?_mapIdx

/-- A delivery is found at its number, where its order is. -/
theorem order_of_mem_deliveries {orders : List Order} {f : Flight} (hf : f ∈ deliveries orders) :
    ∃ o, orders[f.id]? = some o ∧ f = o.delivery f.id (o.attempt (orders.take f.id)) := by
  obtain ⟨k, hk⟩ := List.mem_iff_getElem?.mp hf
  rw [getElem?_deliveries, Option.map_eq_some_iff] at hk
  obtain ⟨o, ho, rfl⟩ := hk
  exact ⟨o, ho, rfl⟩

/-! ### Deliveries at other moments -/

/-- The delivery so much later. -/
def Flight.later (nanos : Nat) (f : Flight) : Flight := { f with due := f.due + nanos }

/-- Whether an attempt broke off without a result. -/
def Tracking.Ending.brokeOff : Ending → Bool
  | .panicked _ => true
  | _ => false

/-- What the log says about an ending: one entry, or none if the attempt broke off. -/
def Tracking.Ending.report? (e : Event) :
    Ending → Option (Level × String × List (String × Json))
  | .delivered =>
    some (.debug, "Analytics event delivered",
      [("path", .string e.path), ("client_id", .string e.clientId)])
  | .failed (.rejected status body) =>
    some (.error, "Analytics request failed",
      [("status", .ofNat status.code), ("response", .string body)])
  | .failed (.serialization detail) =>
    some (.error, "Failed to marshal analytics data",
      [("error", .string (DeliveryError.serialization detail).message)])
  | .failed cause =>
    some (.error, "Failed to send analytics data", [("error", .string cause.message)])
  | .panicked _ => none

theorem map_entry_lines (e : Event) (ending : Ending) :
    (ending.lines e).map LogLine.entry = (ending.report? e).toList := by
  cases ending with
  | delivered => rfl
  | failed cause => cases cause <;> rfl
  | panicked text => rfl

theorem length_lines (e : Event) (ending : Ending) :
    (ending.lines e).length + [ending].countP Ending.brokeOff = 1 := by
  cases ending <;> rfl

/-- The log lines that a delivery ends with. -/
def Flight.lines (f : Flight) : List LogLine := f.ending.lines f.event

end RequestTelemetry
