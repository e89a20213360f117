import Mathlib.Data.List.Basic
import RequestTelemetry.Proofs.Journal
import RequestTelemetry.Tracking.Layer

/-!
# Tracking layers are transparent

A tracking layer at any place of a chain changes nothing for anyone else. Striking its entries from
the journal, and moving the places below it up by one, leaves the journal of the chain without it:
every other layer and the handler get the same requests at the same moments in the same order, wait
as long, leave the same effects and get the same responses back.

What the collector makes of the events is not in question at all here, since no delivery is part of
a journal. It comes in only where the journal is replayed on a timeline, and there deliveries leave
the foreground alone.
-/

namespace RequestTelemetry

open Http Tracking

/-! ## Striking a place -/

/-- The entry as it stands in the chain without the layer at a place. -/
def Entry.without (n : Nat) (e : Entry) : Option Entry :=
  if e.place < n then some e
  else if e.place = n then none
  else some { e with place := e.place - 1 }

/-- The account without the entries of a place. -/
def Account.without {α : Type} (n : Nat) (a : Account α) : Account α :=
  { a with journal := a.journal.filterMap (Entry.without n) }

/-- A place `p` that is called `q` once the place `n` is struck. -/
def Renamed (n p q : Nat) : Prop := p < n ∧ q = p ∨ n < p ∧ q + 1 = p

theorem Renamed.without_entry {n p q : Nat} (h : Renamed n p q) (t : Moment) (note : Note) :
    Entry.without n ⟨p, t, note⟩ = some ⟨q, t, note⟩ := by
  rw [Entry.without]
  rcases h with ⟨hlt, rfl⟩ | ⟨hlt, rfl⟩
  · rw [if_pos hlt]
  · rw [if_neg (by simp only; omega), if_neg (by simp only; omega)]
    rfl

theorem without_entry_self (n : Nat) (t : Moment) (note : Note) :
    Entry.without n ⟨n, t, note⟩ = none := by
  rw [Entry.without, if_neg (Nat.lt_irrefl n), if_pos rfl]

theorem Account.without_after {α : Type} (n : Nat) (entries : List Entry) (a : Account α) :
    (a.after entries).without n = (a.without n).after (entries.filterMap (Entry.without n)) := by
  rw [without, without, journal_after, List.filterMap_append]
  rfl

theorem Renamed.without_after {α : Type} {n p q : Nat} (h : Renamed n p q) (t : Moment)
    (note : Note) (a : Account α) :
    (a.after [⟨p, t, note⟩]).without n = (a.without n).after [⟨q, t, note⟩] := by
  rw [Account.without_after, List.filterMap_cons, h.without_entry, List.filterMap_nil]

theorem Activity.account_without {α : Type} {n p q : Nat} (h : Renamed n p q) (x : Activity α)
    (s : Scene) : (x.account p s).without n = x.account q s := by
  induction x generalizing s with
  | done a => rfl
  | wait d rest ih => rw [account, h.without_after, ih, account]
  | clock rest ih => exact ih _ s
  | fetch name rest ih => exact ih _ s
  | act e rest ih => rw [account, h.without_after, ih, account]

/-- A layer that is not struck tells of the same run, if what is below it does. -/
theorem Step.account_without {α : Type} {n p q : Nat} (h : Renamed n p q)
    {below below' : Scene → Request → Account Response}
    (hbelow : ∀ s r, (below s r).without n = below' s r) (x : Step α) (s : Scene) :
    (x.account p below s).without n = x.account q below' s := by
  induction x generalizing s with
  | done a => rfl
  | wait d rest ih => rw [account, h.without_after, ih, account]
  | clock rest ih => exact ih _ s
  | fetch name rest ih => exact ih _ s
  | act e rest ih => rw [account, h.without_after, ih, account]
  | next r rest ih =>
    -- striking keeps result and end of what is below, so the rest is the same run
    have hb := hbelow s r
    have hresult : (below s r).result = (below' s r).result := by rw [← hb]; rfl
    have hscene : (below s r).scene = (below' s r).scene := by rw [← hb]; rfl
    have hjournal : (below s r).journal.filterMap (Entry.without n) = (below' s r).journal := by
      rw [← hb]; rfl
    rw [account, account, Account.without_after, ih, List.filterMap_append, hjournal,
      List.filterMap_cons, h.without_entry, List.filterMap_nil, hresult, hscene]

/-- Below the struck place every name moves up by one. -/
theorem accountFrom_without_of_lt (h : Handler) {n p : Nat} (hp : n < p) (layers : List Layer)
    (s : Scene) (r : Request) :
    (accountFrom h p layers s r).without n = accountFrom h (p - 1) layers s r := by
  induction layers generalizing p s r with
  | nil =>
    have hren : Renamed n p (p - 1) := Or.inr ⟨hp, by omega⟩
    rw [accountFrom, hren.without_after, Activity.account_without hren, accountFrom]
  | cons l layers ih =>
    have hren : Renamed n p (p - 1) := Or.inr ⟨hp, by omega⟩
    have hbelow : ∀ s r, (accountFrom h (p + 1) layers s r).without n
        = accountFrom h (p - 1 + 1) layers s r := by
      intro s r
      rw [ih (by omega) s r, show p + 1 - 1 = p - 1 + 1 from by omega]
    rw [accountFrom, hren.without_after, Step.account_without hren hbelow, accountFrom]

/-! ## The account of a tracking layer -/

namespace Tracking.TrackingLayer

/-- The event for a response that came back. -/
def eventOf (l : TrackingLayer) (x : Return) : Event :=
  (RequestInfo.ofRequest x.request l.config.clientIdCookie).toEvent x.response.status
    (elapsed x.sent x.back)

/-- The log line for a response that came back. -/
def lineOf (l : TrackingLayer) (x : Return) : LogLine :=
  let e := l.eventOf x
  .tracked e.path e.method e.statusCode e.responseTimeMs x.response.body.length

/-- What the layer does when a response comes back: if it is active, one line and one event. -/
def effectsOf (l : TrackingLayer) (x : Return) : List Effect :=
  match l.dispatcher with
  | none => []
  | some d => [.log (l.lineOf x), .submit d (l.eventOf x)]

theorem sighting?_effectsOf (l : TrackingLayer) {x : Return} {e : Effect} (he : e ∈ l.effectsOf x)
    (place : Nat) (t : Moment) : Entry.sighting? ⟨place, t, .did e⟩ = none := by
  rw [effectsOf] at he
  cases hd : l.dispatcher with
  | none => simp [hd] at he
  | some d =>
    rw [hd] at he
    rcases List.mem_cons.mp he with rfl | he
    · rfl
    · rw [List.mem_singleton.mp he]
      rfl

/-- A tracking layer hands its request on once and gives back what comes. -/
theorem account_call (l : TrackingLayer) (r : Request) (p : Nat)
    (below : Scene → Request → Account Response) (s : Scene) :
    (l.call r).account p below s =
      { below s r with
        journal := (below s r).journal ++
          ⟨p, (below s r).scene.now, .answered r s.now (below s r).result⟩ ::
            (l.effectsOf ⟨r, s.now, (below s r).result, (below s r).scene.now⟩).map fun e ↦
              ⟨p, (below s r).scene.now, .did e⟩ } := by
  rw [call, effectsOf]
  cases l.dispatcher with
  | none => simp only [Step.account, Account.after, List.append_nil, List.map_nil]
  | some d =>
    simp only [Step.account, report, Account.after, List.append_assoc,
      reportLine, captureResponse, Capture.status_ofResponse, Capture.written_ofResponse]
    rfl

/-- Striking a tracking layer leaves what is below it. -/
theorem account_call_without (l : TrackingLayer) (r : Request) (n : Nat)
    (below : Scene → Request → Account Response) (s : Scene) :
    ((l.call r).account n below s).without n = (below s r).without n := by
  -- line and event stand at the place that is struck
  have hnone : ∀ (moment : Moment) (effects : List Effect),
      (effects.map fun e ↦ (⟨n, moment, .did e⟩ : Entry)).filterMap (Entry.without n) = [] := by
    intro moment effects
    rw [List.filterMap_map, List.filterMap_eq_nil_iff]
    exact fun e _ ↦ without_entry_self n moment (.did e)
  rw [account_call, Account.without, List.filterMap_append, List.filterMap_cons,
    without_entry_self, hnone, List.append_nil]
  rfl

end Tracking.TrackingLayer

/-! ## Transparency -/

/-- Striking a tracking layer from the account of a chain leaves that of the chain without it. -/
theorem accountFrom_without_tracking (h : Handler) (l : TrackingLayer) (outer inner : List Layer)
    (p : Nat) (s : Scene) (r : Request) :
    (accountFrom h p (outer ++ l.toLayer :: inner) s r).without (p + outer.length)
      = accountFrom h p (outer ++ inner) s r := by
  induction outer generalizing p s r with
  | nil =>
    rw [List.nil_append, List.nil_append, List.length_nil, Nat.add_zero, accountFrom,
      Account.without_after, List.filterMap_cons, without_entry_self, List.filterMap_nil]
    show ((l.call r).account p (accountFrom h (p + 1) inner) s).without p = _
    rw [TrackingLayer.account_call_without, accountFrom_without_of_lt h (Nat.lt_succ_self p)]
    rfl
  | cons a outer ih =>
    have hren : Renamed (p + (a :: outer).length) p p :=
      Or.inl ⟨by rw [List.length_cons]; omega, rfl⟩
    have hbelow : ∀ s r,
        (accountFrom h (p + 1) (outer ++ l.toLayer :: inner) s r).without (p + (a :: outer).length)
          = accountFrom h (p + 1) (outer ++ inner) s r := by
      intro s r
      rw [← ih (p + 1) s r, List.length_cons, Nat.add_right_comm, Nat.add_assoc]
    rw [List.cons_append, List.cons_append, accountFrom, hren.without_after,
      Step.account_without hren hbelow, accountFrom]

/-- Striking entries that show an observer nothing keeps what was seen. -/
theorem sightings_without {n : Nat} {journal : List Entry}
    (h : ∀ e ∈ journal, e.place = n → e.sighting? = none) :
    (journal.filterMap (Entry.without n)).filterMap Entry.sighting?
      = journal.filterMap Entry.sighting? := by
  rw [List.filterMap_filterMap]
  refine List.filterMap_congr fun e he ↦ ?_
  rw [Entry.without]
  by_cases hlt : e.place < n
  · rw [if_pos hlt, Option.bind_some]
  · by_cases heq : e.place = n
    · rw [if_neg hlt, if_pos heq, Option.bind_none, h e he heq]
    · rw [if_neg hlt, if_neg heq, Option.bind_some]
      rfl

/-- A tracking layer shows an observer nothing. -/
theorem sighting?_tracking (h : Handler) (l : TrackingLayer) {layers : List Layer} {n : Nat}
    (hl : layers[n]? = some l.toLayer) (s : Scene) (r : Request) :
    ∀ e ∈ (accountFrom h 0 layers s r).journal, e.place = n → e.sighting? = none := by
  refine (Cumulative.forall_mem fun e ↦ e.place = n → e.sighting? = none).journal_at h hl
    ?_ ?_ s r
  · intro e hne e' he' heq
    rw [List.mem_singleton.mp he'] at heq
    exact absurd heq (by rwa [Nat.zero_add] at hne)
  · intro below s r hbelow e he heq
    rw [Nat.zero_add] at he hbelow
    rw [Account.journal_after, show l.toLayer.call = l.call from rfl,
      TrackingLayer.account_call] at he
    rcases List.mem_append.mp he with he | he
    · rw [List.mem_singleton.mp he]
      rfl
    · rcases List.mem_append.mp he with he | he
      · exact absurd heq (Nat.ne_of_gt (hbelow s r e he))
      · rcases List.mem_cons.mp he with rfl | he
        · rfl
        · obtain ⟨x, hx, rfl⟩ := List.mem_map.mp he
          exact l.sighting?_effectsOf hx _ _

/-- **Transparency.** With and without a tracking layer at any place of a chain, at any state of the
timeline, whatever its configuration is and whatever its collector does: the caller gets the same
response at the same moment, the layers and the handler keep the same, the same things were seen at
the same moments, and everyone else's entries in the journal are the same in the same order. Both
journals tell of the runs. -/
theorem tracking_layer_transparent (outer inner : LayerStack) (h : Handler) (config : Config)
    (collector : Collector) (t : Timeline) (r : Request) :
    let layer := (TrackingLayer.withCollector config collector).toLayer
    let tracked := outer.push layer ++ inner
    let plain := outer ++ inner
    (t.run (tracked.execute h r)).1 = (t.run (plain.execute h r)).1 ∧
      (t.run (tracked.execute h r)).2.scene = (t.run (plain.execute h r)).2.scene ∧
      (t.run (tracked.execute h r)).2.sightings = (t.run (plain.execute h r)).2.sightings ∧
      (tracked.account h t.scene r).journal.filterMap (Entry.without outer.size)
        = (plain.account h t.scene r).journal ∧
      (tracked.account h t.scene r).Tells t (tracked.execute h r) ∧
      (plain.account h t.scene r).Tells t (plain.execute h r) := by
  intro layer tracked plain
  have hlayers : tracked.layers = outer.layers ++ layer :: inner.layers :=
    List.append_assoc _ _ _
  have hplace : tracked.layers[outer.size]? = some layer := by
    rw [hlayers]
    exact List.getElem?_append_right (Nat.le_refl _) |>.trans (by simp)
  -- about journals: without its own entries the tracked run is the plain one
  have hstruck :
      (tracked.account h t.scene r).without outer.size = plain.account h t.scene r := by
    have hs := accountFrom_without_tracking h (.withCollector config collector) outer.layers
      inner.layers 0 t.scene r
    rw [Nat.zero_add, ← hlayers] at hs
    exact hs
  -- about timelines: both runs are what their journals tell, whatever the background does
  have htracked := tracked.tells_account h t r
  have hplain := plain.tells_account h t r
  have hjournal : (tracked.account h t.scene r).journal.filterMap (Entry.without outer.size)
      = (plain.account h t.scene r).journal := congrArg Account.journal hstruck
  refine ⟨?_, ?_, ?_, hjournal, htracked, hplain⟩
  · rw [htracked.run_eq, hplain.run_eq, ← hstruck]
    rfl
  · rw [htracked.run_eq, hplain.run_eq, htracked.scene_eq, hplain.scene_eq, ← hstruck]
    rfl
  · rw [htracked.run_eq, hplain.run_eq, htracked.sightings_eq, hplain.sightings_eq, ← hjournal,
      LayerStack.account, sightings_without (sighting?_tracking h _ hplace t.scene r)]

end RequestTelemetry
