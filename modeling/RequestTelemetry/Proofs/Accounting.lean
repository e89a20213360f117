import Mathlib.Algebra.BigOperators.Group.Finset.Piecewise
import RequestTelemetry.Chain.Stock
import RequestTelemetry.Proofs.Background
import RequestTelemetry.Proofs.Transparency

/-!
# Accounting for events

A session sends requests through one stack, lets time pass in between, and lets the background run.
Its journal is that of all requests. An invariant ties the journal to the timeline: the ledger lists
what the effects in the journal offer and log, one entry for one effect, and every submission has
ended, is under way or waits.

In the journal a tracking layer hands on each request that came to it, gets one response for it,
and then, if it is active, leaves one line and one event. The two together say that no event is
lost and none is duplicated, whatever the other layers do and however the deliveries end.
-/

namespace RequestTelemetry

open Http Tracking

/-! ## The journal of a tracking layer -/

/-- What a tracking layer is seen to do in a journal: each request that came to its place was
handed on as it came and was answered once, and the effects are those for the answers. -/
structure TrackedAt (l : TrackingLayer) (place : Nat) (journal : List Entry) : Prop where
  requests_eq : (toldAt place Entry.return? journal).map Return.request
    = toldAt place Entry.request? journal
  effects_eq : toldAt place Entry.effect? journal
    = (toldAt place Entry.return? journal).flatMap l.effectsOf

namespace TrackedAt

variable {l : TrackingLayer} {place : Nat}

theorem cumulative : Cumulative (TrackedAt l place) where
  nil := ⟨rfl, rfl⟩
  append := fun h₁ h₂ ↦
    ⟨by rw [toldAt_append, List.map_append, h₁.requests_eq, h₂.requests_eq, toldAt_append],
      by rw [toldAt_append, h₁.effects_eq, h₂.effects_eq, toldAt_append, List.flatMap_append]⟩

/-- Nothing is seen of a layer where no entry stands at its place. -/
theorem of_other {journal : List Entry} (h : ∀ e ∈ journal, e.place ≠ place) :
    TrackedAt l place journal where
  requests_eq := by rw [toldAt_eq_nil h, toldAt_eq_nil h, List.map_nil]
  effects_eq := by rw [toldAt_eq_nil h, toldAt_eq_nil h, List.flatMap_nil]

/-- The effects that a layer leaves at its place are told there. -/
theorem toldAt_effects (place : Nat) (t : Moment) (effects : List Effect) :
    toldAt place Entry.effect? (effects.map fun e ↦ ⟨place, t, .did e⟩) = effects := by
  induction effects with
  | nil => rfl
  | cons e effects ih =>
    rw [List.map_cons, toldAt_cons_self, ih]
    rfl

/-- Effects tell of neither requests nor responses. -/
theorem toldAt_effects_eq_nil {α : Type} {f : Entry → Option α}
    (hf : ∀ p t e, f ⟨p, t, .did e⟩ = none) (place : Nat) (t : Moment) (effects : List Effect) :
    toldAt place f (effects.map fun e ↦ ⟨place, t, .did e⟩) = [] := by
  induction effects with
  | nil => rfl
  | cons e effects ih =>
    rw [List.map_cons, toldAt_cons_self, ih, hf]
    rfl

/-- What is told at the place of a tracking layer, with anything below it: of the request, of the
answer to it, and of the effects for that answer. -/
theorem toldAt_account_call {α : Type} (f : Entry → Option α) (l : TrackingLayer) (place : Nat)
    {below : Scene → Request → Account Response} (s : Scene) (r : Request)
    (hbelow : ∀ e ∈ (below s r).journal, place < e.place) :
    let x : Return := ⟨r, s.now, (below s r).result, (below s r).scene.now⟩
    toldAt place f (((l.call r).account place below s).after [⟨place, s.now, .received r⟩]).journal
      = (f ⟨place, s.now, .received r⟩).toList ++
          ((f ⟨place, x.back, .answered r s.now x.response⟩).toList ++
            toldAt place f ((l.effectsOf x).map fun e ↦ ⟨place, x.back, .did e⟩)) := by
  intro x
  -- what is below stands at other places and tells nothing here
  have hinner : ∀ e ∈ (below s r).journal, e.place ≠ place :=
    fun e he ↦ Nat.ne_of_gt (hbelow e he)
  rw [Account.journal_after, TrackingLayer.account_call, List.singleton_append, toldAt_cons_self,
    toldAt_append, toldAt_eq_nil hinner, List.nil_append, toldAt_cons_self]

theorem account_call (l : TrackingLayer) (place : Nat)
    {below : Scene → Request → Account Response} (s : Scene) (r : Request)
    (hbelow : ∀ e ∈ (below s r).journal, place < e.place) :
    TrackedAt l place (((l.call r).account place below s).after
      [⟨place, s.now, .received r⟩]).journal := by
  constructor
  · rw [toldAt_account_call _ l place s r hbelow, toldAt_account_call _ l place s r hbelow,
      toldAt_effects_eq_nil fun _ _ _ ↦ rfl, toldAt_effects_eq_nil fun _ _ _ ↦ rfl]
    rfl
  · rw [toldAt_account_call _ l place s r hbelow, toldAt_account_call _ l place s r hbelow,
      toldAt_effects, toldAt_effects_eq_nil fun _ _ _ ↦ rfl]
    exact (List.append_nil _).symm

/-- A tracking layer in a stack. -/
theorem account {stack : LayerStack} (hl : stack.layers[place]? = some l.toLayer) (h : Handler)
    (s : Scene) (r : Request) : TrackedAt l place (stack.account h s r).journal := by
  refine cumulative.journal_at h hl ?_ ?_ s r
  · intro e he
    rw [Nat.zero_add] at he
    exact of_other fun e' he' ↦ List.mem_singleton.mp he' ▸ he
  · intro below s r hbelow
    rw [Nat.zero_add] at hbelow ⊢
    exact account_call l place s r (hbelow s r)

end TrackedAt

/-! ## Sessions -/

/-- A turn of a session. -/
inductive Turn where
  /-- A request is sent through the stack. -/
  | request (r : Request)
  /-- Time passes. -/
  | pass (d : Duration)
  /-- The background runs as far as it can without time passing. -/
  | idle

/-- A session so far: its timeline, and the journal of all requests. -/
structure Session where
  timeline : Timeline := {}
  journal : List Entry := []

/-- Takes a turn. -/
def Session.take (s : LayerStack) (h : Handler) (x : Session) : Turn → Session
  | .request r =>
    { timeline := (x.timeline.run (s.execute h r)).2
      journal := x.journal ++ (s.account h x.timeline.scene r).journal }
  | .pass d => { x with timeline := x.timeline.wait d }
  | .idle => { x with timeline := x.timeline.settle }

/-- The session that takes turns one after another, where deliveries can run. -/
def LayerStack.session (s : LayerStack) (h : Handler) (turns : List Turn) : Session :=
  turns.foldl (Session.take s h) {}

theorem LayerStack.session_induction {s : LayerStack} {h : Handler} {P : Session → Prop}
    (hstart : P {}) (htake : ∀ x turn, P x → P (x.take s h turn)) (turns : List Turn) :
    P (s.session h turns) := by
  -- the induction is over the turns that are left, from any session so far
  rw [session]
  generalize ({} : Session) = x at hstart
  induction turns generalizing x with
  | nil => exact hstart
  | cons turn turns ih => exact ih _ (htake x turn hstart)

/-- A cumulative property of every account passes from the journal of a session so far to that of
the session that goes on. -/
theorem Cumulative.journal_foldl {P : List Entry → Prop} (hP : Cumulative P) {s : LayerStack}
    {h : Handler} (haccount : ∀ scene r, P (s.account h scene r).journal) {x : Session}
    (hx : P x.journal) (turns : List Turn) :
    P (turns.foldl (Session.take s h) x).journal := by
  induction turns generalizing x with
  | nil => exact hx
  | cons turn turns ih =>
    refine ih ?_
    cases turn with
    | request r => exact hP.append hx (haccount _ r)
    | pass d => exact hx
    | idle => exact hx

/-- A cumulative property of every account holds of the journal of a session. -/
theorem Cumulative.journal_session {P : List Entry → Prop} (hP : Cumulative P) {s : LayerStack}
    {h : Handler} (haccount : ∀ scene r, P (s.account h scene r).journal) (turns : List Turn) :
    P (s.session h turns).journal :=
  hP.journal_foldl haccount hP.nil turns

/-- What ties the journal of a session to its timeline. -/
structure Session.Balanced (x : Session) : Prop where
  background : x.timeline.background = true
  ledger : x.timeline.ledger =
    ⟨(x.journal.filterMap Entry.effect?).filterMap Effect.offer?,
      (x.journal.filterMap Entry.effect?).filterMap Effect.line?⟩
  numbered : x.timeline.Numbered

theorem Session.Balanced.take {x : Session} (hx : x.Balanced) (s : LayerStack) (h : Handler)
    (turn : Turn) : (x.take s h turn).Balanced := by
  cases turn with
  | request r =>
    have htells := s.tells_account h x.timeline r
    refine ⟨?_, ?_, ?_⟩
    · rw [Session.take, htells.run_eq]
      exact (Timeline.background_replay _ _).trans hx.background
    · rw [Session.take, htells.run_eq, Timeline.ledger_replay hx.background, hx.ledger]
      simp only [List.filterMap_append]
    · rw [Session.take, htells.run_eq]
      exact hx.numbered.replay _
  | pass d =>
    refine ⟨?_, ?_, hx.numbered.wait d⟩
    · exact (Timeline.background_wait _ _).trans hx.background
    · exact (Timeline.ledger_wait _ _).trans hx.ledger
  | idle =>
    refine ⟨?_, ?_, hx.numbered.settle⟩
    · exact (congrArg Timeline.Foreground.background (Timeline.foreground_settle _)).trans
        hx.background
    · exact (Timeline.ledger_settle _).trans hx.ledger

theorem LayerStack.balanced_session (s : LayerStack) (h : Handler) (turns : List Turn) :
    (s.session h turns).Balanced :=
  s.session_induction ⟨rfl, rfl, ⟨rfl, rfl⟩⟩ (fun _ turn hx ↦ hx.take s h turn) turns

/-! ## The sum over the places -/

/-- The events that a place offers to collectors. -/
def offersAt (place : Nat) (journal : List Entry) : List (String × Event) :=
  (toldAt place Entry.effect? journal).filterMap Effect.offer?

/-- The lines about tracked requests that a place logs. -/
def linesAt (place : Nat) (journal : List Entry) : List LogLine :=
  (toldAt place Entry.effect? journal).filterMap Effect.line?

/-- What is told altogether is what the places tell, added up. -/
theorem sum_toldAt {α β : Type} (f : Entry → Option α) (g : α → Option β) {n : Nat}
    {journal : List Entry} (h : ∀ e ∈ journal, e.place < n) :
    (((journal.filterMap f).filterMap g : List β) : Multiset β)
      = ∑ p ∈ Finset.range n, (((toldAt p f journal).filterMap g : List β) : Multiset β) := by
  induction journal with
  | nil => exact (Finset.sum_const_zero).symm
  | cons e journal ih =>
    have hplace : e.place ∈ Finset.range n := Finset.mem_range.mpr (h e List.mem_cons_self)
    -- the first entry adds to the sum at its own place only
    have hhead : ∀ p, (((toldAt p f (e :: journal)).filterMap g : List β) : Multiset β)
        = (if p = e.place then (((f e).toList.filterMap g : List β) : Multiset β) else 0)
          + (((toldAt p f journal).filterMap g : List β) : Multiset β) := by
      intro p
      by_cases hp : e.place = p
      · rw [if_pos hp.symm, ← hp, toldAt_cons_self, List.filterMap_append, Multiset.coe_add]
      · rw [if_neg (Ne.symm hp), zero_add, toldAt, List.filterMap_cons, if_neg hp]
        rfl
    rw [Finset.sum_congr rfl fun p _ ↦ hhead p, Finset.sum_add_distrib,
      ← ih fun e' he' ↦ h e' (List.mem_cons_of_mem e he'), Finset.sum_ite_eq' _ e.place,
      if_pos hplace, Multiset.coe_add, ← List.filterMap_append]
    congr 2
    rw [List.filterMap_cons]
    cases f e <;> rfl

/-! ## No event lost, none duplicated -/

/-- What is told once in the effects for each answer is told once for each answer. -/
theorem TrackedAt.told_eq {l : TrackingLayer} {place : Nat} {journal : List Entry} {β : Type}
    (h : TrackedAt l place journal) {g : Effect → Option β} {f : Return → β}
    (hg : ∀ x, (l.effectsOf x).filterMap g = [f x]) :
    (toldAt place Entry.effect? journal).filterMap g
      = (toldAt place Entry.return? journal).map f := by
  rw [h.effects_eq]
  induction toldAt place Entry.return? journal with
  | nil => rfl
  | cons x xs ih =>
    rw [List.flatMap_cons, List.filterMap_append, ih, hg]
    rfl

theorem TrackedAt.offersAt_eq {l : TrackingLayer} {place : Nat} {journal : List Entry}
    (h : TrackedAt l place journal) {d : Dispatcher} (hd : l.dispatcher = some d) :
    offersAt place journal
      = (toldAt place Entry.return? journal).map fun x ↦ (d.collector.label, l.eventOf x) := by
  apply h.told_eq
  intro x
  rw [TrackingLayer.effectsOf, hd]
  rfl

theorem TrackedAt.linesAt_eq {l : TrackingLayer} {place : Nat} {journal : List Entry}
    (h : TrackedAt l place journal) {d : Dispatcher} (hd : l.dispatcher = some d) :
    linesAt place journal = (toldAt place Entry.return? journal).map l.lineOf := by
  apply h.told_eq
  intro x
  rw [TrackingLayer.effectsOf, hd]
  rfl

/-- What the log says when an event is submitted, of a response with so many octets. -/
def Tracking.Event.report (e : Event) (octets : Nat) : Level × String × List (String × Json) :=
  (.info, "Analytics tracking sent",
    [("path", .string e.path), ("method", .string e.method), ("status", .ofNat e.statusCode.toNat),
      ("duration_ms", .ofNat e.responseTimeMs.toNat), ("response_bytes", .ofNat octets)])

theorem Tracking.TrackingLayer.entry_lineOf (l : TrackingLayer) (x : Return) :
    (l.lineOf x).entry = (l.eventOf x).report x.response.body.length := rfl

/-- An inactive layer leaves no effects, and neither does one that no request came to. -/
theorem TrackedAt.effects_eq_nil {l : TrackingLayer} {place : Nat} {journal : List Entry}
    (h : TrackedAt l place journal)
    (hl : l.dispatcher = none ∨ toldAt place Entry.request? journal = []) :
    toldAt place Entry.effect? journal = [] := by
  rw [h.effects_eq]
  rcases hl with hnone | hnil
  · have heffects : l.effectsOf = fun _ ↦ [] := by
      funext x
      rw [TrackingLayer.effectsOf, hnone]
    rw [heffects]
    exact List.flatMap_eq_nil_iff.mpr fun _ _ ↦ rfl
  · rw [List.map_eq_nil_iff.mp (h.requests_eq.trans hnil), List.flatMap_nil]

/-- What a collector was handed, where the events for it come from one place only. -/
theorem handedTo_eq {label : String} {place : Nat} {journal : List Entry} {t : Timeline}
    (ht : t.handed = (journal.filterMap Entry.effect?).filterMap Effect.offer?)
    (hself : ∀ o ∈ offersAt place journal, o.1 = label)
    (hother : ∀ q ≠ place, ∀ o ∈ offersAt q journal, o.1 ≠ label) :
    t.handedTo label = (offersAt place journal).map Prod.snd := by
  rw [Timeline.handedTo, ht, offersAt, toldAt, List.filterMap_filterMap, List.filterMap_filterMap,
    List.filter_filterMap]
  congr 1
  refine List.filterMap_congr fun e he ↦ ?_
  -- an event for the collector comes from the place, and the place offers no others
  have hmem : ∀ o, e.effect?.bind Effect.offer? = some o → o ∈ offersAt e.place journal := by
    intro o ho
    rw [offersAt, toldAt, List.filterMap_filterMap]
    exact List.mem_filterMap.mpr ⟨e, he, by rw [if_pos rfl]; exact ho⟩
  cases ho : e.effect?.bind Effect.offer? with
  | none =>
    by_cases hplace : e.place = place
    · rw [if_pos hplace, ho]
      rfl
    · rw [if_neg hplace]
      rfl
  | some o =>
    by_cases hplace : e.place = place
    · have hlabel : o.1 = label := hself o (hplace ▸ hmem o ho)
      rw [if_pos hplace, ho, Option.filter_some, if_pos (decide_eq_true hlabel)]
    · have hlabel : o.1 ≠ label := hother e.place hplace o (hmem o ho)
      rw [if_neg hplace, Option.filter_some, if_neg (by simpa using hlabel)]
      rfl

/-- Every entry of a session stands at the place of a layer or at that of the handler. -/
theorem LayerStack.place_of_session {s : LayerStack} {h : Handler} {turns : List Turn} :
    ∀ e ∈ (s.session h turns).journal, e.place < s.size + 1 := by
  refine (Cumulative.forall_mem fun e ↦ e.place < s.size + 1).journal_session ?_ turns
  intro scene r e he
  have hplace := (place_of_mem he).2
  rw [Nat.zero_add] at hplace
  exact Nat.lt_succ_of_le hplace

/-- **No event is lost, none is duplicated.** For any session, once the background has settled:

* the events handed to collectors are, counted with multiplicity, those that the places of the
  stack offered, and so are the lines "Analytics tracking sent";
* every submission has ended or is under way, once, and one event was handed over for each, so no
  delivery was tried again;
* a tracking layer got one response for each request that came to it. If it is active it offered
  for each one event, to its collector, and logged one line at the level of information, with the
  event's path, method, status and time, and these are the events that the collector was handed
  unless others offer it events too. If it is not active, or no request came to it, it offered and
  logged nothing. -/
theorem events_neither_lost_nor_duplicated (s : LayerStack) (h : Handler) (turns : List Turn) :
    let journal := (s.session h turns).journal
    let t := (s.session h turns).timeline.settle
    (t.handed : Multiset (String × Event))
        = ∑ p ∈ Finset.range (s.size + 1), (offersAt p journal : Multiset (String × Event)) ∧
      (t.logs.filter fun l ↦ l.message = "Analytics tracking sent" : Multiset LogLine)
        = ∑ p ∈ Finset.range (s.size + 1), (linesAt p journal : Multiset LogLine) ∧
      (t.landings.map Landing.id ++ t.flights.map Flight.id : List Nat).Perm
        (List.range t.handed.length) ∧
      ∀ (p : Nat) (l : TrackingLayer), s.layers[p]? = some l.toLayer →
        let returns := toldAt p Entry.return? journal
        returns.map Return.request = toldAt p Entry.request? journal ∧
          (∀ d, l.dispatcher = some d →
            offersAt p journal = returns.map (fun x ↦ (d.collector.label, l.eventOf x)) ∧
              (linesAt p journal).map LogLine.entry
                = returns.map (fun x ↦ (l.eventOf x).report x.response.body.length) ∧
              ((∀ q ≠ p, ∀ o ∈ offersAt q journal, o.1 ≠ d.collector.label) →
                t.handedTo d.collector.label = returns.map l.eventOf)) ∧
          (l.dispatcher = none ∨ toldAt p Entry.request? journal = [] →
            offersAt p journal = [] ∧ linesAt p journal = []) := by
  intro journal t
  have hbalanced := s.balanced_session h turns
  have hplace : ∀ e ∈ journal, e.place < s.size + 1 := LayerStack.place_of_session
  have hhanded : t.handed = (journal.filterMap Entry.effect?).filterMap Effect.offer? := by
    rw [Timeline.handed_settle, hbalanced.ledger]
  have htracked : t.logs.filter (fun l ↦ l.message = "Analytics tracking sent")
      = (journal.filterMap Entry.effect?).filterMap Effect.line? := by
    have hledger := (Timeline.ledger_settle (s.session h turns).timeline).trans hbalanced.ledger
    rw [← funext LogLine.isTracked_eq]
    exact congrArg Timeline.Ledger.tracked hledger
  refine ⟨?_, ?_, ?_, ?_⟩
  · rw [hhanded]
    exact sum_toldAt _ _ hplace
  · rw [htracked]
    exact sum_toldAt _ _ hplace
  -- nothing waits any more, so the numbers are those of what ended or is under way
  · have hnumbered : t.Numbered := hbalanced.numbered.settle
    have hlength : t.handed.length = t.submitted := by
      rw [← hnumbered.length_offered, Timeline.handed_settle, Timeline.ledger_settle]
    have hnumbers := hnumbered.numbers_eq
    rw [Timeline.numbers, Timeline.waiting_settle, List.map_nil, Multiset.coe_nil, add_zero,
      Multiset.coe_add, Multiset.range, Multiset.coe_eq_coe] at hnumbers
    rw [hlength]
    exact hnumbers
  · intro p l hl returns
    have hat : TrackedAt l p journal :=
      TrackedAt.cumulative.journal_session (fun scene r ↦ TrackedAt.account hl h scene r) turns
    refine ⟨hat.requests_eq, ?_, ?_⟩
    · intro d hd
      have hoffers := hat.offersAt_eq hd
      have hlines : (linesAt p journal).map LogLine.entry
          = returns.map fun x ↦ (l.eventOf x).report x.response.body.length := by
        rw [hat.linesAt_eq hd, List.map_map]
        exact List.map_congr_left fun x _ ↦ l.entry_lineOf x
      refine ⟨hoffers, hlines, ?_⟩
      intro hother
      have hself : ∀ o ∈ offersAt p journal, o.1 = d.collector.label := by
        intro o ho
        rw [hoffers] at ho
        obtain ⟨x, -, rfl⟩ := List.mem_map.mp ho
        rfl
      rw [handedTo_eq hhanded hself hother, hoffers, List.map_map]
      rfl
    · intro hidle
      rw [offersAt, linesAt, hat.effects_eq_nil hidle]
      exact ⟨rfl, rfl⟩

/-- A dispatcher whose deliveries never end by themselves. -/
private def silentDispatcher : Dispatcher :=
  ⟨⟨"silent", fun _ _ ↦ ⟨none, .delivered⟩⟩, .ofMillis 5⟩

/-- A repeater around an inactive tracking layer around an active one. -/
private def repeatedStack : LayerStack :=
  ⟨[Layer.twice, (TrackingLayer.mk default none).toLayer,
    (TrackingLayer.mk default silentDispatcher).toLayer]⟩

/-- A request that a layer repeats is tracked twice by the active layer below, once for each
response and with a line for each, and not at all by the inactive one. -/
theorem repeated_request_tracked_twice :
    let x := repeatedStack.session (fun _ ↦ .done {}) [.request {}]
    x.timeline.settle.handedTo "silent" = (toldAt 2 Entry.return? x.journal).map
        (TrackingLayer.mk default silentDispatcher).eventOf ∧
      (x.timeline.settle.handedTo "silent").length = 2 ∧
      (linesAt 2 x.journal).map LogLine.entry = List.replicate 2 (.info, "Analytics tracking sent",
        [("path", .string "/"), ("method", .string "GET"), ("status", .ofNat 200),
          ("duration_ms", .ofNat 0), ("response_bytes", .ofNat 0)]) ∧
      offersAt 1 x.journal = [] ∧ linesAt 1 x.journal = [] := by
  have h := (events_neither_lost_nor_duplicated repeatedStack (fun _ ↦ .done {})
    [.request {}]).2.2.2
  have hother : ∀ q ≠ 2, ∀ o ∈ offersAt q
      (repeatedStack.session (fun _ ↦ .done {}) [.request {}]).journal, o.1 ≠ "silent" := by
    intro q hq o ho
    have hnone : ∀ e ∈ (repeatedStack.session (fun _ ↦ .done {}) [.request {}]).journal,
        e.place ≠ 2 → e.effect?.isNone := by decide
    obtain ⟨x, hx, -⟩ := List.mem_filterMap.mp ho
    obtain ⟨e, he, heffect⟩ := List.mem_filterMap.mp hx
    by_cases hplace : e.place = q
    · rw [if_pos hplace] at heffect
      have hisNone := hnone e he (hplace ▸ hq)
      rw [heffect] at hisNone
      exact absurd hisNone Bool.false_ne_true
    · rw [if_neg hplace] at heffect
      exact absurd heffect (Option.some_ne_none x).symm
  obtain ⟨-, hlines, hevents⟩ := (h 2 ⟨default, silentDispatcher⟩ rfl).2.1 silentDispatcher rfl
  have hevents := hevents hother
  refine ⟨hevents, ?_, hlines.trans rfl, (h 1 ⟨default, none⟩ rfl).2.2 (Or.inl rfl)⟩
  exact (congrArg List.length hevents).trans rfl

end RequestTelemetry
