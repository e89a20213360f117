import RequestTelemetry.Chain.Stack
import RequestTelemetry.Chain.Timeline

/-!
# Journals of chains

Executing a stack gives one activity, in which nothing tells any more which layer did what. A
journal keeps that apart: it is a run of the chain in a scene, with the clock and the memory alone,
and it notes for every place which requests came to it, how long it waited, which effects it left
and which responses it got back. The outermost layer has place 0 and the handler the place after the
innermost layer.

A scene has no background, so no delivery can be part of a journal. That a journal tells the truth
is `tells_account`: replaying it on a timeline is the same as running the stack there. A statement
about a chain can thus be proved in two halves, one by induction over the stack and its layers,
which is about journals only, and one about what replaying does, which is about the background only.
-/

namespace RequestTelemetry

open Http Tracking

/-- What an activity can read: the clock, and what layers and the handler keep. -/
structure Scene where
  now : Moment
  memory : Memory

namespace Scene

/-- The scene after a wait. -/
def wait (s : Scene) (d : Duration) : Scene := { s with now := wakeUp s.now d }

/-- The scene after an effect. -/
def perform (s : Scene) : Effect → Scene
  | .keep name value => { s with memory := s.memory.keep name value }
  | _ => s

end Scene

/-- What happened at a place of a chain. -/
inductive Note where
  /-- A request came to the place. -/
  | received (r : Request)
  /-- The place waited. -/
  | paused (d : Duration)
  /-- The place left an effect. -/
  | did (e : Effect)
  /-- What the place had handed on at a moment was answered from below. -/
  | answered (r : Request) (sent : Moment) (response : Response)

/-- A note with its place and moment. -/
structure Entry where
  place : Nat
  moment : Moment
  note : Note

/-- What came back to a place: the request it had handed on and when, the response and when. -/
structure Return where
  request : Request
  sent : Moment
  response : Response
  back : Moment

/-- The request that an entry brings to its place. -/
def Entry.request? (e : Entry) : Option Request :=
  match e.note with
  | .received r => some r
  | _ => none

/-- What an entry brings back to its place. -/
def Entry.return? (e : Entry) : Option Return :=
  match e.note with
  | .answered r sent response => some ⟨r, sent, response, e.moment⟩
  | _ => none

/-- The effect that an entry tells of. -/
def Entry.effect? (e : Entry) : Option Effect :=
  match e.note with
  | .did x => some x
  | _ => none

/-- What an entry shows an observer of the chain. -/
def Entry.sighting? (e : Entry) : Option (Moment × Sighting) :=
  match e.note with
  | .did (.sight s) => some (e.moment, s)
  | _ => none

/-- What the entries of one place tell, in order. -/
def toldAt {α : Type} (place : Nat) (f : Entry → Option α) (journal : List Entry) : List α :=
  journal.filterMap fun e ↦ if e.place = place then f e else none

/-- How a run came out in a scene: its result, the scene at its end, and its journal. -/
structure Account (α : Type) where
  result : α
  scene : Scene
  journal : List Entry

namespace Account

variable {α : Type}

/-- The account with entries before its own. -/
def after (entries : List Entry) (a : Account α) : Account α :=
  { a with journal := entries ++ a.journal }

@[simp] theorem result_after (entries : List Entry) (a : Account α) :
    (a.after entries).result = a.result := rfl

@[simp] theorem scene_after (entries : List Entry) (a : Account α) :
    (a.after entries).scene = a.scene := rfl

@[simp] theorem journal_after (entries : List Entry) (a : Account α) :
    (a.after entries).journal = entries ++ a.journal := rfl

end Account

/-! ## Running in a scene -/

/-- The run of an activity at a place. -/
def Activity.account {α : Type} (place : Nat) : Scene → Activity α → Account α
  | s, done a => ⟨a, s, []⟩
  | s, wait d rest => (rest.account place (s.wait d)).after [⟨place, s.now, .paused d⟩]
  | s, clock rest => (rest s.now).account place s
  | s, fetch name rest => (rest (s.memory name)).account place s
  | s, act e rest => (rest.account place (s.perform e)).after [⟨place, s.now, .did e⟩]

/-- The run of a layer's activity at a place, with a run of what is below it. -/
def Step.account {α : Type} (place : Nat) (below : Scene → Request → Account Response) :
    Scene → Step α → Account α
  | s, done a => ⟨a, s, []⟩
  | s, wait d rest => (rest.account place below (s.wait d)).after [⟨place, s.now, .paused d⟩]
  | s, clock rest => (rest s.now).account place below s
  | s, fetch name rest => (rest (s.memory name)).account place below s
  | s, act e rest => (rest.account place below (s.perform e)).after [⟨place, s.now, .did e⟩]
  | s, next r rest =>
    let inner := below s r
    ((rest inner.result).account place below inner.scene).after
      (inner.journal ++ [⟨place, inner.scene.now, .answered r s.now inner.result⟩])

/-- The run of layers around a handler, the outermost at a place. -/
def accountFrom (h : Handler) : Nat → List Layer → Scene → Request → Account Response
  | place, [], s, r => ((h r).account place s).after [⟨place, s.now, .received r⟩]
  | place, l :: layers, s, r =>
    ((l.call r).account place (accountFrom h (place + 1) layers) s).after
      [⟨place, s.now, .received r⟩]

/-- The run of a stack around a handler. -/
def LayerStack.account (stack : LayerStack) (h : Handler) (s : Scene) (r : Request) :
    Account Response :=
  accountFrom h 0 stack.layers s r

/-! ## Properties of journals

A property of journals that passes to concatenations holds of a whole run if it holds of every
entry that a place makes and of everything below. A property that concerns one place only has to be
shown where the layer at that place runs. -/

/-- A property of journals that passes to concatenations. -/
structure Cumulative (P : List Entry → Prop) : Prop where
  nil : P []
  append : ∀ {first second : List Entry}, P first → P second → P (first ++ second)

namespace Cumulative

variable {P : List Entry → Prop}

theorem cons (hP : Cumulative P) {e : Entry} {journal : List Entry} (he : P [e])
    (h : P journal) : P (e :: journal) :=
  hP.append he h

/-- What holds of every entry is a cumulative property. -/
theorem forall_mem (p : Entry → Prop) : Cumulative fun journal ↦ ∀ e ∈ journal, p e where
  nil := fun _ he ↦ absurd he List.not_mem_nil
  append := fun h₁ h₂ e he ↦ (List.mem_append.mp he).elim (h₁ e) (h₂ e)

theorem journal_activity (hP : Cumulative P) {α : Type} {place : Nat}
    (hown : ∀ t note, P [⟨place, t, note⟩]) (x : Activity α) (s : Scene) :
    P (x.account place s).journal := by
  induction x generalizing s with
  | done a => exact hP.nil
  | wait d rest ih => exact hP.cons (hown _ _) (ih _)
  | clock rest ih => exact ih _ s
  | fetch name rest ih => exact ih _ s
  | act e rest ih => exact hP.cons (hown _ _) (ih _)

theorem journal_step (hP : Cumulative P) {α : Type} {place : Nat}
    {below : Scene → Request → Account Response} (hown : ∀ t note, P [⟨place, t, note⟩])
    (hbelow : ∀ s r, P (below s r).journal) (x : Step α) (s : Scene) :
    P (x.account place below s).journal := by
  induction x generalizing s with
  | done a => exact hP.nil
  | wait d rest ih => exact hP.cons (hown _ _) (ih _)
  | clock rest ih => exact ih _ s
  | fetch name rest ih => exact ih _ s
  | act e rest ih => exact hP.cons (hown _ _) (ih _)
  | next r rest ih => exact hP.append (hP.append (hbelow s r) (hown _ _)) (ih _ _)

theorem journal_from (hP : Cumulative P) {place : Nat} (h : Handler) {layers : List Layer}
    (hown : ∀ e : Entry, place ≤ e.place → e.place ≤ place + layers.length → P [e]) (s : Scene)
    (r : Request) : P (accountFrom h place layers s r).journal := by
  have hhere : ∀ t note, P [⟨place, t, note⟩] :=
    fun t note ↦ hown _ (Nat.le_refl _) (Nat.le_add_right _ _)
  induction layers generalizing place s r with
  | nil => exact hP.cons (hhere _ _) (hP.journal_activity hhere _ s)
  | cons l layers ih =>
    have hown' : ∀ e : Entry, place + 1 ≤ e.place → e.place ≤ place + 1 + layers.length →
        P [e] := by
      intro e hle hlength
      exact hown e (Nat.le_of_succ_le hle) (by rw [List.length_cons]; omega)
    -- what is below the layer starts one place further in
    refine hP.cons (hhere _ _) (hP.journal_step hhere (fun s r ↦ ?_) _ s)
    exact ih hown' s r fun t note ↦ hown' _ (Nat.le_refl _) (Nat.le_add_right _ _)

end Cumulative

/-- Every entry stands at the place of a layer or at that of the handler. -/
theorem place_of_mem {h : Handler} {place : Nat} {layers : List Layer} {s : Scene}
    {r : Request} {e : Entry} (he : e ∈ (accountFrom h place layers s r).journal) :
    place ≤ e.place ∧ e.place ≤ place + layers.length := by
  have hcumulative :=
    Cumulative.forall_mem fun e ↦ place ≤ e.place ∧ e.place ≤ place + layers.length
  refine hcumulative.journal_from h ?_ s r e he
  intro e hle hlength e' he'
  rw [List.mem_singleton.mp he']
  exact ⟨hle, hlength⟩

section ToldAt

variable {α : Type} {place : Nat} {f : Entry → Option α}

@[simp] theorem toldAt_append (first second : List Entry) :
    toldAt place f (first ++ second) = toldAt place f first ++ toldAt place f second :=
  List.filterMap_append

theorem toldAt_cons_self (t : Moment) (note : Note) (journal : List Entry) :
    toldAt place f (⟨place, t, note⟩ :: journal)
      = (f ⟨place, t, note⟩).toList ++ toldAt place f journal := by
  rw [toldAt, List.filterMap_cons, if_pos rfl]
  cases f ⟨place, t, note⟩ <;> rfl

/-- Other places tell nothing of a place. -/
theorem toldAt_eq_nil {journal : List Entry} (h : ∀ e ∈ journal, e.place ≠ place) :
    toldAt place f journal = [] :=
  List.filterMap_eq_nil_iff.mpr fun e he ↦ if_neg (h e he)

/-- A chain tells nothing of a place above it. -/
theorem toldAt_accountFrom_eq_nil {first : Nat} (hlt : place < first) (h : Handler)
    (layers : List Layer) (s : Scene) (r : Request) :
    toldAt place f (accountFrom h first layers s r).journal = [] :=
  toldAt_eq_nil fun _ he ↦ Nat.ne_of_gt (Nat.lt_of_lt_of_le hlt (place_of_mem he).1)

end ToldAt

/-- A cumulative property that concerns the place of one layer only holds of a chain if it holds
where that layer runs, with anything below it that stays below. -/
theorem Cumulative.journal_at {P : List Entry → Prop} (hP : Cumulative P) (h : Handler)
    {l : Layer} {place : Nat} {layers : List Layer} {i : Nat} (hl : layers[i]? = some l)
    (hother : ∀ e : Entry, e.place ≠ place + i → P [e])
    (hself : ∀ (below : Scene → Request → Account Response) (s : Scene) (r : Request),
      (∀ s r, ∀ e ∈ (below s r).journal, place + i < e.place) →
        P (((l.call r).account (place + i) below s).after
          [⟨place + i, s.now, .received r⟩]).journal)
    (s : Scene) (r : Request) : P (accountFrom h place layers s r).journal := by
  induction layers generalizing place i s r with
  | nil => simp at hl
  | cons a layers ih =>
    -- the layer in question is the outermost one, or it is among those below
    cases i with
    | zero =>
      obtain rfl : a = l := Option.some.inj hl
      exact hself _ s r fun _ _ _ he ↦ (place_of_mem he).1
    | succ i =>
      have hown : ∀ t note, P [⟨place, t, note⟩] := fun t note ↦ hother _ (by simp only; omega)
      refine hP.cons (hown _ _) (hP.journal_step hown (fun s r ↦ ?_) _ s)
      refine ih (by simpa using hl) ?_ ?_ s r
      · rw [Nat.add_right_comm]
        exact hother
      · rw [Nat.add_right_comm]
        exact hself

/-! ## What deliveries leave alone -/

namespace Timeline

/-- The part of a timeline that the background does not touch. -/
structure Foreground where
  scene : Scene
  background : Bool
  sightings : List (Moment × Sighting)
  submitted : Nat

/-- The scene of a timeline. -/
def scene (t : Timeline) : Scene := ⟨t.now, t.memory⟩

/-- The foreground of a timeline. -/
def foreground (t : Timeline) : Foreground := ⟨t.scene, t.background, t.sightings, t.submitted⟩

@[simp] theorem foreground_land (t : Timeline) (f : Flight) :
    (t.land f).foreground = t.foreground := rfl

theorem foreground_foldl {β : Type} {step : Timeline → β → Timeline}
    (h : ∀ t b, (step t b).foreground = t.foreground) (t : Timeline) (bs : List β) :
    (bs.foldl step t).foreground = t.foreground := by
  induction bs generalizing t with
  | nil => rfl
  | cons b bs ih => rw [List.foldl_cons, ih, h]

@[simp] theorem foreground_landWhere (t : Timeline) (due : Moment → Bool) :
    (t.landWhere due).foreground = t.foreground := by
  rw [landWhere, foreground_foldl foreground_land]
  rfl

/-- The timeline after an event was handed to its collector. -/
def handOver (t : Timeline) (s : Submission) : Timeline :=
  { t with handed := t.handed ++ [(s.dispatcher.collector.label, s.event)] }

/-- The delivery of a submitted event, if it is handed to its collector now. -/
def flightOf (t : Timeline) (s : Submission) : Flight :=
  let collector := s.dispatcher.collector
  let outcome := (collector.attempt (t.handedTo collector.label) s.event).settle
    s.dispatcher.timeout t.now
  ⟨s.id, s.event, outcome.1, outcome.2⟩

/-- What a departure does: it hands the event over, and the delivery ends if it is due. -/
theorem depart_eq (t : Timeline) (s : Submission) :
    t.depart s = if (t.flightOf s).due ≤ t.now then (t.handOver s).land (t.flightOf s)
      else { t.handOver s with flights := insertFlight (t.flightOf s) t.flights } := rfl

/-- After a departure the delivery has ended or is under way. -/
theorem depart_cases (t : Timeline) (s : Submission) :
    ∃ f : Flight, f.id = s.id ∧ f.event = s.event ∧
      (t.depart s = (t.handOver s).land f ∨
        t.depart s = { t.handOver s with flights := insertFlight f t.flights }) := by
  refine ⟨t.flightOf s, rfl, rfl, ?_⟩
  rw [depart_eq]
  split
  · exact Or.inl rfl
  · exact Or.inr rfl

@[simp] theorem foreground_depart (t : Timeline) (s : Submission) :
    (t.depart s).foreground = t.foreground := by
  obtain ⟨f, -, -, h | h⟩ := t.depart_cases s
  · rw [h]
    rfl
  · rw [h]
    rfl

@[simp] theorem foreground_settle (t : Timeline) : t.settle.foreground = t.foreground := by
  rw [settle, foreground_foldl foreground_depart]
  exact foreground_landWhere t _

theorem foreground_passUntil (t : Timeline) (moment : Moment) :
    (t.passUntil moment).foreground
      = { t.foreground with scene := { t.foreground.scene with now := moment } } := by
  -- time passes only after the landings that are due before the moment
  have h : (t.settle.landWhere (· < moment)).foreground = t.foreground := by
    rw [foreground_landWhere, foreground_settle]
  rw [← h]
  rfl

theorem foreground_wait (t : Timeline) (d : Duration) :
    (t.wait d).foreground = { t.foreground with scene := t.scene.wait d } := by
  rw [wait, Scene.wait]
  split
  · next hover =>
    rw [show wakeUp t.scene.now d = t.now from Nat.le_antisymm hover (le_wakeUp t.now d)]
    rfl
  · rw [foreground_passUntil]
    rfl

@[simp] theorem scene_wait (t : Timeline) (d : Duration) : (t.wait d).scene = t.scene.wait d :=
  congrArg Foreground.scene (foreground_wait t d)

@[simp] theorem sightings_wait (t : Timeline) (d : Duration) :
    (t.wait d).sightings = t.sightings :=
  congrArg Foreground.sightings (foreground_wait t d)

@[simp] theorem background_wait (t : Timeline) (d : Duration) :
    (t.wait d).background = t.background :=
  congrArg Foreground.background (foreground_wait t d)

@[simp] theorem scene_perform (t : Timeline) (e : Effect) :
    (t.perform e).scene = t.scene.perform e := by
  cases e with
  | sight s => rfl
  | keep name value => rfl
  | log line => rfl
  | submit d e => rw [perform, submit]; split <;> rfl

@[simp] theorem background_perform (t : Timeline) (e : Effect) :
    (t.perform e).background = t.background := by
  cases e with
  | sight s => rfl
  | keep name value => rfl
  | log line => rfl
  | submit d e => rw [perform, submit]; split <;> rfl

/-! ## Replaying -/

/-- Does what an entry tells of. -/
def follow (t : Timeline) (e : Entry) : Timeline :=
  match e.note with
  | .paused d => t.wait d
  | .did x => t.perform x
  | _ => t

/-- Does what a journal tells of. -/
def replay (t : Timeline) (journal : List Entry) : Timeline := journal.foldl follow t

@[simp] theorem replay_nil (t : Timeline) : t.replay [] = t := rfl

@[simp] theorem replay_cons (t : Timeline) (e : Entry) (journal : List Entry) :
    t.replay (e :: journal) = (t.follow e).replay journal := rfl

theorem replay_append (t : Timeline) (first second : List Entry) :
    t.replay (first ++ second) = (t.replay first).replay second :=
  List.foldl_append

@[simp] theorem background_follow (t : Timeline) (e : Entry) :
    (t.follow e).background = t.background := by
  rw [follow]
  split
  · exact background_wait _ _
  · exact background_perform _ _
  · rfl

@[simp] theorem background_replay (t : Timeline) (journal : List Entry) :
    (t.replay journal).background = t.background := by
  induction journal generalizing t with
  | nil => rfl
  | cons e journal ih => rw [replay_cons, ih, background_follow]

end Timeline

/-! ## The journal tells the truth -/

/-- An account tells of an activity on a timeline: the result and the last scene are those of the
activity, the journal says what it did to the timeline, and in it stands, with the right moments,
what was seen. -/
structure Account.Tells {α : Type} (a : Account α) (t : Timeline) (x : Activity α) : Prop where
  run_eq : t.run x = (a.result, t.replay a.journal)
  scene_eq : (t.replay a.journal).scene = a.scene
  sightings_eq : (t.replay a.journal).sightings = t.sightings ++ a.journal.filterMap Entry.sighting?

namespace Account.Tells

variable {α β : Type} {t : Timeline}

/-- The end of an activity. -/
theorem done (t : Timeline) (a : α) : Tells ⟨a, t.scene, []⟩ t (.done a) where
  run_eq := rfl
  scene_eq := rfl
  sightings_eq := by rw [List.filterMap_nil, List.append_nil]; rfl

/-- A wait before an activity. -/
theorem wait {a : Account α} {x : Activity α} (place : Nat) (d : Duration)
    (h : a.Tells (t.wait d) x) :
    (a.after [⟨place, t.now, .paused d⟩]).Tells t (.wait d x) where
  run_eq := h.run_eq
  scene_eq := h.scene_eq
  sightings_eq := h.sightings_eq.trans (by rw [Timeline.sightings_wait]; rfl)

/-- A look at the clock before an activity. -/
theorem clock {a : Account α} {rest : Moment → Activity α} (h : a.Tells t (rest t.now)) :
    a.Tells t (.clock rest) where
  run_eq := h.run_eq
  scene_eq := h.scene_eq
  sightings_eq := h.sightings_eq

/-- A look into the memory before an activity. -/
theorem fetch {a : Account α} {name : String} {rest : Json → Activity α}
    (h : a.Tells t (rest (t.memory name))) : a.Tells t (.fetch name rest) where
  run_eq := h.run_eq
  scene_eq := h.scene_eq
  sightings_eq := h.sightings_eq

/-- An effect before an activity. -/
theorem act {a : Account α} {x : Activity α} (place : Nat) (e : Effect)
    (h : a.Tells (t.perform e) x) :
    (a.after [⟨place, t.now, .did e⟩]).Tells t (.act e x) where
  run_eq := h.run_eq
  scene_eq := h.scene_eq
  sightings_eq := by
    refine h.sightings_eq.trans ?_
    cases e with
    | sight s =>
      show t.sightings ++ [(t.now, s)] ++ _ = _
      rw [List.append_assoc]
      rfl
    | keep name value => rfl
    | log line => rfl
    | submit d e =>
      have hs : (t.submit d e).sightings = t.sightings := by rw [Timeline.submit]; split <;> rfl
      rw [Timeline.perform, hs]
      rfl

/-- A note that tells of no effect. -/
theorem received {a : Account α} {x : Activity α} (place : Nat) (r : Request) (h : a.Tells t x) :
    (a.after [⟨place, t.now, .received r⟩]).Tells t x where
  run_eq := h.run_eq
  scene_eq := h.scene_eq
  sightings_eq := h.sightings_eq

/-- One activity after another, with a note between the two. -/
theorem bind {a : Account α} {x : Activity α} {f : α → Activity β} {b : Account β}
    (place : Nat) (r : Request) (sent : Moment) (response : Response) (h : a.Tells t x)
    (hb : b.Tells (t.replay a.journal) (f a.result)) :
    (b.after (a.journal ++ [⟨place, a.scene.now, .answered r sent response⟩])).Tells t
      (x.bind f) := by
  -- the note between the two does nothing when it is replayed
  have hreplay : t.replay
      (a.journal ++ [⟨place, a.scene.now, .answered r sent response⟩] ++ b.journal)
        = (t.replay a.journal).replay b.journal := by
    rw [Timeline.replay_append, Timeline.replay_append]
    rfl
  refine ⟨?_, ?_, ?_⟩
  · rw [Timeline.run_bind, h.run_eq, hb.run_eq, Account.journal_after, hreplay]
    rfl
  · rw [Account.journal_after, hreplay]
    exact hb.scene_eq
  · rw [Account.journal_after, hreplay, hb.sightings_eq, h.sightings_eq, List.filterMap_append,
      List.filterMap_append, List.append_assoc, List.append_assoc]
    rfl

end Account.Tells

theorem Activity.tells_account {α : Type} (place : Nat) (x : Activity α) (t : Timeline) :
    (x.account place t.scene).Tells t x := by
  induction x generalizing t with
  | done a => exact .done t a
  | wait d rest ih =>
    have h := ih (t.wait d)
    rw [Timeline.scene_wait] at h
    exact .wait place d h
  | clock rest ih => exact .clock (ih t.now t)
  | fetch name rest ih => exact .fetch (ih (t.memory name) t)
  | act e rest ih =>
    have h := ih (t.perform e)
    rw [Timeline.scene_perform] at h
    exact .act place e h

theorem Step.tells_account {α : Type} (place : Nat) {below : Scene → Request → Account Response}
    {h : Handler} (hbelow : ∀ (t : Timeline) (r : Request), (below t.scene r).Tells t (h r))
    (x : Step α) (t : Timeline) : (x.account place below t.scene).Tells t (x.run h) := by
  induction x generalizing t with
  | done a => exact .done t a
  | wait d rest ih =>
    have h := ih (t.wait d)
    rw [Timeline.scene_wait] at h
    exact .wait place d h
  | clock rest ih => exact .clock (ih t.now t)
  | fetch name rest ih => exact .fetch (ih (t.memory name) t)
  | act e rest ih =>
    have h := ih (t.perform e)
    rw [Timeline.scene_perform] at h
    exact .act place e h
  | next r rest ih =>
    -- what is below moves the timeline on, and the rest of the layer starts there
    have hb := hbelow t r
    refine .bind place r t.now _ hb ?_
    have hrest := ih (below t.scene r).result (t.replay (below t.scene r).journal)
    rw [hb.scene_eq] at hrest
    exact hrest

theorem tells_accountFrom (h : Handler) (layers : List Layer) (place : Nat) (t : Timeline)
    (r : Request) :
    (accountFrom h place layers t.scene r).Tells t (layers.foldr Layer.wrap h r) := by
  induction layers generalizing place t r with
  | nil => exact .received place r ((h r).tells_account place t)
  | cons l layers ih =>
    exact .received place r ((l.call r).tells_account place (ih (place + 1)) t)

/-- The account of a stack tells of its execution. -/
theorem LayerStack.tells_account (stack : LayerStack) (h : Handler) (t : Timeline) (r : Request) :
    (stack.account h t.scene r).Tells t (stack.execute h r) :=
  tells_accountFrom h stack.layers 0 t r

end RequestTelemetry
