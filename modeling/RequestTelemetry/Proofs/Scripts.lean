import RequestTelemetry.Proofs.EventContent
import RequestTelemetry.Proofs.Glimpses
import RequestTelemetry.Proofs.TelemetryView

/-!
# What telemetry is told to do

The *script* of a session lists what it makes telemetry do, with the moments: the effects about
telemetry, and where the background settles. With a tracking layer at some place, the script is what
the observations of the layer make of it: of a glimpse its line and its event, and of what other
places do the same.

A property of a timeline and the script so far holds throughout a session if deeds and waits keep
it, because everything else leaves the clock and telemetry alone; this is `Timeline.Kept`. So the
telemetry of a session is at any time what carrying out its script leaves, with nothing in between
but time that passes.
-/

namespace RequestTelemetry

open Http Tracking

/-! ## Scripts -/

/-- What telemetry is told to do. -/
inductive Deed where
  /-- An effect about telemetry. -/
  | effect (e : Effect)
  /-- The background settles. -/
  | settle

/-- The deed in an entry: its effect, if that is about telemetry. -/
def Entry.deed? (e : Entry) : Option Deed :=
  (e.effect?.filter Effect.isTelemetry).map .effect

/-- What the entries of a journal tell, with their moments, if it starts now. -/
def datedFrom {α : Type} (tell : Entry → Option α) : Moment → List Entry → List (Moment × α)
  | _, [] => []
  | now, e :: journal =>
    ((tell e).map fun x ↦ (now, x)).toList ++ datedFrom tell (e.clock now) journal

theorem datedFrom_singleton {α : Type} (tell : Entry → Option α) (now : Moment) (e : Entry) :
    datedFrom tell now [e] = ((tell e).map fun x ↦ (now, x)).toList :=
  List.append_nil _

theorem datedFrom_append {α : Type} (tell : Entry → Option α) (now : Moment)
    (first second : List Entry) :
    datedFrom tell now (first ++ second)
      = datedFrom tell now first ++ datedFrom tell (first.foldl Entry.clock now) second := by
  induction first generalizing now with
  | nil => rfl
  | cons e first ih =>
    rw [List.cons_append, datedFrom, ih, datedFrom, List.append_assoc]
    rfl

namespace Timeline

/-- Does a deed. -/
def obey (t : Timeline) : Deed → Timeline
  | .effect e => t.perform e
  | .settle => t.settle

theorem now_obey (t : Timeline) (x : Deed) : (t.obey x).now = t.now := by
  cases x with
  | effect e =>
    refine (congrArg Scene.now (scene_perform t e)).trans ?_
    cases e <;> rfl
  | settle => exact now_settle t

theorem Ordered.obey {t : Timeline} (h : t.Ordered) (x : Deed) : (t.obey x).Ordered := by
  cases x with
  | effect e => exact h.perform e
  | settle => exact h.settle

/-- What is kept, of a timeline and the script so far, by all that goes on in a session. -/
structure Kept (P : Timeline → List (Moment × Deed) → Prop) : Prop where
  of_eq : ∀ {t t' : Timeline} {script : List (Moment × Deed)}, P t script →
    t'.now = t.now → t'.telemetry = t.telemetry → P t' script
  wait : ∀ {t : Timeline} {script : List (Moment × Deed)}, P t script →
    ∀ d, P (t.wait d) script
  obey : ∀ {t t' : Timeline} {script : List (Moment × Deed)}, P t script →
    ∀ x, t'.now = t.now → t'.telemetry = t.telemetry.obey x → P t' (script ++ [(t.now, x)])

namespace Kept

variable {P : Timeline → List (Moment × Deed) → Prop} {t : Timeline}
  {script : List (Moment × Deed)}

theorem follow (hP : Kept P) (h : P t script) (e : Entry) :
    P (t.follow e) (script ++ datedFrom Entry.deed? t.now [e]) := by
  obtain ⟨place, moment, note⟩ := e
  have hnil : P t (script ++ []) := by
    rw [List.append_nil]
    exact h
  cases note with
  | received r => exact hnil
  | paused d =>
    rw [show script ++ datedFrom Entry.deed? t.now [⟨place, moment, .paused d⟩] = script from
      List.append_nil script]
    exact hP.wait h d
  | did x =>
    have hnow : (t.perform x).now = t.now := now_obey t (.effect x)
    have htelemetry := telemetry_perform t x
    by_cases hx : x.isTelemetry
    · have hscript : datedFrom Entry.deed? t.now [⟨place, moment, .did x⟩]
          = [(t.now, .effect x)] := by
        simp [datedFrom_singleton, Entry.deed?, Entry.effect?, hx]
      rw [if_pos hx] at htelemetry
      rw [hscript]
      exact hP.obey h (.effect x) hnow htelemetry
    · have hscript : datedFrom Entry.deed? t.now [⟨place, moment, .did x⟩] = [] := by
        simp [datedFrom_singleton, Entry.deed?, Entry.effect?, hx]
      rw [if_neg hx] at htelemetry
      rw [hscript]
      exact hP.of_eq hnil hnow htelemetry
  | answered r sent response => exact hnil

/-- A journal adds its own script. -/
theorem replay (hP : Kept P) (h : P t script) (journal : List Entry) :
    P (t.replay journal) (script ++ datedFrom Entry.deed? t.now journal) := by
  induction journal generalizing t script with
  | nil =>
    rw [show script ++ datedFrom Entry.deed? t.now [] = script from List.append_nil script]
    exact h
  | cons e journal ih =>
    have hrest := ih (hP.follow h e)
    rw [now_follow, List.append_assoc] at hrest
    rw [replay_cons, datedFrom, ← datedFrom_singleton]
    exact hrest

end Kept
end Timeline

/-! ## Observations -/

/-- What can matter to telemetry, as a tracking layer sees it. -/
inductive Observation where
  /-- A response came back to the layer. -/
  | returned (g : Glimpse)
  /-- Another place left an effect about telemetry. -/
  | effect (e : Effect)
  /-- The background settled. -/
  | settled

/-- What an entry lets the layer at a place see. -/
def Entry.observation? (place : Nat) (e : Entry) : Option Observation :=
  if e.place = place then e.return?.map fun x ↦ .returned x.glimpse
  else (e.effect?.filter Effect.isTelemetry).map .effect

/-- What becomes of an observation, if the layer is there. -/
def Tracking.TrackingLayer.deeds (l : TrackingLayer) (x : Moment × Observation) :
    List (Moment × Deed) :=
  match x.2 with
  | .returned g => (l.effectsFor g).map fun e ↦ (x.1, .effect e)
  | .effect e => [(x.1, .effect e)]
  | .settled => [(x.1, .settle)]

/-- The script of a journal is what its observations make of it, if a tracking layer is at the
place. -/
def Scripted (l : TrackingLayer) (place : Nat) (journal : List Entry) : Prop :=
  ∀ now, datedFrom Entry.deed? now journal
    = (datedFrom (Entry.observation? place) now journal).flatMap l.deeds

namespace Scripted

variable {l : TrackingLayer} {place : Nat}

theorem cumulative : Cumulative (Scripted l place) where
  nil := fun _ ↦ rfl
  append := by
    intro first second hfirst hsecond now
    rw [datedFrom_append, datedFrom_append, List.flatMap_append, hfirst, hsecond]

/-- What other places do is observed as it is. -/
theorem of_other {journal : List Entry} (h : ∀ e ∈ journal, e.place ≠ place) :
    Scripted l place journal := by
  induction journal with
  | nil => exact cumulative.nil
  | cons e journal ih =>
    have hobserved : e.observation? place = (e.effect?.filter Effect.isTelemetry).map .effect :=
      if_neg (h e List.mem_cons_self)
    refine cumulative.cons (fun now ↦ ?_) (ih fun e' he' ↦ h e' (List.mem_cons_of_mem e he'))
    rw [datedFrom_singleton, datedFrom_singleton, hobserved, Entry.deed?]
    cases e.effect?.filter Effect.isTelemetry <;> rfl

/-- The effects for a glimpse are all about telemetry. -/
theorem isTelemetry_of_mem {g : Glimpse} {e : Effect} (he : e ∈ l.effectsFor g) :
    e.isTelemetry := by
  rw [TrackingLayer.effectsFor] at he
  cases hd : l.dispatcher with
  | none => simp [hd] at he
  | some d =>
    rw [hd] at he
    rcases List.mem_cons.mp he with rfl | he
    · rfl
    · rw [List.mem_singleton.mp he]
      rfl

/-- Effects at the place of the layer are in the script, and are not observed. -/
theorem script_effects (place : Nat) {effects : List Effect}
    (h : ∀ e ∈ effects, e.isTelemetry) (t now : Moment) :
    let journal := effects.map fun e ↦ (⟨place, t, .did e⟩ : Entry)
    datedFrom Entry.deed? now journal = effects.map (fun e ↦ (now, .effect e)) ∧
      datedFrom (Entry.observation? place) now journal = [] := by
  induction effects with
  | nil => exact ⟨rfl, rfl⟩
  | cons e effects ih =>
    obtain ⟨hscript, hobserved⟩ := ih fun e' he' ↦ h e' (List.mem_cons_of_mem e he')
    have he : e.isTelemetry := h e List.mem_cons_self
    constructor
    · rw [List.map_cons, List.map_cons, ← hscript, datedFrom, Entry.deed?, Entry.effect?,
        Option.filter_some, if_pos he]
      rfl
    · rw [List.map_cons, datedFrom, Entry.observation?, if_pos rfl]
      exact hobserved

/-- What comes back to the layer is observed, and its effects follow at the same moment. -/
theorem account_call (l : TrackingLayer) (place : Nat)
    {below : Scene → Request → Account Response} (s : Scene) (r : Request)
    (hbelow : ∀ e ∈ (below s r).journal, place < e.place) :
    Scripted l place (((l.call r).account place below s).after
      [⟨place, s.now, .received r⟩]).journal := by
  let x : Return := ⟨r, s.now, (below s r).result, (below s r).scene.now⟩
  have hreceived : Scripted l place [⟨place, s.now, .received r⟩] := by
    intro now
    rw [datedFrom_singleton, datedFrom_singleton, Entry.observation?, if_pos rfl]
    rfl
  have hinner : Scripted l place (below s r).journal :=
    of_other fun e he ↦ Nat.ne_of_gt (hbelow e he)
  have hanswered : Scripted l place (⟨place, x.back, .answered r s.now x.response⟩ ::
      (l.effectsOf x).map fun e ↦ ⟨place, x.back, .did e⟩) := by
    intro now
    rw [l.effectsOf_eq]
    have htelemetry : ∀ e ∈ l.effectsFor x.glimpse, e.isTelemetry :=
      fun _ he ↦ isTelemetry_of_mem he
    obtain ⟨hscript, hobserved⟩ := script_effects place htelemetry x.back now
    rw [datedFrom, datedFrom, Entry.observation?, if_pos rfl]
    refine hscript.trans ?_
    change _ = ((now, .returned x.glimpse) ::
      datedFrom (Entry.observation? place) now _).flatMap l.deeds
    rw [hobserved, List.flatMap_singleton]
    rfl
  rw [Account.journal_after, TrackingLayer.account_call]
  exact cumulative.append hreceived (cumulative.append hinner hanswered)

/-- A tracking layer in a stack. -/
theorem account {stack : LayerStack} (hl : stack.layers[place]? = some l.toLayer) (h : Handler)
    (s : Scene) (r : Request) : Scripted l place (stack.account h s r).journal := by
  refine cumulative.journal_at h hl ?_ ?_ s r
  · intro e he
    rw [Nat.zero_add] at he
    exact of_other fun e' he' ↦ List.mem_singleton.mp he' ▸ he
  · intro below s r hbelow
    rw [Nat.zero_add] at hbelow ⊢
    exact account_call l place s r (hbelow s r)

end Scripted

/-! ## Sessions -/

/-- What the layer at a place sees in a turn. -/
def Session.observed (place : Nat) (s : LayerStack) (h : Handler) (x : Session) :
    Turn → List (Moment × Observation)
  | .request r =>
    datedFrom (Entry.observation? place) x.timeline.now (s.account h x.timeline.scene r).journal
  | .pass _ => []
  | .idle => [(x.timeline.now, .settled)]

namespace Timeline

/-- In a turn telemetry does what the observations make of it. -/
theorem Kept.take {P : Timeline → List (Moment × Deed) → Prop} (hP : Kept P)
    {stack : LayerStack} {l : TrackingLayer} {place : Nat}
    (hl : stack.layers[place]? = some l.toLayer) (handler : Handler) {x : Session}
    {script : List (Moment × Deed)} (h : P x.timeline script) (turn : Turn) :
    P (x.take stack handler turn).timeline
      (script ++ (x.observed place stack handler turn).flatMap l.deeds) := by
  cases turn with
  | request r =>
    have hscript := Scripted.account hl handler x.timeline.scene r x.timeline.now
    rw [Session.take, (stack.tells_account handler x.timeline r).run_eq, Session.observed,
      ← hscript]
    exact hP.replay h _
  | pass d =>
    rw [Session.observed, List.flatMap_nil, List.append_nil]
    exact hP.wait h d
  | idle => exact hP.obey h .settle (now_settle _) ((unnoticed_telemetry.settle _).symm)

end Timeline
end RequestTelemetry
