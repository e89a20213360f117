import RequestTelemetry.Proofs.Accounting
import RequestTelemetry.Proofs.Visits

/-!
# What events say

A tracking layer looks at three things at three moments: at the request when it comes, at the clock
before and after the rest of the chain runs, and at the response that comes back. Between the
second and the third anything can happen further in, and before the first and after the third
anything can happen further out.

A *passage* is what the journal holds of one request that passes a place: all that happened before,
and what happened below the place while it was out. Every event that a tracking layer submits comes
at the end of a passage of its place and describes it: the request as it came, the status of the
response, and the time that the waits in between add up to. These are all waits further in.
-/

namespace RequestTelemetry

open Http Tracking

/-! ## The clock in a journal -/

/-- The moment after an entry that comes at a moment: only waits take time. -/
def Entry.clock (now : Moment) (e : Entry) : Moment :=
  match e.note with
  | .paused d => wakeUp now d
  | _ => now

namespace Timeline

theorem now_follow (t : Timeline) (e : Entry) : (t.follow e).now = e.clock t.now := by
  rw [follow, Entry.clock]
  cases e.note with
  | received r => rfl
  | paused d => exact congrArg Scene.now (scene_wait t d)
  | did x =>
    refine (congrArg Scene.now (scene_perform t x)).trans ?_
    cases x <;> rfl
  | answered r sent response => rfl

/-- Replaying a journal takes the time of its waits. -/
theorem now_replay (t : Timeline) (journal : List Entry) :
    (t.replay journal).now = journal.foldl Entry.clock t.now := by
  induction journal generalizing t with
  | nil => rfl
  | cons e journal ih => rw [replay_cons, ih, now_follow, List.foldl_cons]

end Timeline

/-! ## Passages -/

/-- A request on its way past a place of a chain and back, in a journal on a timeline. -/
structure Passage (h : Handler) (inner : LayerStack) (place : Nat) (t : Timeline) where
  /-- What happened before the request came. -/
  outside : List Entry
  /-- The request as it came. -/
  request : Request
  /-- What happened until the response came back. -/
  below : List Entry
  /-- The response as it came back. -/
  response : Response
  /-- The chain below the place ran on the request. -/
  run_eq : (t.replay outside).run (inner.execute h request)
    = (response, (t.replay outside).replay below)
  /-- All of it happened below the place. -/
  place_lt : ∀ e ∈ below, place < e.place

namespace Passage

variable {h : Handler} {inner : LayerStack} {place : Nat} {t : Timeline}

/-- When the chain below was called. -/
def sent (p : Passage h inner place t) : Moment := (t.replay p.outside).now

/-- When the response came back. -/
def back (p : Passage h inner place t) : Moment := ((t.replay p.outside).replay p.below).now

/-- The time between the two is that of the waits below the place. -/
theorem back_eq (p : Passage h inner place t) : p.back = p.below.foldl Entry.clock p.sent :=
  Timeline.now_replay _ _

/-- What came back. -/
def toReturn (p : Passage h inner place t) : Return := ⟨p.request, p.sent, p.response, p.back⟩

/-- The journal up to the answer. -/
def entries (p : Passage h inner place t) : List Entry :=
  p.outside ++ ⟨place, p.sent, .received p.request⟩ :: p.below ++
    [⟨place, p.back, .answered p.request p.sent p.response⟩]

/-- The run of the chain below a place on a request that comes to it. -/
def ofRun (h : Handler) (inner : LayerStack) (place : Nat) (t : Timeline) (outside : List Entry)
    (r : Request) : Passage h inner place t where
  outside := outside
  request := r
  below := (accountFrom h (place + 1) inner.layers (t.replay outside).scene r).journal
  response := (accountFrom h (place + 1) inner.layers (t.replay outside).scene r).result
  run_eq := (tells_accountFrom h inner.layers (place + 1) (t.replay outside) r).run_eq
  place_lt := fun _ he ↦ (place_of_mem he).1

theorem back_ofRun (outside : List Entry) (r : Request) :
    (ofRun h inner place t outside r).back =
      (accountFrom h (place + 1) inner.layers (t.replay outside).scene r).scene.now :=
  congrArg Scene.now (tells_accountFrom h inner.layers (place + 1) (t.replay outside) r).scene_eq

/-- The passage with more before it. -/
def after (first : List Entry) (p : Passage h inner place (t.replay first)) :
    Passage h inner place t where
  outside := first ++ p.outside
  request := p.request
  below := p.below
  response := p.response
  run_eq := by rw [Timeline.replay_append]; exact p.run_eq
  place_lt := p.place_lt

theorem toReturn_after (first : List Entry) (p : Passage h inner place (t.replay first)) :
    (p.after first).toReturn = p.toReturn := by
  rw [toReturn, toReturn, sent, back, after, Timeline.replay_append]
  rfl

theorem back_after (first : List Entry) (p : Passage h inner place (t.replay first)) :
    (p.after first).back = p.back :=
  congrArg Return.back (toReturn_after first p)

theorem entries_after (first : List Entry) (p : Passage h inner place (t.replay first)) :
    (p.after first).entries = first ++ p.entries := by
  have hsent : (p.after first).sent = p.sent := congrArg Return.sent (toReturn_after first p)
  rw [entries, hsent, back_after, entries]
  simp only [after, List.append_assoc]

end Passage

/-! ## The passages of a tracking layer -/

/-- What a tracking layer leaves in a journal when a request comes: a passage, and its effects. -/
theorem journal_tracking (h : Handler) (l : TrackingLayer) (inner : LayerStack) (place : Nat)
    (t : Timeline) (r : Request) :
    let p := Passage.ofRun h inner place t [] r
    (accountFrom h place (l.toLayer :: inner.layers) t.scene r).journal
      = p.entries ++ (l.effectsOf p.toReturn).map fun e ↦ ⟨place, p.back, .did e⟩ := by
  intro p
  have hback : p.back = (accountFrom h (place + 1) inner.layers t.scene r).scene.now :=
    Passage.back_ofRun [] r
  have hcall := l.account_call r place (accountFrom h (place + 1) inner.layers) t.scene
  rw [accountFrom, Account.journal_after, show l.toLayer.call = l.call from rfl, hcall, ← hback]
  simp only [Passage.entries, List.append_assoc, List.cons_append, List.nil_append]
  rfl

/-- The event is submitted at the end of a passage, after the line about it, and is the event for
what came back. -/
def Reported (l : TrackingLayer) (h : Handler) (inner : LayerStack) (place : Nat) (t : Timeline)
    (before : List Entry) (m : Moment) (e : Event) : Prop :=
  ∃ p : Passage h inner place t,
    before = p.entries ++ [⟨place, p.back, .did (.log (l.lineOf p.toReturn))⟩] ∧
      m = p.back ∧ e = l.eventOf p.toReturn

section Reported

variable {l : TrackingLayer} {h : Handler} {inner : LayerStack} {place : Nat} {t : Timeline}
  {m : Moment} {e : Event}

theorem Reported.after {first before : List Entry}
    (hreported : Reported l h inner place (t.replay first) before m e) :
    Reported l h inner place t (first ++ before) m e := by
  obtain ⟨p, rfl, rfl, rfl⟩ := hreported
  refine ⟨p.after first, ?_, (p.back_after first).symm, ?_⟩
  · rw [p.entries_after, p.back_after, p.toReturn_after, List.append_assoc]
  · rw [p.toReturn_after]

/-- The one event in a visit of a tracking layer is the last thing there. -/
theorem reported_of_visit {r : Request} {d : Dispatcher} {before after : List Entry}
    (hsplit : (accountFrom h place (l.toLayer :: inner.layers) t.scene r).journal
      = before ++ ⟨place, m, .did (.submit d e)⟩ :: after) :
    Reported l h inner place t before m e := by
  let p := Passage.ofRun h inner place t [] r
  rw [journal_tracking] at hsplit
  -- up to the answer there is no effect at the place
  have hentries : ∀ x : Effect, (⟨place, m, .did x⟩ : Entry) ∉ p.entries := by
    intro x hx
    rcases List.mem_append.mp hx with hx | hx
    · rcases List.mem_cons.mp hx with hx | hx
      · cases hx
      · exact absurd (p.place_lt _ hx) (Nat.lt_irrefl _)
    · cases List.mem_singleton.mp hx
  cases hd : l.dispatcher with
  | none =>
    have heffects : l.effectsOf p.toReturn = [] := by rw [TrackingLayer.effectsOf, hd]
    have hmem : (⟨place, m, .did (.submit d e)⟩ : Entry) ∈ p.entries := by
      rw [heffects, List.map_nil, List.append_nil] at hsplit
      rw [hsplit]
      exact List.mem_append_right _ List.mem_cons_self
    exact absurd hmem (hentries _)
  | some d' =>
    have heffects : l.effectsOf p.toReturn
        = [.log (l.lineOf p.toReturn), .submit d' (l.eventOf p.toReturn)] := by
      rw [TrackingLayer.effectsOf, hd]
    have hlast : (p.entries ++ [⟨place, p.back, .did (.log (l.lineOf p.toReturn))⟩]) ++
        ⟨place, p.back, .did (.submit d' (l.eventOf p.toReturn))⟩ :: []
          = before ++ ⟨place, m, .did (.submit d e)⟩ :: after := by
      rw [heffects] at hsplit
      rw [← hsplit, List.append_assoc]
      rfl
    have hnot : (⟨place, m, .did (.submit d e)⟩ : Entry)
        ∉ p.entries ++ [⟨place, p.back, .did (.log (l.lineOf p.toReturn))⟩] := by
      intro hx
      rcases List.mem_append.mp hx with hx | hx
      · exact hentries _ hx
      · cases List.mem_singleton.mp hx
    obtain ⟨rfl, heq, -⟩ :=
      (List.append_cons_inj_of_notMem hnot List.not_mem_nil).mp hlast
    cases heq
    exact ⟨p, rfl, rfl, rfl⟩

/-- Every event that a tracking layer submits is reported at the end of a passage. -/
theorem reported_of_submit {journal : List Entry} {returns : List Return}
    (hv : Visits h place (l.toLayer :: inner.layers) t journal returns) {d : Dispatcher}
    {before after : List Entry}
    (hsplit : journal = before ++ ⟨place, m, .did (.submit d e)⟩ :: after) :
    Reported l h inner place t before m e := by
  induction hv generalizing before with
  | nil t => exact absurd hsplit (by simp)
  | @outside t a journal returns ha rest ih =>
    -- the submission is not the entry from further out, so it is in the rest
    cases before with
    | nil =>
      obtain rfl : a = _ := (List.cons.inj hsplit).1
      exact absurd ha (Nat.lt_irrefl _)
    | cons b before =>
      obtain ⟨rfl, hrest⟩ := List.cons.inj hsplit
      have hlater : Reported l h inner place t ([a] ++ before) m e := (ih hrest).after
      exact hlater
  | @visit t journal returns r rest ih =>
    -- it is in the visit, or in the rest
    rcases List.append_eq_append_iff.mp hsplit with ⟨between, rfl, hrest⟩ | ⟨between, hvisit, hrest⟩
    · exact (ih hrest).after
    · cases between with
      | nil =>
        have hfirst : journal = [] ++ ⟨place, m, .did (.submit d e)⟩ :: after := hrest.symm
        have hlater := (ih hfirst).after
        rwa [hvisit, List.append_nil, List.append_nil] at hlater
      | cons x between =>
        obtain ⟨rfl, -⟩ := List.cons.inj hrest
        exact reported_of_visit hvisit

end Reported

/-! ## What an event describes -/

/-- An event describes a request, its response, and a number of nanoseconds between the two, in
whole milliseconds as far as they fit into 64 bits. -/
structure Tracking.Event.Describes (e : Event) (info : RequestInfo) (response : Response)
    (nanos : Nat) : Prop where
  path_eq : e.path = info.path
  method_eq : e.method = info.method
  userAgent_eq : e.userAgent = info.userAgent
  ipAddress_eq : e.ipAddress = info.ipAddress
  clientId_eq : e.clientId = info.clientId
  statusCode_eq : e.statusCode.toNat = response.status.code
  responseTimeMs_eq : e.responseTimeMs.toNat = min (nanos / 1000000) (2 ^ 64 - 1)

theorem Tracking.TrackingLayer.describes_eventOf (l : TrackingLayer) (x : Return) :
    (l.eventOf x).Describes (RequestInfo.ofRequest x.request l.config.clientIdCookie) x.response
      (x.back - x.sent) where
  path_eq := rfl
  method_eq := rfl
  userAgent_eq := rfl
  ipAddress_eq := rfl
  clientId_eq := rfl
  statusCode_eq := Nat.mod_eq_of_lt (x.response.status.lt_thousand.trans (by decide))
  responseTimeMs_eq := Duration.toNat_clampedMillis _

/-- **What events say.** Wherever a tracking layer stands in a stack, an active one submits as many
events as requests come to it, and every event that it submits ends a passage of its place. The
event describes the request as it came to the layer, with the cookie of the resolved configuration;
the status that the chain below answered with; and the time between the call of the chain below and
its answer, which is that of the waits below the layer. -/
theorem event_describes_passage (outer inner : LayerStack) (config : Config)
    (collector : Collector) (h : Handler) (t : Timeline) (r : Request) :
    let layer := TrackingLayer.withCollector config collector
    let stack := outer.push layer.toLayer ++ inner
    let account := stack.account h t.scene r
    account.Tells t (stack.execute h r) ∧
      (layer.isActive = true → (offersAt outer.size account.journal).length
        = (toldAt outer.size Entry.request? account.journal).length) ∧
      ∀ (before after : List Entry) (m : Moment) (d : Dispatcher) (e : Event),
        account.journal = before ++ ⟨outer.size, m, .did (.submit d e)⟩ :: after →
          ∃ (p : Passage h inner outer.size t) (line : LogLine),
            before = p.entries ++ [⟨outer.size, p.back, .did (.log line)⟩] ∧ m = p.back ∧
              p.back = p.below.foldl Entry.clock p.sent ∧
              e.Describes (RequestInfo.ofRequest p.request config.resolve.clientIdCookie)
                p.response (p.back - p.sent) := by
  intro layer stack account
  have hlayers : stack.layers = outer.layers ++ layer.toLayer :: inner.layers :=
    List.append_assoc _ _ _
  have hplace : stack.layers[outer.size]? = some layer.toLayer := by
    rw [hlayers]
    exact List.getElem?_append_right (Nat.le_refl _) |>.trans (by simp)
  refine ⟨stack.tells_account h t r, ?_, ?_⟩
  · intro hactive
    obtain ⟨d, hd⟩ := Option.isSome_iff_exists.mp hactive
    have hat : TrackedAt layer outer.size account.journal := TrackedAt.account hplace h t.scene r
    rw [hat.offersAt_eq hd, ← hat.requests_eq, List.length_map, List.length_map]
  · intro before after m d e hsplit
    obtain ⟨returns, hvisits⟩ := exists_visits h outer.layers (layer.toLayer :: inner.layers) t r
    rw [← hlayers] at hvisits
    obtain ⟨p, hbefore, hm, rfl⟩ := reported_of_submit hvisits hsplit
    exact ⟨p, _, hbefore, hm, p.back_eq, layer.describes_eventOf p.toReturn⟩

/-- An active configuration. -/
private def activeConfig : Config := { Config.ofTrackingId "G-1" with enabled := true }

/-- A collector that takes every event at once. -/
private def readyCollector : Collector := ⟨"ready", fun _ _ ↦ ⟨some ⟨0⟩, .delivered⟩⟩

/-- An active tracking layer. -/
private def activeLayer : TrackingLayer := .withCollector activeConfig readyCollector

/-- A handler that waits and finds nothing. -/
private def slowHandler : Handler := fun _ ↦ .wait (.ofMillis 11) (.done { status := .notFound })

/-- The active layer between two layers that wait before and after. -/
private def slowStack : LayerStack :=
  (LayerStack.mk [.delay (.ofMillis 2) (.ofMillis 3)]).push activeLayer.toLayer ++
    ⟨[.delay (.ofMillis 5) (.ofMillis 7)]⟩

/-- The event for a request between waits tells of the waits further in and of no others. -/
theorem slow_request_takes_twenty_three_ms :
    let journal := (slowStack.account slowHandler (Timeline.scene {}) {}).journal
    ∃ (before after : List Entry) (d : Dispatcher) (e : Event),
      journal = before ++ ⟨1, 25000000, .did (.submit d e)⟩ :: after ∧
        e.responseTimeMs = 23 ∧ e.statusCode = 404 ∧
        ∃ (p : Passage slowHandler ⟨[.delay (.ofMillis 5) (.ofMillis 7)]⟩ 1 {}) (line : LogLine),
          before = p.entries ++ [⟨1, p.back, .did (.log line)⟩] ∧ 25000000 = p.back ∧
            p.back = p.below.foldl Entry.clock p.sent ∧
            e.Describes (RequestInfo.ofRequest p.request activeConfig.resolve.clientIdCookie)
              p.response (p.back - p.sent) := by
  intro journal
  have hevent := (event_describes_passage ⟨[.delay (.ofMillis 2) (.ofMillis 3)]⟩
    ⟨[.delay (.ofMillis 5) (.ofMillis 7)]⟩ activeConfig readyCollector slowHandler {} {}).2.2
  have hlast : journal[11]? = some ⟨1, 25000000, .did (.submit
      ⟨readyCollector, activeConfig.resolve.requestTimeout⟩
      (activeLayer.eventOf ⟨{}, 2000000, { status := .notFound }, 25000000⟩))⟩ := rfl
  obtain ⟨before, after, hsplit⟩ := List.append_of_mem (List.mem_of_getElem? hlast)
  exact ⟨before, after, _, _, hsplit, by decide, by decide, hevent _ _ _ _ _ hsplit⟩

/-- A response that takes more milliseconds than 64 bits can count is reported with fewer. -/
theorem endless_response_time_is_clamped :
    let account := (LayerStack.mk [activeLayer.toLayer]).account
      (fun _ ↦ .wait (.ofMillis (2 ^ 64)) (.done {})) (Timeline.scene {}) {}
    account.scene.now / 1000000 = 2 ^ 64 ∧
      (offersAt 0 account.journal).map (fun o ↦ o.2.responseTimeMs.toNat) = [2 ^ 64 - 1] :=
  ⟨by decide, by decide⟩

end RequestTelemetry
