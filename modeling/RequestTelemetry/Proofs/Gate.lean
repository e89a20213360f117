import RequestTelemetry.Proofs.Accounting
import RequestTelemetry.Proofs.TimeoutResolution
import RequestTelemetry.Registry
import RequestTelemetry.Tracking.HttpCollector

/-!
# The gate

A tracking layer reports requests if tracking is enabled and there is a tracking id, and otherwise
leaves no trace. This is decided when the layer is made, and it does not matter how: with a
collector at hand, with one that is made for it, or from a section in a registry. Nor does it matter
whether and when the configuration was resolved before, since resolution fills in settings one by
one and leaves alone what is there.

Whether a layer reports is a matter of what is seen of it: `Layer.Sends` and `Layer.Logs` ask for a
session, through any stack with the layer in it, in which an event or a line comes from its place.
-/

namespace RequestTelemetry

open Http Tracking

/-! ## Resolution -/

namespace Tracking.Config

/-- What a resolved configuration has. -/
structure Complete (c : Config) : Prop where
  endpoint : Text.isBlankText c.endpointUrl = false
  timeout : 1 ≤ c.timeoutMs.toNat
  cookie : c.clientIdCookie ≠ ""

theorem complete_resolve (c : Config) : c.resolve.Complete where
  endpoint := by
    by_cases h : Text.isBlankText c.endpointUrl
    · have hdefault : c.resolve.endpointUrl = defaultEndpoint := if_pos h
      rw [hdefault]
      decide
    · have hkept : c.resolve.endpointUrl = c.endpointUrl := if_neg h
      rw [hkept]
      exact Bool.eq_false_iff.mpr h
  timeout := by
    rw [toNat_timeoutMs_resolve]
    split <;> omega
  cookie := by
    by_cases h : c.clientIdCookie.isEmpty
    · have hdefault : c.resolve.clientIdCookie = defaultCookie := if_pos h
      rw [hdefault]
      decide
    · have hkept : c.resolve.clientIdCookie = c.clientIdCookie := if_neg h
      rw [hkept]
      exact fun hempty ↦ h (String.isEmpty_iff.mpr hempty)

/-- Nothing is filled in where nothing is missing. -/
theorem Complete.resolve_eq {c : Config} (h : c.Complete) : c.resolve = c := by
  have hendpoint : ¬Text.isBlankText c.endpointUrl = true := Bool.eq_false_iff.mp h.endpoint
  have htimeout : c.timeoutMs ≠ 0 := by
    intro hzero
    have hle := h.timeout
    rw [hzero] at hle
    exact absurd hle (by decide)
  have hcookie : ¬c.clientIdCookie.isEmpty = true := fun he ↦ h.cookie (String.isEmpty_iff.mp he)
  rw [resolve, if_neg hendpoint, if_neg htimeout, if_neg hcookie]

theorem resolve_resolve (c : Config) : c.resolve.resolve = c.resolve :=
  c.complete_resolve.resolve_eq

/-- What becomes of a setting depends on that setting only. -/
theorem get_resolve_congr {c d : Config} {f : Field} (h : c.get f = d.get f) :
    c.resolve.get f = d.resolve.get f := by
  cases f <;>
  · simp only [get] at h
    simp only [get, resolve, h]
    rfl

theorem get_resolve_of_notMem {f : Field}
    (h : f ∉ [Field.endpointUrl, Field.timeoutMs, Field.clientIdCookie]) (c : Config) :
    c.resolve.get f = c.get f := by
  cases f <;> first | rfl | exact absurd (by decide) h

theorem isActive_iff (c : Config) : c.isActive = true ↔ c.enabled = true ∧ c.trackingId ≠ "" := by
  rw [isActive, Bool.and_eq_true, Bool.not_eq_true', Bool.eq_false_iff, ne_eq, String.isEmpty_iff]

theorem isActive_resolve (c : Config) : c.resolve.isActive = c.isActive := rfl

/-! ## Changes between resolutions -/

/-- A change resolves or assigns a setting. -/
theorem change_cases (x : Change) :
    x = .resolve ∨ ∃ (f : Field) (v : f.kind.Carrier), ∀ c : Config, c.change x = c.set f v := by
  cases x with
  | enabled on => exact Or.inr ⟨.enabled, on, fun _ ↦ rfl⟩
  | endpointUrl url => exact Or.inr ⟨.endpointUrl, url, fun _ ↦ rfl⟩
  | apiSecret secret => exact Or.inr ⟨.apiSecret, secret, fun _ ↦ rfl⟩
  | timeout d => exact Or.inr ⟨.timeoutMs, d.clampedMillis, fun _ ↦ rfl⟩
  | maxCaptureBytes limit => exact Or.inr ⟨.maxCaptureBytes, limit, fun _ ↦ rfl⟩
  | clientIdCookie name => exact Or.inr ⟨.clientIdCookie, name, fun _ ↦ rfl⟩
  | resolve => exact Or.inl rfl

theorem resolve_set_congr {c d : Config} (h : c.resolve = d.resolve) (f : Field)
    (v : f.kind.Carrier) : (c.set f v).resolve = (d.set f v).resolve := by
  refine ext_get fun g ↦ ?_
  by_cases hg : g = f
  · subst hg
    exact get_resolve_congr (by rw [get_set, get_set])
  · calc
      (c.set f v).resolve.get g = c.resolve.get g := get_resolve_congr (get_set_of_ne c v hg)
      _ = d.resolve.get g := by rw [h]
      _ = (d.set f v).resolve.get g := (get_resolve_congr (get_set_of_ne d v hg)).symm

/-- Configurations that resolve alike still do so after a change. -/
theorem resolve_change_congr {c d : Config} (h : c.resolve = d.resolve) (x : Change) :
    (c.change x).resolve = (d.change x).resolve := by
  rcases change_cases x with rfl | ⟨f, v, hx⟩
  · exact congrArg resolve h
  · rw [hx, hx]
    exact resolve_set_congr h f v

theorem resolve_changeAll_congr {c d : Config} (h : c.resolve = d.resolve)
    (changes : List Change) : (c.changeAll changes).resolve = (d.changeAll changes).resolve := by
  induction changes generalizing c d with
  | nil => exact h
  | cons x changes ih => exact ih (resolve_change_congr h x)

/-- Resolutions among the changes can be left out. -/
theorem resolve_changeAll_filter (c : Config) (changes : List Change) :
    (c.changeAll (changes.filter (· ≠ .resolve))).resolve = (c.changeAll changes).resolve := by
  induction changes generalizing c with
  | nil => rfl
  | cons x changes ih =>
    by_cases hx : x = .resolve
    · subst hx
      calc
        (c.changeAll (changes.filter (· ≠ .resolve))).resolve = (c.changeAll changes).resolve :=
          ih c
        _ = (c.resolve.changeAll changes).resolve :=
          resolve_changeAll_congr c.resolve_resolve.symm changes
    · rw [List.filter_cons_of_pos (by simpa using hx)]
      exact ih (c.change x)

end Tracking.Config

/-! ## What is seen of a layer -/

theorem mem_of_mem_toldAt {α : Type} {place : Nat} {f : Entry → Option α} {journal : List Entry}
    {a : α} (h : a ∈ toldAt place f journal) : a ∈ journal.filterMap f := by
  obtain ⟨e, he, hf⟩ := List.mem_filterMap.mp h
  by_cases hplace : e.place = place
  · rw [if_pos hplace] at hf
    exact List.mem_filterMap.mpr ⟨e, he, hf⟩
  · rw [if_neg hplace] at hf
    exact absurd hf.symm (Option.some_ne_none a)

namespace Session.Balanced

variable {x : Session} {place : Nat}

/-- What a place offers is handed over once the background has settled. -/
theorem mem_handed (hx : x.Balanced) {o : String × Event} (ho : o ∈ offersAt place x.journal) :
    o ∈ x.timeline.settle.handed := by
  rw [Timeline.handed_settle, hx.ledger]
  obtain ⟨e, he, hoffer⟩ := List.mem_filterMap.mp ho
  exact List.mem_filterMap.mpr ⟨e, mem_of_mem_toldAt he, hoffer⟩

/-- What a place logs about requests stands in the log. -/
theorem mem_logs (hx : x.Balanced) {line : LogLine} (hline : line ∈ linesAt place x.journal) :
    line ∈ x.timeline.settle.logs := by
  have htracked : x.timeline.settle.logs.filter LogLine.isTracked
      = (x.journal.filterMap Entry.effect?).filterMap Effect.line? :=
    congrArg Timeline.Ledger.tracked ((Timeline.ledger_settle x.timeline).trans hx.ledger)
  obtain ⟨e, he, hlogged⟩ := List.mem_filterMap.mp hline
  refine List.mem_of_mem_filter (p := LogLine.isTracked) ?_
  rw [htracked]
  exact List.mem_filterMap.mpr ⟨e, mem_of_mem_toldAt he, hlogged⟩

end Session.Balanced

/-- Whether a layer ever sends an event: one that is offered at its place in a session is handed to
a collector. -/
def Layer.Sends (l : Layer) : Prop :=
  ∃ (stack : LayerStack) (place : Nat) (h : Handler) (turns : List Turn),
    stack.layers[place]? = some l ∧
      ∃ o ∈ offersAt place (stack.session h turns).journal,
        o ∈ (stack.session h turns).timeline.settle.handed

/-- Whether a layer ever logs a line about a request. -/
def Layer.Logs (l : Layer) : Prop :=
  ∃ (stack : LayerStack) (place : Nat) (h : Handler) (turns : List Turn),
    stack.layers[place]? = some l ∧
      ∃ line ∈ linesAt place (stack.session h turns).journal,
        line ∈ (stack.session h turns).timeline.settle.logs

namespace Tracking.TrackingLayer

variable {l : TrackingLayer}

theorem trackedAt_session {stack : LayerStack} {place : Nat}
    (hl : stack.layers[place]? = some l.toLayer) (h : Handler) (turns : List Turn) :
    TrackedAt l place (stack.session h turns).journal :=
  TrackedAt.cumulative.journal_session (fun scene r ↦ TrackedAt.account hl h scene r) turns

/-- A layer that leaves an effect has a dispatcher. -/
theorem isSome_of_mem_effects {stack : LayerStack} {place : Nat}
    (hl : stack.layers[place]? = some l.toLayer) {h : Handler} {turns : List Turn} {e : Effect}
    (he : e ∈ toldAt place Entry.effect? (stack.session h turns).journal) :
    l.dispatcher.isSome = true := by
  by_contra hnone
  have hnil := (trackedAt_session hl h turns).effects_eq_nil
    (Or.inl (Option.not_isSome_iff_eq_none.mp hnone))
  rw [hnil] at he
  exact List.not_mem_nil he

/-- The session that sends one request through a layer that stands alone. -/
def shortSession (l : TrackingLayer) : Session :=
  LayerStack.session ⟨[l.toLayer]⟩ (fun _ ↦ .done {}) [.request {}]

theorem trackedAt_shortSession (l : TrackingLayer) : TrackedAt l 0 l.shortSession.journal :=
  trackedAt_session rfl _ _

theorem balanced_shortSession (l : TrackingLayer) : l.shortSession.Balanced :=
  LayerStack.balanced_session _ _ _

/-- An answer comes back to a layer that stands alone. -/
theorem exists_return (l : TrackingLayer) :
    ∃ x, x ∈ toldAt 0 Entry.return? l.shortSession.journal := by
  have hrequest : ({} : Request) ∈ toldAt 0 Entry.request? l.shortSession.journal :=
    List.mem_filterMap.mpr ⟨⟨0, 0, .received {}⟩, List.mem_cons_self, rfl⟩
  rw [← l.trackedAt_shortSession.requests_eq] at hrequest
  obtain ⟨x, hx, -⟩ := List.mem_map.mp hrequest
  exact ⟨x, hx⟩

theorem sends_iff : l.toLayer.Sends ↔ l.dispatcher.isSome = true := by
  constructor
  · rintro ⟨stack, place, h, turns, hl, o, ho, -⟩
    obtain ⟨e, he, -⟩ := List.mem_filterMap.mp ho
    exact isSome_of_mem_effects hl he
  · intro hsome
    obtain ⟨d, hd⟩ := Option.isSome_iff_exists.mp hsome
    obtain ⟨x, hx⟩ := l.exists_return
    have ho : (d.collector.label, l.eventOf x) ∈ offersAt 0 l.shortSession.journal := by
      rw [l.trackedAt_shortSession.offersAt_eq hd]
      exact List.mem_map_of_mem hx
    exact ⟨⟨[l.toLayer]⟩, 0, _, _, rfl, _, ho, l.balanced_shortSession.mem_handed ho⟩

theorem logs_iff : l.toLayer.Logs ↔ l.dispatcher.isSome = true := by
  constructor
  · rintro ⟨stack, place, h, turns, hl, line, hline, -⟩
    obtain ⟨e, he, -⟩ := List.mem_filterMap.mp hline
    exact isSome_of_mem_effects hl he
  · intro hsome
    obtain ⟨d, hd⟩ := Option.isSome_iff_exists.mp hsome
    obtain ⟨x, hx⟩ := l.exists_return
    have hline : l.lineOf x ∈ linesAt 0 l.shortSession.journal := by
      rw [l.trackedAt_shortSession.linesAt_eq hd]
      exact List.mem_map_of_mem hx
    exact ⟨⟨[l.toLayer]⟩, 0, _, _, rfl, _, hline, l.balanced_shortSession.mem_logs hline⟩

/-! ## Every way to make a layer -/

/-- A layer has the resolved configuration, and reports if that one's gate is open. -/
structure Gated (l : TrackingLayer) (c : Config) : Prop where
  config_eq : l.config = c.resolve
  dispatcher_iff : l.dispatcher.isSome = true ↔ c.enabled = true ∧ c.trackingId ≠ ""
  sends_iff : l.toLayer.Sends ↔ c.enabled = true ∧ c.trackingId ≠ ""
  logs_iff : l.toLayer.Logs ↔ c.enabled = true ∧ c.trackingId ≠ ""

theorem Gated.of_isSome_eq {c : Config} (hconfig : l.config = c.resolve)
    (h : l.dispatcher.isSome = c.resolve.isActive) : l.Gated c := by
  have hgate : l.dispatcher.isSome = true ↔ c.enabled = true ∧ c.trackingId ≠ "" := by
    rw [h, c.isActive_resolve, c.isActive_iff]
  exact ⟨hconfig, hgate, TrackingLayer.sends_iff.trans hgate, TrackingLayer.logs_iff.trans hgate⟩

theorem gated_withCollector (c : Config) (collector : Collector) :
    (withCollector c collector).Gated c := by
  refine Gated.of_isSome_eq rfl ?_
  rw [withCollector]
  cases c.resolve.isActive <;> rfl

theorem exists_connect {make : Config → Except DeliveryError Collector}
    (hmake : ∀ c, ∃ collector, make c = .ok collector) (c : Config) :
    ∃ l, connect make c = .ok l ∧ l.Gated c := by
  obtain ⟨collector, hcollector⟩ := hmake c.resolve
  cases hactive : c.resolve.isActive with
  | false =>
    refine ⟨⟨c.resolve, none⟩, ?_, Gated.of_isSome_eq rfl hactive.symm⟩
    rw [connect, hactive]
    rfl
  | true =>
    refine ⟨⟨c.resolve, some ⟨collector, c.resolve.requestTimeout⟩⟩, ?_,
      Gated.of_isSome_eq rfl hactive.symm⟩
    rw [connect, hactive, hcollector]
    rfl

end Tracking.TrackingLayer

namespace Registration

variable {make : Config → Except DeliveryError Collector} {value : Json}

/-- What is wrong with a section is wrong with the layer. -/
theorem create_trackingWith_of_error {e : SectionError} (h : Config.ofSection value = .error e) :
    (trackingWith make).create value = .error (.invalidConfig trackingName e.loadMessage) := by
  simp only [trackingWith, h]

theorem create_trackingWith_of_ok {config : Config} {l : TrackingLayer}
    (h : Config.ofSection value = .ok config) (hl : TrackingLayer.connect make config = .ok l) :
    (trackingWith make).create value = .ok l.toLayer := by
  simp only [trackingWith, h, hl]

end Registration

/-- What a registry builds from a section, if collectors can always be made. -/
theorem Registry.build_tracking {make : Config → Except DeliveryError Collector}
    (hmake : ∀ c, ∃ collector, make c = .ok collector) {registry : Registry}
    (hregistry : registry.lookup Registration.trackingName = some (.trackingWith make))
    (value : Json) :
    match Config.ofSection value with
    | .ok config => ∃ l : TrackingLayer,
        (registry.build Registration.trackingName value).1 = .ok l.toLayer ∧ l.Gated config
    | .error e => (registry.build Registration.trackingName value).1
        = .error (.invalidConfig Registration.trackingName e.loadMessage) := by
  have hbuild : (registry.build Registration.trackingName value).1
      = (Registration.trackingWith make).create value := by
    rw [build, hregistry]
  rw [hbuild]
  cases hsection : Config.ofSection value with
  | error e => exact Registration.create_trackingWith_of_error hsection
  | ok config =>
    obtain ⟨l, hl, hgated⟩ := TrackingLayer.exists_connect hmake config
    exact ⟨l, Registration.create_trackingWith_of_ok hsection hl, hgated⟩

theorem HttpCollector.exists_build {client : Duration → Except String Network}
    (hclient : ∀ timeout, ∃ n, client timeout = .ok n) (c : Config) :
    ∃ collector, HttpCollector.build client c = .ok collector := by
  obtain ⟨n, hn⟩ := hclient c.requestTimeout
  exact ⟨(HttpCollector.ofConfig c).toCollector n, by rw [HttpCollector.build, hn]⟩

/-- **The gate decides alone whether a layer reports.** From any configuration, through any changes
to it, whether they resolve it or not, a layer that is made with a collector at hand and one that
makes its own have a dispatcher, send events and log lines just if tracking is enabled and the
tracking id is not empty. A registry builds such a layer under the name `analytics` from every
section that is a configuration, and from no other: it reports what is wrong with the section.
Resolution leaves the gate and all
settings but the endpoint, the timeout and the cookie name as they are, leaves nothing missing and
nothing to do for another one, and what came of earlier ones makes no difference to it. -/
theorem gate_decides_who_reports {client : Duration → Except String Network}
    (hclient : ∀ timeout, ∃ n, client timeout = .ok n) {registry : Registry}
    (hregistry : registry.lookup Registration.trackingName
      = some (.trackingWith (HttpCollector.build client)))
    (start : Config) (changes : List Config.Change) :
    let c := start.changeAll changes
    (∀ collector, (TrackingLayer.withCollector c collector).Gated c) ∧
      (∃ l, TrackingLayer.connect (HttpCollector.build client) c = .ok l ∧ l.Gated c) ∧
      (∀ value,
        match Config.ofSection value with
        | .ok config => ∃ l : TrackingLayer,
            (registry.build Registration.trackingName value).1 = .ok l.toLayer ∧ l.Gated config
        | .error e => (registry.build Registration.trackingName value).1
            = .error (.invalidConfig Registration.trackingName e.loadMessage)) ∧
      c.resolve.isActive = c.isActive ∧
      (c.isActive = true ↔ c.enabled = true ∧ c.trackingId ≠ "") ∧
      (∀ f, f ∉ [Config.Field.endpointUrl, Config.Field.timeoutMs, Config.Field.clientIdCookie] →
        c.resolve.get f = c.get f) ∧
      c.resolve.resolve = c.resolve ∧
      c.resolve.Complete ∧
      (start.changeAll (changes.filter (· ≠ .resolve))).resolve = c.resolve ∧
      Registration.trackingName = "analytics" ∧
      (Registration.trackingWith (HttpCollector.build client)).name = "analytics" := by
  intro c
  have hmake := HttpCollector.exists_build hclient
  exact ⟨TrackingLayer.gated_withCollector c, TrackingLayer.exists_connect hmake c,
    Registry.build_tracking hmake hregistry, c.isActive_resolve, c.isActive_iff,
    fun f hf ↦ Config.get_resolve_of_notMem hf c, c.resolve_resolve, c.complete_resolve,
    start.resolve_changeAll_filter changes, rfl, rfl⟩

/-- Builds clients that reach nothing. -/
private def quietClient (_ : Duration) : Except String Network := .ok .unreachable

/-- A registry with a tracking layer whose collectors are those that these clients lead to. -/
private def quietRegistry : Registry :=
  ⟨[.passThrough "pass-through",
    .tracking fun c ↦ (HttpCollector.ofConfig c).toCollector .unreachable]⟩

/-- Enabled between two resolutions, with an endpoint of blanks, a timeout below a millisecond and
no cookie name. -/
private def blankChanges : List Config.Change :=
  [.resolve, .enabled true, .endpointUrl "\u2003 ", .timeout ⟨999999⟩, .resolve,
    .clientIdCookie "", .endpointUrl "\t"]

/-- Blank settings are filled in and shut no gate; a tracking id alone opens none, and neither does
a section that only enables tracking. -/
theorem blank_settings_shut_no_gate :
    let c := (Config.ofTrackingId "G-1").changeAll blankChanges
    (∃ l, TrackingLayer.connect (HttpCollector.build quietClient) c = .ok l ∧
        l.toLayer.Sends ∧ l.toLayer.Logs ∧ l.config.endpointUrl = Config.defaultEndpoint) ∧
      c.resolve.get .maxCaptureBytes = c.get .maxCaptureBytes ∧
      (∀ collector,
        ¬(TrackingLayer.withCollector (Config.ofTrackingId "G-1") collector).toLayer.Sends) ∧
      ∃ l : TrackingLayer, (quietRegistry.build "analytics"
        (.object [("enabled", .bool true)])).1 = .ok l.toLayer ∧ ¬l.toLayer.Logs := by
  have hclient : ∀ timeout, ∃ n, quietClient timeout = .ok n := fun _ ↦ ⟨.unreachable, rfl⟩
  have hregistry : quietRegistry.lookup Registration.trackingName
      = some (.trackingWith (HttpCollector.build quietClient)) := rfl
  obtain ⟨-, ⟨l, hl, hopen⟩, hsections, -, -, hkept, -⟩ :=
    gate_decides_who_reports hclient hregistry (Config.ofTrackingId "G-1") blankChanges
  obtain ⟨hshut, -⟩ := gate_decides_who_reports hclient hregistry (Config.ofTrackingId "G-1") []
  refine ⟨⟨l, hl, hopen.sends_iff.mpr (by decide), hopen.logs_iff.mpr (by decide), ?_⟩,
    hkept .maxCaptureBytes (by decide), ?_, ?_⟩
  · rw [hopen.config_eq]
    decide
  · intro collector hsends
    exact absurd ((hshut collector).sends_iff.mp hsends).1 (by decide)
  · obtain ⟨l, hl, hgated⟩ := hsections (.object [("enabled", .bool true)])
    exact ⟨l, hl, fun hlogs ↦ (hgated.logs_iff.mp hlogs).2 rfl⟩

end RequestTelemetry
