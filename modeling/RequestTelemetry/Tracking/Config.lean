import RequestTelemetry.Duration
import RequestTelemetry.Text.Blank

/-!
# Tracking configuration

What a host may set, the defaults, and the resolution that fills in what was left empty. Tracking
is active only when it is enabled and has a tracking id.

The settings form a type of their own, `Field`, with the values each of them takes; the readers of
configuration sections and of environment variables both assign field by field. A host may change a
configuration before it makes a layer from it, and resolve it as often as it likes.
-/

namespace RequestTelemetry.Tracking

/-- The parameters of the tracking layer. -/
structure Config where
  /-- The measurement id; tracking is off while it is empty. -/
  trackingId : String
  /-- Whether tracking is on. -/
  enabled : Bool
  /-- Where events are sent; blank stands for the default endpoint. -/
  endpointUrl : String
  /-- The secret sent with every event. -/
  apiSecret : String
  /-- How long a delivery may take, in milliseconds; zero stands for the default. -/
  timeoutMs : UInt64
  /-- How many octets of a response body are kept. -/
  maxCaptureBytes : UInt64
  /-- The cookie that holds the client id. -/
  clientIdCookie : String
  deriving DecidableEq, Repr

namespace Config

/-- The endpoint used when none is configured. -/
def defaultEndpoint : String := "https://www.google-analytics.com/mp/collect"

/-- The cookie used when none is configured. -/
def defaultCookie : String := "_ga"

/-- The timeout used when none is configured, in milliseconds. -/
def defaultTimeoutMs : UInt64 := 5000

/-- How many octets of a body are kept when nothing else is configured. -/
def defaultCaptureBytes : UInt64 := 65536

/-- The configuration of a host that sets nothing. -/
def default : Config where
  trackingId := ""
  enabled := false
  endpointUrl := ""
  apiSecret := ""
  timeoutMs := defaultTimeoutMs
  maxCaptureBytes := defaultCaptureBytes
  clientIdCookie := defaultCookie

instance : Inhabited Config := ⟨default⟩

/-- The configuration for a tracking id. -/
def ofTrackingId (id : String) : Config := { default with trackingId := id }

/-- Sets the timeout from a duration, in whole milliseconds. -/
def withTimeout (c : Config) (d : Duration) : Config := { c with timeoutMs := d.clampedMillis }

/-- Whether requests are tracked. -/
def isActive (c : Config) : Bool := c.enabled && !c.trackingId.isEmpty

/-- How long a delivery may take. -/
def requestTimeout (c : Config) : Duration := .ofMillis c.timeoutMs.toNat

/-- Fills in the defaults for a blank endpoint, a zero timeout and an empty cookie name. -/
def resolve (c : Config) : Config :=
  { c with
    endpointUrl := if Text.isBlankText c.endpointUrl then defaultEndpoint else c.endpointUrl
    timeoutMs := if c.timeoutMs = 0 then defaultTimeoutMs else c.timeoutMs
    clientIdCookie := if c.clientIdCookie.isEmpty then defaultCookie else c.clientIdCookie }

/-! ## Fields -/

/-- A setting, in the order in which a section lists them. -/
inductive Field where
  | trackingId
  | enabled
  | endpointUrl
  | apiSecret
  | timeoutMs
  | maxCaptureBytes
  | clientIdCookie
  deriving DecidableEq, Repr

namespace Field

/-- All settings in order. -/
def inOrder : List Field :=
  [trackingId, enabled, endpointUrl, apiSecret, timeoutMs, maxCaptureBytes, clientIdCookie]

theorem mem_inOrder (f : Field) : f ∈ inOrder := by
  cases f <;> decide

/-- The name of a setting. -/
def name : Field → String
  | trackingId => "tracking_id"
  | enabled => "enabled"
  | endpointUrl => "endpoint_url"
  | apiSecret => "api_secret"
  | timeoutMs => "timeout_ms"
  | maxCaptureBytes => "max_capture_bytes"
  | clientIdCookie => "client_id_cookie"

/-- The other spellings of a setting. -/
def aliases : Field → List String
  | trackingId => ["trackingID", "trackingId"]
  | enabled => []
  | endpointUrl => ["endpointURL", "endpointUrl"]
  | apiSecret => ["apiSecret"]
  | timeoutMs => ["timeoutMs"]
  | maxCaptureBytes => ["maxCaptureBytes"]
  | clientIdCookie => ["clientIdCookie"]

/-- Every spelling of a setting. -/
def spellings (f : Field) : List String := f.name :: f.aliases

/-- The setting that a key spells. -/
def ofKey? (key : String) : Option Field := inOrder.find? fun f ↦ f.spellings.contains key

/-- No two settings have a spelling in common. -/
theorem ofKey?_spelling : ∀ f ∈ inOrder, ∀ key ∈ f.spellings, ofKey? key = some f := by
  decide

theorem ofKey?_eq_some_iff {key : String} {f : Field} :
    ofKey? key = some f ↔ key ∈ f.spellings := by
  constructor
  · intro h
    rw [ofKey?] at h
    have hcontains := List.find?_some h
    exact List.contains_iff_mem.mp hcontains
  · exact ofKey?_spelling f f.mem_inOrder key

theorem eq_of_mem_spellings {key : String} {f g : Field} (hf : key ∈ f.spellings)
    (hg : key ∈ g.spellings) : f = g :=
  Option.some.inj ((ofKey?_eq_some_iff.mpr hf).symm.trans (ofKey?_eq_some_iff.mpr hg))

/-- The kinds of values. -/
inductive Kind where
  | text
  | flag
  /-- A count of milliseconds. -/
  | word
  /-- A count of octets. -/
  | size
  deriving DecidableEq, Repr

/-- The kind of a setting's value. -/
def kind : Field → Kind
  | enabled => .flag
  | timeoutMs => .word
  | maxCaptureBytes => .size
  | _ => .text

/-- The values of a kind. -/
abbrev Kind.Carrier : Kind → Type
  | .text => String
  | .flag => Bool
  | .word => UInt64
  | .size => UInt64

end Field

/-- Assigns a setting. -/
def set (c : Config) : (f : Field) → f.kind.Carrier → Config
  | .trackingId, v => { c with trackingId := v }
  | .enabled, v => { c with enabled := v }
  | .endpointUrl, v => { c with endpointUrl := v }
  | .apiSecret, v => { c with apiSecret := v }
  | .timeoutMs, v => { c with timeoutMs := v }
  | .maxCaptureBytes, v => { c with maxCaptureBytes := v }
  | .clientIdCookie, v => { c with clientIdCookie := v }

/-- The value of a setting. -/
def get (c : Config) : (f : Field) → f.kind.Carrier
  | .trackingId => c.trackingId
  | .enabled => c.enabled
  | .endpointUrl => c.endpointUrl
  | .apiSecret => c.apiSecret
  | .timeoutMs => c.timeoutMs
  | .maxCaptureBytes => c.maxCaptureBytes
  | .clientIdCookie => c.clientIdCookie

@[simp] theorem get_set (c : Config) (f : Field) (v : f.kind.Carrier) : (c.set f v).get f = v := by
  cases f <;> rfl

theorem get_set_of_ne (c : Config) {f g : Field} (v : f.kind.Carrier) (h : g ≠ f) :
    (c.set f v).get g = c.get g := by
  cases f <;> cases g <;> (try exact absurd rfl h) <;> rfl

theorem ext_get {c d : Config} (h : ∀ f : Field, c.get f = d.get f) : c = d := by
  obtain ⟨_, _, _, _, _, _, _⟩ := c
  obtain ⟨_, _, _, _, _, _, _⟩ := d
  obtain rfl := h .trackingId
  obtain rfl := h .enabled
  obtain rfl := h .endpointUrl
  obtain rfl := h .apiSecret
  obtain rfl := h .timeoutMs
  obtain rfl := h .maxCaptureBytes
  obtain rfl := h .clientIdCookie
  rfl

/-! ## Changes -/

/-- A change to a configuration on its way to a layer. The tracking id stays what it was at the
start. -/
inductive Change where
  | enabled (on : Bool)
  | endpointUrl (url : String)
  | apiSecret (secret : String)
  | timeout (d : Duration)
  | maxCaptureBytes (limit : UInt64)
  | clientIdCookie (name : String)
  | resolve
  deriving DecidableEq, Repr

/-- Makes a change. -/
def change (c : Config) : Change → Config
  | .enabled on => c.set .enabled on
  | .endpointUrl url => c.set .endpointUrl url
  | .apiSecret secret => c.set .apiSecret secret
  | .timeout d => c.withTimeout d
  | .maxCaptureBytes limit => c.set .maxCaptureBytes limit
  | .clientIdCookie name => c.set .clientIdCookie name
  | .resolve => c.resolve

/-- Makes one change after another. -/
def changeAll (c : Config) (changes : List Change) : Config := changes.foldl change c

end Config
end RequestTelemetry.Tracking
