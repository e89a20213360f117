import RequestTelemetry.Proofs.Accounting
import RequestTelemetry.Proofs.ClientAddress

/-!
# What a tracking layer sees

A tracking layer reads of a request its path, its method, four headers and the address of the peer
without the port, and of a response its status, its length and the time that it took. This is a
*glimpse*, and what the layer does is a function of it.
-/

namespace RequestTelemetry

open Http Tracking

/-! ## What is read of a request -/

/-- What a tracking layer reads of a request. -/
structure Visible where
  path : String
  method : Method
  userAgent : Option Bytes
  forwardedFor : Option Bytes
  realIp : Option Bytes
  cookies : List Bytes
  peer : Option Net.Ip
  deriving DecidableEq

/-- The part of a request that a tracking layer reads. -/
def Http.Request.visible (r : Request) : Visible where
  path := r.path
  method := r.method
  userAgent := r.headers.get? .userAgent
  forwardedFor := r.headers.get? .forwardedFor
  realIp := r.headers.get? .realIp
  cookies := r.headers.getAll .cookie
  peer := r.peer.map Net.SocketAddr.ip

namespace Visible

/-- The address of the client. -/
def address (v : Visible) : String :=
  match (v.forwardedFor.filter (· ≠ [])).or (v.realIp.filter (· ≠ [])) with
  | some list => firstEntry (Utf8.lossy list)
  | none => (v.peer.map Net.Ip.text).getD ""

/-- The user agent. -/
def agent (v : Visible) : String := (v.userAgent.map Utf8.lossy).getD ""

/-- What an event says about the request. -/
def info (v : Visible) (cookieName : String) : RequestInfo where
  path := v.path
  method := v.method.name
  userAgent := v.agent
  ipAddress := v.address
  clientId :=
    (((v.cookies.flatMap cookiesOf).find? fun c ↦ c.1 = cookieName && c.2 ≠ "").map
      Prod.snd).getD (v.address ++ v.agent)

end Visible

/-- What is reported of a request depends on its visible part only. -/
theorem ofRequest_eq_info (r : Request) (cookieName : String) :
    RequestInfo.ofRequest r cookieName = r.visible.info cookieName := by
  have haddress : clientIp r = r.visible.address := by
    have hpeer : (r.visible.peer.map Net.Ip.text) = r.peer.map fun a ↦ a.ip.text :=
      Option.map_map _ _ _
    rw [clientIp_eq, Visible.address, hpeer]
    rfl
  rw [RequestInfo.ofRequest, clientId, haddress]
  rfl

theorem get?_eq_head?_getAll (h : Headers) (name : HeaderName) :
    h.get? name = (h.getAll name).head? := by
  rw [Headers.get?, Headers.getAll]
  induction h.fields with
  | nil => rfl
  | cons field fields ih =>
    obtain ⟨other, value⟩ := field
    by_cases hname : name = other
    · subst hname
      simp
    · have hbeq : (name == other) = false := beq_false_of_ne hname
      simp [Ne.symm hname, List.lookup_cons, hbeq, ih]

/-- What a tracking layer sees of a request and its response. -/
structure Glimpse where
  request : Visible
  status : Status
  length : Nat
  nanos : Nat
  deriving DecidableEq

/-- What a tracking layer sees of what comes back to it. -/
def Return.glimpse (x : Return) : Glimpse :=
  ⟨x.request.visible, x.response.status, x.response.body.length, x.back - x.sent⟩

namespace Tracking.TrackingLayer

/-- The event for a glimpse. -/
def eventFor (l : TrackingLayer) (g : Glimpse) : Event :=
  (g.request.info l.config.clientIdCookie).toEvent g.status ⟨g.nanos⟩

/-- The line for a glimpse. -/
def lineFor (l : TrackingLayer) (g : Glimpse) : LogLine :=
  let e := l.eventFor g
  .tracked e.path e.method e.statusCode e.responseTimeMs g.length

/-- The effects for a glimpse. -/
def effectsFor (l : TrackingLayer) (g : Glimpse) : List Effect :=
  match l.dispatcher with
  | none => []
  | some d => [.log (l.lineFor g), .submit d (l.eventFor g)]

/-- What a layer does depends on what it sees only. -/
theorem effectsOf_eq (l : TrackingLayer) (x : Return) : l.effectsOf x = l.effectsFor x.glimpse := by
  have hevent : l.eventOf x = l.eventFor x.glimpse := by
    rw [eventOf, ofRequest_eq_info]
    rfl
  rw [effectsOf, effectsFor, lineOf, hevent]
  rfl

end Tracking.TrackingLayer

end RequestTelemetry
