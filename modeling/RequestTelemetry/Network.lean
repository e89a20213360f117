import RequestTelemetry.Mock.Server
import RequestTelemetry.Url.Basic

/-!
# The network

What a client can reach: nothing, or one mock server at an address. A message travels without loss
and without delay; blanks around header values do not survive the journey. A request names the host
it goes to and the length of its body. Redirects are followed, up to a number of them: a `307` or
`308` repeats the request, other ones ask for the new place with `GET`, unless the request was a
`HEAD`, and either says where it comes from.
-/

namespace RequestTelemetry

open Http

/-- What answers requests. -/
inductive Network where
  /-- No connection can be made. -/
  | unreachable
  /-- A mock server answers at a base URL, and nothing else does. -/
  | serving (base : String) (server : Mock.Server)

namespace Network

/-- A header value as it arrives: without spaces and tabs at its ends. -/
def trimValue (bs : Bytes) : Bytes :=
  let blank (b : UInt8) : Bool := b == 0x20 || b == 0x09
  ((bs.dropWhile blank).reverse.dropWhile blank).reverse

/-- Headers as they arrive. -/
def onWire (h : Headers) : Headers := ⟨h.fields.map fun f ↦ (f.1, trimValue f.2)⟩

/-- A request as it arrives. -/
def arriving (r : Mock.Recorded) : Mock.Recorded := { r with headers := onWire r.headers }

/-- A response as it arrives. There is no body after a `HEAD` request, nor with the statuses 204
and 304. -/
def returning (r : Mock.Recorded) (response : Response) : Response :=
  { response with
    headers := onWire response.headers
    body :=
      if r.method = .head ∨ [204, 304].contains response.status.code then [] else response.body }

/-- Sends a request to the server. The answer comes after the delay of the canned response, which a
timer rounds up to whole milliseconds. -/
def exchange? (n : Network) (r : Mock.Recorded) : Option (Response × Duration × Network) :=
  match n with
  | unreachable => none
  | serving base server =>
    let (canned, server) := server.arrive (arriving r)
    some (returning r canned.toResponse, (canned.delay.getD ⟨0⟩).roundUp, serving base server)

/-- What the server has received. -/
def received : Network → List Mock.Recorded
  | unreachable => []
  | serving _ server => server.received

/-- Whether a URL leads to the server. -/
def reaches (n : Network) (u : Url) : Bool :=
  match n with
  | unreachable => false
  | serving base _ =>
    match Url.ofText? base with
    | some b => b.scheme = u.scheme && b.host = u.host && b.port = u.port
    | none => false

/-! ## Redirects -/

/-- The URL that a location means, seen from another URL. -/
def resolve? (origin : Url) (location : String) : Option Url :=
  match Url.ofText? location with
  | some u => some u
  | none =>
    let stem := origin.scheme ++ ":" ++ String.ofList origin.authorityChars
    let path := String.ofList origin.path
    match location.toList with
    | '/' :: '/' :: _ => Url.ofText? (origin.scheme ++ ":" ++ location)
    | '/' :: _ => Url.ofText? (stem ++ location)
    | '?' :: _ => Url.ofText? (stem ++ path ++ location)
    | _ =>
      let folder := String.ofList (origin.path.reverse.dropWhile (· ≠ '/')).reverse
      Url.ofText? (stem ++ folder ++ location)

/-- The URL that a request names as the one it comes from. -/
def refererOf (u : Url) : Bytes := Utf8.encode { u with user := none, fragment := none }.text

/-- The request that a redirect from one URL to another leads to. It says where it comes from, but
not if it leaves a secure connection. -/
def redirected (status : Nat) (origin target : Url) (r : Mock.Recorded) : Mock.Recorded :=
  let r :=
    if origin.scheme = "https" ∧ target.scheme = "http" then r
    else { r with headers := r.headers.insert .referer (refererOf origin) }
  if status = 307 ∨ status = 308 then r
  else
    { r with
      method := if r.method = .head then .head else .get
      headers := ⟨r.headers.fields.filter fun f ↦ f.1 ≠ .contentType⟩
      body := [] }

/-- Where a response redirects to. -/
def redirect? (u : Url) (response : Response) : Option Url :=
  if [301, 302, 303, 307, 308].contains response.status.code then
    ((response.headers.get? .location).bind Utf8.decode?).bind (resolve? u)
  else none

/-- The target of a URL, as a request line has it. -/
def target? (u : Url) : Option Uri :=
  let query := match u.query with
    | some q => '?' :: q
    | none => []
  (Uri.ofText (String.ofList (u.path ++ query))).toOption

/-- The host that a request to a URL names, with the port unless it is the scheme's default. -/
def hostOf (u : Url) : Bytes :=
  Utf8.encodeChars (u.host.getD [] ++ (u.port.map fun n ↦ ':' :: Net.decimal n).getD [])

/-- A request on its way to a URL: it names the host, and the length of its body if it has one. -/
def addressed (u : Url) (uri : Uri) (r : Mock.Recorded) : Mock.Recorded :=
  let length := (HeaderName.contentLength, Utf8.encodeChars (Net.decimal r.body.length))
  { r with
    uri
    headers :=
      ⟨r.headers.fields ++ (.host, hostOf u) :: if r.body.isEmpty then [] else [length]⟩ }

/-- Sends a request once: the response, its delay and the network. -/
def sendOnce? (n : Network) (u : Url) (r : Mock.Recorded) :
    Option (Response × Duration × Network) := do
  if !n.reaches u then none
  let uri ← target? u
  n.exchange? (addressed u uri r)

/-- Sends a request and follows up to `hops` redirects: the last response, if every request is
answered and no redirect is left, the time that it took, and the network. -/
def follow (hops : Nat) (n : Network) (u : Url) (r : Mock.Recorded) :
    Option Response × Duration × Network :=
  match n.sendOnce? u r with
  | none => (none, ⟨0⟩, n)
  | some (response, delay, n) =>
    match redirect? u response with
    | none => (some response, delay, n)
    | some target =>
      match hops with
      | 0 => (none, delay, n)
      | hops + 1 =>
        let (last, more, n) := follow hops n target (redirected response.status.code u target r)
        (last, ⟨delay.nanos + more.nanos⟩, n)

end Network
end RequestTelemetry
