import RequestTelemetry.Http.Request
import RequestTelemetry.Text.Blank

/-!
# Client identity

The IP address of a client comes from the first forwarding header that is not empty, and of that
from the first entry of its list; without one it is the address of the peer. The client id is the
value of a cookie, and without the cookie the IP address followed by the user agent.

Neither is a credential: a client can set every header.
-/

namespace RequestTelemetry.Tracking

open Http

/-- The headers in which proxies hand on the client's address, in order. -/
def forwardingHeaders : List String := ["x-forwarded-for", "x-real-ip"]

/-- The first entry of a list with commas, without the blanks around it. -/
def firstEntry (list : String) : String :=
  String.ofList (Text.trim (list.toList.takeWhile (· ≠ ',')))

/-- The IP address of the client, or nothing if it is not known. -/
def clientIp (r : Request) : String :=
  match (forwardingHeaders.filterMap r.header?).find? (· ≠ "") with
  | some list => firstEntry list
  | none => (r.peer.map fun a ↦ a.ip.text).getD ""

/-! ## Cookies -/

/-- The pieces of a text between separators. -/
def pieces (separator : Char) : List Char → List (List Char)
  | [] => [[]]
  | c :: rest =>
    if c = separator then [] :: pieces separator rest
    else
      match pieces separator rest with
      | piece :: more => (c :: piece) :: more
      | [] => [[c]]

/-- The name and the value of a cookie: a segment is split at its first equals sign, blanks around
both sides do not count, and a cookie has a name. -/
def cookieOf? (segment : List Char) : Option (String × String) :=
  let (name, rest) := (segment.takeWhile (· ≠ '='), segment.dropWhile (· ≠ '='))
  match rest with
  | [] => none
  | _ :: value =>
    match Text.trim name with
    | [] => none
    | name => some (String.ofList name, String.ofList (Text.trim value))

/-- The cookies of a header value, in order. A value that is not ASCII throughout has none. -/
def cookiesOf (value : Bytes) : List (String × String) :=
  match asciiValue? value with
  | none => []
  | some s => (pieces ';' s.toList).filterMap cookieOf?

/-- The cookies of a request, in order. -/
def cookies (r : Request) : List (String × String) :=
  (r.headers.getAll .cookie).flatMap cookiesOf

/-- The value of the first cookie of a name that is not empty. -/
def cookieValue? (r : Request) (name : String) : Option String :=
  ((cookies r).find? fun c ↦ c.1 = name && c.2 ≠ "").map Prod.snd

/-- The id of the client: the value of the cookie, or the IP address and the user agent. -/
def clientId (r : Request) (cookieName : String) : String :=
  (cookieValue? r cookieName).getD (clientIp r ++ r.userAgent)

end RequestTelemetry.Tracking
