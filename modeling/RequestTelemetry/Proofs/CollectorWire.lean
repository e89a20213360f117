import RequestTelemetry.Proofs.RequestTarget
import RequestTelemetry.Proofs.TimeoutResolution
import RequestTelemetry.Tracking.HttpCollector

/-!
# Events on the wire

A collector whose endpoint is a path on a mock server sends an event; the server records one
request, and what the tracking id and the secret were can be read from it. The way leads through the
form encoding of the two, the URL, the request target and the server's own decoding, and each of
these undoes the one before whatever characters the two texts hold.

There is one thing that keeps an event from the wire: a URL of more than 65534 octets, which is no
request target. Then nothing is sent and sending fails.
-/

namespace RequestTelemetry

open Http Url Tracking

/-! ## Sending without redirects -/

/-- A request that reaches the server and is not redirected. -/
theorem Network.follow_final {n n' : Network} {u : Url} {uri : Uri} {r : Mock.Recorded}
    {response : Response} {delay : Duration} (hops : Nat) (hreach : n.reaches u = true)
    (htarget : target? u = some uri)
    (hexchange : n.exchange? (addressed u uri r) = some (response, delay, n'))
    (hfinal : redirect? u response = none) :
    n.follow hops u r = (some response, delay, n') := by
  have hsend : n.sendOnce? u r = some (response, delay, n') := by
    rw [sendOnce?, hreach, htarget]
    simp only [Bool.not_true, Bool.false_eq_true, if_false, bind, Option.bind, hexchange]
  rw [follow, hsend]
  simp only [hfinal]

/-- A value without blanks arrives as it is. -/
theorem Network.trimValue_eq_self {bs : Bytes} (h : ∀ b ∈ bs, b ≠ 0x20 ∧ b ≠ 0x09) :
    trimValue bs = bs := by
  have hkept : ∀ cs : Bytes, (∀ b ∈ cs, b ≠ 0x20 ∧ b ≠ 0x09) →
      cs.dropWhile (fun b ↦ b == 0x20 || b == 0x09) = cs := by
    intro cs hcs
    refine List.dropWhile_eq_self_iff.mpr fun hpos ↦ ?_
    simpa using hcs cs[0] (List.getElem_mem hpos)
  rw [trimValue, hkept bs h, hkept bs.reverse fun b hb ↦ h b (List.mem_reverse.mp hb),
    List.reverse_reverse]

/-- Digits, dots and colons arrive as they are. -/
theorem Network.trimValue_encodeChars {cs : List Char}
    (h : ∀ c ∈ cs, c.isDigit = true ∨ c = '.' ∨ c = ':') :
    trimValue (Utf8.encodeChars cs) = Utf8.encodeChars cs := by
  let P (c : Char) : Prop := c.toNat < 128 ∧ octetOf c ≠ 0x20 ∧ octetOf c ≠ 0x09
  have hvisible : ∀ c ∈ cs, P c := by
    intro c hc
    rcases h c hc with hdigit | rfl | rfl
    · exact forall_digit (P := P) (by decide) c hdigit
    · exact ⟨by decide, by decide, by decide⟩
    · exact ⟨by decide, by decide, by decide⟩
  rw [encodeChars_of_ascii fun c hc ↦ (hvisible c hc).1]
  exact trimValue_eq_self (List.forall_mem_map.mpr fun c hc ↦ (hvisible c hc).2)

namespace Tracking.HttpCollector

/-- The host that requests to a server at a port name: its address, with the port unless that is the
default. -/
def hostText (port : UInt16) : String :=
  if port.toNat = 80 then "127.0.0.1" else "127.0.0.1:" ++ toString port.toNat

/-- The request that carries an event to a path, as a server at a port records it. -/
def onServer (c : HttpCollector) (port : UInt16) (path : String) (e : Event) : Mock.Recorded where
  method := .post
  uri := ⟨none, none, path, some (String.ofList (Form.writePairs c.parameters))⟩
  headers := ⟨[(.contentType, Utf8.encode "application/json"), (.accept, Utf8.encode "*/*"),
    (.host, Utf8.encode (hostText port)),
    (.contentLength, Utf8.encode (toString e.toJson.length))]⟩
  body := e.toJson

theorem toList_toString (n : Nat) : (toString n).toList = Net.decimal n := by
  simp [Net.decimal, Text.decimalDigits]

theorem toList_hostText (port : UInt16) :
    (hostText port).toList = loopbackHost ++ Uri.portChars (keptPort port) := by
  rw [hostText, keptPort]
  split
  · rfl
  · rw [String.toList_append, toList_toString]
    rfl

/-- What the server records is what arrives: no value has blanks at its ends. -/
theorem arriving_onServer (c : HttpCollector) (port : UInt16) (path : String) (e : Event) :
    Network.arriving (c.onServer port path e) = c.onServer port path e := by
  have hhost : Network.trimValue (Utf8.encode (hostText port)) = Utf8.encode (hostText port) := by
    have hip : ∀ c ∈ loopbackHost, c.isDigit = true ∨ c = '.' ∨ c = ':' := by
      simp [loopbackHost]
    refine Network.trimValue_encodeChars fun c hc ↦ ?_
    rw [toList_hostText] at hc
    rcases List.mem_append.mp hc with hc | hc
    · exact hip c hc
    · exact (Uri.mem_portChars hc).elim (fun h ↦ Or.inr (Or.inr h)) Or.inl
  have hlength : Network.trimValue (Utf8.encode (toString e.toJson.length))
      = Utf8.encode (toString e.toJson.length) := by
    refine Network.trimValue_encodeChars fun c hc ↦ Or.inl ?_
    rw [toList_toString] at hc
    exact isDigit_of_mem_decimal hc
  simp only [Network.arriving, Network.onWire, onServer, List.map_cons, List.map_nil, hhost,
    hlength]
  rfl

/-! ## What the server reads -/

section Recorded

variable (c : HttpCollector) (port : UInt16) (path : String) (e : Event)

theorem queryPairs_onServer : Mock.queryPairs (c.onServer port path e).uri = c.parameters := by
  show Form.readPairs (String.ofList (Form.writePairs c.parameters)).toList = c.parameters
  rw [String.toList_ofList, Form.readPairs_writePairs]

theorem queryParam?_trackingId :
    (c.onServer port path e).queryParam? "measurement_id" = some c.trackingId := by
  rw [Mock.Recorded.queryParam?, queryPairs_onServer]
  rfl

theorem queryParam?_apiSecret :
    (c.onServer port path e).queryParam? "api_secret" = some c.apiSecret := by
  rw [Mock.Recorded.queryParam?, queryPairs_onServer]
  rfl

/-- A matcher that asks for the two parameters accepts the request. -/
theorem accepts_onServer :
    ((Mock.Matcher.empty.withQuery "measurement_id" c.trackingId).withQuery "api_secret"
      c.apiSecret).accepts (c.onServer port path e) = true := by
  have hquery : ((Mock.Matcher.empty.withQuery "measurement_id" c.trackingId).withQuery
      "api_secret" c.apiSecret).queryHolds (c.onServer port path e) = true := by
    rw [Mock.Matcher.queryHolds, queryPairs_onServer]
    simp [Mock.Matcher.withQuery, Mock.Matcher.empty, parameters]
  rw [Mock.Matcher.accepts, hquery]
  rfl

end Recorded

/-! ## The way to the server -/

/-- An endpoint on a server: its URL has the path as it was given, and neither query nor
fragment. -/
structure OnServer (port : UInt16) (path : String) (u : Url) : Prop where
  read_eq : Url.ofText? (Mock.Server.urlOf (Mock.Server.address port) path) = some u
  path_eq : u.path = path.toList
  query_eq : u.query = none
  fragment_eq : u.fragment = none

variable {c : HttpCollector} {port : UInt16} {path : String} {u : Url}

/-- The parts of the URL with the two parameters. -/
theorem OnServer.addPairs_eq (h : OnServer port path u) (ps : List (String × String)) :
    u.addPairs ps = ⟨"http", none, some loopbackHost, keptPort port, path.toList,
      some (Form.writePairs ps), none⟩ := by
  obtain ⟨hscheme, huser, hhost, hport, -⟩ := ofText?_urlOf h.read_eq h.path_eq
  have hpath := h.path_eq
  have hquery := h.query_eq
  have hfragment := h.fragment_eq
  cases u
  subst hscheme huser hhost hport hpath hquery hfragment
  rfl

/-- The path holds path characters only and starts with a slash. -/
theorem OnServer.path_spec (h : OnServer port path u) :
    ∃ rest, path.toList = '/' :: rest ∧ ∀ c ∈ path.toList, IsPathChar c := by
  obtain ⟨-, -, -, -, rest, hslash, hchars⟩ := ofText?_urlOf h.read_eq h.path_eq
  rw [h.path_eq] at hslash
  exact ⟨rest, hslash, fun c hc ↦ hchars c (hslash ▸ hc)⟩

theorem OnServer.toList_text (h : OnServer port path u) (ps : List (String × String)) :
    (u.addPairs ps).text.toList = schemeChars ++ (loopbackHost ++ Uri.portChars (keptPort port) ++
      (path.toList ++ '?' :: Form.writePairs ps)) := by
  rw [h.addPairs_eq, Url.text, String.toList_append, String.toList_ofList, authorityChars]
  cases keptPort port with
  | none => simp [schemeChars, Uri.portChars]
  | some n => simp [schemeChars, Uri.portChars]

/-- The URL of every request, if it is not too long. -/
theorem OnServer.url_eq (h : OnServer port path u)
    (hc : c.endpoint = Mock.Server.urlOf (Mock.Server.address port) path) :
    c.url = if Uri.maxLength < (Utf8.encode (u.addPairs c.parameters).text).length then
        .error (.badUrl (u.addPairs c.parameters).text)
      else .ok (u.addPairs c.parameters) := by
  obtain ⟨hscheme, huser, hhost, -, -⟩ := ofText?_urlOf h.read_eq h.path_eq
  obtain ⟨rest, hslash, hchars⟩ := h.path_spec
  have hwithoutUser : u.withoutUser = u := by rw [withoutUser, huser]
  have hweb : (u.addPairs c.parameters).scheme = "http" := hscheme
  rw [url, hc, h.read_eq]
  simp only [hhost, hwithoutUser, hweb]
  -- the URL is a request target unless it is too long
  by_cases hlong : Uri.maxLength < (Utf8.encode (u.addPairs c.parameters).text).length
  · have herror : Uri.ofText (u.addPairs c.parameters).text = .error .tooLong :=
      Uri.ofBytes_of_long hlong
    rw [herror, if_pos hlong]
    simp
  · obtain ⟨target, htarget⟩ := Uri.exists_ofText_eq_ok (keptPort port) hslash hchars
      (Form.isPairChar_of_mem_writePairs c.parameters) (h.toList_text c.parameters)
      (Nat.le_of_not_lt hlong)
    rw [htarget, if_neg hlong]
    simp

theorem OnServer.reaches (h : OnServer port path u) (ps : List (String × String))
    (server : Mock.Server) :
    (Network.serving (Mock.Server.baseUrl (Mock.Server.address port)) server).reaches
      (u.addPairs ps) = true := by
  rw [Network.reaches, ofText?_baseUrl, h.addPairs_eq]
  simp

/-- The target of every request. -/
theorem OnServer.target?_eq (h : OnServer port path u) {ps : List (String × String)}
    (hlength : (Utf8.encode (u.addPairs ps).text).length ≤ Uri.maxLength) :
    Network.target? (u.addPairs ps)
      = some ⟨none, none, path, some (String.ofList (Form.writePairs ps))⟩ := by
  obtain ⟨rest, hslash, hchars⟩ := h.path_spec
  -- the target is a part of the URL, so it is no longer than that
  have hshort : (Utf8.encodeChars (path.toList ++ '?' :: Form.writePairs ps)).length
      ≤ Uri.maxLength := by
    rw [Utf8.encode, h.toList_text, Uri.encodeChars_append, Uri.encodeChars_append,
      List.length_append, List.length_append] at hlength
    omega
  have htarget :=
    Uri.ofText_target hslash hchars (Form.isPairChar_of_mem_writePairs ps) hshort
  rw [String.ofList_toList] at htarget
  rw [Network.target?, h.addPairs_eq]
  simp only [htarget]
  rfl

/-- What a client adds on the way, the host and the length of the body, is there. -/
theorem OnServer.addressed_request (h : OnServer port path u) (c : HttpCollector) (e : Event) :
    Network.addressed (u.addPairs c.parameters)
      ⟨none, none, path, some (String.ofList (Form.writePairs c.parameters))⟩ (request e)
      = c.onServer port path e := by
  have hhost : Network.hostOf (u.addPairs c.parameters) = Utf8.encode (hostText port) := by
    rw [Utf8.encode, toList_hostText, h.addPairs_eq, Network.hostOf]
    cases keptPort port <;> rfl
  have hbody : (request e).body.isEmpty = false := rfl
  rw [Network.addressed, hhost, hbody, onServer, Utf8.encode, Utf8.encode, Utf8.encode, Utf8.encode,
    toList_toString]
  rfl

/-! ## Sending -/

/-- With too long a URL nothing is sent. -/
theorem OnServer.send_of_long (h : OnServer port path u)
    (hc : c.endpoint = Mock.Server.urlOf (Mock.Server.address port) path)
    (hlong : Uri.maxLength < (Utf8.encode (u.addPairs c.parameters).text).length) (n : Network)
    (e : Event) : c.send n e = (.failed (.badUrl (u.addPairs c.parameters).text), ⟨0⟩, n) := by
  rw [send, h.url_eq hc, if_pos hlong]

/-- Otherwise the server gets the request, if there is any time for it, and its answer decides, if
it comes in time. -/
theorem OnServer.send_of_final (h : OnServer port path u)
    (hc : c.endpoint = Mock.Server.urlOf (Mock.Server.address port) path)
    (hlength : (Utf8.encode (u.addPairs c.parameters).text).length ≤ Uri.maxLength)
    (server : Mock.Server) (e : Event)
    (hfinal : Network.redirect? (u.addPairs c.parameters)
      (Network.returning (c.onServer port path e)
        (server.arrive (c.onServer port path e)).1.toResponse) = none) :
    let base := Mock.Server.baseUrl (Mock.Server.address port)
    let canned := (server.arrive (c.onServer port path e)).1
    let delay := (canned.delay.getD ⟨0⟩).roundUp
    let n := Network.serving base (server.arrive (c.onServer port path e)).2
    c.send (.serving base server) e =
      if c.timeout.nanos = 0 then
        (.failed (.late (u.addPairs c.parameters).text), ⟨0⟩, .serving base server)
      else if c.timeout.nanos ≤ delay.nanos then
        (.failed (.late (u.addPairs c.parameters).text), c.timeout, n)
      else (judge (Network.returning (c.onServer port path e) canned.toResponse), delay, n) := by
  intro base canned delay n
  have hexchange : (Network.serving base server).exchange?
      (Network.addressed (u.addPairs c.parameters)
        ⟨none, none, path, some (String.ofList (Form.writePairs c.parameters))⟩ (request e))
      = some (Network.returning (c.onServer port path e) canned.toResponse, delay, n) := by
    rw [h.addressed_request, Network.exchange?, arriving_onServer]
  have hfollow : (Network.serving base server).follow maxRedirects (u.addPairs c.parameters)
      (request e)
        = (some (Network.returning (c.onServer port path e) canned.toResponse), delay, n) :=
    Network.follow_final maxRedirects (h.reaches c.parameters server) (h.target?_eq hlength)
      hexchange hfinal
  rw [send, h.url_eq hc, if_neg (Nat.not_lt_of_le hlength)]
  simp only [hfollow]
  rfl

/-- A resolved configuration has a timeout of at least a millisecond. -/
theorem ofConfig_resolve_timeout (config : Config) :
    (ofConfig config.resolve).timeout.nanos ≠ 0 := by
  show config.resolve.timeoutMs.toNat * 1000000 ≠ 0
  rw [Config.toNat_timeoutMs_resolve]
  split <;> omega

/-- Which answers count as taken. -/
theorem judge_returning (r : Mock.Recorded) (canned : Mock.Canned) :
    judge (Network.returning r canned.toResponse) =
      if canned.status = .ok ∨ canned.status = .noContent then .taken
      else .rejected canned.status
        (Utf8.lossy (Network.returning r canned.toResponse).body) := rfl

end Tracking.HttpCollector

open HttpCollector

/-- **The wire round trip.** For any tracking id and secret, any event, any state of the server and
any path that URLs leave as it is, if the URL with the parameters is a request target: the server
records exactly one request for an event that is sent, unless there is no time for it at all, a
`POST` to the path with the event as its body and four headers, from whose query the two texts are
read back as they were. The event counts as taken if the answer is 200 or 204, and as rejected with
its status otherwise, as long as the delay of the answer, in whole milliseconds, is shorter than the
timeout; an answer that takes no less than the timeout is too late. If the URL is too long nothing
is recorded and sending fails. A resolved configuration always leaves some time. -/
theorem collector_wire_round_trip {port : UInt16} {path : String} {u : Url}
    (h : OnServer port path u) (c : HttpCollector)
    (hc : c.endpoint = Mock.Server.urlOf (Mock.Server.address port) path) (server : Mock.Server)
    (e : Event) :
    let base := Mock.Server.baseUrl (Mock.Server.address port)
    let url := u.addPairs c.parameters
    let sent := c.send (.serving base server) e
    let r := c.onServer port path e
    let canned := (server.arrive r).1
    let delay := canned.delay.getD ⟨0⟩
    (Uri.maxLength < (Utf8.encode url.text).length →
      sent = (.failed (.badUrl url.text), ⟨0⟩, .serving base server)) ∧
    ((Utf8.encode url.text).length ≤ Uri.maxLength →
      200 ≤ canned.status.code →
      Network.redirect? url (Network.returning r canned.toResponse) = none →
      (c.timeout.nanos ≠ 0 →
        sent.2.2 = .serving base (server.arrive r).2 ∧
        sent.2.2.received = server.received ++ [r]) ∧
      (r.method = .post ∧ r.path = path ∧ r.body = e.toJson ∧
        r.headers.fields =
          [(⟨"content-type"⟩, Utf8.encode "application/json"), (⟨"accept"⟩, Utf8.encode "*/*"),
            (⟨"host"⟩, Utf8.encode (if port.toNat = 80 then "127.0.0.1"
              else "127.0.0.1:" ++ toString port.toNat)),
            (⟨"content-length"⟩, Utf8.encode (toString e.toJson.length))]) ∧
      (Mock.queryPairs r.uri
          = [("measurement_id", c.trackingId), ("api_secret", c.apiSecret)] ∧
        r.queryParam? "measurement_id" = some c.trackingId ∧
        r.queryParam? "api_secret" = some c.apiSecret ∧
        ((Mock.Matcher.empty.withQuery "measurement_id" c.trackingId).withQuery "api_secret"
          c.apiSecret).accepts r = true) ∧
      (timerTick delay.nanos < c.timeout.nanos →
        (sent.1 = .taken ↔ canned.status = .ok ∨ canned.status = .noContent) ∧
        (¬(canned.status = .ok ∨ canned.status = .noContent) →
          ∃ body, sent.1 = .rejected canned.status body)) ∧
      (c.timeout.nanos ≤ delay.nanos → sent.1 = .failed (.late url.text))) ∧
    ∀ config : Config, (ofConfig config.resolve).timeout.nanos ≠ 0 := by
  intro base url sent r canned delay
  refine ⟨fun hlong ↦ h.send_of_long hc hlong _ e, ?_, ofConfig_resolve_timeout⟩
  intro hlength _ hfinal
  have hsend := h.send_of_final hc hlength server e hfinal
  refine ⟨fun htimeout ↦ ?_, ⟨rfl, rfl, rfl, rfl⟩, ⟨queryPairs_onServer c port path e,
    queryParam?_trackingId c port path e, queryParam?_apiSecret c port path e,
    accepts_onServer c port path e⟩, fun hintime ↦ ?_, fun hlate ↦ ?_⟩
  · have hnetwork : sent.2.2 = .serving base (server.arrive r).2 := by
      rw [show sent = _ from hsend, if_neg htimeout]
      split <;> rfl
    refine ⟨hnetwork, ?_⟩
    rw [hnetwork]
    exact Mock.Server.received_arrive server r
  · have hresult : sent.1 = judge (Network.returning r canned.toResponse) := by
      rw [show sent = _ from hsend, if_neg (Nat.ne_zero_of_lt hintime)]
      exact congrArg Prod.fst (if_neg (Nat.not_le_of_lt hintime))
    rw [hresult, judge_returning]
    by_cases htaken : canned.status = .ok ∨ canned.status = .noContent
    · rw [if_pos htaken]
      exact ⟨⟨fun _ ↦ htaken, fun _ ↦ rfl⟩, fun hnot ↦ absurd htaken hnot⟩
    · rw [if_neg htaken]
      refine ⟨⟨fun heq ↦ ?_, fun htaken' ↦ absurd htaken' htaken⟩, fun _ ↦ ⟨_, rfl⟩⟩
      exact absurd heq (by simp)
  · rw [show sent = _ from hsend]
    split
    · rfl
    · exact congrArg Prod.fst (if_pos (hlate.trans (le_timerTick _)))

/-- The endpoint `/mp/collect` of a server at port 8080. -/
theorem onServer_collect : OnServer 8080 "/mp/collect"
    ⟨"http", none, some loopbackHost, some 8080, "/mp/collect".toList, none, none⟩ where
  read_eq := by decide +kernel
  path_eq := rfl
  query_eq := rfl
  fragment_eq := rfl

/-- A secret made of separators arrives as it was, at an expectation that asks for the host. -/
theorem separators_arrive :
    let c : HttpCollector :=
      ⟨Mock.Server.urlOf (Mock.Server.address 8080) "/mp/collect", "G-1", "a+b&c=d%", .ofMillis 5⟩
    let server := Mock.Server.expect {} (Mock.Matcher.empty.withHeader "host" "127.0.0.1:8080")
      [.respond { delay := some (.ofMillis 4) }]
    let sent := c.send (.serving (Mock.Server.baseUrl (Mock.Server.address 8080)) server) default
    sent.1 = .taken ∧ sent.2.2.received = [c.onServer 8080 "/mp/collect" default] ∧
      (c.onServer 8080 "/mp/collect" default).queryParam? "api_secret" = some "a+b&c=d%" := by
  intro c server sent
  obtain ⟨hreceived, -, ⟨-, -, hsecret, -⟩, hintime, -⟩ :=
    (collector_wire_round_trip onServer_collect c rfl server default).2.1
      (by decide +kernel) (by decide +kernel) (by decide +kernel)
  exact ⟨(hintime (by decide +kernel)).1.mpr (Or.inr (by decide +kernel)),
    (hreceived (by decide)).2, hsecret⟩

/-! ## Long texts -/

theorem length_le_encodeChars (cs : List Char) : cs.length ≤ (Utf8.encodeChars cs).length := by
  induction cs with
  | nil => exact Nat.le_refl 0
  | cons c cs ih =>
    have hpos : 0 < (String.utf8EncodeChar c).length :=
      List.length_pos_iff.mpr String.utf8EncodeChar_ne_nil
    rw [Utf8.encodeChars, List.flatMap_cons, List.length_append, ← Utf8.encodeChars,
      List.length_cons]
    omega

theorem length_write_replicate (n : Nat) :
    (Form.write (String.ofList (List.replicate n 'a'))).length = n := by
  rw [Form.write, Utf8.encode, String.toList_ofList]
  induction n with
  | zero => rfl
  | succ n ih =>
    rw [List.replicate_succ, Utf8.encodeChars, List.flatMap_cons, List.flatMap_append,
      List.length_append, ← Utf8.encodeChars, ih, Nat.add_comm]
    rfl

/-- A URL with the parameters is at least as long as the tracking id that is written in it. -/
theorem length_write_trackingId_le {port : UInt16} {path : String} {u : Url}
    (h : OnServer port path u) (c : HttpCollector) :
    (Form.write c.trackingId).length ≤ (Utf8.encode (u.addPairs c.parameters).text).length := by
  have hpairs : (Form.write c.trackingId).length ≤ (Form.writePairs c.parameters).length := by
    rw [parameters, Form.writePairs, Form.writePair]
    simp only [List.length_append, List.length_cons]
    omega
  have htext : (Form.writePairs c.parameters).length
      ≤ (u.addPairs c.parameters).text.toList.length := by
    rw [h.toList_text]
    simp only [List.length_append, List.length_cons]
    omega
  exact hpairs.trans (htext.trans (length_le_encodeChars _))

/-- Two sends to a server that would take the event. With a tracking id that alone is longer than a
request target may be, a collector makes no request at all: the server records nothing, and sending
fails. With an answer that comes after the timeout sending fails too, although the answer is 200. -/
theorem long_trackingId_and_late_answer_fail :
    let base := Mock.Server.baseUrl (Mock.Server.address 8080)
    let endpoint := Mock.Server.urlOf (Mock.Server.address 8080) "/mp/collect"
    let long : HttpCollector :=
      ⟨endpoint, String.ofList (List.replicate 65535 'a'), "", .ofMillis 5000⟩
    let hasty : HttpCollector := ⟨endpoint, "G-1", "", .ofMillis 100⟩
    let slow := Mock.Server.expect {} Mock.Matcher.empty
      [.respond { status := .ok, delay := some (.ofMillis 2000) }]
    ((long.send (.serving base {}) default).2.2.received = [] ∧
        ∃ cause, (long.send (.serving base {}) default).1 = .failed cause) ∧
      ∃ url, (hasty.send (.serving base slow) default).1 = .failed (.late url) := by
  intro base endpoint long hasty slow
  have hid : Uri.maxLength < (Form.write long.trackingId).length := by
    rw [length_write_replicate]
    decide
  have hlong := Nat.lt_of_lt_of_le hid (length_write_trackingId_le onServer_collect long)
  have hhasty :=
    onServer_collect.send_of_final (c := hasty) rfl (by decide +kernel) slow default rfl
  rw [onServer_collect.send_of_long rfl hlong, hhasty]
  exact ⟨⟨rfl, _, rfl⟩, _,
    congrArg Prod.fst ((if_neg (by decide)).trans (if_pos (by decide +kernel)))⟩

end RequestTelemetry
