import RequestTelemetry.Proofs.Accounting
import RequestTelemetry.Proofs.Composition
import RequestTelemetry.Server
import RequestTelemetry.TestClient

/-!
# What a server answers and logs

A server stands around its chain like one more layer: in a journal it has place 0, and the layers of
its stack follow from place 1 on. A request whose body can be read is handed on once, and striking
the server from the journal leaves what the chain does when it is given the request directly, as a
test client gives it. A request whose body cannot be read leaves no entry below the server.

Either way the server logs one line with the method and the path that it received and the status
that it sent.
-/

namespace RequestTelemetry

open Http Tracking

/-! ## Lines that deliveries do not log -/

/-- Whether a line is a server's, about a request that came over a connection. -/
def LogLine.isServed : LogLine → Bool
  | .answered .. => true
  | .bodyUnreadable .. => true
  | _ => false

theorem filter_isServed_lines (e : Event) (ending : Ending) :
    (ending.lines e).filter LogLine.isServed = [] := by
  cases ending <;> rfl

theorem Http.Status.isServerError_iff (s : Status) :
    s.isServerError ↔ 500 ≤ s.code ∧ s.code ≤ 599 := by
  rw [isServerError, Bool.and_eq_true, decide_eq_true_eq, decide_eq_true_eq, Nat.lt_succ_iff]

namespace Server

variable {stack : LayerStack} {handler : Handler} {peer : Net.SocketAddr} {r : Incoming}

/-! ## The server around its chain -/

/-- What a server does, with the chain as the rest. -/
def step (peer : Net.SocketAddr) (r : Incoming) : Step Response :=
  .clock fun start ↦
    match r.body with
    | .ok body => .next (request r body peer) fun response ↦ (finish r start response).toStep
    | .error cause =>
      .act (.log (.bodyUnreadable r.method.name r.uri.path cause))
        (finish r start unreadable).toStep

theorem run_step (stack : LayerStack) (handler : Handler) (peer : Net.SocketAddr) (r : Incoming) :
    (step peer r).run (stack.execute handler) = handle stack handler peer r := by
  rw [step, handle, Step.run]
  cases r.body with
  | ok body => simp only [Step.run, Step.run_toStep]
  | error cause => simp only [Step.run, Step.run_toStep]

/-- The run of a server on a request. -/
def account (stack : LayerStack) (handler : Handler) (peer : Net.SocketAddr) (r : Incoming)
    (s : Scene) : Account Response :=
  (step peer r).account 0 (accountFrom handler 1 stack.layers) s

/-- The account of a server tells of what it does. -/
theorem tells_account (stack : LayerStack) (handler : Handler) (peer : Net.SocketAddr)
    (r : Incoming) (t : Timeline) :
    (account stack handler peer r t.scene).Tells t (handle stack handler peer r) := by
  rw [← run_step]
  exact (step peer r).tells_account 0 (tells_accountFrom handler stack.layers 1) t

/-- The line about the answer to a request. -/
def completion (r : Incoming) (start stop : Moment) (response : Response) : LogLine :=
  .answered r.method.name r.uri.path response.status (millisBetween start stop)

theorem account_of_ok (stack : LayerStack) (handler : Handler) (peer : Net.SocketAddr)
    {body : Bytes} (h : r.body = .ok body) (s : Scene) :
    let q := request r body peer
    let inner := accountFrom handler 1 stack.layers s q
    account stack handler peer r s = { inner with
      journal := inner.journal ++
        [⟨0, inner.scene.now, .answered q s.now inner.result⟩,
          ⟨0, inner.scene.now,
            .did (.log (completion r s.now inner.scene.now inner.result))⟩] } := by
  simp [account, step, h, Step.account, finish, Activity.toStep, Account.after, completion,
    Scene.perform]

theorem account_of_error (stack : LayerStack) (handler : Handler) (peer : Net.SocketAddr)
    {cause : String} (h : r.body = .error cause) (s : Scene) :
    account stack handler peer r s = ⟨unreadable, s,
      [⟨0, s.now, .did (.log (.bodyUnreadable r.method.name r.uri.path cause))⟩,
        ⟨0, s.now, .did (.log (completion r s.now s.now unreadable))⟩]⟩ := by
  simp [account, step, h, Step.account, finish, Activity.toStep, Account.after, completion,
    Scene.perform]

/-- Striking the server leaves what the chain does with the request. -/
theorem account_without_of_ok (stack : LayerStack) (handler : Handler) (peer : Net.SocketAddr)
    {body : Bytes} (h : r.body = .ok body) (s : Scene) :
    (account stack handler peer r s).without 0
      = stack.account handler s (request r body peer) := by
  have hchain := accountFrom_without_of_lt handler Nat.zero_lt_one stack.layers s
    (request r body peer)
  rw [LayerStack.account, ← hchain, account_of_ok stack handler peer h, Account.without,
    List.filterMap_append]
  simp only [List.filterMap_cons, without_entry_self, List.filterMap_nil, List.append_nil]
  rfl

/-! ## Exchanges -/

/-- The request that the chain gets for one that came over a connection. -/
def chainRequest? (peer : Net.SocketAddr) (r : Incoming) : Option Request :=
  r.body.toOption.map fun body ↦ request r body peer

/-- A request with its answer, and the timelines on which they came and went. -/
structure Exchange where
  peer : Net.SocketAddr
  incoming : Incoming
  before : Timeline
  response : Response
  after : Timeline

namespace Exchange

/-- The request that the chain gets. -/
def chainRequest? (x : Exchange) : Option Request := Server.chainRequest? x.peer x.incoming

/-- The line about the answer. -/
def completion (x : Exchange) : LogLine :=
  Server.completion x.incoming x.before.now x.after.now x.response

/-- The lines that are due: one about the answer, and one before it if the body cannot be read. -/
def lines (x : Exchange) : List LogLine :=
  match x.incoming.body with
  | .ok _ => [x.completion]
  | .error cause =>
    [.bodyUnreadable x.incoming.method.name x.incoming.uri.path cause, x.completion]

/-- The chain gets the received head, the whole body and the address of the peer. -/
theorem chainRequest?_of_ok (x : Exchange) {body : Bytes} (h : x.incoming.body = .ok body) :
    x.chainRequest? = some
      { method := x.incoming.method, uri := x.incoming.uri, version := x.incoming.version,
        headers := x.incoming.headers, body := some body, peer := some x.peer, marks := [] } := by
  rw [chainRequest?, Server.chainRequest?, h]
  rfl

theorem chainRequest?_of_error (x : Exchange) {cause : String}
    (h : x.incoming.body = .error cause) : x.chainRequest? = none := by
  rw [chainRequest?, Server.chainRequest?, h]
  rfl

/-- The line about the answer is an error if the server is at fault. -/
theorem level_completion (x : Exchange) :
    x.completion.level = if 500 ≤ x.response.status.code ∧ x.response.status.code ≤ 599 then .error
      else .info := by
  show (if x.response.status.isServerError then Level.error else Level.info) = _
  exact if_congr x.response.status.isServerError_iff rfl rfl

/-- The line about the answer names the request as it came, whatever the chain made of it. -/
theorem entry_completion (x : Exchange) :
    x.completion.entry =
      (x.completion.level,
        if 500 ≤ x.response.status.code ∧ x.response.status.code ≤ 599 then "Request failed"
          else "Request completed",
        [("method", .string x.incoming.method.name), ("path", .string x.incoming.uri.path),
          ("status", .string (toString x.response.status.code)),
          ("duration_ms", .string (toString (millisBetween x.before.now x.after.now)))]) := by
  have hmessage : x.completion.message
      = if 500 ≤ x.response.status.code ∧ x.response.status.code ≤ 599 then "Request failed"
        else "Request completed" := by
    show (if x.response.status.isServerError then "Request failed" else "Request completed") = _
    exact if_congr x.response.status.isServerError_iff rfl rfl
  rw [LogLine.entry, hmessage]
  rfl

end Exchange

/-- The exchange in which a server answers a request. -/
def exchange (stack : LayerStack) (handler : Handler) (t : Timeline) (peer : Net.SocketAddr)
    (r : Incoming) : Exchange :=
  let (response, after) := t.run (handle stack handler peer r)
  ⟨peer, r, t, response, after⟩

theorem exchange_eq (stack : LayerStack) (handler : Handler) (t : Timeline)
    (peer : Net.SocketAddr) (r : Incoming) :
    let a := account stack handler peer r t.scene
    exchange stack handler t peer r = ⟨peer, r, t, a.result, t.replay a.journal⟩ := by
  intro a
  rw [exchange, (tells_account stack handler peer r t).run_eq]

/-- The server itself leaves the lines that are due and nothing else. -/
theorem toldAt_effect?_exchange (stack : LayerStack) (handler : Handler) (t : Timeline)
    (peer : Net.SocketAddr) (r : Incoming) :
    toldAt 0 Entry.effect? (account stack handler peer r t.scene).journal
      = (exchange stack handler t peer r).lines.map Effect.log := by
  have hnow := congrArg Scene.now (tells_account stack handler peer r t).scene_eq
  rw [exchange_eq, Exchange.lines, Exchange.completion]
  change (Timeline.now _) = _ at hnow
  simp only [hnow]
  cases hbody : r.body with
  | ok body =>
    rw [account_of_ok stack handler peer hbody, toldAt_append,
      toldAt_accountFrom_eq_nil Nat.zero_lt_one]
    rfl
  | error cause =>
    rw [account_of_error stack handler peer hbody]
    rfl

/-- The chain gets the one request and gives the one response, or none if the body cannot be read.
-/
theorem told_exchange (stack : LayerStack) (handler : Handler) (t : Timeline)
    (peer : Net.SocketAddr) (r : Incoming) :
    let x := exchange stack handler t peer r
    let journal := (account stack handler peer r t.scene).journal
    toldAt 1 Entry.request? journal = x.chainRequest?.toList ∧
      (toldAt 0 Entry.return? journal).map (fun y ↦ (y.request, y.response))
        = (x.chainRequest?.map (·, x.response)).toList := by
  intro x journal
  have hx : x = _ := exchange_eq stack handler t peer r
  rw [hx, Exchange.chainRequest?, chainRequest?]
  cases hbody : r.body with
  | ok body =>
    have haccount := account_of_ok stack handler peer hbody t.scene
    have hjournal : journal = _ := congrArg Account.journal haccount
    rw [hjournal, haccount, toldAt_append, toldAt_append, toldAt_request?_accountFrom,
      toldAt_accountFrom_eq_nil Nat.zero_lt_one]
    exact ⟨rfl, rfl⟩
  | error cause =>
    have haccount := account_of_error stack handler peer hbody t.scene
    have hjournal : journal = _ := congrArg Account.journal haccount
    rw [hjournal]
    exact ⟨rfl, rfl⟩

/-! ## Sessions -/

/-- A turn of a server. -/
inductive Turn where
  /-- A request comes over a connection. -/
  | request (peer : Net.SocketAddr) (r : Incoming)
  /-- Time passes. -/
  | pass (d : Duration)
  /-- The background runs as far as it can without time passing. -/
  | idle

/-- The request that comes in a turn. -/
def Turn.incoming? : Turn → Option (Net.SocketAddr × Incoming)
  | request peer r => some (peer, r)
  | _ => none

/-- The turn in which the chain is given the request directly, if its body can be read. -/
def Turn.direct? : Turn → Option RequestTelemetry.Turn
  | request peer r => (chainRequest? peer r).map .request
  | pass d => some (.pass d)
  | idle => some .idle

/-- A server so far: its timeline, the journal of all requests, and the exchanges. -/
structure Session where
  timeline : Timeline := {}
  journal : List Entry := []
  exchanges : List Exchange := []

/-- Takes a turn. -/
def Session.take (stack : LayerStack) (handler : Handler) (x : Session) : Turn → Session
  | .request peer r =>
    let e := exchange stack handler x.timeline peer r
    { timeline := e.after
      journal := x.journal ++ (account stack handler peer r x.timeline.scene).journal
      exchanges := x.exchanges ++ [e] }
  | .pass d => { x with timeline := x.timeline.wait d }
  | .idle => { x with timeline := x.timeline.settle }

/-- The session of a server that takes turns one after another. -/
def session (stack : LayerStack) (handler : Handler) (turns : List Turn) : Session :=
  turns.foldl (Session.take stack handler) {}

theorem session_append (stack : LayerStack) (handler : Handler) (earlier later : List Turn) :
    session stack handler (earlier ++ later)
      = later.foldl (Session.take stack handler) (session stack handler earlier) :=
  List.foldl_append

/-- What ties the exchanges of a session to its journal and its timeline. -/
structure Session.Accounted (stack : LayerStack) (handler : Handler) (x : Session) : Prop where
  background : x.timeline.background = true
  effects_eq : toldAt 0 Entry.effect? x.journal
    = (x.exchanges.flatMap Exchange.lines).map Effect.log
  requests_eq : toldAt 1 Entry.request? x.journal = x.exchanges.filterMap Exchange.chainRequest?
  returns_eq : (toldAt 0 Entry.return? x.journal).map (fun y ↦ (y.request, y.response))
    = x.exchanges.filterMap fun e ↦ e.chainRequest?.map (·, e.response)
  logs_eq : x.timeline.logs.filter LogLine.isServed
    = (x.journal.filterMap Entry.effect?).filterMap (Effect.logged? LogLine.isServed)
  exchange_eq : ∀ e ∈ x.exchanges, e = exchange stack handler e.before e.peer e.incoming

theorem Session.Accounted.take {x : Session} (hx : x.Accounted stack handler) (turn : Turn) :
    (x.take stack handler turn).Accounted stack handler := by
  cases turn with
  | request peer r =>
    have hafter : (exchange stack handler x.timeline peer r).after
        = x.timeline.replay (account stack handler peer r x.timeline.scene).journal := by
      rw [Server.exchange_eq]
    have heffects := toldAt_effect?_exchange stack handler x.timeline peer r
    obtain ⟨hrequest, hreturn⟩ := told_exchange stack handler x.timeline peer r
    constructor
    · rw [Session.take, hafter]
      exact (Timeline.background_replay _ _).trans hx.background
    · rw [Session.take, toldAt_append, hx.effects_eq, heffects, List.flatMap_append,
        List.map_append, List.flatMap_singleton]
    · rw [Session.take, toldAt_append, hx.requests_eq, hrequest, List.filterMap_append,
        List.filterMap_eq_flatMap_toList _ [_], List.flatMap_singleton]
    · rw [Session.take, toldAt_append, List.map_append, hx.returns_eq, hreturn,
        List.filterMap_append, List.filterMap_eq_flatMap_toList _ [_], List.flatMap_singleton]
    · rw [Session.take, hafter, Timeline.filter_logs_replay filter_isServed_lines hx.background,
        hx.logs_eq, List.filterMap_append, List.filterMap_append]
    · intro e he
      rcases List.mem_append.mp he with he | he
      · exact hx.exchange_eq e he
      · obtain rfl := List.mem_singleton.mp he
        rfl
  | pass d =>
    exact ⟨(Timeline.background_wait _ _).trans hx.background, hx.effects_eq, hx.requests_eq,
      hx.returns_eq, (Timeline.filter_logs_wait filter_isServed_lines _ d).trans hx.logs_eq,
      hx.exchange_eq⟩
  | idle =>
    have hbackground := congrArg Timeline.Foreground.background
      (Timeline.foreground_settle x.timeline)
    exact ⟨hbackground.trans hx.background, hx.effects_eq, hx.requests_eq,
      hx.returns_eq, (Timeline.filter_logs_settle filter_isServed_lines _).trans hx.logs_eq,
      hx.exchange_eq⟩

theorem Session.accounted (stack : LayerStack) (handler : Handler) (turns : List Turn) :
    (session stack handler turns).Accounted stack handler := by
  -- the induction is over the turns that are left, from any session so far
  have hfrom : ∀ x : Session, x.Accounted stack handler →
      (turns.foldl (Session.take stack handler) x).Accounted stack handler := by
    induction turns with
    | nil => exact fun _ hx ↦ hx
    | cons turn turns ih => exact fun x hx ↦ ih _ (hx.take turn)
  exact hfrom {} ⟨rfl, rfl, rfl, rfl, rfl, by simp⟩

/-- There is one exchange for each request that came, in order, and later ones change nothing. -/
theorem exists_exchanges_foldl (stack : LayerStack) (handler : Handler) (x : Session)
    (turns : List Turn) :
    ∃ later, (turns.foldl (Session.take stack handler) x).exchanges = x.exchanges ++ later ∧
      later.map (fun e ↦ (e.peer, e.incoming)) = turns.filterMap Turn.incoming? := by
  induction turns generalizing x with
  | nil => exact ⟨[], (List.append_nil _).symm, rfl⟩
  | cons turn turns ih =>
    obtain ⟨later, hlater, hmap⟩ := ih (x.take stack handler turn)
    rw [List.foldl_cons, hlater]
    cases turn with
    | request peer r =>
      refine ⟨exchange stack handler x.timeline peer r :: later, ?_, ?_⟩
      · rw [Session.take, List.append_assoc]
        rfl
      · rw [List.map_cons, hmap]
        rfl
    | pass d => exact ⟨later, rfl, hmap⟩
    | idle => exact ⟨later, rfl, hmap⟩

theorem map_exchanges_session (stack : LayerStack) (handler : Handler) (turns : List Turn) :
    (session stack handler turns).exchanges.map (fun e ↦ (e.peer, e.incoming))
      = turns.filterMap Turn.incoming? := by
  obtain ⟨later, hlater, hmap⟩ := exists_exchanges_foldl stack handler {} turns
  rw [session, hlater, ← hmap]
  rfl

/-- An exchange stands after those of the requests that came earlier. -/
theorem getElem?_exchanges_session (stack : LayerStack) (handler : Handler)
    (earlier later : List Turn) (peer : Net.SocketAddr) (r : Incoming) :
    (session stack handler (earlier ++ .request peer r :: later)).exchanges[
        (earlier.filterMap Turn.incoming?).length]?
      = some (exchange stack handler (session stack handler earlier).timeline peer r) := by
  obtain ⟨after, hafter, -⟩ := exists_exchanges_foldl stack handler
    ((session stack handler earlier).take stack handler (.request peer r)) later
  rw [← map_exchanges_session stack handler earlier, List.length_map, session_append,
    List.foldl_cons, hafter, Session.take, List.append_assoc,
    List.getElem?_append_right (Nat.le_refl _), Nat.sub_self]
  rfl

/-! ## The chain on its own -/

/-- A server's session and one in which the chain is given the requests directly, as far as the
chain can tell them apart. -/
structure Session.Parallel (x : Session) (direct : RequestTelemetry.Session) : Prop where
  journal_eq : x.journal.filterMap (Entry.without 0) = direct.journal
  scene_eq : x.timeline.scene = direct.timeline.scene

theorem Session.Parallel.request {x : Session} {direct : RequestTelemetry.Session}
    (h : x.Parallel direct) (stack : LayerStack) (handler : Handler) (peer : Net.SocketAddr)
    {body : Bytes} (hbody : r.body = .ok body) :
    (x.take stack handler (.request peer r)).Parallel
      (direct.take stack handler (.request (Server.request r body peer))) := by
  have hwithout := account_without_of_ok stack handler peer hbody x.timeline.scene
  have hserver := tells_account stack handler peer r x.timeline
  have hchain := stack.tells_account handler direct.timeline (Server.request r body peer)
  rw [← h.scene_eq] at hchain
  rw [Session.take, exchange_eq, RequestTelemetry.Session.take, hchain.run_eq, ← h.scene_eq]
  constructor
  · rw [List.filterMap_append, h.journal_eq]
    exact congrArg (direct.journal ++ Account.journal ·) hwithout
  · exact hserver.scene_eq.trans ((congrArg Account.scene hwithout).trans hchain.scene_eq.symm)

theorem Session.Parallel.take {x : Session} {direct : RequestTelemetry.Session}
    (h : x.Parallel direct) (stack : LayerStack) (handler : Handler) (turn : Turn) :
    (x.take stack handler turn).Parallel
      (turn.direct?.toList.foldl (RequestTelemetry.Session.take stack handler) direct) := by
  cases turn with
  | request peer r =>
    cases hbody : r.body with
    | ok body =>
      have hdirect : (Turn.request peer r).direct?
          = some (.request (Server.request r body peer)) := by
        rw [Turn.direct?, chainRequest?, hbody]
        rfl
      rw [hdirect]
      exact h.request stack handler peer hbody
    | error cause =>
      have hdirect : (Turn.request peer r).direct? = none := by
        rw [Turn.direct?, chainRequest?, hbody]
        rfl
      have hserver := tells_account stack handler peer r x.timeline
      have haccount := account_of_error stack handler peer hbody x.timeline.scene
      rw [hdirect, Session.take, exchange_eq]
      constructor
      · rw [List.filterMap_append, h.journal_eq, haccount]
        simp [without_entry_self]
      · refine (hserver.scene_eq.trans ?_).trans h.scene_eq
        rw [haccount]
  | pass d =>
    refine ⟨h.journal_eq, ?_⟩
    show (x.timeline.wait d).scene = (direct.timeline.wait d).scene
    rw [Timeline.scene_wait, Timeline.scene_wait, h.scene_eq]
  | idle =>
    have hsettle : ∀ t : Timeline, t.settle.scene = t.scene :=
      fun t ↦ congrArg Timeline.Foreground.scene (Timeline.foreground_settle t)
    refine ⟨h.journal_eq, ?_⟩
    show x.timeline.settle.scene = direct.timeline.settle.scene
    rw [hsettle, hsettle, h.scene_eq]

/-- Without the server's own entries, a session of the server is one in which the chain is given the
requests directly. -/
theorem session_direct (stack : LayerStack) (handler : Handler) (turns : List Turn) :
    (session stack handler turns).Parallel
      (stack.session handler (turns.filterMap Turn.direct?)) := by
  have hfrom : ∀ (x : Session) (direct : RequestTelemetry.Session), x.Parallel direct →
      (turns.foldl (Session.take stack handler) x).Parallel
        ((turns.filterMap Turn.direct?).foldl
          (RequestTelemetry.Session.take stack handler) direct) := by
    induction turns with
    | nil => exact fun _ _ h ↦ h
    | cons turn turns ih =>
      intro x direct h
      have hrest := ih _ _ (h.take stack handler turn)
      rw [← List.foldl_append] at hrest
      rw [List.filterMap_cons]
      cases hdirect : turn.direct? with
      | none =>
        rw [hdirect] at hrest
        exact hrest
      | some direct =>
        rw [hdirect] at hrest
        exact hrest
  exact hfrom {} {} ⟨rfl, rfl⟩

end Server

/-! ## The test client -/

/-- A test request that spells a request over a connection: it is read as the same method, target,
headers and body, and names the peer. -/
structure TestRequest.Spells (q : TestRequest) (peer : Net.SocketAddr) (r : Incoming) : Prop where
  method_eq : q.method = r.method
  uri_eq : Uri.ofText q.target = .ok r.uri
  version_eq : r.version = .http11
  headers_eq : q.headers = r.headers
  body_eq : r.body = .ok (q.body.getD [])
  peer_eq : q.peer = some peer

/-- The chain gets the same request from both. -/
theorem TestRequest.Spells.toRequest_eq {q : TestRequest} {peer : Net.SocketAddr} {r : Incoming}
    (h : q.Spells peer r) : q.toRequest = Server.request r (q.body.getD []) peer := by
  rw [toRequest, h.uri_eq, h.method_eq, h.headers_eq, h.peer_eq, Server.request, h.version_eq]
  rfl

namespace Server

/-- Where the clock and the memory are the same, a test client gets the response that the server
sends. -/
theorem response_of_spells (stack : LayerStack) (handler : Handler) {q : TestRequest}
    {peer : Net.SocketAddr} {r : Incoming} (h : q.Spells peer r) {t u : Timeline}
    (hscene : t.scene = u.scene) :
    (u.run (q.send stack handler)).1 = (exchange stack handler t peer r).response := by
  have hwithout := account_without_of_ok stack handler peer h.body_eq t.scene
  rw [exchange_eq, TestRequest.send, h.toRequest_eq, (stack.tells_account handler u _).run_eq,
    ← hscene]
  exact (congrArg Account.result hwithout).symm

/-- **A server accounts for its requests.** For any requests that come to a server:

* each is answered, in order, and about each the server logs one line on its answer, after one on
  its body if that cannot be read, and leaves nothing else. The log holds such lines from the server
  and its chain only;
* the chain gets each request whose body can be read, once, and no others, and its responses are the
  ones that are sent. Without the server's own entries the journal is that of the chain alone;
* what the chain gets has the received method, target, version, headers and body, and the address of
  the connection's peer;
* a line on an answer is an error if the status is from 500 to 599 and information otherwise, and
  has the received method and path and the status that is sent. An unreadable body is a warning and
  is answered with 400;
* a test client that sends the same requests to the chain gets the same responses. -/
theorem server_accounts_for_requests (stack : LayerStack) (handler : Handler)
    (turns : List Turn) :
    let x := session stack handler turns
    let direct (turns : List Turn) := stack.session handler (turns.filterMap Turn.direct?)
    x.exchanges.map (fun e ↦ (e.peer, e.incoming)) = turns.filterMap Turn.incoming? ∧
      toldAt 0 Entry.effect? x.journal = (x.exchanges.flatMap Exchange.lines).map Effect.log ∧
      x.timeline.logs.filter LogLine.isServed
        = (x.journal.filterMap Entry.effect?).filterMap (Effect.logged? LogLine.isServed) ∧
      toldAt 1 Entry.request? x.journal = x.exchanges.filterMap Exchange.chainRequest? ∧
      (toldAt 0 Entry.return? x.journal).map (fun y ↦ (y.request, y.response))
        = x.exchanges.filterMap (fun e ↦ e.chainRequest?.map (·, e.response)) ∧
      x.journal.filterMap (Entry.without 0) = (direct turns).journal ∧
      (∀ e ∈ x.exchanges,
        (e.response, e.after) = e.before.run (handle stack handler e.peer e.incoming) ∧
          e.completion.level
            = (if 500 ≤ e.response.status.code ∧ e.response.status.code ≤ 599 then .error
                else .info) ∧
          ∀ cause, e.incoming.body = .error cause →
            e.response.status.code = 400 ∧ e.lines.map LogLine.level = [.warn, .info]) ∧
      (∀ e ∈ x.exchanges,
        (∀ body, e.incoming.body = .ok body →
          e.chainRequest? = some
            { method := e.incoming.method, uri := e.incoming.uri, version := e.incoming.version,
              headers := e.incoming.headers, body := some body, peer := some e.peer, marks := [] } ∧
          e.lines = [e.completion]) ∧
        (∀ cause, e.incoming.body = .error cause →
          e.chainRequest? = none ∧
          e.lines.map LogLine.entry =
            [(.warn, "Failed to read request body",
              [("method", .string e.incoming.method.name), ("path", .string e.incoming.uri.path),
                ("error", .string cause)]), e.completion.entry]) ∧
        e.completion.entry =
          (e.completion.level,
            if 500 ≤ e.response.status.code ∧ e.response.status.code ≤ 599 then "Request failed"
              else "Request completed",
            [("method", .string e.incoming.method.name), ("path", .string e.incoming.uri.path),
              ("status", .string (toString e.response.status.code)),
              ("duration_ms", .string (toString (millisBetween e.before.now e.after.now)))])) ∧
      ∀ (earlier later : List Turn) (peer : Net.SocketAddr) (r : Incoming),
        turns = earlier ++ .request peer r :: later →
          ∃ e, x.exchanges[(earlier.filterMap Turn.incoming?).length]? = some e ∧
            e.peer = peer ∧ e.incoming = r ∧
            ∀ q : TestRequest, q.Spells peer r →
              ((direct earlier).timeline.run (q.send stack handler)).1 = e.response := by
  intro x direct
  have haccounted : x.Accounted stack handler := Session.accounted stack handler turns
  refine ⟨map_exchanges_session stack handler turns, haccounted.effects_eq, haccounted.logs_eq,
    haccounted.requests_eq, haccounted.returns_eq, (session_direct stack handler turns).journal_eq,
    fun e he ↦ ?_, fun e _ ↦ ⟨fun body hbody ↦ ?_, fun cause hcause ↦ ?_, e.entry_completion⟩, ?_⟩
  · have hexchange := haccounted.exchange_eq e he
    refine ⟨?_, e.level_completion, fun cause hcause ↦ ?_⟩
    · rw [hexchange]
      rfl
    · have hresponse : e.response = unreadable := by
        rw [hexchange, exchange_eq, account_of_error stack handler e.peer hcause]
      have hlevel := e.level_completion
      rw [Exchange.lines, hcause, hresponse]
      rw [hresponse] at hlevel
      refine ⟨rfl, ?_⟩
      rw [List.map_cons, List.map_cons, hlevel]
      rfl
  · exact ⟨e.chainRequest?_of_ok hbody, by rw [Exchange.lines, hbody]⟩
  · refine ⟨e.chainRequest?_of_error hcause, ?_⟩
    rw [Exchange.lines, hcause]
    rfl
  · rintro earlier later peer r rfl
    refine ⟨_, getElem?_exchanges_session stack handler earlier later peer r, rfl, rfl,
      fun q hq ↦ ?_⟩
    exact response_of_spells stack handler hq (session_direct stack handler earlier).scene_eq

/-- A handler that is busy and sends the body back. -/
private def busyHandler : Handler := fun r ↦
  .wait (.ofMillis 3) (.done { status := { code := 503 }, body := r.body.getD [] })

/-- A request over a connection. -/
private def incoming (body : Except String Bytes) : Incoming where
  method := .post
  uri := .root
  body := body

/-- A body that breaks off does not reach the chain, and a whole one does, as a test client's. -/
theorem broken_body_stays_outside :
    let peer : Net.SocketAddr := .v4 ⟨9, 9, 9, 9⟩ 4444
    let stack : LayerStack := ⟨[Layer.mark "in"]⟩
    let earlier : List Turn := [.request peer (incoming (.error "reset")), .pass (.ofMillis 5)]
    let x := session stack busyHandler (earlier ++ [.request peer (incoming (.ok [7]))])
    let q : TestRequest := { method := .post, target := "/", body := some [7], peer := some peer }
    toldAt 1 Entry.request? x.journal
        = [{ method := .post, uri := .root, version := .http11, headers := {}, body := some [7],
             peer := some peer, marks := [] }] ∧
      x.exchanges.map (fun e ↦ e.lines.map fun l ↦ (l.level, l.message)) =
        [[(.warn, "Failed to read request body"), (.info, "Request completed")],
          [(.error, "Request failed")]] ∧
      ∃ e, x.exchanges[1]? = some e ∧ e.response.status.code = 503 ∧
        (Timeline.run { now := 5000000 } (q.send stack busyHandler)).1 = e.response := by
  intro peer stack earlier x q
  obtain ⟨-, -, -, hrequests, -, -, -, -, hclient⟩ :=
    server_accounts_for_requests stack busyHandler
      (earlier ++ [.request peer (incoming (.ok [7]))])
  have hspells : q.Spells peer (incoming (.ok [7])) := ⟨rfl, by decide, rfl, rfl, rfl, rfl⟩
  obtain ⟨e, he, -, -, hsame⟩ := hclient earlier [] peer (incoming (.ok [7])) rfl
  have hbusy : e.response.status.code = 503 := by
    obtain rfl := Option.some.inj he
    rfl
  refine ⟨hrequests.trans rfl, rfl, e, he, hbusy, ?_⟩
  exact hsame q hspells

end Server
end RequestTelemetry
