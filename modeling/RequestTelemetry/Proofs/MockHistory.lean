import Mathlib.Algebra.GroupWithZero.Nat
import Mathlib.Data.List.Basic
import Mathlib.Data.List.Induction
import Mathlib.Data.Nat.Find
import RequestTelemetry.Mock.Server

/-!
# Histories of the mock server

A history is what happens to a mock server, in order: expectations are registered and requests
arrive. The server keeps a list of counters and scans it backwards at every arrival. Here the same
is said without any state, in terms of the positions in the history: an arrival *falls to* the last
registration before it that accepts it, and the number of calls of a registration is that of the
arrivals that fall to it. Registrations shadow earlier ones from their own position on only.

`Tallies` is the invariant that says what the server holds after the first so many happenings. One
happening preserves it, so it holds all along every history.
-/

namespace RequestTelemetry.Mock

open Http

/-! ## Settings of an expectation -/

/-- The response that a setting gives. -/
def Modifier.response? : Modifier → Option Canned
  | .respond response => some response
  | _ => none

/-- How often a setting asks for calls. -/
def Modifier.times? : Modifier → Option Times
  | .times n => some (.exactly n)
  | .once => some .once
  | .never => some (.exactly 0)
  | .respond _ => none

/-- The expectation that settings make: the last of each kind counts. -/
def configured (m : Matcher) (modifiers : List Modifier) : Expectation where
  matcher := m
  response := (modifiers.filterMap Modifier.response?).getLast?.getD {}
  times := (modifiers.filterMap Modifier.times?).getLast?.getD .any

theorem foldl_modify (m : Matcher) (modifiers : List Modifier) :
    modifiers.foldl Expectation.modify { matcher := m } = configured m modifiers := by
  induction modifiers using List.reverseRecOn with
  | nil => rfl
  | append_singleton modifiers x ih =>
    rw [List.foldl_append, ih, List.foldl_cons, List.foldl_nil, configured, configured,
      List.filterMap_append, List.filterMap_append]
    cases x <;> simp [Expectation.modify, Modifier.response?, Modifier.times?]

/-- The number of calls that is asked for exactly. -/
def Times.bound? : Times → Option Nat
  | once => some 1
  | exactly n => some n
  | _ => none

/-- Whether an expectation was called as often as it asks for. -/
def Expectation.Met (e : Expectation) : Prop := ∀ n, e.times.bound? = some n → e.calls = n

/-- No setting asks for anything but an exact number of calls. -/
theorem times_configured (m : Matcher) (modifiers : List Modifier) :
    (configured m modifiers).times = .any ∨
      ∃ n, (configured m modifiers).times.bound? = some n := by
  rw [configured]
  cases h : (modifiers.filterMap Modifier.times?).getLast? with
  | none => exact Or.inl rfl
  | some times =>
    obtain ⟨x, -, hx⟩ := List.mem_filterMap.mp (List.mem_of_getLast? h)
    right
    cases x with
    | respond response => exact absurd hx (by simp [Modifier.times?])
    | times n => exact ⟨n, by rw [← Option.some.inj hx]; rfl⟩
    | once => exact ⟨1, by rw [← Option.some.inj hx]; rfl⟩
    | never => exact ⟨0, by rw [← Option.some.inj hx]; rfl⟩

/-- What verification says about a made expectation, called any number of times. -/
theorem fault?_eq_none_iff {e : Expectation} {m : Matcher} {modifiers : List Modifier}
    (h : e.times = (configured m modifiers).times) : e.fault? = none ↔ e.Met := by
  rw [Expectation.fault?, Expectation.Met, h]
  rcases times_configured m modifiers with hany | ⟨n, hn⟩
  · rw [hany]
    simp [Times.allows, Times.bound?]
  · cases htimes : (configured m modifiers).times <;> rw [htimes] at hn <;>
      simp [Times.allows, Times.bound?] at hn ⊢

/-! ## Assigning a request -/

/-- A request that no expectation accepts is not assigned. -/
theorem assign_eq_none {r : Recorded} {es : List Expectation}
    (h : ∀ e ∈ es, e.matcher.accepts r = false) : assign r es = none := by
  induction es with
  | nil => rfl
  | cons e es ih =>
    have he := h e List.mem_cons_self
    rw [assign, ih fun e' he' ↦ h e' (List.mem_cons_of_mem e he')]
    simp [he]

/-- A request is assigned to the last expectation that accepts it. -/
theorem assign_append {r : Recorded} {e : Expectation} (he : e.matcher.accepts r = true)
    (before : List Expectation) {after : List Expectation}
    (h : ∀ e' ∈ after, e'.matcher.accepts r = false) :
    assign r (before ++ e :: after)
      = some (e.response, before ++ { e with calls := e.calls + 1 } :: after) := by
  induction before with
  | nil =>
    rw [List.nil_append, assign, assign_eq_none h]
    simp [he]
  | cons e' before ih =>
    rw [List.cons_append, assign, ih]
    rfl

/-- A request that is assigned adds one call. -/
theorem sum_calls_assign {r : Recorded} {es es' : List Expectation} {response : Canned}
    (h : assign r es = some (response, es')) :
    (es'.map Expectation.calls).sum = (es.map Expectation.calls).sum + 1 := by
  induction es generalizing es' with
  | nil => exact absurd h (by simp [assign])
  | cons e es ih =>
    rw [assign] at h
    cases hrest : assign r es with
    | none =>
      rw [hrest] at h
      by_cases he : e.matcher.accepts r = true
      · simp only [he, if_true, Option.some.injEq, Prod.mk.injEq] at h
        rw [← h.2, List.map_cons, List.map_cons, List.sum_cons, List.sum_cons]
        exact Nat.add_right_comm _ _ _
      · simp [he] at h
    | some x =>
      obtain ⟨response', rest⟩ := x
      rw [hrest] at h
      simp only [Option.some.injEq, Prod.mk.injEq] at h
      rw [← h.2, List.map_cons, List.map_cons, List.sum_cons, List.sum_cons,
        ih (hrest.trans (by rw [h.1]))]
      omega

/-! ## Histories -/

/-- What happens to a mock server. -/
inductive Happening where
  /-- An expectation with its settings is registered. -/
  | expect (m : Matcher) (modifiers : List Modifier)
  /-- A request arrives. -/
  | arrive (r : Recorded)

/-- The request that arrives. -/
def Happening.arrival? : Happening → Option Recorded
  | .arrive r => some r
  | .expect .. => none

/-- Whether a registration accepts a request. -/
def Happening.accepts : Happening → Recorded → Bool
  | .expect m _, r => m.accepts r
  | .arrive _, _ => false

/-- The server after a happening. -/
def Server.happen (s : Server) : Happening → Server
  | .expect m modifiers => s.expect m modifiers
  | .arrive r => (s.arrive r).2

/-- The server after a history. -/
def Server.ofHistory (history : List Happening) : Server := history.foldl happen {}

section History

variable (history : List Happening)

/-- The request that arrives at a position. -/
def arrivalAt (k : Nat) : Option Recorded := history[k]?.bind Happening.arrival?

/-- Whether there is a registration at `p` that accepts the request that arrives at `k`. -/
def acceptsAt (p k : Nat) : Bool :=
  match history[p]?, arrivalAt history k with
  | some x, some r => x.accepts r
  | _, _ => false

/-- The arrival at `k` falls to the registration at `p`: it accepts the request, and none of those
between the two does. -/
def FallsTo (k p : Nat) : Prop :=
  p < k ∧ acceptsAt history p k = true ∧ ∀ q < k, p < q → acceptsAt history q k = false

instance (k p : Nat) : Decidable (FallsTo history k p) := inferInstanceAs (Decidable (_ ∧ _))

/-- No registration before `k` accepts the request that arrives there. -/
def Unclaimed (k : Nat) : Prop := ∀ p < k, acceptsAt history p k = false

instance (k : Nat) : Decidable (Unclaimed history k) :=
  inferInstanceAs (Decidable (∀ p < k, _))

/-- How many of the first `n` happenings are arrivals that fall to a registration. -/
def callsAt (n p : Nat) : Nat := (List.range n).countP fun k ↦ FallsTo history k p

/-- The expectation registered at a position, with its calls among the first `n` happenings. -/
def expectationAt (n p : Nat) : Option Expectation :=
  match history[p]? with
  | some (.expect m modifiers) => some { configured m modifiers with calls := callsAt history n p }
  | _ => none

/-- The request that arrives at a position, if no registration before accepts it. -/
def unmatchedAt (k : Nat) : Option Recorded :=
  if Unclaimed history k then arrivalAt history k else none

end History

variable {history : List Happening} {n : Nat}

theorem acceptsAt_of_arrival {r : Recorded} (hr : arrivalAt history n = some r) {p : Nat}
    {m : Matcher} {modifiers : List Modifier} (hp : history[p]? = some (.expect m modifiers)) :
    acceptsAt history p n = m.accepts r := by
  rw [acceptsAt, hp, hr]
  rfl

theorem acceptsAt_of_no_arrival (hn : arrivalAt history n = none) (p : Nat) :
    acceptsAt history p n = false := by
  rw [acceptsAt, hn]
  cases history[p]? <;> rfl

/-- What accepts a request is a registration. -/
theorem registration_of_acceptsAt {p k : Nat} (h : acceptsAt history p k = true) :
    ∃ m modifiers, history[p]? = some (.expect m modifiers) := by
  rw [acceptsAt] at h
  cases hp : history[p]? with
  | none => simp [hp] at h
  | some x =>
    cases x with
    | expect m modifiers => exact ⟨m, modifiers, rfl⟩
    | arrive r =>
      rw [hp] at h
      cases hk : arrivalAt history k <;> simp [hk, Happening.accepts] at h

/-- An arrival falls to at most one registration. -/
theorem FallsTo.unique {k p q : Nat} (hp : FallsTo history k p) (hq : FallsTo history k q) :
    p = q := by
  rcases Nat.lt_trichotomy p q with hlt | heq | hlt
  · exact absurd hq.2.1 (by rw [hp.2.2 q hq.1 hlt]; exact Bool.false_ne_true)
  · exact heq
  · exact absurd hp.2.1 (by rw [hq.2.2 p hp.1 hlt]; exact Bool.false_ne_true)

theorem FallsTo.not_unclaimed {k p : Nat} (h : FallsTo history k p) : ¬Unclaimed history k := by
  intro hunclaimed
  exact Bool.false_ne_true ((hunclaimed p h.1).symm.trans h.2.1)

/-- An arrival falls to some registration, or none accepts it. -/
theorem exists_fallsTo_or_unclaimed (history : List Happening) (k : Nat) :
    (∃ p, FallsTo history k p) ∨ Unclaimed history k := by
  by_cases hunclaimed : Unclaimed history k
  · exact Or.inr hunclaimed
  · have hex : ∃ p, p < k ∧ acceptsAt history p k = true := by
      simpa [Unclaimed] using hunclaimed
    obtain ⟨p, hp⟩ := hex
    -- the last registration that accepts, so none after it does
    let last := Nat.findGreatest (fun p ↦ p < k ∧ acceptsAt history p k = true) k
    have hlast : last < k ∧ acceptsAt history last k = true :=
      Nat.findGreatest_spec (P := fun p ↦ p < k ∧ acceptsAt history p k = true)
        (Nat.le_of_lt hp.1) hp
    refine Or.inl ⟨last, hlast.1, hlast.2, fun q hq hlt ↦ ?_⟩
    have hnot := Nat.findGreatest_is_greatest hlt (Nat.le_of_lt hq)
    exact Bool.eq_false_iff.mpr fun haccepts ↦ hnot ⟨hq, haccepts⟩

/-! ## The invariant -/

/-- A server holds what the first `n` happenings of a history make of it. -/
structure Server.Tallies (s : Server) (history : List Happening) (n : Nat) : Prop where
  received_eq : s.received = (List.range n).filterMap (arrivalAt history)
  unmatched_eq : s.unmatched = (List.range n).filterMap (unmatchedAt history)
  expectations_eq : s.expectations = (List.range n).filterMap (expectationAt history n)

theorem filterMap_range_succ {α : Type} (f : Nat → Option α) (n : Nat) :
    (List.range (n + 1)).filterMap f = (List.range n).filterMap f ++ (f n).toList := by
  rw [List.range_succ, List.filterMap_append, List.filterMap_cons]
  cases f n <;> rfl

theorem callsAt_succ (history : List Happening) (n p : Nat) :
    callsAt history (n + 1) p = callsAt history n p + if FallsTo history n p then 1 else 0 := by
  rw [callsAt, callsAt, List.range_succ, List.countP_append, List.countP_singleton]
  simp

/-- A registration has no calls from before its own position. -/
theorem callsAt_eq_zero (history : List Happening) {n p : Nat} (h : n ≤ p + 1) :
    callsAt history n p = 0 := by
  rw [callsAt, List.countP_eq_zero]
  intro k hk hfalls
  have hlt := (of_decide_eq_true hfalls).1
  have hk' := List.mem_range.mp hk
  omega

/-- Registrations to which no arrival falls keep their number of calls. -/
theorem expectationAt_succ_of_not (hn : ∀ p < n, ¬FallsTo history n p) :
    (List.range n).filterMap (expectationAt history (n + 1))
      = (List.range n).filterMap (expectationAt history n) := by
  refine List.filterMap_congr fun p hp ↦ ?_
  rw [expectationAt, expectationAt, callsAt_succ, if_neg (hn p (List.mem_range.mp hp)),
    Nat.add_zero]

theorem Server.Tallies.expect {s : Server} (h : s.Tallies history n) {m : Matcher}
    {modifiers : List Modifier} (hn : history[n]? = some (.expect m modifiers)) :
    (s.expect m modifiers).Tallies history (n + 1) := by
  have harrival : arrivalAt history n = none := by
    rw [arrivalAt, hn]
    rfl
  -- nothing arrives, so no counter changes
  have hnot : ∀ p < n, ¬FallsTo history n p := by
    intro p _ hfalls
    rw [FallsTo, acceptsAt_of_no_arrival harrival] at hfalls
    exact Bool.false_ne_true hfalls.2.1
  have hnew : expectationAt history (n + 1) n = some (configured m modifiers) := by
    rw [expectationAt, hn, callsAt_eq_zero history (Nat.le_refl _)]
    rfl
  rw [Server.expect, register, foldl_modify]
  refine ⟨?_, ?_, ?_⟩
  · rw [filterMap_range_succ, harrival]
    exact h.received_eq.trans (List.append_nil _).symm
  · rw [filterMap_range_succ, unmatchedAt, harrival, ite_self]
    exact h.unmatched_eq.trans (List.append_nil _).symm
  · rw [filterMap_range_succ, expectationAt_succ_of_not hnot, hnew]
    exact congrArg (· ++ _) h.expectations_eq

/-- The registrations in the first `n` happenings, called as often as they were, that accept the
next arrival. -/
theorem accepts_of_mem {r : Recorded} (hr : arrivalAt history n = some r) {ps : List Nat}
    {e : Expectation} (he : e ∈ ps.filterMap (expectationAt history n)) :
    ∃ p ∈ ps, e.matcher.accepts r = acceptsAt history p n := by
  obtain ⟨p, hp, hexpectation⟩ := List.mem_filterMap.mp he
  refine ⟨p, hp, ?_⟩
  rw [expectationAt] at hexpectation
  split at hexpectation
  · rename_i m modifiers hx
    rw [acceptsAt_of_arrival hr hx, ← Option.some.inj hexpectation]
    rfl
  · exact absurd hexpectation (Option.some_ne_none e).symm

/-- What the server makes of an arrival that no registration accepts. -/
theorem Server.Tallies.arrive_unclaimed {s : Server} (h : s.Tallies history n) {r : Recorded}
    (hr : arrivalAt history n = some r) (hunclaimed : Unclaimed history n) :
    s.arrive r = (.unmatched,
      { s with received := s.received ++ [r], unmatched := s.unmatched ++ [r] }) := by
  have hnone : assign r s.expectations = none := by
    refine assign_eq_none fun e he ↦ ?_
    rw [h.expectations_eq] at he
    obtain ⟨p, hp, haccepts⟩ := accepts_of_mem hr he
    rw [haccepts, hunclaimed p (List.mem_range.mp hp)]
  rw [arrive, hnone]

theorem range_split {p n : Nat} (h : p < n) :
    List.range n = List.range p ++ p :: List.range' (p + 1) (n - p - 1) := by
  have hn : n = p + (n - p - 1 + 1) := by omega
  conv_lhs => rw [hn, List.range_eq_range', ← List.range'_append_1, List.range'_succ,
    ← List.range_eq_range', Nat.zero_add]

/-- What the server makes of an arrival that falls to a registration. -/
theorem Server.Tallies.arrive_fallsTo {s : Server} (h : s.Tallies history n) {r : Recorded}
    (hr : arrivalAt history n = some r) {p : Nat} (hfalls : FallsTo history n p) {m : Matcher}
    {modifiers : List Modifier} (hp : history[p]? = some (.expect m modifiers)) :
    s.arrive r = ((configured m modifiers).response,
      { s with
        expectations := (List.range n).filterMap (expectationAt history (n + 1))
        received := s.received ++ [r] }) := by
  have hexpectation : ∀ k, expectationAt history k p
      = some { configured m modifiers with calls := callsAt history k p } := by
    intro k
    rw [expectationAt, hp]
  -- only the counter at `p` changes
  have hother : ∀ q ≠ p, expectationAt history (n + 1) q = expectationAt history n q := by
    intro q hq
    rw [expectationAt, expectationAt, callsAt_succ, if_neg fun h ↦ hq (h.unique hfalls),
      Nat.add_zero]
  have hbefore : (List.range p).filterMap (expectationAt history (n + 1))
      = (List.range p).filterMap (expectationAt history n) :=
    List.filterMap_congr fun q hq ↦ hother q (Nat.ne_of_lt (List.mem_range.mp hq))
  have hafter : (List.range' (p + 1) (n - p - 1)).filterMap (expectationAt history (n + 1))
      = (List.range' (p + 1) (n - p - 1)).filterMap (expectationAt history n) := by
    refine List.filterMap_congr fun q hq ↦ hother q ?_
    have hle := (List.mem_range'_1.mp hq).1
    omega
  -- the scan goes backwards, so it passes what was registered after `p`
  have hrefuse : ∀ e ∈ (List.range' (p + 1) (n - p - 1)).filterMap (expectationAt history n),
      e.matcher.accepts r = false := by
    intro e he
    obtain ⟨q, hq, haccepts⟩ := accepts_of_mem hr he
    have hbounds := List.mem_range'_1.mp hq
    rw [haccepts, hfalls.2.2 q (by omega) (by omega)]
  have haccept : (configured m modifiers).matcher.accepts r = true :=
    (acceptsAt_of_arrival hr hp).symm.trans hfalls.2.1
  have hassign : assign r s.expectations = some ((configured m modifiers).response,
      (List.range n).filterMap (expectationAt history (n + 1))) := by
    rw [h.expectations_eq, range_split hfalls.1, List.filterMap_append, List.filterMap_append,
      List.filterMap_cons, List.filterMap_cons, hexpectation, hexpectation, hbefore, hafter,
      callsAt_succ, if_pos hfalls]
    exact assign_append (e := { configured m modifiers with calls := callsAt history n p })
      haccept _ hrefuse
  rw [arrive, hassign]

theorem Server.Tallies.arrive {s : Server} (h : s.Tallies history n) {r : Recorded}
    (hn : history[n]? = some (.arrive r)) : (s.arrive r).2.Tallies history (n + 1) := by
  have hr : arrivalAt history n = some r := by
    rw [arrivalAt, hn]
    rfl
  have hnew : expectationAt history (n + 1) n = none := by rw [expectationAt, hn]
  rcases exists_fallsTo_or_unclaimed history n with ⟨p, hfalls⟩ | hunclaimed
  · obtain ⟨m, modifiers, hp⟩ := registration_of_acceptsAt hfalls.2.1
    rw [h.arrive_fallsTo hr hfalls hp]
    refine ⟨?_, ?_, ?_⟩
    · rw [filterMap_range_succ, hr, ← h.received_eq]
      rfl
    · rw [filterMap_range_succ, unmatchedAt, if_neg hfalls.not_unclaimed]
      exact h.unmatched_eq.trans (List.append_nil _).symm
    · rw [filterMap_range_succ, hnew]
      exact (List.append_nil _).symm
  · have hnot : ∀ p < n, ¬FallsTo history n p := fun p _ hfalls ↦ hfalls.not_unclaimed hunclaimed
    rw [h.arrive_unclaimed hr hunclaimed]
    refine ⟨?_, ?_, ?_⟩
    · rw [filterMap_range_succ, hr, ← h.received_eq]
      rfl
    · rw [filterMap_range_succ, unmatchedAt, if_pos hunclaimed, hr, ← h.unmatched_eq]
      rfl
    · rw [filterMap_range_succ, hnew, expectationAt_succ_of_not hnot]
      exact h.expectations_eq.trans (List.append_nil _).symm

/-- After any number of happenings of a history the server holds what they make of it. -/
theorem Server.tallies_ofHistory (history : List Happening) {n : Nat} (hn : n ≤ history.length) :
    (ofHistory (history.take n)).Tallies history n := by
  induction n with
  | zero => exact ⟨rfl, rfl, rfl⟩
  | succ n ih =>
    have hlt : n < history.length := hn
    have hx : history[n]? = some history[n] := List.getElem?_eq_getElem hlt
    have hstep : ofHistory (history.take (n + 1))
        = (ofHistory (history.take n)).happen history[n] := by
      rw [ofHistory, List.take_succ_eq_append_getElem hlt, List.foldl_append]
      rfl
    rw [hstep]
    cases h : history[n] with
    | expect m modifiers => exact (ih (Nat.le_of_lt hlt)).expect (hx.trans (congrArg some h))
    | arrive r => exact (ih (Nat.le_of_lt hlt)).arrive (hx.trans (congrArg some h))

/-- The arrivals at all positions are the arrivals in order. -/
theorem filterMap_arrivalAt (history : List Happening) :
    (List.range history.length).filterMap (arrivalAt history)
      = history.filterMap Happening.arrival? := by
  induction history using List.reverseRecOn with
  | nil => rfl
  | append_singleton history x ih =>
    -- one more happening changes nothing at the positions before it
    have hbefore : (List.range history.length).filterMap (arrivalAt (history ++ [x]))
        = (List.range history.length).filterMap (arrivalAt history) := by
      refine List.filterMap_congr fun k hk ↦ ?_
      rw [arrivalAt, arrivalAt, List.getElem?_append_left (List.mem_range.mp hk)]
    rw [List.length_append, List.length_singleton, filterMap_range_succ, hbefore, ih,
      List.filterMap_append, arrivalAt, List.getElem?_concat_length]
    cases h : x.arrival? <;> simp [h]

/-! ## Conservation -/

/-- Every request that was received is unmatched or counted. -/
def Server.Conserved (s : Server) : Prop :=
  s.received.length = s.unmatched.length + (s.expectations.map Expectation.calls).sum

theorem Server.Conserved.happen {s : Server} (h : s.Conserved) (x : Happening) :
    (s.happen x).Conserved := by
  rw [Conserved] at h
  cases x with
  | expect m modifiers =>
    rw [Server.happen, Server.expect, foldl_modify, register, Conserved, List.map_append,
      List.sum_append, h]
    rfl
  | arrive r =>
    rw [Server.happen, Server.arrive]
    cases hassign : assign r s.expectations with
    | none =>
      simp only [Conserved, List.length_append, List.length_singleton]
      omega
    | some x =>
      have hsum := sum_calls_assign hassign
      simp only [Conserved, List.length_append, List.length_singleton]
      omega

theorem Server.conserved_ofHistory (history : List Happening) : (ofHistory history).Conserved := by
  induction history using List.reverseRecOn with
  | nil => rfl
  | append_singleton history x ih =>
    rw [ofHistory, List.foldl_append]
    exact ih.happen x

/-! ## The history law -/

/-- What verification says about an expectation of a history. -/
theorem fault?_of_mem {e : Expectation} {ps : List Nat}
    (he : e ∈ ps.filterMap (expectationAt history n)) : e.fault? = none ↔ e.Met := by
  obtain ⟨p, -, hexpectation⟩ := List.mem_filterMap.mp he
  rw [expectationAt] at hexpectation
  split at hexpectation
  · rename_i m modifiers _
    have htimes : e.times = (configured m modifiers).times := by
      rw [← Option.some.inj hexpectation]
    exact fault?_eq_none_iff htimes
  · exact absurd hexpectation (Option.some_ne_none e).symm

/-- An expectation that is at fault says how often it was called and how often it asks for. -/
theorem Expectation.fault?_of_ne_none {e : Expectation} (h : e.fault? ≠ none) :
    e.fault? = some ("Expectation " ++ e.matcher.diagnostic ++ " expected " ++ e.times.diagnostic ++
      " calls, got " ++ toString e.calls) := by
  rw [fault?] at h ⊢
  by_cases hallows : e.times.allows e.calls = true
  · rw [if_pos hallows] at h
    exact absurd rfl h
  · rw [if_neg hallows]

/-- Verification names the first expectation that was not called as often as it asks for. -/
theorem Server.fault?_eq_some_iff {s : Server}
    (h : ∀ e ∈ s.expectations, e.fault? = none ↔ e.Met) {text : String} :
    s.fault? = some text ↔ ∃ before e after, s.expectations = before ++ e :: after ∧
      (∀ e' ∈ before, e'.Met) ∧ ¬e.Met ∧
      text = "Expectation " ++ e.matcher.diagnostic ++ " expected " ++ e.times.diagnostic ++
        " calls, got " ++ toString e.calls := by
  rw [fault?, List.findSome?_eq_some_iff]
  constructor
  · rintro ⟨before, e, after, hsplit, htext, hbefore⟩
    rw [hsplit] at h
    have hne : e.fault? ≠ none := by
      rw [htext]
      exact Option.some_ne_none text
    refine ⟨before, e, after, hsplit, ?_, ?_, ?_⟩
    · intro e' he'
      exact (h e' (List.mem_append_left _ he')).mp (hbefore e' he')
    · intro hmet
      exact hne ((h e (by simp)).mpr hmet)
    · exact Option.some.inj (htext.symm.trans (Expectation.fault?_of_ne_none hne))
  · rintro ⟨before, e, after, hsplit, hbefore, hmet, rfl⟩
    rw [hsplit] at h
    refine ⟨before, e, after, hsplit, ?_, ?_⟩
    · apply Expectation.fault?_of_ne_none
      intro hnone
      exact hmet ((h e (by simp)).mp hnone)
    · intro e' he'
      exact (h e' (List.mem_append_left _ he')).mpr (hbefore e' he')

/-- **The history law.** After any history of registrations and arrivals:

* the received requests are the arrivals in order, and the unmatched ones are those of them that no
  registration before them accepts;
* the expectations are the registrations in order, each with the last response and the last number
  of calls that its settings give, and with the number of arrivals that fall to it as its calls, so
  that every received request is either unmatched or counted once;
* an arrival either falls to a registration, whose response answers it, or is unclaimed and is
  answered with 404 and a body that says so;
* verification fails exactly if some expectation was not called as often as it asks for, and then
  names the first of them. -/
theorem mock_history_law (history : List Happening) :
    let s := Server.ofHistory history
    let positions := List.range history.length
    s.received = history.filterMap Happening.arrival? ∧
      s.unmatched = positions.filterMap (unmatchedAt history) ∧
      s.expectations = positions.filterMap (expectationAt history history.length) ∧
      s.received.length = s.unmatched.length + (s.expectations.map Expectation.calls).sum ∧
      (∀ k r, history[k]? = some (.arrive r) →
        let answer := ((Server.ofHistory (history.take k)).arrive r).1
        (∃ p m modifiers, FallsTo history k p ∧ history[p]? = some (.expect m modifiers) ∧
            answer = (configured m modifiers).response) ∨
          (Unclaimed history k ∧ answer =
            { status := { code := 404 }, headers := {},
              body := Utf8.encode "No expectation matched", delay := none })) ∧
      (s.fault? = none ↔ ∀ e ∈ s.expectations, e.Met) ∧
      ∀ text, s.fault? = some text ↔ ∃ before e after, s.expectations = before ++ e :: after ∧
        (∀ e' ∈ before, e'.Met) ∧ ¬e.Met ∧
        text = "Expectation " ++ e.matcher.diagnostic ++ " expected " ++ e.times.diagnostic ++
          " calls, got " ++ toString e.calls := by
  intro s positions
  -- the invariant at the end of the history; answers need it at each position before
  have htallies : s.Tallies history history.length := by
    have h := Server.tallies_ofHistory history (Nat.le_refl _)
    rw [List.take_length] at h
    exact h
  have hfault : ∀ e ∈ s.expectations, e.fault? = none ↔ e.Met := by
    intro e he
    rw [htallies.expectations_eq] at he
    exact fault?_of_mem he
  refine ⟨?_, htallies.unmatched_eq, htallies.expectations_eq, Server.conserved_ofHistory history,
    ?_, ?_, ?_⟩
  · rw [htallies.received_eq, filterMap_arrivalAt]
  · intro k r hk answer
    have hr : arrivalAt history k = some r := by
      rw [arrivalAt, hk]
      rfl
    have hlt : k < history.length := (List.getElem?_eq_some_iff.mp hk).1
    have hbefore := Server.tallies_ofHistory history (Nat.le_of_lt hlt)
    rcases exists_fallsTo_or_unclaimed history k with ⟨p, hfalls⟩ | hunclaimed
    · obtain ⟨m, modifiers, hp⟩ := registration_of_acceptsAt hfalls.2.1
      refine Or.inl ⟨p, m, modifiers, hfalls, hp, ?_⟩
      exact congrArg Prod.fst (hbefore.arrive_fallsTo hr hfalls hp)
    · refine Or.inr ⟨hunclaimed, ?_⟩
      exact congrArg Prod.fst (hbefore.arrive_unclaimed hr hunclaimed)
  · rw [Server.fault?, List.findSome?_eq_none_iff]
    exact forall₂_congr hfault
  · intro text
    exact Server.fault?_eq_some_iff hfault

/-- A request that comes before any registration is unmatched. A later registration that accepts
everything shadows an earlier one from its own position on, and is named if it is called too often.
-/
theorem later_registration_shadows :
    let reply : Canned := { status := .ok }
    let history : List Happening :=
      [.arrive {}, .expect {} [.respond reply], .arrive {}, .expect {} [.never, .once],
        .arrive {}, .arrive {}]
    let s := Server.ofHistory history
    let refusal := ((Server.ofHistory (history.take 0)).arrive {}).1
    refusal.status.code = 404 ∧ refusal.body = Utf8.encode "No expectation matched" ∧
      ((Server.ofHistory (history.take 2)).arrive {}).1 = reply ∧
      ((Server.ofHistory (history.take 5)).arrive {}).1 = {} ∧
      s.received = [{}, {}, {}, {}] ∧ s.unmatched = [{}] ∧
      s.expectations.map Expectation.calls = [1, 2] ∧
      s.fault? = some ("Expectation RequestMatcher \x7b method: None, path: None, query: [], " ++
        "headers: [], json_fields: [] \x7d expected Once calls, got 2") := by
  intro reply history s refusal
  obtain ⟨hreceived, hunmatched, hexpectations, -, hanswer, -, hfault⟩ := mock_history_law history
  have hrefusal : refusal =
      { status := .notFound, body := Utf8.encode "No expectation matched" } := by
    obtain ⟨p, m, modifiers, hfalls, -, -⟩ | ⟨-, heq⟩ := hanswer 0 {} rfl
    · exact absurd hfalls.1 (Nat.not_lt_zero p)
    · exact heq
  have hcalls : s.expectations =
      [{ configured {} [.respond reply] with calls := 1 },
        { configured {} [.never, .once] with calls := 2 }] := by
    rw [hexpectations]
    rfl
  refine ⟨congrArg (Status.code ∘ Canned.status) hrefusal, congrArg Canned.body hrefusal, ?_, ?_,
    hreceived, hunmatched.trans rfl, congrArg (List.map Expectation.calls) hcalls, ?_⟩
  · obtain ⟨p, m, modifiers, hfalls, hp, heq⟩ | ⟨hunclaimed, -⟩ := hanswer 2 {} rfl
    · obtain rfl : p = 1 := hfalls.unique (by decide)
      obtain ⟨rfl, rfl⟩ := Happening.expect.inj (Option.some.inj hp)
      exact heq
    · exact absurd hunclaimed (by decide)
  · obtain ⟨p, m, modifiers, hfalls, hp, heq⟩ | ⟨hunclaimed, -⟩ := hanswer 5 {} rfl
    · obtain rfl : p = 3 := hfalls.unique (by decide)
      obtain ⟨rfl, rfl⟩ := Happening.expect.inj (Option.some.inj hp)
      exact heq
    · exact absurd hunclaimed (by decide)
  · refine (hfault _).mpr ⟨[{ configured {} [.respond reply] with calls := 1 }],
      { configured {} [.never, .once] with calls := 2 }, [], hcalls, ?_, ?_, by decide⟩
    -- nothing is asked of the first, and the second was called once too often
    · rintro e he n hn
      rw [List.mem_singleton.mp he] at hn
      exact absurd hn.symm (Option.some_ne_none n)
    · intro hmet
      exact absurd (hmet 1 rfl) (by decide)

end RequestTelemetry.Mock
