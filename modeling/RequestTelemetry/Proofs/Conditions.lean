import Mathlib.Data.List.Induction
import RequestTelemetry.Mock.Matcher

/-!
# Matchers as conjunctions

A host says which requests it expects by a sequence of calls, each of which adds a condition to a
matcher. A later method takes the place of an earlier one, and so does a later path; all other
conditions stay in force. The conditions in force at the end say all there is to say: the matcher
accepts a request exactly if each of them, made into a matcher of its own, accepts it.

A matcher decodes the query and reads the body once for all conditions that ask for them, and not at
all if none does, and it gives up at the first condition that fails. None of this shows in what it
accepts, nor does the order of the calls beyond the last method and the last path.
-/

namespace RequestTelemetry.Mock

open Http

/-- A condition, as one call adds it to a matcher. -/
inductive Condition where
  | method (method : Method)
  | path (path : String)
  | query (name value : String)
  | header (name value : String)
  | json (pointer : String) (value : Json)

namespace Condition

/-- What a condition says of a request. -/
def Holds (r : Recorded) : Condition → Prop
  | method m => r.method = m
  | path p => r.path = p
  | query name value => (name, value) ∈ queryPairs r.uri
  | header name value => r.headers.find? name = some (Utf8.encode value)
  | json pointer value => ∃ body, r.json? = some body ∧
      ∃ found, body.pointer? pointer = some found ∧ (found == value) = true

/-! ## What is in force -/

/-- A place in a matcher that holds one condition at most. -/
inductive Slot where
  | method
  | path

/-- The place of a condition, if it shares one with others. -/
def slot? : Condition → Option Slot
  | method _ => some .method
  | path _ => some .path
  | _ => none

/-- A condition takes the place of an earlier one. -/
def Replaces (c d : Condition) : Prop := ∃ slot, c.slot? = some slot ∧ d.slot? = some slot

/-- A condition is in force after a sequence of calls if one of them added it and none after that
took its place: the last method, the last path, and every condition of another kind. -/
def InForce : List Condition → Condition → Prop
  | [], _ => False
  | c :: calls, d => InForce calls d ∨ d = c ∧ ∀ e ∈ calls, ¬e.Replaces d

theorem Replaces.symm {c d : Condition} : c.Replaces d → d.Replaces c := by
  rintro ⟨slot, hc, hd⟩
  exact ⟨slot, hd, hc⟩

theorem not_replaces {c : Condition} (h : c.slot? = none) (d : Condition) : ¬d.Replaces c := by
  rintro ⟨slot, -, hslot⟩
  exact Option.some_ne_none slot (hslot.symm.trans h)

@[simp] theorem not_inForce_nil (c : Condition) : ¬InForce [] c := id

@[simp] theorem inForce_cons {c d : Condition} {calls : List Condition} :
    InForce (c :: calls) d ↔ InForce calls d ∨ d = c ∧ ∀ e ∈ calls, ¬e.Replaces d := Iff.rfl

theorem InForce.mem {calls : List Condition} {c : Condition} (h : InForce calls c) :
    c ∈ calls := by
  induction calls with
  | nil => exact h.elim
  | cons d calls ih =>
    rcases h with h | ⟨rfl, -⟩
    · exact List.mem_cons_of_mem d (ih h)
    · exact List.mem_cons_self

/-- A condition that shares its place with none is in force once it was added. -/
theorem inForce_iff_mem {calls : List Condition} {c : Condition} (h : c.slot? = none) :
    InForce calls c ↔ c ∈ calls := by
  refine ⟨InForce.mem, fun hc ↦ ?_⟩
  induction calls with
  | nil => exact absurd hc List.not_mem_nil
  | cons d calls ih =>
    rcases List.mem_cons.mp hc with rfl | hc
    · exact Or.inr ⟨rfl, fun e _ ↦ not_replaces h e⟩
    · exact Or.inl (ih hc)

theorem inForce_append {first second : List Condition} {c : Condition} :
    InForce (first ++ second) c ↔
      InForce second c ∨ InForce first c ∧ ∀ e ∈ second, ¬e.Replaces c := by
  induction first with
  | nil => simp
  | cons d first ih =>
    rw [List.cons_append, inForce_cons, ih, inForce_cons, List.forall_mem_append]
    tauto

theorem inForce_concat {calls : List Condition} {c d : Condition} :
    InForce (calls ++ [d]) c ↔ c = d ∨ InForce calls c ∧ ¬d.Replaces c := by
  simp [inForce_append]

/-- Of the conditions that take each other's place one is in force. -/
theorem InForce.unique {calls : List Condition} {c d : Condition} (hc : InForce calls c)
    (hd : InForce calls d) (h : c.Replaces d) : c = d := by
  induction calls using List.reverseRecOn with
  | nil => exact hc.elim
  | append_singleton calls e ih =>
    rw [inForce_concat] at hc hd
    rcases hc with rfl | ⟨hc, hec⟩ <;> rcases hd with rfl | ⟨hd, hed⟩
    · rfl
    · exact absurd h hed
    · exact absurd h.symm hec
    · exact ih hc hd

/-- A condition that is in force where it is added, or at the end, changes nothing. -/
theorem inForce_insert {before after : List Condition} {c : Condition}
    (h : InForce before c ∨ InForce (before ++ after) c) (d : Condition) :
    InForce (before ++ c :: after) d ↔ InForce (before ++ after) d := by
  -- either it comes again later, or it is in force where it is added
  have hc : InForce after c ∨ InForce before c := by
    rcases h with h | h
    · exact Or.inr h
    · exact (inForce_append.mp h).imp_right And.left
  rw [inForce_append, inForce_cons, inForce_append, List.forall_mem_cons]
  constructor
  · rintro ((hafter | ⟨rfl, hlast⟩) | ⟨hbefore, -, hlast⟩)
    · exact Or.inl hafter
    · exact hc.imp_right fun hbefore ↦ ⟨hbefore, hlast⟩
    · exact Or.inr ⟨hbefore, hlast⟩
  · rintro (hafter | ⟨hbefore, hlast⟩)
    · exact Or.inl (Or.inl hafter)
    by_cases hreplaces : c.Replaces d
    · rcases hc with hafter | hc
      · exact absurd hreplaces (hlast c hafter.mem)
      · -- what it replaces is the condition itself
        exact Or.inl (Or.inr ⟨(hc.unique hbefore hreplaces).symm, hlast⟩)
    · exact Or.inr ⟨hbefore, hreplaces, hlast⟩

/-- A condition that shares its place with none takes nothing out of force. -/
theorem InForce.insert {before after : List Condition} {c d : Condition} (hc : c.slot? = none)
    (h : InForce (before ++ after) d) : InForce (before ++ c :: after) d := by
  rw [inForce_append, inForce_cons, List.forall_mem_cons]
  rcases inForce_append.mp h with hafter | ⟨hbefore, hlast⟩
  · exact Or.inl (Or.inl hafter)
  · exact Or.inr ⟨hbefore, fun hreplaces ↦ not_replaces hc d hreplaces.symm, hlast⟩

end Condition

/-! ## What a matcher asks for -/

namespace Matcher

/-- Adds a condition. -/
def add (m : Matcher) : Condition → Matcher
  | .method x => m.withMethod x
  | .path p => m.withPath p
  | .query name value => m.withQuery name value
  | .header name value => m.withHeader name value
  | .json pointer value => m.withJson pointer value

/-- The matcher that a sequence of calls makes. -/
def ofCalls (calls : List Condition) : Matcher := calls.foldl add empty

/-- The matcher with one condition. -/
def only (c : Condition) : Matcher := empty.add c

/-- Whether a matcher holds a condition. -/
def Asks (m : Matcher) : Condition → Prop
  | .method x => m.method = some x
  | .path p => m.path = some p
  | .query name value => (name, value) ∈ m.query
  | .header name value => (name, value) ∈ m.headers
  | .json pointer value => (pointer, value) ∈ m.json

theorem not_asks_empty (c : Condition) : ¬empty.Asks c := by
  cases c <;> simp [empty, Asks]

/-- A condition that is added is asked for, and all others are that it does not replace. -/
theorem asks_add {m : Matcher} {c d : Condition} :
    (m.add c).Asks d ↔ d = c ∨ m.Asks d ∧ ¬c.Replaces d := by
  cases c <;> cases d <;>
    simp [add, Asks, Condition.Replaces, Condition.slot?, withMethod, withPath, withQuery,
      withHeader, withJson, or_comm, eq_comm]

/-- A matcher asks for what is in force after the calls that made it. -/
theorem asks_ofCalls {calls : List Condition} {c : Condition} :
    (ofCalls calls).Asks c ↔ Condition.InForce calls c := by
  induction calls using List.reverseRecOn with
  | nil => exact iff_of_false (not_asks_empty c) id
  | append_singleton calls d ih =>
    rw [ofCalls, List.foldl_append, List.foldl_cons, List.foldl_nil, ← ofCalls, asks_add, ih,
      Condition.inForce_concat]

/-! ## What a matcher accepts -/

section Criteria

variable {m : Matcher} {r : Recorded}

theorem methodHolds_iff :
    m.methodHolds r = true ↔ ∀ x, m.Asks (.method x) → (Condition.method x).Holds r := by
  rw [methodHolds, Option.all_eq_true]
  simp only [decide_eq_true_eq]
  exact forall₂_congr fun x _ ↦ eq_comm

theorem pathHolds_iff :
    m.pathHolds r = true ↔ ∀ p, m.Asks (.path p) → (Condition.path p).Holds r := by
  rw [pathHolds, Option.all_eq_true]
  simp only [decide_eq_true_eq]
  exact forall₂_congr fun p _ ↦ eq_comm

/-- Without a condition on the query all of them hold, so it need not be decoded. -/
theorem queryHolds_iff : m.queryHolds r = true ↔
    ∀ name value, m.Asks (.query name value) → (Condition.query name value).Holds r := by
  have hall : m.queryHolds r = true ↔ ∀ q ∈ m.query, q ∈ queryPairs r.uri := by
    rw [queryHolds]
    cases m.query with
    | nil => simp
    | cons q query => simp
  rw [hall]
  exact Prod.forall

theorem headersHold_iff : m.headersHold r = true ↔
    ∀ name value, m.Asks (.header name value) → (Condition.header name value).Holds r := by
  rw [headersHold, List.all_eq_true]
  simp only [decide_eq_true_eq]
  exact Prod.forall

/-- Without a condition on the body all of them hold, so it need not be read. With one, a body that
is no JSON fails them all. -/
theorem jsonHolds_iff : m.jsonHolds r = true ↔
    ∀ pointer value, m.Asks (.json pointer value) → (Condition.json pointer value).Holds r := by
  have hall : m.jsonHolds r = true ↔ ∀ f ∈ m.json, (Condition.json f.1 f.2).Holds r := by
    rw [jsonHolds]
    cases m.json with
    | nil => exact iff_of_true rfl fun f hf ↦ absurd hf List.not_mem_nil
    | cons f fields =>
      cases hbody : r.json? with
      | none =>
        refine iff_of_false Bool.false_ne_true fun h ↦ ?_
        obtain ⟨body, hsome, -⟩ := h f List.mem_cons_self
        exact Option.some_ne_none body (hsome.symm.trans hbody)
      | some body =>
        rw [List.isEmpty_cons, Bool.false_or, List.all_eq_true]
        refine forall₂_congr fun field _ ↦ ?_
        simp only [Condition.Holds, hbody, Option.some.injEq, exists_eq_left']
        cases body.pointer? field.1 <;> simp
  rw [hall]
  exact Prod.forall

end Criteria

/-- A matcher accepts the requests of which all holds that it asks for. -/
theorem accepts_iff {m : Matcher} {r : Recorded} :
    m.accepts r = true ↔ ∀ c, m.Asks c → c.Holds r := by
  simp only [accepts, Bool.and_eq_true, methodHolds_iff, pathHolds_iff, queryHolds_iff,
    headersHold_iff, jsonHolds_iff]
  constructor
  · rintro ⟨⟨⟨⟨hmethod, hpath⟩, hquery⟩, hheaders⟩, hjson⟩ c
    cases c with
    | method x => exact hmethod x
    | path p => exact hpath p
    | query name value => exact hquery name value
    | header name value => exact hheaders name value
    | json pointer value => exact hjson pointer value
  · intro h
    exact ⟨⟨⟨⟨fun _ ↦ h _, fun _ ↦ h _⟩, fun _ _ ↦ h _⟩, fun _ _ ↦ h _⟩, fun _ _ ↦ h _⟩

theorem accepts_only_iff {c : Condition} {r : Recorded} :
    (only c).accepts r = true ↔ c.Holds r := by
  rw [accepts_iff]
  simp only [only, asks_add, not_asks_empty, false_and, or_false, forall_eq]

theorem accepts_ofCalls_iff {calls : List Condition} {r : Recorded} :
    (ofCalls calls).accepts r = true ↔ ∀ c, Condition.InForce calls c → c.Holds r := by
  rw [accepts_iff]
  simp only [asks_ofCalls]

/-- Calls after which the same is in force make matchers that accept the same. -/
theorem accepts_ofCalls_congr {calls calls' : List Condition}
    (h : ∀ c, Condition.InForce calls c ↔ Condition.InForce calls' c) (r : Recorded) :
    (ofCalls calls).accepts r = (ofCalls calls').accepts r := by
  rw [Bool.eq_iff_iff, accepts_ofCalls_iff, accepts_ofCalls_iff]
  simp only [h]

open Condition

/-- **A matcher is the conjunction of its conditions.** For any sequence of calls and any request:

* the matcher accepts the request exactly if for every condition in force the matcher with that
  condition alone does, which does so if the condition holds of the request;
* the same calls in another order make a matcher that accepts the same, as long as the last method
  and the last path are the same;
* a condition that is in force anyway can be added once more anywhere;
* a condition on the query, a header or the body that is added anywhere makes no request acceptable;
* the matcher without conditions accepts everything. -/
theorem matcher_is_conjunction (calls : List Condition) (r : Recorded) :
    ((ofCalls calls).accepts r = true ↔ ∀ c, InForce calls c → (only c).accepts r = true) ∧
      (∀ c : Condition, (only c).accepts r = true ↔ c.Holds r) ∧
      (∀ calls', calls.Perm calls' →
        (∀ c, c.slot? ≠ none → (InForce calls c ↔ InForce calls' c)) →
          (ofCalls calls').accepts r = (ofCalls calls).accepts r) ∧
      (∀ before c after, calls = before ++ after → InForce before c ∨ InForce calls c →
        (ofCalls (before ++ c :: after)).accepts r = (ofCalls calls).accepts r) ∧
      (∀ before c after, calls = before ++ after → c.slot? = none →
        (ofCalls (before ++ c :: after)).accepts r = true → (ofCalls calls).accepts r = true) ∧
      empty.accepts r = true := by
  refine ⟨?_, fun c ↦ accepts_only_iff, ?_, ?_, ?_, ?_⟩
  · rw [accepts_ofCalls_iff]
    simp only [accepts_only_iff]
  · intro calls' hperm hsingle
    refine (accepts_ofCalls_congr (fun c ↦ ?_) r).symm
    by_cases hc : c.slot? = none
    · rw [inForce_iff_mem hc, inForce_iff_mem hc, hperm.mem_iff]
    · exact hsingle c hc
  · rintro before c after rfl hc
    exact accepts_ofCalls_congr (inForce_insert hc) r
  · rintro before c after rfl hc h
    rw [accepts_ofCalls_iff] at h ⊢
    exact fun d hd ↦ h d (hd.insert hc)
  · exact accepts_iff.mpr fun c hc ↦ absurd hc (not_asks_empty c)

/-- Conditions on a header, the body, a method and the query in two orders, with one of them
repeated and one added. -/
theorem conditions_in_two_orders :
    let calls : List Condition :=
      [.header "X-Id" "7", .json "/n" (.bool true), .method .get, .query "a" "1", .method .post]
    let r : Recorded :=
      { method := .post, uri := ⟨none, none, "/", some "b&a=1"⟩
        headers := ⟨[(⟨"x-id"⟩, Utf8.encode "7")]⟩, body := Utf8.encode "\x7b\"n\":true\x7d" }
    (ofCalls [.json "/n" (.bool true), .header "X-Id" "7", .method .get, .query "a" "1",
        .method .post]).accepts r = (ofCalls calls).accepts r ∧
      (ofCalls [.header "X-Id" "7", .json "/n" (.bool true), .method .get, .query "a" "1",
        .json "/n" (.bool true), .method .post]).accepts r = (ofCalls calls).accepts r ∧
      (ofCalls [.header "X-Id" "7", .json "/n" (.bool true), .method .get, .query "a" "1",
        .query "b" "", .method .post]).accepts r = true ∧
      (ofCalls calls).accepts r = true := by
  intro calls r
  obtain ⟨-, -, horder, hrepeat, hadd, -⟩ := matcher_is_conjunction calls r
  have haccepts : (ofCalls [.header "X-Id" "7", .json "/n" (.bool true), .method .get,
      .query "a" "1", .query "b" "", .method .post]).accepts r = true := by
    decide +kernel
  refine ⟨horder _ (List.Perm.swap _ _ _) fun c hc ↦ ?_, ?_, haccepts, ?_⟩
  · cases c with
    | method x => simp [calls, Condition.Replaces, Condition.slot?]
    | path p => simp [calls]
    | query name value => exact absurd rfl hc
    | header name value => exact absurd rfl hc
    | json pointer value => exact absurd rfl hc
  · exact hrepeat [.header "X-Id" "7", .json "/n" (.bool true), .method .get, .query "a" "1"]
      (.json "/n" (.bool true)) [.method .post] rfl
      (Or.inl (by simp [Condition.Replaces, Condition.slot?]))
  · exact hadd [.header "X-Id" "7", .json "/n" (.bool true), .method .get, .query "a" "1"]
      (.query "b" "") [.method .post] rfl rfl haccepts

end Matcher
end RequestTelemetry.Mock
