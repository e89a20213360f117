import RequestTelemetry.Proofs.Journal

/-!
# Visits

The journal of a chain as it looks from one of its places. From the place inwards the chain runs
only when a request comes to the place, and then it runs as a whole. So the journal falls into
entries from further out and into whole journals of the inner chain, each of which starts where the
entries before it left the timeline. The requests, responses and moments of these visits are also
what the place further out notes as its answers, in the same order: a layer's calls and the runs of
the rest of the chain are the same thing.

What a cumulative property is for journals alone, a threaded property is for journals that start
on a timeline.
-/

namespace RequestTelemetry

open Http Tracking

/-! ## Journals that start on a timeline -/

/-- A property of journals on timelines that passes to one journal after another. -/
structure Threaded (P : Timeline → List Entry → Prop) : Prop where
  nil : ∀ t, P t []
  append : ∀ {t : Timeline} {first second : List Entry}, P t first → P (t.replay first) second →
    P t (first ++ second)

/-- A threaded property holds of the journal of a layer if it holds of what the layer notes by
itself, and of each run of what is below it together with the answer that it brings. -/
theorem Threaded.journal_step {P : Timeline → List Entry → Prop} (hP : Threaded P) {α : Type}
    {place : Nat} {below : Scene → Request → Account Response}
    (hscene : ∀ (t : Timeline) (r : Request),
      (t.replay (below t.scene r).journal).scene = (below t.scene r).scene)
    (hown : ∀ (t : Timeline) (e : Entry), e.place = place → e.request? = none →
      e.return? = none → P t [e])
    (hnext : ∀ (t : Timeline) (r : Request), P t ((below t.scene r).journal ++
      [⟨place, (below t.scene r).scene.now, .answered r t.now (below t.scene r).result⟩]))
    (x : Step α) (t : Timeline) : P t (x.account place below t.scene).journal := by
  induction x generalizing t with
  | done a => exact hP.nil t
  | wait d rest ih =>
    have hrest := ih (t.wait d)
    rw [Timeline.scene_wait] at hrest
    exact hP.append (hown t ⟨place, t.now, .paused d⟩ rfl rfl rfl) hrest
  | clock rest ih => exact ih t.now t
  | fetch name rest ih => exact ih (t.memory name) t
  | act e rest ih =>
    have hrest := ih (t.perform e)
    rw [Timeline.scene_perform] at hrest
    exact hP.append (hown t ⟨place, t.now, .did e⟩ rfl rfl rfl) hrest
  | next r rest ih =>
    -- the note about the answer moves nothing, so the layer goes on where the run below ended
    refine hP.append (hnext t r) ?_
    have hrest := ih (below t.scene r).result (t.replay (below t.scene r).journal)
    rw [hscene] at hrest
    rw [Timeline.replay_append]
    exact hrest

/-! ## Who notes what -/

/-- An activity notes no requests. -/
theorem Activity.toldAt_request? {α : Type} (place : Nat) (x : Activity α) (s : Scene) :
    toldAt place Entry.request? (x.account place s).journal = [] := by
  induction x generalizing s with
  | done a => rfl
  | wait d rest ih => exact (toldAt_cons_self _ _ _).trans (ih _)
  | clock rest ih => exact ih _ s
  | fetch name rest ih => exact ih _ s
  | act e rest ih => exact (toldAt_cons_self _ _ _).trans (ih _)

/-- A chain notes at its outermost place the one request that it runs for. -/
theorem toldAt_request?_accountFrom (h : Handler) (place : Nat) (layers : List Layer)
    (t : Timeline) (r : Request) :
    toldAt place Entry.request? (accountFrom h place layers t.scene r).journal = [r] := by
  cases layers with
  | nil =>
    rw [accountFrom, Account.journal_after, List.singleton_append, toldAt_cons_self,
      Activity.toldAt_request?]
    rfl
  | cons l layers =>
    have hbelow : ∀ s r', toldAt place Entry.request?
        (accountFrom h (place + 1) layers s r').journal = [] :=
      toldAt_accountFrom_eq_nil (Nat.lt_succ_self place) h layers
    have hP : Threaded fun _ journal ↦ toldAt place Entry.request? journal = [] :=
      { nil := fun _ ↦ rfl
        append := fun hfirst hsecond ↦ by rw [toldAt_append, hfirst, hsecond, List.append_nil] }
    have hlayer := hP.journal_step
      (fun t r ↦ (tells_accountFrom h layers (place + 1) t r).scene_eq)
      (fun t e he hrequest _ ↦ by
        rw [toldAt, List.filterMap_cons, if_pos he, hrequest, List.filterMap_nil])
      (fun t r ↦ by
        rw [toldAt_append, hbelow, toldAt_cons_self]
        rfl)
      (l.call r) t
    rw [accountFrom, Account.journal_after, List.singleton_append, toldAt_cons_self, hlayer]
    rfl

/-! ## The grammar of visits -/

/-- A journal on a timeline, seen from a place: entries from further out, and visits, which are
whole runs of the chain from the place inwards. The last argument lists what came to the place and
what went back. -/
inductive Visits (h : Handler) (place : Nat) (inner : List Layer) :
    Timeline → List Entry → List Return → Prop where
  /-- Nothing happens. -/
  | nil (t : Timeline) : Visits h place inner t [] []
  /-- An entry from further out. -/
  | outside {t : Timeline} {e : Entry} {journal : List Entry} {returns : List Return}
      (he : e.place < place) (rest : Visits h place inner (t.follow e) journal returns) :
      Visits h place inner t (e :: journal) returns
  /-- A request comes to the place, and the chain from there inwards runs once. -/
  | visit {t : Timeline} {journal : List Entry} {returns : List Return} (r : Request)
      (rest : Visits h place inner
        (t.replay (accountFrom h place inner t.scene r).journal) journal returns) :
      Visits h place inner t ((accountFrom h place inner t.scene r).journal ++ journal)
        (⟨r, t.now, (accountFrom h place inner t.scene r).result,
          (accountFrom h place inner t.scene r).scene.now⟩ :: returns)

namespace Visits

variable {h : Handler} {place : Nat} {inner : List Layer} {t : Timeline}

theorem append {first second : List Entry} {returns returns' : List Return}
    (hfirst : Visits h place inner t first returns)
    (hsecond : Visits h place inner (t.replay first) second returns') :
    Visits h place inner t (first ++ second) (returns ++ returns') := by
  induction hfirst with
  | nil t => exact hsecond
  | outside he rest ih => exact outside he (ih hsecond)
  | visit r rest ih =>
    rw [List.append_assoc, List.cons_append]
    refine visit r (ih ?_)
    rw [← Timeline.replay_append]
    exact hsecond

/-- An entry from further out alone. -/
theorem single {e : Entry} (he : e.place < place) : Visits h place inner t [e] [] :=
  outside he (nil _)

/-- A visit alone. -/
theorem once (r : Request) :
    Visits h place inner t (accountFrom h place inner t.scene r).journal
      [⟨r, t.now, (accountFrom h place inner t.scene r).result,
        (accountFrom h place inner t.scene r).scene.now⟩] := by
  have hvisit := visit r (nil (t.replay (accountFrom h place inner t.scene r).journal))
  rwa [List.append_nil] at hvisit

/-- Where nobody came, nothing happened from the place inwards. -/
theorem place_lt {journal : List Entry} (hv : Visits h place inner t journal []) :
    ∀ e ∈ journal, e.place < place := by
  generalize hnone : ([] : List Return) = returns at hv
  induction hv with
  | nil t => exact fun e he ↦ absurd he List.not_mem_nil
  | outside he rest ih =>
    intro e' he'
    rcases List.mem_cons.mp he' with rfl | he'
    · exact he
    · exact ih hnone e' he'
  | visit r rest ih => exact absurd hnone (List.cons_ne_nil _ _).symm

/-- What came to the place is what its returns say, in order. -/
theorem requests_eq {journal : List Entry} {returns : List Return}
    (hv : Visits h place inner t journal returns) :
    toldAt place Entry.request? journal = returns.map Return.request := by
  induction hv with
  | nil t => rfl
  | outside he rest ih =>
    rw [toldAt, List.filterMap_cons, if_neg (Nat.ne_of_lt he)]
    exact ih
  | visit r rest ih => rw [toldAt_append, toldAt_request?_accountFrom, ih]; rfl

end Visits

/-! ## Calls -/

/-- The journal of a chain, seen from below one of its layers: every answer that the layer got is
that of a run of the rest of the chain, which runs at no other time. -/
theorem visits_calls (h : Handler) (l : Layer) (inner : List Layer) {outer : List Layer}
    {first place : Nat} (hplace : place = first + outer.length) (t : Timeline) (r : Request) :
    Visits h (place + 1) inner t
      (accountFrom h first (outer ++ l :: inner) t.scene r).journal
      (toldAt place Entry.return?
        (accountFrom h first (outer ++ l :: inner) t.scene r).journal) := by
  have hP : Threaded fun t journal ↦
      Visits h (place + 1) inner t journal (toldAt place Entry.return? journal) :=
    { nil := fun t ↦ .nil t
      append := fun hfirst hsecond ↦ by
        rw [toldAt_append]
        exact hfirst.append hsecond }
  -- what brings no answer to the layer is from further out
  have hsingle : ∀ (t : Timeline) (e : Entry), e.place < place + 1 →
      (e.place = place → e.return? = none) →
        Visits h (place + 1) inner t [e] (toldAt place Entry.return? [e]) := by
    intro t e he hreturn
    have hnone : toldAt place Entry.return? [e] = [] := by
      rw [toldAt, List.filterMap_cons]
      by_cases heq : e.place = place
      · rw [if_pos heq, hreturn heq]
        rfl
      · rw [if_neg heq]
        rfl
    rw [hnone]
    exact .single he
  induction outer generalizing first t r with
  | nil =>
    obtain rfl : place = first := hplace
    refine hP.append (hsingle t ⟨place, t.now, .received r⟩ (Nat.lt_succ_self _) fun _ ↦ rfl) ?_
    refine hP.journal_step (fun t r ↦ (tells_accountFrom h inner (place + 1) t r).scene_eq)
      (fun t e he _ hreturn ↦ hsingle t e (Nat.lt_succ_of_le (Nat.le_of_eq he)) fun _ ↦ hreturn)
      (fun t r ↦ ?_) (l.call r) t
    -- the layer calls: one visit, and the note of its answer
    rw [toldAt_append, toldAt_accountFrom_eq_nil (Nat.lt_succ_self place), toldAt_cons_self]
    exact (Visits.once r).append (.single (Nat.lt_succ_self _))
  | cons a outer ih =>
    rw [List.length_cons] at hplace
    refine hP.append (hsingle t ⟨first, t.now, .received r⟩ (by simp only; omega) fun _ ↦ rfl) ?_
    refine hP.journal_step
      (fun t r ↦ (tells_accountFrom h (outer ++ l :: inner) (first + 1) t r).scene_eq)
      (fun t e he _ hreturn ↦ hsingle t e (by omega) fun _ ↦ hreturn)
      (fun t r ↦ ?_) (a.call r) t
    refine hP.append (ih (by omega) t r) (hsingle _ _ (by simp only; omega) fun heq ↦ ?_)
    exact absurd heq (by simp only; omega)

/-- The journal of a chain falls into visits of any of its places. -/
theorem exists_visits (h : Handler) (outer inner : List Layer) (t : Timeline) (r : Request) :
    ∃ returns, Visits h outer.length inner t
      (accountFrom h 0 (outer ++ inner) t.scene r).journal returns := by
  rcases List.eq_nil_or_concat outer with rfl | ⟨outer, l, rfl⟩
  · exact ⟨_, .once r⟩
  · have hcalls := visits_calls h l inner (Nat.zero_add outer.length).symm t r
    rw [List.concat_eq_append, List.append_assoc, List.length_append]
    exact ⟨_, hcalls⟩

end RequestTelemetry
