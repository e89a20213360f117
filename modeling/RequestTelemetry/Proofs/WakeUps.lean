import Mathlib.Data.List.Nodup
import RequestTelemetry.Mock.Waiting

/-!
# No wake-up is lost

Waiters look at the list of arrivals and go to sleep in separate steps, and an arrival is put on the
list and announced in separate steps, so an arrival can fall between any two steps of a waiter. What
makes this safe is that a waiter listens before it looks: an arrival that is announced before the
waiter listens is on the list when it looks, and one that is announced afterwards is heard.

The invariant says this of every waiter that heard nothing since it listened: all the arrivals that
are announced are too few for it. So once the arrival that completes its number is announced, a
waiter sleeps only if it heard something, and then its own steps bring it back, whatever else
happens between them. A waiter that returns with too few arrivals does so after its deadline.
-/

namespace RequestTelemetry.Mock

/-- Whether a waiter is back. -/
def Phase.isBack : Phase → Bool
  | returned _ _ => true
  | _ => false

/-- How far a waiter is from coming back, if the list is long enough for it. -/
def Phase.distance : Phase → Nat
  | drowsy _ => 5
  | sleeping _ => 4
  | starting => 3
  | listening _ => 2
  | overdue => 1
  | returned _ _ => 0

@[simp] theorem Phase.distance_hear (phase : Phase) : phase.hear.distance = phase.distance := by
  cases phase <;> rfl

theorem Phase.distance_eq_zero_iff {phase : Phase} :
    phase.distance = 0 ↔ ∃ requests moment, phase = returned requests moment := by
  cases phase <;> simp [distance]

namespace Waiting

/-! ## What is announced -/

/-- The arrival at a position is on the list and announced. -/
def Announced (s : Waiting) (p : Nat) : Prop := p < s.received.length ∧ p ∉ s.unannounced

/-- One state comes after another: the list is longer, more is announced and time has passed. -/
structure Precedes (s t : Waiting) : Prop where
  received : s.received <+: t.received
  announced : ∀ p, s.Announced p → t.Announced p
  now : s.now ≤ t.now

theorem Precedes.refl (s : Waiting) : s.Precedes s :=
  ⟨List.prefix_refl _, fun _ h ↦ h, Nat.le_refl _⟩

theorem Precedes.trans {s t u : Waiting} (h : s.Precedes t) (h' : t.Precedes u) : s.Precedes u :=
  ⟨h.received.trans h'.received, fun p hp ↦ h'.announced p (h.announced p hp),
    Nat.le_trans h.now h'.now⟩

/-- An arrival that is put on the list is not announced by that. -/
theorem announced_put_iff {s : Waiting} {r : Recorded} {p : Nat} :
    (s.put r).Announced p ↔ s.Announced p := by
  simp only [Announced, put, List.length_append, List.length_singleton, List.mem_append,
    List.mem_singleton]
  constructor
  · rintro ⟨hlt, hnot⟩
    obtain ⟨hold, hne⟩ := not_or.mp hnot
    exact ⟨by omega, hold⟩
  · rintro ⟨hlt, hold⟩
    exact ⟨by omega, not_or.mpr ⟨hold, by omega⟩⟩

theorem precedes_of_step? {s t : Waiting} {step : WaitingStep} (h : s.step? step = some t) :
    s.Precedes t := by
  cases step with
  | join count timeout =>
    obtain rfl := Option.some.inj h
    exact ⟨List.prefix_refl _, fun p hp ↦ hp, Nat.le_refl _⟩
  | move i m =>
    obtain ⟨w, phase, -, -, rfl⟩ := step?_move_eq_some_iff.mp h
    exact ⟨List.prefix_refl _, fun p hp ↦ hp, Nat.le_refl _⟩
  | put r =>
    obtain rfl := Option.some.inj h
    exact ⟨List.prefix_append _ _, fun p hp ↦ announced_put_iff.mpr hp, Nat.le_refl _⟩
  | announce position =>
    obtain ⟨-, rfl⟩ := step?_announce_eq_some_iff.mp h
    exact ⟨List.prefix_refl _, fun p hp ↦ ⟨hp.1, fun hmem ↦ hp.2 (List.mem_of_mem_erase hmem)⟩,
      Nat.le_refl _⟩
  | pass moment =>
    obtain ⟨hle, rfl⟩ := step?_pass_eq_some_iff.mp h
    exact ⟨List.prefix_refl _, fun p hp ↦ hp, hle⟩

/-- What every step keeps, every run keeps. -/
theorem run_induction {motive : Waiting → Prop}
    (hstep : ∀ {s t : Waiting} {step : WaitingStep}, motive s → s.step? step = some t → motive t)
    {s : Waiting} (hs : motive s) (steps : List WaitingStep) : motive (s.run steps) := by
  induction steps generalizing s with
  | nil => exact hs
  | cons step steps ih =>
    rw [run_cons]
    cases h : s.step? step with
    | none => exact ih hs
    | some t => exact ih (hstep hs h)

theorem precedes_run (s : Waiting) (steps : List WaitingStep) : s.Precedes (s.run steps) :=
  run_induction (motive := s.Precedes) (fun h hstep ↦ h.trans (precedes_of_step? hstep))
    (.refl s) steps

/-! ## The invariant -/

/-- What the phase of a waiter says about the list and the time. -/
def Fits (s : Waiting) (w : Waiter) : Prop :=
  match w.phase with
  | .drowsy false => ∀ p, s.Announced p → p + 1 < w.count
  | .sleeping false => ∀ p, s.Announced p → p + 1 < w.count
  | .overdue => w.deadline ≤ s.now
  | .returned requests moment =>
    requests <+: s.received ∧ moment ≤ s.now ∧ (requests.length < w.count → w.deadline ≤ moment)
  | _ => True

/-- Every waiter's phase fits, and an arrival waits for its announcement at most once. -/
structure Sound (s : Waiting) : Prop where
  fits : ∀ w ∈ s.waiters, s.Fits w
  nodup : s.unannounced.Nodup
  lt_length : ∀ p ∈ s.unannounced, p < s.received.length

/-- A waiter whose phase fits still fits when nothing more is announced. -/
theorem Fits.of_precedes {s t : Waiting} {w : Waiter} (h : s.Fits w) (hst : s.Precedes t)
    (hannounced : ∀ p, t.Announced p → s.Announced p) : t.Fits w := by
  obtain ⟨count, deadline, phase⟩ := w
  cases phase with
  | starting => trivial
  | listening announced => trivial
  | drowsy announced =>
    cases announced with
    | false => exact fun p hp ↦ h p (hannounced p hp)
    | true => trivial
  | sleeping announced =>
    cases announced with
    | false => exact fun p hp ↦ h p (hannounced p hp)
    | true => trivial
  | overdue => exact Nat.le_trans h hst.now
  | returned requests moment =>
    obtain ⟨hreceived, hmoment, hdeadline⟩ := h
    exact ⟨hreceived.trans hst.received, Nat.le_trans hmoment hst.now, hdeadline⟩

/-- A waiter that hears an announcement fits whatever is announced. -/
theorem Fits.hear {s t : Waiting} {w : Waiter} (h : s.Fits w) (hst : s.Precedes t) :
    t.Fits { w with phase := w.phase.hear } := by
  obtain ⟨count, deadline, phase⟩ := w
  cases phase with
  | starting => trivial
  | listening announced => trivial
  | drowsy announced => trivial
  | sleeping announced => trivial
  | overdue => exact Nat.le_trans h hst.now
  | returned requests moment =>
    obtain ⟨hreceived, hmoment, hdeadline⟩ := h
    exact ⟨hreceived.trans hst.received, Nat.le_trans hmoment hst.now, hdeadline⟩

/-- The steps of a waiter from one phase to another. -/
inductive Goes (s : Waiting) (w : Waiter) : Move → Phase → Phase → Prop
  | listen : Goes s w .listen .starting (.listening false)
  | find (announced : Bool) (h : w.count ≤ s.received.length) :
    Goes s w .look (.listening announced) (.returned s.received s.now)
  | miss (announced : Bool) (h : s.received.length < w.count) :
    Goes s w .look (.listening announced) (.drowsy announced)
  | sleep (announced : Bool) : Goes s w .sleep (.drowsy announced) (.sleeping announced)
  | wake : Goes s w .wake (.sleeping true) .starting
  | expire (h : w.deadline ≤ s.now) : Goes s w .expire (.sleeping false) .overdue
  | collect : Goes s w .collect .overdue (.returned s.received s.now)

theorem goes_of_next? {s : Waiting} {w : Waiter} {m : Move} {phase : Phase}
    (h : s.next? w m = some phase) : s.Goes w m w.phase phase := by
  unfold next? at h
  split at h
  · next heq =>
    obtain rfl := Option.some.inj h
    exact heq ▸ .listen
  · next announced heq =>
    rw [heq]
    split at h
    · next hle =>
      obtain rfl := Option.some.inj h
      exact .find announced hle
    · next hgt =>
      obtain rfl := Option.some.inj h
      exact .miss announced (Nat.not_le.mp hgt)
  · next announced heq =>
    obtain rfl := Option.some.inj h
    exact heq ▸ .sleep announced
  · next heq =>
    obtain rfl := Option.some.inj h
    exact heq ▸ .wake
  · next heq =>
    rw [heq]
    split at h
    · next hle =>
      obtain rfl := Option.some.inj h
      exact .expire hle
    · exact absurd h.symm (Option.some_ne_none phase)
  · next heq =>
    obtain rfl := Option.some.inj h
    exact heq ▸ .collect
  · exact absurd h.symm (Option.some_ne_none phase)

/-- The step of a waiter leads to a phase that fits. -/
theorem Fits.goes {s : Waiting} {w : Waiter} {m : Move} {phase : Phase} (h : s.Fits w)
    (hgoes : s.Goes w m w.phase phase) : s.Fits { w with phase } := by
  obtain ⟨count, deadline, before⟩ := w
  cases hgoes with
  | listen => trivial
  | find announced hle =>
    exact ⟨List.prefix_refl _, Nat.le_refl _, fun hlt ↦ absurd hle (Nat.not_le.mpr hlt)⟩
  | miss announced hlt =>
    -- what is announced is on the list, and the list is too short
    cases announced with
    | false => exact fun p hp ↦ Nat.lt_of_le_of_lt hp.1 hlt
    | true => trivial
  | sleep announced =>
    cases announced with
    | false => exact h
    | true => trivial
  | wake => trivial
  | expire hle => exact hle
  | collect => exact ⟨List.prefix_refl _, Nat.le_refl _, fun _ ↦ h⟩

theorem sound_empty : Sound {} where
  fits _ hw := absurd hw List.not_mem_nil
  nodup := List.nodup_nil
  lt_length _ hp := absurd hp List.not_mem_nil

/-- Every step keeps the invariant. -/
theorem Sound.step {s t : Waiting} {step : WaitingStep} (hs : s.Sound)
    (h : s.step? step = some t) : t.Sound := by
  have hst := precedes_of_step? h
  cases step with
  | join count timeout =>
    obtain rfl := Option.some.inj h
    refine ⟨fun w hw ↦ ?_, hs.nodup, hs.lt_length⟩
    rcases List.mem_append.mp hw with hw | hw
    · exact (hs.fits w hw).of_precedes hst fun p hp ↦ hp
    · obtain rfl := List.mem_singleton.mp hw
      trivial
  | move i m =>
    obtain ⟨v, phase, hv, hnext, rfl⟩ := step?_move_eq_some_iff.mp h
    refine ⟨fun w hw ↦ ?_, hs.nodup, hs.lt_length⟩
    obtain ⟨j, hj⟩ := List.mem_iff_getElem?.mp hw
    rw [getElem?_setPhase] at hj
    split at hj
    · next heq =>
      subst heq
      rw [hv] at hj
      obtain rfl := Option.some.inj hj
      have hfits := (hs.fits v (List.mem_of_getElem? hv)).goes (goes_of_next? hnext)
      exact hfits.of_precedes hst fun p hp ↦ hp
    · exact (hs.fits w (List.mem_of_getElem? hj)).of_precedes hst fun p hp ↦ hp
  | put r =>
    obtain rfl := Option.some.inj h
    refine ⟨fun w hw ↦ ?_, ?_, fun p hp ↦ ?_⟩
    · exact (hs.fits w hw).of_precedes hst fun p hp ↦ announced_put_iff.mp hp
    · refine List.nodup_append.mpr ⟨hs.nodup, List.nodup_singleton _, fun p hp q hq ↦ ?_⟩
      rw [List.mem_singleton.mp hq]
      exact Nat.ne_of_lt (hs.lt_length p hp)
    · rw [put, List.length_append, List.length_singleton]
      rcases List.mem_append.mp hp with hp | hp
      · exact Nat.lt_succ_of_lt (hs.lt_length p hp)
      · rw [List.mem_singleton.mp hp]
        exact Nat.lt_succ_self _
  | announce position =>
    obtain ⟨-, rfl⟩ := step?_announce_eq_some_iff.mp h
    refine ⟨fun w hw ↦ ?_, hs.nodup.erase position,
      fun p hp ↦ hs.lt_length p (List.mem_of_mem_erase hp)⟩
    obtain ⟨v, hv, rfl⟩ := List.mem_map.mp hw
    exact (hs.fits v hv).hear hst
  | pass moment =>
    obtain ⟨-, rfl⟩ := step?_pass_eq_some_iff.mp h
    exact ⟨fun w hw ↦ (hs.fits w hw).of_precedes hst fun p hp ↦ hp, hs.nodup, hs.lt_length⟩

theorem Sound.run {s : Waiting} (hs : s.Sound) (steps : List WaitingStep) : (s.run steps).Sound :=
  run_induction Sound.step hs steps

/-- What was announced is announced: it did not wait for that twice. -/
theorem Sound.announced_of_announce {s t : Waiting} {p : Nat} (hs : s.Sound)
    (h : s.step? (.announce p) = some t) : t.Announced p := by
  obtain ⟨hp, rfl⟩ := step?_announce_eq_some_iff.mp h
  exact ⟨hs.lt_length p hp, hs.nodup.not_mem_erase⟩

/-! ## The way back -/

/-- How the phase of a waiter for `count` requests changes once they are announced: it comes no
further away, comes back with enough, and is back for good. -/
structure Nears (count : Nat) (before after : Phase) : Prop where
  distance_le : after.distance ≤ before.distance
  enough : before.isBack = false → ∀ requests moment, after = .returned requests moment →
    count ≤ requests.length
  back : before.isBack = true → after = before

theorem Nears.refl (count : Nat) (phase : Phase) : Nears count phase phase where
  distance_le := Nat.le_refl _
  enough := by
    rintro h requests moment rfl
    exact absurd h.symm Bool.false_ne_true
  back _ := rfl

theorem Nears.trans {count : Nat} {before middle after : Phase} (h : Nears count before middle)
    (h' : Nears count middle after) : Nears count before after where
  distance_le := Nat.le_trans h'.distance_le h.distance_le
  enough := by
    intro hbefore requests moment hafter
    cases hmiddle : middle.isBack with
    | false => exact h'.enough hmiddle requests moment hafter
    | true => exact h.enough hbefore requests moment ((h'.back hmiddle).symm.trans hafter)
  back hbefore := by
    have heq := h.back hbefore
    exact (h'.back (heq ▸ hbefore)).trans heq

theorem nears_hear (count : Nat) (phase : Phase) : Nears count phase phase.hear := by
  cases phase with
  | returned requests moment => exact .refl count _
  | _ => exact ⟨Nat.le_refl _, fun _ _ _ h ↦ Phase.noConfusion h, fun h ↦ Bool.noConfusion h⟩

/-- A waiter that is not back comes nearer by a step that does not bring it back either. -/
theorem nears_of_distance_lt (count : Nat) {before after : Phase} (hbefore : before.isBack = false)
    (hafter : after.isBack = false) (hlt : after.distance < before.distance) :
    Nears count before after where
  distance_le := Nat.le_of_lt hlt
  enough := by
    rintro - requests moment rfl
    exact absurd hafter.symm Bool.false_ne_true
  back hback := absurd (hbefore.symm.trans hback) Bool.false_ne_true

/-- A waiter that is not back comes nearer by coming back with enough. -/
theorem nears_returned {count : Nat} {before : Phase} (hbefore : before.isBack = false)
    {requests : List Recorded} (hlong : count ≤ requests.length) (moment : Tracking.Moment) :
    Nears count before (.returned requests moment) where
  distance_le := Nat.zero_le _
  enough := by
    intro _ _ _ heq
    obtain ⟨rfl, -⟩ := Phase.returned.inj heq
    exact hlong
  back hback := absurd (hbefore.symm.trans hback) Bool.false_ne_true

/-- A step of a waiter brings it nearer if the list is long enough. -/
theorem Goes.nears {s : Waiting} {w : Waiter} {m : Move} {before after : Phase}
    (h : s.Goes w m before after) (hlong : w.count ≤ s.received.length) :
    Nears w.count before after ∧ after.distance < before.distance := by
  have hlt : after.distance < before.distance := by
    cases h with
    | miss announced hshort => exact absurd hlong (Nat.not_le.mpr hshort)
    | _ => simp [Phase.distance]
  refine ⟨?_, hlt⟩
  cases h with
  | listen => exact nears_of_distance_lt _ rfl rfl hlt
  | find announced _ => exact nears_returned rfl hlong _
  | miss announced hshort => exact absurd hlong (Nat.not_le.mpr hshort)
  | sleep announced => exact nears_of_distance_lt _ rfl rfl hlt
  | wake => exact nears_of_distance_lt _ rfl rfl hlt
  | expire _ => exact nears_of_distance_lt _ rfl rfl hlt
  | collect => exact nears_returned rfl hlong _

/-- What a step does to a waiter when the requests it waits for are announced. -/
theorem exists_nears_step {s : Waiting} (step : WaitingStep) {i : Nat} {w : Waiter}
    (hw : s.waiters[i]? = some w) (hlong : w.count ≤ s.received.length) :
    ∃ phase, ((s.step? step).getD s).waiters[i]? = some { w with phase } ∧
      Nears w.count w.phase phase := by
  cases h : s.step? step with
  | none => exact ⟨w.phase, hw, .refl _ _⟩
  | some t =>
    rw [Option.getD_some]
    cases step with
    | join count timeout =>
      obtain rfl := Option.some.inj h
      refine ⟨w.phase, ?_, .refl _ _⟩
      rw [join, List.getElem?_append_left (List.getElem?_eq_some_iff.mp hw).1]
      exact hw
    | move j m =>
      obtain ⟨v, phase, hv, hnext, rfl⟩ := step?_move_eq_some_iff.mp h
      rw [getElem?_setPhase]
      split
      · next heq =>
        subst heq
        obtain rfl : v = w := Option.some.inj (hv.symm.trans hw)
        rw [hw]
        exact ⟨phase, rfl, ((goes_of_next? hnext).nears hlong).1⟩
      · exact ⟨w.phase, hw, .refl _ _⟩
    | put r =>
      obtain rfl := Option.some.inj h
      exact ⟨w.phase, hw, .refl _ _⟩
    | announce position =>
      obtain ⟨-, rfl⟩ := step?_announce_eq_some_iff.mp h
      refine ⟨w.phase.hear, ?_, nears_hear _ _⟩
      rw [announce, List.getElem?_map, hw]
      rfl
    | pass moment =>
      obtain ⟨-, rfl⟩ := step?_pass_eq_some_iff.mp h
      exact ⟨w.phase, hw, .refl _ _⟩

end Waiting

/-- The step that a waiter at a distance has to take. -/
def Move.due : Nat → Move
  | 5 => sleep
  | 4 => wake
  | 3 => listen
  | 2 => look
  | _ => collect

/-- The steps that a waiter has to take from a distance on. -/
def Move.dueFrom : Nat → List Move
  | 0 => []
  | k + 1 => due (k + 1) :: dueFrom k

namespace Waiting

variable {s : Waiting} {w : Waiter} {p i : Nat}

/-- A waiter that heard nothing waits for more than what is announced. -/
theorem Fits.phase_ne_sleeping (h : s.Fits w) (hp : s.Announced p) (hcount : w.count ≤ p + 1) :
    w.phase ≠ .sleeping false := by
  intro hphase
  rw [Fits, hphase] at h
  exact Nat.not_lt.mpr hcount (h p hp)

/-- A waiter can take the step it has to take. -/
theorem exists_next?_due (h : s.Fits w) (hp : s.Announced p) (hcount : w.count ≤ p + 1)
    (hback : 0 < w.phase.distance) :
    ∃ phase, s.next? w (.due w.phase.distance) = some phase := by
  have hawake := h.phase_ne_sleeping hp hcount
  obtain ⟨count, deadline, phase⟩ := w
  cases phase with
  | starting => exact ⟨_, rfl⟩
  | listening announced =>
    exact ⟨_, if_pos (Nat.le_trans hcount hp.1)⟩
  | drowsy announced => exact ⟨_, rfl⟩
  | sleeping announced =>
    cases announced with
    | false => exact absurd rfl hawake
    | true => exact ⟨_, rfl⟩
  | overdue => exact ⟨_, rfl⟩
  | returned requests moment => exact absurd hback (Nat.lt_irrefl 0)

/-- The step that is due brings a waiter nearer by one at least. -/
theorem exists_nears_due {k : Nat} (hs : s.Sound) (hw : s.waiters[i]? = some w)
    (hp : s.Announced p) (hcount : w.count ≤ p + 1) (hk : w.phase.distance ≤ k + 1) :
    ∃ phase, ((s.step? (.move i (.due (k + 1)))).getD s).waiters[i]? = some { w with phase } ∧
      Nears w.count w.phase phase ∧ phase.distance ≤ k := by
  have hlong : w.count ≤ s.received.length := Nat.le_trans hcount hp.1
  rcases Nat.lt_or_eq_of_le hk with hlt | heq
  · obtain ⟨phase, hphase, hnears⟩ := exists_nears_step (.move i (.due (k + 1))) hw hlong
    exact ⟨phase, hphase, hnears, Nat.le_trans hnears.distance_le (Nat.le_of_lt_succ hlt)⟩
  · have hfits := hs.fits w (List.mem_of_getElem? hw)
    obtain ⟨phase, hnext⟩ := exists_next?_due hfits hp hcount (heq ▸ Nat.succ_pos k)
    rw [heq] at hnext
    obtain ⟨hnears, hlt⟩ := (goes_of_next? hnext).nears hlong
    refine ⟨phase, ?_, hnears, by omega⟩
    rw [step?_move_eq_some_iff.mpr ⟨w, phase, hw, hnext, rfl⟩, Option.getD_some,
      getElem?_setPhase, if_pos rfl, hw]
    rfl

/-- A waiter whose requests are announced is back after the steps it has to take, whatever else
happens before, between and after them. -/
theorem exists_back_of_sublist (further : List WaitingStep) {s : Waiting} {w : Waiter} {k : Nat}
    (hs : s.Sound) (hw : s.waiters[i]? = some w) (hp : s.Announced p) (hcount : w.count ≤ p + 1)
    (hk : w.phase.distance ≤ k)
    (hsub : ((Move.dueFrom k).map (WaitingStep.move i)).Sublist further) :
    ∃ phase, (s.run further).waiters[i]? = some { w with phase } ∧
      Nears w.count w.phase phase ∧ phase.distance = 0 := by
  induction further generalizing s w k with
  | nil =>
    cases k with
    | zero => exact ⟨w.phase, hw, .refl _ _, Nat.le_zero.mp hk⟩
    | succ k => exact absurd (List.eq_nil_of_sublist_nil hsub) (List.cons_ne_nil _ _)
  | cons step further ih =>
    have hlong : w.count ≤ s.received.length := Nat.le_trans hcount hp.1
    have hs' : ((s.step? step).getD s).Sound := hs.run [step]
    have hp' : ((s.step? step).getD s).Announced p := (precedes_run s [step]).announced p hp
    -- the step is the one that is due, or it is another one
    suffices hstep : ∃ phase k', ((s.step? step).getD s).waiters[i]? = some { w with phase } ∧
        Nears w.count w.phase phase ∧ phase.distance ≤ k' ∧
        ((Move.dueFrom k').map (WaitingStep.move i)).Sublist further by
      obtain ⟨phase, k', hphase, hnears, hk', hsub'⟩ := hstep
      obtain ⟨last, hlast, hnears', hzero⟩ := ih hs' hphase hp' hcount hk' hsub'
      exact ⟨last, hlast, hnears.trans hnears', hzero⟩
    rcases List.sublist_cons_iff.mp hsub with hsub' | ⟨rest, hcons, hsub'⟩
    · obtain ⟨phase, hphase, hnears⟩ := exists_nears_step step hw hlong
      exact ⟨phase, k, hphase, hnears, Nat.le_trans hnears.distance_le hk, hsub'⟩
    · cases k with
      | zero => exact absurd hcons.symm (List.cons_ne_nil _ _)
      | succ k =>
        obtain ⟨rfl, rfl⟩ := List.cons.inj hcons
        obtain ⟨phase, hphase, hnears, hle⟩ := exists_nears_due hs hw hp hcount hk
        exact ⟨phase, k, hphase, hnears, hle, hsub'⟩

/-- **No wake-up is lost.** Whatever steps waiters, arrivals and the clock take, a waiter that
returned with fewer requests than it wanted did so at its deadline or later, and what it returned
with stays the beginning of the list. Once an arrival that completes the number of a waiter was
announced, the waiter does not sleep without having heard an announcement, and the steps that it
still has to take bring it back, whatever else happens between them, with as many requests as it
wanted unless it was back before. -/
theorem no_wake_up_lost (steps : List WaitingStep) :
    let s := run {} steps
    (∀ w ∈ s.waiters, ∀ requests moment, w.phase = .returned requests moment →
      (requests.length < w.count → w.deadline ≤ moment) ∧ moment ≤ s.now ∧
        ∀ later, requests <+: (s.run later).received) ∧
    ∀ p t, s.step? (.announce p) = some t → ∀ later i w,
      (t.run later).waiters[i]? = some w → w.count ≤ p + 1 →
        w.phase ≠ .sleeping false ∧
        ∀ further : List WaitingStep,
          ([.move i .sleep, .move i .wake, .move i .listen, .move i .look,
            .move i .collect] : List WaitingStep).Sublist further →
          ∃ requests moment,
            ((t.run later).run further).waiters[i]? =
              some { w with phase := .returned requests moment } ∧
            (w.phase.isBack = false → w.count ≤ requests.length) := by
  intro s
  have hs : s.Sound := sound_empty.run steps
  constructor
  · intro w hw requests moment hphase
    have hfits := hs.fits w hw
    rw [Fits, hphase] at hfits
    obtain ⟨hreceived, hmoment, hdeadline⟩ := hfits
    exact ⟨hdeadline, hmoment, fun later ↦ hreceived.trans (precedes_run s later).received⟩
  · intro p t ht later i w hw hcount
    have hp : (t.run later).Announced p :=
      (precedes_run t later).announced p (hs.announced_of_announce ht)
    have hsound : (t.run later).Sound := (hs.step ht).run later
    refine ⟨(hsound.fits w (List.mem_of_getElem? hw)).phase_ne_sleeping hp hcount, ?_⟩
    intro further hsub
    have hk : w.phase.distance ≤ 5 := by cases w.phase <;> simp [Phase.distance]
    obtain ⟨phase, hphase, hnears, hzero⟩ :=
      exists_back_of_sublist further hsound hw hp hcount hk hsub
    obtain ⟨requests, moment, rfl⟩ := Phase.distance_eq_zero_iff.mp hzero
    exact ⟨requests, moment, hphase, fun hback ↦ hnears.enough hback requests moment rfl⟩

/-- An arrival is put on the list and announced between a waiter's look at the list and its sleep,
and the waiter comes back with it although time passes and another request arrives meanwhile. A
waiter for two requests that nothing else arrives for comes back with one at its deadline. -/
theorem announcement_before_sleep_is_heard :
    let s := run {} [.join 1 ⟨5⟩, .move 0 .listen, .move 0 .look, .put {}]
    let further : List WaitingStep := [.move 0 .sleep, .pass 9, .move 0 .wake, .put {},
      .move 0 .listen, .move 0 .look, .move 0 .collect]
    let late := run {} [.join 2 ⟨5⟩, .put {}, .announce 0, .move 0 .listen, .move 0 .look,
      .move 0 .sleep, .pass 5, .move 0 .expire, .move 0 .collect]
    s.step? (.announce 0) = some (s.announce 0) ∧
      (s.announce 0).waiters[0]? = some ⟨1, 5, .drowsy true⟩ ∧
      (∃ requests moment, ((s.announce 0).run further).waiters[0]? =
        some ⟨1, 5, .returned requests moment⟩ ∧ 1 ≤ requests.length) ∧
      ⟨2, 5, .returned [{}] 5⟩ ∈ late.waiters ∧ [{}] <+: (late.run [.put {}]).received := by
  intro s further late
  have hstep : s.step? (.announce 0) = some (s.announce 0) := rfl
  have hwaiter : (s.announce 0).waiters[0]? = some ⟨1, 5, .drowsy true⟩ := rfl
  have hlate : ⟨2, 5, .returned [{}] 5⟩ ∈ late.waiters := List.mem_singleton.mpr rfl
  obtain ⟨-, hback⟩ := (no_wake_up_lost _).2 0 _ hstep [] 0 _ hwaiter (Nat.le_refl 1)
  obtain ⟨requests, moment, hreturned, henough⟩ := hback further (by decide)
  refine ⟨hstep, hwaiter, ⟨requests, moment, hreturned, henough rfl⟩, hlate, ?_⟩
  exact ((no_wake_up_lost _).1 _ hlate [{}] 5 rfl).2.2 [.put {}]

end Waiting
end RequestTelemetry.Mock
