import Mathlib.Data.List.Nodup
import Mathlib.Data.List.Perm.Basic
import RequestTelemetry.Tracking.Config

/-!
# Settings assigned one after another

A section and the environment are both read in this way: what they hold comes down to a list of
assignments, each of a setting with the value that is given for it, or with none if what is given is
no value of the setting. The list is walked once, and the walk remembers the settings that it met.

It comes to its end exactly if no setting occurs twice and every assignment has a value. The
configuration it ends with has those values and, elsewhere, those of the start. As neither says
anything about the order of the assignments, the order does not matter.
-/

namespace RequestTelemetry.Tracking.Config

/-- A setting with the value that is given for it, if it is one. -/
structure Assignment where
  field : Field
  value? : Option field.kind.Carrier

/-- Assigns settings one after another; `seen` are those already assigned. -/
def assign? (seen : List Field) (c : Config) : List Assignment → Option Config
  | [] => some c
  | a :: rest =>
    if a.field ∈ seen then none
    else a.value?.bind fun v ↦ assign? (a.field :: seen) (c.set a.field v) rest

theorem toOption_eq_some_iff {ε α : Type} {x : Except ε α} {a : α} :
    x.toOption = some a ↔ x = .ok a := by
  cases x <;> simp [Except.toOption]

@[simp] theorem assign?_nil (seen : List Field) (c : Config) : assign? seen c [] = some c := rfl

theorem assign?_cons (seen : List Field) (c : Config) (a : Assignment) (rest : List Assignment) :
    assign? seen c (a :: rest) =
      if a.field ∈ seen then none
      else a.value?.bind fun v ↦ assign? (a.field :: seen) (c.set a.field v) rest := rfl

/-- Assignments are possible if none repeats a setting and all have values. -/
theorem isSome_assign?_iff {seen : List Field} {c : Config} {as : List Assignment} :
    (assign? seen c as).isSome ↔
      (as.map (·.field)).Nodup ∧ (∀ a ∈ as, a.field ∉ seen) ∧ ∀ a ∈ as, a.value?.isSome := by
  induction as generalizing seen c with
  | nil => simp
  | cons a as ih =>
    rw [assign?_cons, List.map_cons, List.nodup_cons, List.forall_mem_cons, List.forall_mem_cons]
    by_cases hseen : a.field ∈ seen
    · simp [hseen]
    · rw [if_neg hseen]
      cases hvalue : a.value? with
      | none => simp
      | some v =>
        rw [Option.bind_some, ih]
        -- the settings that the rest has to avoid are those seen before and this one
        have hsplit : (∀ b ∈ as, b.field ∉ a.field :: seen) ↔
            a.field ∉ as.map (·.field) ∧ ∀ b ∈ as, b.field ∉ seen := by
          simp only [List.mem_cons, not_or, List.mem_map, not_exists, not_and]
          exact forall₂_and
        rw [hsplit]
        simp only [hseen, not_false_eq_true, Option.isSome_some, true_and]
        exact ⟨fun ⟨hnodup, ⟨hfresh, hnot⟩, hall⟩ ↦ ⟨⟨hfresh, hnodup⟩, hnot, hall⟩,
          fun ⟨⟨hfresh, hnodup⟩, hnot, hall⟩ ↦ ⟨hnodup, ⟨hfresh, hnot⟩, hall⟩⟩

/-- What is assigned is there afterwards, and all else is as it was. -/
theorem get_of_assign? {seen : List Field} {c d : Config} {as : List Assignment}
    (h : assign? seen c as = some d) :
    (∀ a ∈ as, a.value? = some (d.get a.field)) ∧
      ∀ f, f ∉ as.map (·.field) → d.get f = c.get f := by
  induction as generalizing seen c with
  | nil =>
    obtain rfl := Option.some.inj h
    exact ⟨fun a ha ↦ absurd ha List.not_mem_nil, fun f _ ↦ rfl⟩
  | cons a as ih =>
    have hnodup := (isSome_assign?_iff.mp (Option.isSome_of_eq_some h)).1
    rw [List.map_cons, List.nodup_cons] at hnodup
    rw [assign?_cons] at h
    split at h
    · exact absurd h.symm (Option.some_ne_none d)
    · obtain ⟨v, hv, hrest⟩ := Option.bind_eq_some_iff.mp h
      obtain ⟨hvalues, hothers⟩ := ih hrest
      constructor
      · intro b hb
        rcases List.mem_cons.mp hb with rfl | hb
        · rw [hothers b.field hnodup.1, get_set, hv]
        · exact hvalues b hb
      · intro f hf
        rw [List.map_cons, List.mem_cons, not_or] at hf
        rw [hothers f hf.2, get_set_of_ne _ _ hf.1]

/-- The order of assignments does not matter. -/
theorem assign?_perm {as bs : List Assignment} (h : as.Perm bs) (c : Config) :
    assign? [] c as = assign? [] c bs := by
  have hsome : (assign? [] c as).isSome ↔ (assign? [] c bs).isSome := by
    rw [isSome_assign?_iff, isSome_assign?_iff, (h.map _).nodup_iff]
    simp only [h.mem_iff]
  cases ha : assign? [] c as with
  | none =>
    rw [ha] at hsome
    exact (Option.not_isSome_iff_eq_none.mp (mt hsome.mpr Bool.false_ne_true)).symm
  | some d =>
    rw [ha] at hsome
    obtain ⟨e, hb⟩ := Option.isSome_iff_exists.mp (hsome.mp rfl)
    rw [hb]
    obtain ⟨hvalues, hothers⟩ := get_of_assign? ha
    obtain ⟨hvalues', hothers'⟩ := get_of_assign? hb
    refine congrArg some (ext_get fun f ↦ ?_)
    by_cases hf : f ∈ as.map (·.field)
    · obtain ⟨a, hmem, rfl⟩ := List.mem_map.mp hf
      have hboth := (hvalues a hmem).symm.trans (hvalues' a (h.mem_iff.mp hmem))
      exact Option.some.inj hboth
    · rw [hothers f hf, hothers' f (mt (h.map _).mem_iff.mpr hf)]

end RequestTelemetry.Tracking.Config
