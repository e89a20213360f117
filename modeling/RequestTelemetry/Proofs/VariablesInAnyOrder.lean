import Mathlib.Data.List.Perm.Basic
import RequestTelemetry.Proofs.VariablesRoundTrip

/-!
# Environment variables in any order

A variable stands for a setting if its name is the stem with an underscore, once or several times,
and then a spelling of the setting in any case. All other variables are foreign, whatever they hold.

Variables are read one after another, and the first fault ends the reading. Still the order does not
matter: the reading succeeds exactly if no two variables stand for one setting and each that stands
for a setting holds a value of its kind, and then the settings have these values. Nor do foreign
variables, as they assign nothing.
-/

namespace RequestTelemetry.Tracking.Config

/-! ## What a variable stands for -/

/-- Whether a variable stands for a setting: after the stem with an underscore, as often as they
occur in a row, its name spells the setting. -/
def StandsFor (stem name : String) (f : Field) : Prop :=
  ∃ times rest, name.toList = (List.replicate (times + 1) (stem ++ "_").toList).flatten ++ rest ∧
    ¬(stem ++ "_").toList <+: rest ∧ lowerName (String.ofList rest) ∈ f.spellings

theorem stripStem_flatten_append {stem : List Char} (hne : stem ≠ []) (times : Nat)
    (rest : List Char) :
    stripStem stem ((List.replicate times stem).flatten ++ rest) = stripStem stem rest := by
  induction times with
  | zero => rfl
  | succ times ih =>
    rw [List.replicate_succ, List.flatten_cons, List.append_assoc, stripStem_append hne, ih]

/-- What is left after stripping does not start with the stem, and the stem was taken off only. -/
theorem exists_eq_flatten_append {stem : List Char} (hne : stem ≠ []) (cs : List Char) :
    ∃ times, cs = (List.replicate times stem).flatten ++ stripStem stem cs ∧
      ¬stem <+: stripStem stem cs := by
  by_cases hprefix : stem <+: cs
  · obtain ⟨rest, rfl⟩ := hprefix
    have hshorter : rest.length < (stem ++ rest).length := by
      rw [List.length_append]
      exact Nat.lt_add_of_pos_left (List.length_pos_iff.mpr hne)
    obtain ⟨times, hrest, hleft⟩ := exists_eq_flatten_append hne rest
    rw [stripStem_append hne]
    refine ⟨times + 1, ?_, hleft⟩
    rw [List.replicate_succ, List.flatten_cons, List.append_assoc, ← hrest]
  · rw [stripStem_eq_self hprefix]
    exact ⟨0, rfl, hprefix⟩
termination_by cs.length

/-- The setting that a variable stands for, if there is one. -/
def settingOf? (stem name : String) : Option Field :=
  (strippedName? (stem ++ "_") name).bind spelled?

theorem settingOf?_eq_some_iff {stem name : String} {f : Field} :
    settingOf? stem name = some f ↔ StandsFor stem name f := by
  have hne : (stem ++ "_").toList ≠ [] := by simp
  rw [settingOf?, strippedName?]
  constructor
  · intro h
    split at h
    · next hprefix =>
      rw [Option.bind_some, spelled?, Field.ofKey?_eq_some_iff] at h
      obtain ⟨rest, hname⟩ := isSome_afterStem?_iff.mp hprefix
      obtain ⟨times, hrest, hleft⟩ := exists_eq_flatten_append hne rest
      rw [← hname, stripStem_append hne] at h
      refine ⟨times, _, ?_, hleft, h⟩
      rw [← hname, List.replicate_succ, List.flatten_cons, List.append_assoc, ← hrest]
    · exact absurd h.symm (Option.some_ne_none f)
  · rintro ⟨times, rest, hname, hleft, hspelled⟩
    have hprefix : (afterStem? (stem ++ "_").toList name.toList).isSome := by
      rw [isSome_afterStem?_iff, hname, List.replicate_succ, List.flatten_cons, List.append_assoc]
      exact List.prefix_append _ _
    rw [if_pos hprefix, hname, stripStem_flatten_append hne, stripStem_eq_self hleft,
      Option.bind_some, spelled?, Field.ofKey?_eq_some_iff]
    exact hspelled

instance (stem name : String) (f : Field) : Decidable (StandsFor stem name f) :=
  decidable_of_iff _ settingOf?_eq_some_iff

/-- Whether a variable stands for no setting. -/
def IsForeign (stem name : String) : Prop := ∀ f : Field, ¬StandsFor stem name f

theorem isForeign_of_not_stem {stem name : String}
    (h : ¬(stem ++ "_").toList <+: name.toList) : IsForeign stem name := by
  rintro f ⟨times, rest, hname, -, -⟩
  apply h
  rw [hname, List.replicate_succ, List.flatten_cons, List.append_assoc]
  exact List.prefix_append _ _

/-! ## What an environment assigns -/

/-- The assignment that a variable of an environment makes. -/
def assignmentOf? (stem : String) (v : String × String) : Option Assignment :=
  (settingOf? stem v.1).map fun f ↦ ⟨f, (readText f.kind v.2).toOption⟩

theorem assignmentOf?_of_standsFor {stem : String} {v : String × String} {f : Field}
    (h : StandsFor stem v.1 f) :
    assignmentOf? stem v = some ⟨f, (readText f.kind v.2).toOption⟩ := by
  rw [assignmentOf?, settingOf?_eq_some_iff.mpr h, Option.map_some]

theorem exists_standsFor_of_assignmentOf? {stem : String} {v : String × String} {a : Assignment}
    (h : assignmentOf? stem v = some a) :
    ∃ f, StandsFor stem v.1 f ∧ a = ⟨f, (readText f.kind v.2).toOption⟩ := by
  obtain ⟨f, hf, rfl⟩ := Option.map_eq_some_iff.mp h
  exact ⟨f, settingOf?_eq_some_iff.mp hf, rfl⟩

/-- Loading a configuration is assigning what the variables assign. -/
theorem toOption_ofVariables (stem : String) (e : Environment) :
    (ofVariables stem e).toOption = assign? [] default (e.vars.filterMap (assignmentOf? stem)) := by
  rw [ofVariables, toOption_readVariables, relevant, List.filterMap_filterMap]
  congr 1
  refine List.filterMap_congr fun v _ ↦ ?_
  rw [assignmentOf?, settingOf?]
  cases strippedName? (stem ++ "_") v.1 <;> rfl

/-- Whether no two variables stand for the same setting. -/
def StandsOnce (stem : String) (vars : List (String × String)) : Prop :=
  vars.Pairwise fun v w ↦ ∀ f : Field, StandsFor stem v.1 f → ¬StandsFor stem w.1 f

theorem standsOnce_iff {stem : String} {vars : List (String × String)} :
    StandsOnce stem vars ↔ ((vars.filterMap (assignmentOf? stem)).map (·.field)).Nodup := by
  have hfields : (vars.filterMap (assignmentOf? stem)).map (·.field)
      = vars.filterMap fun v ↦ settingOf? stem v.1 := by
    rw [List.map_filterMap]
    refine List.filterMap_congr fun v _ ↦ ?_
    rw [assignmentOf?, Option.map_map]
    exact Option.map_id'
  rw [hfields, List.Nodup, List.pairwise_filterMap, StandsOnce]
  simp only [settingOf?_eq_some_iff]
  constructor
  · intro h
    refine h.imp fun {v w} hvw f hf g hg ↦ ?_
    rintro rfl
    exact hvw f hf hg
  · intro h
    exact h.imp fun {v w} hvw f hf hg ↦ hvw f hf f hg rfl

/-- Loading succeeds exactly if no setting has two variables and all values can be read. -/
theorem exists_ofVariables_iff {stem : String} {e : Environment} :
    (∃ c, ofVariables stem e = .ok c) ↔ StandsOnce stem e.vars ∧
      ∀ v ∈ e.vars, ∀ f, StandsFor stem v.1 f → ∃ x, readText f.kind v.2 = .ok x := by
  have hok : (∃ c, ofVariables stem e = .ok c) ↔
      (assign? [] default (e.vars.filterMap (assignmentOf? stem))).isSome := by
    rw [Option.isSome_iff_exists, ← toOption_ofVariables]
    simp only [toOption_eq_some_iff]
  rw [hok, isSome_assign?_iff, ← standsOnce_iff]
  refine and_congr_right fun _ ↦ ?_
  constructor
  · rintro ⟨-, hvalues⟩ v hv f hf
    have hmem := List.mem_filterMap.mpr ⟨v, hv, assignmentOf?_of_standsFor hf⟩
    obtain ⟨x, hx⟩ := Option.isSome_iff_exists.mp (hvalues _ hmem)
    exact ⟨x, toOption_eq_some_iff.mp hx⟩
  · intro hvalues
    refine ⟨fun a _ ↦ List.not_mem_nil, fun a ha ↦ ?_⟩
    obtain ⟨v, hv, hassign⟩ := List.mem_filterMap.mp ha
    obtain ⟨f, hf, rfl⟩ := exists_standsFor_of_assignmentOf? hassign
    obtain ⟨x, hx⟩ := hvalues v hv f hf
    exact Option.isSome_of_eq_some (toOption_eq_some_iff.mpr hx)

/-- A setting has the value of the variable that stands for it. -/
theorem readText_of_ofVariables {stem : String} {e : Environment} {c : Config}
    (h : ofVariables stem e = .ok c) {v : String × String} (hv : v ∈ e.vars) {f : Field}
    (hf : StandsFor stem v.1 f) : readText f.kind v.2 = .ok (c.get f) := by
  rw [← toOption_eq_some_iff, toOption_ofVariables] at h
  have hmem := List.mem_filterMap.mpr ⟨v, hv, assignmentOf?_of_standsFor hf⟩
  exact toOption_eq_some_iff.mp ((get_of_assign? h).1 _ hmem)

/-- Foreign variables assign nothing. -/
theorem filterMap_assignmentOf?_append {stem : String} {foreign : List (String × String)}
    (h : ∀ v ∈ foreign, IsForeign stem v.1) (vars : List (String × String)) :
    (vars ++ foreign).filterMap (assignmentOf? stem) = vars.filterMap (assignmentOf? stem) := by
  have hnothing : foreign.filterMap (assignmentOf? stem) = [] := by
    rw [List.filterMap_eq_nil_iff]
    intro v hv
    rw [Option.eq_none_iff_forall_ne_some]
    intro a ha
    obtain ⟨f, hf, -⟩ := exists_standsFor_of_assignmentOf? ha
    exact h v hv f hf
  rw [List.filterMap_append, hnothing, List.append_nil]

/-- **The order of variables and foreign variables do not matter.** Environments with the same
variables in different orders, and with foreign variables among them or without, lead to the same
configuration, or all to none. If two variables stand for one setting, loading fails in every
order. -/
theorem variables_in_any_order (stem : String) :
    (∀ e e' : Environment, e'.vars.Perm e.vars →
      (ofVariables stem e').toOption = (ofVariables stem e).toOption) ∧
    (∀ (e e' : Environment) (foreign : List (String × String)),
      (∀ v ∈ foreign, IsForeign stem v.1) → e'.vars.Perm (e.vars ++ foreign) →
        (ofVariables stem e').toOption = (ofVariables stem e).toOption) ∧
    ∀ (e : Environment) (v w : String × String) (others : List (String × String)) (f : Field),
      e.vars.Perm (v :: w :: others) → StandsFor stem v.1 f → StandsFor stem w.1 f →
        ∃ error, ofVariables stem e = .error error := by
  refine ⟨?_, ?_, ?_⟩
  · intro e e' hperm
    rw [toOption_ofVariables, toOption_ofVariables, assign?_perm (hperm.filterMap _)]
  · intro e e' foreign hforeign hperm
    rw [toOption_ofVariables, toOption_ofVariables, assign?_perm (hperm.filterMap _),
      filterMap_assignmentOf?_append hforeign]
  · intro e v w others f hperm hv hw
    cases hload : ofVariables stem e with
    | error error => exact ⟨error, rfl⟩
    | ok c =>
      have honce := standsOnce_iff.mp (exists_ofVariables_iff.mp ⟨c, hload⟩).1
      have honce' := standsOnce_iff.mpr (((hperm.filterMap _).map _).nodup_iff.mp honce)
      exact absurd hw ((List.pairwise_cons.mp honce').1 w List.mem_cons_self f hv)

/-- A tracking id behind a doubled stem is loaded, with foreign variables around it that hold no
values of the settings they resemble. A setting under two names is not. -/
theorem resembling_variables_pass :
    let e : Environment := ⟨[("APP_APP_tracking_ID", "G-1"), ("APP_TIMEOUT_MS", "+5")]⟩
    let foreign : List (String × String) := [("APP_TIMEOUT", "soon"), ("app_ENABLED", "maybe")]
    let e' : Environment := ⟨[("app_ENABLED", "maybe"), ("APP_TIMEOUT_MS", "+5"),
      ("APP_TIMEOUT", "soon"), ("APP_APP_tracking_ID", "G-1")]⟩
    let twice : Environment := ⟨[("HOME", "/"), ("APP_ENABLED", "true"), ("APP_enabled", "true")]⟩
    (∀ v ∈ foreign, IsForeign "APP" v.1) ∧ e'.vars.Perm (e.vars ++ foreign) ∧
      (ofVariables "APP" e').toOption =
        some { default with trackingId := "G-1", timeoutMs := 5 } ∧
      (ofVariables "APP" ⟨e.vars.reverse⟩).toOption = (ofVariables "APP" e).toOption ∧
      ∃ error, ofVariables "APP" twice = .error error := by
  intro e foreign e' twice
  obtain ⟨horder, hforeign, htwice⟩ := variables_in_any_order "APP"
  have hcapitals : IsForeign "APP" "app_ENABLED" := isForeign_of_not_stem (by decide)
  have hunknown : IsForeign "APP" "APP_TIMEOUT" := by
    intro f
    cases f <;> decide +kernel
  have hsome : ∀ v ∈ foreign, IsForeign "APP" v.1 := by
    simp [foreign, hcapitals, hunknown]
  have hperm : e'.vars.Perm (e.vars ++ foreign) := by decide
  have hload : (ofVariables "APP" e).toOption =
      some { default with trackingId := "G-1", timeoutMs := 5 } := by decide +kernel
  refine ⟨hsome, hperm, (hforeign e e' foreign hsome hperm).trans hload,
    horder e ⟨e.vars.reverse⟩ (List.reverse_perm _), ?_⟩
  exact htwice twice ("APP_ENABLED", "true") ("APP_enabled", "true") [("HOME", "/")] .enabled
    (by decide) (by decide +kernel) (by decide +kernel)

end RequestTelemetry.Tracking.Config
