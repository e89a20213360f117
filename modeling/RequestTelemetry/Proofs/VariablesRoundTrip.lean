import Mathlib.Data.List.Nodup
import Mathlib.Data.List.Perm.Basic
import RequestTelemetry.Proofs.Assignments
import RequestTelemetry.Tracking.Variables

/-!
# A configuration through environment variables

Every setting has a variable: its name in capitals, behind a stem and an underscore. A configuration
that is written to its variables is read back from them, whatever the order in which they stand and
whatever other variables there are.

There is one exception. The stem is taken off as often as it stands at the start of a name, so a
stem that begins the name of a setting takes that name apart: behind `TRACKING` the variable of the
tracking id is `TRACKING_TRACKING_ID`, and what is left of it spells no setting. Such a setting
keeps its default. Eight pairs of a stem and a setting are of this kind.
-/

namespace RequestTelemetry.Tracking.Config

/-! ## Values -/

/-- A value of a kind as a text. -/
def Field.Kind.write : (k : Field.Kind) → k.Carrier → String
  | .text, s => s
  | .flag, b => if b then "true" else "false"
  | .word, n => String.ofList (Text.decimalDigits n.toNat)
  | .size, n => String.ofList (Text.decimalDigits n.toNat)

/-- The number that decimal digits extend `n` to. -/
def digitsFrom (n : Nat) (cs : List Char) : Nat :=
  cs.foldl (fun m c ↦ m * 10 + (c.toNat - '0'.toNat)) n

theorem le_digitsFrom (n : Nat) (cs : List Char) : n ≤ digitsFrom n cs := by
  rw [digitsFrom, ← List.foldl_map]
  exact Text.le_foldl_digits n _

theorem digitsFrom_decimalDigits (n : Nat) : digitsFrom 0 (Text.decimalDigits n) = n :=
  Text.foldl_decimalDigits n

/-- Digits are read if the number fits; what is read so far fits as well. -/
theorem readDigits_of_le {n : Nat} {cs : List Char} (hdigits : ∀ c ∈ cs, c.isDigit = true)
    (hle : digitsFrom n cs ≤ Duration.maxWord) :
    readDigits n cs = .ok (digitsFrom n cs).toUInt64 := by
  induction cs generalizing n with
  | nil => rfl
  | cons c cs ih =>
    have hfits : n * 10 + (c.toNat - '0'.toNat) ≤ Duration.maxWord :=
      Nat.le_trans (le_digitsFrom _ cs) hle
    rw [readDigits, if_pos (hdigits c List.mem_cons_self)]
    dsimp only
    rw [if_pos hfits]
    exact ih (fun d hd ↦ hdigits d (List.mem_cons_of_mem c hd)) hle

theorem readNumber_decimalDigits (n : UInt64) :
    readNumber (String.ofList (Text.decimalDigits n.toNat)) = .ok n := by
  have hdigits : ∀ c ∈ Text.decimalDigits n.toNat, c.isDigit = true := fun c hc ↦
    Text.isDigit_of_mem_decimalDigits hc
  have hle : digitsFrom 0 (Text.decimalDigits n.toNat) ≤ Duration.maxWord := by
    rw [digitsFrom_decimalDigits]
    exact Nat.le_sub_one_of_lt n.toNat_lt
  have hread := readDigits_of_le hdigits hle
  rw [digitsFrom_decimalDigits, show n.toNat.toUInt64 = n from UInt64.ofNat_toNat] at hread
  obtain ⟨d, ds, hcons⟩ := Text.exists_decimalDigits_eq_cons n.toNat
  -- the first character is a digit, so it is no sign
  have hsign : d ≠ '+' := by
    rintro rfl
    exact absurd (hdigits '+' (hcons ▸ List.mem_cons_self)) (by decide)
  rw [hcons] at hread ⊢
  rw [readNumber, String.toList_ofList]
  split
  · next heq => exact absurd heq (List.cons_ne_nil d ds)
  · next heq => exact absurd (List.cons.inj heq).1 hsign
  · next heq => exact absurd (List.cons.inj heq).1 hsign
  · exact hread

theorem readText_write (k : Field.Kind) (v : k.Carrier) : readText k (k.write v) = .ok v := by
  cases k with
  | text => rfl
  | flag => cases v <;> rfl
  | word => exact readNumber_decimalDigits v
  | size => exact readNumber_decimalDigits v

/-! ## Names -/

/-- The name of a setting's variable, without the stem. -/
def Field.variable : Field → String
  | trackingId => "TRACKING_ID"
  | enabled => "ENABLED"
  | endpointUrl => "ENDPOINT_URL"
  | apiSecret => "API_SECRET"
  | timeoutMs => "TIMEOUT_MS"
  | maxCaptureBytes => "MAX_CAPTURE_BYTES"
  | clientIdCookie => "CLIENT_ID_COOKIE"

/-- The setting that the rest of a variable's name spells. -/
def spelled? (name : String) : Option Field := Field.ofKey? (lowerName name)

theorem spelled?_variable (f : Field) : spelled? f.variable = some f := by
  cases f <;> decide

/-- The stems that begin the name of a setting, with the setting. -/
def shadowed : List (String × Field) :=
  [("TRACKING", .trackingId), ("ENDPOINT", .endpointUrl), ("API", .apiSecret),
    ("TIMEOUT", .timeoutMs), ("MAX", .maxCaptureBytes), ("MAX_CAPTURE", .maxCaptureBytes),
    ("CLIENT", .clientIdCookie), ("CLIENT_ID", .clientIdCookie)]

theorem afterStem?_eq_some_iff {stem cs rest : List Char} :
    afterStem? stem cs = some rest ↔ cs = stem ++ rest := by
  induction stem generalizing cs with
  | nil => simp [afterStem?, eq_comm]
  | cons p ps ih =>
    cases cs with
    | nil => simp [afterStem?]
    | cons c cs =>
      rw [afterStem?]
      by_cases h : p = c
      · rw [if_pos h, ih, h]
        simp
      · rw [if_neg h]
        simp [Ne.symm h]

theorem isSome_afterStem?_iff {stem cs : List Char} :
    (afterStem? stem cs).isSome ↔ stem <+: cs := by
  rw [Option.isSome_iff_exists]
  constructor
  · rintro ⟨rest, h⟩
    exact ⟨rest, (afterStem?_eq_some_iff.mp h).symm⟩
  · rintro ⟨rest, h⟩
    exact ⟨rest, afterStem?_eq_some_iff.mpr h.symm⟩

theorem stripStem_append {stem : List Char} (hne : stem ≠ []) (cs : List Char) :
    stripStem stem (stem ++ cs) = stripStem stem cs := by
  obtain ⟨p, ps, rfl⟩ := List.exists_cons_of_ne_nil hne
  rw [stripStem]
  split
  · next h =>
    rw [afterStem?_eq_some_iff.mpr rfl] at h
    exact absurd h (Option.some_ne_none cs)
  · next rest h =>
    rw [afterStem?_eq_some_iff.mpr rfl] at h
    rw [Option.some.inj h]

theorem stripStem_eq_self {stem cs : List Char} (h : ¬stem <+: cs) :
    stripStem stem cs = cs := by
  have hne : stem ≠ [] := by
    rintro rfl
    exact h (List.nil_prefix)
  obtain ⟨p, ps, rfl⟩ := List.exists_cons_of_ne_nil hne
  rw [stripStem]
  split
  · rfl
  · next rest hrest => exact absurd ⟨rest, (afterStem?_eq_some_iff.mp hrest).symm⟩ h

/-- The beginnings of names that end in an underscore: they are listed, do not stand there twice,
and what they leave spells no setting. -/
theorem variable_split (f : Field) : ∀ k ≤ f.variable.toList.length,
    (f.variable.toList.take k).getLast? = some '_' →
      (String.ofList (f.variable.toList.take k).dropLast, f) ∈ shadowed ∧
        ¬f.variable.toList.take k <+: f.variable.toList.drop k ∧
        spelled? (String.ofList (f.variable.toList.drop k)) = none := by
  cases f <;> decide

theorem shadowed_of_append {stem : String} {f : Field} {rest : List Char}
    (h : (stem ++ "_").toList ++ rest = f.variable.toList) :
    (stem, f) ∈ shadowed ∧ ¬(stem ++ "_").toList <+: rest ∧
      spelled? (String.ofList rest) = none := by
  have hstem : (stem ++ "_").toList = stem.toList ++ ['_'] := String.toList_append
  have hsplit := variable_split f (stem ++ "_").toList.length
  rw [← h, List.take_left, List.drop_left, List.length_append] at hsplit
  have hlast : (stem ++ "_").toList.getLast? = some '_' := by
    rw [hstem, List.getLast?_concat]
  have hdropped : String.ofList (stem ++ "_").toList.dropLast = stem := by
    rw [hstem, List.dropLast_concat, String.ofList_toList]
  rw [hdropped] at hsplit
  exact hsplit (Nat.le_add_right _ _) hlast

/-- A stem begins the name of a setting if the two are listed. -/
theorem prefix_variable_iff {stem : String} {f : Field} :
    (stem ++ "_").toList <+: f.variable.toList ↔ (stem, f) ∈ shadowed := by
  constructor
  · rintro ⟨rest, h⟩
    exact (shadowed_of_append h).1
  · have hlisted : ∀ x ∈ shadowed, (x.1 ++ "_").toList <+: x.2.variable.toList := by decide
    exact hlisted (stem, f)

/-- What is left of a variable's name spells the setting, unless the stem begins the name of it. -/
theorem exists_strippedName?_variable (stem : String) (f : Field) :
    ∃ name, strippedName? (stem ++ "_") (stem ++ "_" ++ f.variable) = some name ∧
      spelled? name = if (stem, f) ∈ shadowed then none else some f := by
  have hne : (stem ++ "_").toList ≠ [] := by simp
  have htext : (stem ++ "_" ++ f.variable).toList
      = (stem ++ "_").toList ++ f.variable.toList := String.toList_append
  refine ⟨String.ofList (stripStem (stem ++ "_").toList f.variable.toList), ?_, ?_⟩
  · rw [strippedName?, htext, if_pos (isSome_afterStem?_iff.mpr ⟨_, rfl⟩), stripStem_append hne]
  · by_cases h : (stem, f) ∈ shadowed
    -- the stem is taken off once more, and then it does not stand there
    · obtain ⟨rest, hrest⟩ := prefix_variable_iff.mpr h
      obtain ⟨-, honce, hspelled⟩ := shadowed_of_append hrest
      rw [if_pos h, ← hrest, stripStem_append hne, stripStem_eq_self honce]
      exact hspelled
    · rw [if_neg h, stripStem_eq_self (mt prefix_variable_iff.mp h), String.ofList_toList]
      exact spelled?_variable f

/-! ## Reading -/

/-- The settings that variables spell. -/
def spelledBy (vars : List (String × String)) : List Field := vars.filterMap fun v ↦ spelled? v.1

/-- The assignment that a variable makes, if the rest of its name spells a setting. -/
def variableAssignment? (v : String × String) : Option Assignment :=
  (spelled? v.1).map fun f ↦ ⟨f, (readText f.kind v.2).toOption⟩

theorem map_field_variableAssignment? (vars : List (String × String)) :
    (vars.filterMap variableAssignment?).map (·.field) = spelledBy vars := by
  rw [List.map_filterMap]
  refine List.filterMap_congr fun v _ ↦ ?_
  rw [variableAssignment?, Option.map_map]
  exact Option.map_id'

/-- Reading variables is assigning what they assign. -/
theorem toOption_readVariables (seen : List Field) (c : Config) (vars : List (String × String)) :
    (readVariables seen c vars).toOption =
      assign? seen c (vars.filterMap variableAssignment?) := by
  induction vars generalizing seen c with
  | nil => rfl
  | cons v vars ih =>
    obtain ⟨name, value⟩ := v
    rw [readVariables]
    cases hspelled : Field.ofKey? (lowerName name) with
    | none =>
      have hskip : variableAssignment? (name, value) = none := by
        rw [variableAssignment?, spelled?, hspelled, Option.map_none]
      rw [List.filterMap_cons_none hskip]
      exact ih seen c
    | some f =>
      have htake : variableAssignment? (name, value) =
          some ⟨f, (readText f.kind value).toOption⟩ := by
        rw [variableAssignment?, spelled?, hspelled, Option.map_some]
      rw [List.filterMap_cons_some htake, assign?_cons]
      dsimp only
      by_cases hseen : f ∈ seen
      · rw [if_pos hseen, if_pos hseen]
        rfl
      · rw [if_neg hseen, if_neg hseen]
        cases hvalue : readText f.kind value with
        | error e => rfl
        | ok v => exact ih (f :: seen) (c.set f v)

/-- Variables that spell each setting at most once, with values that are read as those of `c`, set
what they spell and nothing else. -/
theorem exists_readVariables {c : Config} {vars : List (String × String)}
    (hread : ∀ v ∈ vars, ∀ f, spelled? v.1 = some f → readText f.kind v.2 = .ok (c.get f))
    (hnodup : (spelledBy vars).Nodup) (start : Config) :
    ∃ d, readVariables [] start vars = .ok d ∧
      ∀ f : Field, d.get f = if f ∈ spelledBy vars then c.get f else start.get f := by
  have hvalues : ∀ a ∈ vars.filterMap variableAssignment?, a.value? = some (c.get a.field) := by
    intro a ha
    obtain ⟨v, hv, hassign⟩ := List.mem_filterMap.mp ha
    obtain ⟨f, hf, rfl⟩ := Option.map_eq_some_iff.mp hassign
    exact toOption_eq_some_iff.mpr (hread v hv f hf)
  have hsome : (assign? [] start (vars.filterMap variableAssignment?)).isSome :=
    isSome_assign?_iff.mpr ⟨by rwa [map_field_variableAssignment?], fun a _ ↦ List.not_mem_nil,
      fun a ha ↦ Option.isSome_of_eq_some (hvalues a ha)⟩
  obtain ⟨d, hd⟩ := Option.isSome_iff_exists.mp hsome
  obtain ⟨hset, hothers⟩ := get_of_assign? hd
  rw [map_field_variableAssignment?] at hothers
  refine ⟨d, toOption_eq_some_iff.mp ((toOption_readVariables [] start vars).trans hd), ?_⟩
  intro f
  split
  · next hf =>
    rw [← map_field_variableAssignment?] at hf
    obtain ⟨a, ha, rfl⟩ := List.mem_map.mp hf
    exact Option.some.inj ((hset a ha).symm.trans (hvalues a ha))
  · next hf => exact hothers f hf

/-! ## The round trip -/

/-- The variables of a configuration behind a stem. -/
def toVariables (c : Config) (stem : String) : List (String × String) :=
  Field.inOrder.map fun f ↦ (stem ++ "_" ++ f.variable, f.kind.write (c.get f))

/-- The variables of an environment that start with a stem and an underscore. -/
def startingWith (stem : String) (e : Environment) : List (String × String) :=
  e.vars.filter fun v ↦ (stem ++ "_").toList.isPrefixOf v.1.toList

/-- Only these variables matter. -/
theorem relevant_eq_filterMap (stem : String) (e : Environment) :
    relevant (stem ++ "_") e = (startingWith stem e).filterMap fun v ↦
      (strippedName? (stem ++ "_") v.1).map fun name ↦ (name, v.2) := by
  rw [relevant, startingWith, List.filterMap_filter]
  refine List.filterMap_congr fun v _ ↦ ?_
  split
  · rfl
  · next h =>
    have hnone : ¬(afterStem? (stem ++ "_").toList v.1.toList).isSome = true := by
      rwa [isSome_afterStem?_iff, ← List.isPrefixOf_iff_prefix]
    rw [strippedName?, if_neg hnone]
    rfl

/-- What is read from the variables of a configuration: every setting has its value, unless the stem
begins its name. -/
theorem exists_ofVariables {stem : String} {c : Config} {e : Environment}
    (h : (startingWith stem e).Perm (c.toVariables stem)) :
    ∃ d, ofVariables stem e = .ok d ∧
      ∀ f : Field, d.get f = if (stem, f) ∈ shadowed then default.get f else c.get f := by
  choose name hname hspelled using exists_strippedName?_variable stem
  -- the names and values that are read, in some order
  have hperm : (relevant (stem ++ "_") e).Perm
      (Field.inOrder.map fun f ↦ (name f, f.kind.write (c.get f))) := by
    rw [relevant_eq_filterMap]
    refine (h.filterMap _).trans (List.Perm.of_eq ?_)
    rw [toVariables, List.filterMap_map, ← List.filterMap_eq_map]
    refine List.filterMap_congr fun f _ ↦ ?_
    simp [hname]
  have hspelledBy : (spelledBy (relevant (stem ++ "_") e)).Perm
      (Field.inOrder.filter fun f ↦ (stem, f) ∉ shadowed) := by
    refine (hperm.filterMap _).trans (List.Perm.of_eq ?_)
    rw [List.filterMap_map, ← List.filterMap_eq_filter]
    refine List.filterMap_congr fun f _ ↦ ?_
    simp only [Function.comp_apply, hspelled]
    by_cases hf : (stem, f) ∈ shadowed <;> simp [hf, Option.guard]
  have hread : ∀ v ∈ relevant (stem ++ "_") e, ∀ f, spelled? v.1 = some f →
      readText f.kind v.2 = .ok (c.get f) := by
    intro v hv f hf
    obtain ⟨g, -, rfl⟩ := List.mem_map.mp (hperm.mem_iff.mp hv)
    obtain ⟨-, rfl⟩ : (stem, g) ∉ shadowed ∧ g = f := by simpa [hspelled g] using hf
    exact readText_write g.kind (c.get g)
  have hnodup : (spelledBy (relevant (stem ++ "_") e)).Nodup :=
    hspelledBy.nodup_iff.mpr (List.Nodup.filter _ (by decide))
  obtain ⟨d, hd, hget⟩ := exists_readVariables hread hnodup default
  refine ⟨d, hd, fun f ↦ ?_⟩
  rw [hget f]
  have hmem : f ∈ spelledBy (relevant (stem ++ "_") e) ↔ (stem, f) ∉ shadowed := by
    rw [hspelledBy.mem_iff, List.mem_filter]
    simp [Field.mem_inOrder]
  by_cases hf : (stem, f) ∈ shadowed
  · rw [if_pos hf, if_neg (by rwa [hmem, not_not])]
  · rw [if_neg hf, if_pos (hmem.mpr hf)]

/-- **A configuration comes back from its variables**, however they are ordered and whatever other
variables there are, except where the stem begins the name of a setting: that setting keeps its
default. The eight stems and settings of this kind are listed. -/
theorem configuration_through_variables (stem : String) (c : Config) (e : Environment)
    (h : (startingWith stem e).Perm (c.toVariables stem)) :
    (∃ d, ofVariables stem e = .ok d ∧
      ∀ f : Field, d.get f = if (stem, f) ∈ shadowed then default.get f else c.get f) ∧
    (ofVariables stem e = .ok c ↔ ∀ f : Field, (stem, f) ∈ shadowed → c.get f = default.get f) ∧
    ∀ f : Field, (stem, f) ∈ shadowed ↔ (stem ++ "_").toList <+: f.variable.toList := by
  obtain ⟨d, hd, hget⟩ := exists_ofVariables h
  refine ⟨⟨d, hd, hget⟩, ?_, fun f ↦ prefix_variable_iff.symm⟩
  rw [hd]
  constructor
  · intro heq f hf
    rw [← Except.ok.inj heq, hget f, if_pos hf]
  · intro hdefault
    refine congrArg Except.ok (ext_get fun f ↦ ?_)
    rw [hget f]
    split
    · next hf => exact (hdefault f hf).symm
    · rfl

/-- A configuration that sets everything. -/
private def fullConfig : Config where
  trackingId := "G-1"
  enabled := true
  endpointUrl := "http://c/"
  apiSecret := "s"
  timeoutMs := 5
  maxCaptureBytes := 6
  clientIdCookie := "ck"

/-- Behind the usual stem it comes back, also from variables in the opposite order. -/
theorem full_configuration_through_variables :
    let e : Environment := ⟨("HOME", "/root") :: (fullConfig.toVariables defaultStem).reverse⟩
    (startingWith defaultStem e).Perm (fullConfig.toVariables defaultStem) ∧
      ofVariables defaultStem e = .ok fullConfig := by
  intro e
  have hvars : startingWith defaultStem e = (fullConfig.toVariables defaultStem).reverse := by
    decide
  have hperm : (startingWith defaultStem e).Perm (fullConfig.toVariables defaultStem) := by
    rw [hvars]
    exact List.reverse_perm _
  refine ⟨hperm, (configuration_through_variables defaultStem fullConfig e hperm).2.1.mpr ?_⟩
  intro f hf
  exact absurd hf (by cases f <;> decide)

/-- Behind `TRACKING` the tracking id is lost. -/
theorem tracking_id_lost_behind_tracking :
    let e : Environment := ⟨fullConfig.toVariables "TRACKING"⟩
    startingWith "TRACKING" e = fullConfig.toVariables "TRACKING" ∧
      ofVariables "TRACKING" e = .ok { fullConfig with trackingId := "" } ∧
      ofVariables "TRACKING" e ≠ .ok fullConfig := by
  intro e
  have hvars : startingWith "TRACKING" e = fullConfig.toVariables "TRACKING" := by decide
  obtain ⟨d, hd, hget⟩ := exists_ofVariables (List.Perm.of_eq hvars)
  have hlost : d = { fullConfig with trackingId := "" } := by
    refine ext_get fun f ↦ (hget f).trans ?_
    cases f <;> rfl
  rw [hlost] at hd
  refine ⟨hvars, hd, ?_⟩
  rw [hd]
  decide

end RequestTelemetry.Tracking.Config
