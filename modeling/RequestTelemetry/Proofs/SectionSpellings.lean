import RequestTelemetry.Proofs.Assignments
import RequestTelemetry.Tracking.Section

/-!
# The spellings of a section agree

A section is written as an object or as an array, its settings by one spelling or another, among
members that spell no setting. All that matters is which setting each member spells and whether it
holds a value of it: a section comes down to its assignments, and reading it to assigning them. So
renaming a member to another spelling, which may move it to another place of the object, leaves the
configuration as it is, and so does adding members that spell nothing or writing the values alone in
the order of the settings.
-/

namespace RequestTelemetry.Tracking.Config

/-! ## Values -/

/-- The JSON value that stands for a value of a kind. -/
def Field.Kind.toJson : (k : Field.Kind) → k.Carrier → Json
  | .text, s => .string s
  | .flag, b => .bool b
  | .word, n => .ofNat n.toNat
  | .size, n => .ofNat n.toNat

theorem readCount_eq_ok_iff {k : Field.Kind} {j : Json} {n : UInt64} :
    readCount k j = .ok n ↔ j = .ofNat n.toNat := by
  constructor
  · intro h
    unfold readCount at h
    split at h
    · next z =>
      split at h
      · next hrange =>
        obtain ⟨m, rfl⟩ := Int.eq_ofNat_of_zero_le hrange.1
        obtain rfl := Except.ok.inj h
        have hlt : m < 2 ^ 64 := by
          have hle : (m : Int) ≤ ((2 ^ 64 - 1 : Nat) : Int) := hrange.2
          omega
        have hm : (m : Int).toNat.toUInt64.toNat = m := Nat.mod_eq_of_lt hlt
        rw [hm, Json.ofNat]
      · nomatch h
    · nomatch h
  · rintro rfl
    have hle : (n.toNat : Int) ≤ (Duration.maxWord : Int) := by
      have hlt := n.toNat_lt
      exact Int.ofNat_le.mpr (Nat.le_sub_one_of_lt hlt)
    rw [Json.ofNat, readCount, if_pos ⟨Int.natCast_nonneg _, hle⟩]
    exact congrArg Except.ok UInt64.ofNat_toNat

/-- A value is read from the JSON value that stands for it and from no other. -/
theorem readJson_eq_ok_iff {k : Field.Kind} {j : Json} {v : k.Carrier} :
    readJson k j = .ok v ↔ j = k.toJson v := by
  cases k with
  | text => cases j <;> simp [readJson, Field.Kind.toJson]
  | flag => cases j <;> simp [readJson, Field.Kind.toJson]
  | word => exact readCount_eq_ok_iff
  | size => exact readCount_eq_ok_iff

/-! ## Assignments -/

/-- The assignment that a JSON value makes to a setting. -/
def assignment (f : Field) (j : Json) : Assignment := ⟨f, (readJson f.kind j).toOption⟩

theorem value?_assignment_iff {f : Field} {j : Json} {v : f.kind.Carrier} :
    (assignment f j).value? = some v ↔ j = f.kind.toJson v :=
  toOption_eq_some_iff.trans readJson_eq_ok_iff

theorem assign?_assignment (seen : List Field) (c : Config) (f : Field) (j : Json)
    (rest : List Assignment) :
    assign? seen c (assignment f j :: rest) =
      if f ∈ seen then none
      else (readJson f.kind j).toOption.bind fun v ↦ assign? (f :: seen) (c.set f v) rest := rfl

/-- The assignment that a member of an object makes, if it spells a setting. -/
def assignment? (m : String × Json) : Option Assignment :=
  (Field.ofKey? m.1).map fun f ↦ assignment f m.2

theorem assignment?_eq_some_iff {m : String × Json} {a : Assignment} :
    assignment? m = some a ↔ ∃ f : Field, m.1 ∈ f.spellings ∧ assignment f m.2 = a := by
  simp only [assignment?, Option.map_eq_some_iff, Field.ofKey?_eq_some_iff]

theorem assignment?_eq_none {m : String × Json} (h : ∀ f : Field, m.1 ∉ f.spellings) :
    assignment? m = none := by
  rw [assignment?, Option.map_eq_none_iff, Option.eq_none_iff_forall_not_mem]
  intro f hf
  exact h f (Field.ofKey?_eq_some_iff.mp hf)

/-- Reading the members of an object is assigning what they assign. -/
theorem toOption_readMembers (seen : List Field) (c : Config) (members : List (String × Json)) :
    (readMembers seen c members).toOption = assign? seen c (members.filterMap assignment?) := by
  induction members generalizing seen c with
  | nil => rfl
  | cons m members ih =>
    obtain ⟨key, value⟩ := m
    rw [readMembers]
    cases hkey : Field.ofKey? key with
    | none =>
      have hskip : assignment? (key, value) = none := by rw [assignment?, hkey, Option.map_none]
      rw [List.filterMap_cons_none hskip]
      exact ih seen c
    | some f =>
      have htake : assignment? (key, value) = some (assignment f value) := by
        rw [assignment?, hkey, Option.map_some]
      rw [List.filterMap_cons_some htake, assign?_assignment]
      dsimp only
      by_cases hseen : f ∈ seen
      · rw [if_pos hseen, if_pos hseen]
        rfl
      · rw [if_neg hseen, if_neg hseen]
        cases hvalue : readJson f.kind value with
        | error e => rfl
        | ok v => exact ih (f :: seen) (c.set f v)

/-- Reading the items of an array is assigning them to the settings in order. -/
theorem toOption_readItems {fields seen : List Field} (c : Config) (items : List Json)
    (hnodup : fields.Nodup) (hseen : ∀ f ∈ fields, f ∉ seen) :
    (readItems c fields items).toOption =
      assign? seen c ((fields.zip items).map fun p ↦ assignment p.1 p.2) := by
  induction fields generalizing seen c items with
  | nil => rfl
  | cons f fields ih =>
    cases items with
    | nil => rfl
    | cons value items =>
      obtain ⟨hfresh, hnodup⟩ := List.nodup_cons.mp hnodup
      obtain ⟨hf, hrest⟩ := List.forall_mem_cons.mp hseen
      have hlater : ∀ g ∈ fields, g ∉ f :: seen := by
        intro g hg hmem
        rcases List.mem_cons.mp hmem with rfl | hmem
        · exact hfresh hg
        · exact hrest g hg hmem
      rw [readItems, List.zip_cons_cons, List.map_cons, assign?_assignment, if_neg hf]
      cases hvalue : readJson f.kind value with
      | error e => rfl
      | ok v => exact ih (c.set f v) items hnodup hlater

theorem toOption_ofSection_object (members : List (String × Json)) :
    (ofSection (.object members)).toOption =
      assign? [] default (members.filterMap assignment?) :=
  toOption_readMembers [] default members

theorem toOption_ofSection_array {items : List Json}
    (h : items.length ≤ Field.inOrder.length) :
    (ofSection (.array items)).toOption =
      assign? [] default ((Field.inOrder.zip items).map fun p ↦ assignment p.1 p.2) := by
  rw [← toOption_readItems default items (by decide) (fun f _ ↦ List.not_mem_nil), ofSection]
  cases readItems default Field.inOrder items with
  | error e => rfl
  | ok c =>
    dsimp only
    rw [if_neg (Nat.not_lt.mpr h)]

/-! ## Members that spell one setting -/

/-- Whether no two members spell the same setting. -/
def SpellsOnce (members : List (String × Json)) : Prop :=
  members.Pairwise fun m n ↦ ∀ f : Field, m.1 ∈ f.spellings → n.1 ∉ f.spellings

theorem spellsOnce_iff {members : List (String × Json)} :
    SpellsOnce members ↔ ((members.filterMap assignment?).map (·.field)).Nodup := by
  have hfields : (members.filterMap assignment?).map (·.field)
      = members.filterMap fun m ↦ Field.ofKey? m.1 := by
    rw [List.map_filterMap]
    refine List.filterMap_congr fun m _ ↦ ?_
    rw [assignment?, Option.map_map]
    exact Option.map_id'
  rw [hfields, List.Nodup, List.pairwise_filterMap, SpellsOnce]
  simp only [Field.ofKey?_eq_some_iff]
  constructor
  · intro h
    refine h.imp fun {m n} hmn f hf g hg ↦ ?_
    rintro rfl
    exact hmn f hf hg
  · intro h
    exact h.imp fun {m n} hmn f hf hg ↦ hmn f hf f hg rfl

/-! ## Objects -/

/-- An object is a configuration exactly if what it spells has values of the right kinds. -/
theorem exists_ofSection_iff {members : List (String × Json)} (honce : SpellsOnce members) :
    (∃ c, ofSection (.object members) = .ok c) ↔
      ∀ m ∈ members, ∀ f : Field, m.1 ∈ f.spellings → ∃ v, m.2 = f.kind.toJson v := by
  have hok : (∃ c, ofSection (.object members) = .ok c) ↔
      (assign? [] default (members.filterMap assignment?)).isSome := by
    rw [Option.isSome_iff_exists, ← toOption_ofSection_object]
    simp only [toOption_eq_some_iff]
  rw [hok, isSome_assign?_iff]
  constructor
  · rintro ⟨-, -, hvalues⟩ m hm f hf
    have hmem := List.mem_filterMap.mpr ⟨m, hm, assignment?_eq_some_iff.mpr ⟨f, hf, rfl⟩⟩
    obtain ⟨v, hv⟩ := Option.isSome_iff_exists.mp (hvalues _ hmem)
    exact ⟨v, value?_assignment_iff.mp hv⟩
  · intro hvalues
    refine ⟨spellsOnce_iff.mp honce, fun a _ ↦ List.not_mem_nil, fun a ha ↦ ?_⟩
    obtain ⟨m, hm, hassign⟩ := List.mem_filterMap.mp ha
    obtain ⟨f, hf, rfl⟩ := assignment?_eq_some_iff.mp hassign
    obtain ⟨v, hv⟩ := hvalues m hm f hf
    exact Option.isSome_of_eq_some (value?_assignment_iff.mpr hv)

/-- The configuration of an object has the values that the object spells and defaults elsewhere. -/
theorem get_of_ofSection {members : List (String × Json)} {c : Config}
    (h : ofSection (.object members) = .ok c) (f : Field) :
    (∀ m ∈ members, m.1 ∈ f.spellings → m.2 = f.kind.toJson (c.get f)) ∧
      ((∀ m ∈ members, m.1 ∉ f.spellings) → c.get f = default.get f) := by
  rw [← toOption_eq_some_iff, toOption_ofSection_object] at h
  obtain ⟨hvalues, hothers⟩ := get_of_assign? h
  constructor
  · intro m hm hf
    have hmem := List.mem_filterMap.mpr ⟨m, hm, assignment?_eq_some_iff.mpr ⟨f, hf, rfl⟩⟩
    exact value?_assignment_iff.mp (hvalues _ hmem)
  · intro hnone
    apply hothers f
    intro hmem
    obtain ⟨a, ha, rfl⟩ := List.mem_map.mp hmem
    obtain ⟨m, hm, hassign⟩ := List.mem_filterMap.mp ha
    obtain ⟨g, hg, rfl⟩ := assignment?_eq_some_iff.mp hassign
    exact hnone m hm hg

/-- Two members that spell one setting are an error, whatever they hold. -/
theorem exists_error_of_not_spellsOnce {members : List (String × Json)}
    (h : ¬SpellsOnce members) : ∃ e, ofSection (.object members) = .error e := by
  cases hread : ofSection (.object members) with
  | error e => exact ⟨e, rfl⟩
  | ok c =>
    have hsome := toOption_eq_some_iff.mpr hread
    rw [toOption_ofSection_object] at hsome
    have hnodup := (isSome_assign?_iff.mp (Option.isSome_of_eq_some hsome)).1
    exact absurd (spellsOnce_iff.mpr hnodup) h

/-- Objects with the same assignments in any order agree. -/
theorem toOption_ofSection_congr {members others : List (String × Json)}
    (h : (members.filterMap assignment?).Perm (others.filterMap assignment?)) :
    (ofSection (.object members)).toOption = (ofSection (.object others)).toOption := by
  rw [toOption_ofSection_object, toOption_ofSection_object, assign?_perm h]

/-- Renaming members to other spellings of what they spell does not change what they assign. -/
theorem filterMap_assignment?_rename {rename : String → String}
    (h : ∀ (key : String) (f : Field), rename key ∈ f.spellings ↔ key ∈ f.spellings)
    (members : List (String × Json)) :
    (members.map fun m ↦ (rename m.1, m.2)).filterMap assignment? =
      members.filterMap assignment? := by
  have hkey : ∀ key, Field.ofKey? (rename key) = Field.ofKey? key := by
    intro key
    apply Option.ext
    intro f
    rw [Field.ofKey?_eq_some_iff, Field.ofKey?_eq_some_iff, h]
  rw [List.filterMap_map]
  refine List.filterMap_congr fun m _ ↦ ?_
  rw [Function.comp_apply, assignment?, hkey, assignment?]

/-- Members that spell no setting assign nothing. -/
theorem filterMap_assignment?_append {foreign : List (String × Json)}
    (h : ∀ m ∈ foreign, ∀ f : Field, m.1 ∉ f.spellings) (members : List (String × Json)) :
    (members ++ foreign).filterMap assignment? = members.filterMap assignment? := by
  have hnothing : foreign.filterMap assignment? = [] :=
    List.filterMap_eq_nil_iff.mpr fun m hm ↦ assignment?_eq_none (h m hm)
  rw [List.filterMap_append, hnothing, List.append_nil]

/-! ## Arrays -/

/-- Values under spellings of the settings assign what the values alone assign. -/
theorem filterMap_assignment?_zip {keys : List String} {fields : List Field}
    (h : List.Forall₂ (fun key f ↦ key ∈ Field.spellings f) keys fields) (items : List Json) :
    (keys.zip items).filterMap assignment? =
      (fields.zip items).map fun p ↦ assignment p.1 p.2 := by
  induction h generalizing items with
  | nil => rfl
  | @cons key f keys fields hkey _ ih =>
    cases items with
    | nil => rfl
    | cons value items =>
      have htake : assignment? (key, value) = some (assignment f value) :=
        assignment?_eq_some_iff.mpr ⟨f, hkey, rfl⟩
      rw [List.zip_cons_cons, List.filterMap_cons_some htake, ih items, List.zip_cons_cons,
        List.map_cons]

/-- An array agrees with an object that holds its items under spellings of the first settings. -/
theorem toOption_ofSection_array_eq {keys : List String} {items : List Json}
    {members : List (String × Json)} (hlength : items.length ≤ Field.inOrder.length)
    (hkeys : List.Forall₂ (fun key f ↦ key ∈ Field.spellings f) keys
      (Field.inOrder.take items.length))
    (hperm : members.Perm (keys.zip items)) :
    (ofSection (.array items)).toOption = (ofSection (.object members)).toOption := by
  have hzip : Field.inOrder.zip items = (Field.inOrder.take items.length).zip items := by
    rw [List.zip_eq_zip_take_min, Nat.min_eq_right hlength, List.take_length]
  rw [toOption_ofSection_array hlength, toOption_ofSection_object,
    assign?_perm (hperm.filterMap assignment?), filterMap_assignment?_zip hkeys, hzip]

/-- **All spellings of a section agree.** If no two members of an object spell the same setting, the
object is a configuration exactly if every member that spells a setting holds a value of its kind,
and then the settings that are spelled have these values and the others their defaults. Renaming
members to other spellings, whatever order that gives them, adding members that spell no setting,
and writing the values of the first settings as an array instead all lead to the same configuration
or to none as before. Two members that spell one setting are always an error, and null is the empty
object. -/
theorem section_spellings_agree :
    (∀ members, SpellsOnce members →
      ((∃ c, ofSection (.object members) = .ok c) ↔
        ∀ m ∈ members, ∀ f : Field, m.1 ∈ f.spellings → ∃ v, m.2 = f.kind.toJson v) ∧
      ∀ c, ofSection (.object members) = .ok c → ∀ f : Field,
        (∀ m ∈ members, m.1 ∈ f.spellings → m.2 = f.kind.toJson (c.get f)) ∧
        ((∀ m ∈ members, m.1 ∉ f.spellings) → c.get f = default.get f)) ∧
    (∀ (rename : String → String),
      (∀ (key : String) (f : Field), rename key ∈ f.spellings ↔ key ∈ f.spellings) →
      ∀ members renamed, renamed.Perm (members.map fun m ↦ (rename m.1, m.2)) →
        (ofSection (.object renamed)).toOption = (ofSection (.object members)).toOption) ∧
    (∀ members foreign all, (∀ m ∈ foreign, ∀ f : Field, m.1 ∉ f.spellings) →
      all.Perm (members ++ foreign) →
        (ofSection (.object all)).toOption = (ofSection (.object members)).toOption) ∧
    (∀ keys items members, items.length ≤ Field.inOrder.length →
      List.Forall₂ (fun key f ↦ key ∈ Field.spellings f) keys (Field.inOrder.take items.length) →
      members.Perm (keys.zip items) →
        (ofSection (.array items)).toOption = (ofSection (.object members)).toOption) ∧
    (∀ members, ¬SpellsOnce members → ∃ e, ofSection (.object members) = .error e) ∧
    ofSection .null = ofSection (.object []) := by
  refine ⟨?_, ?_, ?_, ?_, ?_, rfl⟩
  · intro members honce
    exact ⟨exists_ofSection_iff honce, fun c hc f ↦ get_of_ofSection hc f⟩
  · intro rename hrename members renamed hperm
    apply toOption_ofSection_congr
    rw [← filterMap_assignment?_rename hrename members]
    exact hperm.filterMap assignment?
  · intro members foreign all hforeign hperm
    apply toOption_ofSection_congr
    rw [← filterMap_assignment?_append hforeign members]
    exact hperm.filterMap assignment?
  · intro keys items members hlength hkeys hperm
    exact toOption_ofSection_array_eq hlength hkeys hperm
  · intro members htwice
    exact exists_error_of_not_spellsOnce htwice

/-- The tracking id under two spellings, which a member that spells nothing tells apart in order,
and in an array; under two spellings at once it is an error. -/
theorem tracking_id_by_any_spelling :
    let written : List (String × Json) :=
      [("enabled", .bool true), ("trackingId", .string "G-1"), ("trackingX", .null)]
    let renamed : List (String × Json) :=
      [("enabled", .bool true), ("trackingX", .null), ("tracking_id", .string "G-1")]
    let named : List (String × Json) := [("enabled", .bool true), ("trackingId", .string "G-1")]
    (∃ c, ofSection (.object written) = .ok c ∧ c.trackingId = "G-1" ∧ c.apiSecret = "") ∧
      (ofSection (.object renamed)).toOption = (ofSection (.object written)).toOption ∧
      (ofSection (.object written)).toOption = (ofSection (.object named)).toOption ∧
      (ofSection (.array [.string "G-1", .bool true])).toOption =
        (ofSection (.object named)).toOption ∧
      ∃ e, ofSection (.object [("trackingID", .string "a"), ("tracking_id", .string "a")]) =
        .error e := by
  intro written renamed named
  obtain ⟨hobject, hrename, hforeign, harray, htwice, -⟩ := section_spellings_agree
  obtain ⟨hiff, hget⟩ := hobject written (spellsOnce_iff.mpr (by decide))
  have hnothing : ∀ f : Field, "trackingX" ∉ f.spellings := by
    intro f
    cases f <;> decide
  refine ⟨?_, ?_, ?_, ?_, ?_⟩
  · have hvalues : ∀ m ∈ written, ∀ f : Field, m.1 ∈ f.spellings →
        ∃ v, m.2 = f.kind.toJson v := by
      intro m hm f hf
      simp only [written, List.mem_cons, List.not_mem_nil, or_false] at hm
      rcases hm with rfl | rfl | rfl
      · obtain rfl := Field.eq_of_mem_spellings hf (g := .enabled) (by decide)
        exact ⟨true, rfl⟩
      · obtain rfl := Field.eq_of_mem_spellings hf (g := .trackingId) (by decide)
        exact ⟨"G-1", rfl⟩
      · exact absurd hf (hnothing f)
    obtain ⟨c, hc⟩ := hiff.mpr hvalues
    refine ⟨c, hc, ?_, ?_⟩
    · have h := (hget c hc .trackingId).1 _ (List.mem_cons_of_mem _ List.mem_cons_self) (by decide)
      exact (Json.string.inj h).symm
    · exact (hget c hc .apiSecret).2 (by decide)
  · have hkeys : ∀ (key : String) (f : Field),
        (if key = "trackingId" then "tracking_id" else key) ∈ f.spellings ↔ key ∈ f.spellings := by
      intro key f
      split
      · next h =>
        subst h
        cases f <;> decide
      · exact Iff.rfl
    refine hrename _ hkeys written renamed ?_
    simp only [written, renamed, List.map_cons, List.map_nil, String.reduceEq, if_true, if_false]
    exact (List.Perm.swap _ _ _).cons _
  · refine hforeign named [("trackingX", .null)] written ?_ (List.Perm.refl _)
    intro m hm
    rw [List.mem_singleton.mp hm]
    exact hnothing
  · refine harray ["trackingId", "enabled"] _ named (by decide) ?_ (List.Perm.swap _ _ _)
    exact .cons (by decide) (.cons (by decide) .nil)
  · apply htwice
    rw [spellsOnce_iff]
    decide

end RequestTelemetry.Tracking.Config
