import Mathlib.Data.List.Nodup
import Mathlib.Data.List.Sort
import Mathlib.Data.String.Basic
import RequestTelemetry.Proofs.ByteOrder
import RequestTelemetry.Registry

/-!
# The registry is coherent

The names, the lookup and the build of a registry each go over its registrations in their own way:
the names are sorted and freed of repetitions, a lookup stops at the first match, and a build runs
what the lookup gives. They agree in what is registered, whatever is registered and however often.

The order of the registrations shows only in which of several registrations of one name counts. A
strictly increasing list is determined by its members, so the names are the same in every order, and
if no name is registered twice, so is everything that is built.
-/

namespace RequestTelemetry.Registry

/-! ## Runs of equal elements -/

section Runs

variable {α : Type} [BEq α] [LawfulBEq α] {a b : α} {rest kept : List α}

/-- Contracting runs drops no member; `a` is the element that is read and `kept` is what was kept
before it. -/
theorem mem_eraseRepsBy_loop :
    b ∈ List.eraseRepsBy.loop (· == ·) a rest kept ↔ b = a ∨ b ∈ rest ∨ b ∈ kept := by
  induction rest generalizing a kept with
  | nil =>
    rw [List.eraseRepsBy.loop, List.mem_reverse, List.mem_cons]
    simp
  | cons c rest ih =>
    rw [List.eraseRepsBy.loop]
    split
    · next h =>
      obtain rfl := eq_of_beq h
      rw [ih, List.mem_cons, or_assoc, or_self_left]
    · rw [ih, List.mem_cons, List.mem_cons, or_assoc]
      tauto

theorem mem_eraseReps {l : List α} : b ∈ l.eraseReps ↔ b ∈ l := by
  rcases l with _ | ⟨a, rest⟩
  · exact Iff.rfl
  · rw [List.eraseReps, List.eraseRepsBy, mem_eraseRepsBy_loop, List.mem_cons]
    simp

variable [LinearOrder α]

/-- With the runs contracted, increasing elements are strictly increasing, after those kept. -/
theorem pairwise_eraseRepsBy_loop (hsorted : (a :: rest).Pairwise (· ≤ ·))
    (hkept : kept.Pairwise (· > ·)) (hbelow : ∀ b ∈ kept, b < a) :
    (List.eraseRepsBy.loop (· == ·) a rest kept).Pairwise (· < ·) := by
  -- `kept` is in reverse, so it decreases, and it stays below the element that is read
  induction rest generalizing a kept with
  | nil =>
    rw [List.eraseRepsBy.loop, List.pairwise_reverse, List.pairwise_cons]
    exact ⟨hbelow, hkept⟩
  | cons c rest ih =>
    obtain ⟨hfirst, hrest⟩ := List.pairwise_cons.mp hsorted
    rw [List.eraseRepsBy.loop]
    split
    · next h =>
      obtain rfl := eq_of_beq h
      exact ih hrest hkept hbelow
    · next h =>
      have hlt : a < c := lt_of_le_of_ne (hfirst c List.mem_cons_self) (by simpa using h)
      refine ih hrest (List.pairwise_cons.mpr ⟨hbelow, hkept⟩) fun b hb ↦ ?_
      rcases List.mem_cons.mp hb with rfl | hb
      · exact hlt
      · exact (hbelow b hb).trans hlt

theorem pairwise_eraseReps {l : List α} (h : l.Pairwise (· ≤ ·)) :
    l.eraseReps.Pairwise (· < ·) := by
  rcases l with _ | ⟨a, rest⟩
  · exact List.Pairwise.nil
  · exact pairwise_eraseRepsBy_loop h List.Pairwise.nil fun b hb ↦ absurd hb List.not_mem_nil

end Runs

/-! ## Names -/

variable {r r' : Registry} {name : String} {entry : Registration}

theorem mem_names_iff : name ∈ r.names ↔ name ∈ r.registrations.map Registration.name := by
  rw [names, mem_eraseReps, List.mem_mergeSort]

/-- The names are strictly increasing. -/
theorem pairwise_names (r : Registry) : r.names.Pairwise (· < ·) := by
  have hle : ∀ a b : String, (!decide (b < a)) = true ↔ a ≤ b := fun a b ↦ by
    rw [Bool.not_eq_true', decide_eq_false_iff_not, not_lt]
  apply pairwise_eraseReps
  refine (List.pairwise_mergeSort ?_ ?_ _).imp fun {a b} ↦ (hle a b).mp
  · intro a b c
    rw [hle, hle, hle]
    exact le_trans
  · intro a b
    rw [Bool.or_eq_true, hle, hle]
    exact le_total a b

/-- Registries with the same registered names list them alike. -/
theorem names_congr (h : ∀ name, name ∈ r'.names ↔ name ∈ r.names) : r'.names = r.names :=
  (pairwise_names r').eq_of_mem_iff (pairwise_names r) h

/-! ## Lookup -/

theorem mem_of_lookup (h : r.lookup name = some entry) :
    entry ∈ r.registrations ∧ entry.name = name := by
  have hname := List.find?_some (p := fun e : Registration ↦ decide (e.name = name)) h
  exact ⟨List.mem_of_find?_eq_some h, of_decide_eq_true hname⟩

/-- The names are those that a lookup finds. -/
theorem mem_names_iff_lookup : name ∈ r.names ↔ ∃ entry, r.lookup name = some entry := by
  rw [mem_names_iff, List.mem_map]
  constructor
  · rintro ⟨entry, hentry, hname⟩
    exact Option.isSome_iff_exists.mp (List.find?_isSome.mpr ⟨entry, hentry, decide_eq_true hname⟩)
  · rintro ⟨entry, hlookup⟩
    exact ⟨entry, mem_of_lookup hlookup⟩

/-- If no name is registered twice, a lookup finds all that is registered. -/
theorem lookup_eq_some_iff (hdistinct : (r.registrations.map Registration.name).Nodup) :
    r.lookup name = some entry ↔ entry ∈ r.registrations ∧ entry.name = name := by
  refine ⟨mem_of_lookup, ?_⟩
  rintro ⟨hentry, hname⟩
  have hlisted : name ∈ r.names := mem_names_iff.mpr (List.mem_map.mpr ⟨entry, hentry, hname⟩)
  obtain ⟨found, hfound⟩ := mem_names_iff_lookup.mp hlisted
  obtain ⟨hmem, hsame⟩ := mem_of_lookup hfound
  rw [hfound, List.inj_on_of_nodup_map hdistinct hmem hentry (hsame.trans hname.symm)]

theorem lookup_perm (hperm : r'.registrations.Perm r.registrations)
    (hdistinct : (r.registrations.map Registration.name).Nodup) (name : String) :
    r'.lookup name = r.lookup name := by
  have hdistinct' := (hperm.map Registration.name).nodup_iff.mpr hdistinct
  ext entry
  rw [lookup_eq_some_iff hdistinct', lookup_eq_some_iff hdistinct, hperm.mem_iff]

/-! ## Build -/

theorem build_of_lookup (h : r.lookup name = some entry) (config : Json) :
    r.build name config = (entry.create config, [.building name]) := by
  rw [build, h]

theorem build_of_not_mem (h : name ∉ r.names) (config : Json) :
    r.build name config = (.error (.notFound name), []) := by
  have hnone : r.lookup name = none := by
    rw [Option.eq_none_iff_forall_ne_some]
    exact fun entry hentry ↦ h (mem_names_iff_lookup.mpr ⟨entry, hentry⟩)
  rw [build, hnone]

/-- A build depends on the registration that the lookup gives only. -/
theorem build_congr (hnames : r'.names = r.names) (config : Json)
    (h : ∀ entry entry', r.lookup name = some entry → r'.lookup name = some entry' →
      entry'.create config = entry.create config) :
    r'.build name config = r.build name config := by
  by_cases hname : name ∈ r.names
  · obtain ⟨entry, hentry⟩ := mem_names_iff_lookup.mp hname
    obtain ⟨entry', hentry'⟩ := mem_names_iff_lookup.mp (hnames ▸ hname)
    rw [build_of_lookup hentry, build_of_lookup hentry', h entry entry' hentry hentry']
  · rw [build_of_not_mem hname, build_of_not_mem (hnames ▸ hname)]

/-- **The registry is coherent, and the order of the registrations does not matter.** The names
increase strictly in the order of their octets, and they are the names that a lookup finds. What it
finds bears the name, and its factory makes what a build gives, after one line in the log; no other
factory has a part in it. A name that is not registered is not found, without a line. In every order
of the registrations the names are the same, and if they are distinct, so are lookups and builds. -/
theorem registry_coherent (r : Registry) :
    (r.names.Pairwise fun a b ↦ Utf8.encode a < Utf8.encode b) ∧
    (∀ name, name ∈ r.names ↔ ∃ entry, r.lookup name = some entry) ∧
    (∀ name entry, r.lookup name = some entry →
      entry ∈ r.registrations ∧ entry.name = name ∧
        ∀ config, r.build name config = (entry.create config, [.building name]) ∧
          (LogLine.building name).message = "Building interceptor") ∧
    (∀ name, name ∉ r.names → ∀ config, r.build name config = (.error (.notFound name), [])) ∧
    (∀ r' : Registry, r'.names = r.names → ∀ name config,
      (∀ entry entry', r.lookup name = some entry → r'.lookup name = some entry' →
        entry'.create config = entry.create config) →
          r'.build name config = r.build name config) ∧
    ∀ r' : Registry, r'.registrations.Perm r.registrations →
      r'.names = r.names ∧
        ((r.registrations.map Registration.name).Nodup → ∀ name,
          r'.lookup name = r.lookup name ∧
            ∀ config, r'.build name config = r.build name config) := by
  refine ⟨(pairwise_names r).imp Utf8.encode_lt, fun _ ↦ mem_names_iff_lookup, ?_,
    fun _ ↦ build_of_not_mem, fun r' hnames _ ↦ build_congr hnames, ?_⟩
  · intro name entry hlookup
    obtain ⟨hmem, hname⟩ := mem_of_lookup hlookup
    exact ⟨hmem, hname, fun config ↦ ⟨build_of_lookup hlookup config, rfl⟩⟩
  · intro r' hperm
    have hnames : r'.names = r.names := names_congr fun name ↦ by
      rw [mem_names_iff, mem_names_iff, (hperm.map _).mem_iff]
    refine ⟨hnames, fun hdistinct name ↦ ⟨lookup_perm hperm hdistinct name, fun config ↦ ?_⟩⟩
    rw [build, build, lookup_perm hperm hdistinct]

/-- A layer is built from three registrations as from their reverse, and as from others with the
same names; a name that is not among them is not found. -/
theorem deny_built_in_either_order :
    let r : Registry := ⟨[.passThrough "pass-through", .deny, .passThrough "étape"]⟩
    let r' : Registry := ⟨r.registrations.reverse⟩
    let broken (name : String) : Registration := ⟨name, fun _ ↦ .error (.invalidConfig name "")⟩
    let r'' : Registry := ⟨[.deny, broken "étape", broken "pass-through", broken "deny"]⟩
    r.names = ["deny", "pass-through", "étape"] ∧ r'.names = r.names ∧
      r'.build "deny" (.object []) =
        (.error (.invalidConfig "deny" "invalid status code"), [.building "deny"]) ∧
      r''.build "deny" (.object []) = r.build "deny" (.object []) ∧
      r.build "Deny" (.object []) = (.error (.notFound "Deny"), []) := by
  intro r r' broken r''
  obtain ⟨-, -, hbuild, hmissing, hothers, horder⟩ := registry_coherent r
  obtain ⟨hnames, hsame⟩ := horder r' (List.reverse_perm r.registrations)
  have hlist : r.names = ["deny", "pass-through", "étape"] := by
    refine (pairwise_names r).eq_of_mem_iff (by decide +kernel) fun name ↦ ?_
    have hperm : (r.registrations.map Registration.name).Perm
        ["deny", "pass-through", "étape"] := by decide +kernel
    rw [mem_names_iff, hperm.mem_iff]
  have hlookup : r.lookup "deny" = some .deny := by rfl
  refine ⟨hlist, hnames, ?_, ?_, hmissing "Deny" (by rw [hlist]; decide) (.object [])⟩
  · rw [(hsame (by decide +kernel) "deny").2, ((hbuild "deny" _ hlookup).2.2 (.object [])).1]
    rfl
  · have hnames'' : r''.names = r.names := names_congr fun name ↦ by
      rw [hlist, mem_names_iff]
      simp only [r'', broken, Registration.deny, List.map_cons, List.map_nil, List.mem_cons,
        List.not_mem_nil, or_false]
      tauto
    refine hothers r'' hnames'' "deny" (.object []) fun entry entry' hentry hentry' ↦ ?_
    rw [← Option.some.inj hentry, ← Option.some.inj hentry']

end RequestTelemetry.Registry
