import RequestTelemetry.Environment.Dotenv

/-!
# The entries of a `.env` file

A file is a list of entries: assignments, blank entries and malformed ones. What an entry is, and
which variable it assigns, does not depend on the other variables. The values of references only go
into the value, and nothing that they can be makes a value malformed or mends it.
-/

namespace RequestTelemetry.Dotenv

/-! ## What is read of a value -/

namespace Value

/-- A value without the characters it has. -/
def shape (v : Value) : Value := { v with output := [] }

theorem shape_eq_shape_iff {v v' : Value} : v.shape = v'.shape ↔
    v.strong = v'.strong ∧ v.weak = v'.weak ∧ v.escaped = v'.escaped ∧ v.ended = v'.ended ∧
      v.reference = v'.reference := by
  simp [shape]

@[simp] theorem reference_shape (v : Value) : v.shape.reference = v.reference := rfl

/-- The shape that a character outside references and escapes leaves depends on the shape only. -/
theorem shape_inText (v : Value) (c : Char) : (v.inText c).shape = (v.shape.inText c).shape := by
  simp only [inText, apply_ite shape]
  rfl

/-- A character inside a reference leaves a shape that depends on the shape only: what the reference
stands for goes into the characters of the value. -/
theorem shape_inReference (v : Value) (lookup lookup' : String → String) (c : Char) :
    (v.inReference lookup c).shape = (v.shape.inReference lookup' c).shape := by
  rw [inReference, inReference, reference_shape]
  rcases v.reference with _ | name | name
  · rfl
  · simp only [apply_ite shape]
    rfl
  · simp only [apply_ite shape]
    rfl

/-- Whatever references stand for, the same characters can stand next, with the same shapes. -/
theorem map_shape_next? (v : Value) (lookup lookup' : String → String) (c : Char) :
    (v.next? lookup c).map shape = (v.shape.next? lookup' c).map shape := by
  rw [next?, next?]
  simp only [apply_ite (Option.map shape), Option.map_some, Option.map_map, apply_ite shape,
    shape_inReference v lookup lookup', shape_inText v]
  rfl

/-- Two readings of a value that start alike end alike, whatever references stand for: both at the
same fault, or with values of one shape. -/
theorem map_shape_run (lookup lookup' : String → String) {v v' : Value} (h : v.shape = v'.shape)
    (count : Nat) (cs : List Char) :
    (run lookup v count cs).map shape = (run lookup' v' count cs).map shape := by
  induction cs generalizing v v' count with
  | nil => exact congrArg Except.ok h
  | cons c cs ih =>
    obtain ⟨-, -, -, hended, -⟩ := shape_eq_shape_iff.mp h
    have hnext : (v.next? lookup c).map shape = (v'.next? lookup' c).map shape := by
      rw [map_shape_next? v lookup lookup', h, ← map_shape_next? v' lookup' lookup']
    rw [run, run, hended]
    -- a comment ends both readings, any other character leads to shapes that are alike again
    by_cases hcomment : v'.ended = true ∧ c = '#'
    · rw [if_pos hcomment, if_pos hcomment]
      exact congrArg Except.ok h
    rw [if_neg hcomment, if_neg hcomment]
    revert hnext
    rcases v.next? lookup c with _ | w <;> rcases v'.next? lookup' c with _ | w' <;> intro hnext
    · rfl
    · cases hnext
    · cases hnext
    · exact ih (Option.some.inj hnext) (count + 1)

/-- Whether a value is closed depends on its shape only. -/
theorem isSome_finish? (lookup lookup' : String → String) {v v' : Value}
    (h : v.shape = v'.shape) : (v.finish? lookup).isSome = (v'.finish? lookup').isSome := by
  obtain ⟨hstrong, hweak, -, -, hreference⟩ := shape_eq_shape_iff.mp h
  rw [finish?, finish?, hreference, hstrong, hweak]
  rcases v'.reference with _ | name | name
  · simp only [apply_ite Option.isSome]
    rfl
  · simp only [apply_ite Option.isSome]
    rfl
  · rfl

end Value

/-- Whatever references stand for, a text is a value or has the same fault. -/
theorem map_readValue (lookup lookup' : String → String) (cs : List Char) :
    (readValue lookup cs).map (fun _ ↦ ()) = (readValue lookup' cs).map fun _ ↦ () := by
  have hrun := Value.map_shape_run lookup lookup' (v := {}) rfl 0 cs
  rw [readValue, readValue]
  revert hrun
  rcases Value.run lookup {} 0 cs with count | v <;>
    rcases Value.run lookup' {} 0 cs with count' | v' <;> intro hrun
  · cases hrun
    rfl
  · cases hrun
  · cases hrun
  · have hclosed := Value.isSome_finish? lookup lookup' (Except.ok.inj hrun)
    revert hclosed
    dsimp only
    rcases v.finish? lookup with _ | s <;> rcases v'.finish? lookup' with _ | s' <;> intro hclosed
    · rfl
    · cases hclosed
    · cases hclosed
    · rfl

/-- Whatever references stand for, a text assigns the same variable or has the same fault. -/
theorem map_readAssignment (lookup lookup' : String → String) (text : List Char) :
    (readAssignment lookup text).map (Option.map Prod.fst)
      = (readAssignment lookup' text).map (Option.map Prod.fst) := by
  rw [readAssignment, readAssignment]
  split
  · rfl
  rcases readTarget (Text.trimStart (Text.trimEnd text)) with rest | ⟨name, value⟩
  · rfl
  dsimp only
  split
  · rfl
  have hname : ∀ r : Except Error String, (r.map fun v ↦ some (name, v)).map (Option.map Prod.fst)
      = (r.map fun _ ↦ ()).map fun _ ↦ some name := by
    rintro (_ | _) <;> rfl
  rw [hname, hname, map_readValue lookup lookup']

/-! ## Entries -/

/-- The entries of a file: their texts, or why there is none. -/
def entries (content : Bytes) : List (Except Error (List Char)) :=
  texts [] .plain (rawLines (withoutMark content))

/-- Reads what an entry assigns, if it is well-formed. -/
def readEntry (lookup : String → String) (entry : Except Error (List Char)) :
    Except Error (Option (String × String)) :=
  entry.bind (readAssignment lookup)

/-- The variable that an entry assigns, if it is well-formed. -/
def target (entry : Except Error (List Char)) : Except Error (Option String) :=
  (readEntry (fun _ ↦ "") entry).map (Option.map Prod.fst)

/-- Which variable an entry assigns, and whether it is malformed, does not depend on other
variables. -/
theorem map_readEntry (lookup : String → String) (entry : Except Error (List Char)) :
    (readEntry lookup entry).map (Option.map Prod.fst) = target entry := by
  rcases entry with e | text
  · rfl
  · exact map_readAssignment lookup _ text

theorem target_eq_error_iff (lookup : String → String) {entry : Except Error (List Char)}
    {cause : Error} : target entry = .error cause ↔ readEntry lookup entry = .error cause := by
  rw [← map_readEntry lookup]
  rcases readEntry lookup entry with e | a <;> simp [Except.map]

theorem target_eq_none_iff (lookup : String → String) {entry : Except Error (List Char)} :
    target entry = .ok none ↔ readEntry lookup entry = .ok none := by
  rw [← map_readEntry lookup]
  rcases readEntry lookup entry with e | a <;> simp [Except.map]

theorem target_eq_some_iff (lookup : String → String) {entry : Except Error (List Char)}
    {name : String} : target entry = .ok (some name) ↔
      ∃ value, readEntry lookup entry = .ok (some (name, value)) := by
  rw [← map_readEntry lookup]
  rcases readEntry lookup entry with e | a <;> simp [Except.map]

end RequestTelemetry.Dotenv
