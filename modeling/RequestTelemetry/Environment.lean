/-!
# Environments

The variables of a process, in the order in which they were first set.
-/

namespace RequestTelemetry

/-- The variables of a process. -/
structure Environment where
  vars : List (String × String) := []
  deriving DecidableEq, Repr, Inhabited

namespace Environment

/-- The value of a variable. -/
def get? (e : Environment) (name : String) : Option String := e.vars.lookup name

/-- Whether a variable is set. -/
def contains (e : Environment) (name : String) : Bool := (e.get? name).isSome

/-- Sets a variable; one that is set already keeps its place. -/
def set (e : Environment) (name value : String) : Environment :=
  if e.contains name then
    ⟨e.vars.map fun v ↦ if v.1 = name then (name, value) else v⟩
  else ⟨e.vars ++ [(name, value)]⟩

theorem lookup_map_set (vars : List (String × String)) (name value other : String) :
    (vars.map fun v ↦ if v.1 = name then (name, value) else v).lookup other =
      if other = name ∧ (vars.lookup name).isSome then some value else vars.lookup other := by
  induction vars with
  | nil => simp
  | cons v rest ih =>
    obtain ⟨key, old⟩ := v
    by_cases hk : key = name
    · subst hk
      by_cases ho : other = key
      · simp [ho]
      · simp [List.lookup_cons, beq_false_of_ne ho, ho, ih]
    · have hname : ((key, old) :: rest).lookup name = rest.lookup name := by
        rw [List.lookup_cons, beq_false_of_ne (Ne.symm hk)]
      rw [hname, List.map_cons, if_neg hk, List.lookup_cons, List.lookup_cons, ih]
      by_cases ho : other = key
      · simp [ho, hk]
      · simp [beq_false_of_ne ho]

/-- Setting a variable changes no other. -/
theorem get?_set (e : Environment) (name value other : String) :
    (e.set name value).get? other = if other = name then some value else e.get? other := by
  unfold set get? contains
  split
  · next h =>
    rw [lookup_map_set]
    simp only [get?] at h
    simp [h]
  · next h =>
    simp only [get?, Option.not_isSome_iff_eq_none] at h
    simp only [List.lookup_append, List.lookup_cons, List.lookup_nil]
    grind

/-- Sets a variable that is not set yet. -/
def setIfNew (e : Environment) (name value : String) : Environment :=
  if e.contains name then e else e.set name value

/-- A variable that has a value keeps it. -/
theorem get?_setIfNew (e : Environment) (name value other : String) :
    (e.setIfNew name value).get? other =
      if other = name then some ((e.get? name).getD value) else e.get? other := by
  unfold setIfNew contains
  split
  · next h =>
    obtain ⟨v, hv⟩ := Option.isSome_iff_exists.mp h
    by_cases ho : other = name <;> simp [ho, hv]
  · next h =>
    simp only [Option.not_isSome_iff_eq_none] at h
    simp [get?_set, h]

/-- The environment in which the given variables are set one after another. -/
def ofList (vars : List (String × String)) : Environment :=
  vars.foldl (fun e v ↦ e.set v.1 v.2) {}

end Environment
end RequestTelemetry
