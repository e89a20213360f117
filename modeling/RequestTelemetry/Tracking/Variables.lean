import RequestTelemetry.Environment
import RequestTelemetry.Tracking.Config

/-!
# Configuration from environment variables

The variables whose name starts with a given stem and an underscore set the settings that the rest
of the name spells in any case; a stem that occurs several times in a row is taken off as often.
Variables whose rest spells no setting are passed over, whatever their value.

Variables are visited in order, and the first fault is reported; that a setting occurs again is
noticed before its value is read.
-/

namespace RequestTelemetry.Tracking

/-- Why the value of a variable cannot be read. -/
inductive ValueError where
  | notBoolean
  | noDigits
  | invalidDigit
  | tooLarge
  deriving DecidableEq, Repr

/-- The text of an error. -/
def ValueError.message : ValueError → String
  | notBoolean => "provided string was not \x60true\x60 or \x60false\x60"
  | noDigits => "cannot parse integer from empty string"
  | invalidDigit => "invalid digit found in string"
  | tooLarge => "number too large to fit in target type"

/-- Why variables are no configuration. -/
inductive VariablesError where
  /-- A value that cannot be read; `name` is the rest of the variable's name. -/
  | badValue (cause : ValueError) (value name : String)
  /-- A setting that occurs twice. -/
  | duplicate (field : Config.Field)
  deriving DecidableEq, Repr

/-- The text of an error. -/
def VariablesError.message : VariablesError → String
  | badValue cause value name =>
    cause.message ++ " while parsing value '" ++ value ++ "' provided by " ++ name
  | duplicate field => "duplicate field \x60" ++ field.name ++ "\x60"

namespace Config

/-- A character in lower case, as far as that is an ASCII letter: capital ASCII letters and the
Kelvin sign. -/
def lowerChar (c : Char) : Char := if c = '\u212A' then 'k' else c.toLower

/-- A name in lower case. -/
def lowerName (s : String) : String := String.ofList (s.toList.map lowerChar)

/-- Extends a 64-bit number by decimal digits. -/
def readDigits (n : Nat) : List Char → Except ValueError UInt64
  | [] => .ok n.toUInt64
  | c :: rest =>
    if c.isDigit then
      let m := n * 10 + (c.toNat - '0'.toNat)
      if m ≤ Duration.maxWord then readDigits m rest else .error .tooLarge
    else .error .invalidDigit

/-- Reads a number: decimal digits, with a plus sign before them or without. -/
def readNumber (s : String) : Except ValueError UInt64 :=
  match s.toList with
  | [] => .error .noDigits
  | ['+'] => .error .invalidDigit
  | '+' :: rest => readDigits 0 rest
  | cs => readDigits 0 cs

/-- The value of a kind that a text spells. -/
def readText : (k : Field.Kind) → String → Except ValueError k.Carrier
  | .text, s => .ok s
  | .flag, s =>
    if s = "true" then .ok true else if s = "false" then .ok false else .error .notBoolean
  | .word, s => readNumber s
  | .size, s => readNumber s

/-- What is left of `cs` after a stem at its start. -/
def afterStem? : List Char → List Char → Option (List Char)
  | [], cs => some cs
  | p :: ps, c :: cs => if p = c then afterStem? ps cs else none
  | _ :: _, [] => none

theorem length_of_afterStem? {p cs rest : List Char} (h : afterStem? p cs = some rest) :
    rest.length + p.length = cs.length := by
  induction p generalizing cs with
  | nil => simp_all [afterStem?]
  | cons a p ih =>
    cases cs with
    | nil => simp [afterStem?] at h
    | cons c cs =>
      simp only [afterStem?] at h
      split at h
      · have := ih h
        simp only [List.length_cons]
        omega
      · simp at h

/-- What is left of `cs` after taking off a stem as often as it stands at the start. -/
def stripStem (stem cs : List Char) : List Char :=
  match stem with
  | [] => cs
  | p :: ps =>
    match _h : afterStem? (p :: ps) cs with
    | none => cs
    | some rest => stripStem (p :: ps) rest
termination_by cs.length
decreasing_by
  have := length_of_afterStem? _h
  simp only [List.length_cons] at this
  omega

/-- The name of a variable without the stem, if it starts with it. -/
def strippedName? (stem name : String) : Option String :=
  if (afterStem? stem.toList name.toList).isSome then
    some (String.ofList (stripStem stem.toList name.toList))
  else none

/-- The variables that start with a stem, with the rest of their names. -/
def relevant (stem : String) (e : Environment) : List (String × String) :=
  e.vars.filterMap fun v ↦ (strippedName? stem v.1).map fun name ↦ (name, v.2)

/-- Assigns the settings that the names spell; `seen` are those already assigned. -/
def readVariables (seen : List Field) (c : Config) :
    List (String × String) → Except VariablesError Config
  | [] => .ok c
  | (name, value) :: rest =>
    match Field.ofKey? (lowerName name) with
    | none => readVariables seen c rest
    | some f =>
      if f ∈ seen then .error (.duplicate f)
      else
        match readText f.kind value with
        | .error cause => .error (.badValue cause value name)
        | .ok v => readVariables (f :: seen) (c.set f v) rest

/-- Reads the configuration from the variables whose names start with `stem` and an underscore. -/
def ofVariables (stem : String) (e : Environment) : Except VariablesError Config :=
  readVariables [] default (relevant (stem ++ "_") e)

/-- The stem of the variables when the host chooses none. -/
def defaultStem : String := "REQTRACK_ANALYTICS"

end Config

/-- Why a configuration could not be loaded. -/
def VariablesError.loadMessage (e : VariablesError) : String :=
  "failed to load tracking configuration from environment: " ++ e.message

end RequestTelemetry.Tracking
