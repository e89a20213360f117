import RequestTelemetry.Tracking.Config
import RequestTelemetry.Json.Basic
import RequestTelemetry.Text.Quoted

/-!
# Configuration sections

A configuration read from a JSON value. An object sets the settings its keys spell and leaves the
others at their defaults; keys that spell no setting are passed over, and two keys that spell the
same one are an error. An array sets the settings in their order. Null sets nothing.

Members are visited in the order of the object, and the first fault is reported; that a setting
occurs again is noticed before its value is looked at.
-/

namespace RequestTelemetry.Tracking

/-- What a reader of sections expected. -/
inductive Expected where
  | kind (k : Config.Field.Kind)
  | configuration
  deriving DecidableEq, Repr

/-- The name of what was expected. -/
def Expected.text : Expected → String
  | kind .text => "a string"
  | kind .flag => "a boolean"
  | kind .word => "u64"
  | kind .size => "usize"
  | configuration => "struct TrackingConfig"

/-- Why a section is no configuration. -/
inductive SectionError where
  /-- A value of another type. -/
  | wrongType (found : Json) (expected : Expected)
  /-- A number outside the range. -/
  | wrongValue (found : Json) (expected : Expected)
  /-- A setting that occurs twice. -/
  | duplicate (field : Config.Field)
  /-- An array with more items than there are settings. -/
  | tooLong (length : Nat)

/-- A value as an error describes it. -/
def describe : Json → String
  | .null => "null"
  | .bool b => "boolean \x60" ++ (if b then "true" else "false") ++ "\x60"
  | .number (.integer n) => "integer \x60" ++ String.ofList (Number.integerText n) ++ "\x60"
  | .number (.float x) => "floating point \x60" ++ String.ofList (Number.floatText x) ++ "\x60"
  | .string s => "string " ++ Text.quoted s
  | .array _ => "sequence"
  | .object _ => "map"

/-- The text of an error. -/
def SectionError.message : SectionError → String
  | wrongType found expected =>
    "invalid type: " ++ describe found ++ ", expected " ++ expected.text
  | wrongValue found expected =>
    "invalid value: " ++ describe found ++ ", expected " ++ expected.text
  | duplicate field => "duplicate field \x60" ++ field.name ++ "\x60"
  | tooLong length =>
    "invalid length " ++ toString length ++ ", expected fewer elements in array"

/-- The text of an error when a section is loaded. -/
def SectionError.loadMessage (e : SectionError) : String :=
  "invalid tracking configuration: " ++ e.message

namespace Config

/-- A count from an integer that is not negative and fits 64 bits. -/
def readCount (k : Field.Kind) : Json → Except SectionError UInt64
  | .number (.integer n) =>
    if 0 ≤ n ∧ n ≤ (Duration.maxWord : Int) then .ok n.toNat.toUInt64
    else .error (.wrongValue (.number (.integer n)) (.kind k))
  | j => .error (.wrongType j (.kind k))

/-- The value of a kind that a JSON value holds. -/
def readJson : (k : Field.Kind) → Json → Except SectionError k.Carrier
  | .text, .string s => .ok s
  | .flag, .bool b => .ok b
  | .word, j => readCount .word j
  | .size, j => readCount .size j
  | k, j => .error (.wrongType j (.kind k))

/-- Assigns the settings that the members spell; `seen` are those already assigned. -/
def readMembers (seen : List Field) (c : Config) :
    List (String × Json) → Except SectionError Config
  | [] => .ok c
  | (key, value) :: rest =>
    match Field.ofKey? key with
    | none => readMembers seen c rest
    | some f =>
      if f ∈ seen then .error (.duplicate f)
      else
        match readJson f.kind value with
        | .error e => .error e
        | .ok v => readMembers (f :: seen) (c.set f v) rest

/-- Assigns the settings in order from the items. -/
def readItems (c : Config) : List Field → List Json → Except SectionError Config
  | f :: fields, value :: rest =>
    match readJson f.kind value with
    | .error e => .error e
    | .ok v => readItems (c.set f v) fields rest
  | _, _ => .ok c

/-- Reads a configuration section. -/
def ofSection : Json → Except SectionError Config
  | .null => .ok default
  | .object fields => readMembers [] default fields
  | .array items =>
    match readItems default Field.inOrder items with
    | .error e => .error e
    | .ok c => if Field.inOrder.length < items.length then .error (.tooLong items.length) else .ok c
  | j => .error (.wrongType j .configuration)

end Config
end RequestTelemetry.Tracking
