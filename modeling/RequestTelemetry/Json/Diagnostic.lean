import RequestTelemetry.Json.Basic
import RequestTelemetry.Text.Quoted

/-!
# JSON values in diagnostics

How a diagnostic shows a value: its kind, and inside parentheses, brackets or braces what it holds.
Strings are quoted.
-/

namespace RequestTelemetry.Json

mutual

/-- The diagnostic form of a value. -/
def diagnostic : Json → String
  | null => "Null"
  | bool b => "Bool(" ++ (if b then "true" else "false") ++ ")"
  | number n => "Number(" ++ String.ofList n.text ++ ")"
  | string s => "String(" ++ Text.quoted s ++ ")"
  | array items => "Array [" ++ diagnosticItems items ++ "]"
  | object fields => "Object \x7b" ++ diagnosticFields fields ++ "\x7d"

/-- The items of an array, with commas between them. -/
def diagnosticItems : List Json → String
  | [] => ""
  | [x] => diagnostic x
  | x :: y :: rest => diagnostic x ++ ", " ++ diagnosticItems (y :: rest)

/-- The members of an object, with commas between them. -/
def diagnosticFields : List (String × Json) → String
  | [] => ""
  | [(k, x)] => Text.quoted k ++ ": " ++ diagnostic x
  | (k, x) :: y :: rest =>
    Text.quoted k ++ ": " ++ diagnostic x ++ ", " ++ diagnosticFields (y :: rest)

end

end RequestTelemetry.Json
