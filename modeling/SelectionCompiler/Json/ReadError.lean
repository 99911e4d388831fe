import SelectionCompiler.Json.Draft
import SelectionCompiler.Text.Diagnostic

/-!
# Errors of readers

A reader of a JSON text fails because the text is not JSON, or because a value is not what the
reader wants.  The second kind of error says what was found and what was wanted.
-/

namespace SelectionCompiler.Json

/-- What was found in the place of something else. -/
inductive Found where
  | null
  | bool (value : Bool)
  | integer (value : Int)
  | float (value : Float)
  | string (value : String)
  | sequence
  | map
  /-- A variant that should carry a value, given by its name alone. -/
  | unitVariant

/-- Why a value is not what the reader wants. -/
inductive Mismatch where
  | invalidType (found : Found) (wanted : String)
  | invalidValue (found : Found) (wanted : String)
  | invalidLength (found : Nat) (wanted : String)
  | unknownVariant (name : String) (known : List String)
  | unknownField (name : String) (known : List String)
  | missingField (name : String)
  | duplicateField (name : String)

/-- Why reading failed. -/
inductive ReadError where
  | malformed (fault : Fault)
  | mismatch (cause : Mismatch)

namespace Found

/-- What was found, in words. -/
def message : Found → String
  | .null => "null"
  | .bool value => "boolean `" ++ (if value then "true" else "false") ++ "`"
  | .integer value => "integer `" ++ Text.decimal value ++ "`"
  | .float value => "floating point `" ++ Decimal.Layout.json.float value ++ "`"
  | .string value => "string " ++ Text.shown value
  | .sequence => "sequence"
  | .map => "map"
  | .unitVariant => "unit variant"

end Found

/-- A choice of names in words. -/
def oneOf (names : List String) : String :=
  let quotedNames := names.map fun name => "`" ++ name ++ "`"
  match quotedNames with
  | [only] => only
  | [first, second] => first ++ " or " ++ second
  | _ => "one of " ++ ", ".intercalate quotedNames

namespace Mismatch

/-- The text that tells what was found and what was wanted. -/
def message : Mismatch → String
  | .invalidType found wanted => "invalid type: " ++ found.message ++ ", expected " ++ wanted
  | .invalidValue found wanted => "invalid value: " ++ found.message ++ ", expected " ++ wanted
  | .invalidLength found wanted =>
      "invalid length " ++ Text.decimal found ++ ", expected " ++ wanted
  | .unknownVariant name known =>
      "unknown variant `" ++ name ++ "`, expected " ++ oneOf known
  | .unknownField name known => "unknown field `" ++ name ++ "`, expected " ++ oneOf known
  | .missingField name => "missing field `" ++ name ++ "`"
  | .duplicateField name => "duplicate field `" ++ name ++ "`"

end Mismatch

namespace ReadError

/-- The text that tells why reading failed. -/
def message : ReadError → String
  | .malformed fault => fault.message
  | .mismatch cause => cause.message

end ReadError

end SelectionCompiler.Json
