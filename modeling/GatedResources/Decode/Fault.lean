import GatedResources.Text.Quoted

/-!
# What can be wrong with a value

A fault says where a value is not what was expected, and how. Values from requests and
values from settings are reported in two wordings.
-/

namespace GatedResources

inductive Found where
  | null
  | flag (value : Bool)
  | integer (value : Int)
  | float (value : Binary64)
  | signedZero
  | infinite (negative : Bool)
  | text (value : String)
  | sequence
  | map
deriving DecidableEq, Repr

def Found.of : Json -> Found
  | .null => .null
  | .bool value => .flag value
  | .number (.integer value) => .integer value
  | .number (.float value) => .float value
  | .number .signedZero => .signedZero
  | .number (.infinite negative) => .infinite negative
  | .string value => .text value
  | .array _ => .sequence
  | .object _ => .map

inductive Cause where
  | wrongType (found : Found) (expected : String)
  | wrongValue (found : Found) (expected : String)
  | wrongLength (length : Nat) (expected : String)
  | missingField (field : String)
  | duplicateField (field : String)
  | unknownField (field : String) (known : List String)
  | unknownVariant (variant : String) (known : List String)
deriving DecidableEq, Repr

/-- A refused value: the keys that lead to it, outermost first, and the reason. -/
structure Fault where
  path : List String
  cause : Cause
deriving DecidableEq, Repr

namespace Found

def flagText (value : Bool) : String :=
  if value then "true" else "false"

def infinityText (negative : Bool) : String :=
  if negative then "-inf" else "inf"

def requestText : Found -> String
  | .null => "null"
  | .flag value => "boolean " ++ ticked (flagText value)
  | .integer value => "integer " ++ ticked (Decimal.integer value)
  | .float value => "floating point " ++ ticked (Decimal.floatText value)
  | .signedZero => "integer " ++ ticked "0"
  | .infinite negative => "floating point " ++ ticked (infinityText negative)
  | .text value => "string " ++ quoted value
  | .sequence => "sequence"
  | .map => "map"

def settingsText : Found -> String
  | .null => "unit"
  | .flag value => "bool " ++ flagText value
  | .integer value =>
      (if value < 0 then "signed int " else "unsigned int ") ++ ticked (Decimal.integer value)
  | .float value => "float " ++ ticked (Decimal.plainFloatText value)
  | .signedZero => "signed int " ++ ticked "0"
  | .infinite negative => "float " ++ ticked (infinityText negative)
  | .text value => "string " ++ quoted value
  | .sequence => "sequence"
  | .map => "map"

end Found

def nameList : List String -> String
  | [] => ""
  | [only] => ticked only
  | [first, second] => ticked first ++ " or " ++ ticked second
  | names => "one of " ++ ", ".intercalate (names.map ticked)

namespace Cause

def requestMessage : Cause -> String
  | .wrongType found expected =>
      "invalid type: " ++ found.requestText ++ ", expected " ++ expected
  | .wrongValue found expected =>
      "invalid value: " ++ found.requestText ++ ", expected " ++ expected
  | .wrongLength length expected =>
      "invalid length " ++ Decimal.natural length ++ ", expected " ++ expected
  | .missingField field => "missing field " ++ ticked field
  | .duplicateField field => "duplicate field " ++ ticked field
  | .unknownField field known => "unknown field " ++ ticked field ++ ", expected " ++ nameList known
  | .unknownVariant variant known =>
      "unknown variant " ++ ticked variant ++ ", expected " ++ nameList known

def settingsMessage : Cause -> String
  | .wrongType found expected =>
      "invalid type: found " ++ found.settingsText ++ ", expected " ++ expected
  | .wrongValue found expected =>
      "invalid value " ++ found.settingsText ++ ", expected " ++ expected
  | .wrongLength length expected =>
      "invalid length " ++ Decimal.natural length ++ ", expected " ++ expected
  | .missingField field => "missing field " ++ ticked field
  | .duplicateField field => "duplicate field " ++ ticked field
  | .unknownField field known =>
      "unknown field: found " ++ ticked field ++ ", expected " ++ ticked (nameList known)
  | .unknownVariant variant known =>
      "unknown variant: found " ++ ticked variant ++ ", expected " ++ ticked (nameList known)

end Cause

namespace Fault

def under (key : String) (fault : Fault) : Fault :=
  { fault with path := key :: fault.path }

def requestMessage (fault : Fault) : String :=
  fault.cause.requestMessage

end Fault
end GatedResources
