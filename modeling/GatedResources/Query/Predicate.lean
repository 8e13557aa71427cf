import GatedResources.Json.Value

/-!
# Predicates

A predicate is one condition on a record, with the values it compares to.
-/

namespace GatedResources

inductive Predicate where
  /-- The field has the value. -/
  | equals (field : String) (value : Json)
  /-- The field, as text, matches a pattern. -/
  | like (field : String) (pattern : String)
  /-- The field has one of the values. -/
  | oneOf (field : String) (values : List Json)
  /-- A condition in the language of the store. -/
  | raw (sql : String) (values : List Json)
deriving DecidableEq, Repr

namespace Predicate

def contains (field needle : String) : Predicate :=
  .like field ("%" ++ needle ++ "%")

def field? : Predicate -> Option String
  | .equals field _ => some field
  | .like field _ => some field
  | .oneOf field _ => some field
  | .raw _ _ => none

def toJson : Predicate -> Json
  | .equals field value =>
      .object [("op", .string "equals"), ("field", .string field), ("value", value)]
  | .like field pattern =>
      .object [("op", .string "like"), ("field", .string field), ("pattern", .string pattern)]
  | .oneOf field values =>
      .object [("op", .string "in"), ("field", .string field), ("values", .array values)]
  | .raw sql values =>
      .object [("op", .string "raw"), ("sql", .string sql), ("values", .array values)]

end Predicate
end GatedResources
