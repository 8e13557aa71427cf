import GatedResources.Query.Predicate

/-!
# Field transforms

A resource may say itself how a filter entry for one of its fields is understood.
-/

namespace GatedResources

inductive Transformed where
  | unchanged
  | rewritten (value : Json)
  | predicate (predicate : Predicate)
deriving DecidableEq, Repr

/-- A transform gets the name of the record source and the value. -/
abbrev Transform := String -> Json -> Transformed

structure Transforms where
  entries : List (String × Transform)

namespace Transforms

def none : Transforms := ⟨[]⟩

def register (transforms : Transforms) (field : String) (transform : Transform) : Transforms :=
  ⟨(transforms.entries.filter fun entry => entry.1 != field) ++ [(field, transform)]⟩

def registerEquals (transforms : Transforms) (field : String) : Transforms :=
  transforms.register field fun _ value => .predicate (.equals field value)

def find? (transforms : Transforms) (field : String) : Option Transform :=
  transforms.entries.lookup field

def fields (transforms : Transforms) : List String :=
  transforms.entries.map Prod.fst

end Transforms
end GatedResources
