import GatedResources.Decode.Decoder

/-!
# Pages of results
-/

namespace GatedResources

structure Page (α : Type) where
  data : List α
  count : Nat
deriving DecidableEq, Repr

namespace Page

variable {α β : Type}

def empty : Page α := ⟨[], 0⟩

def map (change : α -> β) (page : Page α) : Page β :=
  ⟨page.data.map change, page.count⟩

def shape (element : Decoder α) : Shape (Page α) where
  label := "PaginatedResult"
  closed := false
  initial := empty
  members := [
    Member.of "data" .required (Decoder.list element) fun data page => { page with data },
    Member.of "count" .required (Decoder.unsigned 64) fun count page => { page with count }]

def toJson (element : α -> Json) (page : Page α) : Json :=
  .object [("data", .array (page.data.map element)), ("count", .natural page.count)]

end Page
end GatedResources
