import GatedResources.Decode.Decoder
import GatedResources.Json.Parser

/-!
# What a list request asks for

Filter and sort order come either as JSON or as the text of JSON.
-/

namespace GatedResources

inductive Encoded where
  | text (source : String)
  | structured (value : Json)
deriving DecidableEq, Repr

namespace Encoded

def value? : Encoded -> Option Json
  | .text source => Json.parse source
  | .structured value => some value

def ofJson : Json -> Encoded
  | .string source => .text source
  | value => .structured value

def toJson : Encoded -> Json
  | .text source => .string source
  | .structured value => value

def decoder : Decoder Encoded := fun _ value => .ok (ofJson value)

def reportText : Encoded -> String
  | .text source => "Text(" ++ quoted source ++ ")"
  | .structured value => "Structured(" ++ value.compact ++ ")"

end Encoded

structure ListRequest where
  filter : Option Encoded
  sort : Option Encoded
  offset : Option Nat
  limit : Option Nat
deriving DecidableEq, Repr

namespace ListRequest

def everything : ListRequest := ⟨none, none, none, none⟩

def shape : Shape ListRequest where
  label := "PaginationRequest"
  closed := false
  initial := everything
  members := [
    Member.of "filter" .defaulted (Decoder.optional Encoded.decoder)
      fun filter request => { request with filter },
    Member.of "sort" .defaulted (Decoder.optional Encoded.decoder)
      fun sort request => { request with sort },
    Member.of "offset" .defaulted (Decoder.optional (Decoder.unsigned 64))
      fun offset request => { request with offset },
    Member.of "limit" .defaulted (Decoder.optional (Decoder.unsigned 64))
      fun limit request => { request with limit }]

/-- The request as it is sent; what is not asked for is null. -/
def toJson (request : ListRequest) : Json :=
  .object [
    ("filter", (request.filter.map Encoded.toJson).getD .null),
    ("sort", (request.sort.map Encoded.toJson).getD .null),
    ("offset", Json.optionalNatural request.offset),
    ("limit", Json.optionalNatural request.limit)]

end ListRequest

structure FilterRequest where
  filter : Option Encoded
deriving DecidableEq, Repr

namespace FilterRequest

def shape : Shape FilterRequest where
  label := "FilterInfo"
  closed := false
  initial := ⟨none⟩
  members := [
    Member.of "filter" .defaulted (Decoder.optional Encoded.decoder)
      fun filter _ => { filter }]

end FilterRequest
end GatedResources
