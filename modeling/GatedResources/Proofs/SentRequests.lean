import GatedResources.Proofs.EncodedRequests
import GatedResources.Proofs.RecordDecoding

/-!
# Requests on their way

A list request is sent as JSON and decoded where it arrives. Two things change on the way: a null
arrives as nothing, and a string arrives as a text that is still to be read. The first changes
nothing in what the request asks for. The second does when the string is itself the text of a
filter or of a sort order.
-/

namespace GatedResources
namespace Encoded

def received : Encoded -> Option Encoded
  | .structured .null => none
  | .structured (.string source) => some (.text source)
  | other => some other

theorem decode_sent (sent : Option Encoded) (dialect : Dialect) :
    Decoder.optional decoder dialect ((sent.map toJson).getD .null) =
      .ok (sent.bind received) := by
  cases sent with
  | none => rfl
  | some encoded =>
      cases encoded with
      | text source => rfl
      | structured value => cases value <;> rfl

/-- What has been decoded arrives as it is. -/
theorem decoded_received {dialect : Dialect} {value : Json} {decoded : Option Encoded}
    (made : Decoder.optional decoder dialect value = .ok decoded) :
    decoded.bind received = decoded := by
  cases value with
  | null =>
      cases made
      rfl
  | bool _ | number _ | string _ | array _ | object _ =>
      cases made
      rfl

end Encoded

theorem decode_natural {bits value : Nat} (fits : value < Nat.pow 2 bits) (dialect : Dialect) :
    Decoder.unsigned bits dialect (.natural value) = .ok value := by
  have bounds : (0 : Int) ≤ value ∧ (value : Int) ≤ (Nat.pow 2 bits : Nat) - 1 := by
    omega
  simp only [Decoder.unsigned, Json.natural, Decoder.integerWithin, Number.whole?, if_pos bounds]
  rfl

theorem decode_optional_natural {bits : Nat} {value : Option Nat}
    (fits : ∀ number ∈ value, number < Nat.pow 2 bits) (dialect : Dialect) :
    Decoder.optional (Decoder.unsigned bits) dialect (Json.optionalNatural value) =
      .ok value := by
  cases value with
  | none => rfl
  | some number =>
      have decoded := decode_natural (fits number rfl) dialect
      show (Decoder.unsigned bits dialect (.natural number) >>= fun part => .ok (some part)) = _
      rw [decoded]
      rfl

namespace ListRequest

structure Fits (request : ListRequest) : Prop where
  offset : ∀ number ∈ request.offset, number < Nat.pow 2 64
  limit : ∀ number ∈ request.limit, number < Nat.pow 2 64

def received (request : ListRequest) : ListRequest :=
  { request with
    filter := request.filter.bind Encoded.received
    sort := request.sort.bind Encoded.received }

theorem decode_sent {request : ListRequest} (fits : request.Fits) (dialect : Dialect) :
    shape.decode dialect request.toJson = .ok request.received := by
  have filter := Encoded.decode_sent request.filter dialect
  have sort := Encoded.decode_sent request.sort dialect
  have offset := decode_optional_natural fits.offset dialect
  have limit := decode_optional_natural fits.limit dialect
  simp [Shape.decode, Shape.readMembers, Shape.missing, shape, toJson, Member.of, filter, sort,
    offset, limit, underKey, received, everything, Bind.bind, Except.bind]

/-- A request that has been decoded arrives as it is. -/
theorem decoded_received {dialect : Dialect} {value : Json} {request : ListRequest}
    (decoded : shape.decode dialect value = .ok request) : request.received = request := by
  refine Shape.decode_keeps (fun request => request.received = request) rfl ?_ decoded
  intro known member value before after read kept
  have sent := ListRequest.mk.inj kept
  simp only [shape, List.mem_cons, List.not_mem_nil, or_false] at member
  rcases member with rfl | rfl | rfl | rfl
  all_goals obtain ⟨part, made, rfl⟩ := Member.read_eq_ok.mp read
  · simp only [received, Encoded.decoded_received made, sent.2.1]
  · simp only [received, Encoded.decoded_received made, sent.1]
  · simp only [received, sent.1, sent.2.1]
  · simp only [received, sent.1, sent.2.1]

end ListRequest

namespace Query

variable {source : String} {transforms : Transforms}

theorem compile_value (request : ListRequest) :
    (compile request source transforms).value =
      ⟨source, (compilePredicates source transforms request.filter).value,
        (compileOrder request.sort).value, request.offset, request.limit⟩ := rfl

/-- The predicates of a filter are those of what arrives of it, except that a string arrives as a
text to be read. -/
theorem predicates_received (filter : Option Encoded) :
    (compilePredicates source transforms (filter.bind Encoded.received)).value =
        (compilePredicates source transforms filter).value ↔
      ∀ text, filter = some (.structured (.string text)) →
        (Filter.compile source transforms (.text text)).value = [] := by
  match filter with
  | none => simp
  | some (.structured (.string text)) =>
      have nothing : (compilePredicates source transforms
          (some (.structured (.string text)))).value = [] := rfl
      rw [nothing]
      simp [Encoded.received, compilePredicates]
  | some (.structured .null) =>
      have nothing : (compilePredicates source transforms
          (some (.structured .null))).value = [] := rfl
      rw [nothing]
      simp [Encoded.received, compilePredicates]
  | some (.text _) | some (.structured (.bool _)) | some (.structured (.number _))
  | some (.structured (.array _)) | some (.structured (.object _)) => simp [Encoded.received]

theorem order_received (sort : Option Encoded) :
    (compileOrder (sort.bind Encoded.received)).value = (compileOrder sort).value ↔
      ∀ text, sort = some (.structured (.string text)) →
        (SortOrder.compile (.text text)).value = none := by
  match sort with
  | none => simp
  | some (.structured (.string text)) =>
      have nothing : (compileOrder (some (.structured (.string text)))).value = none := rfl
      rw [nothing]
      simp [Encoded.received, compile_order_some]
  | some (.structured .null) =>
      have nothing : (compileOrder (some (.structured .null))).value = none := rfl
      rw [nothing]
      simp [Encoded.received, compileOrder]
  | some (.text _) | some (.structured (.bool _)) | some (.structured (.number _))
  | some (.structured (.array _)) | some (.structured (.object _)) => simp [Encoded.received]

/-- A request that is sent is decoded where it arrives, and compiles there as it would have where
it was made, unless its filter is a string that is the text of a filter that asks for something, or
its sort order a string that is the text of a sort order. A request that was decoded arrives as it
is. -/
theorem sent_request_compiles (request : ListRequest) (fits : request.Fits) :
    ∃ received, ListRequest.shape.decode .request request.toJson = .ok received ∧
      (∀ source transforms,
        (compile received source transforms).value = (compile request source transforms).value ↔
          (∀ text, request.filter = some (.structured (.string text)) →
            (Filter.compile source transforms (.text text)).value = []) ∧
          (∀ text, request.sort = some (.structured (.string text)) →
            (SortOrder.compile (.text text)).value = none)) ∧
      ((∃ dialect value, ListRequest.shape.decode dialect value = .ok request) →
        received = request) := by
  refine ⟨request.received, ListRequest.decode_sent fits .request, ?_, ?_⟩
  · intro source transforms
    rw [compile_value, compile_value, ← predicates_received, ← order_received]
    simp [ListRequest.received]
  · rintro ⟨dialect, value, decoded⟩
    exact ListRequest.decoded_received decoded

def oldestDrafts : ListRequest :=
  ⟨some (.structured (.object [("status", .string "draft")])),
    some (.text "[\"created\",\"ASC\"]"), none, some 18446744073709551615⟩

theorem oldest_drafts_arrive :
    oldestDrafts.Fits ∧ ∃ received,
      ListRequest.shape.decode .request oldestDrafts.toJson = .ok received ∧
        (compile received "faqs" Transforms.none).value =
          ⟨"faqs", [.contains "status" "draft"], some ⟨"created", .ascending⟩, none,
            some 18446744073709551615⟩ := by
  have fits : oldestDrafts.Fits := ⟨by decide, by decide⟩
  obtain ⟨received, decoded, compiles, _⟩ := sent_request_compiles oldestDrafts fits
  have same := (compiles "faqs" Transforms.none).mpr
    ⟨by simp [oldestDrafts], by simp [oldestDrafts]⟩
  refine ⟨fits, received, decoded, same.trans ?_⟩
  decide +kernel

def quotedFilter : ListRequest :=
  ⟨some (.structured (.string "\x7b\"question\":\"x\"\x7d")), none, none, none⟩

theorem quoted_filter_compiles_otherwise :
    quotedFilter.Fits ∧ ¬ ∃ received,
      ListRequest.shape.decode .request quotedFilter.toJson = .ok received ∧
        (compile received "faqs" Transforms.none).value =
          (compile quotedFilter "faqs" Transforms.none).value := by
  have fits : quotedFilter.Fits := ⟨by decide, by decide⟩
  refine ⟨fits, ?_⟩
  rintro ⟨received, decoded, same⟩
  have arrived : received = quotedFilter.received := by
    rw [ListRequest.decode_sent fits] at decoded
    exact (Except.ok.inj decoded).symm
  subst arrived
  have asked : (compile quotedFilter.received "faqs" Transforms.none).value.predicates =
      [.contains "question" "x"] := by decide +kernel
  have nothing : (compile quotedFilter "faqs" Transforms.none).value.predicates = [] := rfl
  rw [same, nothing] at asked
  cases asked

end Query
end GatedResources
