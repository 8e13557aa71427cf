import GatedResources.Http.Message
import GatedResources.Resource.Error

/-!
# Problems

A failed request is answered with a problem: a status, a title, the details, and a code for
programs.
-/

namespace GatedResources

structure Problem where
  typeUrl : String
  title : String
  status : Nat
  detail : String
  code : Option String
deriving DecidableEq, Repr

namespace Problem

def of (status : Nat) (title detail code : String) : Problem :=
  ⟨"about:blank", title, status, detail, some code⟩

def badRequest (detail : String) : Problem :=
  of 400 "Bad Request" detail "VALIDATION"

def notFound (detail : String) : Problem :=
  of 404 "Not Found" detail "NOT_FOUND"

def hidden : Problem :=
  of 500 "Internal Server Error" "An internal error occurred" "INTERNAL"

/-- The problem of an error. What is not the caller's business is reported only. -/
def ofResourceError (error : ResourceError) : Traced Problem :=
  match error with
  | .unauthenticated =>
      return of 401 "Unauthorized" "Missing or invalid Authorization header" "UNAUTHENTICATED"
  | .denied reason => return of 403 "Forbidden" reason "FORBIDDEN"
  | .notFound _ _ => return notFound error.message
  | .validation _ _ => return badRequest error.message
  | .store _ => do
      Traced.report .error "request failed" [("error", error.message)]
      return hidden
  | .internal _ => do
      Traced.report .error "request failed" [("error", error.message)]
      return hidden

def statusCode (problem : Problem) : Nat :=
  if 100 ≤ problem.status ∧ problem.status ≤ 999 then problem.status else 500

def shape : Shape Problem where
  label := "Problem"
  closed := false
  initial := ⟨"", "", 0, "", none⟩
  members := [
    Member.of "type" .required Decoder.text fun typeUrl problem => { problem with typeUrl },
    Member.of "title" .required Decoder.text fun title problem => { problem with title },
    Member.of "status" .required (Decoder.unsigned 16)
      fun status problem => { problem with status },
    Member.of "detail" .required Decoder.text fun detail problem => { problem with detail },
    Member.of "code" .defaulted (Decoder.optional Decoder.text)
      fun code problem => { problem with code }]

def toJson (problem : Problem) : Json :=
  .object ([
    ("type", .string problem.typeUrl),
    ("title", .string problem.title),
    ("status", .natural problem.status),
    ("detail", .string problem.detail)] ++
    match problem.code with
    | some code => [("code", .string code)]
    | none => [])

def contentType : String := "application/problem+json"

def response (problem : Problem) : Response :=
  ⟨problem.statusCode, some contentType, .json problem.toJson, none⟩

end Problem
end GatedResources
