import GatedResources.Decode.Decoder

/-!
# Callers

Whoever makes a request is either anonymous or a caller with a subject and a scope.
-/

namespace GatedResources

structure Caller where
  subject : String
  scope : String
deriving DecidableEq, Repr

namespace Caller

def shape : Shape Caller where
  label := "Caller"
  closed := false
  initial := ⟨"", ""⟩
  members := [
    Member.of "subject" .required Decoder.text fun subject caller => { caller with subject },
    Member.of "scope" .required Decoder.text fun scope caller => { caller with scope }]

def toJson (caller : Caller) : Json :=
  .object [("subject", .string caller.subject), ("scope", .string caller.scope)]

end Caller

inductive Principal where
  | anonymous
  | identified (caller : Caller)
deriving DecidableEq, Repr

namespace Principal

def caller? : Principal -> Option Caller
  | .anonymous => none
  | .identified caller => some caller

def subject : Principal -> String
  | .anonymous => "-"
  | .identified caller => caller.subject

end Principal
end GatedResources
