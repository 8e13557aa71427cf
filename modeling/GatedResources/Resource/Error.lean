import GatedResources.Access.Gate
import GatedResources.Store.Error

/-!
# Errors of resources
-/

namespace GatedResources

inductive ResourceError where
  | unauthenticated
  | denied (reason : String)
  | notFound (resource : String) (identifier : Int)
  | validation (field reason : String)
  | store (error : StoreError)
  | internal (reason : String)
deriving DecidableEq, Repr

namespace ResourceError

def message : ResourceError -> String
  | .unauthenticated => "Unauthenticated"
  | .denied reason => "Access denied: " ++ reason
  | .notFound resource identifier =>
      resource ++ " with id " ++ Decimal.integer identifier ++ " not found"
  | .validation field reason => "Validation error on field '" ++ field ++ "': " ++ reason
  | .store error => "Store error: " ++ error.message
  | .internal reason => "Internal error: " ++ reason

def ofAccessError : AccessError -> ResourceError
  | .unauthenticated => .unauthenticated
  | .denied reason => .denied reason
  | .verifier reason => .internal reason

/-- What the caller did wrong is a matter of validation; everything else is reported. -/
def ofStoreError : StoreError -> Traced ResourceError
  | .unknownField _ field => return .validation field "unknown field"
  | .unbindable field value => return .validation field ("value " ++ value ++ " is not a scalar")
  | .decode reason => return .validation "body" reason
  | error => do
      Traced.report .error "store failure" [("error", error.message)]
      return .store error

end ResourceError
end GatedResources
