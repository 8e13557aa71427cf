/-!
# Store errors
-/

namespace GatedResources

inductive StoreError where
  /-- The database refused the statement. -/
  | database (reason : String)
  | unknownField (table field : String)
  | unbindable (field value : String)
  | decode (reason : String)
  | settings (reason : String)
deriving DecidableEq, Repr

namespace StoreError

def message : StoreError -> String
  | .database reason => "Database error: " ++ reason
  | .unknownField table field => "Unknown field '" ++ field ++ "' on '" ++ table ++ "'"
  | .unbindable field value => "Value for field '" ++ field ++ "' cannot be bound: " ++ value
  | .decode reason => "Record decode failed: " ++ reason
  | .settings reason => "Invalid connection options: " ++ reason

def isCallerError : StoreError -> Bool
  | .unknownField _ _ => true
  | .unbindable _ _ => true
  | .decode _ => true
  | .database _ => false
  | .settings _ => false

end StoreError
end GatedResources
