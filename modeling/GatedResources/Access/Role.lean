import GatedResources.Decode.Decoder

/-!
# Roles

A caller holds a scope, a free text; a role admits the scopes that spell its name.
-/

namespace GatedResources

inductive Role where
  | client
  | provider
  | admin
deriving DecidableEq, Repr

namespace Role

def all : List Role := [.client, .provider, .admin]

def place : Role -> Nat
  | .client => 0
  | .provider => 1
  | .admin => 2

def insertInOrder (role : Role) : List Role -> List Role
  | [] => [role]
  | next :: rest =>
      if role.place ≤ next.place then role :: next :: rest else next :: role.insertInOrder rest

def inOrder (roles : List Role) : List Role :=
  roles.foldr insertInOrder []

def name : Role -> String
  | .client => "CLIENT"
  | .provider => "PROVIDER"
  | .admin => "ADMIN"

/-- ASCII letters in lowercase, all other characters as they are. -/
def foldCase (text : String) : List Char :=
  text.toList.map Char.toLower

def admitsScope (role : Role) (scope : String) : Bool :=
  foldCase role.name == foldCase scope

def parse (text : String) : Option Role :=
  all.find? fun role => role.admitsScope text

def parseErrorText (text : String) : String :=
  "unknown role: '" ++ text ++ "'"

def decoder : Decoder Role :=
  Decoder.choice "Role" (all.map fun role => (role.name, role))

def toJson (role : Role) : Json :=
  .string role.name

end Role
end GatedResources
