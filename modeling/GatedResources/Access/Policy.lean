import GatedResources.Access.Role

/-!
# Access policies

A policy says which actions are open to everyone and which roles may do the others.
-/

namespace GatedResources

inductive Action where
  | create
  | find
  | update
  | delete
deriving DecidableEq, Repr

namespace Action

def all : List Action := [.create, .find, .update, .delete]

def name : Action -> String
  | .create => "CREATE"
  | .find => "FIND"
  | .update => "UPDATE"
  | .delete => "DELETE"

def decoder : Decoder Action :=
  Decoder.choice "OperationKind" (all.map fun action => (action.name, action))

def toJson (action : Action) : Json :=
  .string action.name

end Action

structure RoleRule where
  action : Action
  roles : List Role
deriving DecidableEq, Repr

namespace RoleRule

def shape : Shape RoleRule where
  label := "RoleRule"
  closed := true
  initial := ⟨.create, []⟩
  members := [
    Member.of "kind" .required Action.decoder fun action rule => { rule with action },
    Member.of "roles" .required (Decoder.list Role.decoder) fun roles rule => { rule with roles }]

def toJson (rule : RoleRule) : Json :=
  .object [("kind", rule.action.toJson), ("roles", .array (rule.roles.map Role.toJson))]

end RoleRule

structure Policy where
  publicActions : List Action
  rules : List RoleRule
deriving DecidableEq, Repr

namespace Policy

def empty : Policy := ⟨[], []⟩

def openAction (policy : Policy) (action : Action) : Policy :=
  if action ∈ policy.publicActions then policy
  else { policy with publicActions := policy.publicActions ++ [action] }

def addRule (policy : Policy) (action : Action) (roles : List Role) : Policy :=
  { policy with rules := policy.rules ++ [⟨action, roles⟩] }

def isPublic (policy : Policy) (action : Action) : Bool :=
  decide (action ∈ policy.publicActions)

/-- The roles that the rules for the action name together, in order and each once. -/
def allowedRoles (policy : Policy) (action : Action) : List Role :=
  let named := (policy.rules.filter fun rule => rule.action == action).flatMap RoleRule.roles
  (Role.inOrder named).eraseReps

def shape : Shape Policy where
  label := "AccessPolicy"
  closed := true
  initial := empty
  members := [
    Member.of "public" .defaulted (Decoder.list Action.decoder)
      fun publicActions policy => { policy with publicActions },
    Member.of "rules" .defaulted (Decoder.list RoleRule.shape.decode)
      fun rules policy => { policy with rules }]

def toJson (policy : Policy) : Json :=
  .object [
    ("public", .array (policy.publicActions.map Action.toJson)),
    ("rules", .array (policy.rules.map RoleRule.toJson))]

end Policy
end GatedResources
