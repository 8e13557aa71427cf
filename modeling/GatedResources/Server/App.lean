import GatedResources.Graph.Endpoint
import GatedResources.Identity.Verifier
import GatedResources.Rest.Endpoint
import GatedResources.Server.Faq
import GatedResources.Server.Migration
import GatedResources.Settings.Server

/-!
# The server

The server offers the sample resource over both endpoints, and tells that it is alive.
-/

namespace GatedResources

/-- Why the server does not start: what was being done, and the errors that caused it, the
outermost first. -/
structure StartupError where
  context : String
  causes : List String
deriving DecidableEq, Repr

namespace Server

def storeCauses (error : StoreError) : List String :=
  match error with
  | .database reason =>
      [error.message, reason,
        String.ofList (reason.toList.drop Connection.refusalStart.length)]
  | _ => [error.message]

def readOnlyCauses : List String := [
  "Execution Error: error returned from database: (code: 8) attempt to write a readonly database",
  "error returned from database: (code: 8) attempt to write a readonly database",
  "(code: 8) attempt to write a readonly database"]

def prepareDatabase (settings : ServerSettings) : Attempt StartupError Database := do
  let access ←
    (Connection.connect settings.database.name settings.database.pool).convertError fun error =>
      Traced.quiet ⟨"database connect", storeCauses error⟩
  match access with
  | .readOnly => Attempt.fail ⟨"migrations", readOnlyCauses⟩
  | .readWrite => do
      Attempt.report .info "migrations applied" []
      return Migration.applyAll Database.empty

def health : Handler := fun _ _ database =>
  return (Response.ofJson 200 (.object [("status", .string "ok")]), database)

def total {α : Type} (attempt : Attempt Empty α) : Attempt StartupError α :=
  attempt.convertError fun impossible => nomatch impossible

def routed (router : Option Router) : Attempt StartupError Router :=
  match router with
  | some router => .succeed router
  | none => .ofOutcome .crashed

/-- The routes of the server. The time is that of the checks of signed tokens. -/
def router (settings : ServerSettings) (now : Nat) : Attempt StartupError Router := do
  let verifier ← (Verifier.ofSettings settings.identity now).convertError fun error =>
    Traced.quiet ⟨error.message, []⟩
  let faqs ← Attempt.ofTraced (Resource.build Entity.faqs Faq.options)
  let schema ← (Schema.empty.register faqs).convertError fun duplicate =>
    Traced.quiet ⟨duplicate.message, []⟩
  let base ← routed (Router.empty.route "/health" [("GET", health)])
  let rest ← total (Rest.router ⟨faqs, verifier⟩)
  let both ← routed (base.merge rest)
  let graph ← routed (Graph.router schema verifier settings.listen.graphPath)
  routed (both.merge graph)

end Server
end GatedResources
