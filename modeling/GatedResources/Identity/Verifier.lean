import GatedResources.Identity.SignedToken

/-!
# Choosing a verifier
-/

namespace GatedResources
namespace Verifier

def accepting (identity : Identity) : Verifier := fun credential =>
  if credential.isEmpty then .failed .missingCredential else .done identity.toCaller

/-- Credentials are looked up among known tokens; of several entries for a token the last
counts. -/
def knowing (tokens : List TokenEntry) : Verifier := fun credential =>
  if credential.isEmpty then
    .failed .missingCredential
  else
    match tokens.reverse.find? fun entry => entry.token == credential with
    | some entry => .done entry.identity.toCaller
    | none => .failed (.unauthorized "unknown token")

/-- The verifier that settings ask for. The time is that of the checks, in seconds. -/
def ofSettings (settings : IdentitySettings) (now : Nat) : Attempt IdentityError Verifier := do
  let verifier ←
    match settings.mode, settings.signing with
    | .acceptAll, _ => Attempt.succeed (accepting settings.defaultIdentity)
    | .staticTokens, _ => Attempt.succeed (knowing settings.tokens)
    | .signedTokens, some signing => Attempt.succeed (SignedToken.verifier signing now)
    | .signedTokens, none =>
        Attempt.fail (.internal "auth.mode is 'jwt' but auth.jwt is not set")
  Attempt.report .info "identity verifier configured" [("mode", settings.mode.reportName)]
  return verifier

end Verifier
end GatedResources
