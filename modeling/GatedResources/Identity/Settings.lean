import GatedResources.Access.Caller

/-!
# Settings of identity verification
-/

namespace GatedResources

inductive IdentityMode where
  | acceptAll
  | staticTokens
  | signedTokens
deriving DecidableEq, Repr

namespace IdentityMode

def all : List IdentityMode := [.acceptAll, .staticTokens, .signedTokens]

def name : IdentityMode -> String
  | .acceptAll => "accept_all"
  | .staticTokens => "static_tokens"
  | .signedTokens => "jwt"

def reportName : IdentityMode -> String
  | .acceptAll => "AcceptAll"
  | .staticTokens => "StaticTokens"
  | .signedTokens => "Jwt"

def decoder : Decoder IdentityMode :=
  Decoder.choice "AuthMode" (all.map fun mode => (mode.name, mode))

end IdentityMode

structure Identity where
  subject : String
  scope : String
deriving DecidableEq, Repr

namespace Identity

def anonymous : Identity := ⟨"anonymous", "CLIENT"⟩

def toCaller (identity : Identity) : Caller :=
  ⟨identity.subject, identity.scope⟩

def shape : Shape Identity where
  label := "IdentityConfig"
  closed := true
  initial := anonymous
  members := [
    Member.of "subject" .defaulted Decoder.text fun subject identity => { identity with subject },
    Member.of "scope" .defaulted Decoder.text fun scope identity => { identity with scope }]

def toJson (identity : Identity) : Json :=
  .object [("subject", .string identity.subject), ("scope", .string identity.scope)]

end Identity

structure TokenEntry where
  token : String
  identity : Identity
deriving DecidableEq, Repr

namespace TokenEntry

def shape : Shape TokenEntry where
  label := "TokenMapping"
  closed := true
  initial := ⟨"", Identity.anonymous⟩
  members := [
    Member.of "token" .required Decoder.text fun token entry => { entry with token },
    Member.of "identity" .required Identity.shape.decode
      fun identity entry => { entry with identity }]

def toJson (entry : TokenEntry) : Json :=
  .object [("token", .string entry.token), ("identity", entry.identity.toJson)]

end TokenEntry

structure SigningSettings where
  secret : String
  leewaySeconds : Nat
deriving DecidableEq, Repr

namespace SigningSettings

def shape : Shape SigningSettings where
  label := "JwtConfig"
  closed := true
  initial := ⟨"", 30⟩
  members := [
    Member.of "secret" .required Decoder.text fun secret settings => { settings with secret },
    Member.of "leeway_secs" .defaulted (Decoder.unsigned 64)
      fun leewaySeconds settings => { settings with leewaySeconds }]

end SigningSettings

structure IdentitySettings where
  mode : IdentityMode
  defaultIdentity : Identity
  tokens : List TokenEntry
  signing : Option SigningSettings
deriving DecidableEq, Repr

namespace IdentitySettings

def initial : IdentitySettings :=
  ⟨.staticTokens, Identity.anonymous, [], none⟩

def shape : Shape IdentitySettings where
  label := "AuthConfig"
  closed := true
  initial := initial
  members := [
    Member.of "mode" .defaulted IdentityMode.decoder fun mode settings => { settings with mode },
    Member.of "default_identity" .defaulted Identity.shape.decode
      fun defaultIdentity settings => { settings with defaultIdentity },
    Member.of "tokens" .defaulted (Decoder.list TokenEntry.shape.decode)
      fun tokens settings => { settings with tokens },
    Member.of "jwt" .defaulted (Decoder.optional SigningSettings.shape.decode)
      fun signing settings => { settings with signing }]

def toJson (settings : IdentitySettings) : Json :=
  .object [
    ("mode", .string settings.mode.name),
    ("default_identity", settings.defaultIdentity.toJson),
    ("tokens", .array (settings.tokens.map TokenEntry.toJson))]

end IdentitySettings
end GatedResources
