import GatedResources.Access.Gate
import GatedResources.Crypto.Hmac
import GatedResources.Identity.KeyDescription
import GatedResources.Identity.Settings
import GatedResources.Json.Outline
import GatedResources.Text.Base64Url
import GatedResources.Text.Trim
import GatedResources.Text.Utf8

/-!
# Signed tokens

A signed token has three parts: a header, claims, and the signature over both. The parts
are checked in an order of their own, and the first failure is the answer. The header is
strict JSON. Of the claims only those with a meaning are read; the others need no more than
the grammar of JSON.
-/

namespace GatedResources
namespace SignedToken

inductive Refusal where
  | token
  | encoding
  | json
  | algorithm
  | signature
  | expired
  | audience
deriving DecidableEq, Repr

def Refusal.text : Refusal -> String
  | .token => "InvalidToken"
  | .encoding => "Base64 error"
  | .json => "JSON error"
  | .algorithm => "InvalidAlgorithm"
  | .signature => "InvalidSignature"
  | .expired => "ExpiredSignature"
  | .audience => "InvalidAudience"

structure Parts where
  header : List Char
  claims : List Char
  signature : List Char
deriving DecidableEq, Repr

/-- Splits at the last two points; a further point stays in the header. -/
def split (token : List Char) : Option Parts := do
  let (signed, signature) ← Trim.splitLast '.' token
  let (header, claims) ← Trim.splitLast '.' signed
  some ⟨header, claims, signature⟩

def Parts.signed (parts : Parts) : List UInt8 :=
  Utf8.encode (parts.header ++ '.' :: parts.claims)

def decodePart (part : List Char) : Except Refusal (List UInt8) :=
  match Base64Url.decode part with
  | some bytes => .ok bytes
  | none => .error .encoding

def headerMembers (bytes : List UInt8) : Except Refusal (List (String × Json)) :=
  match (Utf8.decode bytes).bind fun symbols => Json.parseInOrder (String.ofList symbols) with
  | some (.object members) => .ok members
  | _ => .error .json

/-- The signature algorithms that tokens may name. Only the first is accepted. -/
def algorithms : List String := [
  "HS256", "HS384", "HS512", "ES256", "ES384", "RS256", "RS384", "RS512", "PS256", "PS384",
  "PS512", "EdDSA"]

def optionalTexts : List String := [
  "typ", "cty", "jku", "kid", "x5u", "x5t", "x5t#S256", "enc", "zip", "url", "nonce"]

def optionalLists : List String := ["x5c", "crit"]

/-- Whether a header member besides the algorithm may stand. -/
def acceptsHeaderMember (name : String) (value : Json) : Bool :=
  if optionalTexts.contains name then value.isNull || value.isString
  else if optionalLists.contains name then
    value.isNull || value.isListOfStrings
  else if name = "jwk" then value.isNull || KeyDescription.isValid value
  else value.isString

def headerAlgorithm (members : List (String × Json)) : Except Refusal String :=
  let known := "alg" :: "jwk" :: optionalTexts ++ optionalLists
  let acceptable :=
    members.all (fun entry => entry.1 == "alg" || acceptsHeaderMember entry.1 entry.2) &&
      !known.any fun name => KeyDescription.repeats name members
  match (Json.lookup "alg" members).bind (Json.choiceName Json.isNull) with
  | some name => if acceptable && algorithms.contains name then .ok name else .error .json
  | none => .error .json

structure Claims where
  subject : String
  scope : String
  expires : Nat
  audience : Bool
deriving DecidableEq, Repr

/-- How deep containers in the claims with a meaning may be nested. -/
def claimDepth : Nat := Json.greatestDepth - 1

def isAudience (value : Json) : Bool :=
  value.isString || value.isListOfStrings

/-- Whether the reader of claims can go on behind a claim about the time before which a token
is not valid. Only numbers have a meaning there; the contents of a container are not read. -/
def passesStart : Json.Outline -> Bool
  | .array elements => elements.isEmpty
  | .object members => members.isEmpty
  | scalar => scalar.yields 0

/-- The claims of a text. Subject, scope and expiry must be there; claims with a meaning must
not be repeated, and those that are looked at must not stop the reader. -/
def readClaims (bytes : List UInt8) : Option Claims := do
  let .object written ← Json.outline bytes | none
  let name (member : List Char × Json.Outline) : Option (String × Json.Outline) := do
    some (← Json.Outline.text? member.1, member.2)
  let members ← written.mapM name
  let claim := fun name => (members.filter fun member => member.1 == name).map Prod.snd
  match claim "sub", claim "scope", claim "exp" with
  | [subject], [scope], [expires] =>
      match subject.value? 0, scope.value? 0, expires.value? 0 with
      | some (.string subject), some (.string scope), some (.number (.integer expires)) =>
          let readable := fun name =>
            (claim name).length ≤ 1 && (claim name).all (Json.Outline.yields claimDepth)
          if 0 ≤ expires && readable "aud" && readable "iss" && (claim "nbf").length ≤ 1 &&
              (claim "nbf").all passesStart then
            let audience := (claim "aud").any fun audience =>
              (audience.value? claimDepth).any isAudience
            some ⟨subject, scope, expires.toNat, audience⟩
          else
            none
      | _, _, _ => none
  | _, _, _ => none

def genuineClaims (settings : SigningSettings) (token : List Char) : Except Refusal Claims := do
  let parts ←
    match split token with
    | some parts => Except.ok parts
    | none => .error .token
  let algorithm ← headerAlgorithm (← headerMembers (← decodePart parts.header))
  if algorithm ≠ "HS256" then
    .error .algorithm
  let signature ← decodePart parts.signature
  if signature ≠ Hmac.sign (Utf8.bytes settings.secret) parts.signed then
    .error .signature
  match readClaims (← decodePart parts.claims) with
  | some claims => .ok claims
  | none => .error .json

/-- The claims of a token that is genuine and in time. A leeway that reaches back before the
beginning of time ends the check. -/
def check (settings : SigningSettings) (now : Nat) (token : List Char) :
    Outcome Refusal Claims := do
  let claims ← Outcome.ofExcept (genuineClaims settings token)
  if now < settings.leewaySeconds then
    .crashed
  else if claims.expires < now - settings.leewaySeconds then
    .failed .expired
  else if claims.audience then
    .failed .audience
  else
    .done claims

def verifier (settings : SigningSettings) (now : Nat) : Verifier := fun credential =>
  if credential.isEmpty then
    .failed .missingCredential
  else
    match check settings now credential.toList with
    | .done claims => .done ⟨claims.subject, claims.scope⟩
    | .failed refusal => .failed (.unauthorized refusal.text)
    | .crashed => .crashed

end SignedToken
end GatedResources
