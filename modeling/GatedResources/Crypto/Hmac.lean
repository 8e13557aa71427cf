import GatedResources.Crypto.Sha256

/-!
# HMAC with SHA-256
-/

namespace GatedResources
namespace Hmac

def blockLength : Nat := 64

def blockKey (key : List UInt8) : List UInt8 :=
  let short := if blockLength < key.length then Sha256.hash key else key
  short ++ List.replicate (blockLength - short.length) 0

def sign (key message : List UInt8) : List UInt8 :=
  let block := blockKey key
  let inner := Sha256.hash (block.map (· ^^^ 0x36) ++ message)
  Sha256.hash (block.map (· ^^^ 0x5c) ++ inner)

end Hmac
end GatedResources
