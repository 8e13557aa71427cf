import GatedResources.Text.HostNumbers
import GatedResources.Text.Integer

/-!
# Where the server listens

An address is a host and a socket number with a colon between them.
-/

namespace GatedResources

inductive Host where
  | numbers (octets : List Nat)
  | name (text : String)
deriving DecidableEq, Repr

namespace Host

def parse (symbols : List Char) : Host :=
  match HostNumbers.octets? symbols with
  | some octets => .numbers octets
  | none => .name (String.ofList symbols)

def isLoopback : Host -> Bool
  | .numbers octets => octets.head? == some 127 || octets == [0, 0, 0, 0]
  | .name text => ["localhost", "[::]", "[::1]"].contains text

end Host

structure ListenAddress where
  host : Host
  socketNumber : Nat
deriving DecidableEq, Repr

namespace ListenAddress

inductive Refusal where
  | noNumber
  | badNumber
  | unknownHost
  | notLocal
deriving DecidableEq, Repr

def Refusal.message : Refusal -> String
  | .noNumber => "invalid socket address"
  | .badNumber => "invalid port value"
  | .unknownHost => "failed to lookup address information: Name or service not known"
  | .notLocal => "Cannot assign requested address (os error 99)"

def parse (text : String) : Except Refusal ListenAddress :=
  match Trim.splitLast ':' text.toList with
  | none => .error .noNumber
  | some (host, number) =>
      match Integer.parseUnsigned 16 number with
      | .error _ => .error .badNumber
      | .ok number => .ok ⟨Host.parse host, number⟩

def parseFor (hasHost : Host -> Bool) (text : String) : Except Refusal ListenAddress := do
  let address ← parse text
  if hasHost address.host then
    .ok address
  else
    match address.host with
    | .numbers _ => .error .notLocal
    | .name _ => .error .unknownHost

end ListenAddress
end GatedResources
