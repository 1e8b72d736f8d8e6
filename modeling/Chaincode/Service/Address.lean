namespace Chaincode.Service

/-! Socket addresses and what can go wrong with them.

An address is a host and a port, divided by the last colon.
-/

inductive IoError where
  | invalidAddress
  | invalidPort
  | unreachable
  | refused
deriving DecidableEq

namespace IoError

def describe : IoError → String
  | .invalidAddress => "invalid socket address"
  | .invalidPort => "invalid port value"
  | .unreachable => "Network is unreachable (os error 101)"
  | .refused => "Connection refused (os error 111)"

end IoError

structure Address where
  host : List Char
  port : Nat
deriving DecidableEq

namespace Address

def digitsValue (digits : List Char) : Nat :=
  digits.foldl (fun value digit => 10 * value + (digit.toNat - '0'.toNat)) 0

/-- A port is a decimal number of at most 16 bits; a plus sign may precede it. -/
def parsePort (text : List Char) : Option Nat :=
  let digits := if text.head? = some '+' then text.tail else text
  if digits.isEmpty || !digits.all Char.isDigit then none
  else
    let value := digitsValue digits
    if value < UInt16.size then some value else none

def parse (text : String) : Except IoError Address :=
  let reversed := text.toList.reverse
  if !reversed.contains ':' then .error .invalidAddress
  else
    let port := (reversed.takeWhile (· != ':')).reverse
    let host := ((reversed.dropWhile (· != ':')).drop 1).reverse
    match parsePort port with
    | none => .error .invalidPort
    | some port => .ok ⟨host, port⟩

end Address

/-- What a host can reach: the sockets that somebody listens on, or nothing at all. -/
inductive Network where
  | reachable (listening : Address → Bool)
  | unreachable

namespace Network

/-- Whether a connection to a socket that this program listens on can be made. -/
def connects : Network → Except IoError Unit
  | .reachable _ => .ok ()
  | .unreachable => .error .unreachable

/-- Connects to an address. -/
def connectTo (network : Network) (address : String) : Except IoError Unit :=
  match Address.parse address with
  | .error error => .error error
  | .ok parsed =>
      match network with
      | .reachable listening => if listening parsed then .ok () else .error .refused
      | .unreachable => .error .unreachable

end Network

end Chaincode.Service
