namespace Chaincode

/-! How an invocation ends, as reported to whoever asked for it. -/

/-- The bytes that a handler answers with. -/
abbrev Payload := List UInt8

inductive Outcome where
  | success (payload : Option Payload)
  | failure (message : String)
deriving DecidableEq

namespace Outcome

def isSuccess : Outcome → Bool
  | .success _ => true
  | .failure _ => false

/-- The status code of the answer. -/
def status : Outcome → Nat
  | .success _ => 200
  | .failure _ => 500

def payload : Outcome → Option Payload
  | .success payload => payload
  | .failure _ => none

def message : Outcome → Option String
  | .success _ => none
  | .failure message => some message

/-- One line for a reader: the status and what there is to say about it. -/
def describe : Outcome → String
  | .success none => "200 OK"
  | .success (some payload) => s!"200 OK ({payload.length} bytes)"
  | .failure message => "500 " ++ message

end Outcome

end Chaincode
