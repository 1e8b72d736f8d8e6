import Chaincode.Future
import Chaincode.Outcome
import Chaincode.Stub

namespace Chaincode

/-! What a handler is and how it can end. -/

/-- Why a handler failed. -/
inductive HandlerError where
  | message (text : String)
  | argumentCount (expected got : Nat)
  | panicked (text : String)
deriving DecidableEq

namespace HandlerError

def describe : HandlerError → String
  | .message text => text
  | .argumentCount expected got =>
      s!"incorrect number of arguments: expected {expected}, got {got}"
  | .panicked text => "handler panicked: " ++ text

end HandlerError

/-- What a panicking handler leaves behind: a text, or a value that has none.  A value may be armed:
to drop it is to panic once more, with something of `ε`.  Unless it is said what that could be,
nothing is armed. -/
inductive Panic (ε : Type := Empty) where
  | text (content : String)
  | other
  | armed (thrown : ε)
deriving DecidableEq

namespace Panic

def content? : Panic ε → Option String
  | .text content => some content
  | .other | .armed _ => none

/-- What is thrown when the value is dropped. -/
def thrown? : Panic ε → Option ε
  | .text _ | .other => none
  | .armed thrown => some thrown

/-- The error that a caught panic counts as. -/
def error (panic : Panic ε) : HandlerError :=
  .panicked (panic.content?.getD "unknown panic payload")

end Panic

/-- How the work of a handler ends. -/
inductive Completion (ε : Type := Empty) where
  | returned (payload : Payload)
  | failed (error : HandlerError)
  | panicked (panic : Panic ε)
deriving DecidableEq

namespace Completion

/-- A caught panic is an error like any other. -/
def caught : Completion ε → Except HandlerError Payload
  | .returned payload => .ok payload
  | .failed error => .error error
  | .panicked panic => .error panic.error

/-- What is thrown when a caught panic is dropped. -/
def thrown? : Completion ε → Option ε
  | .returned _ | .failed _ => none
  | .panicked panic => panic.thrown?

/-- Catches a panic and drops what it left behind; what this throws is not caught. -/
def settled (completion : Completion ε) : Except ε (Except HandlerError Payload) :=
  match completion.thrown? with
  | some thrown => .error thrown
  | none => .ok completion.caught

def ofExcept : Except HandlerError Payload → Completion ε
  | .ok payload => .returned payload
  | .error error => .failed error

end Completion

/-- A named piece of work.  Calling it may panic at once; otherwise it gives the
future that does the work. -/
structure Handler (σ : Type) (ε : Type := Empty) where
  name : String
  call : Stub → List String → Action σ (Except (Panic ε) (Future σ (Completion ε)))

namespace Handler

/-- Fails unless there are exactly `expected` arguments. -/
def expectArguments (arguments : List String) (expected : Nat) : Except HandlerError Unit :=
  if arguments.length = expected then .ok ()
  else .error (.argumentCount expected arguments.length)

/-- A handler made from a function that sees the arguments only. -/
def ofFunction (name : String)
    (work : List String → Action σ (Except (Panic ε) (Future σ (Completion ε)))) : Handler σ ε :=
  ⟨name, fun _ arguments => work arguments⟩

/-- A call of the handler as one future; nothing catches its panics. -/
def future (handler : Handler σ ε) (stub : Stub) (arguments : List String) :
    Future σ (Completion ε) :=
  (Future.perform (handler.call stub arguments)).bind fun
    | .error panic => .ready (.panicked panic)
    | .ok future => future

/-- Calls the handler and polls its future to the end. -/
def run (handler : Handler σ ε) (stub : Stub) (arguments : List String) :
    Action σ (Completion ε) :=
  (handler.future stub arguments).run

end Handler

end Chaincode
