namespace Chaincode

/-! The transaction an invocation belongs to, and what it asks for. -/

/-- What a handler can read about its transaction.  The first argument names the
method that is asked for. -/
structure Stub where
  transactionId : String := ""
  channelId : String := ""
  arguments : List String := []
deriving DecidableEq

structure FunctionAndParameters where
  function : String := ""
  parameters : List String := []
deriving DecidableEq

/-- A method name together with its arguments. -/
structure Invocation where
  method : String
  arguments : List String
deriving DecidableEq

namespace Stub

/-- Splits the arguments after the first; without arguments the function name is
empty. -/
def functionAndParameters (stub : Stub) : FunctionAndParameters :=
  match stub.arguments with
  | [] => {}
  | function :: parameters => ⟨function, parameters⟩

def ofArguments (arguments : List String) : Stub := { arguments }

end Stub

namespace FunctionAndParameters

def invocation (split : FunctionAndParameters) : Invocation :=
  ⟨split.function, split.parameters⟩

end FunctionAndParameters

namespace Stub

/-- The invocation that a stub asks for. -/
def invocation (stub : Stub) : Invocation := stub.functionAndParameters.invocation

@[simp] theorem invocation_ofArguments_cons (method : String) (arguments : List String) :
    (ofArguments (method :: arguments)).invocation = ⟨method, arguments⟩ := rfl

end Stub

end Chaincode
