import Chaincode.Registry
import Chaincode.Text.Quoted

namespace Chaincode

/-! Routing of invocations to the handlers of a registry.

A dispatch ends in an outcome, unless something is thrown when the dispatcher drops
what a panic left behind.  Unknown methods, errors and panics are failures; what
happened is also told to the log.  Beyond the interruptions of the handler it calls,
a dispatch has none of its own.
-/

inductive DispatchError where
  | unknownMethod (method : String)
  | handler (method : String) (source : HandlerError)
deriving DecidableEq

namespace DispatchError

/-- What the caller is told. -/
def describe : DispatchError → String
  | .unknownMethod method => s!"Received unknown function {method} invocation"
  | .handler _ source => source.describe

/-- What the log is told. -/
def logLine : DispatchError → String
  | .unknownMethod method => s!"no function of name:{method} found"
  | .handler method source => s!"{method} failed: {source.describe}"

end DispatchError

namespace Invocation

/-- The line logged before an invocation is looked up. -/
def logLine (invocation : Invocation) : String :=
  s!"invoking {invocation.method} with {Text.quotedList invocation.arguments}"

end Invocation

structure Dispatcher (σ : Type) (ε : Type := Empty) where
  name : String
  registry : Registry σ ε

namespace Dispatcher

def methods (dispatcher : Dispatcher σ ε) : List String := dispatcher.registry.names

/-- Announces the chaincode; this cannot fail. -/
def start (dispatcher : Dispatcher σ ε) : Action σ Outcome :=
  fun store => ⟨.success none, store, [dispatcher.name ++ " init"]⟩

/-- A handler call with its panics caught, both those before there is a future and those
while it is polled. -/
def guarded (handler : Handler σ ε) (stub : Stub) (arguments : List String) :
    Future σ (Except ε (Except HandlerError Payload)) :=
  (handler.future stub arguments).map Completion.settled

/-- Looks the method up and runs its handler, without telling the log.  An error of the outer
kind is thrown at the caller. -/
def attempt (dispatcher : Dispatcher σ ε) (stub : Stub) (invocation : Invocation) :
    Future σ (Except ε (Except DispatchError Payload)) :=
  match dispatcher.registry.get? invocation.method with
  | none => .ready (.ok (.error (.unknownMethod invocation.method)))
  | some handler =>
      (guarded handler stub invocation.arguments).map fun result =>
        result.map fun settled => settled.mapError (.handler invocation.method)

/-- Turns the result of a call into an outcome and tells the log about failures. -/
def conclude : Except DispatchError Payload → Action σ Outcome
  | .ok payload, store => ⟨.success (some payload), store, []⟩
  | .error error, store => ⟨.failure error.describe, store, [error.logLine]⟩

/-- A dispatch, from which what is thrown at it gets out. -/
def dispatchOrThrow (dispatcher : Dispatcher σ ε) (stub : Stub) (invocation : Invocation) :
    Future σ (Except ε Outcome) :=
  (Future.perform (Action.log invocation.logLine)).bind fun _ =>
    (dispatcher.attempt stub invocation).bind fun
      | .error thrown => .ready (.error thrown)
      | .ok result => (Future.perform (conclude result)).map .ok

/-- The value of a result where nothing can be thrown. -/
def unthrown : Except Empty α → α
  | .ok value => value

/-- The call, where no handler leaves anything armed behind. -/
def call (dispatcher : Dispatcher σ) (stub : Stub) (invocation : Invocation) :
    Future σ (Except DispatchError Payload) :=
  (dispatcher.attempt stub invocation).map unthrown

/-- The dispatch, where no handler leaves anything armed behind. -/
def dispatch (dispatcher : Dispatcher σ) (stub : Stub) (invocation : Invocation) :
    Future σ Outcome :=
  (dispatcher.dispatchOrThrow stub invocation).map unthrown

/-- Dispatches what the stub itself asks for. -/
def invoke (dispatcher : Dispatcher σ) (stub : Stub) : Future σ Outcome :=
  dispatcher.dispatch stub stub.invocation

end Dispatcher

end Chaincode
