import Chaincode.Counters
import Chaincode.Handlers.Ping

namespace Chaincode

/-! Handlers to try a registry with.

A sample behaviour is what a handler does once its future has been interrupted
as often as asked; two of them can panic before there is a future at all.
-/

inductive Sample where
  /-- The arguments one after the other. -/
  | echo
  /-- The arguments with a separator between them. -/
  | join (separator : String)
  | bytes (payload : Payload)
  | fail (error : HandlerError)
  /-- An error that shows the arguments. -/
  | failShowing
  /-- Accepts an exact number of arguments only. -/
  | expect (count : Nat)
  | panics (panic : Panic)
  /-- Panics before there is a future. -/
  | panicsEarly (panic : Panic)
  /-- The first argument; without one there is never a future. -/
  | first
  /-- How often the handler ran, itself included. -/
  | tally (counter : Nat)
  /-- Channel and transaction. -/
  | identify
  /-- The function, its parameters and the number of arguments of the stub. -/
  | describeStub
  /-- Asks another dispatcher, with the arguments in a stub of their own. -/
  | forward (inner : Dispatcher Counters)
  /-- What the very-simple chaincode does. -/
  | ping

namespace Sample

def text (content : String) : Payload := content.toUTF8.toList

def finish (completion : Completion) : Future Counters Completion :=
  .perform (Action.pure completion)

/-- The stub's identity in one text. -/
def identity (stub : Stub) : String := stub.channelId ++ "/" ++ stub.transactionId

def stubText (stub : Stub) : String :=
  let split := stub.functionAndParameters
  s!"{split.function}|{Text.quotedList split.parameters}|{stub.arguments.length}"

/-- An outcome passed on: an absent payload counts as an empty one. -/
def forwarded : Outcome → Completion
  | .success payload => .returned (payload.getD [])
  | .failure message => .failed (.message message)

/-- What is left to do after the interruptions. -/
def work (sample : Sample) (stub : Option Stub) (arguments : List String) :
    Future Counters Completion :=
  match sample with
  | echo => finish (.returned (text (String.join arguments)))
  | join separator => finish (.returned (text (separator.intercalate arguments)))
  | bytes payload => finish (.returned payload)
  | fail error => finish (.failed error)
  | failShowing =>
      finish (.failed (.message ("cannot handle " ++ Text.quotedList arguments)))
  | expect count =>
      finish (.ofExcept ((Handler.expectArguments arguments count).map fun _ => []))
  | panics panic => finish (.panicked panic)
  | panicsEarly panic => finish (.panicked panic)
  | first => finish (.returned (text (arguments.headD "")))
  | tally counter => .perform fun counters =>
      let (runs, counted) := counters.increment counter
      ⟨.returned (text (toString runs)), counted, []⟩
  | identify => finish (.returned (text ((stub.map identity).getD "")))
  | describeStub => finish (.returned (text ((stub.map stubText).getD "")))
  | forward inner => (inner.invoke (.ofArguments arguments)).map forwarded
  | ping => Ping.work

/-- The panic that comes before there is a future. -/
def earlyPanic? (sample : Sample) (arguments : List String) : Option Panic :=
  match sample, arguments with
  | panicsEarly panic, _ => some panic
  | first, [] => some (.text "index out of bounds: the len is 0 but the index is 0")
  | _, _ => none

/-- Calls the sample; its future is interrupted `pauses` times before it works. -/
def call (sample : Sample) (pauses : Nat) (stub : Option Stub) (arguments : List String) :
    Action Counters (Except Panic (Future Counters Completion)) :=
  match sample.earlyPanic? arguments with
  | some panic => Action.pure (.error panic)
  | none => Action.pure (.ok ((Future.pause pauses).bind fun _ => sample.work stub arguments))

/-- A handler that sees its stub. -/
def handler (sample : Sample) (name : String) (pauses : Nat) : Handler Counters :=
  ⟨name, fun stub arguments => sample.call pauses (some stub) arguments⟩

/-- The same behaviour as a function of the arguments. -/
def function (sample : Sample) (pauses : Nat) :
    List String → Action Counters (Except Panic (Future Counters Completion)) :=
  fun arguments => sample.call pauses none arguments

end Sample

end Chaincode
