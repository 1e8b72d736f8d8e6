import Chaincode.Wire.Inbox

namespace Chaincode.Tracing

/-! What a running chaincode reports.

An event has a level, a target that says where it comes from, a message, and
named fields.
-/

inductive Level where
  | error
  | warn
  | info
  | debug
  | trace
deriving DecidableEq

namespace Level

def name : Level → String
  | .error => "ERROR"
  | .warn => "WARN"
  | .info => "INFO"
  | .debug => "DEBUG"
  | .trace => "TRACE"

/-- The more severe a level, the smaller its rank. -/
def rank : Level → Nat
  | .error => 1
  | .warn => 2
  | .info => 3
  | .debug => 4
  | .trace => 5

end Level

/-- A named value.  As text it is shown in quotes or as it is. -/
structure Field where
  name : String
  value : String
  quoted : Bool := false
deriving DecidableEq

structure Event where
  level : Level
  target : String
  message : String
  fields : List Field := []
deriving DecidableEq

namespace Event

/-- A line that a dispatcher or handler logged, tagged with the chaincode's name. -/
def logged (chaincode line : String) : Event :=
  { level := .info
    target := "chaincode_dispatch::logging"
    message := line
    fields := [{ name := "chaincode", value := chaincode }] }

/-- A server has started; its address is told where it is known. -/
def serving (chaincode : String) (address : Option String) : Event :=
  { level := .info
    target := "chaincode_dispatch::net::server"
    message := "serving"
    fields := { name := "chaincode", value := chaincode, quoted := true } ::
      address.toList.map fun address => { name := "addr", value := address } }

/-- A connection ended in error. -/
def undecodable (error : Wire.StreamError) : Event :=
  { level := .warn
    target := "chaincode_dispatch::net::server"
    message := "undecodable request: " ++ error.describe }

/-- The value of a field. -/
def value? (event : Event) (name : String) : Option String :=
  (event.fields.find? fun field => field.name == name).map Field.value

/-- Level, target, the chaincode in brackets, and the message. -/
def summary (event : Event) : String :=
  let origin := event.level.name ++ " " ++ event.target
  match event.value? "chaincode" with
  | some chaincode => s!"{origin} [{chaincode}] {event.message}"
  | none => s!"{origin} {event.message}"

end Event

end Chaincode.Tracing
