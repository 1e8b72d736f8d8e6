import Chaincode.Handlers.Ping
import Chaincode.Tracing.Console

namespace Chaincode.Tracing

/-! A program that installs consoles and reports events. -/

inductive Step where
  | install (settings : Settings)
  /-- Logs a line, tagged with a chaincode's name. -/
  | info (chaincode line : String)
  /-- Invokes the very-simple chaincode, its lines tagged with this name. -/
  | invoke (chaincode : String) (stub : Stub)

inductive StepResult where
  | done
  | failed (error : InstallError)
  | outcome (outcome : Outcome)

/-- One step at a time: its result, what it prints, and the console there is
afterwards. -/
def step (time : String) (installed : Option Console) : Step → StepResult × String × Option Console
  | .install settings =>
      match install settings true installed with
      | .error error => (.failed error, "", installed)
      | .ok console => (.done, "", some console)
  | .info chaincode line => (.done, printAll installed time [.logged chaincode line], installed)
  | .invoke chaincode stub =>
      let turn := (VerySimple.dispatcher.invoke stub).run ()
      let events := turn.lines.map (Event.logged chaincode)
      (.outcome turn.value, printAll installed time events, installed)

/-- All steps, at one time: their results and everything that was printed. -/
def run (time : String) (installed : Option Console) : List Step → List StepResult × String
  | [] => ([], "")
  | first :: rest =>
      let (result, printed, installed) := step time installed first
      let (results, later) := run time installed rest
      (result :: results, printed ++ later)

end Chaincode.Tracing
