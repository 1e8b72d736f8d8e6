import Chaincode.Service.Address
import Chaincode.Settings.Load
import Chaincode.Tracing.Steps

namespace Chaincode

open Service Tracing

/-! Starting the very-simple chaincode as a program.

It loads its settings, installs a console, announces itself, and serves on the
configured address.  The first thing that goes wrong ends it.
-/

inductive StartupError where
  | load (error : Settings.LoadError)
  | install (error : InstallError)
  | address (error : IoError)

namespace StartupError

def inspect : StartupError → String
  | .load error => s!"Load({Text.quoted error.detail})"
  | .install (.filter text error) =>
      inspectRecord "Filter"
        [("filter", Text.quoted text), ("reason", Text.quoted error.describe)]
  | .install .alreadyInstalled =>
      "Install(" ++ Text.quoted InstallError.alreadySet ++ ")"
  | .address error =>
      inspectRecord "Error"
        [("kind", "InvalidInput"), ("message", Text.quoted error.describe)]

end StartupError

/-- What the program is to do once it has started. -/
structure Duty where
  /-- The name that log lines are tagged with. -/
  name : String
  /-- Where to serve. -/
  address : Address

/-- How the program got on. -/
structure Started where
  console : Option Console
  /-- What it has reported. -/
  events : List Event
  /-- What it is to do now, or why it ended. -/
  result : Except StartupError Duty

namespace Started

/-- What the program has printed, at one time. -/
def output (started : Started) (time : String) : String :=
  printAll started.console time started.events

def error? (started : Started) : Option StartupError :=
  match started.result with
  | .error error => some error
  | .ok _ => none

def exitCode (started : Started) : Nat := if started.error?.isSome then 1 else 0

/-- What it says about why it ended. -/
def complaint (started : Started) : String :=
  match started.error? with
  | some error => "Error: " ++ error.inspect ++ "\n"
  | none => ""

end Started

/-- Colours are off where `NO_COLOR` is set to anything. -/
def coloursIn (environment : Settings.Environment) : Bool :=
  match environment.lookup "NO_COLOR" with
  | some text => text = ""
  | none => true

/-- The events before the program serves. -/
def announcements (name : String) : List Event :=
  let turn := (VerySimple.dispatcher (σ := Unit)).start ()
  turn.lines.map (Event.logged name) ++
    [{ level := .debug
       target := "very_simple"
       message := "initialized"
       fields := [{ name := "init", value := turn.value.describe }] }]

/-- Starts the program with settings and a console. -/
def announce (settings : Settings) (console : Console) : Started :=
  { console := some console
    events := announcements settings.name
    result :=
      match Address.parse settings.address with
      | .error error => .error (.address error)
      | .ok address => .ok ⟨settings.name, address⟩ }

/-- Starts the program in a directory. -/
def startUp (tree : Settings.FileTree) (current : Settings.Path) (path : Option String)
    (environment : Settings.Environment) : Started :=
  match Settings.load tree current path environment with
  | .error error => ⟨none, [], .error (.load error)⟩
  | .ok settings =>
      match install settings (coloursIn environment) none with
      | .error error => ⟨none, [], .error (.install error)⟩
      | .ok console => announce settings console

end Chaincode
