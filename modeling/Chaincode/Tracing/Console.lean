import Chaincode.Json.Document
import Chaincode.Settings.Basic
import Chaincode.Tracing.Filter

namespace Chaincode.Tracing

/-! Events on a console.

A console is installed once in the life of a program; until then events are lost.
It prints every event that its filter shows on a line of its own, as text with or
without colours, or as JSON.
-/

inductive Format where
  | text
  | json
deriving DecidableEq

namespace Format

/-- Only this one word asks for JSON. -/
def ofText (text : String) : Format := if text = "json" then .json else .text

end Format

/-- How a stretch of text is shown on a terminal. -/
inductive Style where
  | dim
  | italic
  | colour (code : Nat)

namespace Style

def code : Style → Nat
  | .dim => 2
  | .italic => 3
  | .colour code => code

/-- The text between the marks that turn a style on and off. -/
def apply (style : Style) (text : String) : String :=
  s!"\x1b[{style.code}m{text}\x1b[0m"

end Style

namespace Level

def colour : Level → Nat
  | .error => 31
  | .warn => 33
  | .info => 32
  | .debug => 34
  | .trace => 35

/-- The name, at the right of five columns. -/
def column (level : Level) : String :=
  .ofList (List.replicate (5 - level.name.length) ' ') ++ level.name

end Level

/-- How a character of a message stands on a terminal: one that would move the cursor,
ring or begin a control sequence is named instead. -/
def shownChar (char : Char) : List Char :=
  if char = '\x07' then "\\x07".toList
  else if char = '\x08' then "\\x08".toList
  else if char = '\x0c' then "\\x0c".toList
  else if char = '\x1b' then "\\x1b".toList
  else if char = '\x7f' then "\\x7f".toList
  else if 0x80 ≤ char.toNat && char.toNat < 0xa0 then Text.codePointEscape char
  else [char]

/-- A message as it stands on a terminal. -/
def shown (message : String) : String := .ofList (message.toList.flatMap shownChar)

namespace Field

/-- A field as text. -/
def text (field : Field) : String :=
  if field.quoted then Text.quoted field.value else field.value

end Field

namespace Event

/-- The event on a line of text, with the time at which it happened. -/
def textLine (colours : Bool) (time : String) (event : Event) : String :=
  let style (style : Style) (text : String) : String :=
    if colours then style.apply text else text
  let fields := event.fields.map fun field =>
    " " ++ style .italic field.name ++ style .dim "=" ++ field.text
  style .dim time ++ " " ++ style (.colour event.level.colour) event.level.column ++ " " ++
    style .dim event.target ++ style .dim ":" ++ " " ++ shown event.message ++ String.join fields ++ "\n"

def jsonLine (time : String) (event : Event) : String :=
  let fields := ("message", Json.Document.text event.message) ::
    event.fields.map fun field => (field.name, .text field.value)
  let document : Json.Document := .record
    [ ("timestamp", .text time), ("level", .text event.level.name), ("fields", .record fields),
      ("target", .text event.target) ]
  document.render ++ "\n"

end Event

structure Console where
  filter : Filter
  format : Format
  colours : Bool

namespace Console

/-- What an event prints at a time. -/
def print (console : Console) (time : String) (event : Event) : String :=
  if console.filter.shows event then
    match console.format with
    | .text => event.textLine console.colours time
    | .json => event.jsonLine time
  else ""

end Console

inductive InstallError where
  | filter (text : String) (error : FilterError)
  | alreadyInstalled

namespace InstallError

def alreadySet : String := "a global default trace dispatcher has already been set"

def describe : InstallError → String
  | .filter text error => s!"invalid log filter {Text.quoted text}: {error.describe}"
  | .alreadyInstalled => "failed to install tracing subscriber: " ++ alreadySet

end InstallError

/-- Installs a console that shows what the settings ask for, unless there is one. The
filter is read first. -/
def install (settings : Settings) (colours : Bool) (installed : Option Console) :
    Except InstallError Console :=
  match Filter.parse settings.logLevel with
  | .error error => .error (.filter settings.logLevel error)
  | .ok filter =>
      match installed with
      | some _ => .error .alreadyInstalled
      | none => .ok ⟨filter, .ofText settings.logFormat, colours⟩

/-- What events print at a time, one after the other; nothing without a console. -/
def printAll (installed : Option Console) (time : String) (events : List Event) : String :=
  match installed with
  | none => ""
  | some console => String.join (events.map (console.print time))

end Chaincode.Tracing
