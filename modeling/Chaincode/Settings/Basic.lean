import Chaincode.Inspect

namespace Chaincode

/-! What can be set about a running chaincode. -/

structure Settings where
  /-- The name that log lines are tagged with. -/
  name : String := "very-simple"
  /-- Where the service listens. -/
  address : String := "127.0.0.1:9999"
  /-- Which events are shown. -/
  logLevel : String := "info"
  /-- How events are shown. -/
  logFormat : String := "text"
deriving DecidableEq

namespace Settings

inductive Key where
  | name
  | address
  | logLevel
  | logFormat
deriving DecidableEq

namespace Key

def all : List Key := [.name, .address, .logLevel, .logFormat]

def text : Key → String
  | .name => "name"
  | .address => "address"
  | .logLevel => "log_level"
  | .logFormat => "log_format"

def ofText? (text : String) : Option Key := all.find? fun key => key.text == text

/-- All keys, quoted, for messages about others. -/
def choices : String := ", ".intercalate (all.map fun key => s!"`{key.text}`")

end Key

def get (settings : Settings) : Key → String
  | .name => settings.name
  | .address => settings.address
  | .logLevel => settings.logLevel
  | .logFormat => settings.logFormat

def set (settings : Settings) (key : Key) (value : String) : Settings :=
  match key with
  | .name => { settings with name := value }
  | .address => { settings with address := value }
  | .logLevel => { settings with logLevel := value }
  | .logFormat => { settings with logFormat := value }

theorem get_set (settings : Settings) (written read : Key) (value : String) :
    (settings.set written value).get read = if read = written then value else settings.get read := by
  cases written <;> cases read <;> rfl

theorem ofText?_text (key : Key) : Key.ofText? key.text = some key := by
  cases key <;> rfl

def inspect (settings : Settings) : String :=
  inspectRecord "ChaincodeConfig"
    (Key.all.map fun key => (key.text, Text.quoted (settings.get key)))

end Settings

end Chaincode
