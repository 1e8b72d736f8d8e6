import Chaincode.Settings.Basic
import Chaincode.Settings.Environment
import Chaincode.Settings.Files
import Chaincode.Text.Utf8
import Chaincode.Toml.Document

namespace Chaincode.Settings

/-! Settings from their layers.

The lowest layer are the defaults, above them stands a settings file, and above
that the environment.  Layers are merged key by key; then every key of the result
has to be the key of a setting, and its value a text.
-/

inductive Layer where
  | defaults
  /-- A file, by its path from the current directory. -/
  | file (path : String)
  | environment
deriving DecidableEq

namespace Layer

/-- What messages call the layer. -/
def describe : Layer → String
  | .defaults => "defaults"
  | .file path => path ++ " TOML file"
  | .environment => "`CHAINCODE_` environment variable(s)"

/-- How a key is spelled in the layer. -/
def keyText : Layer → String → String
  | .environment, key => Text.asciiUpper key
  | _, key => "default." ++ key

end Layer

inductive LoadError where
  | syntaxError
  | notUtf8 (path : String)
  | unknownKey (key : String) (layer : Layer)
  | wrongType (found : Value) (key : String) (layer : Layer)

namespace LoadError

def place (key : String) (layer : Layer) : String :=
  s!" for key {Text.quoted (layer.keyText key)} in {layer.describe}"

/-- The message without what it is about. -/
def detail : LoadError → String
  | .syntaxError => "TOML parse error"
  | .notUtf8 path => "stream did not contain valid UTF-8\n in " ++ (Layer.file path).describe
  | .unknownKey key layer =>
      s!"unknown field: found `{key}`, expected `one of {Key.choices}`" ++ place key layer
  | .wrongType found key layer =>
      s!"invalid type: found {found.describe}, expected a string" ++ place key layer

def describe (error : LoadError) : String := "configuration error: " ++ error.detail

end LoadError

/-- A value and the layer it comes from. -/
structure Sourced where
  layer : Layer
  value : Value

/-- Merges the entries of a layer over what stands below it. -/
def overlay (layer : Layer) (below : List (String × Sourced)) (entries : List (String × Value)) :
    List (String × Sourced) :=
  entries.foldl (fun merged entry =>
    let value := match merged.lookup entry.1 with
      | some earlier => earlier.value.merge entry.2
      | none => entry.2
    putEntry entry.1 ⟨layer, value⟩ merged) below

/-- Takes one merged entry as a setting. -/
def accept (settings : Settings) (entry : String × Sourced) : Except LoadError Settings :=
  match Key.ofText? entry.1 with
  | none => .error (.unknownKey entry.1 entry.2.layer)
  | some key =>
      match entry.2.value.text? with
      | none => .error (.wrongType entry.2.value entry.1 entry.2.layer)
      | some text => .ok (settings.set key text)

/-- The settings in merged entries.  The first problem in the order of the keys is the
one that is reported. -/
def extract (entries : List (String × Sourced)) : Except LoadError Settings :=
  entries.foldlM accept {}

/-- The defaults as a layer. -/
def defaultEntries : List (String × Value) :=
  Key.all.map fun key => (key.text, .text (({} : Settings).get key))

/-- The settings from the entries of a file, if there is one, and of the environment. -/
def resolve (file : Option (String × List (String × Value)))
    (environment : List (String × Value)) : Except LoadError Settings :=
  let below := overlay .defaults [] defaultEntries
  let below := match file with
    | some (path, entries) => overlay (.file path) below entries
    | none => below
  extract (overlay .environment below environment)

/-- The entries of a settings file. -/
def fileEntries (path : String) (content : Bytes) : Except LoadError (List (String × Value)) :=
  match Text.Utf8.decode content with
  | .error _ => .error (.notUtf8 path)
  | .ok text =>
      match Toml.parse? text with
      | none => .error .syntaxError
      | some entries => .ok entries

/-- Loads the settings that hold in a directory: with the file at `path`, if a path is
given and a file is found, and with the environment. -/
def load (tree : FileTree) (current : Path) (path : Option String) (environment : Environment) :
    Except LoadError Settings :=
  match path.bind (tree.search current) with
  | none => resolve none environment.table
  | some found =>
      let path := Path.text (found.path.relativeTo current)
      match fileEntries path found.content with
      | .error error => .error error
      | .ok entries => resolve (some (path, entries)) environment.table

end Chaincode.Settings
