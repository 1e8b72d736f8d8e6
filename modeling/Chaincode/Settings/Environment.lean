import Chaincode.Settings.Inline
import Chaincode.Text.Utf8

namespace Chaincode.Settings

/-! Settings in environment variables.

A variable counts when its name starts with `CHAINCODE_` in any case.  The rest of
its name is the key; a point in it leads into a table.
-/

/-- Variables in their order, each name once. -/
abbrev Environment := List (String × String)

namespace Environment

/-- Sets a variable; one that is there keeps its place. -/
def set (environment : Environment) (name value : String) : Environment :=
  match environment with
  | [] => [(name, value)]
  | entry :: rest =>
      if entry.1 = name then (name, value) :: rest else entry :: set rest name value

def ofList (entries : List (String × String)) : Environment :=
  entries.foldl (fun environment entry => environment.set entry.1 entry.2) []

/-- A variable as a name, an equals sign and a value. -/
def entry? (bytes : Bytes) : Option (String × String) :=
  match Text.Utf8.decode bytes with
  | .error _ => none
  | .ok text =>
      match text.toList.dropWhile (· != '=') with
      | [] => none
      | _ :: value => some (.ofList (text.toList.takeWhile (· != '=')), .ofList value)

/-- Variables one after the other, with a zero byte behind each.  Those that are not
valid texts are left out. -/
def ofBlock (bytes : Bytes) : Environment := ofList ((bytes.splitOn 0).filterMap entry?)

def marker : List Char := "chaincode_".toList

/-- The parts of the key that a variable of this name sets. -/
def key? (name : String) : Option (List String) :=
  let name := Text.trim name.toList
  if (name.take marker.length).map Char.toLower = marker then
    let key := (Text.trim (name.drop marker.length)).map Char.toLower
    let parts := (key.splitOn '.').map String.ofList
    if parts.contains "" then none else some parts
  else none

/-- A value as the only entry of a table, in a table, and so on along the key. -/
def nest (value : Value) : List String → Value
  | [] => value
  | part :: parts => .table [(part, nest value parts)]

/-- The table of all settings in the environment; later variables override earlier
ones. -/
def table (environment : Environment) : List (String × Value) :=
  environment.foldl (fun entries setting =>
    match key? setting.1 with
    | some (part :: parts) =>
        Value.mergeEntries entries [(part, nest (Inline.parse setting.2) parts)]
    | _ => entries) []

end Environment

end Chaincode.Settings
