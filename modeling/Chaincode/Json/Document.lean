namespace Chaincode.Json

/-! JSON texts without blanks. -/

/-- What can be written; the fields of a record keep their order. -/
inductive Document where
  | null
  | number (value : Nat)
  | text (value : String)
  | list (items : List Document)
  | record (fields : List (String × Document))

def escapedChar (char : Char) : List Char :=
  if char = '"' then ['\\', '"']
  else if char = '\\' then ['\\', '\\']
  else if char = '\n' then ['\\', 'n']
  else if char = '\r' then ['\\', 'r']
  else if char = '\t' then ['\\', 't']
  else if char = '\x08' then ['\\', 'b']
  else if char = '\x0c' then ['\\', 'f']
  else if char.toNat < 32 then
    ['\\', 'u', '0', '0', Nat.digitChar (char.toNat / 16), Nat.digitChar (char.toNat % 16)]
  else [char]

/-- Only quotes, backslashes and controls are escaped. -/
def escaped (text : String) : String :=
  .ofList ('"' :: text.toList.flatMap escapedChar ++ ['"'])

namespace Document

mutual

def render : Document → String
  | .null => "null"
  | .number value => toString value
  | .text value => escaped value
  | .list items => "[" ++ ",".intercalate (renderItems items) ++ "]"
  | .record fields => "\x7b" ++ ",".intercalate (renderFields fields) ++ "\x7d"

def renderItems : List Document → List String
  | [] => []
  | item :: rest => render item :: renderItems rest

def renderFields : List (String × Document) → List String
  | [] => []
  | (name, value) :: rest => (escaped name ++ ":" ++ render value) :: renderFields rest

end

def texts (items : List String) : Document := .list (items.map .text)

end Document

end Chaincode.Json
