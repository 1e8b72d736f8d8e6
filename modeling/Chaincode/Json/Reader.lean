import Chaincode.Json.Token
import Chaincode.Text.Quoted

namespace Chaincode.Json

/-! Reading values of known types from a JSON text.

A reader takes the tokens in order and stops at the first problem, which is
either that the text is no JSON or that it holds something else than expected.
-/

inductive Problem where
  | malformed
  | data (message : String)
deriving DecidableEq

abbrev Reader (α : Type) := List Token → Except Problem (α × List Token)

namespace Reader

def pure (value : α) : Reader α := fun tokens => .ok (value, tokens)

def fail (problem : Problem) : Reader α := fun _ => .error problem

def andThen (reader : Reader α) (next : α → Reader β) : Reader β := fun tokens =>
  match reader tokens with
  | .error problem => .error problem
  | .ok (value, rest) => next value rest

def map (change : α → β) (reader : Reader α) : Reader β :=
  reader.andThen fun value => pure (change value)

def wrongType (found expected : String) : Problem :=
  .data s!"invalid type: {found}, expected {expected}"

def Number.describe : Number → String
  | .natural value => s!"integer `{value}`"
  | .negative value => s!"integer `-{value}`"
  | .float value => s!"floating point `{Number.floatText value}`"

/-- What to say about a value that starts with this token where another was expected. -/
def mismatch (expected : String) : Token → Problem
  | .null => wrongType "null" expected
  | .boolean value => wrongType s!"boolean `{value}`" expected
  | .number (some value) => wrongType (Number.describe value) expected
  | .text (some value) => wrongType s!"string {Text.quoted value}" expected
  | .openList => wrongType "sequence" expected
  | .openRecord => wrongType "map" expected
  | _ => .malformed

def refuse (expected : String) : Reader α
  | [] => .error .malformed
  | token :: _ => .error (mismatch expected token)

def text (expected : String) : Reader String
  | .text (some value) :: rest => .ok (value, rest)
  | tokens => refuse expected tokens

/-- An unsigned number below `bound`. -/
def natural (bound : Nat) (expected : String) : Reader Nat
  | .number (some (.natural value)) :: rest =>
      if value < bound then .ok (value, rest)
      else .error (.data s!"invalid value: integer `{value}`, expected {expected}")
  | .number (some (.negative value)) :: _ =>
      .error (.data s!"invalid value: integer `-{value}`, expected {expected}")
  | tokens => refuse expected tokens

def colon : Reader Unit
  | .colon :: rest => .ok ((), rest)
  | _ => .error .malformed

/-- The items of a list after the first; `fuel` bounds their number. -/
def items (item : Reader α) : Nat → Reader (List α)
  | 0 => fail .malformed
  | fuel + 1 => fun
      | .closeList :: rest => .ok ([], rest)
      | .comma :: rest => (item.andThen fun value => (items item fuel).map (value :: ·)) rest
      | _ => .error .malformed

def list (item : Reader α) (expected : String) : Reader (List α)
  | .openList :: .closeList :: rest => .ok ([], rest)
  | .openList :: rest =>
      (item.andThen fun value => (items item rest.length).map (value :: ·)) rest
  | tokens => refuse expected tokens

/-- A list of texts. -/
def texts : Reader (List String) := list (text "a string") "a sequence"

def nullable (item : Reader α) : Reader (Option α)
  | .null :: rest => .ok (none, rest)
  | tokens => item.map some tokens

/-- What may come next while a value is skipped. -/
inductive Expecting where
  | value
  | itemOrClose
  | nameOrClose
  | name
  | colon
  | separator

/-- The lists and records around a place, the innermost first. -/
inductive Enclosing where
  | list
  | record

/-- What to expect after a complete value; `none` when nothing encloses it. -/
def afterValue : List Enclosing → Option (Expecting × List Enclosing)
  | [] => none
  | enclosing => some (.separator, enclosing)

/-- What to expect after one more token. -/
def advance (expecting : Expecting) (enclosing : List Enclosing) (token : Token) :
    Except Problem (Option (Expecting × List Enclosing)) :=
  let value : Except Problem (Option (Expecting × List Enclosing)) :=
    match token with
    | .null | .boolean _ | .number _ | .text _ => .ok (afterValue enclosing)
    | .openList => .ok (some (.itemOrClose, .list :: enclosing))
    | .openRecord => .ok (some (.nameOrClose, .record :: enclosing))
    | _ => .error .malformed
  match expecting, token, enclosing with
  | .value, _, _ => value
  | .itemOrClose, .closeList, _ :: outer => .ok (afterValue outer)
  | .itemOrClose, _, _ => value
  | .nameOrClose, .closeRecord, _ :: outer => .ok (afterValue outer)
  | .nameOrClose, .text _, _ => .ok (some (.colon, enclosing))
  | .name, .text _, _ => .ok (some (.colon, enclosing))
  | .colon, .colon, _ => .ok (some (.value, enclosing))
  | .separator, .comma, .record :: _ => .ok (some (.name, enclosing))
  | .separator, .comma, .list :: _ => .ok (some (.value, enclosing))
  | .separator, .closeRecord, .record :: outer => .ok (afterValue outer)
  | .separator, .closeList, .list :: outer => .ok (afterValue outer)
  | _, _, _ => .error .malformed

def skipFrom (expecting : Expecting) (enclosing : List Enclosing) : Reader Unit
  | [] => .error .malformed
  | token :: rest =>
      match advance expecting enclosing token with
      | .error problem => .error problem
      | .ok none => .ok ((), rest)
      | .ok (some (expecting, enclosing)) => skipFrom expecting enclosing rest

/-- Skips one value of any type. -/
def skip : Reader Unit := skipFrom .value []

end Reader

end Chaincode.Json
