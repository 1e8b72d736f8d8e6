import Chaincode.Json.Reader

namespace Chaincode.Json

/-! Records and variants in a JSON text.

A record is a JSON record of its fields by name, or a JSON list of them in order.
A variant is a JSON record with the variant's name as its only field.
-/

/-- A field of a record, as a change to a draft of that record. -/
structure Slot (δ : Type) where
  name : String
  isSet : δ → Bool
  read : δ → Reader δ
  /-- Whether the field may be missing in a record. -/
  optional : Bool := false
  /-- Whether the field may be missing at the end of a list. -/
  optionalInList : Bool := false

namespace Slot

/-- The slot that reads one field of the draft. -/
def of (name : String) (get : δ → Option α) (put : δ → α → δ) (value : Reader α) : Slot δ where
  name
  isSet draft := (get draft).isSome
  read draft := value.map (put draft)

end Slot

structure Shape (δ : Type) where
  /-- What messages call the record. -/
  title : String
  slots : List (Slot δ)
  /-- Whether fields with other names are errors. -/
  strict : Bool := false

namespace Reader

/-- Names as alternatives, quoted. -/
def alternatives (names : List String) : String :=
  match names.map fun name => s!"`{name}`" with
  | [first] => first
  | [first, second] => s!"{first} or {second}"
  | quoted => "one of " ++ ", ".intercalate quoted

def wrongLength (title : String) (found expected : Nat) : Problem :=
  let unit := if expected = 1 then "element" else "elements"
  .data s!"invalid length {found}, expected {title} with {expected} {unit}"

variable {δ : Type}

/-- Reads the slots from `index` on out of a list. -/
def slotsInList (shape : Shape δ) : List (Slot δ) → Nat → δ → Reader δ
  | [], _, draft => fun
      | .closeList :: rest => .ok (draft, rest)
      | _ => .error .malformed
  | slot :: slots, index, draft => fun tokens =>
      match tokens, index with
      | .closeList :: _, _ =>
          if slot.optionalInList then slotsInList shape slots (index + 1) draft tokens
          else .error (wrongLength shape.title index shape.slots.length)
      | tokens, 0 => ((slot.read draft).andThen (slotsInList shape slots 1)) tokens
      | .comma :: rest, _ => ((slot.read draft).andThen (slotsInList shape slots (index + 1))) rest
      | _, _ => .error .malformed

/-- Checks at the end of a record that nothing is missing. -/
def complete (shape : Shape δ) (draft : δ) : Reader δ :=
  match shape.slots.find? fun slot => !slot.optional && !slot.isSet draft with
  | some slot => fail (.data s!"missing field `{slot.name}`")
  | none => pure draft

/-- Reads the value of the field with this name. -/
def field (shape : Shape δ) (name : String) (draft : δ) : Reader δ :=
  match shape.slots.find? fun slot => slot.name == name with
  | some slot =>
      if slot.isSet draft then fail (.data s!"duplicate field `{name}`")
      else colon.andThen fun _ => slot.read draft
  | none =>
      if shape.strict then
        let expected := alternatives (shape.slots.map Slot.name)
        fail (.data s!"unknown field `{name}`, expected {expected}")
      else colon.andThen fun _ => skip.map fun _ => draft

/-- Reads the fields after the first; `fuel` bounds their number. -/
def fields (shape : Shape δ) : Nat → δ → Reader δ
  | 0, _ => fail .malformed
  | fuel + 1, draft => fun
      | .closeRecord :: rest => complete shape draft rest
      | .comma :: .text (some name) :: rest =>
          ((field shape name draft).andThen (fields shape fuel)) rest
      | _ => .error .malformed

def record (shape : Shape δ) (draft : δ) : Reader δ
  | .openList :: rest => slotsInList shape shape.slots 0 draft rest
  | .openRecord :: .closeRecord :: rest => complete shape draft rest
  | .openRecord :: .text (some name) :: rest =>
      ((field shape name draft).andThen (fields shape rest.length)) rest
  | .openRecord :: _ => .error .malformed
  | tokens => refuse shape.title tokens

end Reader

structure Variant (α : Type) where
  name : String
  /-- What messages call this kind of variant. -/
  kind : String
  content : Reader α

namespace Reader

def closeRecord (value : α) : Reader α
  | .closeRecord :: rest => .ok (value, rest)
  | _ => .error .malformed

def unknownVariant (choices : List (Variant α)) (name : String) : Problem :=
  let expected := alternatives (choices.map Variant.name)
  .data s!"unknown variant `{name}`, expected {expected}"

def variant (choices : List (Variant α)) : Reader α
  | .text (some name) :: _ =>
      match choices.find? fun choice => choice.name == name with
      | none => .error (unknownVariant choices name)
      | some choice => .error (wrongType "unit variant" choice.kind)
  | .openRecord :: .text (some name) :: rest =>
      match choices.find? fun choice => choice.name == name with
      | none => .error (unknownVariant choices name)
      | some choice =>
          (colon.andThen fun _ => choice.content.andThen closeRecord) rest
  | .openRecord :: tokens => refuse "variant identifier" tokens
  | _ => .error .malformed

/-- Reads a text that holds one value and nothing else. -/
def whole (reader : Reader α) (text : String) : Except Problem α :=
  match reader (tokens text) with
  | .error problem => .error problem
  | .ok (value, []) => .ok value
  | .ok (_, _ :: _) => .error .malformed

end Reader

end Chaincode.Json
