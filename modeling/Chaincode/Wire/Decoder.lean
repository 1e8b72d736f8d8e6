import Chaincode.Text.Utf8

namespace Chaincode.Wire

/-! Reading values from the front of a byte string.

A decoder gives a value together with the bytes behind it, or the first thing that is
wrong.  It is made from metered decoders, which look for a value at a position of a whole
body and keep account of what they do: they count the list elements that they begin, and
note each position that they move to.
-/

inductive Fault where
  /-- The bytes end inside a number, an option byte or a list element. -/
  | endOfInput
  /-- A text announces more bytes than there are. -/
  | shortText
  | invalidText (error : Text.Utf8.Error)
  /-- A variant number that is not below `count`. -/
  | unknownVariant (found count : Nat)
  /-- A variant number of more than 32 bits. -/
  | wideVariant (found : Nat)
  /-- The byte that announces a number of 16 bytes. -/
  | wideInteger
  /-- The byte that is kept for extensions. -/
  | extensionByte
  | invalidOption (found : Nat)
deriving DecidableEq

namespace Fault

def describe : Fault → String
  | .endOfInput => "io error: unexpected end of file"
  | .shortText => "io error: "
  | .invalidText error => "string is not valid utf8: " ++ error.describe
  | .unknownVariant found count =>
      s!"invalid value: integer `{found}`, expected variant index 0 <= i < {count}"
  | .wideVariant found => s!"Invalid u32 {found}: you may have a version disagreement?"
  | .wideInteger =>
      "Invalid value (u128 range): you may have a version or configuration disagreement?"
  | .extensionByte =>
      "\nByte 255 is treated as an extension point; it should not be encoding anything.\n" ++
        "Do you have a mismatched bincode version or configuration?\n"
  | .invalidOption found => s!"tag for enum is not valid, found {found}"

end Fault

abbrev Decoder (α : Type) := Bytes → Except Fault (α × Bytes)

structure Account (α : Type) where
  /-- How many elements of lists were begun. -/
  elements : Nat := 0
  /-- The positions that were moved to. -/
  positions : List Nat := []
  /-- The value and the position behind it. -/
  result : Except Fault (α × Nat)

abbrev Metered (α : Type) := Bytes → Nat → Account α

namespace Metered

def pure (value : α) : Metered α := fun _ position => { result := .ok (value, position) }

def fail (fault : Fault) : Metered α := fun _ _ => { result := .error fault }

def andThen (first : Metered α) (next : α → Metered β) : Metered β := fun body position =>
  let account := first body position
  match account.result with
  | .error fault => ⟨account.elements, account.positions, .error fault⟩
  | .ok (value, behind) =>
      let later := next value body behind
      ⟨account.elements + later.elements, account.positions ++ later.positions, later.result⟩

def map (change : α → β) (metered : Metered α) : Metered β :=
  metered.andThen fun value => pure (change value)

def byte : Metered UInt8 := fun body position =>
  match body[position]? with
  | none => { result := .error .endOfInput }
  | some byte => { positions := [position + 1], result := .ok (byte, position + 1) }

/-- The count is compared with what is left, so no position behind the body is ever computed. -/
def take (count : Nat) (fault : Fault) : Metered Bytes := fun body position =>
  if count ≤ body.length - position then
    { positions := [position + count]
      result := .ok ((body.drop position).take count, position + count) }
  else { result := .error fault }

/-- One element of a list. -/
def element (item : Metered α) : Metered α := fun body position =>
  let account := item body position
  { account with elements := account.elements + 1 }

def times (item : Metered α) : Nat → Metered (List α)
  | 0 => pure []
  | count + 1 => (element item).andThen fun first => (times item count).map (first :: ·)

/-- From the beginning of a body, and without the account. -/
def decoder (metered : Metered α) : Decoder α := fun body =>
  (metered body 0).result.map fun found => (found.1, body.drop found.2)

end Metered

end Chaincode.Wire
