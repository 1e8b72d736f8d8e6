import Chaincode.Wire.Decoder

namespace Chaincode.Wire

/-! Numbers, texts, lists and options on the wire.

A number below 251 is one byte.  Greater ones follow a byte that tells their
width: 251 for two bytes, 252 for four, 253 for eight, least significant first.
Encoders take the shortest form and decoders take any.
-/

def encodeInteger (number : Nat) : Bytes :=
  if number < 251 then [UInt8.ofNat number]
  else if number < UInt16.size then 251 :: Bytes.littleEndian 2 number
  else if number < UInt32.size then 252 :: Bytes.littleEndian 4 number
  else 253 :: Bytes.littleEndian 8 number

def encodeText (text : String) : Bytes :=
  let bytes := Text.Utf8.encode text
  encodeInteger bytes.length ++ bytes

def encodeList (item : α → Bytes) (items : List α) : Bytes :=
  encodeInteger items.length ++ items.flatMap item

def encodeOption (item : α → Bytes) : Option α → Bytes
  | none => [0]
  | some value => 1 :: item value

namespace Metered

/-- A number of `width` bytes. -/
def word (width : Nat) : Metered Nat := (take width .endOfInput).map Bytes.ofLittleEndian

def integer : Metered Nat :=
  byte.andThen fun first =>
    if first < 251 then pure first.toNat
    else if first = 251 then word 2
    else if first = 252 then word 4
    else if first = 253 then word 8
    else if first = 254 then fail .wideInteger
    else fail .extensionByte

/-- The number of a variant, one of `count`. -/
def variant (count : Nat) : Metered Nat :=
  integer.andThen fun found =>
    if UInt32.size ≤ found then fail (.wideVariant found)
    else if count ≤ found then fail (.unknownVariant found count)
    else pure found

def text : Metered String :=
  integer.andThen fun length =>
    (take length .shortText).andThen fun bytes =>
      match Text.Utf8.decode bytes with
      | .ok text => pure text
      | .error error => fail (.invalidText error)

def list (item : Metered α) : Metered (List α) := integer.andThen (times item)

def option (item : Metered α) : Metered (Option α) :=
  byte.andThen fun tag =>
    if tag = 0 then pure none
    else if tag = 1 then item.map some
    else fail (.invalidOption tag.toNat)

end Metered

end Chaincode.Wire
