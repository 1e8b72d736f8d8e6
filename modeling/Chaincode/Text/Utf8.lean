import Chaincode.Bytes

namespace Chaincode.Text.Utf8

/-! Texts as bytes.

The encoding of a character has one to four bytes.  A decoder refuses longer
forms than needed, surrogates and numbers above the last code point, and says
how many bytes at the first bad place cannot start or continue a character.
-/

def encodeChar (char : Char) : Bytes :=
  let code := char.toNat
  if code < 0x80 then [UInt8.ofNat code]
  else if code < 0x800 then
    [UInt8.ofNat (0xc0 + code / 64), UInt8.ofNat (0x80 + code % 64)]
  else if code < 0x10000 then
    [UInt8.ofNat (0xe0 + code / 4096), UInt8.ofNat (0x80 + code / 64 % 64),
      UInt8.ofNat (0x80 + code % 64)]
  else
    [UInt8.ofNat (0xf0 + code / 262144), UInt8.ofNat (0x80 + code / 4096 % 64),
      UInt8.ofNat (0x80 + code / 64 % 64), UInt8.ofNat (0x80 + code % 64)]

def encodeChars (chars : List Char) : Bytes := chars.flatMap encodeChar

def encode (text : String) : Bytes := encodeChars text.toList

inductive Error where
  /-- The bytes at `index` are no character; the first `count` of them are skipped. -/
  | invalid (count index : Nat)
  /-- The bytes from `index` on may begin a character but end too early. -/
  | incomplete (index : Nat)
deriving DecidableEq

namespace Error

def describe : Error → String
  | .invalid count index => s!"invalid utf-8 sequence of {count} bytes from index {index}"
  | .incomplete index => s!"incomplete utf-8 byte sequence from index {index}"

end Error

def isContinuation (byte : UInt8) : Bool := 0x80 ≤ byte && byte < 0xc0

/-- Which second bytes may follow a lead byte of a three-byte character. -/
def followsThree (lead second : UInt8) : Bool :=
  if lead = 0xe0 then 0xa0 ≤ second && second < 0xc0
  else if lead = 0xed then 0x80 ≤ second && second < 0xa0
  else isContinuation second

/-- Which second bytes may follow a lead byte of a four-byte character. -/
def followsFour (lead second : UInt8) : Bool :=
  if lead = 0xf0 then 0x90 ≤ second && second < 0xc0
  else if lead = 0xf4 then 0x80 ≤ second && second < 0x90
  else isContinuation second

def charOfTwo (first second : UInt8) : Char :=
  Char.ofNat (first.toNat % 32 * 64 + second.toNat % 64)

def charOfThree (first second third : UInt8) : Char :=
  Char.ofNat (first.toNat % 16 * 4096 + second.toNat % 64 * 64 + third.toNat % 64)

def charOfFour (first second third fourth : UInt8) : Char :=
  Char.ofNat (first.toNat % 8 * 262144 + second.toNat % 64 * 4096 + third.toNat % 64 * 64 +
    fourth.toNat % 64)

/-- Decodes bytes that start at `index` of the whole input. -/
def decodeFrom (index : Nat) : Bytes → Except Error (List Char)
  | [] => .ok []
  | first :: rest =>
      if first < 0x80 then
        (decodeFrom (index + 1) rest).map (Char.ofNat first.toNat :: ·)
      else if 0xc2 ≤ first && first < 0xe0 then
        match rest with
        | [] => .error (.incomplete index)
        | second :: rest =>
            if isContinuation second then
              (decodeFrom (index + 2) rest).map (charOfTwo first second :: ·)
            else .error (.invalid 1 index)
      else if 0xe0 ≤ first && first < 0xf0 then
        match rest with
        | [] => .error (.incomplete index)
        | second :: rest =>
            if followsThree first second then
              match rest with
              | [] => .error (.incomplete index)
              | third :: rest =>
                  if isContinuation third then
                    (decodeFrom (index + 3) rest).map (charOfThree first second third :: ·)
                  else .error (.invalid 2 index)
            else .error (.invalid 1 index)
      else if 0xf0 ≤ first && first < 0xf5 then
        match rest with
        | [] => .error (.incomplete index)
        | second :: rest =>
            if followsFour first second then
              match rest with
              | [] => .error (.incomplete index)
              | third :: rest =>
                  if isContinuation third then
                    match rest with
                    | [] => .error (.incomplete index)
                    | fourth :: rest =>
                        if isContinuation fourth then
                          (decodeFrom (index + 4) rest).map
                            (charOfFour first second third fourth :: ·)
                        else .error (.invalid 3 index)
                  else .error (.invalid 2 index)
            else .error (.invalid 1 index)
      else .error (.invalid 1 index)

def decode (bytes : Bytes) : Except Error String :=
  (decodeFrom 0 bytes).map String.ofList

end Chaincode.Text.Utf8
