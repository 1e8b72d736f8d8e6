import Chaincode.Text.CharRange

namespace Chaincode.Text

/-! White space: the characters with the Unicode property White_Space. -/

def Blank.ranges : List (Nat × Nat) :=
  [ (0x9, 0xd), (0x20, 0x20), (0x85, 0x85), (0xa0, 0xa0), (0x1680, 0x1680), (0x2000, 0x200a),
    (0x2028, 0x2029), (0x202f, 0x202f), (0x205f, 0x205f), (0x3000, 0x3000) ]

def isBlank (char : Char) : Bool := inRanges Blank.ranges char

/-- Drops white space at both ends. -/
def trim (chars : List Char) : List Char :=
  (((chars.dropWhile isBlank).reverse).dropWhile isBlank).reverse

/-- The lower-case form of an ASCII capital; any other character is kept. -/
def asciiLower (text : String) : String := text.map Char.toLower

def asciiUpper (text : String) : String := text.map Char.toUpper

end Chaincode.Text
