namespace Chaincode

/-! Numbers read from their decimal text.

A whole number is a sign and digits, leading zeros included.  A floating-point
number may also have a fraction and an exponent, with a digit on at least one side
of the point; it is rounded to the nearest double-precision number, which beyond
the greatest one is infinite.
-/

namespace Numeral

def digitValue (char : Char) : Nat := char.toNat - '0'.toNat

/-- The number that decimal digits spell. -/
def value (digits : List Char) : Nat :=
  digits.foldl (fun number digit => 10 * number + digitValue digit) 0

/-- Digits and nothing else, at least one. -/
def isDigits (text : List Char) : Bool := !text.isEmpty && text.all Char.isDigit

/-- A number that is not negative; a plus sign may precede it. -/
def natural? : List Char → Option Nat
  | '+' :: digits => if isDigits digits then some (value digits) else none
  | digits => if isDigits digits then some (value digits) else none

/-- A number with or without a sign. -/
def integer? : List Char → Option Int
  | '-' :: digits => if isDigits digits then some (-(value digits : Int)) else none
  | text => (natural? text).map Int.ofNat

/-- The double-precision number nearest to `significand * 10 ^ exponent`. -/
def nearest (significand : Nat) (exponent : Int) : Float :=
  let places := ((Nat.toDigits 10 significand).length : Int) + exponent
  if significand = 0 || places < -400 then 0
  else if 400 < places then Float.ofScientific 1 false 400
  else Float.ofScientific significand (decide (exponent < 0)) exponent.natAbs

def exponent? : List Char → Option Int
  | [] => some 0
  | marker :: text => if marker = 'e' || marker = 'E' then integer? text else none

/-- A floating-point number without a sign. -/
def magnitude? (text : List Char) : Option Float :=
  let whole := text.takeWhile Char.isDigit
  let rest := text.dropWhile Char.isDigit
  let (fraction, rest) := match rest with
    | '.' :: rest => (rest.takeWhile Char.isDigit, rest.dropWhile Char.isDigit)
    | rest => ([], rest)
  if whole.isEmpty && fraction.isEmpty then none
  else
    (exponent? rest).map fun exponent =>
      nearest (value (whole ++ fraction)) (exponent - fraction.length)

def float? : List Char → Option Float
  | '-' :: text => (magnitude? text).map fun number => -number
  | '+' :: text => magnitude? text
  | text => magnitude? text

end Numeral

end Chaincode
