namespace Chaincode

/-! The fewest decimal digits that still tell a binary floating-point number from its
neighbours.

A finite number is a significand times a power of two.  The decimals that round
to it fill an interval around it, to which the ends belong when the significand
is even.  Of the decimals with the fewest digits in that interval, the one
nearest to the number is taken.
-/

/-- The number `digits * 10 ^ exponent`. -/
structure Decimal where
  digits : Nat
  exponent : Int
deriving DecidableEq

/-- A positive number `significand * 2 ^ exponent`, and whether the number below it
is only half as far away as the one above. -/
structure Binary where
  significand : Nat
  exponent : Int
  closeBelow : Bool
deriving DecidableEq

inductive FloatClass where
  | notANumber
  | infinite (negative : Bool)
  | finite (negative : Bool) (magnitude : Option Binary)
deriving DecidableEq

namespace FloatClass

/-- How many fractions a double-precision number can have. -/
def fractions : Nat := 0x10000000000000

/-- How many exponents it can have; the last one is not for finite numbers. -/
def exponents : Nat := 0x800

/-- Takes a double-precision number apart; `none` is the magnitude of zero. -/
def ofFloat (number : Float) : FloatClass :=
  let bits := number.toBits.toNat
  let negative := exponents * fractions ≤ bits
  let biased : Nat := bits / fractions % exponents
  let fraction : Nat := bits % fractions
  if biased + 1 = exponents then
    if fraction = 0 then .infinite negative else .notANumber
  else if biased = 0 then
    if fraction = 0 then .finite negative none
    else .finite negative (some ⟨fraction, -1074, false⟩)
  else
    .finite negative
      (some ⟨fractions + fraction, (biased : Int) - 1075, fraction = 0 && 1 < biased⟩)

end FloatClass

namespace Binary

def powerOfTwo (exponent : Nat) : Nat := Nat.pow 2 exponent

def powerOfTen (exponent : Nat) : Nat := Nat.pow 10 exponent

/-- A positive fraction. -/
structure Ratio where
  numerator : Nat
  denominator : Nat

/-- A quarter of the distance to the number above. -/
def quarter (number : Binary) : Ratio :=
  let exponent := number.exponent - 2
  ⟨powerOfTwo exponent.toNat, powerOfTwo (-exponent).toNat⟩

/-- How many digits stand before the decimal point; not positive below one tenth. -/
def magnitude (number : Binary) : Int :=
  let unit := number.quarter
  let numerator := 4 * number.significand * unit.numerator
  let whole := numerator / unit.denominator
  let zeros := (List.range 400).takeWhile fun count =>
    decide (numerator * powerOfTen (count + 1) < unit.denominator)
  if 0 < whole then ((Nat.toDigits 10 whole).length : Int) else -(zeros.length : Int)

/-- How to choose between two decimals that are equally near. -/
inductive Tie where
  | up
  | even

/-- The decimal nearest to the number among the multiples of `10 ^ exponent` that
round to it, if there is one. -/
def onGrid (number : Binary) (tie : Tie) (exponent : Int) : Option Decimal :=
  let unit := number.quarter
  let scale := unit.numerator * powerOfTen (-exponent).toNat
  let step := unit.denominator * powerOfTen exponent.toNat
  let center := 4 * number.significand * scale
  let low := (4 * number.significand - if number.closeBelow then 1 else 2) * scale
  let high := (4 * number.significand + 2) * scale
  let closed := number.significand % 2 = 0
  let inside (digits : Nat) : Bool :=
    if closed then low ≤ digits * step && digits * step ≤ high
    else low < digits * step && digits * step < high
  let below := center / step
  let above := below + 1
  match inside below, inside above with
  | false, false => none
  | true, false => some ⟨below, exponent⟩
  | false, true => some ⟨above, exponent⟩
  | true, true =>
      let toBelow := center - below * step
      let toAbove := above * step - center
      let preferAbove : Bool := match tie with
        | .up => toAbove ≤ toBelow
        | .even => toAbove < toBelow || (toAbove = toBelow && below % 2 = 1)
      some ⟨if preferAbove then above else below, exponent⟩

end Binary

namespace Decimal

/-- The same number without zeros at the end of its digits. -/
def strip : Nat → Decimal → Decimal
  | 0, decimal => decimal
  | fuel + 1, decimal =>
      if 0 < decimal.digits && decimal.digits % 10 = 0 then
        strip fuel ⟨decimal.digits / 10, decimal.exponent + 1⟩
      else decimal

/-- The shortest decimal that rounds to a number; 17 digits always suffice. -/
def shortest (tie : Binary.Tie) (number : Binary) : Decimal :=
  let magnitude := number.magnitude
  let found := (List.range 17).findSome? fun count =>
    number.onGrid tie (magnitude - (count + 1 : Nat))
  strip 20 (found.getD ⟨0, 0⟩)

def digitText (decimal : Decimal) : String := toString decimal.digits

def zeros (count : Nat) : String := .ofList (List.replicate count '0')

/-- Without an exponent, however many zeros that takes. -/
def positional (decimal : Decimal) : String :=
  let digits := decimal.digitText
  if 0 ≤ decimal.exponent then digits ++ zeros decimal.exponent.toNat
  else
    let places := (-decimal.exponent).toNat
    if places < digits.length then
      let whole := digits.length - places
      .ofList (digits.toList.take whole) ++ "." ++ .ofList (digits.toList.drop whole)
    else "0." ++ zeros (places - digits.length) ++ digits

/-- One digit before the point, and an exponent with its sign. -/
def scientific (decimal : Decimal) : String :=
  let digits := decimal.digitText.toList
  let exponent := decimal.exponent + digits.length - 1
  let fraction := if digits.length = 1 then "" else "." ++ .ofList (digits.drop 1)
  let sign := if exponent < 0 then "-" else "+"
  .ofList (digits.take 1) ++ fraction ++ "e" ++ sign ++ toString exponent.natAbs

end Decimal

end Chaincode
