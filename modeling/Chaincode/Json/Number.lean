import Chaincode.Decimal.Shortest

namespace Chaincode.Json

/-! Numbers in JSON texts.

A number without fraction and exponent that fits into 64 bits is an integer.
Any other is a floating-point number: the digits that fit into 64 bits, scaled
by a power of ten in one rounded multiplication or division.
-/

inductive Number where
  | natural (value : Nat)
  /-- The number `-value`, where `value` is positive. -/
  | negative (value : Nat)
  | float (value : Float)

namespace Number

def floatText (value : Float) : String :=
  match FloatClass.ofFloat value with
  | .notANumber => "NaN"
  | .infinite minus => if minus then "-inf" else "inf"
  | .finite minus magnitude =>
      let sign := if minus then "-" else ""
      match magnitude with
      | none => sign ++ "0.0"
      | some binary =>
          let decimal := Decimal.shortest .even binary
          let places := (decimal.digitText.length : Int) + decimal.exponent
          let body :=
            if -5 < places && places ≤ 16 then
              if 0 ≤ decimal.exponent then decimal.positional ++ ".0" else decimal.positional
            else decimal.scientific
          sign ++ body

/-- Multiplies or divides by a power of ten; `none` when the result is too great. -/
def scale (fuel : Nat) (value : Float) (exponent : Int) : Option Float :=
  if exponent.natAbs ≤ 308 then
    let power := Float.ofScientific 1 false exponent.natAbs
    if 0 ≤ exponent then
      let product := value * power
      if product.isInf then none else some product
    else some (value / power)
  else if value == 0 then some value
  else if 0 ≤ exponent then none
  else
    match fuel with
    | 0 => some 0
    | fuel + 1 => scale fuel (value / Float.ofScientific 1 false 308) (exponent + 308)

def signed (minus : Bool) (value : Float) : Float := if minus then -value else value

/-- The greatest exponent that is told apart from greater ones. -/
def exponentLimit : Nat := 0x7fffffff

/-- The number with these digits and this exponent; the sign comes last. -/
def assemble (minus : Bool) (significand : Nat) (exponent : Int) : Option Number :=
  (scale 4 (Float.ofNat significand) exponent).map fun value => .float (signed minus value)

/-- Takes digits while the number they spell fits into 64 bits.  Gives that number,
how many digits it took, and the digits it left. -/
def accumulate (significand taken : Nat) : List Char → Nat × Nat × List Char
  | [] => (significand, taken, [])
  | digit :: rest =>
      let next := 10 * significand + (digit.toNat - '0'.toNat)
      if next < UInt64.size then accumulate next (taken + 1) rest
      else (significand, taken, digit :: rest)

/-- The parts of a number as they are written. -/
structure Parts where
  minus : Bool
  whole : List Char
  fraction : Option (List Char)
  /-- The sign and the digits of the exponent. -/
  exponent : Option (Bool × List Char)

def digitsValue (digits : List Char) : Nat :=
  digits.foldl (fun value digit => 10 * value + (digit.toNat - '0'.toNat)) 0

/-- The value of a number; `none` when it is too great for a floating-point number. -/
def ofParts (parts : Parts) : Option Number :=
  let (significand, _, long) := accumulate 0 0 parts.whole
  match parts.fraction, parts.exponent, long with
  | none, none, [] =>
      if !parts.minus then some (.natural significand)
      else if 0 < significand && significand ≤ 0x8000000000000000 then some (.negative significand)
      else some (.float (-(Float.ofNat significand)))
  | fraction, exponent, _ =>
      let (significand, taken, _) :=
        match fraction with
        | none => (significand, 0, [])
        | some digits => accumulate significand 0 digits
      let start : Int := long.length - taken
      match exponent with
      | none => assemble parts.minus significand start
      | some (down, digits) =>
          let value := digitsValue digits
          if exponentLimit < value then
            if significand ≠ 0 && !down then none
            else some (.float (signed parts.minus 0))
          else assemble parts.minus significand (if down then start - value else start + value)

/-- Splits digits off. -/
def digits (chars : List Char) : List Char × List Char :=
  (chars.takeWhile Char.isDigit, chars.dropWhile Char.isDigit)

def readExponent : List Char → Option (Option (Bool × List Char) × List Char)
  | marker :: rest =>
      if marker = 'e' || marker = 'E' then
        let down := rest.head? = some '-'
        let rest := if down || rest.head? = some '+' then rest.tail else rest
        match digits rest with
        | ([], _) => none
        | (value, rest) => some (some (down, value), rest)
      else some (none, marker :: rest)
  | [] => some (none, [])

def readFraction : List Char → Option (Option (List Char) × List Char)
  | '.' :: rest =>
      match digits rest with
      | ([], _) => none
      | (value, rest) => some (some value, rest)
  | rest => some (none, rest)

/-- Reads a number at the front of a text: a whole part without superfluous zeros, a
fraction, and an exponent. -/
def read (chars : List Char) : Option (Parts × List Char) :=
  let minus := chars.head? = some '-'
  let chars := if minus then chars.tail else chars
  match digits chars with
  | ([], _) => none
  | ('0' :: _ :: _, _) => none
  | (whole, rest) =>
      (readFraction rest).bind fun (fraction, rest) =>
        (readExponent rest).map fun (exponent, rest) =>
          (⟨minus, whole, fraction, exponent⟩, rest)

end Number

end Chaincode.Json
