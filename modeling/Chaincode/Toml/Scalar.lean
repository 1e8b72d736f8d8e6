import Chaincode.Decimal.Numeral
import Chaincode.Settings.Value
import Chaincode.Toml.Text

namespace Chaincode.Toml

open Settings (Value)
open Text (before hexValue?)

/-! Numbers, dates, times and truth values of a TOML document. -/

/-- The digits after the first; a single underscore may stand before each. -/
def moreDigits (isDigit : Char → Bool) : List Char → List Char × List Char
  | '_' :: char :: rest =>
      if isDigit char then
        let (digits, rest) := moreDigits isDigit rest
        (char :: digits, rest)
      else ([], '_' :: char :: rest)
  | char :: rest =>
      if isDigit char then
        let (digits, rest) := moreDigits isDigit rest
        (char :: digits, rest)
      else ([], char :: rest)
  | [] => ([], [])

/-- At least one digit; underscores may stand between digits and are left out. -/
def digits (isDigit : Char → Bool) : List Char → Option (List Char × List Char)
  | [] => none
  | char :: rest =>
      if isDigit char then
        let (digits, rest) := moreDigits isDigit rest
        some (char :: digits, rest)
      else none

/-- Digits without a superfluous zero in front. -/
def wholeDigits : List Char → Option (List Char × List Char)
  | '0' :: rest => some (['0'], rest)
  | chars => digits Char.isDigit chars

/-- The sign in front of a number, if there is one. -/
def sign : List Char → List Char × List Char
  | '+' :: rest => ([], rest)
  | '-' :: rest => (['-'], rest)
  | rest => ([], rest)

def isOctal (char : Char) : Bool := '0' ≤ char && char < '8'

def isBinary (char : Char) : Bool := char = '0' || char = '1'

/-- Integers have 64 bits, one of them for the sign. -/
def inRange (number : Int) : Option Int :=
  if -0x8000000000000000 ≤ number && number < 0x8000000000000000 then some number else none

/-- Digits of a base other than ten. -/
def based (base : Nat) (isDigit : Char → Bool) (chars : List Char) : Option (Value × List Char) :=
  (digits isDigit chars).bind fun (digits, rest) =>
    let number := digits.foldl (fun number digit => base * number + (hexValue? digit).getD 0) 0
    (inRange number).map fun number => (.integer number, rest)

def integer? : List Char → Option (Value × List Char)
  | '0' :: 'x' :: rest => based 16 (fun char => (hexValue? char).isSome) rest
  | '0' :: 'o' :: rest => based 8 isOctal rest
  | '0' :: 'b' :: rest => based 2 isBinary rest
  | chars =>
      let (minus, rest) := sign chars
      (wholeDigits rest).bind fun (digits, rest) =>
        (Numeral.integer? (minus ++ digits)).bind fun number =>
          (inRange number).map fun number => (.integer number, rest)

/-- The exponent of a number with its marker, if there is one. -/
def exponent : List Char → Option (List Char × List Char)
  | marker :: rest =>
      if marker = 'e' || marker = 'E' then
        let (minus, rest) := sign rest
        (digits Char.isDigit rest).map fun (digits, rest) => ('e' :: minus ++ digits, rest)
      else some ([], marker :: rest)
  | [] => some ([], [])

/-- The fraction of a number with its point, if there is one. -/
def fraction : List Char → Option (List Char × List Char)
  | '.' :: rest => (digits Char.isDigit rest).map fun (digits, rest) => ('.' :: digits, rest)
  | rest => some ([], rest)

/-- A number with a fraction, an exponent or both. A number too great is an error. -/
def float? (chars : List Char) : Option (Value × List Char) :=
  let (minus, rest) := sign chars
  match rest with
  | 'i' :: 'n' :: 'f' :: rest =>
      some (.float (if minus.isEmpty then 1.0 / 0.0 else -1.0 / 0.0), rest)
  | 'n' :: 'a' :: 'n' :: rest => some (.float (0.0 / 0.0), rest)
  | _ =>
      (wholeDigits rest).bind fun (whole, rest) =>
        (fraction rest).bind fun (fraction, rest) =>
          (exponent rest).bind fun (exponent, rest) =>
            if fraction.isEmpty && exponent.isEmpty then none
            else
              (Numeral.float? (minus ++ whole ++ fraction ++ exponent)).bind fun number =>
                if number.isInf && minus.isEmpty then none else some (.float number, rest)

/-- Exactly `count` digits. -/
def fixedDigits : Nat → List Char → Option (List Char × List Char)
  | 0, rest => some ([], rest)
  | count + 1, char :: rest =>
      if char.isDigit then before char (fixedDigits count rest) else none
  | _ + 1, [] => none

/-- Two digits that spell a number from `low` to `high`. -/
def twoDigits (low high : Nat) (chars : List Char) : Option (List Char × List Char) :=
  (fixedDigits 2 chars).bind fun (digits, rest) =>
    let number := Numeral.value digits
    if low ≤ number && number ≤ high then some (digits, rest) else none

def literal (char : Char) : List Char → Option (List Char × List Char)
  | first :: rest => if first = char then some ([char], rest) else none
  | [] => none

/-- Two pieces one after the other. -/
def followedBy (first second : List Char → Option (List Char × List Char)) :
    List Char → Option (List Char × List Char) := fun chars =>
  (first chars).bind fun (piece, rest) =>
    (second rest).map fun (next, rest) => (piece ++ next, rest)

/-- A piece that may be missing. -/
def optionally (piece : List Char → Option (List Char × List Char)) :
    List Char → Option (List Char × List Char) := fun chars =>
  (piece chars).or (some ([], chars))

def daysIn (year month : Nat) : Nat :=
  let leap := year % 4 = 0 && (year % 100 ≠ 0 || year % 400 = 0)
  if month = 2 then if leap then 29 else 28
  else if month = 4 || month = 6 || month = 9 || month = 11 then 30
  else 31

def date (chars : List Char) : Option (List Char × List Char) :=
  (fixedDigits 4 chars).bind fun (year, rest) =>
    (followedBy (literal '-') (twoDigits 1 12) rest).bind fun (month, rest) =>
      let days := daysIn (Numeral.value year) (Numeral.value (month.drop 1))
      (followedBy (literal '-') (twoDigits 1 days) rest).map fun (day, rest) =>
        (year ++ month ++ day, rest)

/-- A point and any number of digits. -/
def subseconds : List Char → Option (List Char × List Char)
  | '.' :: rest =>
      match rest.takeWhile Char.isDigit with
      | [] => none
      | digits => some ('.' :: digits, rest.dropWhile Char.isDigit)
  | _ => none

def time : List Char → Option (List Char × List Char) :=
  followedBy (twoDigits 0 23) (followedBy (literal ':') (followedBy (twoDigits 0 59)
    (followedBy (literal ':') (followedBy (twoDigits 0 60) (optionally subseconds)))))

def offset : List Char → Option (List Char × List Char)
  | 'Z' :: rest => some (['Z'], rest)
  | 'z' :: rest => some (['z'], rest)
  | first :: rest =>
      if first = '+' || first = '-' then
        before first (followedBy (twoDigits 0 23)
          (followedBy (literal ':') (twoDigits 0 59)) rest)
      else none
  | [] => none

def dateDelimiter : List Char → Option (List Char × List Char)
  | first :: rest =>
      if first = 'T' || first = 't' || first = ' ' then some ([first], rest) else none
  | [] => none

/-- A date, a time, or both; only both together may have an offset. -/
def moment? (chars : List Char) : Option (Value × List Char) :=
  let clock := followedBy dateDelimiter (followedBy time (optionally offset))
  ((followedBy date (optionally clock) chars).or (time chars)).map fun (text, rest) =>
    (.moment (.ofList text), rest)

/-- A value that is neither a text nor holds others. -/
def scalar? : List Char → Option (Value × List Char)
  | 't' :: 'r' :: 'u' :: 'e' :: rest => some (.boolean true, rest)
  | 'f' :: 'a' :: 'l' :: 's' :: 'e' :: rest => some (.boolean false, rest)
  | chars => (moment? chars).or ((float? chars).or (integer? chars))

end Chaincode.Toml
