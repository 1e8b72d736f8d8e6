import Chaincode.Json.Number
import Chaincode.Text.Escape

namespace Chaincode.Json

/-! The tokens of a JSON text, up to the first place where there is none. -/

inductive Token where
  | openRecord
  | closeRecord
  | openList
  | closeList
  | colon
  | comma
  | null
  | boolean (value : Bool)
  /-- A well-formed number; `none` when it is too great. -/
  | number (value : Option Number)
  /-- A well-formed text; `none` when its escapes hold half a surrogate pair. -/
  | text (value : Option String)
  /-- The rest of the text starts with no token. -/
  | malformed

def isBlank (char : Char) : Bool :=
  char = ' ' || char = '\n' || char = '\t' || char = '\r'

/-- JSON also allows a slash to be escaped. -/
def simpleEscape? (char : Char) : Option Char :=
  if char = '/' then some '/' else Text.escape? char

/-- The UTF-16 units of the characters and escapes up to the closing quote, and what
stands behind it. -/
def readUnits : List Char → Option (List Nat × List Char)
  | [] => none
  | '"' :: rest => some ([], rest)
  | '\\' :: 'u' :: a :: b :: c :: d :: rest =>
      match Text.hexValue? a, Text.hexValue? b, Text.hexValue? c, Text.hexValue? d with
      | some a, some b, some c, some d =>
          (readUnits rest).map fun (units, rest) =>
            ((4096 * a + 256 * b + 16 * c + d) :: units, rest)
      | _, _, _, _ => none
  | '\\' :: char :: rest =>
      match simpleEscape? char with
      | some char => (readUnits rest).map fun (units, rest) => (char.toNat :: units, rest)
      | none => none
  | char :: rest =>
      if char.toNat < 32 || char = '\\' then none
      else
        let code := char.toNat
        let units :=
          if code < 0x10000 then [code]
          else [0xd800 + (code - 0x10000) / 1024, 0xdc00 + (code - 0x10000) % 1024]
        (readUnits rest).map fun (later, rest) => (units ++ later, rest)

/-- Joins the halves of surrogate pairs; a half alone is no character. -/
def ofUnits : List Nat → Option (List Char)
  | [] => some []
  | unit :: rest =>
      if unit < 0xd800 || 0xe000 ≤ unit then (ofUnits rest).map (Char.ofNat unit :: ·)
      else if 0xdc00 ≤ unit then none
      else
        match rest with
        | low :: rest =>
            if 0xdc00 ≤ low && low < 0xe000 then
              (ofUnits rest).map
                (Char.ofNat (0x10000 + 1024 * (unit - 0xd800) + (low - 0xdc00)) :: ·)
            else none
        | [] => none

/-- One token at the front of a text without blanks before it. -/
def readToken : List Char → Option (Token × List Char)
  | '{' :: rest => some (.openRecord, rest)
  | '}' :: rest => some (.closeRecord, rest)
  | '[' :: rest => some (.openList, rest)
  | ']' :: rest => some (.closeList, rest)
  | ':' :: rest => some (.colon, rest)
  | ',' :: rest => some (.comma, rest)
  | 'n' :: 'u' :: 'l' :: 'l' :: rest => some (.null, rest)
  | 't' :: 'r' :: 'u' :: 'e' :: rest => some (.boolean true, rest)
  | 'f' :: 'a' :: 'l' :: 's' :: 'e' :: rest => some (.boolean false, rest)
  | '"' :: rest =>
      (readUnits rest).map fun (units, rest) => (.text ((ofUnits units).map .ofList), rest)
  | chars =>
      (Number.read chars).map fun (parts, rest) => (.number (Number.ofParts parts), rest)

/-- Every token takes at least one character, so `fuel` characters of text need no
more than `fuel` rounds. -/
def tokensWithin : Nat → List Char → List Token
  | 0, _ => []
  | fuel + 1, chars =>
      match chars.dropWhile isBlank with
      | [] => []
      | chars =>
          match readToken chars with
          | none => [.malformed]
          | some (token, rest) => token :: tokensWithin fuel rest

def tokens (text : String) : List Token :=
  let chars := text.toList
  tokensWithin (chars.length + 1) chars

end Chaincode.Json
