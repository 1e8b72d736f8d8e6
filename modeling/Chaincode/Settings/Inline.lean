import Chaincode.Decimal.Numeral
import Chaincode.Settings.Value
import Chaincode.Text.Blank
import Chaincode.Text.Escape

namespace Chaincode.Settings

/-! Typed values in the text of an environment variable.

The text may spell a truth value, a number, a quoted text, a quoted character, a
list or a table.  Any other text, also one in which such a spelling is not
complete or something follows it, stands for itself.
-/

namespace Inline

def isBlank (char : Char) : Bool :=
  char = ' ' || char = '\t' || char = '\n' || char = '\x0c' || char = '\r'

def skipBlanks (chars : List Char) : List Char := chars.dropWhile isBlank

/-- These characters end a bare value. -/
def isSeparator (char : Char) : Bool :=
  char = ',' || char = '{' || char = '}' || char = '[' || char = ']'

def isKeyChar (char : Char) : Bool := char.isAlphanum || char = '_' || char = '-'

/-- The value of a bare text: a number if it spells one. -/
def bare (text : List Char) : Value :=
  let float := if text.contains '.' then Numeral.float? text else none
  match float with
  | some number => .float number
  | none =>
      match (Numeral.natural? text).filter (· < UInt64.size) with
      | some number => .natural number
      | none =>
          match (Numeral.integer? text).filter fun number =>
              -0x8000000000000000 ≤ number && number < 0x8000000000000000 with
          | some number => .integer number
          | none => .text (.ofList text)

/-- The first bytes of a text, unless they end within a character or are more than it has. -/
def firstBytes : Nat → List Char → Option (List Char)
  | 0, _ => some []
  | _ + 1, [] => none
  | limit + 1, char :: rest =>
      if char.utf8Size ≤ limit + 1 then
        (firstBytes (limit + 1 - char.utf8Size) rest).map (char :: ·)
      else none

/-- A quoted text behind its opening quote, and what stands behind it.  Of what precedes
the first escape only as many bytes are kept as it has characters; a text without
escapes is kept as it is.

Where those bytes end within a character there is no such text, and what loads the settings
panics.  No value is read then. -/
def quoted? (chars : List Char) : Option (List Char × List Char) :=
  (Text.quotedLine chars).bind fun (text, rest) =>
    let unescaped := (chars.takeWhile fun char => char ≠ '"' && char ≠ '\\').length
    match chars[unescaped]? with
    | some '\\' =>
        (firstBytes unescaped text).map fun front => (front ++ text.drop unescaped, rest)
    | _ => some (text, rest)

def key? (chars : List Char) : Option (String × List Char) :=
  let read := match chars with
    | '"' :: rest => quoted? rest
    | chars =>
        match chars.takeWhile isKeyChar with
        | [] => none
        | key => some (key, chars.dropWhile isKeyChar)
  read.map fun (key, rest) => (.ofList key, rest)

mutual

/-- A value with the blanks around it; `fuel` bounds how deep values nest and how many
there are. -/
def value? (fuel : Nat) (chars : List Char) : Option (Value × List Char) :=
  match fuel with
  | 0 => none
  | fuel + 1 =>
      let read : Option (Value × List Char) :=
        match skipBlanks chars with
        | 't' :: 'r' :: 'u' :: 'e' :: rest => some (.boolean true, rest)
        | 'f' :: 'a' :: 'l' :: 's' :: 'e' :: rest => some (.boolean false, rest)
        | '{' :: '}' :: rest => some (.table [], rest)
        | '{' :: rest => (pairs? fuel rest).map fun (entries, rest) => (.table entries, rest)
        | '[' :: ']' :: rest => some (.list [], rest)
        | '[' :: rest => (items? fuel rest).map fun (items, rest) => (.list items, rest)
        | '"' :: rest => (quoted? rest).map fun (text, rest) => (.text (.ofList text), rest)
        | '\x27' :: char :: '\x27' :: rest => some (.character char, rest)
        | '\x27' :: _ => none
        | chars =>
            some (bare (Text.trim (chars.takeWhile (!isSeparator ·))),
              chars.dropWhile (!isSeparator ·))
      read.map fun (value, rest) => (value, skipBlanks rest)

/-- The items of a list up to its closing bracket, at least one. -/
def items? (fuel : Nat) (chars : List Char) : Option (List Value × List Char) :=
  match fuel with
  | 0 => none
  | fuel + 1 =>
      (value? fuel chars).bind fun (value, rest) =>
        match rest with
        | ',' :: ']' :: rest => some ([value], rest)
        | ',' :: rest => (items? fuel rest).map fun (values, rest) => (value :: values, rest)
        | ']' :: rest => some ([value], rest)
        | _ => none

/-- The entries of a table up to its closing brace, at least one. -/
def pairs? (fuel : Nat) (chars : List Char) : Option (List (String × Value) × List Char) :=
  match fuel with
  | 0 => none
  | fuel + 1 =>
      (key? (skipBlanks chars)).bind fun (key, rest) =>
        match skipBlanks rest with
        | '=' :: rest =>
            (value? fuel rest).bind fun (value, rest) =>
              match rest with
              | ',' :: '}' :: rest => some ([(key, value)], rest)
              | ',' :: rest =>
                  (pairs? fuel rest).map fun (entries, rest) =>
                    (if (entries.lookup key).isSome then entries else putEntry key value entries,
                      rest)
              | '}' :: rest => some ([(key, value)], rest)
              | _ => none
        | _ => none

end

/-- The value that a whole text stands for. -/
def parse (text : String) : Value :=
  let chars := text.toList
  match value? (2 * chars.length + 2) chars with
  | some (value, []) => value
  | _ => .text text

end Inline

end Chaincode.Settings
