import Chaincode.Text.Blank
import Chaincode.Text.Escape

namespace Chaincode.Tracing.Pattern

/-! The smallest items of a pattern, and how they may be written.

Patterns describe texts whose characters are known one by one, without classes of
characters beyond ASCII: an item that would need such a class, or that would match
a part of a character only, is not accepted.
-/

/-- How the items that follow are read. -/
structure Mode where
  /-- Blanks and comments may stand between items. -/
  spaced : Bool := false
  /-- Items stand for characters of any script, not only for ASCII. -/
  unicode : Bool := true
  /-- Capital and small letters are the same. -/
  anyCase : Bool := false
deriving DecidableEq

inductive Item where
  /-- A character; `coded` if it was given by two hexadecimal digits. -/
  | literal (char : Char) (coded : Bool)
  /-- Any character but a line end. -/
  | any
  /-- The digits, the blanks or the letters of words, or all other characters. -/
  | family (negated : Bool)
  /-- An end of the text or of a line. -/
  | lineEdge
  /-- The beginning or end of a word, or where neither is. -/
  | wordEdge
deriving DecidableEq

/-- What follows blanks and comments.  A comment begins with a number sign and ends with
its line. -/
def behindBlanks (commented : Bool) : List Char → List Char
  | [] => []
  | char :: rest =>
      if commented then behindBlanks (char ≠ '\n') rest
      else if char = '#' then behindBlanks true rest
      else if Text.isBlank char then behindBlanks false rest
      else char :: rest

namespace Mode

def skip (mode : Mode) (chars : List Char) : List Char :=
  if mode.spaced then behindBlanks false chars else chars

/-- The next character that counts.  The look ahead passes over blanks and one number
sign, but over no comment; if it finds nothing, the very next character counts. -/
def peek? (mode : Mode) (chars : List Char) : Option Char :=
  if mode.spaced then
    let ahead := match chars.dropWhile Text.isBlank with
      | '#' :: rest => rest.dropWhile Text.isBlank
      | ahead => ahead
    ahead.head?.or chars.head?
  else chars.head?

/-- A character stands for itself; to match it in any case, it has to be ASCII and
known to be so. -/
def acceptsLiteral (mode : Mode) (char : Char) (coded : Bool) : Bool :=
  if mode.unicode then !mode.anyCase else !coded || char.toNat < 0x80

/-- Whether an item may stand outside of brackets. -/
def accepts (mode : Mode) : Item → Bool
  | .literal char coded => mode.acceptsLiteral char coded
  | .any => mode.unicode
  | .family negated => !mode.unicode && !negated
  | .lineEdge => true
  | .wordEdge => true

/-- Whether an item may be a member of brackets. -/
def acceptsMember (mode : Mode) : Item → Bool
  | .literal char _ => if mode.unicode then !mode.anyCase else char.toNat < 0x80
  | .family negated => !mode.unicode && !negated
  | _ => false

end Mode

/-- So many hexadecimal digits. -/
def hexDigits? (mode : Mode) : Nat → List Char → Option (List Char × List Char)
  | 0, chars => some ([], chars)
  | count + 1, chars =>
      match mode.skip chars with
      | [] => none
      | digit :: rest =>
          if (Text.hexValue? digit).isSome then
            (hexDigits? mode count rest).map fun (digits, rest) => (digit :: digits, rest)
          else none

/-- A character by its code point. -/
def codePoint? (mode : Mode) (count : Nat) (chars : List Char) : Option (Item × List Char) :=
  (hexDigits? mode count chars).bind fun (digits, rest) =>
    (Text.hexChar? digits).map fun char => (.literal char (count = 2), rest)

/-- The item that a backslash and one more character stand for. -/
def escaped? (char : Char) : Option Item :=
  if char = 'a' then some (.literal '\x07' false)
  else if char = 'f' then some (.literal '\x0c' false)
  else if char = 't' then some (.literal '\t' false)
  else if char = 'n' then some (.literal '\n' false)
  else if char = 'r' then some (.literal '\r' false)
  else if char = 'v' then some (.literal '\x0b' false)
  else if char = 'A' || char = 'z' then some .lineEdge
  else if char = 'b' || char = 'B' || char = '<' || char = '>' then some .wordEdge
  else if char = 'd' || char = 's' || char = 'w' then some (.family false)
  else if char = 'D' || char = 'S' || char = 'W' then some (.family true)
  else if char.toNat < 0x80 && !char.isAlphanum then some (.literal char false)
  else none

/-- The item behind a backslash. -/
def escape? (mode : Mode) : List Char → Option (Item × List Char)
  | [] => none
  | 'x' :: rest => codePoint? mode 2 rest
  | 'u' :: rest => codePoint? mode 4 rest
  | 'U' :: rest => codePoint? mode 8 rest
  | char :: rest => (escaped? char).map fun item => (item, rest)

/-- An item outside of brackets. -/
def item? (mode : Mode) : List Char → Option (Item × List Char)
  | [] => none
  | '\\' :: rest => escape? mode rest
  | '.' :: rest => some (.any, rest)
  | '^' :: rest => some (.lineEdge, rest)
  | '$' :: rest => some (.lineEdge, rest)
  | char :: rest => some (.literal char false, rest)

/-- An item between brackets. -/
def member? (mode : Mode) : List Char → Option (Item × List Char)
  | [] => none
  | '\\' :: rest => escape? mode rest
  | char :: rest => some (.literal char false, rest)

/-- What matters of a part of a pattern once it is read: how deep it nests, and whether
it looks for words of any script. -/
structure Part where
  depth : Nat := 0
  findsWords : Bool := false
deriving DecidableEq

namespace Part

/-- Parts in one that contains them. -/
def around (parts : List Part) : Part :=
  ⟨(parts.map depth).foldl max 0 + 1, parts.any findsWords⟩

/-- Parts side by side; a single one needs nothing around it. -/
def join : List Part → Part
  | [] => {}
  | [part] => part
  | parts => around parts

def ofItem (mode : Mode) (item : Item) : Part :=
  ⟨0, item = .wordEdge && mode.unicode⟩

end Part

end Chaincode.Tracing.Pattern
