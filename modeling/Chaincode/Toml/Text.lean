import Chaincode.Text.Escape

namespace Chaincode.Toml

open Text (before escape? hexChar? isPlain quotedLine)

/-! Texts, comments and blanks of a TOML document.

Every function here takes something off the front of a list of characters and
gives what stands behind it; `none` means that the document is in error.
-/

def isBlank (char : Char) : Bool := char = ' ' || char = '\t'

def skipBlanks (chars : List Char) : List Char := chars.dropWhile isBlank

/-- What stands behind a line end, if there is one in front. -/
def lineEnd? : List Char → Option (List Char)
  | '\n' :: rest => some rest
  | '\r' :: '\n' :: rest => some rest
  | _ => none

/-- Skips a comment, if there is one, up to its line end. -/
def skipComment : List Char → List Char
  | '#' :: rest => rest.dropWhile isPlain
  | rest => rest

/-- The end of a line: blanks, a comment, and a line end or the end of the document. -/
def finishLine (chars : List Char) : Option (List Char) :=
  match skipComment (skipBlanks chars) with
  | [] => some []
  | rest => lineEnd? rest

/-- Skips blanks, comments and line ends between the items of a list. -/
def skipLines : Nat → List Char → List Char
  | 0, chars => chars
  | fuel + 1, chars =>
      let rest := skipComment (skipBlanks chars)
      match lineEnd? rest with
      | some rest => skipLines fuel rest
      | none => rest

/-- A text on one line without escapes, up to its closing single quote. -/
def literalText : List Char → Option (List Char × List Char)
  | [] => none
  | char :: rest =>
      if char = '\x27' then some ([], rest)
      else if isPlain char then before char (literalText rest)
      else none

/-- Where a text of several lines stands after a backslash. -/
inductive Folding where
  | none
  /-- Only blanks may precede the line end. -/
  | open
  /-- Blanks and line ends are left out. -/
  | closed
deriving DecidableEq

/-- A text of several lines, up to its three closing double quotes.  One or two
quotes right before them belong to the text. -/
def basicLines : Folding → List Char → Option (List Char × List Char)
  | _, [] => none
  | .open, '\n' :: rest => basicLines .closed rest
  | .open, '\r' :: '\n' :: rest => basicLines .closed rest
  | .open, char :: rest => if isBlank char then basicLines .open rest else none
  | .closed, '\n' :: rest => basicLines .closed rest
  | .closed, '\r' :: '\n' :: rest => basicLines .closed rest
  | .closed, ' ' :: rest => basicLines .closed rest
  | .closed, '\t' :: rest => basicLines .closed rest
  | _, '"' :: '"' :: '"' :: '"' :: '"' :: rest => some (['"', '"'], rest)
  | _, '"' :: '"' :: '"' :: '"' :: rest => some (['"'], rest)
  | _, '"' :: '"' :: '"' :: rest => some ([], rest)
  | _, '\n' :: rest => before '\n' (basicLines .none rest)
  | _, '\r' :: '\n' :: rest => before '\n' (basicLines .none rest)
  | _, '\\' :: 'u' :: a :: b :: c :: d :: rest =>
      (hexChar? [a, b, c, d]).bind fun char => before char (basicLines .none rest)
  | _, '\\' :: 'U' :: a :: b :: c :: d :: e :: f :: g :: h :: rest =>
      (hexChar? [a, b, c, d, e, f, g, h]).bind fun char => before char (basicLines .none rest)
  | _, '\\' :: char :: rest =>
      match escape? char with
      | some char => before char (basicLines .none rest)
      | none =>
          if char = '\n' then basicLines .closed rest
          else if isBlank char || (char = '\r' && rest.head? = some '\n') then
            basicLines .open rest
          else none
  | _, char :: rest =>
      if char ≠ '\\' && isPlain char then before char (basicLines .none rest) else none

/-- A text of several lines without escapes, up to its three closing single quotes. -/
def literalLines : List Char → Option (List Char × List Char)
  | [] => none
  | '\x27' :: '\x27' :: '\x27' :: '\x27' :: '\x27' :: rest => some (['\x27', '\x27'], rest)
  | '\x27' :: '\x27' :: '\x27' :: '\x27' :: rest => some (['\x27'], rest)
  | '\x27' :: '\x27' :: '\x27' :: rest => some ([], rest)
  | '\n' :: rest => before '\n' (literalLines rest)
  | '\r' :: '\n' :: rest => before '\n' (literalLines rest)
  | char :: rest => if isPlain char then before char (literalLines rest) else none

/-- A line end right after the opening quotes is no part of the text. -/
def dropLineEnd (chars : List Char) : List Char := (lineEnd? chars).getD chars

/-- A text in any of its four forms. -/
def text? : List Char → Option (List Char × List Char)
  | '"' :: '"' :: '"' :: rest => basicLines .none (dropLineEnd rest)
  | '"' :: rest => quotedLine rest
  | '\x27' :: '\x27' :: '\x27' :: rest => literalLines (dropLineEnd rest)
  | '\x27' :: rest => literalText rest
  | _ => none

def isKeyChar (char : Char) : Bool := char.isAlphanum || char = '_' || char = '-'

/-- One part of a key: bare, or a text on one line. -/
def keyPart? : List Char → Option (String × List Char)
  | '"' :: rest => (quotedLine rest).map fun (text, rest) => (.ofList text, rest)
  | '\x27' :: rest => (literalText rest).map fun (text, rest) => (.ofList text, rest)
  | chars =>
      match chars.takeWhile isKeyChar with
      | [] => none
      | part => some (.ofList part, chars.dropWhile isKeyChar)

/-- A key: parts with points between them.  Blanks may surround each part. -/
def key? : Nat → List Char → Option (List String × List Char)
  | 0, _ => none
  | fuel + 1, chars =>
      (keyPart? (skipBlanks chars)).bind fun (part, rest) =>
        match skipBlanks rest with
        | '.' :: rest => (key? fuel rest).map fun (parts, rest) => (part :: parts, rest)
        | rest => some ([part], rest)

end Chaincode.Toml
