namespace Chaincode.Text

/-! Escapes in quoted texts. -/

def hexValue? (char : Char) : Option Nat :=
  if '0' ≤ char && char ≤ '9' then some (char.toNat - '0'.toNat)
  else if 'a' ≤ char && char ≤ 'f' then some (char.toNat - 'a'.toNat + 10)
  else if 'A' ≤ char && char ≤ 'F' then some (char.toNat - 'A'.toNat + 10)
  else none

/-- The character whose code point these hexadecimal digits are. -/
def hexChar? (digits : List Char) : Option Char :=
  match digits.mapM hexValue? with
  | none => none
  | some values =>
      let code := values.foldl (fun code value => 16 * code + value) 0
      if code.isValidChar then some (Char.ofNat code) else none

/-- The character that a backslash and one more character stand for. -/
def escape? (char : Char) : Option Char :=
  if char = '"' then some '"'
  else if char = '\\' then some '\\'
  else if char = 'b' then some '\x08'
  else if char = 'f' then some '\x0c'
  else if char = 'n' then some '\n'
  else if char = 'r' then some '\r'
  else if char = 't' then some '\t'
  else none

/-- The tab is the only control that may stand unescaped. -/
def isPlain (char : Char) : Bool := char = '\t' || (32 ≤ char.toNat && char.toNat ≠ 127)

/-- Puts a character in front of a text that was read. -/
def before (char : Char) (read : Option (List Char × List Char)) :
    Option (List Char × List Char) :=
  read.map fun (text, rest) => (char :: text, rest)

/-- A quoted text on one line, up to its closing quote, and what stands behind it. -/
def quotedLine : List Char → Option (List Char × List Char)
  | [] => none
  | '"' :: rest => some ([], rest)
  | '\\' :: 'u' :: a :: b :: c :: d :: rest =>
      (hexChar? [a, b, c, d]).bind fun char => before char (quotedLine rest)
  | '\\' :: 'U' :: a :: b :: c :: d :: e :: f :: g :: h :: rest =>
      (hexChar? [a, b, c, d, e, f, g, h]).bind fun char => before char (quotedLine rest)
  | '\\' :: char :: rest => (escape? char).bind fun char => before char (quotedLine rest)
  | char :: rest =>
      if char ≠ '\\' && isPlain char then before char (quotedLine rest) else none

end Chaincode.Text
