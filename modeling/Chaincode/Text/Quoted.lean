import Chaincode.Text.GraphemeExtend
import Chaincode.Text.Unprintable

namespace Chaincode.Text

/-! Texts and lists of texts as a reader of a log can tell them apart.

A quoted text stands between double quotes.  Quotes, backslashes, line ends,
tabs and NUL have two-character escapes; a character without a picture, or one
that would join the character before it, is given by its code point.
-/

def hexDigits (number : Nat) : List Char := Nat.toDigits 16 number

/-- A character given by its code point in braces. -/
def codePointEscape (char : Char) : List Char :=
  '\\' :: 'u' :: '{' :: hexDigits char.toNat ++ ['}']

/-- How one character of a text stands between the quotes. -/
def quotedChar (char : Char) : List Char :=
  if char = '"' then ['\\', '"']
  else if char = '\\' then ['\\', '\\']
  else if char = '\n' then ['\\', 'n']
  else if char = '\r' then ['\\', 'r']
  else if char = '\t' then ['\\', 't']
  else if char = '\x00' then ['\\', '0']
  else if isPrintable char && !extendsGrapheme char then [char]
  else codePointEscape char

def quotedChars (text : List Char) : List Char :=
  '"' :: text.flatMap quotedChar ++ ['"']

def quoted (text : String) : String := .ofList (quotedChars text.toList)

/-- Items separated by a comma and a blank, between brackets. -/
def bracketed (items : List String) : String := "[" ++ ", ".intercalate items ++ "]"

def quotedList (texts : List String) : String := bracketed (texts.map quoted)

end Chaincode.Text
