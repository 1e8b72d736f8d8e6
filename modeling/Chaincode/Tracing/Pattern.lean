import Chaincode.Decimal.Numeral
import Chaincode.Text.Alphanumeric
import Chaincode.Tracing.Pattern.Brackets

namespace Chaincode.Tracing

/-! Values of fields, as filters give them.

A value is a number or else a pattern of texts.  A pattern has alternatives between
bars, each a sequence of items, groups and sets that question marks, stars and plus
signs repeat; flags in parentheses change how what follows them is read.
-/

namespace Pattern

/-- Parts may not nest deeper. -/
def depthLimit : Nat := 250

inductive Fault where
  /-- The text is no pattern. -/
  | malformed
  /-- The pattern looks for words of any script. -/
  | findsWords
deriving DecidableEq

namespace Fault

def describe : Fault → String
  | .malformed => "error building NFA"
  | .findsWords =>
      "unsupported regex feature for DFAs: cannot build DFAs for regexes with Unicode word " ++
        "boundaries; switch to ASCII word boundaries, or heuristically enable Unicode word " ++
        "boundaries or use a different regex engine"

end Fault

/-- Names begin with a letter or an underscore. -/
def isName : List Char → Bool
  | [] => false
  | first :: rest =>
      (first = '_' || Text.isAlphabetic first) &&
      rest.all fun char =>
        char = '_' || char = '.' || char = '[' || char = ']' || Text.isAlphanumeric char

/-- The flags, and the dash before those that are turned off. -/
def flagChars : List Char := ['i', 'm', 's', 'U', 'u', 'R', 'x', '-']

/-- A flag may be given once; something follows the dash. -/
def areFlags (flags : List Char) : Bool :=
  flags.all flagChars.contains && decide flags.Nodup && flags.getLast? ≠ some '-'

/-- How what follows some flags is read. -/
def Mode.withFlags (mode : Mode) (flags : List Char) : Mode :=
  let turnedOn := flags.takeWhile (· ≠ '-')
  let turned (flag : Char) (before : Bool) : Bool :=
    if turnedOn.contains flag then true else !flags.contains flag && before
  ⟨turned 'x' mode.spaced, turned 'u' mode.unicode, turned 'i' mode.anyCase⟩

/-- What a parenthesis opens: a group, with its name if it has one, or flags. -/
inductive Opening where
  | group (name : Option (List Char)) (mode : Mode)
  | flags (mode : Mode)

/-- A name up to the bracket that ends it. -/
def named? (mode : Mode) (chars : List Char) : Option (Opening × List Char) :=
  let name := chars.takeWhile (· ≠ '>')
  match chars.dropWhile (· ≠ '>') with
  | [] => none
  | _ :: rest => if isName name then some (.group (some name) mode, rest) else none

/-- Flags for the rest of the enclosing group, at least one, or for a group of their own. -/
def flagged? (mode : Mode) (chars : List Char) : Option (Opening × List Char) :=
  let isInside (char : Char) : Bool := char ≠ ':' && char ≠ ')'
  let flags := chars.takeWhile isInside
  if areFlags flags then
    match chars.dropWhile isInside with
    | ':' :: rest => some (.group none (mode.withFlags flags), rest)
    | ')' :: rest => if flags.isEmpty then none else some (.flags (mode.withFlags flags), rest)
    | _ => none
  else none

/-- What the parenthesis before this text opens. -/
def opening? (mode : Mode) (chars : List Char) : Option (Opening × List Char) :=
  match mode.skip chars with
  | '?' :: 'P' :: '<' :: rest => named? mode rest
  | '?' :: '<' :: rest => named? mode rest
  | '?' :: rest => flagged? mode rest
  | rest => some (.group none mode, rest)

/-- A group as far as it is read. -/
structure Group where
  /-- The names that groups of the pattern have so far. -/
  names : List (List Char) := []
  alternatives : List Part := []
  /-- The parts of the last alternative, the last one first; flags are nothing that can
  be repeated. -/
  sequence : List (Option Part) := []

namespace Group

def push (group : Group) (part : Option Part) : Group :=
  { group with sequence := part :: group.sequence }

/-- The last alternative as one part. -/
def last (group : Group) : Part := .join (group.sequence.map (·.getD {}))

/-- The group with its last alternative complete. -/
def next (group : Group) : Group :=
  { group with alternatives := group.last :: group.alternatives, sequence := [] }

def part (group : Group) : Part := .join (group.last :: group.alternatives)

/-- The group with its last part repeated. -/
def repeated? (group : Group) : Option Group :=
  match group.sequence with
  | some part :: rest => some { group with sequence := some (.around [part]) :: rest }
  | _ => none

end Group

/-- What follows a sign of repetition: a question mark belongs to it. -/
def behindRepetition : List Char → List Char
  | '?' :: rest => rest
  | rest => rest

/-- Reads the rest of a group.  What is left is empty or begins with the parenthesis that
closes the group; `fuel` bounds the number of parts. -/
def group? (fuel : Nat) (mode : Mode) (group : Group) (chars : List Char) :
    Option (Group × List Char) :=
  match fuel with
  | 0 => none
  | fuel + 1 =>
      match mode.skip chars with
      | [] => some (group, [])
      | ')' :: rest => some (group, ')' :: rest)
      | '|' :: rest => group? fuel mode group.next rest
      | '(' :: rest =>
          match opening? mode rest with
          | none => none
          | some (.flags mode, rest) => group? fuel mode (group.push none) rest
          | some (.group name inner, rest) =>
              if name.any group.names.contains then none
              else
                match group? fuel inner { names := name.toList ++ group.names } rest with
                | some (nested, ')' :: rest) =>
                    let group := { group with names := nested.names }
                    group? fuel mode (group.push (some (.around [nested.part]))) rest
                | _ => none
      | '[' :: rest =>
          (brackets? mode rest).bind fun (part, rest) =>
            group? fuel mode (group.push (some part)) rest
      | '{' :: _ => none
      | char :: rest =>
          if char = '?' || char = '*' || char = '+' then
            group.repeated?.bind fun group => group? fuel mode group (behindRepetition rest)
          else
            (item? mode (char :: rest)).bind fun (item, rest) =>
              if mode.accepts item then
                group? fuel mode (group.push (some (.ofItem mode item))) rest
              else none

/-- Why a text without braces is no pattern that can be looked for, if so. -/
def fault? (chars : List Char) : Option Fault :=
  match group? (chars.length + 1) {} {} chars with
  | some (group, []) =>
      if depthLimit < group.part.depth then some .malformed
      else if group.part.findsWords then some .findsWords
      else none
  | _ => some .malformed

end Pattern

/-- Whether a text spells a number; it may be infinite, or not a number at all. -/
def spellsNumber (text : List Char) : Bool :=
  let unsigned := match text with
    | '+' :: rest => rest
    | '-' :: rest => rest
    | text => text
  (Numeral.magnitude? unsigned).isSome ||
    ["inf", "infinity", "nan"].contains (Text.asciiLower (.ofList unsigned))

/-- Why a text is no value of a field, if so. -/
def valueFault? (text : List Char) : Option Pattern.Fault :=
  if spellsNumber text then none else Pattern.fault? text

end Chaincode.Tracing
