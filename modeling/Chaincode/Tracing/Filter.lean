import Chaincode.Text.Alphanumeric
import Chaincode.Text.Blank
import Chaincode.Text.Utf8
import Chaincode.Decimal.Numeral
import Chaincode.Tracing.Event
import Chaincode.Tracing.Pattern

namespace Chaincode.Tracing

/-! Which events are shown.

A filter is written as directives with commas between them.  A directive names a
level, a target, or both with an equals sign between; it may also name a span and
fields in brackets.  Of the directives that apply to an event the most specific
one decides: the one with the longest target, then the one with most fields.
-/

/-- How much of a target is shown: nothing, or events up to a rank. -/
abbrev Verbosity := Nat

namespace Verbosity

def names : List (String × Verbosity) :=
  [("off", 0), ("error", 1), ("warn", 2), ("info", 3), ("debug", 4), ("trace", 5)]

/-- A level by its name in any case, or by its number. -/
def ofText? (text : String) : Option Verbosity :=
  match Numeral.natural? text.toList with
  | some number => if number ≤ 5 then some number else none
  | none => names.lookup (Text.asciiLower text)

end Verbosity

/-- A field that an event must have; with a value it can only match inside spans. -/
structure FieldMatch where
  name : String
  hasValue : Bool
deriving DecidableEq

structure Directive where
  target : Option String := none
  span : Option String := none
  fields : List FieldMatch := []
  verbosity : Verbosity := 5
deriving DecidableEq

inductive FilterError where
  | invalidDirective
  | invalidLevel
  | invalidField (fault : Pattern.Fault)
deriving DecidableEq

namespace FilterError

def describe : FilterError → String
  | .invalidDirective => "invalid filter directive"
  | .invalidLevel =>
      "error parsing level filter: expected one of \"off\", \"error\", \"warn\", \"info\", " ++
        "\"debug\", \"trace\", or a number 0-5"
  | .invalidField fault => "invalid field filter: " ++ fault.describe

end FilterError

namespace Directive

/-- How far a directive has been read.  Positions count the bytes before them. -/
inductive Scan where
  | start
  | word (start : Nat)
  | span (start : Nat)
  | field (start : Nat)
  | fields
  | bracketed
  | level (start : Nat)
deriving DecidableEq

/-- The bytes of a text from one position to another. -/
def slice (bytes : Bytes) (first last : Nat) : Except FilterError String :=
  match Text.Utf8.decode ((bytes.take last).drop first) with
  | .ok text => .ok text
  | .error _ => .error .invalidDirective

/-- A field's name and, behind an equals sign, its value; what follows another equals
sign does not count. -/
def fieldMatch (text : String) : Except FilterError FieldMatch :=
  let chars := text.toList
  let name := String.ofList (chars.takeWhile (· ≠ '='))
  match chars.dropWhile (· ≠ '=') with
  | [] => .ok ⟨name, false⟩
  | _ :: rest =>
      match valueFault? (rest.takeWhile (· ≠ '=')) with
      | none => .ok ⟨name, true⟩
      | some fault => .error (.invalidField fault)

def addField (directive : Directive) (text : String) : Except FilterError Directive :=
  if text = "" then .error .invalidDirective
  else
    (fieldMatch text).map fun field =>
      { directive with fields := directive.fields ++ [field] }

def setLevel (directive : Directive) (text : String) : Except FilterError Directive :=
  if text = "" then .ok { directive with verbosity := 5 }
  else
    match Verbosity.ofText? text with
    | some verbosity => .ok { directive with verbosity }
    | none => .error .invalidLevel

def beginsWord (char : Char) : Bool :=
  char = '-' || char = ':' || char = '_' || Text.isAlphanumeric char

/-- Reads one character at a position. -/
def advance (bytes : Bytes) (position : Nat) (char : Char) (scan : Scan) (directive : Directive) :
    Except FilterError (Scan × Directive) := do
  match scan, char with
  | .start, '[' => pure (.span (position + 1), directive)
  | .start, char =>
      if beginsWord char then pure (.word position, directive) else .error .invalidDirective
  | .word start, '=' =>
      let target ← slice bytes start position
      pure (.level (position + 1), { directive with target := some target })
  | .word start, '[' =>
      let target ← slice bytes start position
      pure (.span (position + 1), { directive with target := some target })
  | .bracketed, '=' => pure (.level (position + 1), directive)
  | .span start, ']' =>
      let name ← slice bytes start position
      pure (.bracketed, { directive with span := some name })
  | .span start, '{' =>
      let name ← slice bytes start position
      pure (.field (position + 1),
        { directive with span := if name = "" then none else some name })
  | .field start, '}' =>
      let text ← slice bytes start position
      pure (.fields, ← directive.addField text)
  | .fields, ']' => pure (.bracketed, directive)
  | .word start, _ => pure (.word start, directive)
  | .span start, _ => pure (.span start, directive)
  | .field start, _ => pure (.field start, directive)
  | .level start, _ => pure (.level start, directive)
  | _, _ => .error .invalidDirective

def advanceAll (bytes : Bytes) : Nat → List Char → Scan → Directive →
    Except FilterError (Scan × Directive)
  | _, [], scan, directive => .ok (scan, directive)
  | position, char :: rest, scan, directive =>
      (advance bytes position char scan directive).bind fun (scan, directive) =>
        advanceAll bytes (position + (Text.Utf8.encodeChar char).length) rest scan directive

/-- Reads a directive.  Its characters are those without the blanks around them, but
positions count from the very start, so a blank in front of a word belongs to it. -/
def parse (text : String) : Except FilterError Directive := do
  let bytes := Text.Utf8.encode text
  let (scan, directive) ← advanceAll bytes 0 (Text.trim text.toList) .start {}
  match scan with
  | .word start =>
      let word ← slice bytes start bytes.length
      match Verbosity.ofText? word with
      | some verbosity => pure { directive with verbosity }
      | none => pure { directive with target := some word }
  | .level start => directive.setLevel (← slice bytes start bytes.length)
  | .bracketed => pure directive
  | _ => .error .invalidDirective

/-- A directive that names a span, or a field with its value, concerns spans only. -/
def concernsSpans (directive : Directive) : Bool :=
  directive.span.isSome || directive.fields.any FieldMatch.hasValue

/-- A greater number for a more specific directive: the length of its target in bytes
comes first. -/
def specificity (directive : Directive) : Nat × Nat :=
  (match directive.target with
    | none => 0
    | some target => (Text.Utf8.encode target).length + 1,
   directive.fields.length)

/-- Directives of one specificity are told apart by the names of their fields. -/
def moreSpecific (left right : Directive) : Bool :=
  if left.specificity.1 ≠ right.specificity.1 then right.specificity.1 < left.specificity.1
  else if left.specificity.2 ≠ right.specificity.2 then right.specificity.2 < left.specificity.2
  else right.fields.map FieldMatch.name < left.fields.map FieldMatch.name

/-- Whether two directives apply to the same events. -/
def sameScope (left right : Directive) : Bool :=
  left.target = right.target && left.fields = right.fields

def appliesTo (directive : Directive) (event : Event) : Bool :=
  (match directive.target with
    | none => true
    | some target => target.toList.isPrefixOf event.target.toList) &&
  directive.fields.all fun field =>
    field.name = "message" || (event.value? field.name).isSome

end Directive

/-- Directives for events, the most specific first. -/
structure Filter where
  directives : List Directive

namespace Filter

/-- Puts a directive in its place; it replaces one with the same scope. -/
def place (directive : Directive) : List Directive → List Directive
  | [] => [directive]
  | first :: rest =>
      if directive.sameScope first then directive :: rest
      else if directive.moreSpecific first then directive :: first :: rest
      else first :: place directive rest

/-- Of directives without fields and those with fields, the former are placed first. -/
def ofDirectives (directives : List Directive) : Filter :=
  if directives.isEmpty then ⟨[{ verbosity := 1 }]⟩
  else
    let (named, plain) := directives.partition fun directive => !directive.fields.isEmpty
    ⟨((plain ++ named).filter fun directive => !directive.concernsSpans).foldl
      (fun placed directive => place directive placed) []⟩

/-- Reads a filter; empty directives are skipped, and without any only errors are
shown. -/
def parse (text : String) : Except FilterError Filter :=
  let pieces := ((text.toList.splitOn ',').map String.ofList).filter (· ≠ "")
  (pieces.mapM Directive.parse).map ofDirectives

/-- Whether an event is shown. -/
def shows (filter : Filter) (event : Event) : Bool :=
  match filter.directives.find? fun directive => directive.appliesTo event with
  | some directive => event.level.rank ≤ directive.verbosity
  | none => false

end Filter

end Chaincode.Tracing
