import Chaincode.Tracing.Pattern.Item

namespace Chaincode.Tracing.Pattern

/-! Sets of characters between brackets.

The members of a set are characters, ranges, families, named ASCII sets and other
sets.  Members side by side are united; the operators `&&`, `--` and `~~` bind
weaker than that, and to the left.
-/

/-- The names of ASCII sets. -/
def setNames : List String :=
  [ "alnum", "alpha", "ascii", "blank", "cntrl", "digit", "graph", "lower", "print", "punct",
    "space", "upper", "word", "xdigit" ]

/-- A named set behind its bracket: whether it is negated, and what follows it. -/
def namedSet? : List Char → Option (Bool × List Char)
  | ':' :: rest =>
      let (negated, rest) := match rest with
        | '^' :: rest => (true, rest)
        | rest => (false, rest)
      match rest.dropWhile (· ≠ ':') with
      | ':' :: ']' :: behind =>
          if setNames.contains (.ofList (rest.takeWhile (· ≠ ':'))) then some (negated, behind)
          else none
      | _ => none
  | _ => none

/-- The members of a set as far as they are read. -/
structure Members where
  /-- What stands before the last operator. -/
  left : Option Part := none
  /-- The members since then. -/
  united : List Part := []

namespace Members

def part (members : Members) : Part :=
  match members.left with
  | none => .join members.united
  | some left => .around [left, .join members.united]

def push (members : Members) (part : Part) : Members :=
  { members with united := part :: members.united }

/-- The members before an operator. -/
def operated (members : Members) : Members := ⟨some members.part, []⟩

end Members

namespace Mode

/-- The members of a named set are ASCII, those of its complement need not be. -/
def acceptsNamed (mode : Mode) (negated : Bool) : Bool :=
  if mode.unicode then !mode.anyCase else !negated

def acceptsRange (mode : Mode) : Item → Item → Bool
  | .literal first _, .literal last coded =>
      first ≤ last && mode.acceptsMember (.literal last coded)
  | _, _ => false

end Mode

/-- What follows a character, a range or a family.  A dash makes a range unless another
dash or the closing bracket follows it. -/
def behindMember? (mode : Mode) (chars : List Char) : Option (List Char) :=
  (member? mode chars).bind fun (first, rest) =>
    let alone := if mode.acceptsMember first then some rest else none
    match mode.skip rest with
    | '-' :: behind =>
        match mode.peek? behind with
        | some ']' => alone
        | some '-' => alone
        | _ =>
            (member? mode (mode.skip behind)).bind fun (last, rest) =>
              if mode.acceptsRange first last then some rest else none
    | _ => alone

/-- Whether a set is negated, and what follows this mark. -/
def negation (mode : Mode) (chars : List Char) : Bool × List Char :=
  match mode.skip chars with
  | '^' :: rest => (true, rest)
  | rest => (false, rest)

/-- A set behind its opening bracket and its negation, up to its closing bracket.  At the
start dashes are members, and so is a closing bracket that comes first of all.
`fuel` bounds the number of members and nested sets. -/
def set? (fuel : Nat) (mode : Mode) (atStart : Bool) (members : Members) (chars : List Char) :
    Option (Part × List Char) :=
  match fuel with
  | 0 => none
  | fuel + 1 =>
      match mode.skip chars with
      | ']' :: rest =>
          if atStart && members.united.isEmpty then
            if mode.acceptsMember (.literal ']' false) then
              set? fuel mode false (members.push {}) rest
            else none
          else some (.around [members.part], rest)
      | '[' :: rest =>
          match namedSet? rest with
          | some (negated, rest) =>
              if mode.acceptsNamed negated then set? fuel mode false (members.push {}) rest
              else none
          | none =>
              let (negated, rest) := negation mode rest
              if mode.unicode || !negated then
                (set? fuel mode true {} rest).bind fun (nested, rest) =>
                  set? fuel mode false (members.push nested) rest
              else none
      | '&' :: '&' :: rest => set? fuel mode false members.operated rest
      | '~' :: '~' :: rest => set? fuel mode false members.operated rest
      | '-' :: rest =>
          match atStart, rest with
          | true, rest =>
              if mode.acceptsMember (.literal '-' false) then
                set? fuel mode true (members.push {}) rest
              else none
          | false, '-' :: rest => set? fuel mode false members.operated rest
          | false, rest =>
              (behindMember? mode ('-' :: rest)).bind fun rest =>
                set? fuel mode false (members.push {}) rest
      | chars =>
          (behindMember? mode chars).bind fun rest =>
            set? fuel mode false (members.push {}) rest

/-- A set behind its opening bracket. -/
def brackets? (mode : Mode) (chars : List Char) : Option (Part × List Char) :=
  let (negated, rest) := negation mode chars
  if mode.unicode || !negated then set? (chars.length + 1) mode true {} rest else none

end Chaincode.Tracing.Pattern
