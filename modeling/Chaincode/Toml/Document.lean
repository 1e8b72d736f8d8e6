import Chaincode.Toml.Scalar

namespace Chaincode.Toml

open Settings (Value putEntry)

/-! TOML documents.

A document is a sequence of statements: pairs of a key and a value, and headers
that say to which table the pairs after them belong.  A table is defined once,
either under a header or by keys with points in them.
-/

/-- What a table under construction holds.  An implicit table has no header of its
own; a dotted one was made by the keys of pairs. -/
inductive Node where
  | value (value : Value)
  | table (implicit dotted : Bool) (entries : List (String × Node))
  | tables (items : List (List (String × Node)))

mutual

def Node.toValue : Node → Value
  | .value value => value
  | .table _ _ entries => .table (entryValues entries)
  | .tables items => .list (tableValues items)

def entryValues : List (String × Node) → List (String × Value)
  | [] => []
  | (key, node) :: rest => putEntry key node.toValue (entryValues rest)

def tableValues : List (List (String × Node)) → List Value
  | [] => []
  | entries :: rest => .table (entryValues entries) :: tableValues rest

end

abbrev Entries := List (String × Node)

/-- Changes the table at the end of a path; tables that are missing on the way are
made.  A dotted path does not lead through tables with a header of their own. -/
def descend (dotted : Bool) (change : Bool → Entries → Option Entries) :
    List String → Bool → Entries → Option Entries
  | [], isDotted, entries => change isDotted entries
  | key :: path, _, entries =>
      match entries.lookup key with
      | none =>
          (descend dotted change path dotted []).map fun inner =>
            putEntry key (.table true dotted inner) entries
      | some (.value _) => none
      | some (.tables items) =>
          match items.getLast? with
          | none => none
          | some last =>
              (descend dotted change path false last).map fun inner =>
                putEntry key (.tables (items.dropLast ++ [inner])) entries
      | some (.table implicit isDotted inner) =>
          if dotted && !implicit then none
          else
            (descend dotted change path isDotted inner).map fun inner =>
              putEntry key (.table implicit isDotted inner) entries

/-- Adds a pair to a table.  A key with points adds to a table made by such keys. -/
def addPair (key : List String) (value : Value) (entries : Entries) : Option Entries :=
  match key.getLast? with
  | none => none
  | some last =>
      let path := key.dropLast
      descend true (fun isDotted entries =>
        if isDotted = path.isEmpty || (entries.lookup last).isSome then none
        else some (putEntry last (.value value) entries)) path false entries

inductive Statement where
  | pair (key : List String) (value : Value)
  | header (path : List String)
  /-- The header of one more table in a list of tables. -/
  | listHeader (path : List String)

abbrev Pairs := List (List String × Value)

def addPairs (pairs : Pairs) (entries : Entries) : Option Entries :=
  pairs.foldlM (fun entries pair => addPair pair.1 pair.2 entries) entries

/-- Adds a table with its pairs at the place that a header names. -/
def addTable (path : List String) (pairs : Pairs) (root : Entries) : Option Entries :=
  match path.getLast? with
  | none => none
  | some last =>
      descend false (fun _ entries =>
        match entries.lookup last with
        | none =>
            (addPairs pairs []).map fun inner => putEntry last (.table false false inner) entries
        | some (.table true false inner) =>
            (addPairs pairs inner).map fun inner =>
              putEntry last (.table false false inner) entries
        | some _ => none) path.dropLast false root

/-- Adds one more table with its pairs to a list of tables. -/
def addToList (path : List String) (pairs : Pairs) (root : Entries) : Option Entries :=
  match path.getLast? with
  | none => none
  | some last =>
      descend false (fun _ entries =>
        (addPairs pairs []).bind fun inner =>
          match entries.lookup last with
          | none => some (putEntry last (.tables [inner]) entries)
          | some (.tables items) => some (putEntry last (.tables (items ++ [inner])) entries)
          | some _ => none) path.dropLast false root

/-- The pairs up to the next header, and the statements from there on. -/
def leadingPairs : List Statement → Pairs × List Statement
  | .pair key value :: rest =>
      let (pairs, rest) := leadingPairs rest
      ((key, value) :: pairs, rest)
  | rest => ([], rest)

/-- Adds the tables of all headers; `fuel` bounds their number. -/
def assemble : Nat → List Statement → Entries → Option Entries
  | _, [], root => some root
  | 0, _, _ => none
  | fuel + 1, statement :: rest, root =>
      let (pairs, rest) := leadingPairs rest
      match statement with
      | .header path => (addTable path pairs root).bind (assemble fuel rest)
      | .listHeader path => (addToList path pairs root).bind (assemble fuel rest)
      | .pair key value => (addPairs ((key, value) :: pairs) root).bind (assemble fuel rest)

/-- Lists and tables within values nest less deep than this. -/
def nestingLimit : Nat := 80

mutual

/-- A value at a depth of `depth` lists and tables. -/
def value? (fuel depth : Nat) (chars : List Char) : Option (Value × List Char) :=
  match fuel with
  | 0 => none
  | fuel + 1 =>
      match chars with
      | '"' :: _ => (text? chars).map fun (text, rest) => (.text (.ofList text), rest)
      | '\x27' :: _ => (text? chars).map fun (text, rest) => (.text (.ofList text), rest)
      | '[' :: rest =>
          if nestingLimit ≤ depth + 1 then none
          else
            (items? fuel (depth + 1) (skipLines rest.length rest)).map fun (items, rest) =>
              (.list items, rest)
      | '{' :: rest =>
          if nestingLimit ≤ depth + 1 then none
          else
            match skipBlanks rest with
            | '}' :: rest => some (.table [], rest)
            | rest =>
                (pairs? fuel (depth + 1) rest).bind fun (pairs, rest) =>
                  (addPairs pairs []).map fun entries => (.table (entryValues entries), rest)
      | _ => scalar? chars

/-- The items of a list up to its closing bracket. -/
def items? (fuel depth : Nat) (chars : List Char) : Option (List Value × List Char) :=
  match fuel with
  | 0 => none
  | fuel + 1 =>
      match chars with
      | ']' :: rest => some ([], rest)
      | _ =>
          (value? fuel depth chars).bind fun (value, rest) =>
            match skipLines rest.length rest with
            | ',' :: rest =>
                (items? fuel depth (skipLines rest.length rest)).map fun (values, rest) =>
                  (value :: values, rest)
            | ']' :: rest => some ([value], rest)
            | _ => none

/-- The pairs of a table up to its closing brace, at least one. -/
def pairs? (fuel depth : Nat) (chars : List Char) : Option (Pairs × List Char) :=
  match fuel with
  | 0 => none
  | fuel + 1 =>
      (pair? fuel depth chars).bind fun (pair, rest) =>
        match skipBlanks rest with
        | ',' :: rest =>
            (pairs? fuel depth rest).map fun (pairs, rest) => (pair :: pairs, rest)
        | '}' :: rest => some ([pair], rest)
        | _ => none

/-- A key, an equals sign and a value. -/
def pair? (fuel depth : Nat) (chars : List Char) : Option ((List String × Value) × List Char) :=
  match fuel with
  | 0 => none
  | fuel + 1 =>
      (key? chars.length chars).bind fun (key, rest) =>
        if nestingLimit ≤ key.length then none
        else
          match rest with
          | '=' :: rest =>
              (value? fuel depth (skipBlanks rest)).map fun (value, rest) => ((key, value), rest)
          | _ => none

end

/-- The key of a header up to its closing brackets. -/
def header? (closing : List Char) (chars : List Char) : Option (List String × List Char) :=
  (key? chars.length chars).bind fun (key, rest) =>
    if nestingLimit ≤ key.length || rest.take closing.length ≠ closing then none
    else some (key, rest.drop closing.length)

def statement? (chars : List Char) : Option (Statement × List Char) :=
  match chars with
  | '[' :: '[' :: rest =>
      (header? [']', ']'] rest).map fun (path, rest) => (.listHeader path, rest)
  | '[' :: rest => (header? [']'] rest).map fun (path, rest) => (.header path, rest)
  | _ =>
      (pair? (2 * chars.length + 4) 0 chars).map fun (pair, rest) =>
        (.pair pair.1 pair.2, rest)

/-- Reads line by line; every line takes at least one character. -/
def statements? : Nat → List Char → Option (List Statement)
  | 0, chars => if chars.isEmpty then some [] else none
  | fuel + 1, chars =>
      match finishLine chars with
      | some [] => some []
      | some rest => statements? fuel rest
      | none =>
          (statement? (skipBlanks chars)).bind fun (statement, rest) =>
            (finishLine rest).bind fun rest =>
              (statements? fuel rest).map (statement :: ·)

/-- The entries of a document, in increasing order of their keys; `none` for a text
that is no document.  A byte order mark may precede it. -/
def parse? (text : String) : Option (List (String × Value)) :=
  let chars := text.toList
  let chars := if chars.head? = some '\ufeff' then chars.tail else chars
  (statements? (chars.length + 1) chars).bind fun statements =>
    (assemble statements.length statements []).map entryValues

end Chaincode.Toml
