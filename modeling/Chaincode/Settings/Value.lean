import Chaincode.Decimal.Shortest

namespace Chaincode.Settings

/-! Typed values of settings, as files and the environment give them.

A table is a list of entries in increasing order of their keys.
-/

inductive Value where
  | text (content : String)
  | character (content : Char)
  | boolean (content : Bool)
  | natural (content : Nat)
  | integer (content : Int)
  | float (content : Float)
  /-- A date, a time or both. -/
  | moment (content : String)
  | list (items : List Value)
  | table (entries : List (String × Value))

/-- Puts an entry in its place among others; an entry with the same key is replaced. -/
def putEntry (key : String) (value : α) : List (String × α) → List (String × α)
  | [] => [(key, value)]
  | entry :: rest =>
      if key = entry.1 then (key, value) :: rest
      else if key < entry.1 then (key, value) :: entry :: rest
      else entry :: putEntry key value rest

theorem lookup_putEntry (key : String) (value : α) (entries : List (String × α)) :
    (putEntry key value entries).lookup key = some value := by
  induction entries with
  | nil => rw [putEntry, List.lookup_cons_self]
  | cons entry rest ih =>
      obtain ⟨name, old⟩ := entry
      rw [putEntry]
      split
      · exact List.lookup_cons_self
      · split
        · exact List.lookup_cons_self
        · rename_i different _
          have miss : (key == name) = false := beq_false_of_ne different
          rw [List.lookup_cons, miss]
          exact ih

namespace Value

/-- The text that a setting takes from a value, if it is one. -/
def text? : Value → Option String
  | .text content => some content
  | .character content => some (String.singleton content)
  | _ => none

mutual

/-- The value that stands when `later` overrides `earlier`: tables are merged. -/
def merge : Value → Value → Value
  | .table entries, .table laterEntries => .table (mergeEntries entries laterEntries)
  | _, later => later

def mergeEntries : List (String × Value) → List (String × Value) → List (String × Value)
  | entries, [] => entries
  | entries, (key, later) :: rest =>
      let value := match entries.lookup key with
        | some earlier => merge earlier later
        | none => later
      mergeEntries (putEntry key value entries) rest

end

/-- The text of a floating-point number: without an exponent, and without a point
where nothing follows it. -/
def floatText (number : Float) : String :=
  match FloatClass.ofFloat number with
  | .notANumber => "NaN"
  | .infinite negative => if negative then "-inf" else "inf"
  | .finite negative magnitude =>
      let sign := if negative then "-" else ""
      match magnitude with
      | none => sign ++ "0"
      | some binary => sign ++ (Decimal.shortest .up binary).positional

/-- What messages call a value. -/
def describe : Value → String
  | .text content => "string " ++ content
  | .character content => "char " ++ String.singleton content
  | .boolean content => s!"bool {content}"
  | .natural content => s!"unsigned int `{content}`"
  | .integer content => s!"signed int `{content}`"
  | .float content => s!"float `{floatText content}`"
  | .moment _ => "map"
  | .list _ => "sequence"
  | .table _ => "map"

end Value

end Chaincode.Settings
