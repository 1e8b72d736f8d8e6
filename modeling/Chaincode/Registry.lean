import Chaincode.Handler

namespace Chaincode

/-! Handlers by name.

The handlers stand in strictly increasing order of their names, so no name
occurs twice, and none is empty.  A registry is a value: a copy of it does not
see what is inserted into the other later.
-/

structure Registry (σ : Type) (ε : Type := Empty) where
  handlers : List (Handler σ ε)
  sorted : (handlers.map Handler.name).Pairwise (· < ·)
  named : ∀ handler ∈ handlers, handler.name ≠ ""

inductive RegistryError where
  | duplicate (name : String)
  | emptyName
deriving DecidableEq

namespace RegistryError

def describe : RegistryError → String
  | .duplicate name => s!"a handler named {name} is already registered"
  | .emptyName => "handler names must not be empty"

end RegistryError

/-- Puts a handler in front of the first one with a greater name. -/
private def place (handler : Handler σ ε) : List (Handler σ ε) → List (Handler σ ε)
  | [] => [handler]
  | first :: rest =>
      if handler.name < first.name then handler :: first :: rest
      else first :: place handler rest

private theorem mem_place {handler other : Handler σ ε} {handlers : List (Handler σ ε)} :
    other ∈ place handler handlers ↔ other = handler ∨ other ∈ handlers := by
  induction handlers with
  | nil => simp [place]
  | cons first rest ih =>
      unfold place
      split
      · simp
      · simp only [List.mem_cons, ih]
        constructor
        · rintro (equal | equal | member)
          · exact .inr (.inl equal)
          · exact .inl equal
          · exact .inr (.inr member)
        · rintro (equal | equal | member)
          · exact .inr (.inl equal)
          · exact .inl equal
          · exact .inr (.inr member)

private theorem lt_of_not_lt {left right : String} (different : left ≠ right)
    (notLess : ¬left < right) : right < left := by
  rcases Decidable.em (right < left) with less | notGreater
  · exact less
  · exact absurd (String.le_antisymm (String.not_lt.mp notGreater) (String.not_lt.mp notLess))
      different

private theorem place_sorted {handler : Handler σ ε} {handlers : List (Handler σ ε)}
    (absent : ∀ other ∈ handlers, other.name ≠ handler.name)
    (sorted : (handlers.map Handler.name).Pairwise (· < ·)) :
    ((place handler handlers).map Handler.name).Pairwise (· < ·) := by
  induction handlers with
  | nil => simp [place]
  | cons first rest ih =>
      simp only [List.map_cons, List.pairwise_cons, List.mem_map] at sorted
      obtain ⟨below, restSorted⟩ := sorted
      unfold place
      split
      case isTrue less =>
        simp only [List.map_cons, List.pairwise_cons, List.mem_cons, List.mem_map]
        refine ⟨?_, below, restSorted⟩
        rintro name (equal | ⟨other, member, equal⟩)
        · exact equal ▸ less
        · exact String.lt_trans less (below name ⟨other, member, equal⟩)
      case isFalse notLess =>
        simp only [List.map_cons, List.pairwise_cons, List.mem_map]
        refine ⟨?_, ih (fun other member => absent other (List.mem_cons_of_mem _ member)) restSorted⟩
        rintro name ⟨other, member, equal⟩
        rcases mem_place.mp member with isNew | isOld
        · subst isNew
          exact equal ▸ lt_of_not_lt (absent first List.mem_cons_self).symm notLess
        · exact below name ⟨other, isOld, equal⟩

namespace Registry

def empty : Registry σ ε := ⟨[], .nil, by simp⟩

instance : Inhabited (Registry σ ε) := ⟨empty⟩

/-- The registered names, in increasing order. -/
def names (registry : Registry σ ε) : List String := registry.handlers.map Handler.name

def get? (registry : Registry σ ε) (name : String) : Option (Handler σ ε) :=
  registry.handlers.find? fun handler => handler.name == name

def contains (registry : Registry σ ε) (name : String) : Bool := (registry.get? name).isSome

def size (registry : Registry σ ε) : Nat := registry.handlers.length

def isEmpty (registry : Registry σ ε) : Bool := registry.handlers.isEmpty

theorem get?_eq_none {registry : Registry σ ε} {name : String} :
    registry.get? name = none ↔ ∀ handler ∈ registry.handlers, handler.name ≠ name := by
  simp [get?]

theorem get?_name {registry : Registry σ ε} {name : String} {handler : Handler σ ε}
    (found : registry.get? name = some handler) : handler.name = name := by
  simpa using List.find?_some found

/-- Registers a handler under its own name.  The first handler of a name stays. -/
def insert (registry : Registry σ ε) (handler : Handler σ ε) : Except RegistryError (Registry σ ε) :=
  if unnamed : handler.name = "" then .error .emptyName
  else
    match absent : registry.get? handler.name with
    | some _ => .error (.duplicate handler.name)
    | none => .ok {
        handlers := place handler registry.handlers
        sorted := place_sorted (get?_eq_none.mp absent) registry.sorted
        named := fun other member => by
          rcases mem_place.mp member with isNew | isOld
          · exact isNew ▸ unnamed
          · exact registry.named other isOld }

theorem mem_insert {registry grown : Registry σ ε} {handler other : Handler σ ε}
    (inserted : registry.insert handler = .ok grown) :
    other ∈ grown.handlers ↔ other = handler ∨ other ∈ registry.handlers := by
  unfold insert at inserted
  split at inserted
  · cases inserted
  · split at inserted
    · cases inserted
    · cases inserted
      exact mem_place

/-- Registers a function that sees the arguments only. -/
def insertFunction (registry : Registry σ ε) (name : String)
    (work : List String → Action σ (Except (Panic ε) (Future σ (Completion ε)))) :
    Except RegistryError (Registry σ ε) :=
  registry.insert (.ofFunction name work)

end Registry

end Chaincode
