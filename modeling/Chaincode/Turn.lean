namespace Chaincode

/-! One uninterrupted piece of work.

A turn starts from the store that handlers share.  It leaves a value, the store
as it is afterwards, and the lines logged meanwhile.  Nothing can take a logged
line back, so the lines of consecutive turns are joined in order.
-/

structure Turn (σ α : Type) where
  value : α
  store : σ
  lines : List String := []

namespace Turn

/-- The same turn, preceded by work that logged `earlier`. -/
def after (turn : Turn σ α) (earlier : List String) : Turn σ α :=
  { turn with lines := earlier ++ turn.lines }

def map (change : α → β) (turn : Turn σ α) : Turn σ β :=
  ⟨change turn.value, turn.store, turn.lines⟩

/-- Goes on with `next` from the store that `turn` left. -/
def andThen (turn : Turn σ α) (next : α → σ → Turn σ β) : Turn σ β :=
  (next turn.value turn.store).after turn.lines

@[simp] theorem after_value (turn : Turn σ α) (earlier : List String) :
    (turn.after earlier).value = turn.value := rfl

@[simp] theorem after_store (turn : Turn σ α) (earlier : List String) :
    (turn.after earlier).store = turn.store := rfl

@[simp] theorem after_lines (turn : Turn σ α) (earlier : List String) :
    (turn.after earlier).lines = earlier ++ turn.lines := rfl

@[simp] theorem after_nil (turn : Turn σ α) : turn.after [] = turn := rfl

@[simp] theorem after_after (turn : Turn σ α) (earlier later : List String) :
    (turn.after later).after earlier = turn.after (earlier ++ later) := by
  simp [after]

@[simp] theorem map_value (change : α → β) (turn : Turn σ α) :
    (turn.map change).value = change turn.value := rfl

@[simp] theorem map_store (change : α → β) (turn : Turn σ α) :
    (turn.map change).store = turn.store := rfl

@[simp] theorem map_lines (change : α → β) (turn : Turn σ α) :
    (turn.map change).lines = turn.lines := rfl

end Turn

/-- Work that runs in one turn, from any store. -/
abbrev Action (σ α : Type) := σ → Turn σ α

namespace Action

def pure (value : α) : Action σ α := fun store => ⟨value, store, []⟩

/-- Logs one line. -/
def log (line : String) : Action σ Unit := fun store => ⟨(), store, [line]⟩

end Action

end Chaincode
