import Chaincode.Turn

namespace Chaincode

/-! Work that may be interrupted.

A future is either finished or waiting to be polled.  One poll is one turn: it
runs up to the next interruption and leaves the future that remains.  A future
is a well-founded tree, so polling it again and again comes to an end.
-/

inductive Future (σ α : Type) where
  | ready (value : α)
  | waiting (resume : σ → Turn σ (Future σ α))

namespace Future

/-- Runs up to the next interruption; a finished future does nothing. -/
def poll : Future σ α → Action σ (Future σ α)
  | .ready value, store => ⟨.ready value, store, []⟩
  | .waiting resume, store => resume store

def isReady : Future σ α → Bool
  | .ready _ => true
  | .waiting _ => false

/-- Every future can be reached from finished ones by waiting. -/
@[elab_as_elim, induction_eliminator]
theorem induction {motive : Future σ α → Prop}
    (ready : ∀ value, motive (.ready value))
    (waiting : ∀ resume, (∀ store, motive (resume store).value) → motive (.waiting resume))
    (future : Future σ α) : motive future :=
  @Future.rec _ _ motive (fun turn => motive turn.value)
    ready (fun resume step => waiting resume step) (fun _ _ _ remaining => remaining) future

mutual

/-- Polls until the value is there. -/
def run : Future σ α → Action σ α
  | .ready value, store => ⟨value, store, []⟩
  | .waiting resume, store => runOn (resume store)

/-- Goes on polling after a turn that may have left an unfinished future. -/
def runOn : Turn σ (Future σ α) → Turn σ α
  | ⟨future, store, lines⟩ => (run future store).after lines

end

mutual

/-- Goes on with `next` in the very turn in which the first part finishes. -/
def bind : Future σ α → (α → Future σ β) → Future σ β
  | .ready value, next => next value
  | .waiting resume, next => .waiting fun store => bindOn (resume store) next

def bindOn : Turn σ (Future σ α) → (α → Future σ β) → Turn σ (Future σ β)
  | ⟨.ready value, store, lines⟩, next => ((next value).poll store).after lines
  | ⟨.waiting resume, store, lines⟩, next => ⟨bind (.waiting resume) next, store, lines⟩

end

def map (change : α → β) (future : Future σ α) : Future σ β :=
  future.bind fun value => .ready (change value)

/-- Does all of `action` in the turn that first polls it. -/
def perform (action : Action σ α) : Future σ α :=
  .waiting fun store => (action store).map .ready

/-- Is interrupted `count` times and then finishes. -/
def pause : Nat → Future σ Unit
  | 0 => .waiting fun store => ⟨.ready (), store, []⟩
  | count + 1 => .waiting fun store => ⟨pause count, store, []⟩

mutual

/-- Polls two futures in turn, the left one first, until both are finished. -/
def both : Future σ α → Future σ β → Future σ (α × β)
  | .ready value, other => other.map fun second => (value, second)
  | .waiting resume, other => .waiting fun store => bothOn (resume store) other

def bothOn : Turn σ (Future σ α) → Future σ β → Turn σ (Future σ (α × β))
  | ⟨future, store, lines⟩, other =>
      ((other.poll store).map fun remaining => both future remaining).after lines

end

/-- Polls all futures in rounds.  Each round polls the unfinished ones in the
order of the list; the values come in that order too. -/
def all : List (Future σ α) → Future σ (List α)
  | [] => .ready []
  | future :: rest => (both future (all rest)).map fun values => values.1 :: values.2

end Future

end Chaincode
