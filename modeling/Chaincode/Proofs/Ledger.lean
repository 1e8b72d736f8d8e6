import Chaincode.Dispatcher
import Chaincode.Proofs.Future

namespace Chaincode

/-! Who was called, and with what.

A ledger notes every call of a handler.  Recording handlers keep it beside the
store: they note the call and then do what the handlers do that they record, to
whom the ledger does not exist.
-/

structure Entry where
  handler : String
  stub : Stub
  arguments : List String
deriving DecidableEq

abbrev Ledger := List Entry

namespace Turn

/-- The same turn, which left `ledger` beside the store. -/
def beside (turn : Turn σ α) (ledger : Ledger) : Turn (σ × Ledger) α :=
  ⟨turn.value, (turn.store, ledger), turn.lines⟩

@[simp] theorem beside_value (turn : Turn σ α) (ledger : Ledger) :
    (turn.beside ledger).value = turn.value := rfl

@[simp] theorem beside_store (turn : Turn σ α) (ledger : Ledger) :
    (turn.beside ledger).store = (turn.store, ledger) := rfl

@[simp] theorem beside_lines (turn : Turn σ α) (ledger : Ledger) :
    (turn.beside ledger).lines = turn.lines := rfl

theorem beside_after (turn : Turn σ α) (ledger : Ledger) (earlier : List String) :
    (turn.after earlier).beside ledger = (turn.beside ledger).after earlier := rfl

end Turn

namespace Future

mutual

def beside : Future σ α → Future (σ × Ledger) α
  | .ready value => .ready value
  | .waiting resume => .waiting fun both => besideOn (resume both.1) both.2

def besideOn : Turn σ (Future σ α) → Ledger → Turn (σ × Ledger) (Future (σ × Ledger) α)
  | ⟨future, store, lines⟩, ledger => ⟨beside future, (store, ledger), lines⟩

end

theorem besideOn_eq (turn : Turn σ (Future σ α)) (ledger : Ledger) :
    besideOn turn ledger = (turn.beside ledger).map beside := by
  obtain ⟨future, store, lines⟩ := turn
  rw [besideOn]
  rfl

theorem beside_ready (value : α) : (ready value : Future σ α).beside = ready value := by
  rw [beside]

theorem beside_waiting (resume : σ → Turn σ (Future σ α)) :
    (waiting resume).beside =
      waiting fun both => ((resume both.1).beside both.2).map beside := by
  rw [beside]
  simp only [besideOn_eq]

theorem poll_beside (future : Future σ α) (store : σ) (ledger : Ledger) :
    future.beside.poll (store, ledger) = ((future.poll store).beside ledger).map beside := by
  cases future with
  | ready value => simp only [beside_ready, poll, Turn.beside, Turn.map]
  | waiting resume => simp only [beside_waiting, poll]

theorem beside_bind (future : Future σ α) (next : α → Future σ β) :
    (future.bind next).beside = future.beside.bind fun value => (next value).beside := by
  induction future with
  | ready value => rw [bind_ready, beside_ready, bind_ready]
  | waiting resume ih =>
      rw [bind_waiting, beside_waiting, beside_waiting, bind_waiting]
      congr 1
      funext both
      have rest := ih both.1
      generalize resume both.1 = turn at rest ⊢
      obtain ⟨future, store, lines⟩ := turn
      cases future with
      | ready value =>
          simp only [Turn.beside, Turn.map, beside_ready, bindOn_ready, poll_beside, Turn.after]
      | waiting resume =>
          rw [bindOn_waiting]
          simp only [Turn.beside, Turn.map, rest]
          rw [beside_waiting, bindOn_waiting]

theorem beside_map (change : α → β) (future : Future σ α) :
    (future.map change).beside = future.beside.map change := by
  simp only [map, beside_bind, beside_ready]

theorem beside_perform (action : Action σ α) :
    (perform action).beside =
      perform fun both => (action both.1).beside both.2 := by
  rw [perform, beside_waiting, perform]
  simp only [Turn.beside, Turn.map, beside_ready]

theorem run_beside (future : Future σ α) (store : σ) (ledger : Ledger) :
    future.beside.run (store, ledger) = (future.run store).beside ledger := by
  induction future generalizing store with
  | ready value => rw [beside_ready, run_ready, run_ready, Turn.beside]
  | waiting resume ih =>
      rw [beside_waiting, run_waiting, run_waiting]
      simp only [Turn.andThen, Turn.map_value, Turn.map_store, Turn.map_lines, Turn.beside_value,
        Turn.beside_store, Turn.beside_lines]
      rw [ih store, Turn.beside_after]

/-- The same future, whose first poll also notes `entries`. -/
def noting (entries : Ledger) : Future σ α → Future (σ × Ledger) α
  | .ready value => .ready value
  | .waiting resume =>
      .waiting fun both => ((resume both.1).beside (both.2 ++ entries)).map beside

theorem poll_noting (entries : Ledger) (future : Future σ α) (store : σ) (ledger : Ledger)
    (unfinished : future.isReady = false) :
    (future.noting entries).poll (store, ledger) =
      ((future.poll store).beside (ledger ++ entries)).map beside := by
  cases future with
  | ready value => contradiction
  | waiting resume => rw [noting, poll, poll]

/-- What is noted at the first poll of a future is noted at the first poll of all that begins with
it. -/
theorem noting_bind (entries : Ledger) (future : Future σ α) (next : α → Future σ β)
    (unfinished : future.isReady = false) :
    (future.bind next).noting entries =
      (future.noting entries).bind fun value => (next value).beside := by
  cases future with
  | ready value => contradiction
  | waiting resume =>
      rw [noting, bind_waiting, bind_waiting, noting]
      congr 1
      funext both
      have whole := poll_beside ((waiting resume).bind next) both.1 (both.2 ++ entries)
      rw [beside_bind, poll_bind, poll_beside, poll_bind, poll_waiting] at whole
      exact whole.symm

theorem noting_map (entries : Ledger) (future : Future σ α) (change : α → β)
    (unfinished : future.isReady = false) :
    (future.map change).noting entries = (future.noting entries).map change := by
  simp only [map, noting_bind entries future _ unfinished, beside_ready]

theorem noting_nil (future : Future σ α) : future.noting [] = future.beside := by
  cases future with
  | ready value => rw [noting, beside_ready]
  | waiting resume =>
      rw [noting, beside_waiting]
      simp only [List.append_nil]

/-- A line that is logged first does not change what is noted in the same turn. -/
theorem log_noting (line : String) (entries : Ledger) (future : Future σ α)
    (unfinished : future.isReady = false) :
    ((perform (Action.log line)).bind fun _ => future).noting entries =
      (perform (Action.log line)).bind fun _ => future.noting entries := by
  rw [perform_bind, perform_bind, noting]
  congr 1
  funext both
  have noted := poll_noting entries future both.1 both.2 unfinished
  simp only [Action.log] at noted ⊢
  rw [noted]
  rfl

theorem run_noting (entries : Ledger) (future : Future σ α) (store : σ) (ledger : Ledger)
    (unfinished : future.isReady = false) :
    (future.noting entries).run (store, ledger) =
      (future.run store).beside (ledger ++ entries) := by
  rw [← poll_andThen_run, poll_noting entries future store ledger unfinished,
    ← poll_andThen_run future store, Turn.map_andThen]
  simp only [Turn.andThen, Turn.beside_value, Turn.beside_store, Turn.beside_lines, run_beside,
    Turn.beside_after]

end Future

namespace Handler

/-- Notes each call and then makes it. -/
def recorded (handler : Handler σ ε) : Handler (σ × Ledger) ε where
  name := handler.name
  call stub arguments := fun both =>
    ((handler.call stub arguments both.1).beside
      (both.2 ++ [⟨handler.name, stub, arguments⟩])).map fun called => called.map Future.beside

theorem future_isReady (handler : Handler σ ε) (stub : Stub) (arguments : List String) :
    (handler.future stub arguments).isReady = false := by
  rw [future, Future.perform_bind, Future.isReady]

/-- Recording adds to a call that its first poll notes it. -/
theorem future_recorded (handler : Handler σ ε) (stub : Stub) (arguments : List String) :
    handler.recorded.future stub arguments =
      (handler.future stub arguments).noting [⟨handler.name, stub, arguments⟩] := by
  rw [future, future, Future.perform_bind, Future.perform_bind, Future.noting]
  congr 1
  funext both
  simp only [recorded, Turn.map_value, Turn.map_store, Turn.map_lines, Turn.beside_value,
    Turn.beside_store, Turn.beside_lines, Turn.beside_after, Turn.after_map]
  cases (handler.call stub arguments both.1).value with
  | error panic => simp only [Except.map, Future.poll, Turn.beside, Turn.map, Future.beside_ready]
  | ok future => simp only [Except.map, Future.poll_beside]

end Handler

namespace Registry

def recorded (registry : Registry σ ε) : Registry (σ × Ledger) ε where
  handlers := registry.handlers.map Handler.recorded
  sorted := by
    rw [List.map_map]
    exact registry.sorted
  named := by
    intro handler member
    obtain ⟨original, present, equal⟩ := List.mem_map.mp member
    exact equal ▸ registry.named original present

theorem get?_recorded (registry : Registry σ ε) (name : String) :
    registry.recorded.get? name = (registry.get? name).map Handler.recorded := by
  simp only [get?, recorded, List.find?_map]
  rfl

end Registry

namespace Dispatcher

/-- The dispatcher whose handlers all note their calls. -/
def recorded (dispatcher : Dispatcher σ ε) : Dispatcher (σ × Ledger) ε :=
  ⟨dispatcher.name, dispatcher.registry.recorded⟩

/-- The calls that an invocation leads to: one, or none if the method is unknown. -/
def entries (dispatcher : Dispatcher σ ε) (stub : Stub) (invocation : Invocation) : Ledger :=
  (dispatcher.registry.get? invocation.method).toList.map fun handler =>
    ⟨handler.name, stub, invocation.arguments⟩

end Dispatcher

end Chaincode
