import Chaincode.Future

namespace Chaincode

/-! Laws of turns and futures.

A bound future does all of its first part and then all of its second, adds no
interruption, and does not care how three parts are put in brackets.  Polling
is counted here too: `pendings` is how often a future that is polled to its end
answers that it is not finished.
-/

namespace Turn

@[simp] theorem andThen_value (turn : Turn σ α) (next : α → σ → Turn σ β) :
    (turn.andThen next).value = (next turn.value turn.store).value := rfl

@[simp] theorem andThen_store (turn : Turn σ α) (next : α → σ → Turn σ β) :
    (turn.andThen next).store = (next turn.value turn.store).store := rfl

@[simp] theorem andThen_lines (turn : Turn σ α) (next : α → σ → Turn σ β) :
    (turn.andThen next).lines = turn.lines ++ (next turn.value turn.store).lines := rfl

theorem mk_andThen (value : α) (store : σ) (next : α → σ → Turn σ β) :
    (⟨value, store, []⟩ : Turn σ α).andThen next = next value store := rfl

theorem after_andThen (turn : Turn σ α) (earlier : List String) (next : α → σ → Turn σ β) :
    (turn.after earlier).andThen next = (turn.andThen next).after earlier := by
  simp only [andThen, after_value, after_store, after_lines, after_after]

theorem andThen_assoc (turn : Turn σ α) (next : α → σ → Turn σ β) (last : β → σ → Turn σ γ) :
    (turn.andThen next).andThen last =
      turn.andThen fun value store => (next value store).andThen last := by
  simp only [andThen, after_value, after_store, after_lines, after_after]

theorem map_andThen (turn : Turn σ α) (change : α → β) (next : β → σ → Turn σ γ) :
    (turn.map change).andThen next = turn.andThen fun value => next (change value) := rfl

theorem after_map (turn : Turn σ α) (earlier : List String) (change : α → β) :
    (turn.after earlier).map change = (turn.map change).after earlier := rfl

end Turn

namespace Future

theorem bind_ready (value : α) (next : α → Future σ β) :
    (ready value).bind next = next value := by
  rw [bind]

theorem bind_waiting (resume : σ → Turn σ (Future σ α)) (next : α → Future σ β) :
    (waiting resume).bind next = waiting fun store => bindOn (resume store) next := by
  rw [bind]

theorem bindOn_ready (value : α) (store : σ) (lines : List String) (next : α → Future σ β) :
    bindOn ⟨ready value, store, lines⟩ next = ((next value).poll store).after lines := by
  rw [bindOn]

theorem bindOn_waiting (resume : σ → Turn σ (Future σ α)) (store : σ) (lines : List String)
    (next : α → Future σ β) :
    bindOn ⟨waiting resume, store, lines⟩ next =
      ⟨(waiting resume).bind next, store, lines⟩ := by
  rw [bindOn]

theorem bindOn_after (turn : Turn σ (Future σ α)) (earlier : List String)
    (next : α → Future σ β) :
    bindOn (turn.after earlier) next = (bindOn turn next).after earlier := by
  obtain ⟨future, store, lines⟩ := turn
  cases future with
  | ready value => simp only [Turn.after, bindOn_ready, List.append_assoc]
  | waiting resume => simp only [Turn.after, bindOn_waiting]

theorem poll_waiting (resume : σ → Turn σ (Future σ α)) (store : σ) :
    (waiting resume).poll store = resume store := by
  rw [poll]

theorem poll_bind (future : Future σ α) (next : α → Future σ β) (store : σ) :
    (future.bind next).poll store = bindOn (future.poll store) next := by
  cases future with
  | ready value => rw [bind_ready, poll, bindOn_ready, Turn.after_nil]
  | waiting resume => rw [bind_waiting, poll, poll]

theorem bind_assoc (future : Future σ α) (next : α → Future σ β) (last : β → Future σ γ) :
    (future.bind next).bind last = future.bind fun value => (next value).bind last := by
  induction future with
  | ready value => rw [bind_ready, bind_ready]
  | waiting resume ih =>
      rw [bind_waiting, bind_waiting, bind_waiting]
      congr 1
      funext store
      have rest := ih store
      generalize resume store = turn at rest ⊢
      obtain ⟨future, store, lines⟩ := turn
      cases future with
      | ready value => rw [bindOn_ready, bindOn_ready, bindOn_after, poll_bind]
      | waiting resume =>
          rw [bindOn_waiting, bindOn_waiting, ← rest, bind_waiting, bindOn_waiting]

theorem run_ready (value : α) (store : σ) :
    (ready value : Future σ α).run store = ⟨value, store, []⟩ := by
  rw [run]

theorem runOn_eq (turn : Turn σ (Future σ α)) : runOn turn = turn.andThen run := by
  obtain ⟨future, store, lines⟩ := turn
  rw [runOn, Turn.andThen]

theorem run_waiting (resume : σ → Turn σ (Future σ α)) (store : σ) :
    (waiting resume).run store = (resume store).andThen run := by
  rw [run, runOn_eq]

/-- One poll changes nothing about where a future ends. -/
theorem poll_andThen_run (future : Future σ α) (store : σ) :
    (future.poll store).andThen run = future.run store := by
  cases future with
  | ready value => rw [poll, Turn.mk_andThen]
  | waiting resume => rw [poll, run_waiting]

theorem run_bind (future : Future σ α) (next : α → Future σ β) (store : σ) :
    (future.bind next).run store = (future.run store).andThen fun value => (next value).run := by
  induction future generalizing store with
  | ready value => rw [bind_ready, run_ready, Turn.mk_andThen]
  | waiting resume ih =>
      rw [bind_waiting, run_waiting, run_waiting, Turn.andThen_assoc]
      have rest := ih store
      generalize resume store = turn at rest ⊢
      obtain ⟨future, store, lines⟩ := turn
      cases future with
      | ready value =>
          rw [bindOn_ready, Turn.after_andThen, poll_andThen_run]
          simp only [Turn.andThen, run_ready, Turn.after_nil]
      | waiting resume =>
          rw [bindOn_waiting]
          simp only [Turn.andThen]
          rw [rest store]
          rfl

theorem run_perform (action : Action σ α) : (perform action).run = action := by
  funext store
  rw [perform, run_waiting, Turn.map_andThen]
  simp only [Turn.andThen, run_ready, Turn.after, List.append_nil]

theorem run_map (change : α → β) (future : Future σ α) (store : σ) :
    (future.map change).run store = (future.run store).map change := by
  rw [map, run_bind]
  simp only [run_ready, Turn.andThen, Turn.after, Turn.map, List.append_nil]

theorem poll_map (change : α → β) (future : Future σ α) (store : σ) :
    (future.map change).poll store = (future.poll store).map (map change) := by
  rw [map, poll_bind]
  generalize future.poll store = turn
  obtain ⟨future, store, lines⟩ := turn
  cases future with
  | ready value =>
      simp only [bindOn_ready, poll, Turn.after, List.append_nil, Turn.map, map, bind_ready]
  | waiting resume => rw [bindOn_waiting, Turn.map, map]

theorem map_bind (future : Future σ α) (change : α → β) (next : β → Future σ γ) :
    (future.map change).bind next = future.bind fun value => next (change value) := by
  rw [map, bind_assoc]
  simp only [bind_ready]

theorem map_perform (change : α → β) (action : Action σ α) :
    (perform action).map change = perform fun store => (action store).map change := by
  rw [map, perform, perform, bind_waiting]
  simp only [Turn.map, bindOn_ready, poll, Turn.after, List.append_nil]

theorem perform_bind (action : Action σ α) (next : α → Future σ β) :
    (perform action).bind next = waiting fun store =>
      ((next (action store).value).poll (action store).store).after (action store).lines := by
  rw [perform, bind_waiting]
  simp only [Turn.map, bindOn_ready]

mutual

/-- How many polls leave a future unfinished when it is polled to its end. -/
def pendings : Future σ α → σ → Nat
  | .ready _, _ => 0
  | .waiting resume, store => pendingsOn (resume store)

def pendingsOn : Turn σ (Future σ α) → Nat
  | ⟨.ready _, _, _⟩ => 0
  | ⟨.waiting resume, store, _⟩ => pendings (.waiting resume) store + 1

end

theorem pendingsOn_after (turn : Turn σ (Future σ α)) (earlier : List String) :
    pendingsOn (turn.after earlier) = pendingsOn turn := by
  obtain ⟨future, store, lines⟩ := turn
  cases future with
  | ready value => simp only [Turn.after, pendingsOn]
  | waiting resume => simp only [Turn.after, pendingsOn]

theorem pendings_ready (value : α) (store : σ) : (ready value).pendings store = 0 := by
  rw [pendings]

theorem pendings_eq_poll (future : Future σ α) (store : σ) :
    future.pendings store = pendingsOn (future.poll store) := by
  cases future with
  | ready value => rw [pendings, poll, pendingsOn]
  | waiting resume => rw [pendings, poll]

/-- A bound future is interrupted where its parts are, and nowhere else. -/
theorem pendings_bind (future : Future σ α) (next : α → Future σ β) (store : σ) :
    (future.bind next).pendings store = future.pendings store +
      (next (future.run store).value).pendings (future.run store).store := by
  induction future generalizing store with
  | ready value => rw [bind_ready, pendings_ready, run_ready, Nat.zero_add]
  | waiting resume ih =>
      rw [bind_waiting, pendings, pendings, run_waiting]
      have rest := ih store
      generalize resume store = turn at rest ⊢
      obtain ⟨future, store, lines⟩ := turn
      cases future with
      | ready value =>
          rw [bindOn_ready, pendingsOn_after, ← pendings_eq_poll, pendingsOn, Nat.zero_add]
          simp only [Turn.andThen, run_ready, Turn.after]
      | waiting resume =>
          have step := rest store
          rw [bind_waiting] at step
          rw [bindOn_waiting, bind_waiting, pendingsOn, step, pendingsOn, Nat.add_right_comm]
          simp only [Turn.andThen, Turn.after]

theorem pendings_map (change : α → β) (future : Future σ α) (store : σ) :
    (future.map change).pendings store = future.pendings store := by
  rw [map, pendings_bind, pendings_ready, Nat.add_zero]

theorem pendings_perform (action : Action σ α) (store : σ) :
    (perform action).pendings store = 0 := by
  rw [perform, pendings, Turn.map, pendingsOn]

def polls : Nat → Future σ α → Action σ (Future σ α)
  | 0, future, store => ⟨future, store, []⟩
  | count + 1, future, store => (future.poll store).andThen (polls count)

/-- Up to and with poll `pendings` the future that is left is unfinished. -/
theorem polls_unfinished (count : Nat) (future : Future σ α) (store : σ)
    (unfinished : future.isReady = false) (early : count ≤ future.pendings store) :
    (polls count future store).value.isReady = false := by
  induction count generalizing future store with
  | zero => exact unfinished
  | succ count ih =>
      rw [pendings_eq_poll] at early
      simp only [polls, Turn.andThen_value]
      generalize future.poll store = turn at early ⊢
      obtain ⟨future, store, lines⟩ := turn
      cases future with
      | ready value => simp only [pendingsOn] at early; omega
      | waiting resume =>
          simp only [pendingsOn] at early
          exact ih (.waiting resume) store rfl (by omega)

/-- The poll after the last interruption finishes the future. -/
theorem polls_finished (future : Future σ α) (store : σ) :
    polls (future.pendings store + 1) future store = (future.run store).map ready := by
  induction future generalizing store with
  | ready value => rw [pendings_ready, polls, poll, Turn.mk_andThen, polls, run_ready, Turn.map]
  | waiting resume ih =>
      rw [pendings, polls, run_waiting]
      change (resume store).andThen _ = _
      have rest := ih store
      generalize resume store = turn at rest ⊢
      obtain ⟨future, store, lines⟩ := turn
      cases future with
      | ready value => simp only [pendingsOn, polls, Turn.andThen, run_ready, Turn.map, Turn.after]
      | waiting resume =>
          simp only [pendingsOn, Turn.andThen]
          rw [rest store, Turn.after_map]

end Future

end Chaincode
