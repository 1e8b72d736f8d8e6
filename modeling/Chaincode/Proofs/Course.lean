import Chaincode.Proofs.Dispatch

namespace Chaincode

/-! Work that no store can influence.

A course is all that can be seen of a future from outside: what each turn logs,
and the value at the end.  A steady handler has one course for each stub and
argument list; what it does to the store is its own affair.  Dispatches to
steady handlers have a course too.
-/

inductive Course (α : Type) where
  | finished (value : α)
  | turn (lines : List String) (rest : Course α)

namespace Course

def value : Course α → α
  | .finished value => value
  | .turn _ rest => rest.value

def lines : Course α → List String
  | .finished _ => []
  | .turn lines rest => lines ++ rest.lines

/-- The same course, with lines logged before it in its first turn. -/
def after (earlier : List String) : Course α → Course α
  | .finished value => .turn earlier (.finished value)
  | .turn lines rest => .turn (earlier ++ lines) rest

end Course

namespace Future

/-- Whatever store each turn starts from, the future takes this course. -/
def Follows : Future σ α → Course α → Prop
  | .ready value, .finished expected => value = expected
  | .waiting resume, .turn lines rest =>
      ∀ store, (resume store).lines = lines ∧ Follows (resume store).value rest
  | .ready _, .turn _ _ => False
  | .waiting _, .finished _ => False

theorem follows_ready (value : α) : (ready value : Future σ α).Follows (.finished value) := by
  rw [Follows]

theorem follows_waiting {resume : σ → Turn σ (Future σ α)} {lines : List String}
    {rest : Course α} :
    (waiting resume).Follows (.turn lines rest) ↔
      ∀ store, (resume store).lines = lines ∧ (resume store).value.Follows rest := by
  rw [Follows]

theorem eq_ready_of_follows {future : Future σ α} {value : α}
    (follows : future.Follows (.finished value)) : future = ready value := by
  cases future with
  | ready found => rw [Follows] at follows; rw [follows]
  | waiting resume => rw [Follows] at follows; contradiction

theorem eq_waiting_of_follows {future : Future σ α} {lines : List String} {rest : Course α}
    (follows : future.Follows (.turn lines rest)) :
    ∃ resume, future = waiting resume ∧
      ∀ store, (resume store).lines = lines ∧ (resume store).value.Follows rest := by
  cases future with
  | ready found => rw [Follows] at follows; contradiction
  | waiting resume => exact ⟨resume, rfl, follows_waiting.mp follows⟩

theorem run_of_follows {future : Future σ α} {course : Course α} (follows : future.Follows course)
    (store : σ) :
    (future.run store).value = course.value ∧ (future.run store).lines = course.lines := by
  induction course generalizing future store with
  | finished value =>
      rw [eq_ready_of_follows follows, run_ready]
      exact ⟨rfl, rfl⟩
  | turn lines rest ih =>
      obtain ⟨resume, rfl, step⟩ := eq_waiting_of_follows follows
      obtain ⟨logged, later⟩ := step store
      obtain ⟨value, restLines⟩ := ih later (resume store).store
      rw [run_waiting]
      exact ⟨value, by rw [Turn.andThen_lines, logged, restLines, Course.lines]⟩

theorem follows_perform_bind {action : Action σ α} {next : α → Future σ β}
    {lines : List String} {course : Course β}
    (steady : ∀ store, (action store).lines = lines ∧ (next (action store).value).Follows course) :
    ((perform action).bind next).Follows (course.after lines) := by
  rw [perform_bind]
  cases course with
  | finished value =>
      apply follows_waiting.mpr
      intro store
      obtain ⟨logged, follows⟩ := steady store
      rw [eq_ready_of_follows follows, logged]
      exact ⟨List.append_nil lines, follows_ready value⟩
  | turn more rest =>
      apply follows_waiting.mpr
      intro store
      obtain ⟨logged, follows⟩ := steady store
      obtain ⟨resume, equal, step⟩ := eq_waiting_of_follows follows
      obtain ⟨loggedMore, later⟩ := step (action store).store
      rw [equal, poll_waiting, logged]
      exact ⟨congrArg (lines ++ ·) loggedMore, later⟩

theorem follows_perform {action : Action σ α} {value : α} {lines : List String}
    (steady : ∀ store, (action store).value = value ∧ (action store).lines = lines) :
    (perform action).Follows (.turn lines (.finished value)) := by
  apply follows_waiting.mpr
  intro store
  obtain ⟨same, logged⟩ := steady store
  exact ⟨logged, by rw [Turn.map_value, same]; exact follows_ready value⟩

/-- One course for the whole, whichever future takes the course of the first part. -/
theorem follows_bind (next : α → Future σ β) (steady : ∀ value, ∃ course, (next value).Follows course)
    (course : Course α) :
    ∃ bound : Course β, ∀ future : Future σ α, future.Follows course →
      (future.bind next).Follows bound := by
  induction course with
  | finished value =>
      obtain ⟨bound, follows⟩ := steady value
      refine ⟨bound, fun future first => ?_⟩
      rw [eq_ready_of_follows first, bind_ready]
      exact follows
  | turn lines rest ih =>
      cases rest with
      | finished value =>
          obtain ⟨bound, follows⟩ := steady value
          refine ⟨bound.after lines, fun future first => ?_⟩
          obtain ⟨resume, rfl, step⟩ := eq_waiting_of_follows first
          have turns : ∀ store, resume store = ⟨ready value, (resume store).store, lines⟩ := by
            intro store
            obtain ⟨logged, follows⟩ := step store
            rw [← eq_ready_of_follows follows, ← logged]
          have performed : waiting resume =
              perform fun store => ⟨value, (resume store).store, lines⟩ := by
            rw [perform]
            exact congrArg waiting (funext turns)
          rw [performed]
          exact follows_perform_bind fun store => ⟨rfl, follows⟩
      | turn more rest =>
          obtain ⟨bound, follows⟩ := ih
          refine ⟨.turn lines bound, fun future first => ?_⟩
          obtain ⟨resume, rfl, step⟩ := eq_waiting_of_follows first
          rw [bind_waiting]
          apply follows_waiting.mpr
          intro store
          obtain ⟨logged, later⟩ := step store
          have whole := follows _ later
          generalize resume store = turn at logged later whole ⊢
          obtain ⟨future, store, logged⟩ := turn
          obtain ⟨resume, rfl, _⟩ := eq_waiting_of_follows later
          rw [bindOn_waiting]
          exact ⟨logged, whole⟩

theorem follows_map (change : α → β) {future : Future σ α} {course : Course α}
    (follows : future.Follows course) : ∃ mapped, (future.map change).Follows mapped := by
  obtain ⟨mapped, whole⟩ := follows_bind (fun value => (ready (change value) : Future σ β))
    (fun value => ⟨_, follows_ready (change value)⟩) course
  exact ⟨mapped, whole future follows⟩

end Future

namespace Handler

/-- The behaviour of a call, its effects on the store apart, is settled by the stub and the
arguments. -/
def Steady (handler : Handler σ) : Prop :=
  ∀ stub arguments, ∃ lines,
    (∃ panic, ∀ store, (handler.call stub arguments store).lines = lines ∧
      (handler.call stub arguments store).value = .error panic) ∨
    ∃ course, ∀ store, (handler.call stub arguments store).lines = lines ∧
      ∃ future, (handler.call stub arguments store).value = .ok future ∧ future.Follows course

theorem future_follows {handler : Handler σ} (steady : handler.Steady) (stub : Stub)
    (arguments : List String) : ∃ course, (handler.future stub arguments).Follows course := by
  obtain ⟨lines, panics | works⟩ := steady stub arguments
  · obtain ⟨panic, called⟩ := panics
    refine ⟨Course.after lines (.finished (Completion.panicked panic)),
      Future.follows_perform_bind fun store => ⟨(called store).1, ?_⟩⟩
    rw [(called store).2]
    exact Future.follows_ready _
  · obtain ⟨course, called⟩ := works
    refine ⟨course.after lines,
      Future.follows_perform_bind fun store => ⟨(called store).1, ?_⟩⟩
    obtain ⟨_, future, equal, follows⟩ := called store
    rw [equal]
    exact follows

end Handler

namespace Dispatcher

def Steady (dispatcher : Dispatcher σ) : Prop :=
  ∀ handler ∈ dispatcher.registry.handlers, handler.Steady

theorem follows_conclude (result : Except DispatchError Payload) :
    ∃ course, (Future.perform (conclude result) : Future σ Outcome).Follows course := by
  cases result with
  | ok payload => exact ⟨_, Future.follows_perform fun store => ⟨rfl, rfl⟩⟩
  | error error => exact ⟨_, Future.follows_perform fun store => ⟨rfl, rfl⟩⟩

theorem dispatch_follows {dispatcher : Dispatcher σ} (steady : dispatcher.Steady) (stub : Stub)
    (invocation : Invocation) :
    ∃ course, (dispatcher.dispatch stub invocation).Follows course := by
  cases found : dispatcher.registry.get? invocation.method with
  | none =>
      obtain ⟨course, follows⟩ :=
        follows_conclude (σ := σ) (.error (.unknownMethod invocation.method))
      rw [dispatch_unknown found]
      exact ⟨_, Future.follows_perform_bind fun store => ⟨rfl, follows⟩⟩
  | some handler =>
      have member := (Registry.get?_eq_some.mp found).1
      obtain ⟨course, first⟩ :=
        Handler.future_follows (steady handler member) stub invocation.arguments
      obtain ⟨bound, follows⟩ := Future.follows_bind (concluding invocation.method)
        (fun _ => follows_conclude (σ := σ) _) course
      rw [dispatch_known found]
      exact ⟨_, Future.follows_perform_bind fun store => ⟨rfl, follows _ first⟩⟩

end Dispatcher

end Chaincode
