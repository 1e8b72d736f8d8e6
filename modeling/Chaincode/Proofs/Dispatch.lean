import Chaincode.Proofs.Ledger
import Chaincode.Proofs.Registry

namespace Chaincode

/-! What a dispatch does.

A dispatch logs the invocation, looks the method up, and either says that it is
unknown or does the handler's work and concludes from how that ended.  Nothing
of this is an interruption but those of the handler itself.  One thing gets out of
a dispatch: what is thrown when a caught panic is dropped.  Main statement:
`dispatch_exact`.
-/

namespace Completion

theorem settled_of_thrown {completion : Completion ε} {thrown : ε}
    (throws : completion.thrown? = some thrown) : completion.settled = .error thrown := by
  rw [settled, throws]

theorem settled_of_none {completion : Completion ε} (keeps : completion.thrown? = none) :
    completion.settled = .ok completion.caught := by
  rw [settled, keeps]

theorem thrown?_eq_some {completion : Completion ε} {thrown : ε} :
    completion.thrown? = some thrown ↔ completion = .panicked (.armed thrown) := by
  rcases completion with payload | error | content | _ | other
  · exact iff_of_false nofun nofun
  · exact iff_of_false nofun nofun
  · exact iff_of_false nofun nofun
  · exact iff_of_false nofun nofun
  · simp [thrown?, Panic.thrown?]

/-- Where nothing can be thrown, nothing is. -/
theorem thrown?_quiet (completion : Completion) : completion.thrown? = none :=
  Option.eq_none_iff_forall_ne_some.mpr fun thrown _ => thrown.elim

end Completion

namespace Handler

theorem run_eq (handler : Handler σ ε) (stub : Stub) (arguments : List String) (store : σ) :
    handler.run stub arguments store =
      (handler.call stub arguments store).andThen fun
        | .error panic => Action.pure (.panicked panic)
        | .ok future => future.run := by
  rw [run, future, Future.run_bind, Future.run_perform]
  congr 1
  funext called store
  cases called with
  | error panic => exact Future.run_ready _ _
  | ok future => rfl

/-- How often the future of a call is interrupted; without a future, never. -/
def pendings (handler : Handler σ ε) (stub : Stub) (arguments : List String) (store : σ) : Nat :=
  let called := handler.call stub arguments store
  match called.value with
  | .error _ => 0
  | .ok future => future.pendings called.store

theorem future_pendings (handler : Handler σ ε) (stub : Stub) (arguments : List String)
    (store : σ) :
    (handler.future stub arguments).pendings store = handler.pendings stub arguments store := by
  rw [future, Future.pendings_bind, Future.pendings_perform, Future.run_perform, Nat.zero_add,
    pendings]
  cases (handler.call stub arguments store).value with
  | error panic => exact Future.pendings_ready _ _
  | ok future => rfl

end Handler

namespace Dispatcher

/-- What is left of a dispatch once the handler is done. -/
def finish (method : String) (completion : Completion ε) : Future σ (Except ε Outcome) :=
  match completion.settled with
  | .error thrown => .ready (.error thrown)
  | .ok result => (Future.perform (conclude (result.mapError (.handler method)))).map .ok

/-- How a dispatch ends once the handler is done. -/
def ending (method : String) (completion : Completion ε) : Action σ (Except ε Outcome) :=
  match completion.thrown? with
  | some thrown => Action.pure (.error thrown)
  | none => fun store => (conclude (completion.caught.mapError (.handler method)) store).map .ok

section Throwing

variable {dispatcher : Dispatcher σ ε} {stub : Stub} {invocation : Invocation}
  {handler : Handler σ ε}

theorem run_finish (method : String) (completion : Completion ε) :
    (finish method completion : Future σ (Except ε Outcome)).run = ending method completion := by
  funext store
  rw [finish, ending]
  cases throws : completion.thrown? with
  | some thrown =>
      rw [Completion.settled_of_thrown throws]
      exact Future.run_ready _ _
  | none =>
      rw [Completion.settled_of_none throws]
      dsimp only
      rw [Future.map_perform, Future.run_perform]

theorem pendings_finish (method : String) (completion : Completion ε) (store : σ) :
    (finish method completion : Future σ (Except ε Outcome)).pendings store = 0 := by
  rw [finish]
  cases completion.settled with
  | error thrown => exact Future.pendings_ready _ _
  | ok result =>
      dsimp only
      rw [Future.map_perform, Future.pendings_perform]

theorem beside_conclude (result : Except DispatchError Payload) :
    (Future.perform (conclude result) : Future σ Outcome).beside =
      .perform (conclude result) := by
  rw [Future.beside_perform]
  congr 1
  funext both
  cases result <;> rfl

theorem beside_finish (method : String) (completion : Completion ε) :
    (finish method completion : Future σ (Except ε Outcome)).beside =
      finish method completion := by
  rw [finish, finish]
  cases completion.settled with
  | error thrown => exact Future.beside_ready _
  | ok result =>
      dsimp only
      rw [Future.beside_map, beside_conclude]

theorem orThrow_unknown (absent : dispatcher.registry.get? invocation.method = none) :
    dispatcher.dispatchOrThrow stub invocation =
      (Future.perform (Action.log invocation.logLine)).bind fun _ =>
        (Future.perform (conclude (.error (.unknownMethod invocation.method)))).map .ok := by
  simp only [dispatchOrThrow, attempt, absent, Future.bind_ready]

theorem orThrow_known (found : dispatcher.registry.get? invocation.method = some handler) :
    dispatcher.dispatchOrThrow stub invocation =
      (Future.perform (Action.log invocation.logLine)).bind fun _ =>
        (handler.future stub invocation.arguments).bind (finish invocation.method) := by
  simp only [dispatchOrThrow, attempt, found, guarded, Future.map_bind]
  congr 1
  funext _
  congr 1
  funext completion
  rw [finish]
  cases completion.settled <;> rfl

theorem orThrow_isReady : (dispatcher.dispatchOrThrow stub invocation).isReady = false := by
  rw [dispatchOrThrow, Future.perform_bind, Future.isReady]

theorem run_orThrow_unknown (absent : dispatcher.registry.get? invocation.method = none)
    (store : σ) :
    (dispatcher.dispatchOrThrow stub invocation).run store =
      ((conclude (.error (.unknownMethod invocation.method)) store).map .ok).after
        [invocation.logLine] := by
  rw [orThrow_unknown absent, Future.run_bind, Future.run_perform, Action.log, Turn.andThen,
    Future.map_perform, Future.run_perform]

theorem run_orThrow_known (found : dispatcher.registry.get? invocation.method = some handler)
    (store : σ) :
    (dispatcher.dispatchOrThrow stub invocation).run store =
      ((handler.run stub invocation.arguments store).andThen
        (ending invocation.method)).after [invocation.logLine] := by
  rw [orThrow_known found, Future.run_bind, Future.run_perform, Action.log, Turn.andThen,
    Future.run_bind]
  simp only [run_finish]
  rfl

theorem pendings_orThrow_unknown (absent : dispatcher.registry.get? invocation.method = none)
    (store : σ) : (dispatcher.dispatchOrThrow stub invocation).pendings store = 0 := by
  rw [orThrow_unknown absent, Future.pendings_bind, Future.pendings_perform,
    Future.pendings_map, Future.pendings_perform]

theorem pendings_orThrow_known
    (found : dispatcher.registry.get? invocation.method = some handler) (store : σ) :
    (dispatcher.dispatchOrThrow stub invocation).pendings store =
      handler.pendings stub invocation.arguments store := by
  rw [orThrow_known found, Future.pendings_bind, Future.pendings_perform, Future.run_perform,
    Nat.zero_add, Action.log, Future.pendings_bind, Handler.future_pendings, pendings_finish,
    Nat.add_zero]

theorem entries_unknown (absent : dispatcher.registry.get? invocation.method = none) :
    dispatcher.entries stub invocation = [] := by
  rw [entries, absent]
  rfl

theorem entries_known (found : dispatcher.registry.get? invocation.method = some handler) :
    dispatcher.entries stub invocation =
      [⟨handler.name, stub, invocation.arguments⟩] := by
  rw [entries, found]
  rfl

/-- Recording adds to a dispatch that its first poll notes the call of the handler. -/
theorem orThrow_recorded (dispatcher : Dispatcher σ ε) (stub : Stub) (invocation : Invocation) :
    dispatcher.recorded.dispatchOrThrow stub invocation =
      (dispatcher.dispatchOrThrow stub invocation).noting (dispatcher.entries stub invocation) := by
  have lookup := dispatcher.registry.get?_recorded invocation.method
  cases found : dispatcher.registry.get? invocation.method with
  | none =>
      rw [orThrow_unknown (by rw [recorded, lookup, found]; rfl), orThrow_unknown found,
        entries_unknown found, Future.log_noting, Future.noting_nil, Future.beside_map,
        beside_conclude]
      rw [Future.map_perform]
      rfl
  | some handler =>
      have unfinished := handler.future_isReady stub invocation.arguments
      rw [orThrow_known (by rw [recorded, lookup, found]; rfl), orThrow_known found,
        entries_known found, Handler.future_recorded, Future.log_noting,
        Future.noting_bind _ _ _ unfinished]
      · simp only [beside_finish]
      · rw [Handler.future, Future.perform_bind, Future.bind_waiting, Future.isReady]

theorem get?_eq_none_of_not_mem_names {registry : Registry σ ε} {name : String}
    (unknown : name ∉ registry.names) : registry.get? name = none := by
  apply Registry.get?_eq_none.mpr
  intro handler member same
  exact unknown (List.mem_map.mpr ⟨handler, member, same⟩)

theorem concluded_ok {work : Turn σ (Completion ε)} {payload : Payload} {method line : String}
    (ended : work.value.caught = .ok payload) :
    (work.andThen fun completion =>
        conclude (completion.caught.mapError (.handler method))).after [line] =
      ⟨.success (some payload), work.store, line :: work.lines⟩ := by
  rw [Turn.andThen, ended]
  change Turn.after ⟨_, _, work.lines ++ []⟩ [line] = _
  rw [List.append_nil]
  rfl

theorem concluded_error {work : Turn σ (Completion ε)} {error : HandlerError} {method line : String}
    (ended : work.value.caught = .error error) :
    (work.andThen fun completion =>
        conclude (completion.caught.mapError (.handler method))).after [line] =
      ⟨.failure error.describe, work.store,
        line :: work.lines ++ [s!"{method} failed: {error.describe}"]⟩ := by
  rw [Turn.andThen, ended]
  rfl

theorem ended_of_none {work : Turn σ (Completion ε)} {method line : String}
    (keeps : work.value.thrown? = none) :
    (work.andThen (ending method)).after [line] =
      ((work.andThen fun completion =>
        conclude (completion.caught.mapError (.handler method))).after [line]).map .ok := by
  rw [Turn.andThen, ending, keeps]
  rfl

theorem ended_thrown {work : Turn σ (Completion ε)} {thrown : ε} {method line : String}
    (throws : work.value.thrown? = some thrown) :
    (work.andThen (ending method)).after [line] =
      ⟨.error thrown, work.store, line :: work.lines⟩ := by
  rw [Turn.andThen, ending, throws]
  change Turn.after ⟨_, _, work.lines ++ []⟩ [line] = _
  rw [List.append_nil]
  rfl

theorem orThrow_success_iff (payload : Option Payload) (store : σ) :
    ((dispatcher.dispatchOrThrow stub invocation).run store).value = .ok (.success payload) ↔
      ∃ handler ∈ dispatcher.registry.handlers, handler.name = invocation.method ∧
        ∃ bytes, (handler.run stub invocation.arguments store).value = .returned bytes ∧
          payload = some bytes := by
  constructor
  · intro succeeded
    cases found : dispatcher.registry.get? invocation.method with
    | none =>
        rw [run_orThrow_unknown found] at succeeded
        cases succeeded
    | some handler =>
        rw [run_orThrow_known found] at succeeded
        obtain ⟨member, same⟩ := Registry.get?_eq_some.mp found
        refine ⟨handler, member, same, ?_⟩
        cases throws : (handler.run stub invocation.arguments store).value.thrown? with
        | some thrown =>
            rw [ended_thrown throws] at succeeded
            cases succeeded
        | none =>
            rw [ended_of_none throws] at succeeded
            cases ended : (handler.run stub invocation.arguments store).value with
            | returned bytes =>
                rw [concluded_ok (by rw [ended, Completion.caught])] at succeeded
                cases succeeded
                exact ⟨bytes, rfl, rfl⟩
            | failed error =>
                rw [concluded_error (by rw [ended, Completion.caught])] at succeeded
                cases succeeded
            | panicked panic =>
                rw [concluded_error (by rw [ended, Completion.caught])] at succeeded
                cases succeeded
  · rintro ⟨handler, member, same, bytes, ended, rfl⟩
    rw [run_orThrow_known (Registry.get?_eq_some.mpr ⟨member, same⟩),
      ended_of_none (by rw [ended, Completion.thrown?]),
      concluded_ok (by rw [ended, Completion.caught])]
    rfl

theorem orThrow_error_iff (thrown : ε) (store : σ) :
    ((dispatcher.dispatchOrThrow stub invocation).run store).value = .error thrown ↔
      ∃ handler ∈ dispatcher.registry.handlers, handler.name = invocation.method ∧
        (handler.run stub invocation.arguments store).value = .panicked (.armed thrown) := by
  constructor
  · intro thrownOut
    cases found : dispatcher.registry.get? invocation.method with
    | none =>
        rw [run_orThrow_unknown found] at thrownOut
        cases thrownOut
    | some handler =>
        rw [run_orThrow_known found] at thrownOut
        obtain ⟨member, same⟩ := Registry.get?_eq_some.mp found
        refine ⟨handler, member, same, Completion.thrown?_eq_some.mp ?_⟩
        cases throws : (handler.run stub invocation.arguments store).value.thrown? with
        | some other =>
            rw [ended_thrown throws] at thrownOut
            cases thrownOut
            rfl
        | none =>
            rw [Turn.andThen, ending, throws] at thrownOut
            cases thrownOut
  · rintro ⟨handler, member, same, ended⟩
    have throws := Completion.thrown?_eq_some.mpr ended
    rw [run_orThrow_known (Registry.get?_eq_some.mpr ⟨member, same⟩), ended_thrown throws]

end Throwing

/-! Where nothing can be thrown, a dispatch has an outcome in every case. -/

section Quiet

variable {dispatcher : Dispatcher σ} {stub : Stub} {invocation : Invocation} {handler : Handler σ}

/-- What is left of such a dispatch once the handler is done. -/
def concluding (method : String) (completion : Completion) : Future σ Outcome :=
  .perform (conclude (completion.caught.mapError (.handler method)))

theorem settled_quiet (completion : Completion) : completion.settled = .ok completion.caught :=
  Completion.settled_of_none completion.thrown?_quiet

theorem call_unknown (absent : dispatcher.registry.get? invocation.method = none) :
    dispatcher.call stub invocation = .ready (.error (.unknownMethod invocation.method)) := by
  rw [call, attempt, absent, Future.map, Future.bind_ready]
  rfl

theorem call_known (found : dispatcher.registry.get? invocation.method = some handler) :
    dispatcher.call stub invocation = (handler.future stub invocation.arguments).map
      fun completion => completion.caught.mapError (.handler invocation.method) := by
  simp only [call, attempt, found, guarded, Future.map, Future.bind_assoc, Future.bind_ready,
    settled_quiet]
  rfl

theorem dispatch_eq (dispatcher : Dispatcher σ) (stub : Stub) (invocation : Invocation) :
    dispatcher.dispatch stub invocation =
      (Future.perform (Action.log invocation.logLine)).bind fun _ =>
        (dispatcher.call stub invocation).bind fun result => .perform (conclude result) := by
  rw [dispatch, dispatchOrThrow, Future.map, Future.bind_assoc, call]
  congr 1
  funext _
  rw [Future.bind_assoc, Future.map_bind]
  congr 1
  funext result
  cases result with
  | error thrown => exact thrown.elim
  | ok result =>
      change ((Future.perform (conclude result)).map .ok).map unthrown = _
      rw [Future.map_perform, Future.map_perform]
      rfl

theorem dispatch_unknown (absent : dispatcher.registry.get? invocation.method = none) :
    dispatcher.dispatch stub invocation =
      (Future.perform (Action.log invocation.logLine)).bind fun _ =>
        .perform (conclude (.error (.unknownMethod invocation.method))) := by
  simp only [dispatch_eq, call_unknown absent, Future.bind_ready]

theorem dispatch_known (found : dispatcher.registry.get? invocation.method = some handler) :
    dispatcher.dispatch stub invocation =
      (Future.perform (Action.log invocation.logLine)).bind fun _ =>
        (handler.future stub invocation.arguments).bind (concluding invocation.method) := by
  simp only [dispatch_eq, call_known found, Future.map_bind]
  rfl

theorem dispatch_isReady : (dispatcher.dispatch stub invocation).isReady = false := by
  rw [dispatch_eq, Future.perform_bind, Future.isReady]

theorem run_unknown (absent : dispatcher.registry.get? invocation.method = none) (store : σ) :
    (dispatcher.dispatch stub invocation).run store =
      (conclude (.error (.unknownMethod invocation.method)) store).after
        [invocation.logLine] := by
  rw [dispatch, Future.run_map, run_orThrow_unknown absent]
  rfl

theorem run_known (found : dispatcher.registry.get? invocation.method = some handler)
    (store : σ) :
    (dispatcher.dispatch stub invocation).run store =
      ((handler.run stub invocation.arguments store).andThen fun completion =>
        conclude (completion.caught.mapError (.handler invocation.method))).after
        [invocation.logLine] := by
  rw [dispatch, Future.run_map, run_orThrow_known found]
  simp only [Turn.andThen, ending, Completion.thrown?_quiet]
  rfl

theorem pendings_unknown (absent : dispatcher.registry.get? invocation.method = none)
    (store : σ) : (dispatcher.dispatch stub invocation).pendings store = 0 := by
  rw [dispatch, Future.pendings_map, pendings_orThrow_unknown absent]

theorem pendings_known (found : dispatcher.registry.get? invocation.method = some handler)
    (store : σ) :
    (dispatcher.dispatch stub invocation).pendings store =
      handler.pendings stub invocation.arguments store := by
  rw [dispatch, Future.pendings_map, pendings_orThrow_known found]

theorem dispatch_recorded (dispatcher : Dispatcher σ) (stub : Stub) (invocation : Invocation) :
    dispatcher.recorded.dispatch stub invocation =
      (dispatcher.dispatch stub invocation).noting (dispatcher.entries stub invocation) := by
  rw [dispatch, dispatch, orThrow_recorded, Future.noting_map _ _ _ orThrow_isReady]

theorem run_recorded (dispatcher : Dispatcher σ) (stub : Stub) (invocation : Invocation)
    (store : σ) (ledger : Ledger) :
    (dispatcher.recorded.dispatch stub invocation).run (store, ledger) =
      ((dispatcher.dispatch stub invocation).run store).beside
        (ledger ++ dispatcher.entries stub invocation) := by
  rw [dispatch_recorded, Future.run_noting _ _ _ _ dispatch_isReady]

theorem dispatch_success_iff (payload : Option Payload) (store : σ) :
    ((dispatcher.dispatch stub invocation).run store).value = .success payload ↔
      ∃ handler ∈ dispatcher.registry.handlers, handler.name = invocation.method ∧
        ∃ bytes, (handler.run stub invocation.arguments store).value = .returned bytes ∧
          payload = some bytes := by
  rw [← orThrow_success_iff, dispatch, Future.run_map, Turn.map_value]
  cases ((dispatcher.dispatchOrThrow stub invocation).run store).value with
  | error thrown => exact thrown.elim
  | ok outcome => rw [unthrown, Except.ok.injEq]

end Quiet

/-- Whatever the handler does, a dispatch ends, after as many interruptions as the handler has, and
gives one result.  It is a success exactly when the method is the name of a handler that returns,
and it is thrown exactly when this handler panics with an armed value; else the message tells the
unknown method, the error or the panic.  The handler of that name is called once with the stub and
the arguments, no other is called, and the log has the invocation, what the handler logs, and the
failure if there is one, in this order. -/
theorem dispatch_exact (dispatcher : Dispatcher σ ε) (stub : Stub) (invocation : Invocation)
    (store : σ) (ledger : Ledger) :
    let dispatch := dispatcher.dispatchOrThrow stub invocation
    let turn := dispatch.run store
    let recorded := (dispatcher.recorded.dispatchOrThrow stub invocation).run (store, ledger)
    let invoking := s!"invoking {invocation.method} with {Text.quotedList invocation.arguments}"
    (∀ count ≤ dispatch.pendings store, (dispatch.polls count store).value.isReady = false) ∧
    dispatch.polls (dispatch.pendings store + 1) store = turn.map .ready ∧
    (∀ payload, turn.value = .ok (.success payload) ↔
      ∃ handler ∈ dispatcher.registry.handlers, handler.name = invocation.method ∧
        ∃ bytes, (handler.run stub invocation.arguments store).value = .returned bytes ∧
          payload = some bytes) ∧
    (∀ thrown, turn.value = .error thrown ↔
      ∃ handler ∈ dispatcher.registry.handlers, handler.name = invocation.method ∧
        (handler.run stub invocation.arguments store).value = .panicked (.armed thrown)) ∧
    "" ∉ dispatcher.registry.names ∧
    (invocation.method ∉ dispatcher.registry.names →
      dispatch.pendings store = 0 ∧
      turn = ⟨.ok (.failure s!"Received unknown function {invocation.method} invocation"), store,
        [invoking, s!"no function of name:{invocation.method} found"]⟩ ∧
      recorded = turn.beside ledger) ∧
    (∀ handler ∈ dispatcher.registry.handlers, handler.name = invocation.method →
      let work := handler.run stub invocation.arguments store
      let failure (text : String) : Turn σ (Except ε Outcome) := ⟨.ok (.failure text), work.store,
        invoking :: work.lines ++ [s!"{invocation.method} failed: {text}"]⟩
      dispatch.pendings store = handler.pendings stub invocation.arguments store ∧
      recorded = turn.beside (ledger ++ [⟨handler.name, stub, invocation.arguments⟩]) ∧
      match work.value with
      | .returned payload =>
          turn = ⟨.ok (.success (some payload)), work.store, invoking :: work.lines⟩
      | .failed (.message text) => turn = failure text
      | .failed (.argumentCount expected got) =>
          turn = failure s!"incorrect number of arguments: expected {expected}, got {got}"
      | .failed (.panicked text) => turn = failure ("handler panicked: " ++ text)
      | .panicked (.text content) => turn = failure ("handler panicked: " ++ content)
      | .panicked .other => turn = failure "handler panicked: unknown panic payload"
      | .panicked (.armed thrown) =>
          turn = ⟨.error thrown, work.store, invoking :: work.lines⟩) := by
  intro dispatch turn recorded invoking
  have recording : recorded =
      turn.beside (ledger ++ dispatcher.entries stub invocation) := by
    change (dispatcher.recorded.dispatchOrThrow stub invocation).run (store, ledger) = _
    rw [orThrow_recorded, Future.run_noting _ _ _ _ orThrow_isReady]
  refine ⟨?_, Future.polls_finished dispatch store,
    fun payload => orThrow_success_iff payload store, fun thrown => orThrow_error_iff thrown store,
    ?_, ?_, ?_⟩
  · intro count early
    exact Future.polls_unfinished count dispatch store orThrow_isReady early
  · intro named
    obtain ⟨handler, member, unnamed⟩ := List.mem_map.mp named
    exact dispatcher.registry.named handler member unnamed
  · intro unknown
    have absent := get?_eq_none_of_not_mem_names unknown
    rw [entries_unknown absent, List.append_nil] at recording
    exact ⟨pendings_orThrow_unknown absent store, run_orThrow_unknown absent store, recording⟩
  · intro handler member same work failure
    have found := Registry.get?_eq_some.mpr ⟨member, same⟩
    rw [entries_known found] at recording
    refine ⟨pendings_orThrow_known found store, recording, ?_⟩
    have ran : turn = (work.andThen (ending invocation.method)).after [invocation.logLine] :=
      run_orThrow_known found store
    have failed {error : HandlerError} (keeps : work.value.thrown? = none)
        (ended : work.value.caught = .error error) : turn = failure error.describe :=
      ran.trans ((ended_of_none keeps).trans
        (congrArg (Turn.map Except.ok) (concluded_error ended)))
    -- Every way to end but the first and the last one is a failure with a text of its own.
    split
    next payload ended =>
        have returned : work.value.caught = .ok payload := by rw [ended]; rfl
        exact ran.trans ((ended_of_none (by rw [ended]; rfl)).trans
          (congrArg (Turn.map Except.ok) (concluded_ok returned)))
    next ended => exact failed (by rw [ended]; rfl) (by rw [ended]; rfl)
    next ended => exact failed (by rw [ended]; rfl) (by rw [ended]; rfl)
    next ended => exact failed (by rw [ended]; rfl) (by rw [ended]; rfl)
    next ended => exact failed (by rw [ended]; rfl) (by rw [ended]; rfl)
    next ended => exact failed (by rw [ended]; rfl) (by rw [ended]; rfl)
    next ended => exact ran.trans (ended_thrown (by rw [ended]; rfl))

/-- A handler that panics at once with an armed value. -/
def bomb : Dispatcher Unit Unit where
  name := "bomb"
  registry :=
    { handlers := [⟨"bomb", fun _ _ => Action.pure (.error (.armed ()))⟩]
      sorted := .cons (by simp) .nil
      named := by simp }

/-- A panic can get out of a dispatch. -/
theorem armed_panic_escapes :
    ¬ ∀ (dispatcher : Dispatcher Unit Unit) (stub : Stub) (invocation : Invocation),
      ∃ outcome, ((dispatcher.dispatchOrThrow stub invocation).run ()).value = .ok outcome := by
  intro contained
  obtain ⟨outcome, ended⟩ := contained bomb {} ⟨"bomb", []⟩
  cases ended

end Dispatcher

end Chaincode
