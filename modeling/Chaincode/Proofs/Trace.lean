import Chaincode.Proofs.Dispatch
import Chaincode.Proofs.Quoted

namespace Chaincode

/-! What a line of the log tells about the invocation that it announces.

The method stands in the line as it is, so it may hold anything that a line holds, lists
of arguments included; the arguments are found from the end of the line nevertheless.
Main statement: `invoking_line_identifies`.
-/

theorem Invocation.logLine_inj {first second : Invocation}
    (same : first.logLine = second.logLine) : first = second := by
  obtain ⟨front, arguments⟩ := Text.append_quotedList_inj same
  have method := (String.append_right_inj _).mp ((String.append_left_inj _).mp front)
  obtain ⟨_, _⟩ := first
  obtain ⟨_, _⟩ := second
  cases method
  cases arguments
  rfl

namespace Dispatcher

theorem run_logLine (dispatcher : Dispatcher σ) (stub : Stub) (invocation : Invocation)
    (store : σ) :
    ((dispatcher.dispatch stub invocation).run store).lines.head? = some invocation.logLine := by
  rw [dispatch_eq, Future.run_bind, Future.run_perform, Action.log, Turn.andThen_lines]
  rfl

/-- The first line of a dispatch is the announcement of its invocation, and two such lines are the
same only if the methods and the arguments are, whatever texts these are. -/
theorem invoking_line_identifies (dispatcher : Dispatcher σ) (another : Dispatcher τ)
    (stub otherStub : Stub) (invocation other : Invocation) (store : σ) (otherStore : τ) :
    let line := ((dispatcher.dispatch stub invocation).run store).lines.head?
    let otherLine := ((another.dispatch otherStub other).run otherStore).lines.head?
    line = some s!"invoking {invocation.method} with {Text.quotedList invocation.arguments}" ∧
      (line = otherLine ↔
        invocation.method = other.method ∧ invocation.arguments = other.arguments) := by
  intro line otherLine
  have first : line = some invocation.logLine := run_logLine dispatcher stub invocation store
  have second : otherLine = some other.logLine := run_logLine another otherStub other otherStore
  refine ⟨first, ?_⟩
  rw [first, second, Option.some_inj]
  constructor
  · intro same
    obtain rfl := Invocation.logLine_inj same
    exact ⟨rfl, rfl⟩
  · rintro ⟨method, arguments⟩
    rw [Invocation.logLine, Invocation.logLine, method, arguments]

end Dispatcher

end Chaincode
