import Chaincode.Proofs.Concurrency

namespace Chaincode

/-! Dispatchers whose handlers ask other dispatchers.

A forwarding handler puts its arguments into a stub of its own, asks another dispatcher
and passes the outcome on.  Through any number of such levels the outcome stays what it
is at the innermost one, and each level adds its two lines around those of the next.
Main statement: `chain_keeps_outcome`.
-/

namespace Future

theorem run_pause (count : Nat) (store : σ) : (pause count).run store = ⟨(), store, []⟩ := by
  induction count with
  | zero =>
      rw [pause, run_waiting, Turn.mk_andThen, run_ready]
  | succ count ih => rw [pause, run_waiting, Turn.mk_andThen, ih]

end Future

/-- Called with these arguments, the handler asks `next` with `fresh`, which has these arguments,
after some interruptions, and passes the outcome on. -/
def Handler.Forwards (handler : Handler σ) (stub : Stub) (arguments : List String)
    (next : Dispatcher σ) (fresh : Stub) : Prop :=
  fresh.arguments = arguments ∧ ∃ pauses, handler.call stub arguments =
    Action.pure (.ok ((Future.pause pauses).bind fun _ => (next.invoke fresh).map Sample.forwarded))

theorem Handler.run_forwards {handler : Handler σ} {stub fresh : Stub} {arguments : List String}
    {next : Dispatcher σ} (forwards : handler.Forwards stub arguments next fresh) (store : σ) :
    handler.run stub arguments store = ((next.invoke fresh).run store).map Sample.forwarded := by
  obtain ⟨_, pauses, called⟩ := forwards
  rw [Handler.run_eq, called, Action.pure, Turn.mk_andThen]
  change ((Future.pause pauses).bind _).run store = _
  rw [Future.run_bind, Future.run_pause, Turn.mk_andThen, Future.run_map]

theorem Sample.handler_forwards (next : Dispatcher Counters) (name : String) (pauses : Nat)
    (stub : Stub) (arguments : List String) :
    ((Sample.forward next).handler name pauses).Forwards stub arguments next
      (.ofArguments arguments) :=
  ⟨rfl, pauses, rfl⟩

/-- What a dispatcher is asked for, and the handler that it has for that. -/
structure Level (σ : Type) where
  stub : Stub
  handler : Handler σ

namespace Level

def invocation (level : Level σ) : Invocation := level.stub.invocation

/-- How the work of the handler ends. -/
def completion (level : Level σ) (store : σ) : Completion :=
  (level.handler.run level.stub level.invocation.arguments store).value

end Level

namespace Dispatcher

/-- The levels from an outer dispatcher, asked with `stub`, down to the one above `inner`, which is
asked with `last`. -/
inductive Chain (inner : Dispatcher σ) (last : Stub) : List (Level σ) → Dispatcher σ → Stub → Prop
  | innermost : Chain inner last [] inner last
  | level {levels : List (Level σ)} {dispatcher next : Dispatcher σ} {stub fresh : Stub}
      {handler : Handler σ} : dispatcher.registry.get? stub.invocation.method = some handler →
      handler.Forwards stub stub.invocation.arguments next fresh →
      Chain inner last levels next fresh →
      Chain inner last (⟨stub, handler⟩ :: levels) dispatcher stub

/-- The lines that levels add behind those of the innermost dispatcher. -/
def closing (levels : List (Level σ)) : Outcome → List String
  | .success _ => []
  | .failure message =>
      levels.reverse.map fun level => s!"{level.stub.invocation.method} failed: {message}"

theorem closing_cons (level : Level σ) (levels : List (Level σ)) (outcome : Outcome) :
    closing (level :: levels) outcome = closing levels outcome ++ closing [level] outcome := by
  cases outcome with
  | success payload => rfl
  | failure message =>
      simp only [closing, List.reverse_cons, List.map_append, List.reverse_nil, List.nil_append]

section Levels

variable {inner outer dispatcher next : Dispatcher σ} {last stub fresh : Stub} {handler : Handler σ}
  {levels : List (Level σ)}

/-- A level says what it is asked, does what the next one does, and says what failed; it changes
nothing about the outcome. -/
theorem run_level (found : dispatcher.registry.get? stub.invocation.method = some handler)
    (forwards : handler.Forwards stub stub.invocation.arguments next fresh) (store : σ) :
    let turn := (next.invoke fresh).run store
    (dispatcher.invoke stub).run store = ⟨turn.value, turn.store,
      stub.invocation.logLine :: turn.lines ++ closing [⟨stub, handler⟩] turn.value⟩ := by
  intro turn
  have worked : handler.run stub stub.invocation.arguments store = turn.map Sample.forwarded :=
    Handler.run_forwards forwards store
  rw [invoke, run_known found, worked]
  cases ended : turn.value with
  | success payload =>
      obtain ⟨_, _, _, bytes, _, rfl⟩ := (dispatch_success_iff payload store).mp ended
      have returned : (turn.map Sample.forwarded).value.caught = .ok bytes := by
        rw [Turn.map_value, ended]
        rfl
      rw [concluded_ok returned, closing, List.append_nil]
      rfl
  | failure message =>
      have failed : (turn.map Sample.forwarded).value.caught = .error (.message message) := by
        rw [Turn.map_value, ended]
        rfl
      rw [concluded_error failed]
      rfl

theorem Chain.run (chain : Chain inner last levels outer stub) (store : σ) :
    let turn := (inner.invoke last).run store
    (outer.invoke stub).run store = ⟨turn.value, turn.store,
      levels.map (fun level => level.invocation.logLine) ++ turn.lines ++
        closing levels turn.value⟩ := by
  intro turn
  induction chain with
  | innermost =>
      have nothing : closing ([] : List (Level σ)) turn.value = [] := by cases turn.value <;> rfl
      rw [nothing, List.append_nil]
      rfl
  | @level levels dispatcher next stub fresh handler found forwards _ ih =>
      rw [run_level found forwards, ih, closing_cons ⟨stub, handler⟩ levels]
      simp only [List.map_cons, List.cons_append, List.append_assoc]
      rfl

/-- No level ends in a panic: each passes on what the innermost dispatcher says. -/
theorem Chain.completion (chain : Chain inner last levels outer stub) (store : σ) :
    ∀ level ∈ levels,
      level.completion store = Sample.forwarded ((inner.invoke last).run store).value := by
  induction chain with
  | innermost => exact fun _ absent => (List.not_mem_nil absent).elim
  | @level levels dispatcher next stub fresh handler _ forwards later ih =>
      intro level member
      rcases List.mem_cons.mp member with rfl | deeper
      · rw [Level.completion, Level.invocation, Handler.run_forwards forwards, later.run]
        rfl
      · exact ih level deeper

/-- Each level is asked with one argument less than the level above it. -/
theorem Chain.arguments (chain : Chain inner last levels outer stub) :
    (∀ index (inside : index < levels.length),
      levels[index].stub.arguments = stub.arguments.drop index) ∧
    last.arguments = stub.arguments.drop levels.length := by
  induction chain with
  | innermost => exact ⟨fun _ inside => absurd inside (Nat.not_lt_zero _), rfl⟩
  | @level levels dispatcher next stub fresh handler _ forwards _ ih =>
      have shorter : fresh.arguments = stub.arguments.drop 1 := by
        rw [forwards.1]
        cases stub with
        | mk _ _ arguments => cases arguments <;> rfl
      rw [shorter] at ih
      simp only [List.drop_drop] at ih
      constructor
      · intro index inside
        cases index with
        | zero => rfl
        | succ index =>
            rw [List.getElem_cons_succ, ih.1 index (Nat.lt_of_succ_lt_succ inside), Nat.add_comm]
      · rw [ih.2, List.length_cons, Nat.add_comm]

/-- What a chain does, from what its innermost dispatcher does. -/
theorem Chain.relays (chain : Chain inner last levels outer stub) {store after : σ}
    {outcome : Outcome} {lines : List String}
    (ended : (inner.invoke last).run store = ⟨outcome, after, last.invocation.logLine :: lines⟩) :
    (outer.invoke stub).run store = ⟨outcome, after,
      (levels.map Level.stub ++ [last]).map (fun asked => asked.invocation.logLine) ++ lines ++
        closing levels outcome⟩ ∧
    ∀ level ∈ levels, level.completion store = Sample.forwarded outcome := by
  constructor
  · rw [chain.run, ended]
    simp only [List.map_append, List.map_map, List.append_assoc]
    rfl
  · intro level member
    rw [chain.completion store level member, ended]

/-- Through any number of levels the outcome is that of the innermost dispatcher, a message word for
word, and no level sees a panic.  The log has one line for each invocation, from the outermost to
the innermost, then what the innermost handler logs, and then, if it failed, one line for each of
them in the opposite order. -/
theorem chain_keeps_outcome (chain : Chain inner last levels outer stub) (store : σ) :
    let turn := (outer.invoke stub).run store
    let method := last.invocation.method
    let announced := (levels.map Level.stub ++ [last]).map fun asked =>
      s!"invoking {asked.invocation.method} with {Text.quotedList asked.invocation.arguments}"
    let failing (message : String) := levels.reverse.map fun level =>
      s!"{level.stub.invocation.method} failed: {message}"
    (∀ index (inside : index < levels.length),
      levels[index].stub.arguments = stub.arguments.drop index) ∧
    last.arguments = stub.arguments.drop levels.length ∧
    turn.value = ((inner.invoke last).run store).value ∧
    (inner.registry.get? method = none →
      let message := s!"Received unknown function {method} invocation"
      turn = ⟨.failure message, store,
        announced ++ [s!"no function of name:{method} found"] ++ failing message⟩ ∧
      ∀ level ∈ levels, level.completion store = .failed (.message message)) ∧
    ∀ handler, inner.registry.get? method = some handler →
      let work := handler.run last last.invocation.arguments store
      match work.value.caught with
      | .ok payload =>
          turn = ⟨.success (some payload), work.store, announced ++ work.lines⟩ ∧
          ∀ level ∈ levels, level.completion store = .returned payload
      | .error error =>
          turn = ⟨.failure error.describe, work.store,
            announced ++ work.lines ++ [s!"{method} failed: {error.describe}"] ++
              failing error.describe⟩ ∧
          ∀ level ∈ levels, level.completion store = .failed (.message error.describe) := by
  intro turn method announced failing
  obtain ⟨asked, remaining⟩ := chain.arguments
  have same : turn.value = ((inner.invoke last).run store).value := by
    change ((outer.invoke stub).run store).value = _
    rw [chain.run]
  refine ⟨asked, remaining, same, ?_, ?_⟩
  · intro absent message
    exact chain.relays (run_unknown absent store)
  · intro handler found work
    have known : (inner.invoke last).run store = _ := run_known found store
    split
    next payload ended =>
        rw [concluded_ok ended] at known
        obtain ⟨ran, passed⟩ := chain.relays known
        rw [closing, List.append_nil] at ran
        exact ⟨ran, passed⟩
    next error ended =>
        rw [concluded_error ended, List.cons_append] at known
        obtain ⟨ran, passed⟩ := chain.relays known
        rw [← List.append_assoc] at ran
        exact ⟨ran, passed⟩

end Levels

/-- A dispatcher with one handler, which asks `next`. -/
def relay (name : String) (named : name ≠ "") (next : Dispatcher Counters) (pauses : Nat) :
    Dispatcher Counters where
  name := name ++ "-relay"
  registry :=
    { handlers := [(Sample.forward next).handler name pauses]
      sorted := .cons (by simp) .nil
      named := by simpa [Sample.handler] using named }

/-- Two levels above a handler that panics after it has waited. -/
theorem trial_chain :
    let middle := relay "inside" (by decide) trial 0
    let outer := relay "outside" (by decide) middle 2
    let stub := Stub.ofArguments ["outside", "inside", "boom", "x"]
    let turn := (outer.invoke stub).run {}
    (∃ levels, Chain trial (.ofArguments ["boom", "x"]) levels outer stub ∧ levels.length = 2) ∧
    turn.value = .failure "handler panicked: kaboom" ∧
    turn.lines = ["invoking outside with [\"inside\", \"boom\", \"x\"]",
      "invoking inside with [\"boom\", \"x\"]", "invoking boom with [\"x\"]",
      "boom failed: handler panicked: kaboom", "inside failed: handler panicked: kaboom",
      "outside failed: handler panicked: kaboom"] := by
  intro middle outer stub turn
  have chain : Chain trial (.ofArguments ["boom", "x"])
      [⟨stub, (Sample.forward middle).handler "outside" 2⟩,
        ⟨.ofArguments ["inside", "boom", "x"], (Sample.forward trial).handler "inside" 0⟩]
      outer stub :=
    .level rfl (Sample.handler_forwards middle "outside" 2 stub _)
      (.level rfl (Sample.handler_forwards trial "inside" 0 _ _) .innermost)
  obtain ⟨_, _, _, _, known⟩ := chain_keeps_outcome chain {}
  have ran := known ((Sample.panics (.text "kaboom")).handler "boom" 1) rfl
  have ended : (((Sample.panics (.text "kaboom")).handler "boom" 1).run (.ofArguments ["boom", "x"])
      ["x"] {}).value.caught = .error (.panicked "kaboom") := by decide +kernel
  have arguments : (Stub.ofArguments ["boom", "x"]).invocation.arguments = ["x"] := rfl
  dsimp only at ran
  rw [arguments, ended] at ran
  refine ⟨⟨_, chain, rfl⟩, congrArg Turn.value ran.1, (congrArg Turn.lines ran.1).trans ?_⟩
  decide +kernel

end Dispatcher

end Chaincode
