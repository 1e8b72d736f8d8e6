import Chaincode.Proofs.Delay
import Mathlib.Algebra.BigOperators.Group.Finset.Piecewise
import Mathlib.Algebra.Order.Group.Multiset

namespace Chaincode

/-! Handlers with a state of their own, and handlers that count.

A scripted handler does what its script says: it works on the state that such handlers
share, is interrupted, and asks dispatchers that it holds; what it is told is noted as
heard.  A counting handler is a tally.  Which of its runs it was that a counting handler
answered is shown by the answer, wherever this arrives.
-/

/-- A run of a counter: the counter, and what the run answered. -/
abbrev Run := Nat × Payload

namespace Counters

/-- All runs that have been counted: of every counter one for each number from one on. -/
def runs (counters : Counters) : Multiset Run :=
  ∑ counter ∈ Finset.range counters.counts.length,
    (Multiset.range (counters.read counter)).map fun number =>
      (counter, Sample.text (toString (number + 1)))

variable {counters : Counters} {counter : Nat}

theorem read_increment (inside : counter < counters.counts.length) (other : Nat) :
    (counters.increment counter).2.read other =
      counters.read other + if counter = other then 1 else 0 := by
  simp only [increment, read, List.getD_eq_getElem?_getD, List.getElem?_modify]
  by_cases same : counter = other
  · subst same
    simp [inside]
  · simp [same]

theorem length_increment (counters : Counters) (counter : Nat) :
    (counters.increment counter).2.counts.length = counters.counts.length :=
  List.length_modify ..

theorem runs_increment (inside : counter < counters.counts.length) :
    (counters.increment counter).2.runs =
      counters.runs + {(counter, Sample.text (toString (counters.increment counter).1))} := by
  have counted : (counters.increment counter).1 = counters.read counter + 1 := by
    change (counters.increment counter).2.read counter = _
    rw [read_increment inside, if_pos rfl]
  have each (other : Nat) : ((Multiset.range ((counters.increment counter).2.read other)).map
      fun number => (other, Sample.text (toString (number + 1)))) =
        (Multiset.range (counters.read other)).map
          (fun number => (other, Sample.text (toString (number + 1)))) +
        if counter = other then {(counter, Sample.text (toString (counters.read counter + 1)))}
        else 0 := by
    rw [read_increment inside]
    by_cases same : counter = other
    · subst same
      rw [if_pos rfl, if_pos rfl, Multiset.range_succ, Multiset.map_cons,
        ← Multiset.singleton_add]
      exact add_comm _ _
    · rw [if_neg same, if_neg same, Nat.add_zero, add_zero]
  rw [runs, length_increment, Finset.sum_congr rfl fun other _ => each other,
    Finset.sum_add_distrib, Finset.sum_ite_eq, if_pos (Finset.mem_range.mpr inside), counted]
  rfl

end Counters

inductive Query where
  | start
  | dispatch (stub : Stub) (invocation : Invocation)
  | invoke (stub : Stub)
  | call (stub : Stub) (invocation : Invocation)
  /-- Dispatches that are polled in rounds. -/
  | all (calls : List (Stub × Invocation))

inductive Told where
  | outcome (outcome : Outcome)
  | outcomes (outcomes : List Outcome)
  | result (result : Except DispatchError Payload)
  | completion (completion : Completion)

/-- The methods that are asked for, in the order of the answers. -/
def Query.methods : Query → List String
  | .start => []
  | .dispatch _ invocation | .call _ invocation => [invocation.method]
  | .invoke stub => [stub.invocation.method]
  | .all calls => calls.map fun call => call.2.method

/-- What each answer brings. -/
def Told.payloads : Told → List (Option Payload)
  | .outcome answer => [answer.payload]
  | .outcomes answers => answers.map Outcome.payload
  | .result answer => [answer.toOption]
  | .completion answer => [answer.caught.toOption]

def Dispatcher.ask (dispatcher : Dispatcher σ) : Query → Future σ Told
  | .start => (Future.perform dispatcher.start).map .outcome
  | .dispatch stub invocation => (dispatcher.dispatch stub invocation).map .outcome
  | .invoke stub => (dispatcher.invoke stub).map .outcome
  | .call stub invocation => (dispatcher.call stub invocation).map .result
  | .all calls => (Future.all (calls.map fun call =>
      dispatcher.dispatch call.1 call.2)).map .outcomes

/-- What a handler was told by one of the dispatchers, which has this number. -/
structure Hearing where
  dispatcher : Nat
  query : Query
  told : Told

/-- What handlers share: counters, and whatever else they keep. -/
structure World (σ : Type) where
  kept : σ
  counters : Counters := {}
  /-- What handlers were told when they asked dispatchers. -/
  heard : List Hearing := []

namespace World

def hear (hearing : Hearing) : Action (World σ) Unit := fun world =>
  ⟨(), { world with heard := world.heard ++ [hearing] }, []⟩

def count (counter : Nat) : Action (World σ) Payload := fun world =>
  let (runs, counters) := world.counters.increment counter
  ⟨Sample.text (toString runs), { world with counters }, []⟩

end World

namespace Future

mutual

/-- The same work, on the counters of a world. -/
def inWorld : Future Counters α → Future (World σ) α
  | .ready value => .ready value
  | .waiting resume => .waiting fun world => inWorldOn (resume world.counters) world

def inWorldOn : Turn Counters (Future Counters α) → World σ → Turn (World σ) (Future (World σ) α)
  | ⟨future, counters, lines⟩, world => ⟨inWorld future, { world with counters }, lines⟩

end

theorem inWorld_pause_perform (pauses : Nat) (action : Action Counters α) :
    (((pause pauses).bind fun _ => perform action).inWorld : Future (World σ) α) =
      (pause pauses).bind fun _ => perform fun world =>
        let turn := action world.counters
        ⟨turn.value, { world with counters := turn.store }, turn.lines⟩ := by
  induction pauses with
  | zero =>
      simp only [pause, bind_waiting, bindOn_ready, perform, poll_waiting, Turn.map, Turn.after,
        List.nil_append, inWorld, inWorldOn]
  | succ pauses ih =>
      obtain ⟨early, paused⟩ := pause_waiting (σ := Counters) pauses
      obtain ⟨resume, waits⟩ := pause_waiting (σ := World σ) pauses
      rw [paused, waits] at ih
      simp only [pause, paused, waits, bind_waiting _, bindOn_waiting, inWorld, inWorldOn] at ih ⊢
      rw [ih]

end Future

/-- The same handler, for the counters of a world. -/
def Handler.inWorld (handler : Handler Counters) : Handler (World σ) :=
  ⟨handler.name, fun stub arguments world =>
    let turn := handler.call stub arguments world.counters
    ⟨turn.value.map Future.inWorld, { world with counters := turn.store }, turn.lines⟩⟩

/-- A handler that answers with the number of its run. -/
def counting (counter : Nat) (name : String) (pauses : Nat) : Handler (World σ) :=
  ((Sample.tally counter).handler name pauses).inWorld

inductive Script (σ : Type) where
  | finish (completion : Completion)
  /-- Works on what is kept, and goes on as it was before that. -/
  | act (work : Action σ Unit) (next : σ → Script σ)
  | pause (next : Script σ)
  /-- Asks one of the dispatchers that the handler holds, if there is such a one. -/
  | ask (held : Nat) (query : Query) (next : Option Told → Script σ)

def Script.future (held : List (Nat × Dispatcher (World σ))) :
    Script σ → Future (World σ) Completion
  | .finish completion => .ready completion
  | .act work next => .waiting fun world =>
      let turn := work world.kept
      ((future held (next world.kept)).poll { world with kept := turn.store }).after turn.lines
  | .pause next => .waiting fun world => ⟨.waiting (future held next).poll, world, []⟩
  | .ask place query next =>
      match held[place]? with
      | none => future held (next none)
      | some (number, dispatcher) => (dispatcher.ask query).bind fun told =>
          (Future.perform (World.hear ⟨number, query, told⟩)).bind fun _ =>
            future held (next (some told))

/-- What a call does before there is a future, and the script of the future. -/
abbrev Plan (σ : Type) := Stub → List String → Action σ (Except Panic (Script σ))

def Plan.handler (plan : Plan σ) (name : String) (held : List (Nat × Dispatcher (World σ))) :
    Handler (World σ) :=
  ⟨name, fun stub arguments world =>
    let turn := plan stub arguments world.kept
    ⟨turn.value.map (Script.future held), { world with kept := turn.store }, turn.lines⟩⟩

section Counting

variable {counter : Nat} {name : String} {pauses : Nat} {dispatcher : Dispatcher (World σ)}
  {stub : Stub} {invocation : Invocation}

/-- Calling a counting handler does nothing; its future counts in its last poll. -/
theorem counting_call (stub : Stub) (arguments : List String) :
    (counting counter name pauses : Handler (World σ)).call stub arguments =
      Action.pure (.ok ((Future.pause pauses).bind fun _ =>
        .perform fun world => (World.count counter world).map .returned)) := by
  funext world
  change Turn.mk (Except.ok (Future.inWorld _)) world [] = _
  rw [Sample.work, Future.inWorld_pause_perform]
  rfl

theorem counting_future (counter : Nat) (name : String) (pauses : Nat) (stub : Stub)
    (arguments : List String) :
    ((counting counter name pauses : Handler (World σ)).future stub arguments).Delays
      (fun world => (World.count counter world).map .returned) pauses [] := by
  rw [Handler.future, counting_call]
  exact Future.delays_perform_bind [] (fun _ => rfl) (Future.delays_pause _ pauses)

theorem counting_called
    (found : dispatcher.registry.get? invocation.method = some (counting counter name pauses)) :
    (dispatcher.call stub invocation).Delays
      (fun world => (World.count counter world).map .ok) pauses [] := by
  rw [Dispatcher.call_known found]
  exact (counting_future counter name pauses stub invocation.arguments).map fun completion =>
    completion.caught.mapError (DispatchError.handler invocation.method)

/-- A dispatch adds the line of the invocation to the first poll, and nothing to the last. -/
theorem counting_dispatched
    (found : dispatcher.registry.get? invocation.method = some (counting counter name pauses)) :
    (dispatcher.dispatch stub invocation).Delays
      (fun world => (World.count counter world).map fun payload => .success (some payload)) pauses
      [invocation.logLine] := by
  have called : (dispatcher.call stub invocation).Delays
      (fun world => (World.count counter world).map .ok) pauses [] := counting_called found
  have concluded := called.bind (fun result => .perform (Dispatcher.conclude result))
    Dispatcher.conclude fun _ _ => rfl
  rw [Dispatcher.dispatch_eq]
  exact Future.delays_perform_bind [invocation.logLine] (fun _ => rfl) concluded

theorem counting_served
    (found : dispatcher.registry.get? stub.invocation.method =
      some (counting counter name pauses)) :
    (Service.Server.answer ⟨dispatcher⟩ (.invoke stub)).Delays
      (fun world => (World.count counter world).map fun payload =>
        .result (.success (some payload))) pauses [stub.invocation.logLine] :=
  (counting_dispatched found).map _

end Counting

end Chaincode
