import Chaincode.Handlers.Sample
import Chaincode.Proofs.Rounds
import Mathlib.Data.Fintype.Lattice
import Mathlib.Data.List.NodupEquivFin

namespace Chaincode

/-! Dispatches in rounds are dispatches in the order of their delays.

A handler is delayed if its future is interrupted a fixed number of times and then does
all of its work at once.  Dispatches to such handlers that are polled in rounds do what
they do one after the other, those with the smaller delay first and in the order of the
calls where delays are equal; only the lines of their invocations come all at once.
Main statement: `rounds_in_order_of_delay`.
-/

namespace Handler

/-- The delay of a call.  Without one, the call and the first poll are of any kind, and there may
be no future at all; else nothing happens before the work. -/
def Delays (handler : Handler σ) (stub : Stub) (arguments : List String) : Nat → Prop
  | 0 => ∀ store, handler.pendings stub arguments store = 0
  | delay + 1 => ∃ work, ∀ store, ∃ future,
      handler.call stub arguments store = ⟨.ok future, store, []⟩ ∧
        future.Delays work (delay + 1) []

end Handler

/-- Indices in the order of their delays; where these are equal, as they are. -/
def byDelay {count : Nat} (delay : Fin count → Nat) : List (Fin count) :=
  (List.finRange count).mergeSort fun first second => delay first ≤ delay second

/-- The order of a stable sort: by delay, and then by index. -/
def Precedes {count : Nat} (delay : Fin count → Nat) (first second : Fin count) : Prop :=
  delay first < delay second ∨ delay first = delay second ∧ first ≤ second

section Order

variable {count : Nat} (delay : Fin count → Nat)

theorem byDelay_perm : (byDelay delay).Perm (List.finRange count) := List.mergeSort_perm _ _

theorem byDelay_pairwise : (byDelay delay).Pairwise (Precedes delay) := by
  let le (first second : Fin count) : Bool := delay first ≤ delay second
  have transitive (first second third : Fin count) (forth : le first second)
      (on : le second third) : le first third := by
    simp only [le, decide_eq_true_eq] at forth on ⊢
    exact Nat.le_trans forth on
  have total (first second : Fin count) : le first second || le second first := by
    simp only [le, Bool.or_eq_true, decide_eq_true_eq]
    exact Nat.le_total _ _
  have sorted := List.pairwise_mergeSort (List.zipIdxLE_trans transitive)
    (List.zipIdxLE_total total) (List.finRange count).zipIdx
  -- The number beside an index is the index itself.
  have numbered (item : Fin count × Nat)
      (member : item ∈ (List.finRange count).zipIdx.mergeSort (List.zipIdxLE le)) :
      item.2 = item.1 := by
    have listed := List.mem_zipIdx_iff_getElem?.mp ((List.mergeSort_perm _ _).mem_iff.mp member)
    obtain ⟨inside, equal⟩ := List.getElem?_eq_some_iff.mp listed
    rw [← equal, List.getElem_finRange]
    rfl
  rw [byDelay, ← List.mergeSort_zipIdx, List.pairwise_map]
  refine sorted.imp_of_mem fun {first second} firstMember secondMember ordered => ?_
  rw [List.zipIdxLE, numbered first firstMember, numbered second secondMember] at ordered
  simp only [le, decide_eq_true_eq] at ordered
  split at ordered
  next less =>
    split at ordered
    next greater => exact .inr ⟨Nat.le_antisymm less greater, of_decide_eq_true ordered⟩
    next different => exact .inl (Nat.not_le.mp different)
  next => cases ordered

/-- Those with each delay, as they are, and the delays one after the other. -/
def dueInTurn (rounds : Nat) : List (Fin count) :=
  (List.range' 0 rounds).flatMap fun due =>
    (List.finRange count).filter fun index => delay index = due

theorem dueInTurn_pairwise (rounds : Nat) :
    (dueInTurn delay rounds).Pairwise
      fun first second => Precedes delay first second ∧ first ≠ second := by
  rw [dueInTurn, List.pairwise_flatMap]
  constructor
  · intro due _
    refine ((List.pairwise_lt_finRange count).filter _).imp_of_mem ?_
    intro first second firstMember secondMember less
    have firstDue := of_decide_eq_true (List.mem_filter.mp firstMember).2
    have secondDue := of_decide_eq_true (List.mem_filter.mp secondMember).2
    exact ⟨.inr ⟨firstDue.trans secondDue.symm, less.le⟩, less.ne⟩
  · refine (List.pairwise_lt_range' 1).imp ?_
    intro earlier later less first firstMember second secondMember
    have firstDue := of_decide_eq_true (List.mem_filter.mp firstMember).2
    have secondDue := of_decide_eq_true (List.mem_filter.mp secondMember).2
    have before : delay first < delay second := firstDue ▸ secondDue ▸ less
    exact ⟨.inl before, fun same => absurd (congrArg delay same) before.ne⟩

theorem byDelay_eq {rounds : Nat} (enough : ∀ index, delay index < rounds) :
    byDelay delay = dueInTurn delay rounds := by
  have ordered := dueInTurn_pairwise delay rounds
  have distinct : (dueInTurn delay rounds).Nodup := ordered.imp And.right
  have antisymmetric (first second : Fin count) (_ : first ∈ byDelay delay)
      (_ : second ∈ dueInTurn delay rounds) (forth : Precedes delay first second)
      (back : Precedes delay second first) : first = second := by
    unfold Precedes at forth back
    omega
  refine List.Perm.eq_of_pairwise antisymmetric (byDelay_pairwise delay) (ordered.imp And.left)
    ((byDelay_perm delay).trans ((List.perm_ext_iff_of_nodup (List.nodup_finRange count)
      distinct).mpr fun index => ?_))
  simp [dueInTurn, enough index]

end Order

namespace Dispatcher

variable {dispatcher : Dispatcher σ} {stub : Stub} {invocation : Invocation} {handler : Handler σ}
  {delay : Nat}

/-- The delay of a dispatch is the one of its handler; an unknown method has none. -/
def Delays (dispatcher : Dispatcher σ) (stub : Stub) (invocation : Invocation) (delay : Nat) :
    Prop :=
  match dispatcher.registry.get? invocation.method with
  | none => delay = 0
  | some handler => handler.Delays stub invocation.arguments delay

/-- A dispatch without the line of its invocation. -/
def concluded (dispatcher : Dispatcher σ) (stub : Stub) (invocation : Invocation) :
    Action σ Outcome := fun store =>
  ((dispatcher.call stub invocation).run store).andThen conclude

theorem run_dispatch (dispatcher : Dispatcher σ) (stub : Stub) (invocation : Invocation)
    (store : σ) :
    (dispatcher.dispatch stub invocation).run store =
      (dispatcher.concluded stub invocation store).after [invocation.logLine] := by
  rw [dispatch_eq, Future.run_bind, Future.run_perform, Action.log, Turn.andThen,
    Future.run_bind]
  simp only [Future.run_perform]
  rfl

theorem future_delays {arguments : List String}
    (delays : handler.Delays stub arguments (delay + 1)) :
    ∃ work, (handler.future stub arguments).Delays work (delay + 1) [] := by
  obtain ⟨work, called⟩ := delays
  refine ⟨work, fun store => ?_⟩
  obtain ⟨future, equal, later⟩ := called store
  obtain ⟨resume, polled, waits⟩ := later store
  rw [Handler.future, Future.perform_bind, Future.poll_waiting, equal]
  exact ⟨resume, by rw [polled]; rfl, waits⟩

/-- Behind the line of its invocation a dispatch is as delayed as its handler. -/
theorem call_delays (found : dispatcher.registry.get? invocation.method = some handler)
    (delays : handler.Delays stub invocation.arguments (delay + 1)) :
    ((dispatcher.call stub invocation).bind fun result => .perform (conclude result)).Delays
      (dispatcher.concluded stub invocation) (delay + 1) [] := by
  obtain ⟨work, waits⟩ := future_delays delays
  have called := waits.map fun completion =>
    completion.caught.mapError (DispatchError.handler invocation.method)
  -- All the work is known by what it does when it runs.
  obtain ⟨whole, rest⟩ : ∃ whole, ((dispatcher.call stub invocation).bind fun result =>
      .perform (conclude result)).Delays whole (delay + 1) [] :=
    ⟨_, call_known found ▸ called.bind _ conclude fun _ _ => rfl⟩
  have same : whole = dispatcher.concluded stub invocation := by
    funext store
    rw [← Turn.after_nil (whole store), ← rest.run store, Future.run_bind]
    simp only [Future.run_perform]
    rfl
  exact same ▸ rest

theorem dispatch_delays (delays : dispatcher.Delays stub invocation delay) :
    (dispatcher.dispatch stub invocation).Delays (dispatcher.concluded stub invocation) delay
      [invocation.logLine] := by
  unfold Delays at delays
  cases delay with
  | zero =>
      refine Future.delays_zero (fun store => ?_) (run_dispatch dispatcher stub invocation)
      split at delays
      next absent => exact pendings_unknown absent store
      next handler found => exact (pendings_known found store).trans (delays store)
  | succ delay =>
      split at delays
      next => cases delays
      next handler found =>
        rw [dispatch_eq]
        exact Future.delays_perform_bind [invocation.logLine] (fun _ => rfl)
          (call_delays found delays)

theorem concluded_unknown (absent : dispatcher.registry.get? invocation.method = none) (store : σ) :
    dispatcher.concluded stub invocation store =
      conclude (.error (.unknownMethod invocation.method)) store := by
  rw [concluded, call_unknown absent, Future.run_ready, Turn.mk_andThen]

theorem concluded_known (found : dispatcher.registry.get? invocation.method = some handler)
    (store : σ) :
    dispatcher.concluded stub invocation store =
      (handler.run stub invocation.arguments store).andThen fun completion =>
        conclude (completion.caught.mapError (.handler invocation.method)) := by
  rw [concluded, call_known found, Future.run_map, Turn.map_andThen, Handler.run]

theorem concluded_lines (dispatcher : Dispatcher σ) (stub : Stub) (invocation : Invocation)
    (store : σ) :
    (dispatcher.concluded stub invocation store).lines =
      match dispatcher.registry.get? invocation.method with
      | none => [s!"no function of name:{invocation.method} found"]
      | some handler =>
          let work := handler.run stub invocation.arguments store
          work.lines ++ match work.value.caught with
            | .ok _ => []
            | .error error => [s!"{invocation.method} failed: {error.describe}"] := by
  split
  next absent =>
      rw [concluded_unknown absent]
      rfl
  next handler found =>
      rw [concluded_known found, Turn.andThen_lines]
      cases ended : (handler.run stub invocation.arguments store).value.caught with
      | ok payload =>
          simp only [ended]
          rfl
      | error error =>
          simp only [ended]
          rfl

end Dispatcher

namespace Sample

/-- Whether a sample does its work in one poll. -/
def Prompt : Sample → Prop
  | .forward _ => False
  | _ => True

theorem work_eq_perform {sample : Sample} (prompt : sample.Prompt) (stub : Option Stub)
    (arguments : List String) : ∃ action, sample.work stub arguments = .perform action := by
  cases sample with
  | forward inner => exact prompt.elim
  | echo | join | bytes | fail | failShowing | expect | panics | panicsEarly | first | tally
  | identify | describeStub | ping => exact ⟨_, rfl⟩

/-- Samples are as delayed as they are interrupted, unless they panic early. -/
theorem handler_delays (sample : Sample) (prompt : sample.Prompt) (name : String) (pauses : Nat)
    (stub : Stub) (arguments : List String) :
    (sample.handler name pauses).Delays stub arguments
      (if (sample.earlyPanic? arguments).isSome then 0 else pauses) := by
  obtain ⟨action, work⟩ := work_eq_perform prompt (some stub) arguments
  cases early : sample.earlyPanic? arguments with
  | some panic =>
      intro store
      simp only [Handler.pendings, handler, call, early, Action.pure]
  | none =>
      have called (store : Counters) : (sample.handler name pauses).call stub arguments store =
          ⟨.ok ((Future.pause pauses).bind fun _ => .perform action), store, []⟩ := by
        simp only [handler, call, early, work, Action.pure]
      cases pauses with
      | zero =>
          intro store
          simp only [Handler.pendings, called, Future.pendings_bind, Future.pendings_perform]
          rfl
      | succ pauses => exact ⟨action, fun store => ⟨_, called store, Future.delays_pause _ _⟩⟩

end Sample

namespace Dispatcher

section Rounds

variable (dispatcher : Dispatcher σ) {count : Nat} (stubs : Fin count → Stub)
  (invocations : Fin count → Invocation) (delay : Fin count → Nat)

def sequence (indices : List (Fin count)) : Action σ (List Outcome) :=
  Action.each (fun index => (dispatcher.dispatch (stubs index) (invocations index)).run) indices

def together : Future σ (List Outcome) :=
  Future.all ((List.finRange count).map fun index =>
    dispatcher.dispatch (stubs index) (invocations index))

/-- The store that a dispatch finds when those that come first by their delay are done. -/
def found (store : σ) (index : Fin count) : σ :=
  (dispatcher.sequence stubs invocations ((byDelay delay).takeWhile (· ≠ index)) store).store

def ended (store : σ) (index : Fin count) : Turn σ Outcome :=
  dispatcher.concluded (stubs index) (invocations index)
    (dispatcher.found stubs invocations delay store index)

/-- A first round begins every dispatch with the line of its invocation. -/
def lead (round : Nat) (index : Fin count) : List String :=
  if round = 0 then [(invocations index).logLine] else []

theorem sequence_successive (store : σ) :
    Successive (fun index => (dispatcher.dispatch (stubs index) (invocations index)).run)
      (dispatcher.found stubs invocations delay store) (byDelay delay) store
      (dispatcher.sequence stubs invocations (byDelay delay) store).store :=
  successive_takeWhile _ ((byDelay_perm delay).nodup_iff.mpr (List.nodup_finRange count)) store

/-- The dispatches in the order of their delays, each as far as it comes after its first line. -/
theorem sequence_byDelay (store : σ) :
    dispatcher.sequence stubs invocations (byDelay delay) store =
      ⟨(byDelay delay).map fun index =>
          (dispatcher.ended stubs invocations delay store index).value,
        (dispatcher.sequence stubs invocations (byDelay delay) store).store,
        (byDelay delay).flatMap fun index => (invocations index).logLine ::
          (dispatcher.ended stubs invocations delay store index).lines⟩ := by
  have each := (dispatcher.sequence_successive stubs invocations delay store).each
  simp only [run_dispatch, Turn.after_value, Turn.after_lines] at each
  exact each

variable {delay}

theorem concluded_successive {rounds : Nat} (enough : ∀ index, delay index < rounds) (store : σ) :
    Successive (fun index => dispatcher.concluded (stubs index) (invocations index))
      (dispatcher.found stubs invocations delay store) (dueInTurn delay rounds) store
      (dispatcher.sequence stubs invocations (byDelay delay) store).store := by
  rw [← byDelay_eq delay enough]
  refine (dispatcher.sequence_successive stubs invocations delay store).of_stores
    fun index store => ?_
  rw [run_dispatch, Turn.after_store]

variable {dispatcher stubs invocations}

theorem together_stands
    (delayed : ∀ index, dispatcher.Delays (stubs index) (invocations index) (delay index))
    (store : σ) :
    List.Forall₂ (fun index => Stands (dispatcher.concluded (stubs index) (invocations index))
        (dispatcher.ended stubs invocations delay store index).value (delay index) 0
        (lead invocations 0 index)) (List.finRange count)
      ((List.finRange count).map fun index =>
        dispatcher.dispatch (stubs index) (invocations index)) := by
  rw [List.forall₂_map_right_iff, List.forall₂_same]
  exact fun index _ => .due (Nat.zero_add _).symm (dispatch_delays (delayed index))

/-- What some rounds log: in the first the lines of the invocations, and in each what the dispatches
log whose delay is over. -/
theorem together_lines
    (delayed : ∀ index, dispatcher.Delays (stubs index) (invocations index) (delay index))
    (rounds : Nat) (store : σ) :
    ((dispatcher.together stubs invocations).polls rounds store).lines =
      (List.range rounds).flatMap fun round => (List.finRange count).flatMap fun index =>
        (if round = 0 then [(invocations index).logLine] else []) ++
          if delay index = round then (dispatcher.ended stubs invocations delay store index).lines
          else [] := by
  obtain ⟨more, enough⟩ : ∃ more, ∀ index, delay index < rounds + more :=
    ⟨Finset.univ.sup delay + 1, fun index => by
      have bounded : delay index ≤ Finset.univ.sup delay := Finset.le_sup (Finset.mem_univ index)
      omega⟩
  -- These rounds may end before all work is due, but they are the first of enough rounds.
  have successive := dispatcher.concluded_successive stubs invocations enough store
  rw [dueInTurn, ← List.range'_append_1, List.flatMap_append, successive_append] at successive
  obtain ⟨middle, successive, _⟩ := successive
  obtain ⟨remaining, polled, _⟩ := polls_rounds (fun _ _ => rfl) rounds
    (together_stands delayed store) successive
  rw [together, polled, List.range_eq_range']
  rfl

theorem together_run
    (delayed : ∀ index, dispatcher.Delays (stubs index) (invocations index) (delay index))
    {rounds : Nat} (enough : ∀ index, delay index < rounds) (store : σ) :
    let turn := (dispatcher.together stubs invocations).run store
    (dispatcher.together stubs invocations).polls rounds store = turn.map .ready ∧
    turn.value = ((List.finRange count).map fun index =>
      (dispatcher.ended stubs invocations delay store index).value) ∧
    turn.store = (dispatcher.sequence stubs invocations (byDelay delay) store).store := by
  intro turn
  have polled := polls_rounds_over (fun _ _ => rfl) rounds (together_stands delayed store)
    (dispatcher.concluded_successive stubs invocations enough store) fun index _ => by
      rw [Nat.zero_add]
      exact enough index
  have ran := Future.polls_andThen_run rounds (dispatcher.together stubs invocations) store
  rw [together, polled, Turn.andThen, Future.run_ready, Turn.after, List.append_nil] at ran
  have equal : turn = _ := ran.symm
  rw [equal]
  exact ⟨polled, rfl, rfl⟩

theorem byDelay_zero (none : ∀ index, delay index = 0) : byDelay delay = List.finRange count := by
  have soon (index : Fin count) : delay index < 1 := by rw [none]; exact Nat.zero_lt_one
  rw [byDelay_eq delay soon, dueInTurn]
  simp [none]

end Rounds

/-- Dispatches to delayed handlers that are polled in rounds end, and leave the store, as those do
that run one after the other in the order of the delays.  In every round the log has, in the order
of the calls, the line of the invocation if it is the first round, and the rest of what the
dispatch logs if its delay is over. -/
theorem rounds_in_order_of_delay (dispatcher : Dispatcher σ) {count : Nat}
    (stubs : Fin count → Stub) (invocations : Fin count → Invocation) (delay : Fin count → Nat)
    (delayed : ∀ index, dispatcher.Delays (stubs index) (invocations index) (delay index))
    (store : σ) :
    let sequence (indices : List (Fin count)) :=
      dispatcher.sequence stubs invocations indices store
    let ended := dispatcher.ended stubs invocations delay store
    let together := dispatcher.together stubs invocations
    let turn := together.run store
    (sequence (byDelay delay)).value = (byDelay delay).map (fun index => (ended index).value) ∧
    turn.value = (List.finRange count).map (fun index => (ended index).value) ∧
    turn.store = (sequence (byDelay delay)).store ∧
    (∀ rounds, (∀ index, delay index < rounds) →
      together.polls rounds store = turn.map .ready) ∧
    (∀ rounds, (together.polls rounds store).lines =
      (List.range rounds).flatMap fun round => (List.finRange count).flatMap fun index =>
        (if round = 0 then [(invocations index).logLine] else []) ++
          if delay index = round then (ended index).lines else []) ∧
    (∀ index, (ended index).lines =
      match dispatcher.registry.get? (invocations index).method with
      | none => [s!"no function of name:{(invocations index).method} found"]
      | some handler =>
          let work := handler.run (stubs index) (invocations index).arguments
            (dispatcher.found stubs invocations delay store index)
          work.lines ++ match work.value.caught with
            | .ok _ => []
            | .error error => [s!"{(invocations index).method} failed: {error.describe}"]) ∧
    ((∀ index, delay index = 0) → turn = sequence (List.finRange count)) := by
  intro sequence ended together turn
  have inOrder := dispatcher.sequence_byDelay stubs invocations delay store
  obtain ⟨bound, enough⟩ : ∃ bound, ∀ index, delay index < bound :=
    ⟨Finset.univ.sup delay + 1, fun index =>
      Nat.lt_succ_of_le (Finset.le_sup (Finset.mem_univ index))⟩
  obtain ⟨_, values, last⟩ := together_run delayed enough store
  refine ⟨congrArg Turn.value inOrder, values, last,
    fun rounds passed => (together_run delayed passed store).1, fun rounds =>
      together_lines delayed rounds store, fun index => concluded_lines _ _ _ _, fun none => ?_⟩
  rw [byDelay_zero none] at inOrder last
  have soon (index : Fin count) : delay index < 1 := by rw [none]; exact Nat.zero_lt_one
  have lines : turn.lines = (List.finRange count).flatMap fun index =>
      (invocations index).logLine :: (ended index).lines := by
    have first := together_lines delayed 1 store
    rw [(together_run delayed soon store).1] at first
    simpa [none] using first
  calc turn = ⟨turn.value, turn.store, turn.lines⟩ := rfl
    _ = sequence (List.finRange count) := by
      rw [values, last, lines]
      exact inOrder.symm

/-- Three handlers that count their runs together and are interrupted in different ways. -/
def paced : Dispatcher Counters where
  name := "paced"
  registry :=
    { handlers := [(Sample.tally 0).handler "fast" 0, (Sample.tally 0).handler "slow" 2,
        (Sample.tally 0).handler "steady" 1]
      sorted := by decide
      named := by decide }

def pacedInvocations : Fin 5 → Invocation
  | 0 => ⟨"slow", []⟩
  | 1 => ⟨"steady", []⟩
  | 2 => ⟨"missing", []⟩
  | 3 => ⟨"steady", []⟩
  | 4 => ⟨"fast", []⟩

def pacedDelay : Fin 5 → Nat
  | 0 => 2
  | 1 => 1
  | 2 => 0
  | 3 => 1
  | 4 => 0

theorem paced_delayed (index : Fin 5) :
    paced.Delays {} (pacedInvocations index) (pacedDelay index) := by
  have delayed (name : String) (pauses : Nat) :=
    Sample.handler_delays (.tally 0) trivial name pauses {} []
  match index with
  | 0 => exact delayed "slow" 2
  | 1 => exact delayed "steady" 1
  | 2 => rfl
  | 3 => exact delayed "steady" 1
  | 4 => exact delayed "fast" 0

/-- The first call waits longest, so the last run is reported to it. -/
theorem paced_rounds :
    let turn := (paced.together (fun _ => {}) pacedInvocations).run ⟨[0]⟩
    (∀ index, paced.Delays {} (pacedInvocations index) (pacedDelay index)) ∧
    turn.store = ⟨[4]⟩ ∧
    turn.value = [.success (some (Sample.text "4")), .success (some (Sample.text "2")),
      .failure "Received unknown function missing invocation",
      .success (some (Sample.text "3")), .success (some (Sample.text "1"))] := by
  intro turn
  obtain ⟨_, values, last, _⟩ := rounds_in_order_of_delay paced (fun _ => {}) pacedInvocations
    pacedDelay paced_delayed ⟨[0]⟩
  have soon : ∀ index, pacedDelay index < 3 := by decide
  have order : byDelay pacedDelay = [2, 4, 1, 3, 0] :=
    (byDelay_eq pacedDelay soon).trans (by decide)
  refine ⟨paced_delayed, ?_, ?_⟩
  · rw [last, order]
    rfl
  · rw [values]
    simp only [ended, found, order]
    rfl

end Dispatcher

end Chaincode
