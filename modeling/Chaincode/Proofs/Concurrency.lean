import Chaincode.Proofs.Pool
import Chaincode.Handlers.Sample

namespace Chaincode

/-! Dispatches in progress at the same time.

Main statement: `concurrent_dispatches_isolated`.  To steady handlers it makes no
difference in which order the dispatches are polled and which of them are left
unfinished.
-/

theorem Future.beside_eq_ready {future : Future σ α} {value : α} :
    future.beside = .ready value ↔ future = .ready value := by
  cases future with
  | ready found => rw [Future.beside_ready, Future.ready.injEq, Future.ready.injEq]
  | waiting resume => simp [Future.beside_waiting]

theorem flatMap_ite_singleton (chosen : α → Prop) [DecidablePred chosen] (image : α → β)
    (items : List α) :
    (items.flatMap fun item => if chosen item then [image item] else []) =
      (items.filter (chosen ·)).map image := by
  induction items with
  | nil => rfl
  | cons item rest ih =>
      rw [List.flatMap_cons, ih]
      by_cases taken : chosen item
      · simp [taken]
      · simp [taken]

namespace Pool

variable {ι σ α : Type}

theorem Records.eq_ready_iff [DecidableEq ι] {entries : ι → Ledger} {started : List ι} {plain : Pool ι σ α}
    {recorded : Pool ι (σ × Ledger) α} (records : Records entries started plain recorded)
    (index : ι) (value : α) :
    recorded.futures index = .ready value ↔ plain.futures index = .ready value := by
  by_cases before : index ∈ started
  · rw [records.polled index before, Future.beside_eq_ready]
  · obtain ⟨unfinished, equal⟩ := records.untouched index before
    rw [equal]
    cases future : plain.futures index with
    | ready found => rw [future] at unfinished; contradiction
    | waiting resume => simp [Future.noting]

theorem OnCourse.finished {courses : ι → Course α} {pool : Pool ι σ α}
    (onCourse : pool.OnCourse courses) {index : ι} {value : α}
    (finished : pool.futures index = .ready value) :
    value = (courses index).value ∧ pool.lines index = (courses index).lines := by
  obtain ⟨remaining, follows, lines, same⟩ := onCourse index
  rw [finished] at follows
  cases remaining with
  | finished result =>
      rw [Future.Follows] at follows
      rw [Course.lines, List.append_nil] at lines
      exact ⟨follows.trans same, lines⟩
  | turn logged rest =>
      rw [Future.Follows] at follows
      contradiction

theorem OnCourse.lines_isPrefix {courses : ι → Course α} {pool : Pool ι σ α}
    (onCourse : pool.OnCourse courses) (index : ι) :
    pool.lines index <+: (courses index).lines := by
  obtain ⟨remaining, _, lines, _⟩ := onCourse index
  exact ⟨remaining.lines, lines⟩

end Pool

namespace Sample

/-- Whether a sample's behaviour is settled by its stub and its arguments. -/
def Steady : Sample → Prop
  | .tally _ => False
  | .forward inner => inner.Steady
  | _ => True

theorem pause_follows (count : Nat) :
    ∃ course, (Future.pause count : Future Counters Unit).Follows course := by
  induction count with
  | zero => exact ⟨.turn [] (.finished ()), Future.follows_waiting.mpr fun _ =>
      ⟨rfl, Future.follows_ready ()⟩⟩
  | succ count ih =>
      obtain ⟨course, follows⟩ := ih
      exact ⟨.turn [] course, Future.follows_waiting.mpr fun _ => ⟨rfl, follows⟩⟩

theorem finish_follows (completion : Completion) :
    ∃ course, (finish completion).Follows course :=
  ⟨_, Future.follows_perform fun _ => ⟨rfl, rfl⟩⟩

theorem work_follows {sample : Sample} (steady : sample.Steady) (stub : Option Stub)
    (arguments : List String) : ∃ course, (sample.work stub arguments).Follows course := by
  cases sample with
  | tally counter => exact steady.elim
  | forward inner =>
      obtain ⟨course, follows⟩ := Dispatcher.dispatch_follows steady (.ofArguments arguments)
        (Stub.ofArguments arguments).invocation
      exact Future.follows_map forwarded follows
  | ping => exact ⟨_, Future.follows_perform fun _ => ⟨rfl, rfl⟩⟩
  | echo | join | bytes | fail | failShowing | expect | panics | panicsEarly | first | identify
  | describeStub => exact finish_follows _

theorem handler_steady (sample : Sample) (steady : sample.Steady) (name : String) (pauses : Nat) :
    (sample.handler name pauses).Steady := by
  intro stub arguments
  refine ⟨[], ?_⟩
  simp only [handler, call]
  cases sample.earlyPanic? arguments with
  | some panic => exact .inl ⟨panic, fun _ => ⟨rfl, rfl⟩⟩
  | none =>
      obtain ⟨course, paused⟩ := pause_follows pauses
      obtain ⟨bound, follows⟩ := Future.follows_bind
        (fun _ => sample.work (some stub) arguments)
        (fun _ => work_follows steady (some stub) arguments) course
      exact .inr ⟨bound, fun _ => ⟨rfl, _, rfl, follows _ paused⟩⟩

end Sample

namespace Dispatcher

/-- Handlers that wait, panic early, panic late and return. -/
def trial : Dispatcher Counters where
  name := "trial"
  registry :=
    { handlers := [(Sample.panics (.text "kaboom")).handler "boom" 1,
        (Sample.panicsEarly .other).handler "early" 0, Sample.echo.handler "echo" 2]
      sorted := by decide
      named := by decide }

theorem trial_steady : trial.Steady := by
  intro handler member
  simp only [trial, List.mem_cons, List.not_mem_nil, or_false] at member
  rcases member with rfl | rfl | rfl
  · exact Sample.handler_steady (.panics _) trivial "boom" 1
  · exact Sample.handler_steady (.panicsEarly _) trivial "early" 0
  · exact Sample.handler_steady .echo trivial "echo" 2

def trialInvocations : Fin 4 → Invocation
  | 0 => ⟨"echo", ["a"]⟩
  | 1 => ⟨"boom", []⟩
  | 2 => ⟨"missing", ["b"]⟩
  | 3 => ⟨"early", []⟩

theorem entries_of_handler {dispatcher : Dispatcher σ} {handler : Handler σ}
    (member : handler ∈ dispatcher.registry.handlers) (stub : Stub) (invocation : Invocation) :
    ((dispatcher.entries stub invocation).filter (·.handler = handler.name)).map Entry.arguments =
      if invocation.method = handler.name then [invocation.arguments] else [] := by
  cases found : dispatcher.registry.get? invocation.method with
  | none =>
      have different : invocation.method ≠ handler.name :=
        (Registry.get?_eq_none.mp found handler member).symm
      rw [entries_unknown found, if_neg different]
      rfl
  | some called =>
      rw [entries_known found, Registry.get?_name found]
      by_cases same : invocation.method = handler.name <;> simp [same]

/-- The calls of one handler, as a multiset: one for each started request for it. -/
theorem calls_perm {dispatcher : Dispatcher σ} {count : Nat} (stubs : Fin count → Stub)
    (invocations : Fin count → Invocation) {schedule : List (Fin count)} {ledger : Ledger}
    (interleaved : Interleaved (fun index =>
      if index ∈ schedule then dispatcher.entries (stubs index) (invocations index) else []) ledger)
    {handler : Handler σ} (member : handler ∈ dispatcher.registry.handlers) :
    ((ledger.filter (·.handler = handler.name)).map Entry.arguments).Perm
      (((List.finRange count).filter fun index =>
        index ∈ schedule ∧ (invocations index).method = handler.name).map fun index =>
          (invocations index).arguments) := by
  refine ((interleaved.perm.filter _).map _).trans (List.Perm.of_eq ?_)
  rw [List.filter_flatMap, List.map_flatMap, ← flatMap_ite_singleton]
  congr 1
  funext index
  by_cases started : index ∈ schedule
  · simp only [started, if_true, true_and]
    exact entries_of_handler member (stubs index) (invocations index)
  · simp only [started, if_false, false_and]
    rfl

/-- Dispatches to steady handlers do not notice each other, whatever the order in which they are
polled and wherever polling stops: what each has logged is the beginning of what it logs alone,
all of it if it has finished, and then it ended as it does alone; the log interleaves these
lines; each handler was called once for each started request for it, with its arguments; and
requests that are equal have equal outcomes. -/
theorem concurrent_dispatches_isolated {dispatcher : Dispatcher σ} (steady : dispatcher.Steady)
    {count : Nat} (stubs : Fin count → Stub) (invocations : Fin count → Invocation)
    (schedule : List (Fin count)) (store : σ) :
    let pool := (Pool.start (fun index =>
      dispatcher.dispatch (stubs index) (invocations index)) store).run schedule
    let recorded := (Pool.start (fun index =>
      dispatcher.recorded.dispatch (stubs index) (invocations index)) (store, [])).run schedule
    (∀ index fresh,
      let alone := (dispatcher.dispatch (stubs index) (invocations index)).run fresh
      pool.lines index <+: alone.lines ∧
      ∀ outcome, pool.futures index = .ready outcome →
        outcome = alone.value ∧ pool.lines index = alone.lines) ∧
    Interleaved pool.lines pool.log ∧
    (recorded.store.1 = pool.store ∧ recorded.log = pool.log ∧ recorded.lines = pool.lines ∧
      ∀ index outcome,
        recorded.futures index = .ready outcome ↔ pool.futures index = .ready outcome) ∧
    (∀ handler ∈ dispatcher.registry.handlers,
      ((recorded.store.2.filter (·.handler = handler.name)).map Entry.arguments).Perm
        (((List.finRange count).filter fun index =>
          index ∈ schedule ∧ (invocations index).method = handler.name).map fun index =>
            (invocations index).arguments)) ∧
    (∀ first second, stubs first = stubs second → invocations first = invocations second →
      ∀ firstOutcome secondOutcome, pool.futures first = .ready firstOutcome →
        pool.futures second = .ready secondOutcome → firstOutcome = secondOutcome) := by
  intro pool recorded
  have courses (index : Fin count) := dispatch_follows steady (stubs index) (invocations index)
  choose course follows using courses
  have onCourse : pool.OnCourse course :=
    Pool.run_induction (motive := Pool.OnCourse course) (Pool.start_onCourse follows store)
      (fun _ index => Pool.poll_onCourse index) schedule
  have records : Pool.Records (fun index => dispatcher.entries (stubs index) (invocations index))
      schedule pool recorded := by
    have unfinished (index : Fin count) :
        (dispatcher.dispatch (stubs index) (invocations index)).isReady = false := dispatch_isReady
    have noted := Pool.run_records
      (fun index => dispatcher.entries (stubs index) (invocations index)) store unfinished schedule
    simp only [← dispatch_recorded] at noted
    exact noted
  have alone (index : Fin count) (fresh : σ) := Future.run_of_follows (follows index) fresh
  refine ⟨?_, Pool.run_interleaved _ _ _, ⟨records.store, records.log, records.lines,
    records.eq_ready_iff⟩, fun handler member => calls_perm stubs invocations records.ledger member,
    ?_⟩
  · intro index fresh
    obtain ⟨value, lines⟩ := alone index fresh
    refine ⟨lines ▸ onCourse.lines_isPrefix index, fun outcome finished => ?_⟩
    obtain ⟨ended, logged⟩ := onCourse.finished finished
    exact ⟨ended.trans value.symm, logged.trans lines.symm⟩
  · intro first second sameStub sameInvocation firstOutcome secondOutcome firstReady secondReady
    have firstEnded := (onCourse.finished firstReady).1
    have secondEnded := (onCourse.finished secondReady).1
    have firstAlone := (alone first store).1
    have secondAlone := (alone second store).1
    rw [sameStub, sameInvocation] at firstAlone
    rw [firstEnded, secondEnded, ← firstAlone, ← secondAlone]

/-- Four dispatches, one of them to no handler, of which the last poll leaves one unfinished. -/
theorem trial_dispatches_isolated :
    let pool := (Pool.start (fun index => trial.dispatch {} (trialInvocations index)) {}).run
      [0, 1, 2, 0, 3, 1]
    trial.Steady ∧ Interleaved pool.lines pool.log ∧
      (pool.futures 0).isReady = false ∧ (pool.futures 1).isReady = true ∧
      ∀ index fresh,
        pool.lines index <+: ((trial.dispatch {} (trialInvocations index)).run fresh).lines := by
  intro pool
  obtain ⟨members, interleaved, _⟩ := concurrent_dispatches_isolated trial_steady (fun _ => {})
    trialInvocations [0, 1, 2, 0, 3, 1] {}
  exact ⟨trial_steady, interleaved, rfl, rfl, fun index fresh => (members index fresh).1⟩

end Dispatcher

end Chaincode
