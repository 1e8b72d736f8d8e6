import Chaincode.Proofs.Course
import Chaincode.Proofs.Interleaving
import Mathlib.Data.List.Induction

namespace Chaincode

/-! Futures that are polled in any order.

A pool polls one of its futures at a time, each from the store that the one
before it left.  Nothing asks for an order, for a fair share, or for an end: a
schedule is any list of members, and polling a finished one does nothing.  Main
statement: `concurrent_dispatches_isolated`.
-/

structure Pool (ι σ α : Type) where
  futures : ι → Future σ α
  lines : ι → List String
  store : σ
  log : List String

namespace Pool

variable {ι σ α : Type} [DecidableEq ι]

def start (futures : ι → Future σ α) (store : σ) : Pool ι σ α :=
  ⟨futures, fun _ => [], store, []⟩

def poll (pool : Pool ι σ α) (index : ι) : Pool ι σ α :=
  let turn := (pool.futures index).poll pool.store
  { futures := Function.update pool.futures index turn.value
    lines := Function.update pool.lines index (pool.lines index ++ turn.lines)
    store := turn.store
    log := pool.log ++ turn.lines }

def run (pool : Pool ι σ α) (schedule : List ι) : Pool ι σ α := schedule.foldl poll pool

theorem run_append (pool : Pool ι σ α) (earlier later : List ι) :
    pool.run (earlier ++ later) = (pool.run earlier).run later :=
  List.foldl_append

/-- A property that each poll keeps is kept by every schedule. -/
theorem run_induction {motive : Pool ι σ α → Prop} {pool : Pool ι σ α}
    (initial : motive pool) (step : ∀ pool index, motive pool → motive (pool.poll index))
    (schedule : List ι) : motive (pool.run schedule) := by
  induction schedule generalizing pool with
  | nil => exact initial
  | cons index rest ih => exact ih (step pool index initial)

/-- The log is made of what the members log, and of nothing else. -/
theorem run_interleaved (futures : ι → Future σ α) (store : σ) (schedule : List ι) :
    Interleaved ((start futures store).run schedule).lines ((start futures store).run schedule).log :=
  run_induction (motive := fun pool => Interleaved pool.lines pool.log) .start
    (fun _ index earlier => earlier.append index _) schedule

/-- What each member has logged is the beginning of its course, and the rest is ahead of it. -/
def OnCourse (courses : ι → Course α) (pool : Pool ι σ α) : Prop :=
  ∀ index, ∃ remaining, (pool.futures index).Follows remaining ∧
    pool.lines index ++ remaining.lines = (courses index).lines ∧
    remaining.value = (courses index).value

omit [DecidableEq ι] in
theorem start_onCourse {futures : ι → Future σ α} {courses : ι → Course α}
    (follows : ∀ index, (futures index).Follows (courses index)) (store : σ) :
    (start futures store).OnCourse courses :=
  fun index => ⟨courses index, follows index, rfl, rfl⟩

theorem poll_onCourse {courses : ι → Course α} {pool : Pool ι σ α} (index : ι)
    (onCourse : pool.OnCourse courses) : (pool.poll index).OnCourse courses := by
  intro other
  by_cases same : other = index
  · subst same
    obtain ⟨remaining, follows, lines, value⟩ := onCourse other
    simp only [poll, Function.update_self]
    cases remaining with
    | finished result =>
        rw [Future.eq_ready_of_follows follows]
        exact ⟨.finished result, Future.follows_ready result,
          by simpa [Future.poll] using lines, value⟩
    | turn logged rest =>
        obtain ⟨resume, equal, step⟩ := Future.eq_waiting_of_follows follows
        obtain ⟨turnLines, later⟩ := step pool.store
        rw [equal, Future.poll_waiting]
        refine ⟨rest, later, ?_, value⟩
        rw [turnLines, List.append_assoc]
        exact lines
  · simp only [poll, Function.update_of_ne same]
    exact onCourse other

/-- How a pool of recording futures relates to the pool without a ledger: the members that were
polled have noted their entries, the others have not. -/
structure Records (entries : ι → Ledger) (started : List ι) (plain : Pool ι σ α)
    (recorded : Pool ι (σ × Ledger) α) : Prop where
  polled : ∀ index ∈ started, recorded.futures index = (plain.futures index).beside
  untouched : ∀ index ∉ started, (plain.futures index).isReady = false ∧
    recorded.futures index = (plain.futures index).noting (entries index)
  lines : recorded.lines = plain.lines
  log : recorded.log = plain.log
  store : recorded.store.1 = plain.store
  ledger : Interleaved (fun index => if index ∈ started then entries index else [])
    recorded.store.2

theorem start_records {futures : ι → Future σ α} (entries : ι → Ledger) (store : σ)
    (unfinished : ∀ index, (futures index).isReady = false) :
    Records entries [] (start futures store)
      (start (fun index => (futures index).noting (entries index)) (store, [])) where
  polled := by simp
  untouched index _ := ⟨unfinished index, rfl⟩
  lines := rfl
  log := rfl
  store := rfl
  ledger := by
    simp only [List.not_mem_nil, if_false]
    exact .start

theorem Records.poll_member {entries : ι → Ledger} {started : List ι} {plain : Pool ι σ α}
    {recorded : Pool ι (σ × Ledger) α} (records : Records entries started plain recorded)
    (index : ι) :
    (recorded.futures index).poll recorded.store =
      (((plain.futures index).poll plain.store).beside
        (recorded.store.2 ++ if index ∈ started then [] else entries index)).map
        Future.beside := by
  have store : recorded.store = (plain.store, recorded.store.2) := by rw [← records.store]
  by_cases before : index ∈ started
  · rw [if_pos before, List.append_nil, records.polled index before, store, Future.poll_beside]
  · obtain ⟨unfinished, equal⟩ := records.untouched index before
    rw [if_neg before, equal, store, Future.poll_noting _ _ _ _ unfinished]

theorem Records.poll {entries : ι → Ledger} {started : List ι} {plain : Pool ι σ α}
    {recorded : Pool ι (σ × Ledger) α} (records : Records entries started plain recorded)
    (index : ι) :
    Records entries (started ++ [index]) (plain.poll index) (recorded.poll index) := by
  have member := records.poll_member index
  constructor
  · intro other present
    by_cases same : other = index
    · subst same
      simp only [Pool.poll, member, Function.update_self, Turn.map_value, Turn.beside_value]
    · have before : other ∈ started := by simpa [same] using present
      simp only [Pool.poll, Function.update_of_ne same]
      exact records.polled other before
  · intro other absent
    obtain ⟨before, same⟩ : other ∉ started ∧ other ≠ index := by simpa using absent
    simp only [Pool.poll, Function.update_of_ne same]
    exact records.untouched other before
  · simp only [Pool.poll, member, records.lines, Turn.map_lines, Turn.beside_lines]
  · simp only [Pool.poll, member, records.log, Turn.map_lines, Turn.beside_lines]
  · simp only [Pool.poll, member, Turn.map_store, Turn.beside_store]
  · simp only [Pool.poll, member, Turn.map_store, Turn.beside_store]
    have grown := records.ledger.append index (if index ∈ started then [] else entries index)
    convert grown using 1
    funext other
    by_cases same : other = index
    · subst same
      by_cases before : other ∈ started <;> simp [before]
    · simp [same]

theorem run_records {futures : ι → Future σ α} (entries : ι → Ledger) (store : σ)
    (unfinished : ∀ index, (futures index).isReady = false) (schedule : List ι) :
    Records entries schedule ((start futures store).run schedule)
      ((start (fun index => (futures index).noting (entries index)) (store, [])).run schedule) := by
  induction schedule using List.reverseRecOn with
  | nil => exact start_records entries store unfinished
  | append_singleton earlier index ih =>
      rw [run_append, run_append]
      exact ih.poll index

end Pool

end Chaincode
