import Chaincode.Proofs.Replies
import Mathlib.Data.List.FinRange

namespace Chaincode

/-! Futures that are polled in rounds.

A round polls each of the futures once, in their order; polling a finished one does
nothing.  If each future does nothing until a certain round and then all of its work
at once, the rounds do the works one after the other, in the order of those rounds.
-/

theorem Action.each_cons (work : α → Action σ β) (first : α) (rest : List α) (store : σ) :
    Action.each work (first :: rest) store =
      (work first store).andThen fun value store =>
        (Action.each work rest store).map (value :: ·) := rfl

namespace Future

theorem poll_both (left : Future σ α) (right : Future σ β) (store : σ) :
    (both left right).poll store =
      (left.poll store).andThen fun left store => (right.poll store).map (both left) := by
  cases left with
  | ready value =>
      have paired (right : Future σ β) :
          both (ready value : Future σ α) right = right.map fun second => (value, second) := by
        rw [both]
      rw [paired, poll_map, poll, Turn.mk_andThen]
      congr 1
  | waiting resume =>
      rw [both, poll_waiting, poll_waiting]
      generalize resume store = turn
      obtain ⟨future, store, lines⟩ := turn
      rw [bothOn]
      rfl

/-- Polling futures together is a round. -/
theorem poll_all (futures : List (Future σ α)) (store : σ) :
    (all futures).poll store = (Action.each poll futures store).map all := by
  induction futures generalizing store with
  | nil => rfl
  | cons future rest ih =>
      rw [all, poll_map, poll_both, Action.each_cons]
      simp only [Turn.andThen, ih]
      rfl

theorem all_ready (values : List α) : all (values.map ready) = (ready values : Future σ _) := by
  induction values with
  | nil => rfl
  | cons value rest ih =>
      rw [List.map_cons, all, ih, both]
      simp only [map, bind_ready]

theorem polls_andThen_run (count : Nat) (future : Future σ α) (store : σ) :
    (future.polls count store).andThen run = future.run store := by
  induction count generalizing future store with
  | zero => rw [polls, Turn.mk_andThen]
  | succ count ih =>
      rw [polls, Turn.andThen_assoc]
      simp only [ih]
      exact poll_andThen_run future store

/-- Logs `lead` when it is polled first, is interrupted `delay` times, and does then all of `work`
in one poll. -/
def Delays (work : Action σ α) : Nat → List String → Future σ α → Prop
  | 0, lead, future => ∀ store, future.poll store = ((work store).map ready).after lead
  | delay + 1, lead, future => ∀ store, ∃ resume,
      future.poll store = ⟨waiting resume, store, lead⟩ ∧ Delays work delay [] (waiting resume)

theorem pause_waiting (count : Nat) : ∃ resume, (pause count : Future σ Unit) = waiting resume := by
  cases count with
  | zero => exact ⟨_, rfl⟩
  | succ count => exact ⟨_, rfl⟩

theorem delays_pause (work : Action σ α) (delay : Nat) :
    ((pause delay).bind fun _ => perform work).Delays work delay [] := by
  induction delay with
  | zero =>
      intro store
      rw [pause, poll_bind, poll_waiting, bindOn_ready]
      rfl
  | succ delay ih =>
      intro store
      rw [pause, poll_bind, poll_waiting]
      obtain ⟨resume, paused⟩ := pause_waiting (σ := σ) delay
      rw [paused, bind_waiting] at ih
      rw [paused, bindOn_waiting, bind_waiting]
      exact ⟨_, rfl, ih⟩

variable {work : Action σ α} {delay : Nat} {lead : List String} {future : Future σ α}

theorem Delays.run (delays : future.Delays work delay lead) (store : σ) :
    future.run store = (work store).after lead := by
  induction delay generalizing lead future store with
  | zero =>
      rw [← poll_andThen_run, delays, Turn.after_andThen, Turn.map_andThen, Turn.andThen]
      simp only [run_ready, Turn.after, List.append_nil]
  | succ delay ih =>
      obtain ⟨resume, polled, later⟩ := delays store
      rw [← poll_andThen_run, polled, Turn.andThen, ih later]
      rfl

/-- What follows in the poll that does the work belongs to it. -/
theorem Delays.bind (delays : future.Delays work delay lead) (next : α → Future σ β)
    (last : α → Action σ β)
    (prompt : ∀ value store, (next value).poll store = (last value store).map ready) :
    (future.bind next).Delays (fun store => (work store).andThen last) delay lead := by
  induction delay generalizing lead future with
  | zero =>
      intro store
      rw [poll_bind, delays, bindOn_after, Turn.map, bindOn_ready, prompt]
      rfl
  | succ delay ih =>
      intro store
      obtain ⟨resume, polled, later⟩ := delays store
      have rest := ih later
      rw [bind_waiting] at rest
      rw [poll_bind, polled, bindOn_waiting, bind_waiting]
      exact ⟨_, rfl, rest⟩

theorem Delays.map (delays : future.Delays work delay lead) (change : α → β) :
    (future.map change).Delays (fun store => (work store).map change) delay lead := by
  have bound := delays.bind (fun value => ready (change value))
    (fun value => Action.pure (change value)) fun _ _ => rfl
  simp only [Turn.andThen, Action.pure, Turn.after, List.append_nil] at bound
  exact bound

/-- What is done at the beginning of the first poll comes before the rest of it. -/
theorem Delays.after (delays : future.Delays work delay lead) (earlier : List String)
    {other : Future σ α} (same : ∀ store, other.poll store = (future.poll store).after earlier) :
    other.Delays work delay (earlier ++ lead) := by
  cases delay with
  | zero =>
      intro store
      rw [same, delays, Turn.after_after]
  | succ delay =>
      intro store
      obtain ⟨resume, polled, later⟩ := delays store
      rw [same, polled]
      exact ⟨resume, rfl, later⟩

theorem delays_perform_bind {action : Action σ β} {next : β → Future σ α} {value : β}
    (earlier : List String) (logs : ∀ store, action store = ⟨value, store, earlier⟩)
    (delays : (next value).Delays work delay lead) :
    ((perform action).bind next).Delays work delay (earlier ++ lead) :=
  delays.after earlier fun store => by
    rw [perform_bind, poll_waiting, logs]

/-- Work that never waits is done in the first poll. -/
theorem delays_zero (prompt : ∀ store, future.pendings store = 0)
    (ran : ∀ store, future.run store = (work store).after lead) : future.Delays work 0 lead := by
  intro store
  have finished := polls_finished future store
  rw [prompt, polls] at finished
  have single : (future.poll store).andThen (polls 0) = future.poll store := by
    simp only [Turn.andThen, polls, Turn.after, List.append_nil]
  rw [← single, finished, ran]
  rfl

end Future

section Successive

variable {ι : Type} {work : ι → Action σ α} {stores : ι → σ}

def Successive (work : ι → Action σ α) (stores : ι → σ) : List ι → σ → σ → Prop
  | [], first, last => last = first
  | index :: rest, first, last =>
      stores index = first ∧ Successive work stores rest (work index first).store last

theorem successive_append {earlier later : List ι} {first last : σ} :
    Successive work stores (earlier ++ later) first last ↔
      ∃ middle, Successive work stores earlier first middle ∧
        Successive work stores later middle last := by
  induction earlier generalizing first with
  | nil => exact ⟨fun later => ⟨first, rfl, later⟩, fun ⟨_, rfl, later⟩ => later⟩
  | cons index rest ih =>
      simp only [List.cons_append, Successive, ih, and_assoc, exists_and_left]

theorem Successive.congr {others : ι → σ} {order : List ι} {first last : σ}
    (successive : Successive work stores order first last)
    (same : ∀ index ∈ order, others index = stores index) :
    Successive work others order first last := by
  induction order generalizing first with
  | nil => exact successive
  | cons index rest ih =>
      obtain ⟨here, later⟩ := successive
      exact ⟨(same index List.mem_cons_self).trans here,
        ih later fun other member => same other (List.mem_cons_of_mem index member)⟩

theorem Successive.of_stores {others : ι → Action σ β} {order : List ι} {first last : σ}
    (successive : Successive work stores order first last)
    (same : ∀ index store, (others index store).store = (work index store).store) :
    Successive others stores order first last := by
  induction order generalizing first with
  | nil => exact successive
  | cons index rest ih =>
      obtain ⟨here, later⟩ := successive
      exact ⟨here, ih (by rw [same]; exact later)⟩

theorem Successive.each {order : List ι} {first last : σ}
    (successive : Successive work stores order first last) :
    Action.each work order first = ⟨order.map fun index => (work index (stores index)).value, last,
      order.flatMap fun index => (work index (stores index)).lines⟩ := by
  induction order generalizing first with
  | nil =>
      cases successive
      rfl
  | cons index rest ih =>
      obtain ⟨here, later⟩ := successive
      rw [Action.each_cons, Turn.andThen, ih later, List.map_cons, List.flatMap_cons, here]
      rfl

/-- The store that a work finds when those before it have been done. -/
theorem successive_takeWhile [DecidableEq ι] (work : ι → Action σ α) {order : List ι}
    (distinct : order.Nodup) (first : σ) :
    Successive work
      (fun index => (Action.each work (order.takeWhile (· ≠ index)) first).store) order first
      (Action.each work order first).store := by
  induction order generalizing first with
  | nil => rfl
  | cons index rest ih =>
      obtain ⟨fresh, restDistinct⟩ := List.nodup_cons.mp distinct
      refine ⟨by simp [Action.each, Action.pure], (ih restDistinct _).congr fun other member => ?_⟩
      have different : index ≠ other := fun same => fresh (same ▸ member)
      rw [List.takeWhile_cons_of_pos (by simpa using different)]
      rfl

end Successive

section Rounds

variable {ι : Type} {work : ι → Action σ α} {stores : ι → σ} {delay : ι → Nat}
  {lead : Nat → ι → List String}

/-- How a delayed future stands after some rounds: its work is done, or it is still ahead. -/
inductive Stands (work : Action σ α) (value : α) (delay round : Nat) (lead : List String) :
    Future σ α → Prop
  | done : delay < round → lead = [] → Stands work value delay round lead (.ready value)
  | due : delay = round + left → future.Delays work left lead →
      Stands work value delay round lead future

/-- What a round logs: the leads, and behind each of them the lines of a work that is due. -/
def roundLines (work : ι → Action σ α) (stores : ι → σ) (delay : ι → Nat)
    (lead : Nat → ι → List String) (indices : List ι) (round : Nat) : List String :=
  indices.flatMap fun index =>
    lead round index ++ if delay index = round then (work index (stores index)).lines else []

theorem round_stands (quiet : ∀ round index, lead (round + 1) index = []) {round : Nat}
    {indices : List ι} {futures : List (Future σ α)} {first last : σ}
    (standing : List.Forall₂ (fun index => Stands (work index) (work index (stores index)).value
      (delay index) round (lead round index)) indices futures)
    (successive :
      Successive work stores (indices.filter fun index => delay index = round) first last) :
    ∃ remaining,
      Action.each Future.poll futures first =
        ⟨remaining, last, roundLines work stores delay lead indices round⟩ ∧
      List.Forall₂ (fun index => Stands (work index) (work index (stores index)).value
        (delay index) (round + 1) (lead (round + 1) index)) indices remaining := by
  -- Along the list; only a future that is due takes a store of `successive` and leaves the next.
  induction standing generalizing first with
  | nil =>
      cases successive
      exact ⟨[], rfl, .nil⟩
  | @cons index future indices futures here _ ih =>
      rw [roundLines, List.flatMap_cons]
      cases here with
      | done early silent =>
          have idle : delay index ≠ round := early.ne
          rw [List.filter_cons_of_neg (by simpa using idle)] at successive
          obtain ⟨remaining, polled, standing⟩ := ih successive
          refine ⟨.ready _ :: remaining, ?_, .cons (.done (by omega) (quiet _ _)) standing⟩
          rw [Action.each_cons]
          change (Turn.mk _ first []).andThen _ = _
          rw [Turn.mk_andThen, polled, silent, if_neg idle]
          rfl
      | @due left _ ahead delays =>
          cases left with
          | zero =>
              rw [Nat.add_zero] at ahead
              rw [List.filter_cons_of_pos (by simpa using ahead)] at successive
              obtain ⟨start, later⟩ := successive
              obtain ⟨remaining, polled, standing⟩ := ih later
              refine ⟨.ready (work index (stores index)).value :: remaining, ?_,
                .cons (.done (by omega) (quiet _ _)) standing⟩
              rw [Action.each_cons, delays, Turn.andThen]
              simp only [Turn.after_value, Turn.after_store, Turn.map_value, Turn.map_store, polled,
                if_pos ahead, start]
              rfl
          | succ left =>
              have idle : delay index ≠ round := by omega
              rw [List.filter_cons_of_neg (by simpa using idle)] at successive
              obtain ⟨remaining, polled, standing⟩ := ih successive
              obtain ⟨resume, waits, later⟩ := delays first
              have closer : delay index = round + 1 + left := by omega
              refine ⟨.waiting resume :: remaining, ?_,
                .cons (.due closer (by rw [quiet]; exact later)) standing⟩
              rw [Action.each_cons, waits, Turn.andThen, polled, if_neg idle, List.append_nil]
              rfl

theorem eq_ready_of_stands {round : Nat} {indices : List ι} {futures : List (Future σ α)}
    (standing : List.Forall₂ (fun index => Stands (work index) (work index (stores index)).value
      (delay index) round (lead round index)) indices futures)
    (passed : ∀ index ∈ indices, delay index < round) :
    futures = (indices.map fun index => (work index (stores index)).value).map .ready := by
  induction standing with
  | nil => rfl
  | @cons index future indices futures here _ ih =>
      have early := passed index List.mem_cons_self
      cases here with
      | done =>
          rw [List.map_cons, List.map_cons,
            ← ih fun other member => passed other (List.mem_cons_of_mem index member)]
      | due ahead => omega

theorem polls_rounds (quiet : ∀ round index, lead (round + 1) index = []) (count : Nat)
    {round : Nat} {indices : List ι} {futures : List (Future σ α)} {first last : σ}
    (standing : List.Forall₂ (fun index => Stands (work index) (work index (stores index)).value
      (delay index) round (lead round index)) indices futures)
    (successive : Successive work stores ((List.range' round count).flatMap fun due =>
      indices.filter fun index => delay index = due) first last) :
    ∃ remaining,
      (Future.all futures).polls count first =
        ⟨Future.all remaining, last,
          (List.range' round count).flatMap (roundLines work stores delay lead indices)⟩ ∧
      List.Forall₂ (fun index => Stands (work index) (work index (stores index)).value
        (delay index) (round + count) (lead (round + count) index)) indices remaining := by
  -- As the futures stand after one round, so they stand before the next.
  induction count generalizing round futures first with
  | zero =>
      cases successive
      exact ⟨futures, rfl, standing⟩
  | succ count ih =>
      rw [List.range'_succ, List.flatMap_cons] at successive
      obtain ⟨middle, now, later⟩ := successive_append.mp successive
      obtain ⟨polled, once, standing⟩ := round_stands quiet standing now
      obtain ⟨remaining, often, standing⟩ := ih standing later
      refine ⟨remaining, ?_, by rwa [Nat.add_right_comm] at standing⟩
      rw [Future.polls, Future.poll_all, once, List.range'_succ, List.flatMap_cons]
      exact congrArg (Turn.after · _) often

theorem polls_rounds_over (quiet : ∀ round index, lead (round + 1) index = []) (count : Nat)
    {round : Nat} {indices : List ι} {futures : List (Future σ α)} {first last : σ}
    (standing : List.Forall₂ (fun index => Stands (work index) (work index (stores index)).value
      (delay index) round (lead round index)) indices futures)
    (successive : Successive work stores ((List.range' round count).flatMap fun due =>
      indices.filter fun index => delay index = due) first last)
    (passed : ∀ index ∈ indices, delay index < round + count) :
    (Future.all futures).polls count first =
      ⟨.ready (indices.map fun index => (work index (stores index)).value), last,
        (List.range' round count).flatMap (roundLines work stores delay lead indices)⟩ := by
  obtain ⟨remaining, polled, standing⟩ := polls_rounds quiet count standing successive
  rw [polled, eq_ready_of_stands standing passed, Future.all_ready]

end Rounds

end Chaincode
