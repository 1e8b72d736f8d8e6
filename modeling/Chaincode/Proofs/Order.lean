import Chaincode.Proofs.Concurrency
import Chaincode.Proofs.RoundTrip
import Chaincode.Proofs.Site

namespace Chaincode.Service

open Wire

/-! Every connection is served in its own order.

All requests of all connections are futures of one pool.  What the tasks do to the
store and to the log is what polling this pool does, and each connection goes through
its own requests: it has answered the first ones, works on at most the next, and has
left the others alone.  Main statement: `connections_served_in_order`.
-/

namespace Task

def beside : Task σ → Task (σ × Ledger)
  | .reading => .reading
  | .working answer => .working answer.beside
  | .finished => .finished

end Task

namespace Connection

def beside (connection : Connection σ) : Connection (σ × Ledger) :=
  ⟨connection.inbox, connection.task.beside, connection.outbox, connection.reported⟩

/-- Recording adds to a move of a task that it notes the calls for the request that is taken. -/
theorem advance_beside (server : Server σ) (connection : Connection σ) (store : σ)
    (ledger : Ledger) :
    connection.beside.advance ⟨server.dispatcher.recorded⟩ (store, ledger) =
      ((connection.advance server store).beside
        (ledger ++ connection.taken.flatMap server.dispatcher.calls)).map beside := by
  obtain ⟨inbox, task, written, reported⟩ := connection
  cases task with
  | reading =>
      cases found : inbox.read Request.decode with
      | mk reading after =>
          cases reading with
          | waiting | ended | failed error =>
              simp only [beside, Task.beside, advance, step, taken, found, List.flatMap_nil,
                List.append_nil]
              rfl
          | value request =>
              rw [advance_taken found, beside, Task.beside, advance_taken found,
                Server.poll_recorded]
              simp only [taken, found, List.flatMap_singleton]
              rfl
  | working answer =>
      have nothing : (⟨inbox, .working answer, written, reported⟩ : Connection σ).taken = [] := rfl
      rw [nothing, List.flatMap_nil, List.append_nil, beside, Task.beside]
      cases answer with
      | ready response =>
          rw [Future.beside_ready, advance_answered, advance_answered]
          rfl
      | waiting resume =>
          rw [Future.beside_waiting, advance_working, advance_working]
          rfl
  | finished =>
      have nothing : (⟨inbox, .finished, written, reported⟩ : Connection σ).taken = [] := rfl
      rw [nothing, List.flatMap_nil, List.append_nil]
      rfl

end Connection

namespace Site

variable {ι : Type} [DecidableEq ι]

def beside (site : Site ι σ) : Site ι (σ × Ledger) := fun index => (site index).beside

def taken (site : Site ι σ) : Move ι → List Request
  | .arrive _ _ => []
  | .advance index => (site index).taken

theorem beside_update (site : Site ι σ) (index : ι) (connection : Connection σ) :
    beside (Function.update site index connection) =
      Function.update site.beside index connection.beside :=
  funext (Function.apply_update (fun _ => Connection.beside) site index connection)

theorem play_beside (server : Server σ) (site : Site ι σ) (move : Move ι) (store : σ)
    (ledger : Ledger) :
    site.beside.play ⟨server.dispatcher.recorded⟩ move (store, ledger) =
      ((site.play server move store).beside
        (ledger ++ (site.taken move).flatMap server.dispatcher.calls)).map beside := by
  cases move with
  | arrive index chunk =>
      rw [taken, List.flatMap_nil, List.append_nil, play, play, Action.pure, Action.pure,
        Turn.beside, Turn.map, beside_update]
      rfl
  | advance index =>
      change ((site index).beside.advance _ (store, ledger)).map _ = _
      rw [Connection.advance_beside]
      simp only [play, taken, Turn.map, Turn.beside, beside_update]

end Site

section Tickets

variable {ι : Type} [DecidableEq ι]

/-- One request of one connection. -/
abbrev Ticket (requests : ι → List Request) := (index : ι) × Fin (requests index).length

/-- The answers to all requests, once some of them have been polled. -/
def answers (server : Server σ) (requests : ι → List Request) (store : σ)
    (polls : List (Ticket requests)) : Pool (Ticket requests) σ Response :=
  (Pool.start (fun ticket => server.answer (requests ticket.1)[ticket.2]) store).run polls

theorem answers_append (server : Server σ) (requests : ι → List Request) (store : σ)
    (polls : List (Ticket requests)) (ticket : Ticket requests) :
    answers server requests store (polls ++ [ticket]) =
      (answers server requests store polls).poll ticket :=
  Pool.run_append _ _ _

theorem futures_poll {requests : ι → List Request} (pool : Pool (Ticket requests) σ Response)
    (ticket : Ticket requests) :
    (fun number => (pool.poll ticket).futures ⟨ticket.1, number⟩) =
      Function.update (fun number => pool.futures ⟨ticket.1, number⟩) ticket.2
        ((pool.futures ticket).poll pool.store).value :=
  Function.update_comp_eq_of_injective pool.futures sigma_mk_injective ticket.2 _

/-- What moves have led to, if each connection has so far got what is first in its stream. -/
structure Orderly (server : Server σ) (streams : ι → Bytes) (requests : ι → List Request)
    (store : σ) (moves : List (Site.Move ι)) (polls : List (Ticket requests))
    (answered : ι → List Response) (turn : Turn σ (Site ι σ))
    (recorded : Turn (σ × Ledger) (Site ι (σ × Ledger))) : Prop where
  stored : turn.store = (answers server requests store polls).store
  logged : turn.lines = (answers server requests store polls).log
  progress : ∀ index, ∃ unsent, Site.received moves index ++ unsent = streams index ∧
    Progress server (requests index) unsent
      (fun number => (answers server requests store polls).futures ⟨index, number⟩)
      (fun number => ⟨index, number⟩ ∈ polls) (answered index) (turn.value index)
  shadowed : recorded = (turn.beside recorded.store.2).map Site.beside
  ledger : Interleaved (fun index => ((requests index).take
    ((answered index).length + (turn.value index).inProgress)).flatMap server.dispatcher.calls)
    recorded.store.2

variable {server : Server σ} {streams : ι → Bytes} {requests : ι → List Request} {store : σ}
  {moves : List (Site.Move ι)} {polls : List (Ticket requests)} {answered : ι → List Response}
  {turn : Turn σ (Site ι σ)} {recorded : Turn (σ × Ledger) (Site ι (σ × Ledger))}

namespace Orderly

theorem start (server : Server σ)
    (wellFormed : ∀ index, Leads Request.decode (streams index) (requests index) []) (store : σ) :
    Orderly server streams requests store [] [] (fun _ => []) (Site.start store)
      (Site.start (store, [])) where
  stored := rfl
  logged := rfl
  progress index := by
    refine ⟨streams index, rfl, ?_⟩
    simp only [List.not_mem_nil]
    exact .start server (wellFormed index)
  shadowed := rfl
  ledger := .start

/-- A move at one connection concerns no other. -/
theorem change (orderly : Orderly server streams requests store moves polls answered turn recorded)
    {move : Site.Move ι} {index : ι} {more : List (Ticket requests)} (responses : List Response)
    (moved : Turn σ (Connection σ))
    (played : turn.value.play server move turn.store = moved.map (Function.update turn.value index))
    (worked : moved.store = (answers server requests store more).store ∧
      (answers server requests store polls).log ++ moved.lines =
        (answers server requests store more).log)
    (noted : (requests index).take (responses.length + moved.value.inProgress) =
      (requests index).take ((answered index).length + (turn.value index).inProgress) ++
        turn.value.taken move)
    (here : ∃ unsent, Site.received (moves ++ [move]) index ++ unsent = streams index ∧
      Progress server (requests index) unsent
        (fun number => (answers server requests store more).futures ⟨index, number⟩)
        (fun number => ⟨index, number⟩ ∈ more) responses moved.value)
    (elsewhere : ∀ other ≠ index, Site.received [move] other = [] ∧
      ∀ number, (⟨other, number⟩ ∈ more ↔ ⟨other, number⟩ ∈ polls) ∧
        (answers server requests store more).futures ⟨other, number⟩ =
          (answers server requests store polls).futures ⟨other, number⟩) :
    Orderly server streams requests store (moves ++ [move]) more
      (Function.update answered index responses)
      (turn.andThen fun site => site.play server move)
      (recorded.andThen fun site => site.play ⟨server.dispatcher.recorded⟩ move) := by
  have shadowed : (recorded.andThen fun site => site.play ⟨server.dispatcher.recorded⟩ move) =
      ((turn.andThen fun site => site.play server move).beside (recorded.store.2 ++
        (turn.value.taken move).flatMap server.dispatcher.calls)).map Site.beside := by
    rw [orderly.shadowed, Turn.map_andThen, Turn.andThen]
    simp only [Turn.beside, Site.play_beside]
    rfl
  constructor
  · rw [Turn.andThen_store, played]
    exact worked.1
  · rw [Turn.andThen_lines, played, orderly.logged]
    exact worked.2
  · intro other
    rw [Turn.andThen_value, played, Turn.map_value]
    by_cases same : other = index
    · subst same
      rw [Function.update_self, Function.update_self]
      exact here
    · obtain ⟨unsent, sent, progress⟩ := orderly.progress other
      obtain ⟨silent, untouched⟩ := elsewhere other same
      refine ⟨unsent, ?_, ?_⟩
      · rw [Site.received_append, silent, List.append_nil]
        exact sent
      · rw [Function.update_of_ne same, Function.update_of_ne same]
        simp only [untouched]
        exact progress
  · rw [shadowed]
    rfl
  · rw [shadowed, Turn.andThen_value, played, Turn.map_value]
    have grown := orderly.ledger.append index
      ((turn.value.taken move).flatMap server.dispatcher.calls)
    change Interleaved _ (recorded.store.2 ++
      (turn.value.taken move).flatMap server.dispatcher.calls)
    convert grown using 1
    funext other
    by_cases same : other = index
    · subst same
      simp only [Function.update_self, noted, List.flatMap_append]
    · simp only [Function.update_of_ne same]

/-- A move that polls nothing changes its connection only. -/
theorem rearrange
    (orderly : Orderly server streams requests store moves polls answered turn recorded)
    {move : Site.Move ι} {index : ι} (responses : List Response) (connection : Connection σ)
    (played : turn.value.play server move turn.store =
      ⟨Function.update turn.value index connection, turn.store, []⟩)
    (noted : (requests index).take (responses.length + connection.inProgress) =
      (requests index).take ((answered index).length + (turn.value index).inProgress) ++
        turn.value.taken move)
    (here : ∃ unsent, Site.received (moves ++ [move]) index ++ unsent = streams index ∧
      Progress server (requests index) unsent
        (fun number => (answers server requests store polls).futures ⟨index, number⟩)
        (fun number => ⟨index, number⟩ ∈ polls) responses connection)
    (elsewhere : ∀ other ≠ index, Site.received [move] other = []) :
    Orderly server streams requests store (moves ++ [move]) polls
      (Function.update answered index responses)
      (turn.andThen fun site => site.play server move)
      (recorded.andThen fun site => site.play ⟨server.dispatcher.recorded⟩ move) :=
  orderly.change responses ⟨connection, turn.store, []⟩ played
    ⟨orderly.stored, List.append_nil _⟩ noted here
    fun other different => ⟨elsewhere other different, fun _ => ⟨Iff.rfl, rfl⟩⟩

theorem arrive (orderly : Orderly server streams requests store moves polls answered turn recorded)
    (index : ι) (chunk : Bytes)
    (arriving : Site.received (moves ++ [.arrive index chunk]) index <+: streams index) :
    ∃ answered, Orderly server streams requests store (moves ++ [.arrive index chunk]) polls
      answered
      (turn.andThen fun site => site.play server (.arrive index chunk))
      (recorded.andThen fun site =>
        site.play ⟨server.dispatcher.recorded⟩ (.arrive index chunk)) := by
  obtain ⟨unsent, sent, progress⟩ := orderly.progress index
  obtain ⟨later, arrived⟩ := arriving
  have brought : Site.received [Site.Move.arrive index chunk] index = chunk := by
    simp [Site.received]
  have next : unsent = chunk ++ later := by
    rw [Site.received_append, brought, ← sent, List.append_assoc] at arrived
    exact (List.append_cancel_left arrived).symm
  subst next
  refine ⟨_, orderly.rearrange (answered index) ((turn.value index).arrive chunk) rfl
    (List.append_nil _).symm ⟨later, arrived, progress.arrive⟩ fun other different => ?_⟩
  simp [Site.received, different.symm]

theorem advance (orderly : Orderly server streams requests store moves polls answered turn recorded)
    (index : ι) :
    ∃ polls answered, Orderly server streams requests store (moves ++ [.advance index]) polls
      answered
      (turn.andThen fun site => site.play server (.advance index))
      (recorded.andThen fun site => site.play ⟨server.dispatcher.recorded⟩ (.advance index)) := by
  obtain ⟨unsent, sent, progress⟩ := orderly.progress index
  have still : Site.received (moves ++ [.advance index]) index ++ unsent = streams index := by
    rw [Site.received_append]
    change (Site.received moves index ++ []) ++ unsent = _
    rw [List.append_nil, sent]
  have nothing (before : (turn.value index).taken = []) (items : List Request) :
      items = items ++ turn.value.taken (.advance index) := by
    rw [Site.taken, before, List.append_nil]
  rcases progress.advance turn.store with ⟨untaken, idle⟩ |
    ⟨inside, inbox, opened, ahead, noted, polled⟩ |
    ⟨inside, response, ended, working, untaken, written⟩
  · exact ⟨polls, _, orderly.rearrange (answered index) (turn.value index)
      (congrArg (Turn.map _) idle) (nothing untaken _) ⟨unsent, still, progress⟩ fun _ _ => rfl⟩
  · let ticket : Ticket requests := ⟨index, ⟨(answered index).length, inside⟩⟩
    refine ⟨polls ++ [ticket], _, orderly.change (answered index) _
      (congrArg (Turn.map _) polled) ?_ noted.symm ⟨unsent, still, ?_⟩
      fun other different => ⟨rfl, fun number => ?_⟩⟩
    · rw [answers_append, orderly.stored]
      exact ⟨rfl, rfl⟩
    · have stepped := progress.poll inside opened ahead
        (((answers server requests store polls).futures ticket).poll turn.store).value
      rw [orderly.stored, ← futures_poll _ ticket, ← answers_append] at stepped
      convert stepped using 1
      · funext number
        simp [ticket]
      · rw [orderly.stored]
        rfl
    · have different : (⟨other, number⟩ : Ticket requests) ≠ ticket :=
        fun same => different (congrArg Sigma.fst same)
      rw [answers_append]
      exact ⟨by simp [different], Function.update_of_ne different _ _⟩
  · refine ⟨polls, _, orderly.rearrange (answered index ++ [response]) _
      (congrArg (Turn.map _) written) ?_ ⟨unsent, still, progress.write inside ended working⟩
      fun _ _ => rfl⟩
    rw [← nothing untaken, Connection.inProgress_working working, List.length_append]
    rfl

theorem play (orderly : Orderly server streams requests store moves polls answered turn recorded)
    (move : Site.Move ι)
    (arriving : ∀ index, Site.received (moves ++ [move]) index <+: streams index) :
    ∃ polls answered, Orderly server streams requests store (moves ++ [move]) polls answered
      (turn.andThen fun site => site.play server move)
      (recorded.andThen fun site => site.play ⟨server.dispatcher.recorded⟩ move) := by
  cases move with
  | arrive index chunk => exact ⟨polls, orderly.arrive index chunk (arriving index)⟩
  | advance index => exact orderly.advance index

theorem run (server : Server σ)
    (wellFormed : ∀ index, Leads Request.decode (streams index) (requests index) [])
    (moves : List (Site.Move ι)) (arriving : ∀ index, Site.received moves index <+: streams index)
    (store : σ) :
    ∃ polls answered, Orderly server streams requests store moves polls answered
      (Site.run server (Site.start store) moves)
      (Site.run ⟨server.dispatcher.recorded⟩ (Site.start (store, [])) moves) := by
  -- From the end, for what has been received is what earlier moves have brought and the last one.
  induction moves using List.reverseRecOn with
  | nil => exact ⟨[], _, start server wellFormed store⟩
  | append_singleton earlier move ih =>
      have before (index : ι) : Site.received earlier index <+: streams index := by
        have whole := arriving index
        rw [Site.received_append] at whole
        exact (List.prefix_append _ _).trans whole
      obtain ⟨polls, answered, orderly⟩ := ih before
      rw [Site.run_append, Site.run_append]
      exact orderly.play move arriving

end Orderly

theorem answer_follows (steady : server.dispatcher.Steady) (request : Request) :
    ∃ course, (server.answer request).Follows course := by
  cases request with
  | ping => exact ⟨_, Future.follows_ready _⟩
  | methods => exact ⟨_, Future.follows_ready _⟩
  | start stub =>
      exact Future.follows_map Response.result (Future.follows_perform fun _ => ⟨rfl, rfl⟩)
  | invoke stub =>
      obtain ⟨course, follows⟩ := Dispatcher.dispatch_follows steady stub stub.invocation
      exact Future.follows_map Response.result follows

/-- From steady handlers an answer is what it is when nothing else is asked. -/
theorem answer_alone (steady : server.dispatcher.Steady) {ticket : Ticket requests}
    {response : Response}
    (ended : (answers server requests store polls).futures ticket = .ready response) (fresh : σ) :
    response = (server.dispatcher.reply (requests ticket.1)[ticket.2] fresh).value := by
  choose course follows using fun ticket : Ticket requests =>
    answer_follows steady (requests ticket.1)[ticket.2]
  have onCourse : (answers server requests store polls).OnCourse course :=
    Pool.run_induction (motive := Pool.OnCourse course) (Pool.start_onCourse follows store)
      (fun _ ticket => Pool.poll_onCourse ticket) polls
  rw [(onCourse.finished ended).1, ← (Future.run_of_follows (follows ticket) fresh).1,
    Server.run_answer]

/-- However requests arrive on connections and however the tasks are interleaved, the store and the
lines are those of polling the answers to these requests, and each connection serves its own: it
has written the first responses in their order, works on at most the next request, and has begun
with none after that.  The handlers have been called once for each request that was taken, for each
connection in the order of its requests.  From steady handlers every response is the one that its
request has when it is asked alone. -/
theorem connections_served_in_order (server : Server σ)
    (wellFormed : ∀ index, Leads Request.decode (streams index) (requests index) [])
    (arriving : ∀ index, Site.received moves index <+: streams index) (store : σ) :
    let turn := Site.run server (Site.start store) moves
    let recorded := Site.run ⟨server.dispatcher.recorded⟩ (Site.start (store, [])) moves
    ∃ (polls : List (Ticket requests)) (answered : ι → List Response),
      let pool := answers server requests store polls
      (turn.store = pool.store ∧ turn.lines = pool.log) ∧
      (∀ index, Serves server (requests index) (fun number => pool.futures ⟨index, number⟩)
        (fun number => ⟨index, number⟩ ∈ polls) (answered index) (turn.value index)) ∧
      (recorded = (turn.beside recorded.store.2).map Site.beside ∧
        Interleaved (fun index => ((requests index).take
          ((answered index).length + (turn.value index).inProgress)).flatMap
            server.dispatcher.calls) recorded.store.2) ∧
      (server.dispatcher.Steady → ∀ (index : ι) (number : Nat) (response : Response),
        (answered index)[number]? = some response →
          ∃ request : Request, (requests index)[number]? = some request ∧
            ∀ fresh, response = (server.dispatcher.reply request fresh).value) := by
  intro turn recorded
  obtain ⟨polls, answered, orderly⟩ := Orderly.run server wellFormed moves arriving store
  refine ⟨polls, answered, ⟨orderly.stored, orderly.logged⟩, fun index => ?_,
    ⟨orderly.shadowed, orderly.ledger⟩, fun steady index number response answer => ?_⟩
  · obtain ⟨_, _, progress⟩ := orderly.progress index
    exact progress.toServes
  · obtain ⟨_, _, progress⟩ := orderly.progress index
    obtain ⟨early, equal⟩ := List.getElem?_eq_some_iff.mp answer
    have inside : number < (requests index).length := early.trans_le progress.few
    have ended := progress.finished ⟨number, inside⟩ early
    refine ⟨(requests index)[number], List.getElem?_eq_getElem inside, fun fresh => ?_⟩
    exact equal ▸ answer_alone steady ended fresh

end Tickets

def trialRequests : Fin 2 → List Request
  | 0 => [.invoke (Stub.ofArguments ["echo", "a"]), .methods]
  | 1 => [.invoke (Stub.ofArguments ["boom"]), .invoke (Stub.ofArguments ["missing"])]

def trialStream (index : Fin 2) : Bytes :=
  (trialRequests index).flatMap fun request => frame request.encode

/-- Both connections have sent all; the first still waits for its handler when the second has its
first response and goes on. -/
def trialMoves : List (Site.Move (Fin 2)) :=
  [.arrive 0 (trialStream 0), .advance 0, .arrive 1 ((trialStream 1).take 7), .advance 1,
    .arrive 1 ((trialStream 1).drop 7), .advance 1, .advance 0, .advance 1, .advance 1, .advance 1]

theorem trial_served_in_order :
    let turn := Site.run ⟨Dispatcher.trial⟩ (Site.start {}) trialMoves
    (∀ index, Leads Request.decode (trialStream index) (trialRequests index) []) ∧
      (∀ index, Site.received trialMoves index <+: trialStream index) ∧ Dispatcher.trial.Steady ∧
      (turn.value 0).inProgress = 1 ∧ (turn.value 1).outbox ≠ [] ∧
      ∀ index, ∃ answered : List Response, (turn.value index).outbox = replyStream answered ∧
        ∀ (number : Nat) (response : Response), answered[number]? = some response →
          ∃ request : Request, (trialRequests index)[number]? = some request ∧
            ∀ fresh, response = (Dispatcher.trial.reply request fresh).value := by
  intro turn
  have wellFormed (index : Fin 2) :
      Leads Request.decode (trialStream index) (trialRequests index) [] := by
    apply leads_requests
    revert index
    decide
  have arriving : ∀ index, Site.received trialMoves index <+: trialStream index := by decide
  obtain ⟨_, answered, _, serves, _, alone⟩ :=
    connections_served_in_order ⟨Dispatcher.trial⟩ wellFormed arriving {}
  exact ⟨wellFormed, arriving, Dispatcher.trial_steady, by decide +kernel, by decide +kernel,
    fun index =>
      ⟨answered index, (serves index).outbox, alone Dispatcher.trial_steady index⟩⟩

end Chaincode.Service
