import Chaincode.Proofs.Pool
import Chaincode.Proofs.Serving

namespace Chaincode.Service

open Tracing Wire

/-! Connections that are served at the same time.

Bytes arrive and tasks move in any order.  A task that takes a request works on it
at once, up to its first interruption, for nothing else can run in between; after
that each poll and the writing of the response are moves of their own.
-/

namespace Connection

def poll (connection : Connection σ) : Action σ (Connection σ) :=
  match connection.task with
  | .working answer => fun store =>
      (answer.poll store).map fun answer => { connection with task := .working answer }
  | .reading | .finished => Action.pure connection

/-- One move of the task: take a request and begin with it, poll its answer, or write the answer. -/
def advance (server : Server σ) (connection : Connection σ) : Action σ (Connection σ) :=
  match connection.task with
  | .reading => fun store => (connection.step server store).andThen fun taken => taken.poll
  | .working _ | .finished => connection.step server

/-- How many requests the task is working on. -/
def inProgress (connection : Connection σ) : Nat :=
  match connection.task with
  | .working _ => 1
  | .reading | .finished => 0

/-- The request that the next move of the task takes, if it takes one. -/
def taken (connection : Connection σ) : List Request :=
  match connection.task, (connection.inbox.read Request.decode).1 with
  | .reading, .value request => [request]
  | _, _ => []

theorem inProgress_le_one (connection : Connection σ) : connection.inProgress ≤ 1 := by
  rw [inProgress]
  split <;> decide

theorem inProgress_working {connection : Connection σ} {answer : Future σ Response}
    (working : connection.task = .working answer) : connection.inProgress = 1 := by
  rw [inProgress, working]

variable {server : Server σ} {inbox after : Inbox} {written : Bytes} {reported : List Event}
  {store : σ}

theorem advance_waiting (found : inbox.read Request.decode = (.waiting, after)) :
    (⟨inbox, .reading, written, reported⟩ : Connection σ).advance server store =
      ⟨⟨inbox, .reading, written, reported⟩, store, []⟩ := by
  simp only [advance, step, found]
  rfl

theorem advance_taken {request : Request}
    (found : inbox.read Request.decode = (.value request, after)) :
    (⟨inbox, .reading, written, reported⟩ : Connection σ).advance server store =
      ((server.answer request).poll store).map fun answer =>
        ⟨after, .working answer, written, reported⟩ := by
  simp only [advance, step, found]
  rfl

theorem advance_working (resume : σ → Turn σ (Future σ Response)) :
    (⟨inbox, .working (.waiting resume), written, reported⟩ : Connection σ).advance server store =
      (resume store).map fun answer => ⟨inbox, .working answer, written, reported⟩ := rfl

theorem advance_answered (response : Response) :
    (⟨inbox, .working (.ready response), written, reported⟩ : Connection σ).advance server store =
      ⟨⟨inbox, .reading, written ++ frame response.encode, reported⟩, store, []⟩ := rfl

end Connection

abbrev Site (ι σ : Type) := ι → Connection σ

namespace Site

variable {ι : Type} [DecidableEq ι]

inductive Move (ι : Type) where
  | arrive (index : ι) (chunk : Bytes)
  | advance (index : ι)

/-- The bytes that moves bring to a connection. -/
def received (moves : List (Move ι)) (index : ι) : Bytes :=
  moves.flatMap fun
    | .arrive other chunk => if other = index then chunk else []
    | .advance _ => []

def play (server : Server σ) (site : Site ι σ) : Move ι → Action σ (Site ι σ)
  | .arrive index chunk => Action.pure (Function.update site index ((site index).arrive chunk))
  | .advance index => fun store =>
      ((site index).advance server store).map (Function.update site index)

def start (store : σ) : Turn σ (Site ι σ) := ⟨fun _ => {}, store, []⟩

def run (server : Server σ) (turn : Turn σ (Site ι σ)) (moves : List (Move ι)) :
    Turn σ (Site ι σ) :=
  moves.foldl (fun turn move => turn.andThen fun site => site.play server move) turn

theorem run_append (server : Server σ) (turn : Turn σ (Site ι σ)) (moves : List (Move ι))
    (move : Move ι) :
    run server turn (moves ++ [move]) =
      (run server turn moves).andThen fun site => site.play server move := by
  rw [run, List.foldl_append]
  rfl

theorem received_append (moves : List (Move ι)) (move : Move ι) (index : ι) :
    received (moves ++ [move]) index = received moves index ++ received [move] index := by
  rw [received, List.flatMap_append]
  rfl

end Site

/-- The connection has answered some of its requests, in their order and with what became of their
futures; it works on the next one or on none, and has polled no other future. -/
structure Serves (server : Server σ) (requests : List Request)
    (future : Fin requests.length → Future σ Response) (polled : Fin requests.length → Prop)
    (answered : List Response) (connection : Connection σ) : Prop where
  outbox : connection.outbox = replyStream answered
  finished : ∀ number : Fin requests.length, ∀ early : number < answered.length,
    future number = .ready answered[number]
  task : connection.task = .reading ∧ answered.length ≤ requests.length ∨
    ∃ inside : answered.length < requests.length,
      connection.task = .working (future ⟨answered.length, inside⟩)
  begun : ∀ number, polled number ↔ number < answered.length + connection.inProgress
  untouched : ∀ number, ¬ polled number → future number = server.answer requests[number]

theorem Serves.few {server : Server σ} {requests : List Request}
    {future : Fin requests.length → Future σ Response} {polled : Fin requests.length → Prop}
    {answered : List Response} {connection : Connection σ}
    (serves : Serves server requests future polled answered connection) :
    answered.length ≤ requests.length := by
  rcases serves.task with ⟨_, few⟩ | ⟨inside, _⟩
  · exact few
  · exact inside.le

/-- The requests that a connection has not taken are ahead of it, in what is buffered and in what
will still be sent. -/
structure Progress (server : Server σ) (requests : List Request) (unsent : Bytes)
    (future : Fin requests.length → Future σ Response) (polled : Fin requests.length → Prop)
    (answered : List Response) (connection : Connection σ) : Prop
    extends Serves server requests future polled answered connection where
  opened : connection.inbox.closed = false
  ahead : Leads Request.decode (connection.inbox.buffer ++ unsent)
    (requests.drop (answered.length + connection.inProgress)) []

/-- An open inbox with well-formed requests ahead of it waits or gives the next of them. -/
theorem read_ahead {buffer unsent : Bytes} {requests : List Request}
    (ahead : Leads Request.decode (buffer ++ unsent) requests []) :
    (⟨buffer, false⟩ : Inbox).read Request.decode = (.waiting, ⟨buffer, false⟩) ∨
      ∃ request rest left, requests = request :: rest ∧
        (⟨buffer, false⟩ : Inbox).read Request.decode = (.value request, ⟨left, false⟩) ∧
        Leads Request.decode (left ++ unsent) rest [] := by
  rcases unfinished_or_frame buffer with unfinished | ⟨body, left, framable, enough, rfl⟩
  · left
    rw [Inbox.read_unfinished unfinished]
    rfl
  · right
    cases decoded : Request.decode body with
    | error fault =>
        rw [List.append_assoc] at ahead
        have more := enough_append enough unsent
        cases ahead with
        | next opens => exact absurd opens (stuck_of_faulty framable more decoded _ _)
    | ok result =>
        have opens := Opens.frame framable enough decoded
        obtain ⟨rest, rfl, later⟩ := ahead.after (opens.append unsent)
        exact ⟨_, rest, left, rfl, Inbox.read_opens opens false, later⟩

namespace Progress

variable {server : Server σ} {requests : List Request} {unsent : Bytes}
  {future : Fin requests.length → Future σ Response} {polled : Fin requests.length → Prop}
  {answered : List Response} {connection : Connection σ}

theorem start (server : Server σ) {stream : Bytes}
    (wellFormed : Leads Request.decode stream requests []) :
    Progress server requests stream (fun number => server.answer requests[number])
      (fun _ => False) [] {} where
  outbox := rfl
  finished _ early := absurd early (Nat.not_lt_zero _)
  task := .inl ⟨rfl, Nat.zero_le _⟩
  begun _ := iff_of_false id (Nat.not_lt_zero _)
  untouched _ _ := rfl
  opened := rfl
  ahead := wellFormed

theorem arrive {chunk : Bytes}
    (progress : Progress server requests (chunk ++ unsent) future polled answered connection) :
    Progress server requests unsent future polled answered (connection.arrive chunk) where
  outbox := progress.outbox
  finished := progress.finished
  task := progress.task
  begun := progress.begun
  untouched := progress.untouched
  opened := progress.opened
  ahead := by
    change Leads _ (connection.inbox.buffer ++ chunk ++ unsent) _ _
    rw [List.append_assoc]
    exact progress.ahead

/-- The future of the next request has been polled, for the first time or again. -/
theorem poll (progress : Progress server requests unsent future polled answered connection)
    (inside : answered.length < requests.length) {inbox : Inbox} (opened : inbox.closed = false)
    (ahead : Leads Request.decode (inbox.buffer ++ unsent)
      (requests.drop (answered.length + 1)) []) (answer : Future σ Response) :
    Progress server requests unsent (Function.update future ⟨answered.length, inside⟩ answer)
      (fun number => polled number ∨ number = ⟨answered.length, inside⟩) answered
      ⟨inbox, .working answer, connection.outbox, connection.reported⟩ where
  outbox := progress.outbox
  finished number early := by
    have different : number ≠ ⟨answered.length, inside⟩ := by
      rintro rfl
      exact Nat.lt_irrefl _ early
    rw [Function.update_of_ne different]
    exact progress.finished number early
  task := .inr ⟨inside, by rw [Function.update_self]⟩
  begun number := by
    have atMost := connection.inProgress_le_one
    change _ ↔ number < answered.length + 1
    rw [progress.begun, Fin.ext_iff]
    dsimp only
    omega
  untouched number unpolled := by
    obtain ⟨before, different⟩ := not_or.mp unpolled
    rw [Function.update_of_ne different]
    exact progress.untouched number before
  opened := opened
  ahead := ahead

/-- The answer that is ready has been written. -/
theorem write (progress : Progress server requests unsent future polled answered connection)
    (inside : answered.length < requests.length) {response : Response}
    (ended : future ⟨answered.length, inside⟩ = .ready response)
    (working : connection.task = .working (.ready response)) :
    Progress server requests unsent future polled (answered ++ [response])
      (connection.write response) := by
  have written : (answered ++ [response]).length = answered.length + 1 := List.length_append
  have busy := Connection.inProgress_working working
  constructor
  · constructor
    · change connection.outbox ++ frame response.encode = _
      rw [progress.outbox, replyStream, replyStream, List.flatMap_append, List.flatMap_singleton]
    · intro number early
      by_cases last : number = ⟨answered.length, inside⟩
      · subst last
        simpa using ended
      · have before : number < answered.length := by
          rw [written] at early
          rw [Fin.ext_iff] at last
          dsimp only at last
          omega
        rw [progress.finished number before]
        simp [before]
    · left
      exact ⟨rfl, by omega⟩
    · intro number
      rw [progress.begun, busy, written]
      rfl
    · exact progress.untouched
  · exact progress.opened
  · rw [written]
    have ahead := progress.ahead
    rw [busy] at ahead
    exact ahead

/-- All that a move of the task can come to: nothing, one more poll of the future that is next, or
one more response. -/
theorem advance (progress : Progress server requests unsent future polled answered connection)
    (store : σ) :
    (connection.taken = [] ∧ connection.advance server store = ⟨connection, store, []⟩) ∨
    (∃ (inside : answered.length < requests.length) (inbox : Inbox), inbox.closed = false ∧
      Leads Request.decode (inbox.buffer ++ unsent) (requests.drop (answered.length + 1)) [] ∧
      requests.take (answered.length + connection.inProgress) ++ connection.taken =
        requests.take (answered.length + 1) ∧
      connection.advance server store =
        ((future ⟨answered.length, inside⟩).poll store).map fun answer =>
          ⟨inbox, .working answer, connection.outbox, connection.reported⟩) ∨
    ∃ (inside : answered.length < requests.length) (response : Response),
      future ⟨answered.length, inside⟩ = .ready response ∧
      connection.task = .working (.ready response) ∧ connection.taken = [] ∧
      connection.advance server store = ⟨connection.write response, store, []⟩ := by
  obtain ⟨⟨buffer, closed⟩, task, written, reported⟩ := connection
  have opened : closed = false := progress.opened
  have ahead := progress.ahead
  subst opened
  -- A task that reads waits or begins with the next request; one that works polls or writes.
  rcases progress.task with ⟨reading, few⟩ | ⟨inside, working⟩
  · cases reading
    change Leads Request.decode (buffer ++ unsent) (requests.drop answered.length) [] at ahead
    rcases read_ahead ahead with waiting | ⟨request, rest, left, next, found, later⟩
    · left
      refine ⟨?_, Connection.advance_waiting waiting⟩
      simp only [Connection.taken, waiting]
    · right
      left
      have inside : answered.length < requests.length := by
        by_contra outside
        rw [List.drop_eq_nil_of_le (Nat.not_lt.mp outside)] at next
        cases next
      rw [List.drop_eq_getElem_cons inside] at next
      cases next
      have fresh : ¬ polled ⟨answered.length, inside⟩ := by
        rw [progress.begun]
        exact Nat.lt_irrefl _
      refine ⟨inside, ⟨left, false⟩, rfl, later, ?_, ?_⟩
      · simp only [Connection.taken, found]
        exact List.take_append_getElem inside
      · rw [progress.untouched _ fresh]
        exact Connection.advance_taken found
  · cases working
    right
    cases current : future ⟨answered.length, inside⟩ with
    | ready response => exact .inr ⟨inside, response, current, rfl, rfl, rfl⟩
    | waiting resume =>
        left
        refine ⟨inside, ⟨buffer, false⟩, rfl, ahead, List.append_nil _, ?_⟩
        rw [current, Future.poll_waiting]
        exact Connection.advance_working resume

end Progress

end Chaincode.Service
