import Chaincode.Proofs.Frames
import Chaincode.Proofs.Replies

namespace Chaincode.Service

open Wire

/-! What a server does with the bytes of one connection.

The bytes arrive in chunks, the task of the connection runs in between, and then
the peer closes.  When the task runs makes no difference: whatever it did early
it would have done in the end.  So only the whole stream counts, and of it only
the leading requests and how it goes on behind them.
-/

namespace Connection

variable {server : Server σ} {connection : Connection σ}

theorem serve_eq (server : Server σ) (connection : Connection σ) (store : σ) :
    connection.serve server store =
      match connection.inbox.read Request.decode with
      | (.waiting, _) => ⟨connection, store, []⟩
      | (.ended, inbox) => ⟨{ connection with inbox, task := .finished }, store, []⟩
      | (.failed error, inbox) => ⟨{ connection with inbox }.giveUp error, store, []⟩
      | (.value request, inbox) =>
          (server.dispatcher.reply request store).andThen fun response =>
            ({ connection with inbox }.write response).serve server := by
  rw [serve]
  split
  next found => rw [found]
  next found => rw [found]
  next found => rw [found]
  next found => rw [found, Server.run_answer]

/-- What is done early does not change what is done in the end. -/
def Anticipates (server : Server σ) (turn : Turn σ (Connection σ)) (connection : Connection σ)
    (store : σ) : Prop :=
  turn.value.inbox.closed = false ∧ ∀ later,
    (turn.andThen fun reached => (reached.arrive later).close.settle server) =
      (connection.arrive later).close.settle server store

theorem pure_anticipates (opened : connection.inbox.closed = false) (store : σ) :
    Anticipates server ⟨connection, store, []⟩ connection store :=
  ⟨opened, fun _ => rfl⟩

/-- A task that has read something reads it as well when all has arrived. -/
theorem read_all {reading : Reading Request} {after : Inbox}
    (opened : connection.inbox.closed = false)
    (found : connection.inbox.read Request.decode = (reading, after)) (moved : reading ≠ .waiting) :
    after.closed = false ∧ ∀ later,
      (connection.arrive later).close.inbox.read Request.decode =
        (reading, (after.receive later).close) := by
  obtain ⟨⟨buffer, closed⟩, task, written, reported⟩ := connection
  cases opened
  exact ⟨(Inbox.read_more found moved [] true).1,
    fun later => (Inbox.read_more found moved later true).2⟩

theorem settle_reading (reading : connection.task = .reading) (later : Bytes) :
    (connection.arrive later).close.settle server =
      (connection.arrive later).close.serve server := by
  rw [settle, close, arrive, reading]

theorem end_anticipates (opened : connection.inbox.closed = false)
    (reading : connection.task = .reading) {after : Inbox}
    (found : connection.inbox.read Request.decode = (.ended, after)) (store : σ) :
    Anticipates server ⟨{ connection with inbox := after, task := .finished }, store, []⟩
      connection store := by
  obtain ⟨still, more⟩ := read_all opened found (by simp)
  refine ⟨still, fun later => ?_⟩
  rw [settle_reading reading, serve_eq, more]
  rfl

theorem giveUp_anticipates (opened : connection.inbox.closed = false)
    (reading : connection.task = .reading) {after : Inbox} {error : StreamError}
    (found : connection.inbox.read Request.decode = (.failed error, after)) (store : σ) :
    Anticipates server ⟨{ connection with inbox := after }.giveUp error, store, []⟩
      connection store := by
  obtain ⟨still, more⟩ := read_all opened found (by simp)
  refine ⟨still, fun later => ?_⟩
  rw [settle_reading reading, serve_eq, more]
  rfl

theorem step_anticipates (opened : connection.inbox.closed = false) (store : σ) :
    Anticipates server (connection.step server store) connection store := by
  cases task : connection.task with
  | reading =>
      rw [step, task]
      cases found : connection.inbox.read Request.decode with
      | mk reading after =>
          cases reading with
          | waiting => exact pure_anticipates opened store
          | ended => exact end_anticipates opened task found store
          | failed error => exact giveUp_anticipates opened task found store
          | value request =>
              obtain ⟨still, more⟩ := read_all opened found (by simp)
              refine ⟨still, fun later => ?_⟩
              rw [settle_reading task, serve_eq, more]
              change _ = (server.dispatcher.reply request store).andThen _
              rw [← Server.run_answer]
              rfl
  | working answer =>
      rw [step, task]
      refine ⟨by cases answer <;> exact opened, fun later => ?_⟩
      rw [settle, close, arrive, task]
      change _ = (answer.run store).andThen _
      cases answer with
      | ready response =>
          rw [Future.run_ready]
          rfl
      | waiting resume =>
          rw [Future.run_waiting, Turn.andThen_assoc]
          rfl
  | finished =>
      rw [step, task]
      exact pure_anticipates opened store

theorem Anticipates.serve_after {first : Turn σ α} {next : α → Connection σ} {store : σ}
    (anticipates : Anticipates server ((next first.value).serve server first.store)
      (next first.value) first.store)
    (settled : ∀ later, (connection.arrive later).close.settle server store =
      first.andThen fun value => ((next value).arrive later).close.settle server) :
    Anticipates server (first.andThen fun value => (next value).serve server) connection store := by
  refine ⟨anticipates.1, fun later => ?_⟩
  rw [Turn.andThen_assoc, settled]
  exact congrArg (Turn.after · first.lines) (anticipates.2 later)

theorem serve_anticipates (opened : connection.inbox.closed = false)
    (reading : connection.task = .reading) (store : σ) :
    Anticipates server (connection.serve server store) connection store := by
  -- Each request that is read leaves a shorter buffer.
  induction size : connection.inbox.buffer.length using Nat.strongRecOn
    generalizing connection store with
  | _ length ih =>
      rw [serve_eq]
      cases found : connection.inbox.read Request.decode with
      | mk result after =>
          cases result with
          | waiting => exact pure_anticipates opened store
          | ended => exact end_anticipates opened reading found store
          | failed error => exact giveUp_anticipates opened reading found store
          | value request =>
              obtain ⟨still, more⟩ := read_all opened found (by simp)
              have shorter := Inbox.read_value_length found
              refine Anticipates.serve_after (ih _ (size ▸ shorter) still rfl _ rfl) fun later => ?_
              rw [settle_reading reading, serve_eq, more]
              rfl

theorem settle_anticipates (opened : connection.inbox.closed = false) (store : σ) :
    Anticipates server (connection.settle server store) connection store := by
  cases task : connection.task with
  | reading =>
      rw [settle, task]
      exact serve_anticipates opened task store
  | working answer =>
      have written : (connection.write (answer.run store).value).inbox.closed = false := opened
      rw [settle, task]
      refine Anticipates.serve_after (serve_anticipates written rfl _) fun later => ?_
      rw [settle, close, arrive, task]
      rfl
  | finished =>
      rw [settle, task]
      exact pure_anticipates opened store

/-- What can happen before the peer closes. -/
inductive Move where
  | chunk (bytes : Bytes)
  | step
  /-- The task goes on until it has to wait. -/
  | settle

namespace Move

def play (server : Server σ) (connection : Connection σ) : Move → Action σ (Connection σ)
  | .chunk bytes => Action.pure (connection.arrive bytes)
  | .step => connection.step server
  | .settle => connection.settle server

def bytes : Move → Bytes
  | .chunk bytes => bytes
  | .step | .settle => []

end Move

/-- A connection until its task has ended: some moves, and then the peer closes. -/
def conversation (server : Server σ) (connection : Connection σ) :
    List Move → Action σ (Connection σ)
  | [] => connection.close.settle server
  | move :: rest => fun store =>
      (move.play server connection store).andThen fun connection =>
        conversation server connection rest

/-- The order of the moves does not matter: all bytes might have been there at first. -/
theorem conversation_eq (opened : connection.inbox.closed = false) (moves : List Move)
    (store : σ) :
    conversation server connection moves store =
      (connection.arrive (moves.flatMap Move.bytes)).close.settle server store := by
  induction moves generalizing connection store with
  | nil =>
      rw [List.flatMap_nil, arrive, Inbox.receive, List.append_nil]
      rfl
  | cons move rest ih =>
      -- What the task does before the rest arrives can be left to the end.
      have early (turn : Turn σ (Connection σ))
          (anticipates : Anticipates server turn connection store) :
          (turn.andThen fun reached => conversation server reached rest) =
            (connection.arrive (rest.flatMap Move.bytes)).close.settle server store := by
        rw [← anticipates.2, Turn.andThen, ih anticipates.1]
        rfl
      cases move with
      | chunk bytes =>
          have joined : (connection.arrive bytes).arrive (rest.flatMap Move.bytes) =
              connection.arrive (bytes ++ rest.flatMap Move.bytes) := by
            simp only [arrive, Inbox.receive, List.append_assoc]
          have still : (connection.arrive bytes).inbox.closed = false := opened
          change (conversation server (connection.arrive bytes) rest store).after [] = _
          rw [Turn.after_nil, ih still, joined]
          rfl
      | step => exact early _ (step_anticipates opened store)
      | settle => exact early _ (settle_anticipates opened store)

theorem bytes_chunks (chunks : List Bytes) :
    (chunks.flatMap fun chunk => [.chunk chunk, .settle]).flatMap Move.bytes = chunks.flatten := by
  induction chunks with
  | nil => rfl
  | cons chunk rest ih =>
      rw [List.flatMap_cons, List.flatMap_append, ih, List.flatten_cons]
      simp only [List.flatMap_cons, List.flatMap_nil, Move.bytes, List.append_nil]

theorem converse_eq_conversation (connection : Connection σ) (chunks : List Bytes) :
    converse server connection chunks =
      conversation server connection (chunks.flatMap fun chunk => [.chunk chunk, .settle]) := by
  induction chunks generalizing connection with
  | nil => rfl
  | cons chunk rest ih =>
      funext store
      rw [converse]
      simp only [ih]
      rfl

end Connection

end Chaincode.Service
