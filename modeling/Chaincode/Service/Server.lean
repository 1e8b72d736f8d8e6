import Chaincode.Dispatcher
import Chaincode.Tracing.Event
import Chaincode.Wire.Inbox
import Chaincode.Wire.Message

namespace Chaincode.Service

open Tracing Wire

/-! A dispatcher that answers requests from connections.

Every accepted connection has a task of its own.  The task takes the next
request, works on it until the answer is there, writes the answer, and only then
looks for another request.  The first error is reported and ends it; the answers
already written stay written.
-/

structure Server (σ : Type) where
  dispatcher : Dispatcher σ

namespace Server

def answer (server : Server σ) : Request → Future σ Response
  | .ping => .ready .pong
  | .methods => .ready (.methods server.dispatcher.methods)
  | .start _ => (Future.perform server.dispatcher.start).map .result
  | .invoke stub => (server.dispatcher.invoke stub).map .result

end Server

/-- What the task of a connection is doing. -/
inductive Task (σ : Type) where
  | reading
  | working (answer : Future σ Response)
  /-- The peer is gone, or its bytes were in error. -/
  | finished

structure Connection (σ : Type) where
  inbox : Inbox := {}
  task : Task σ := .reading
  /-- What has been written to the peer. -/
  outbox : Bytes := []
  /-- What has been reported about the connection. -/
  reported : List Event := []

namespace Connection

/-- The peer sends a chunk. -/
def arrive (connection : Connection σ) (chunk : Bytes) : Connection σ :=
  { connection with inbox := connection.inbox.receive chunk }

/-- The peer closes its sending side. -/
def close (connection : Connection σ) : Connection σ :=
  { connection with inbox := connection.inbox.close }

def write (connection : Connection σ) (response : Response) : Connection σ :=
  { connection with task := .reading, outbox := connection.outbox ++ frame response.encode }

/-- The bytes of the peer are in error: this is reported, and the task ends. -/
def giveUp (connection : Connection σ) (error : StreamError) : Connection σ :=
  { connection with
    task := .finished, reported := connection.reported ++ [.undecodable error] }

/-- One step of the task: take a request, poll its answer, or write the answer. -/
def step (server : Server σ) (connection : Connection σ) : Action σ (Connection σ) :=
  match connection.task with
  | .reading =>
      match connection.inbox.read Request.decode with
      | (.waiting, _) => Action.pure connection
      | (.ended, inbox) => Action.pure { connection with inbox, task := .finished }
      | (.failed error, inbox) => Action.pure ({ connection with inbox }.giveUp error)
      | (.value request, inbox) =>
          Action.pure { connection with inbox, task := .working (server.answer request) }
  | .working (.ready response) => Action.pure (connection.write response)
  | .working (.waiting resume) => fun store =>
      (resume store).map fun answer => { connection with task := .working answer }
  | .finished => Action.pure connection

/-- Serves what has arrived, from a task that is about to read. -/
def serve (server : Server σ) (connection : Connection σ) : Action σ (Connection σ) := fun store =>
  match _found : connection.inbox.read Request.decode with
  | (.waiting, _) => ⟨connection, store, []⟩
  | (.ended, inbox) => ⟨{ connection with inbox, task := .finished }, store, []⟩
  | (.failed error, inbox) => ⟨{ connection with inbox }.giveUp error, store, []⟩
  | (.value request, inbox) =>
      ((server.answer request).run store).andThen fun response =>
        serve server ({ connection with inbox }.write response)
termination_by connection.inbox.buffer.length
decreasing_by exact Inbox.read_value_length _found

/-- Runs the task until it waits for the peer or is finished. -/
def settle (server : Server σ) (connection : Connection σ) : Action σ (Connection σ) :=
  match connection.task with
  | .reading => serve server connection
  | .working answer => fun store =>
      (answer.run store).andThen fun response => serve server (connection.write response)
  | .finished => Action.pure connection

/-- A finished task closes the connection. -/
def isFinished (connection : Connection σ) : Bool :=
  match connection.task with
  | .finished => true
  | _ => false

/-- The connection once the peer has what was written, and whoever watches has what was
reported. -/
def delivered (connection : Connection σ) : Connection σ :=
  { connection with outbox := [], reported := [] }

/-- Serves a peer that sends its bytes chunk by chunk and then closes. -/
def converse (server : Server σ) (connection : Connection σ) : List Bytes → Action σ (Connection σ)
  | [] => connection.close.settle server
  | chunk :: rest => fun store =>
      ((connection.arrive chunk).settle server store).andThen fun connection =>
        converse server connection rest

end Connection

end Chaincode.Service
