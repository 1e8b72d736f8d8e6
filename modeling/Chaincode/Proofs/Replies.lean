import Chaincode.Proofs.Dispatch
import Chaincode.Service.Server

namespace Chaincode

open Wire

/-! Requests answered one after the other, without a connection.

This is what a server should do with the requests that it reads: each is done
once, in their order, and nothing else is done.
-/

namespace Action

def each (work : α → Action σ β) : List α → Action σ (List β)
  | [] => pure []
  | first :: rest => fun store =>
      (work first store).andThen fun value store => (each work rest store).map (value :: ·)

end Action

namespace Dispatcher

def reply (dispatcher : Dispatcher σ) : Request → Action σ Response
  | .ping => Action.pure .pong
  | .methods => Action.pure (.methods dispatcher.methods)
  | .start _ => fun store => (dispatcher.start store).map .result
  | .invoke stub => fun store => ((dispatcher.invoke stub).run store).map .result

def replies (dispatcher : Dispatcher σ) : List Request → Action σ (List Response) :=
  Action.each dispatcher.reply

/-- The handler calls that a request leads to. -/
def calls (dispatcher : Dispatcher σ) : Request → Ledger
  | .ping | .methods | .start _ => []
  | .invoke stub => dispatcher.entries stub stub.invocation

theorem replies_cons (dispatcher : Dispatcher σ) (request : Request) (rest : List Request)
    (store : σ) :
    dispatcher.replies (request :: rest) store =
      (dispatcher.reply request store).andThen fun response store =>
        (dispatcher.replies rest store).map (response :: ·) := rfl

theorem methods_recorded (dispatcher : Dispatcher σ) :
    dispatcher.recorded.methods = dispatcher.methods := by
  change (dispatcher.registry.handlers.map Handler.recorded).map Handler.name = _
  rw [List.map_map]
  rfl

theorem reply_recorded (dispatcher : Dispatcher σ) (request : Request) (store : σ)
    (ledger : Ledger) :
    dispatcher.recorded.reply request (store, ledger) =
      (dispatcher.reply request store).beside (ledger ++ dispatcher.calls request) := by
  cases request with
  | ping =>
      rw [calls, List.append_nil]
      rfl
  | methods =>
      rw [calls, List.append_nil, reply, methods_recorded]
      rfl
  | start stub =>
      rw [calls, List.append_nil]
      rfl
  | invoke stub =>
      change ((dispatcher.recorded.dispatch stub stub.invocation).run (store, ledger)).map _ = _
      rw [run_recorded]
      rfl

theorem replies_recorded (dispatcher : Dispatcher σ) (requests : List Request) (store : σ)
    (ledger : Ledger) :
    dispatcher.recorded.replies requests (store, ledger) =
      (dispatcher.replies requests store).beside (ledger ++ requests.flatMap dispatcher.calls) := by
  induction requests generalizing store ledger with
  | nil =>
      rw [List.flatMap_nil, List.append_nil]
      rfl
  | cons request rest ih =>
      rw [replies_cons, reply_recorded, replies_cons, List.flatMap_cons, ← List.append_assoc]
      change (((dispatcher.recorded.replies rest (_, _)).map _).after _ : Turn _ _) = _
      rw [ih]
      rfl

end Dispatcher

namespace Service.Server

theorem run_answer (server : Server σ) (request : Request) :
    (server.answer request).run = server.dispatcher.reply request := by
  funext store
  cases request with
  | ping => exact Future.run_ready _ _
  | methods => exact Future.run_ready _ _
  | start stub =>
      rw [answer, Future.run_map, Future.run_perform]
      rfl
  | invoke stub =>
      rw [answer, Future.run_map]
      rfl

/-- Recording adds to an answer that its first poll notes the calls of handlers. -/
theorem poll_recorded (server : Server σ) (request : Request) (store : σ) (ledger : Ledger) :
    ((⟨server.dispatcher.recorded⟩ : Server (σ × Ledger)).answer request).poll (store, ledger) =
      (((server.answer request).poll store).beside
        (ledger ++ server.dispatcher.calls request)).map Future.beside := by
  cases request with
  | ping =>
      simp only [answer, Future.poll, Turn.beside, Turn.map, Future.beside_ready, Dispatcher.calls,
        List.append_nil]
  | methods =>
      simp only [answer, Dispatcher.methods_recorded, Future.poll, Turn.beside, Turn.map,
        Future.beside_ready, Dispatcher.calls, List.append_nil]
  | start stub =>
      rw [Dispatcher.calls, List.append_nil, ← Future.poll_beside, answer, answer,
        Future.beside_map, Future.beside_perform]
      rfl
  | invoke stub =>
      rw [answer, answer, Dispatcher.invoke, Dispatcher.invoke, Dispatcher.dispatch_recorded,
        Future.poll_map, Future.poll_noting _ _ _ _ Dispatcher.dispatch_isReady, Future.poll_map]
      simp only [Turn.map, Turn.beside, Future.beside_map]
      rfl

end Service.Server

end Chaincode
