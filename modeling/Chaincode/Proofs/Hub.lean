import Chaincode.Proofs.Serving
import Chaincode.Proofs.Wire
import Chaincode.Service.Link

namespace Chaincode

open Service Wire

/-! A server with all of its connections, and its dispatcher without any.

Clients call one after the other; between the calls other peers send bytes of
any kind.  The dispatcher alone is asked directly: by the calls themselves, and
by the requests that the bytes of a peer lead with.
-/

namespace Service

/-- What may happen on the connections of a server. -/
inductive Activity where
  | call (client : Nat) (call : Call)
  | send (peer : Nat) (chunk : Bytes)
  /-- A peer closes its sending side. -/
  | close (peer : Nat)

def Activity.bodies : Activity → List Bytes
  | .call _ asked => [asked.request.encode]
  | .send _ _ | .close _ => []

structure Hub (σ : Type) where
  links : Nat → Link σ := fun _ => {}
  peers : Nat → Connection σ := fun _ => {}

namespace Hub

abbrev Result := Option (Except ClientError Answer)

/-- The results of the calls made in one activity, and the hub after it. -/
def step (server : Server σ) (hub : Hub σ) : Activity → Action σ (List Result × Hub σ)
  | .call client call => fun store =>
      ((hub.links client).call server call store).map fun (result, _, link) =>
        ([result], { hub with links := Function.update hub.links client link })
  | .send peer chunk => fun store =>
      (((hub.peers peer).arrive chunk).settle server store).map fun connection =>
        ([], { hub with peers := Function.update hub.peers peer connection })
  | .close peer => fun store =>
      ((hub.peers peer).close.settle server store).map fun connection =>
        ([], { hub with peers := Function.update hub.peers peer connection })

def run (server : Server σ) (hub : Hub σ) : List Activity → Action σ (List Result × Hub σ)
  | [] => Action.pure ([], hub)
  | activity :: rest => fun store =>
      (hub.step server activity store).andThen fun (results, hub) store =>
        (run server hub rest store).map fun (later, hub) => (results ++ later, hub)

end Hub

/-- What a peer has sent, and whether it can send more. -/
structure Peer where
  sent : Bytes := []
  closed : Bool := false

/-- The requests that another chunk completes. -/
def Peer.completed (peer : Peer) (chunk : Bytes) : List Request :=
  if peer.closed then []
  else (leading Request.decode (peer.sent ++ chunk)).1.drop
    (leading Request.decode peer.sent).1.length

def Activity.heard (peers : Nat → Peer) : Activity → Nat → Peer
  | .call _ _ => peers
  | .send peer chunk =>
      Function.update peers peer { peers peer with sent := (peers peer).sent ++ chunk }
  | .close peer => Function.update peers peer { peers peer with closed := true }

end Service

namespace Dispatcher

/-- What a call asks for, done by the dispatcher itself. -/
def answer (dispatcher : Dispatcher σ) : Call → Action σ Answer
  | .ping => Action.pure .alive
  | .methods => Action.pure (.methods dispatcher.methods)
  | .start _ => fun store => (dispatcher.start store).map .outcome
  | .invoke stub => fun store => ((dispatcher.invoke stub).run store).map .outcome

def perform (dispatcher : Dispatcher σ) (peers : Nat → Peer) : Activity → Action σ (List Answer)
  | .call _ call => fun store => (dispatcher.answer call store).map fun answer => [answer]
  | .send peer chunk => fun store =>
      (dispatcher.replies ((peers peer).completed chunk) store).map fun _ => []
  | .close _ => Action.pure []

def performAll (dispatcher : Dispatcher σ) (peers : Nat → Peer) :
    List Activity → Action σ (List Answer)
  | [] => Action.pure []
  | activity :: rest => fun store =>
      (dispatcher.perform peers activity store).andThen fun answers store =>
        (performAll dispatcher (activity.heard peers) rest store).map (answers ++ ·)

end Dispatcher

end Chaincode
