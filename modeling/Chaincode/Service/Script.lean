import Chaincode.Service.Client

namespace Chaincode.Service

/-! A client against a peer that follows a script.

For each call the peer reads the request, sends its reply, if any, and may close
its sending side.  It reads on in any case, but can send nothing more.
-/

structure Exchange where
  call : Call
  reply : Bytes := []
  close : Bool := false

structure Transcript where
  /-- One result per call; `none` for a call that waits for ever. -/
  results : List (Option (Except ClientError Answer)) := []
  /-- The frame that each call sent. -/
  sent : List Bytes := []

namespace Exchange

/-- The client after the peer has done its part. -/
def deliver (exchange : Exchange) (client : Client) : Client :=
  let client := if client.inbox.closed then client else client.arrive exchange.reply
  if exchange.close then client.close else client

def play (client : Client) : List Exchange → Transcript
  | [] => {}
  | exchange :: rest =>
      let (result, client) := (exchange.deliver client).finish exchange.call
      let later := play client rest
      ⟨result :: later.results, exchange.call.sent :: later.sent⟩

end Exchange

/-- Connects and plays the script. -/
def playScript (network : Network) (script : List Exchange) : Except ClientError Transcript :=
  match network.connects with
  | .error error => .error (.io error)
  | .ok _ => .ok (Exchange.play {} script)

end Chaincode.Service
