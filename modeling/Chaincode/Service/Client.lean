import Chaincode.Inspect
import Chaincode.Service.Address
import Chaincode.Wire.Inbox

namespace Chaincode.Service

open Wire

/-! The asking side of a connection.

A client sends one request frame per call and takes the next frame that comes
back as the answer.  What arrives beyond that frame is kept for later calls.
-/

inductive Call where
  | ping
  | methods
  | start (stub : Stub)
  | invoke (stub : Stub)
deriving DecidableEq

inductive Answer where
  | alive
  | methods (names : List String)
  | outcome (outcome : Outcome)
deriving DecidableEq

inductive ClientError where
  | io (error : IoError)
  | stream (error : StreamError)
  | closed
  | unexpected (response : Response)
deriving DecidableEq

namespace ClientError

def describe : ClientError → String
  | .io error => "I/O error: " ++ error.describe
  | .stream error => "bincode error: " ++ error.describe
  | .closed => "connection closed before a response arrived"
  | .unexpected response => "unexpected response: " ++ response.inspect

end ClientError

namespace Call

def request : Call → Request
  | .ping => .ping
  | .methods => .methods
  | .start stub => .start stub
  | .invoke stub => .invoke stub

/-- The bytes that a call sends. -/
def sent (call : Call) : Bytes := frame call.request.encode

/-- Takes a response of the kind that the call asks for. -/
def accept : Call → Response → Except ClientError Answer
  | .ping, .pong => .ok .alive
  | .methods, .methods names => .ok (.methods names)
  | .start _, .result outcome => .ok (.outcome outcome)
  | .invoke _, .result outcome => .ok (.outcome outcome)
  | _, response => .error (.unexpected response)

end Call

structure Client where
  inbox : Inbox := {}
deriving DecidableEq

namespace Client

def arrive (client : Client) (chunk : Bytes) : Client := ⟨client.inbox.receive chunk⟩

def close (client : Client) : Client := ⟨client.inbox.close⟩

/-- Reads the answer to a call; `none` while it has not arrived. -/
def finish (client : Client) (call : Call) : Option (Except ClientError Answer) × Client :=
  match client.inbox.read Response.decode with
  | (.waiting, inbox) => (none, ⟨inbox⟩)
  | (.ended, inbox) => (some (.error .closed), ⟨inbox⟩)
  | (.failed error, inbox) => (some (.error (.stream error)), ⟨inbox⟩)
  | (.value response, inbox) => (some (call.accept response), ⟨inbox⟩)

end Client

end Chaincode.Service
