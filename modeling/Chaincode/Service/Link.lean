import Chaincode.Service.Client
import Chaincode.Service.Server

namespace Chaincode.Service

/-! A client and the server that it is connected to.

A call sends its request, lets the server work until it waits again, and then
reads the answer from what has come back.
-/

structure Link (σ : Type) where
  client : Client := {}
  /-- The server's end of the connection. -/
  connection : Connection σ := {}

namespace Link

/-- The client after the server's end has settled: what was written has arrived, and a
finished task has closed the connection. -/
def deliver (connection : Connection σ) (client : Client) : Client :=
  let client := client.arrive connection.outbox
  if connection.isFinished then client.close else client

/-- One call: its result, or `none` if no answer came, what the server reports meanwhile, and the
link after the call. -/
def call (server : Server σ) (link : Link σ) (call : Call) :
    Action σ (Option (Except ClientError Answer) × List Tracing.Event × Link σ) := fun store =>
  ((link.connection.arrive call.sent).settle server store).map fun connection =>
    let (result, client) := (deliver connection link.client).finish call
    (result, connection.reported, { client, connection := connection.delivered })

end Link

end Chaincode.Service
