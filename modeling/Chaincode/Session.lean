import Chaincode.Handlers.Sample
import Chaincode.Service.Link
import Chaincode.Tracing.Event

namespace Chaincode

/-! A program that works with registries, dispatchers, servers and clients.

A session owns any number of each and the counters that handlers share.  What it
creates is selected later by its index.  A dispatcher that moves into a server
can no longer be selected.
-/

open Service Tracing

structure Session where
  network : Network
  store : Counters := {}
  registries : List (Registry Counters) := [.empty]
  dispatchers : List (Option (Dispatcher Counters)) := []
  servers : List (Server Counters) := []
  /-- The clients, each with the index of its server. -/
  clients : List (Nat × Link Counters) := []

/-- What a new handler is to do. -/
inductive Blueprint where
  | sample (sample : Sample)
  /-- Counts its runs with a counter of its own. -/
  | counting
  /-- Forwards to a dispatcher over the registry as it is before the insertion. -/
  | forwarding
  /-- Is always named `ping`. -/
  | ping

/-- How a new handler is registered. -/
inductive Registration where
  /-- As an object with this name. -/
  | object (name : String)
  /-- As a function of the arguments, under this name. -/
  | function (name : String)

/-- A method call and the stub it comes with. -/
structure MethodCall where
  stub : Stub
  invocation : Invocation

inductive Command where
  | newRegistry
  | copyRegistry (registry : Nat)
  | insert (registry : Nat) (registration : Registration) (blueprint : Blueprint) (pauses : Nat)
  | names (registry : Nat)
  | size (registry : Nat)
  | isEmpty (registry : Nat)
  | contains (registry : Nat) (name : String)
  | get (registry : Nat) (name : String)
  /-- Calls a handler without a dispatcher. -/
  | direct (registry : Nat) (call : MethodCall)
  | dispatcher (registry : Nat) (name : String)
  | verySimple
  | name (dispatcher : Nat)
  | methods (dispatcher : Nat)
  | start (dispatcher : Nat)
  | dispatch (dispatcher : Nat) (call : MethodCall)
  | invoke (dispatcher : Nat) (stub : Stub)
  | call (dispatcher : Nat) (call : MethodCall)
  /-- Dispatches all calls together, polled in rounds. -/
  | all (dispatcher : Nat) (calls : List MethodCall)
  | info (line : String)
  | serve (dispatcher : Nat)
  | connect (server : Nat)
  | client (client : Nat) (call : Call)
  /-- A connection that sends these bytes and closes. -/
  | raw (server : Nat) (bytes : Bytes)
  | serveAt (dispatcher : Nat) (address : String)
  | connectTo (address : String)

/-- What a command selected and did not find, or needed and did not get. -/
inductive Missing where
  | registry
  | dispatcher
  | server
  | client
  | connection
  | answer
deriving DecidableEq

inductive Reply where
  | done
  | serving
  | index (index : Nat)
  | count (count : Nat)
  | flag (flag : Bool)
  | name (name : Option String)
  | names (names : List String)
  | payload (payload : Payload)
  | bytes (bytes : Bytes)
  | absent
  | outcome (outcome : Outcome)
  | outcomes (outcomes : List Outcome)
  | registryError (error : RegistryError)
  | handlerError (error : HandlerError)
  | panicked (panic : Panic)
  | dispatchError (error : DispatchError)
  | clientError (error : ClientError)
  | ioError (error : IoError)
  | missing (missing : Missing)

/-- What one command gives, and what was reported meanwhile. -/
structure Report where
  reply : Reply
  lines : List String := []
  events : List Event := []

namespace Service.Answer

def reply : Answer → Reply
  | .alive => .done
  | .methods found => .names found
  | .outcome result => .outcome result

end Service.Answer

namespace Completion

def reply : Completion → Reply
  | .returned payload => .payload payload
  | .failed error => .handlerError error
  | .panicked panic => .panicked panic

end Completion

namespace Session

abbrev Step := Session → Report × Session

def answer (reply : Reply) : Step := fun session => (⟨reply, [], []⟩, session)

def withRegistry (index : Nat) (next : Registry Counters → Step) : Step := fun session =>
  match session.registries[index]? with
  | some registry => next registry session
  | none => answer (.missing .registry) session

def withDispatcher (index : Nat) (next : Dispatcher Counters → Step) : Step := fun session =>
  match session.dispatchers[index]? with
  | some (some dispatcher) => next dispatcher session
  | _ => answer (.missing .dispatcher) session

def withServer (index : Nat) (next : Server Counters → Step) : Step := fun session =>
  match session.servers[index]? with
  | some server => next server session
  | none => answer (.missing .server) session

/-- Runs an action on the session's counters. -/
def perform (action : Action Counters α) (reply : α → Reply) : Step := fun session =>
  let turn := action session.store
  (⟨reply turn.value, turn.lines, []⟩, { session with store := turn.store })

def addRegistry (registry : Registry Counters) : Step := fun session =>
  (⟨.index session.registries.length, [], []⟩,
    { session with registries := session.registries ++ [registry] })

def addDispatcher (dispatcher : Dispatcher Counters) : Step := fun session =>
  (⟨.index session.dispatchers.length, [], []⟩,
    { session with dispatchers := session.dispatchers ++ [some dispatcher] })

/-- The handler that a blueprint describes, with a counter of its own if it counts. -/
def build (registry : Registry Counters) (registration : Registration) (blueprint : Blueprint)
    (pauses : Nat) (store : Counters) : Handler Counters × Counters :=
  let handler (sample : Sample) : Handler Counters :=
    match registration with
    | .object name => sample.handler name pauses
    | .function name => .ofFunction name (sample.function pauses)
  match blueprint with
  | .sample sample => (handler sample, store)
  | .counting =>
      let (counter, store) := store.allocate
      (handler (.tally counter), store)
  | .forwarding => (handler (.forward ⟨"inner", registry⟩), store)
  | .ping => (Sample.ping.handler "ping" pauses, store)

def insert (index : Nat) (registration : Registration) (blueprint : Blueprint)
    (pauses : Nat) : Step :=
  withRegistry index fun registry session =>
    let (handler, store) := build registry registration blueprint pauses session.store
    let session := { session with store }
    match registry.insert handler with
    | .error error => answer (.registryError error) session
    | .ok registry =>
        answer .done { session with registries := session.registries.set index registry }

def direct (index : Nat) (call : MethodCall) : Step :=
  withRegistry index fun registry =>
    match registry.get? call.invocation.method with
    | none => answer .absent
    | some handler =>
        perform (handler.run call.stub call.invocation.arguments) Completion.reply

def callReply : Except DispatchError Payload → Reply
  | .ok payload => .payload payload
  | .error error => .dispatchError error

/-- The dispatcher moves into a new server. -/
def serve (index : Nat) (reply : Nat → Reply) : Step :=
  withDispatcher index fun dispatcher session =>
    (⟨reply session.servers.length, [], [.serving dispatcher.name none]⟩,
      { session with
        dispatchers := session.dispatchers.set index none
        servers := session.servers ++ [⟨dispatcher⟩] })

def connect (index : Nat) : Step :=
  withServer index fun _ session =>
    match session.network.connects with
    | .error error => answer (.clientError (.io error)) session
    | .ok _ =>
        (⟨.index session.clients.length, [], []⟩,
          { session with clients := session.clients ++ [(index, {})] })

def callResult : Option (Except ClientError Answer) → Reply
  | none => .missing .answer
  | some (.ok answer) => answer.reply
  | some (.error error) => .clientError error

def clientCall (index : Nat) (call : Call) : Step := fun session =>
  match session.clients[index]? with
  | none => answer (.missing .client) session
  | some (serverIndex, link) =>
      withServer serverIndex (fun server session =>
        let turn := link.call server call session.store
        let (result, reported, after) := turn.value
        (⟨callResult result, turn.lines, reported⟩,
          { session with
            store := turn.store
            clients := session.clients.set index (serverIndex, after) })) session

def raw (index : Nat) (bytes : Bytes) : Step :=
  withServer index fun server session =>
    match session.network.connects with
    | .error _ => answer (.missing .connection) session
    | .ok _ =>
        let turn := Connection.converse server {} [bytes] session.store
        (⟨.bytes turn.value.outbox, turn.lines, turn.value.reported⟩,
          { session with store := turn.store })

def step : Command → Step
  | .newRegistry => addRegistry .empty
  | .copyRegistry index => withRegistry index addRegistry
  | .insert index registration blueprint pauses => insert index registration blueprint pauses
  | .names index => withRegistry index fun registry => answer (.names registry.names)
  | .size index => withRegistry index fun registry => answer (.count registry.size)
  | .isEmpty index => withRegistry index fun registry => answer (.flag registry.isEmpty)
  | .contains index name =>
      withRegistry index fun registry => answer (.flag (registry.contains name))
  | .get index name =>
      withRegistry index fun registry => answer (.name ((registry.get? name).map Handler.name))
  | .direct index call => direct index call
  | .dispatcher index name => withRegistry index fun registry => addDispatcher ⟨name, registry⟩
  | .verySimple => addDispatcher VerySimple.dispatcher
  | .name index => withDispatcher index fun dispatcher => answer (.name (some dispatcher.name))
  | .methods index => withDispatcher index fun dispatcher => answer (.names dispatcher.methods)
  | .start index => withDispatcher index fun dispatcher => perform dispatcher.start .outcome
  | .dispatch index call => withDispatcher index fun dispatcher =>
      perform (dispatcher.dispatch call.stub call.invocation).run .outcome
  | .invoke index stub => withDispatcher index fun dispatcher =>
      perform (dispatcher.invoke stub).run .outcome
  | .call index call => withDispatcher index fun dispatcher =>
      perform (dispatcher.call call.stub call.invocation).run callReply
  | .all index calls => withDispatcher index fun dispatcher =>
      perform (Future.all (calls.map fun call =>
        dispatcher.dispatch call.stub call.invocation)).run .outcomes
  | .info line => perform (Action.log line) fun _ => .done
  | .serve index => serve index .index
  | .connect index => connect index
  | .client index call => clientCall index call
  | .raw index bytes => raw index bytes
  | .serveAt index address =>
      match Address.parse address with
      | .error error => answer (.ioError error)
      | .ok _ => serve index fun _ => .serving
  | .connectTo address => fun session =>
      match session.network.connectTo address with
      | .error error => answer (.clientError (.io error)) session
      | .ok _ => answer .done session

def run : List Command → Session → List Report
  | [], _ => []
  | command :: rest, session =>
      let (report, session) := step command session
      report :: run rest session

end Session

end Chaincode
