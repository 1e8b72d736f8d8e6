import Chaincode.Proofs.Concurrency
import Chaincode.Proofs.Peers
import Chaincode.Proofs.RoundTrip

namespace Chaincode.Service

open Wire

/-! Calls through a server are calls of its dispatcher.

A call leaves its connection as it found it: both ends have read all that there
was to read.  So the clients' connections are always fresh and those of the other
peers hear what their peers have sent, and with this each activity does what the
dispatcher does when it is asked directly.
-/

namespace Answer

def response : Answer → Response
  | .alive => .pong
  | .methods names => .methods names
  | .outcome result => .result result

end Answer

theorem reply_request (dispatcher : Dispatcher σ) (call : Call) (store : σ) :
    dispatcher.reply call.request store = (dispatcher.answer call store).map Answer.response := by
  cases call <;> rfl

theorem accept_response (dispatcher : Dispatcher σ) (call : Call) (store : σ) :
    call.accept (dispatcher.answer call store).value.response =
      .ok (dispatcher.answer call store).value := by
  cases call <;> rfl

theorem settle_request (server : Server σ) {request : Request} (framable : Framable request.encode)
    (store : σ) :
    (({} : Connection σ).arrive (frame request.encode)).settle server store =
      (server.dispatcher.reply request store).map fun response =>
        { outbox := frame response.encode } := by
  change Connection.serve server ⟨⟨frame request.encode, false⟩, .reading, [], []⟩ store = _
  have idle (written : Bytes) (store : σ) :
      Connection.serve server ⟨⟨[], false⟩, .reading, written, []⟩ store =
        ⟨⟨⟨[], false⟩, .reading, written, []⟩, store, []⟩ := by
    rw [Connection.serve_eq]
    rfl
  rw [Connection.serve_eq, Inbox.read_opens (opens_request framable)]
  change (_ : Turn σ Response).andThen (fun response =>
    Connection.serve server ⟨⟨[], false⟩, .reading, frame response.encode, []⟩) = _
  simp only [Turn.andThen, idle, Turn.after, List.append_nil]
  rfl

/-- Both ends of a fresh link are fresh after a call, and its answer is the dispatcher's. -/
theorem Link.call_fresh (server : Server σ) {call : Call} {store : σ}
    (asked : Framable call.request.encode)
    (answered : Framable (server.dispatcher.answer call store).value.response.encode) :
    ({} : Link σ).call server call store =
      (server.dispatcher.answer call store).map fun answer => (some (.ok answer), [], {}) := by
  rw [Link.call, Call.sent, settle_request server asked, reply_request]
  have accepted := accept_response server.dispatcher call store
  generalize server.dispatcher.answer call store = direct at answered accepted ⊢
  have finished : (Link.deliver ({ outbox := frame direct.value.response.encode } : Connection σ)
      ({} : Link σ).client).finish call = (some (.ok direct.value), {}) := by
    change (⟨⟨frame direct.value.response.encode, false⟩⟩ : Client).finish call = _
    rw [Client.finish, Inbox.read_opens (opens_response answered)]
    change (some (call.accept direct.value.response), _) = _
    rw [accepted]
  simp only [Turn.map, finished]
  rfl

/-- Clients' links are fresh, and the other connections hear their peers. -/
structure Tracks (hub : Hub σ) (peers : Nat → Peer) : Prop where
  links : ∀ client, hub.links client = {}
  hears : ∀ peer, Hears (hub.peers peer) (peers peer)

theorem tracks_fresh : Tracks ({} : Hub σ) fun _ => {} where
  links _ := rfl
  hears _ := .waiting rfl (leads_nil _) (.short (by decide)) rfl rfl

/-- Activities that end as they do for the dispatcher itself: every call has its answer. -/
structure Agrees (direct : Turn σ (List Answer)) (peers : Nat → Peer)
    (turn : Turn σ (List Hub.Result × Hub σ)) : Prop where
  results : turn.value.1 = direct.value.map fun answer => some (.ok answer)
  store : turn.store = direct.store
  lines : turn.lines = direct.lines
  tracks : Tracks turn.value.2 peers

theorem Tracks.update {hub : Hub σ} {peers : Nat → Peer} (tracks : Tracks hub peers)
    {connection : Connection σ} {after : Peer} (hears : Hears connection after) (peer : Nat) :
    Tracks { hub with peers := Function.update hub.peers peer connection }
      (Function.update peers peer after) where
  links := tracks.links
  hears other := by
    by_cases same : other = peer
    · subst same
      simpa only [Function.update_self] using hears
    · simpa only [Function.update_of_ne same] using tracks.hears other

theorem Tracks.renew {hub : Hub σ} {peers : Nat → Peer} (tracks : Tracks hub peers)
    (client : Nat) : Tracks { hub with links := Function.update hub.links client {} } peers where
  links other := by
    rw [← tracks.links client, Function.update_eq_self]
    exact (tracks.links other).trans (tracks.links client).symm
  hears := tracks.hears

theorem step_agrees (server : Server σ) {hub : Hub σ} {peers : Nat → Peer}
    (tracks : Tracks hub peers) (activity : Activity) (store : σ)
    (asked : ∀ body ∈ activity.bodies, Framable body)
    (answered : ∀ answer ∈ (server.dispatcher.perform peers activity store).value,
      Framable answer.response.encode) :
    Agrees (server.dispatcher.perform peers activity store) (activity.heard peers)
      (hub.step server activity store) := by
  cases activity with
  | call client call =>
      have framable := asked call.request.encode (List.mem_singleton.mpr rfl)
      have called := Link.call_fresh server framable (answered _ (List.mem_singleton.mpr rfl))
      simp only [Hub.step, tracks.links, called]
      exact ⟨rfl, rfl, rfl, tracks.renew client⟩
  | send peer chunk =>
      obtain ⟨after, hears, settled⟩ := send_hears server (tracks.hears peer) chunk store
      simp only [Hub.step, settled]
      exact ⟨rfl, rfl, rfl, tracks.update hears peer⟩
  | close peer =>
      obtain ⟨after, hears, settled⟩ := close_hears server (tracks.hears peer) store
      simp only [Hub.step, settled]
      exact ⟨rfl, rfl, rfl, tracks.update hears peer⟩

theorem run_agrees (server : Server σ) {hub : Hub σ} {peers : Nat → Peer}
    (tracks : Tracks hub peers) (activities : List Activity) (store : σ)
    (asked : ∀ body ∈ activities.flatMap Activity.bodies, Framable body)
    (answered : ∀ answer ∈ (server.dispatcher.performAll peers activities store).value,
      Framable answer.response.encode) :
    Agrees (server.dispatcher.performAll peers activities store)
      (activities.foldl Activity.heard peers) (hub.run server activities store) := by
  induction activities generalizing hub peers store with
  | nil => exact ⟨rfl, rfl, rfl, tracks⟩
  | cons activity rest ih =>
      have first := step_agrees server tracks activity store
        (fun body member => asked body (List.mem_append_left _ member))
        (fun answer member => answered answer (List.mem_append_left _ member))
      have later := ih first.tracks (server.dispatcher.perform peers activity store).store
        (fun body member => asked body (List.mem_append_right _ member))
        (fun answer member => answered answer (List.mem_append_right _ member))
      generalize performed : server.dispatcher.perform peers activity store = direct at first later
      generalize stepped : hub.step server activity store = turn at first later
      have whole : hub.run server (activity :: rest) store =
          turn.andThen fun reached store =>
            (Hub.run server reached.2 rest store).map fun ended =>
              (reached.1 ++ ended.1, ended.2) := by
        rw [← stepped]
        rfl
      have wholeDirect : server.dispatcher.performAll peers (activity :: rest) store =
          direct.andThen fun answers store =>
            (server.dispatcher.performAll (activity.heard peers) rest store).map (answers ++ ·) := by
        rw [← performed]
        rfl
      rw [whole, wholeDirect]
      constructor
      · simp only [Turn.andThen_value, Turn.map_value, first.results, first.store, later.results,
          List.map_append]
      · simp only [Turn.andThen_store, Turn.map_store, first.store, later.store]
      · simp only [Turn.andThen_lines, Turn.map_lines, first.lines, first.store, later.lines]
      · simp only [Turn.andThen_value, Turn.map_value, first.store]
        exact later.tracks

/-- For calls over any number of connections, with any bytes from other peers sent in between:
every call has the answer that the dispatcher itself gives at this point, the store and the lines
are those that it leaves when it does all of this itself, and no link keeps anything of a call. -/
theorem calls_transparent (server : Server σ) (activities : List Activity) (store : σ)
    (asked : ∀ body ∈ activities.flatMap Activity.bodies, Framable body)
    (answered : ∀ answer ∈ (server.dispatcher.performAll (fun _ => {}) activities store).value,
      Framable answer.response.encode) :
    let turn := Hub.run server {} activities store
    let direct := server.dispatcher.performAll (fun _ => {}) activities store
    turn.value.1 = direct.value.map (fun answer => some (.ok answer)) ∧
      turn.store = direct.store ∧ turn.lines = direct.lines ∧
      ∀ client, turn.value.2.links client = {} := by
  intro turn direct
  have agrees := run_agrees server tracks_fresh activities store asked answered
  exact ⟨agrees.results, agrees.store, agrees.lines, agrees.tracks.links⟩

/-- Two clients, and a peer that asks for a ping in between and then closes. -/
def trialActivities : List Activity :=
  [.call 0 .ping, .send 0 (frame Request.ping.encode),
    .call 1 (.invoke (Stub.ofArguments ["echo", "a"])),
    .call 0 (.invoke (Stub.ofArguments ["boom"])), .close 0, .call 1 .methods]

theorem completed_ping : ({} : Peer).completed (frame Request.ping.encode) = [.ping] := by
  have before : Leads Request.decode [] [] [] := leads_nil _
  have leads : Leads Request.decode (frame Request.ping.encode) [.ping] [] :=
    .next (opens_request (by decide)) before
  rw [Peer.completed, List.nil_append, leads.eq_leading, before.eq_leading]
  rfl

theorem trial_calls_transparent :
    (∀ body ∈ trialActivities.flatMap Activity.bodies, Framable body) ∧
      (∀ answer ∈ (Dispatcher.trial.performAll (fun _ => {}) trialActivities {}).value,
        Framable answer.response.encode) ∧
      (Hub.run ⟨Dispatcher.trial⟩ {} trialActivities {}).value.1 =
        [some (.ok .alive), some (.ok (.outcome (.success (some [97])))),
          some (.ok (.outcome (.failure "handler panicked: kaboom"))),
          some (.ok (.methods ["boom", "early", "echo"]))] := by
  have asked : ∀ body ∈ trialActivities.flatMap Activity.bodies, Framable body := by decide
  have answers : (Dispatcher.trial.performAll (fun _ => {}) trialActivities {}).value =
      [.alive, .outcome (.success (some [97])), .outcome (.failure "handler panicked: kaboom"),
        .methods ["boom", "early", "echo"]] := by
    simp only [trialActivities, Dispatcher.performAll, Dispatcher.perform, Activity.heard,
      completed_ping]
    decide +kernel
  have answered : ∀ answer ∈ (Dispatcher.trial.performAll (fun _ => {}) trialActivities {}).value,
      Framable answer.response.encode := by
    rw [answers]
    decide +kernel
  have transparent := (calls_transparent ⟨Dispatcher.trial⟩ trialActivities {} asked answered).1
  rw [answers] at transparent
  exact ⟨asked, answered, transparent⟩

end Chaincode.Service
