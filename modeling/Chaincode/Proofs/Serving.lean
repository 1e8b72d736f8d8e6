import Chaincode.Handlers.Ping
import Chaincode.Proofs.Conversation

namespace Chaincode.Service

open Wire Tracing

/-! A server does what the leading requests of a stream ask for, and nothing else. -/

def replyStream (responses : List Response) : Bytes :=
  responses.flatMap fun response => frame response.encode

/-- A warning about a connection. -/
def warning (message : String) : Event where
  level := .warn
  target := "chaincode_dispatch::net::server"
  message := message

/-- What has to be reported about the bytes that are left of a stream: nothing if there are none,
and else one warning, about a frame that ends too early or about a body that does not decode. -/
inductive Reports : Bytes → List Event → Prop
  | nothing : Reports [] []
  | early : left ≠ [] → Unfinished left →
      Reports left [warning "undecodable request: io error: broken pipe"]
  | faulty : Framable body → 5 ≤ (frame body ++ rest).length → Request.decode body = .error fault →
      Reports (frame body ++ rest) [warning ("undecodable request: " ++ fault.describe)]

namespace Connection

variable {server : Server σ} {requests : List Request} {stream left : Bytes}

theorem serve_leads (leads : Leads Request.decode stream requests left) (closed : Bool)
    (written : Bytes) (reported : List Event) (store : σ) :
    (⟨⟨stream, closed⟩, .reading, written, reported⟩ : Connection σ).serve server store =
      (server.dispatcher.replies requests store).andThen fun responses =>
        (⟨⟨left, closed⟩, .reading, written ++ replyStream responses, reported⟩ :
          Connection σ).serve server := by
  induction leads generalizing written store with
  | @stop left stuck =>
      have nothing : written ++ replyStream [] = written := List.append_nil written
      change _ = ((⟨⟨left, closed⟩, .reading, written ++ replyStream [], reported⟩ :
        Connection σ).serve server store).after []
      rw [nothing, Turn.after_nil]
  | @next stream request rest requests left opens _ ih =>
      rw [serve_eq, Inbox.read_opens opens, Dispatcher.replies_cons, Turn.andThen_assoc]
      have joined (response : Response) (responses : List Response) :
          written ++ replyStream (response :: responses) =
            written ++ frame response.encode ++ replyStream responses := by
        rw [replyStream, List.flatMap_cons, List.append_assoc]
        rfl
      simp only [Turn.map_andThen, joined, ← ih]
      rfl

theorem serve_nil (written : Bytes) (store : σ) :
    (⟨⟨[], true⟩, .reading, written, []⟩ : Connection σ).serve server store =
      ⟨⟨⟨[], true⟩, .finished, written, []⟩, store, []⟩ := by
  rw [serve_eq, Inbox.read_nil]

theorem serve_spoils (server : Server σ) {error : StreamError}
    (spoils : Spoils Request.decode left error) (written : Bytes) (store : σ) :
    ∃ inbox, (⟨⟨left, true⟩, .reading, written, []⟩ : Connection σ).serve server store =
      ⟨⟨inbox, .finished, written, [.undecodable error]⟩, store, []⟩ := by
  obtain ⟨inbox, found⟩ := Inbox.read_spoils spoils
  exact ⟨inbox, by rw [serve_eq, found]; rfl⟩

theorem spoils_unique {error other : StreamError} (spoils : Spoils Request.decode left error)
    (also : Spoils Request.decode left other) : other = error := by
  obtain ⟨inbox, found⟩ := Inbox.read_spoils spoils
  obtain ⟨_, again⟩ := Inbox.read_spoils also
  rw [found] at again
  cases again
  rfl

theorem reports_nil {events : List Event} (reports : Reports [] events) : events = [] := by
  generalize empty : ([] : Bytes) = left at reports
  cases reports with
  | nothing => rfl
  | early some _ => exact absurd empty.symm some
  | faulty _ enough _ =>
      rw [← empty] at enough
      cases enough

theorem reports_spoils {error : StreamError} (spoils : Spoils Request.decode left error)
    {events : List Event} : Reports left events ↔ events = [.undecodable error] := by
  constructor
  · intro reports
    cases reports with
    | nothing => exact absurd rfl spoils.ne_nil
    | early some unfinished =>
        rw [← spoils_unique spoils (.brokenPipe some unfinished)]
        rfl
    | faulty framable enough faulty =>
        rw [← spoils_unique spoils (.body framable enough faulty)]
        rfl
  · rintro rfl
    cases spoils with
    | brokenPipe some unfinished => exact .early some unfinished
    | body framable enough faulty => exact .faulty framable enough faulty

/-- A conversation that ends as `direct` does: its responses are all that is written, its lines and
its store are those that are left, and what the bytes left deserve is all that is reported. -/
structure Matches (direct : Turn σ (List Response)) (left : Bytes)
    (turn : Turn σ (Connection σ)) : Prop where
  finished : turn.value.isFinished = true
  outbox : turn.value.outbox = replyStream direct.value
  store : turn.store = direct.store
  lines : turn.lines = direct.lines
  silent : turn.value.reported = [] ↔ left = []
  reported : ∀ events, Reports left events ↔ events = turn.value.reported

theorem settle_matches (leads : Leads Request.decode stream requests left) (store : σ) :
    Matches (server.dispatcher.replies requests store) left
      ((⟨⟨stream, true⟩, .reading, [], []⟩ : Connection σ).settle server store) := by
  change Matches _ left (serve server ⟨⟨stream, true⟩, .reading, [], []⟩ store)
  rw [serve_leads leads]
  generalize server.dispatcher.replies requests store = direct
  rw [Turn.andThen, List.nil_append]
  by_cases empty : left = []
  · subst empty
    rw [serve_nil]
    exact ⟨rfl, rfl, rfl, List.append_nil _, iff_of_true rfl rfl,
      fun _ => ⟨reports_nil, by rintro rfl; exact .nothing⟩⟩
  · obtain ⟨error, spoils⟩ := spoils_of_stuck leads.stuck empty
    obtain ⟨inbox, served⟩ := serve_spoils server spoils (replyStream direct.value) direct.store
    rw [served]
    exact ⟨rfl, rfl, rfl, List.append_nil _, iff_of_false (List.cons_ne_nil _ _) empty,
      fun _ => reports_spoils spoils⟩

/-- However a stream is cut into chunks, and whenever the task runs while they arrive, the server
does what the requests of its longest run of complete and decodable leading frames ask for, one
after the other and each once, writes their responses, and does nothing with the bytes left.  It
reports nothing exactly if none are left, and else the one error that is first among them.  Every
response has to fit into a frame. -/
theorem conversation_exact (server : Server σ) (stream : Bytes) :
    ∃ requests left,
      (∀ others rest, Leads Request.decode stream others rest ↔ others = requests ∧ rest = left) ∧
      ∀ store, (∀ response ∈ (server.dispatcher.replies requests store).value,
          Framable response.encode) →
        (∀ chunks, chunks.flatten = stream →
          Matches (server.dispatcher.replies requests store) left
            (converse server {} chunks store)) ∧
        ∀ moves, moves.flatMap Move.bytes = stream →
          Matches (server.dispatcher.replies requests store) left
              (conversation server {} moves store) ∧
            (conversation ⟨server.dispatcher.recorded⟩ {} moves (store, [])).store.2 =
              requests.flatMap server.dispatcher.calls := by
  -- Both forms of a conversation, and the one with a ledger, are moves of a server.
  obtain ⟨requests, left, leads⟩ : ∃ requests left, Leads Request.decode stream requests left :=
    ⟨_, _, leads_leading Request.decode stream⟩
  have settled {τ : Type} (server : Server τ) (moves : List Move) (store : τ)
      (arrived : moves.flatMap Move.bytes = stream) :
      Matches (server.dispatcher.replies requests store) left
        (conversation server {} moves store) := by
    rw [conversation_eq rfl, arrived]
    exact settle_matches leads store
  refine ⟨requests, left, fun others rest => ⟨leads.unique, ?_⟩, fun store _ => ⟨?_, ?_⟩⟩
  · rintro ⟨rfl, rfl⟩
    exact leads
  · intro chunks cut
    rw [converse_eq_conversation]
    exact settled server _ store ((bytes_chunks chunks).trans cut)
  · intro moves arrived
    have recorded := (settled ⟨server.dispatcher.recorded⟩ moves (store, []) arrived).store
    rw [Dispatcher.replies_recorded] at recorded
    exact ⟨settled server moves store arrived, congrArg Prod.snd recorded⟩

/-- A ping, and a peer that closes after one more byte. -/
theorem trial_conversation :
    let stream := frame Request.ping.encode ++ [0]
    let turn := converse ⟨VerySimple.dispatcher⟩ {} [stream.take 3, stream.drop 3] ()
    Leads Request.decode stream [.ping] [0] ∧ turn.value.outbox = replyStream [.pong] ∧
      turn.value.reported = [{
        level := .warn
        target := "chaincode_dispatch::net::server"
        message := "undecodable request: io error: broken pipe" }] := by
  intro stream turn
  have early : Unfinished [0] := .short (by decide)
  have decoded : Request.decode Request.ping.encode = .ok (.ping, []) := by decide
  have leads : Leads Request.decode stream [.ping] [0] :=
    .next (.frame (by decide) (by decide) decoded) (leads_unfinished early)
  obtain ⟨requests, left, only, serves⟩ := conversation_exact ⟨VerySimple.dispatcher⟩ stream
  obtain ⟨rfl, rfl⟩ := (only _ _).mp leads
  have matched := (serves () (List.forall_mem_singleton.mpr (by decide))).1 _
    (show [stream.take 3, stream.drop 3].flatten = stream from rfl)
  exact ⟨leads, matched.outbox, ((matched.reported _).mp (.early (by decide) early)).symm⟩

end Connection

end Chaincode.Service
