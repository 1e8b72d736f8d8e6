import Chaincode.Proofs.Hub

namespace Chaincode.Service

open Tracing Wire

/-! Connections of peers that are no clients.

Whatever such a peer sends, its connection settles in one of two ways.  It waits
inside a frame, with the bytes that no request has used; or it has ended, and
nothing that the peer may still send completes another request.
-/

/-- A peer whose bytes can complete no more requests. -/
def Peer.Spent (peer : Peer) : Prop :=
  peer.closed = true ∨
    ∃ requests, ∀ more, (leading Request.decode (peer.sent ++ more)).1 = requests

/-- A connection that has settled after what its peer did. -/
inductive Hears (connection : Connection σ) (peer : Peer) : Prop
  | waiting : peer.closed = false → Leads Request.decode peer.sent requests left →
      Unfinished left → connection.task = .reading → connection.inbox = ⟨left, false⟩ →
      Hears connection peer
  | finished : connection.task = .finished → peer.Spent → Hears connection peer

theorem Peer.completed_spent {peer : Peer} (spent : peer.Spent) (chunk : Bytes) :
    peer.completed chunk = [] := by
  rcases spent with closed | ⟨requests, same⟩
  · exact if_pos closed
  · have before := same []
    rw [List.append_nil] at before
    rw [completed, before, same, List.drop_length, ite_self]

theorem Peer.Spent.send {peer : Peer} (spent : peer.Spent) (chunk : Bytes) :
    Peer.Spent { peer with sent := peer.sent ++ chunk } := by
  rcases spent with closed | ⟨requests, same⟩
  · exact .inl closed
  · refine .inr ⟨requests, fun more => ?_⟩
    rw [List.append_assoc]
    exact same _

theorem serve_left (server : Server σ) {sent left : Bytes} {requests : List Request}
    (leads : Leads Request.decode sent requests left) (written : Bytes) (reported : List Event) :
    ∃ after : Connection σ, Hears after ⟨sent, false⟩ ∧ ∀ store,
      Connection.serve server ⟨⟨left, false⟩, .reading, written, reported⟩ store =
        ⟨after, store, []⟩ := by
  rcases unfinished_or_frame left with unfinished | ⟨body, rest, framable, enough, rfl⟩
  · refine ⟨⟨⟨left, false⟩, .reading, written, reported⟩, .waiting rfl leads unfinished rfl rfl,
      fun store => ?_⟩
    rw [Connection.serve_eq, Inbox.read_unfinished unfinished]
    rfl
  · cases decoded : Request.decode body with
    | ok result => exact absurd (.frame framable enough decoded) (leads.stuck result.1 rest)
    | error fault =>
        -- A bad body stays in front of all that the peer may still send.
        have more (later : Bytes) : Leads Request.decode (sent ++ later) requests
            (frame body ++ rest ++ later) := by
          rw [← List.append_nil requests]
          refine leads.append (.stop ?_)
          rw [List.append_assoc]
          exact stuck_of_faulty framable (enough_append enough later) decoded
        refine ⟨(⟨⟨body ++ rest, false⟩, .reading, written, reported⟩ :
            Connection σ).giveUp (.body fault), .finished rfl (.inr ⟨requests, fun later => ?_⟩),
          fun store => ?_⟩
        · rw [(more later).eq_leading]
        · rw [Connection.serve_eq, Inbox.read_faulty framable enough decoded]

theorem send_hears (server : Server σ) {connection : Connection σ} {peer : Peer}
    (hears : Hears connection peer) (chunk : Bytes) (store : σ) :
    ∃ after : Connection σ, Hears after { peer with sent := peer.sent ++ chunk } ∧
      (connection.arrive chunk).settle server store =
        (server.dispatcher.replies (peer.completed chunk) store).map fun _ => after := by
  obtain ⟨⟨buffer, closed⟩, task, written, reported⟩ := connection
  cases hears with
  | @waiting requests left opened leads unfinished reading holds =>
      cases reading
      cases holds
      obtain ⟨sent, closed⟩ := peer
      cases opened
      -- The connection only sees what was left over, but the requests in it are those behind the
      -- requests of all that the peer has sent.
      let fresh := leading Request.decode (buffer ++ chunk)
      have later : Leads Request.decode (buffer ++ chunk) fresh.1 fresh.2 := leads_leading _ _
      have whole := leads.append later
      have completed : (⟨sent, false⟩ : Peer).completed chunk = fresh.1 := by
        rw [Peer.completed, leads.eq_leading, whole.eq_leading, List.drop_left]
        rfl
      obtain ⟨after, hears, served⟩ := serve_left server whole
        (written ++ replyStream (server.dispatcher.replies fresh.1 store).value) reported
      refine ⟨after, hears, ?_⟩
      change Connection.serve server ⟨⟨buffer ++ chunk, false⟩, .reading, written, reported⟩ store =
        _
      rw [Connection.serve_leads later, completed, Turn.andThen, served]
      simp only [Turn.after, Turn.map, List.append_nil]
  | finished ended spent =>
      cases ended
      refine ⟨⟨⟨buffer ++ chunk, closed⟩, .finished, written, reported⟩,
        .finished rfl (spent.send chunk), ?_⟩
      rw [Peer.completed_spent spent]
      rfl

theorem close_hears (server : Server σ) {connection : Connection σ} {peer : Peer}
    (hears : Hears connection peer) (store : σ) :
    ∃ after : Connection σ, Hears after { peer with closed := true } ∧
      connection.close.settle server store = ⟨after, store, []⟩ := by
  obtain ⟨⟨buffer, closed⟩, task, written, reported⟩ := connection
  cases hears with
  | @waiting requests left opened leads unfinished reading holds =>
      cases reading
      cases holds
      change ∃ after, _ ∧
        Connection.serve server ⟨⟨buffer, true⟩, .reading, written, reported⟩ store = _
      rw [Connection.serve_eq, Inbox.read_unfinished unfinished]
      cases buffer with
      | nil => exact ⟨_, .finished rfl (.inl rfl), rfl⟩
      | cons first rest => exact ⟨_, .finished rfl (.inl rfl), rfl⟩
  | finished ended spent =>
      cases ended
      exact ⟨_, .finished rfl (.inl rfl), rfl⟩

end Chaincode.Service
