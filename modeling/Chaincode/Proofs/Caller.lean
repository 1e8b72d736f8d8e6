import Chaincode.Proofs.Hub

namespace Chaincode.Service

open Wire

/-! A client, call after call.

Its calls are made one after the other.  What the peer sends arrives at any time and in
any chunks, also before it is asked for, and it may close at any time; a call may be
given up before it has its answer.  The results are read off the stream of all bytes
that have arrived, whenever the calls were polled: `follows_run`.
-/

inductive Happening where
  | chunk (bytes : Bytes)
  /-- The peer closes its sending side, after which it can send nothing. -/
  | close
  /-- The next call is begun, or polled once more. -/
  | poll
  | giveUp
deriving DecidableEq

def Peer.hear (peer : Peer) : Happening → Peer
  | .chunk bytes => if peer.closed then peer else { peer with sent := peer.sent ++ bytes }
  | .close => { peer with closed := true }
  | .poll | .giveUp => peer

def Peer.heard (happenings : List Happening) : Peer := happenings.foldl Peer.hear {}

abbrev Result := Except ClientError Answer

structure Caller where
  client : Client := {}
  /-- The calls that have no result yet. -/
  ahead : List Call
  /-- Whether the first of them has sent its request. -/
  asked : Bool := false
  /-- The calls that have sent their requests. -/
  begun : List Call := []
  sent : Bytes := []
  finished : List (Call × Result) := []

namespace Caller

def ask (caller : Caller) (call : Call) : Caller :=
  if caller.asked then caller
  else { caller with
    asked := true, begun := caller.begun ++ [call], sent := caller.sent ++ call.sent }

def poll (caller : Caller) : Caller :=
  match caller.ahead with
  | [] => caller
  | call :: rest =>
      match caller.client.finish call with
      | (none, client) => { caller.ask call with client }
      | (some result, client) =>
          { caller.ask call with
            client, ahead := rest, asked := false, finished := caller.finished ++ [(call, result)] }

def play (caller : Caller) : Happening → Caller
  | .chunk bytes =>
      if caller.client.inbox.closed then caller
      else { caller with client := caller.client.arrive bytes }
  | .close => { caller with client := caller.client.close }
  | .poll => caller.poll
  | .giveUp => { caller with ahead := caller.ahead.tail, asked := false }

def run (caller : Caller) (happenings : List Happening) : Caller := happenings.foldl play caller

@[simp] theorem ask_client (caller : Caller) (call : Call) :
    (caller.ask call).client = caller.client := by
  rw [ask]
  split <;> rfl

@[simp] theorem ask_finished (caller : Caller) (call : Call) :
    (caller.ask call).finished = caller.finished := by
  rw [ask]
  split <;> rfl

@[simp] theorem ask_ahead (caller : Caller) (call : Call) :
    (caller.ask call).ahead = caller.ahead := by
  rw [ask]
  split <;> rfl

end Caller

/-- What is ahead on the stream decides a call, and leaves this ahead of the next one.  A body that
does not decode is left without the length before it. -/
inductive Decides (closed : Bool) (call : Call) : Bytes → Result → Bytes → Prop
  | response : Opens Response.decode stream response rest →
      Decides closed call stream (call.accept response) rest
  | body : Framable body → 5 ≤ (frame body ++ rest).length → Response.decode body = .error fault →
      Decides closed call (frame body ++ rest) (.error (.stream (.body fault))) (body ++ rest)
  | brokenPipe : closed = true → left ≠ [] → Unfinished left →
      Decides closed call left (.error (.stream .brokenPipe)) left
  | closed : closed = true → Decides closed call [] (.error .closed) []

/-- Calls that are decided by a stream one after the other, and what they leave of it. -/
inductive Settles (closed : Bool) : Bytes → List (Call × Result) → Bytes → Prop
  | nil : Settles closed stream [] stream
  | cons : Decides closed call stream result rest → Settles closed rest later left →
      Settles closed stream ((call, result) :: later) left

section Decisions

variable {closed : Bool} {call : Call} {stream rest left : Bytes} {result : Result}

theorem Decides.finish (decides : Decides closed call stream result rest) :
    (⟨⟨stream, closed⟩⟩ : Client).finish call = (some result, ⟨⟨rest, closed⟩⟩) := by
  cases decides with
  | response opens => rw [Client.finish, Inbox.read_opens opens]
  | body framable enough faulty => rw [Client.finish, Inbox.read_faulty framable enough faulty]
  | brokenPipe ended nonempty unfinished =>
      subst ended
      cases stream with
      | nil => exact absurd rfl nonempty
      | cons first others =>
          rw [Client.finish, Inbox.read_unfinished unfinished]
          rfl
  | closed ended =>
      subst ended
      rfl

/-- A call goes on waiting exactly if its frame is not complete and more may come. -/
theorem decides_or_waits (closed : Bool) (call : Call) (stream : Bytes) :
    (∃ result rest, Decides closed call stream result rest) ∨
      closed = false ∧ Unfinished stream ∧
        (⟨⟨stream, closed⟩⟩ : Client).finish call = (none, ⟨⟨stream, closed⟩⟩) := by
  rcases unfinished_or_frame stream with unfinished | ⟨body, rest, framable, enough, rfl⟩
  · cases closed with
    | false =>
        refine .inr ⟨rfl, unfinished, ?_⟩
        rw [Client.finish, Inbox.read_unfinished unfinished]
        rfl
    | true =>
        left
        cases stream with
        | nil => exact ⟨_, _, .closed rfl⟩
        | cons first rest => exact ⟨_, _, .brokenPipe rfl (List.cons_ne_nil _ _) unfinished⟩
  · left
    cases decoded : Response.decode body with
    | error fault => exact ⟨_, _, .body framable enough decoded⟩
    | ok value => exact ⟨_, _, .response (.frame framable enough decoded)⟩

/-- A decision of an open stream stands, whatever comes. -/
theorem Decides.more (decides : Decides false call stream result rest) (later : Bytes) :
    Decides closed call (stream ++ later) result (rest ++ later) := by
  cases decides with
  | response opens => exact .response (opens.append later)
  | body framable enough faulty =>
      rw [List.append_assoc, List.append_assoc]
      exact .body framable (enough_append enough later) faulty
  | brokenPipe ended => cases ended
  | closed ended => cases ended

/-- On a stream that breaks off in a frame a call waits until the peer closes, and fails then. -/
theorem Decides.unfinished (decides : Decides closed call stream result rest)
    (nonempty : stream ≠ []) (unfinished : Unfinished stream) :
    result = .error (.stream .brokenPipe) ∧ rest = stream := by
  cases decides with
  | response opens =>
      cases opens with
      | frame framable enough => exact absurd unfinished (not_unfinished framable enough)
  | body framable enough => exact absurd unfinished (not_unfinished framable enough)
  | brokenPipe => exact ⟨rfl, rfl⟩
  | closed => exact absurd rfl nonempty

theorem Decides.nil (decides : Decides closed call [] result rest) :
    result = .error .closed ∧ rest = [] := by
  cases closed with
  | true =>
      have finish := decides.finish
      cases finish
      exact ⟨rfl, rfl⟩
  | false => exact nomatch decides.finish

theorem Decides.suffix (decides : Decides closed call stream result rest) : rest <:+ stream := by
  cases decides with
  | response opens =>
      cases opens with
      | @frame body => exact List.suffix_append (frame body) rest
  | @body body rest =>
      rw [frame, List.append_assoc]
      exact List.suffix_append _ _
  | brokenPipe => exact List.suffix_rfl
  | closed => exact List.suffix_rfl

variable {earlier later finished : List (Call × Result)}

theorem settles_append :
    Settles closed stream (earlier ++ later) left ↔
      ∃ middle, Settles closed stream earlier middle ∧ Settles closed middle later left := by
  constructor
  · intro settles
    induction earlier generalizing stream with
    | nil => exact ⟨stream, .nil, settles⟩
    | cons first rest ih =>
        cases settles with
        | cons decides settles =>
            obtain ⟨middle, front, back⟩ := ih settles
            exact ⟨middle, .cons decides front, back⟩
  · rintro ⟨middle, front, back⟩
    induction front with
    | nil => exact back
    | cons decides _ ih => exact .cons decides (ih back)

theorem Settles.snoc (settles : Settles closed stream finished rest)
    (decides : Decides closed call rest result left) :
    Settles closed stream (finished ++ [(call, result)]) left :=
  settles_append.mpr ⟨rest, settles, .cons decides .nil⟩

theorem Settles.more (settles : Settles false stream finished rest) (later : Bytes) :
    Settles closed (stream ++ later) finished (rest ++ later) := by
  induction settles with
  | nil => exact .nil
  | cons decides _ ih => exact .cons (decides.more later) ih

theorem Settles.suffix (settles : Settles closed stream finished left) : left <:+ stream := by
  induction settles with
  | nil => exact List.suffix_rfl
  | cons decides _ ih => exact ih.trans decides.suffix

end Decisions

namespace Caller

variable {caller : Caller} {call : Call} {rest : List Call}

theorem poll_decides {result : Result} {left : Bytes} (next : caller.ahead = call :: rest)
    (decides :
      Decides caller.client.inbox.closed call caller.client.inbox.buffer result left) :
    caller.poll = { caller.ask call with
      client := ⟨⟨left, caller.client.inbox.closed⟩⟩
      ahead := rest
      asked := false
      finished := caller.finished ++ [(call, result)] } := by
  have finish : caller.client.finish call = _ := decides.finish
  rw [poll, next]
  simp only [finish]

/-- A poll gives the next call its result if what has arrived decides it; else it does not but send
the request. -/
theorem poll_cases (next : caller.ahead = call :: rest) :
    (∃ result left,
      Decides caller.client.inbox.closed call caller.client.inbox.buffer result left) ∨
    caller.client.inbox.closed = false ∧ Unfinished caller.client.inbox.buffer ∧
      caller.poll = caller.ask call := by
  rcases decides_or_waits caller.client.inbox.closed call caller.client.inbox.buffer with
    decides | ⟨opened, unfinished, waits⟩
  · exact .inl decides
  · have finish : caller.client.finish call = _ := waits
    refine .inr ⟨opened, unfinished, ?_⟩
    rw [poll, next]
    simp only [finish]
    change { caller.ask call with client := caller.client } = caller.ask call
    rw [← ask_client caller call]

/-- What holds after a poll: there was no call, the next one waits, or it has its result. -/
@[elab_as_elim]
theorem poll_rule {motive : Caller → Prop} (idle : motive caller)
    (waits : ∀ call rest, caller.ahead = call :: rest → motive (caller.ask call))
    (ends : ∀ call rest result left, caller.ahead = call :: rest →
      Decides caller.client.inbox.closed call caller.client.inbox.buffer result left →
      motive { caller.ask call with
        client := ⟨⟨left, caller.client.inbox.closed⟩⟩
        ahead := rest
        asked := false
        finished := caller.finished ++ [(call, result)] }) :
    motive caller.poll := by
  cases next : caller.ahead with
  | nil =>
      rw [poll, next]
      exact idle
  | cons call rest =>
      rcases poll_cases next with ⟨result, left, decides⟩ | ⟨_, _, polled⟩
      · rw [poll_decides next decides]
        exact ends call rest result left next decides
      · rw [polled]
        exact waits call rest next

theorem run_closed (closed : caller.client.inbox.closed = true) :
    (caller.run (List.replicate caller.ahead.length .poll)).ahead = [] := by
  generalize next : caller.ahead = calls
  induction calls generalizing caller with
  | nil => exact next
  | cons call rest ih =>
      rcases poll_cases next with ⟨result, left, decides⟩ | ⟨opened, _⟩
      · have polled := poll_decides next decides
        have still : caller.poll.client.inbox.closed = true := by rw [polled]; exact closed
        have fewer : caller.poll.ahead = rest := by rw [polled]
        exact ih still fewer
      · rw [closed] at opened
        cases opened

/-- The bytes from the peer decide the results, and those that are left are buffered. -/
structure Follows (caller : Caller) (peer : Peer) : Prop where
  closed : caller.client.inbox.closed = peer.closed
  settles : Settles peer.closed peer.sent caller.finished caller.client.inbox.buffer

theorem Follows.poll {caller : Caller} {peer : Peer} (follows : caller.Follows peer) :
    caller.poll.Follows peer := by
  refine poll_rule follows (fun call rest _ => ?_) fun call rest result left _ decides => ?_
  · constructor
    · rw [ask_client]
      exact follows.closed
    · rw [ask_client, ask_finished]
      exact follows.settles
  · rw [follows.closed] at decides
    exact ⟨follows.closed, follows.settles.snoc decides⟩

theorem Follows.play {caller : Caller} {peer : Peer} (follows : caller.Follows peer)
    (happening : Happening) : (caller.play happening).Follows (peer.hear happening) := by
  obtain ⟨closed, settles⟩ := follows
  cases happening with
  | chunk bytes =>
      rw [Caller.play, Peer.hear, closed]
      cases ended : peer.closed with
      | true => exact ⟨closed, settles⟩
      | false =>
          rw [ended] at closed settles
          rw [if_neg Bool.false_ne_true, if_neg Bool.false_ne_true]
          exact ⟨closed, settles.more bytes⟩
  | close =>
      refine ⟨rfl, ?_⟩
      change Settles true peer.sent caller.finished caller.client.inbox.buffer
      cases ended : peer.closed with
      | true => rwa [ended] at settles
      | false =>
          rw [ended] at settles
          have more : Settles true (peer.sent ++ []) caller.finished
              (caller.client.inbox.buffer ++ []) := settles.more []
          simpa using more
  | poll => exact Follows.poll ⟨closed, settles⟩
  | giveUp => exact ⟨closed, settles⟩

theorem follows_run (calls : List Call) (happenings : List Happening) :
    (run { ahead := calls } happenings).Follows (Peer.heard happenings) := by
  -- For every caller and peer, as neither is the first one after a step.
  have step (caller : Caller) (peer : Peer) (follows : caller.Follows peer) :
      (run caller happenings).Follows (happenings.foldl Peer.hear peer) := by
    induction happenings generalizing caller peer with
    | nil => exact follows
    | cons happening rest ih => exact ih _ _ (follows.play happening)
  exact step _ _ ⟨rfl, .nil⟩

end Caller

end Chaincode.Service
