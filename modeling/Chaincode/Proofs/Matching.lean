import Chaincode.Proofs.Caller
import Chaincode.Proofs.RoundTrip

namespace Chaincode.Service

open Wire

/-! Calls and the frames that answer them.

A peer that sends responses and then closes behind one of them answers the calls in their
order, one frame for each, whatever the chunks and however early they come.  The client
sends one frame for each call in its turn.  Main statement: `calls_answered_in_order`.
-/

/-- A response is of the kind that a call asks for, and carries this answer. -/
inductive Carries : Call → Response → Answer → Prop
  | pong : Carries .ping .pong .alive
  | methods : Carries .methods (.methods names) (.methods names)
  | started : Carries (.start stub) (.result outcome) (.outcome outcome)
  | invoked : Carries (.invoke stub) (.result outcome) (.outcome outcome)

/-- The result that a call has from its frame, or from there being none. -/
inductive Belongs (call : Call) : Option Response → Result → Prop
  | carried : Carries call response answer → Belongs call (some response) (.ok answer)
  | unexpected : (∀ answer, ¬ Carries call response answer) →
      Belongs call (some response) (.error (.unexpected response))
  | closed : Belongs call none (.error .closed)

theorem belongs_accept (call : Call) (response : Response) :
    Belongs call (some response) (call.accept response) := by
  cases call <;> cases response
  case ping.pong => exact .carried .pong
  case methods.methods => exact .carried .methods
  case start.result => exact .carried .started
  case invoke.result => exact .carried .invoked
  all_goals exact .unexpected nofun

section Streams

variable {closed : Bool} {stream unsent rest left : Bytes} {call : Call} {result : Result}
  {responses values : List Response} {finished : List (Call × Result)}

/-- What a well-formed stream decides is decided by its first frame or by its end. -/
theorem Decides.leads (decides : Decides closed call stream result rest)
    (ahead : Leads Response.decode (stream ++ unsent) responses [])
    (whole : closed = true → unsent = []) :
    (∃ response, Opens Response.decode stream response rest ∧ result = call.accept response) ∨
      closed = true ∧ stream = [] ∧ rest = [] ∧ responses = [] ∧ result = .error .closed := by
  cases decides with
  | response opens => exact .inl ⟨_, opens, rfl⟩
  | @body body rest fault framable enough faulty =>
      -- The stream would stop at this body, but it stops where nothing is left.
      rw [List.append_assoc] at ahead
      have long := enough_append enough unsent
      rw [(ahead.unique (.stop (stuck_of_faulty framable long faulty))).2] at long
      exact absurd long (by decide)
  | brokenPipe ended nonempty unfinished =>
      rw [whole ended, List.append_nil] at ahead
      exact absurd (ahead.unique (leads_unfinished unfinished)).2 nonempty
  | closed ended =>
      right
      rw [whole ended, List.append_nil] at ahead
      obtain ⟨none, _⟩ := ahead.unique (leads_nil _)
      exact ⟨ended, rfl, rfl, none.symm, rfl⟩

theorem Settles.leads (settles : Settles closed stream finished left)
    (ahead : Leads Response.decode (stream ++ unsent) responses [])
    (whole : closed = true → unsent = []) :
    (∀ (index : Nat) call result, finished[index]? = some (call, result) →
      Belongs call responses[index]? result) ∧
    Leads Response.decode (left ++ unsent) (responses.drop finished.length) [] := by
  induction settles generalizing responses with
  | nil => exact ⟨fun index call result found => by simp at found, ahead⟩
  | @cons call stream result rest later left decides settles ih =>
      rcases decides.leads ahead whole with ⟨response, opens, rfl⟩ | ⟨_, rfl, rfl, rfl, rfl⟩
      · obtain ⟨responses, rfl, beyond⟩ := ahead.after (opens.append unsent)
        obtain ⟨belongs, remaining⟩ := ih beyond
        refine ⟨fun index call result found => ?_, remaining⟩
        cases index with
        | zero =>
            cases found
            exact belongs_accept _ _
        | succ index => exact belongs index call result found
      · obtain ⟨belongs, remaining⟩ := ih ahead
        rw [List.drop_nil] at remaining
        refine ⟨fun index call result found => ?_, remaining⟩
        cases index with
        | zero =>
            cases found
            exact .closed
        | succ index => exact belongs index call result found

/-- With every result the stream loses the frame that it leads with. -/
theorem Settles.consumed (settles : Settles closed stream finished left)
    (ahead : Leads Response.decode (stream ++ unsent) responses [])
    (whole : closed = true → unsent = []) (received : Leads Response.decode stream values rest) :
    Leads Response.decode left (values.drop finished.length) rest := by
  induction settles generalizing responses values with
  | nil => exact received
  | @cons call stream result next later left decides settles ih =>
      rcases decides.leads ahead whole with ⟨response, opens, rfl⟩ | ⟨_, rfl, rfl, rfl, rfl⟩
      · obtain ⟨responses, rfl, beyond⟩ := ahead.after (opens.append unsent)
        obtain ⟨values, rfl, unread⟩ := received.after opens
        exact ih beyond unread
      · obtain ⟨rfl, rfl⟩ := received.unique (leads_nil _)
        have consumed := ih ahead received
        rwa [List.drop_nil] at consumed ⊢

end Streams

namespace Caller

def Wrote (caller : Caller) : Prop := caller.sent = caller.begun.flatMap Call.sent

theorem Wrote.ask {caller : Caller} (wrote : caller.Wrote) (call : Call) :
    (caller.ask call).Wrote := by
  rw [Caller.ask]
  split
  · exact wrote
  · unfold Wrote at wrote ⊢
    rw [wrote, List.flatMap_append, List.flatMap_singleton]

theorem Wrote.play {caller : Caller} (wrote : caller.Wrote) (happening : Happening) :
    (caller.play happening).Wrote := by
  cases happening with
  | chunk bytes =>
      rw [Caller.play]
      split <;> exact wrote
  | close => exact wrote
  | poll =>
      rw [Caller.play]
      exact poll_rule wrote (fun call _ _ => wrote.ask call) fun call _ _ _ _ _ => wrote.ask call
  | giveUp => exact wrote

/-- No call was given up: they were begun and ended in their order. -/
structure InTurn (calls : List Call) (caller : Caller) : Prop where
  calls : caller.finished.map Prod.fst ++ caller.ahead = calls
  begun : caller.begun =
    caller.finished.map Prod.fst ++ if caller.asked then caller.ahead.take 1 else []

theorem ask_asked (caller : Caller) (call : Call) : (caller.ask call).asked = true := by
  rw [ask]
  split
  · assumption
  · rfl

theorem InTurn.ask {calls : List Call} {caller : Caller} (inTurn : caller.InTurn calls)
    {call : Call} {rest : List Call} (next : caller.ahead = call :: rest) :
    (caller.ask call).begun = caller.finished.map Prod.fst ++ [call] := by
  have begun := inTurn.begun
  rw [next] at begun
  rw [Caller.ask]
  cases asked : caller.asked with
  | true =>
      rw [asked] at begun
      exact begun
  | false =>
      rw [asked, if_neg Bool.false_ne_true, List.append_nil] at begun
      rw [if_neg Bool.false_ne_true, begun]

theorem InTurn.play {calls : List Call} {caller : Caller} (inTurn : caller.InTurn calls)
    {happening : Happening} (patient : happening ≠ .giveUp) :
    (caller.play happening).InTurn calls := by
  cases happening with
  | chunk bytes =>
      rw [Caller.play]
      split <;> exact ⟨inTurn.calls, inTurn.begun⟩
  | close => exact ⟨inTurn.calls, inTurn.begun⟩
  | poll =>
      have whole := inTurn.calls
      rw [Caller.play]
      refine poll_rule inTurn (fun call rest next => ?_) fun call rest result _ next _ => ?_
      · rw [next] at whole
        constructor
        · rw [ask_finished, ask_ahead, next]
          exact whole
        · rw [ask_finished, ask_ahead, ask_asked, if_pos rfl, next]
          exact inTurn.ask next
      · rw [next] at whole
        constructor
        · rw [List.map_append, List.append_assoc]
          exact whole
        · rw [List.map_append, if_neg Bool.false_ne_true, List.append_nil]
          exact inTurn.ask next
  | giveUp => exact absurd rfl patient

theorem wrote_run (calls : List Call) (happenings : List Happening) :
    (run { ahead := calls } happenings).Wrote :=
  List.foldlRecOn happenings play rfl fun _ wrote happening _ => wrote.play happening

theorem inTurn_run (calls : List Call) {happenings : List Happening}
    (patient : .giveUp ∉ happenings) : (run { ahead := calls } happenings).InTurn calls := by
  have start : InTurn calls { ahead := calls } := ⟨rfl, rfl⟩
  exact List.foldlRecOn happenings play start fun _ inTurn happening member =>
    inTurn.play fun same => patient (same ▸ member)

/-- A poll ends a call as soon as its frame has come, or the peer has closed. -/
theorem Follows.poll_iff {caller : Caller} {peer : Peer} (follows : caller.Follows peer)
    {stream rest : Bytes} {responses values : List Response}
    (wellFormed : Leads Response.decode stream responses []) (begins : peer.sent <+: stream)
    (whole : peer.closed = true → peer.sent = stream)
    (received : Leads Response.decode peer.sent values rest) {call : Call} {later : List Call}
    (next : caller.ahead = call :: later) :
    caller.poll.ahead = later ↔ caller.finished.length < values.length ∨ peer.closed = true := by
  obtain ⟨unsent, rfl⟩ := begins
  have spent (closed : peer.closed = true) : unsent = [] := by simpa using whole closed
  have ahead := (follows.settles.leads wellFormed spent).2
  have unread := follows.settles.consumed wellFormed spent received
  rcases poll_cases next with ⟨result, left, decides⟩ | ⟨opened, unfinished, polled⟩
  · refine iff_of_true (by rw [poll_decides next decides]) ?_
    rw [follows.closed] at decides
    rcases decides.leads ahead spent with ⟨response, opens, _⟩ | ⟨closed, _⟩
    · left
      obtain ⟨others, more, _⟩ := unread.after opens
      by_contra none
      rw [List.drop_eq_nil_of_le (Nat.not_lt.mp none)] at more
      cases more
    · exact .inr closed
  · refine iff_of_false ?_ ?_
    · rw [polled, ask_ahead, next]
      exact List.cons_ne_self call later
    · rintro (few | closed)
      · have nothing := ((leads_unfinished unfinished).unique unread).1
        exact absurd few (Nat.not_lt.mpr (List.drop_eq_nil_iff.mp nothing))
      · rw [follows.closed, closed] at opened
        cases opened

end Caller

theorem inspect_methods (names : List String) :
    (Response.methods names).inspect =
      "Methods([" ++ ", ".intercalate (names.map Text.quoted) ++ "])" := by
  rw [← String.toList_inj]
  simp [toString, Response.inspect, Text.quotedList, Text.bracketed]

theorem inspect_success (payload : Payload) :
    (Response.result (.success (some payload))).inspect =
      "Result(Success \x7b payload: Some([" ++
        ", ".intercalate (payload.map fun byte => toString byte.toNat) ++ "]) \x7d)" := by
  rw [← String.toList_inj]
  simp [toString, Response.inspect, Outcome.inspect, inspectRecord, inspectOption,
    Payload.inspect, Text.bracketed]

theorem inspect_failure (message : String) :
    (Response.result (.failure message)).inspect =
      "Result(Failure \x7b message: " ++ Text.quoted message ++ " \x7d)" := by
  rw [← String.toList_inj]
  simp [toString, Response.inspect, Outcome.inspect, inspectRecord]

/-- A peer that sends responses and closes behind the last of them, if it closes, answers the calls
one by one: each has the result that belongs to its frame, or that there is none, as soon as this
is known, and once the peer has closed no call has to wait.  A response of another kind than the
call asks for is an error that shows it.  Whatever comes, the frames of the requests, which have to
be of a length that four bytes can tell, are written one for each call that was begun, in the order
of the calls. -/
theorem calls_answered_in_order (calls : List Call) (happenings : List Happening) :
    let caller := Caller.run { ahead := calls } happenings
    let peer := Peer.heard happenings
    (∀ stream responses, Leads Response.decode stream responses [] → peer.sent <+: stream →
      (peer.closed = true → peer.sent = stream) →
      (∀ (index : Nat) call result, caller.finished[index]? = some (call, result) →
        Belongs call responses[index]? result) ∧
      ∀ call later values rest, caller.ahead = call :: later →
        Leads Response.decode peer.sent values rest →
        (caller.poll.ahead = later ↔
          caller.finished.length < values.length ∨ peer.closed = true)) ∧
    (∀ response, (ClientError.unexpected response).describe = "unexpected response: " ++
      match response with
      | .pong => "Pong"
      | .methods names => "Methods([" ++ ", ".intercalate (names.map Text.quoted) ++ "])"
      | .result (.success none) => "Result(Success \x7b payload: None \x7d)"
      | .result (.success (some payload)) => "Result(Success \x7b payload: Some([" ++
          ", ".intercalate (payload.map fun byte => toString byte.toNat) ++ "]) \x7d)"
      | .result (.failure message) =>
          "Result(Failure \x7b message: " ++ Text.quoted message ++ " \x7d)") ∧
    (peer.closed = true → (caller.run (List.replicate caller.ahead.length .poll)).ahead = []) ∧
    (.giveUp ∉ happenings → caller.finished.map Prod.fst ++ caller.ahead = calls ∧
      caller.begun =
        caller.finished.map Prod.fst ++ if caller.asked then caller.ahead.take 1 else []) ∧
    ((∀ call ∈ caller.begun, Framable call.request.encode) →
      caller.sent = caller.begun.flatMap (fun call => frame call.request.encode) ∧
      Leads Request.decode caller.sent (caller.begun.map Call.request) []) := by
  intro caller peer
  have follows : caller.Follows peer := Caller.follows_run calls happenings
  have wrote : caller.sent = caller.begun.flatMap Call.sent := Caller.wrote_run calls happenings
  refine ⟨fun stream responses wellFormed begins whole => ⟨?_, ?_⟩, fun response => ?_,
    fun closed => Caller.run_closed (follows.closed.trans closed), fun patient => ?_,
    fun framable => ⟨wrote, ?_⟩⟩
  · obtain ⟨unsent, rfl⟩ := begins
    exact (follows.settles.leads wellFormed fun closed => by simpa using whole closed).1
  · intro call later values rest next received
    exact follows.poll_iff wellFormed begins whole received next
  · refine congrArg ("unexpected response: " ++ ·) ?_
    rcases response with _ | names | ⟨_ | payload⟩ | message
    · rfl
    · exact inspect_methods names
    · rfl
    · exact inspect_success payload
    · exact inspect_failure message
  · have inTurn := Caller.inTurn_run calls patient
    exact ⟨inTurn.calls, inTurn.begun⟩
  · have each : ∀ request ∈ caller.begun.map Call.request, Framable request.encode := by
      simpa using framable
    have leads := leads_requests each
    rw [List.flatMap_map] at leads
    rw [wrote]
    exact leads

/-- Two pongs in three chunks, the last bytes of which come while the second call waits. -/
def pongs : List Happening :=
  [.chunk [0, 0, 0], .poll, .chunk [1, 0, 0, 0, 0], .poll, .poll, .chunk [1, 0], .poll, .close,
    .poll]

theorem pongs_answer :
    let caller := Caller.run { ahead := [.ping, .methods, .ping] } pongs
    Leads Response.decode [0, 0, 0, 1, 0, 0, 0, 0, 1, 0] [.pong, .pong] [] ∧
      (∀ (index : Nat) call result, caller.finished[index]? = some (call, result) →
        Belongs call ([.pong, .pong] : List Response)[index]? result) ∧
      caller.finished = [(.ping, .ok .alive), (.methods, .error (.unexpected .pong)),
        (.ping, .error .closed)] := by
  intro caller
  have pong : Opens Response.decode (frame Response.pong.encode) .pong [] :=
    opens_response (by decide)
  have wellFormed : Leads Response.decode [0, 0, 0, 1, 0, 0, 0, 0, 1, 0] [.pong, .pong] [] :=
    .next (pong.append _) (.next pong (leads_nil _))
  obtain ⟨answered, _⟩ := calls_answered_in_order [.ping, .methods, .ping] pongs
  exact ⟨wellFormed, (answered _ _ wellFormed (List.prefix_refl _) fun _ => rfl).1, rfl⟩

end Chaincode.Service
