import Chaincode.Proofs.Caller

namespace Chaincode.Service

open Wire

/-! No answer is read out of step.

Behind a body that does not decode the client is out of step with its peer: it takes that
body for the length of the next frame.  But such a body begins with a byte other than zero,
for every body that begins with zero is a pong, and so the length is one that is never
reached.  Main statement: `answers_in_step`.
-/

theorem decode_zero (rest : Bytes) : Response.decode (0 :: rest) = .ok (.pong, rest) := rfl

theorem faulty_cons {body : Bytes} {fault : Fault} (faulty : Response.decode body = .error fault)
    (nonempty : body ≠ []) : ∃ first rest, body = first :: rest ∧ first ≠ 0 := by
  cases body with
  | nil => exact absurd rfl nonempty
  | cons first rest =>
      refine ⟨first, rest, rfl, ?_⟩
      rintro rfl
      rw [decode_zero] at faulty
      cases faulty

theorem unfinished_of_first {first : UInt8} {rest : Bytes} (nonzero : first ≠ 0)
    (few : (first :: rest).length < 2 ^ 24) : Unfinished (first :: rest) := by
  -- The first of the four bytes of a length counts for `2 ^ 24`.
  by_cases short : (first :: rest).length < 5
  · exact .short short
  · rw [Nat.not_lt, List.length_cons] at short
    refine unfinished_of_announced (by rw [List.length_cons]; omega) ?_
    have positive : 0 < first.toNat :=
      Nat.pos_of_ne_zero fun zero => nonzero (UInt8.toNat_inj.mp zero)
    have header : (rest.take 3).length = 3 := List.length_take_of_le (by omega)
    rw [List.take_succ_cons, Bytes.ofBigEndian_cons, header]
    omega

section Later

variable {closed : Bool} {stream left : Bytes} {later : List (Call × Result)}

/-- Where a frame breaks off, every call waits until the peer closes, and fails then. -/
theorem Settles.unfinished (settles : Settles closed stream later left) (nonempty : stream ≠ [])
    (unfinished : Unfinished stream) : ∀ ended ∈ later, ended.2 = .error (.stream .brokenPipe) := by
  induction settles with
  | nil => exact fun _ member => nomatch member
  | cons decides _ ih =>
      obtain ⟨broken, rfl⟩ := decides.unfinished nonempty unfinished
      exact List.forall_mem_cons.mpr ⟨broken, ih nonempty unfinished⟩

theorem Settles.behind_fault {body rest : Bytes} {fault : Fault}
    (settles : Settles closed (body ++ rest) later left)
    (faulty : Response.decode body = .error fault) (nonempty : body ≠ [])
    (few : (body ++ rest).length < 2 ^ 24) :
    ∀ ended ∈ later, ended.2 = .error (.stream .brokenPipe) := by
  obtain ⟨first, others, rfl, nonzero⟩ := faulty_cons faulty nonempty
  exact settles.unfinished (List.cons_ne_nil _ _) (unfinished_of_first nonzero few)

theorem Settles.spent (settles : Settles closed [] later left) :
    ∀ ended ∈ later, ended.2 = .error .closed := by
  induction later with
  | nil => exact fun _ member => nomatch member
  | cons ended rest ih =>
      cases settles with
      | cons decides settles =>
          obtain ⟨result, nothing⟩ := decides.nil
          subst nothing
          exact List.forall_mem_cons.mpr ⟨result, ih settles⟩

end Later

theorem accept_error {call : Call} {response : Response} {error : ClientError}
    (failed : call.accept response = .error error) : error = .unexpected response := by
  cases call <;> cases response <;> simp_all [Call.accept]

/-- A call that fails in a body that is not empty is out of step, and so are all later ones: as long
as fewer than `2 ^ 24` bytes have come since the beginning of that body they have no result but that
the peer has closed.  After an empty body, or a response of another kind, the next call is decided
by the next frame.  Once the stream has ended, it has ended for all later calls, and at once. -/
theorem answers_in_step (calls : List Call) (happenings : List Happening) :
    let caller := Caller.run { ahead := calls } happenings
    let peer := Peer.heard happenings
    let unread := caller.client.inbox.buffer
    (∀ earlier call result later, caller.finished = earlier ++ (call, result) :: later →
      (∀ fault, result = .error (.stream (.body fault)) →
        ∃ body rest, Framable body ∧ Response.decode body = .error fault ∧
          frame body ++ rest <:+ peer.sent ∧
          Settles peer.closed peer.sent earlier (frame body ++ rest) ∧
          (body ≠ [] → (body ++ rest).length < 2 ^ 24 →
            ∀ ended ∈ later, ended.2 = .error (.stream .brokenPipe)) ∧
          (body = [] → Settles peer.closed rest later unread)) ∧
      (∀ response, result = .error (.unexpected response) →
        ∃ body extra rest, Framable body ∧ Response.decode body = .ok (response, extra) ∧
          frame body ++ rest <:+ peer.sent ∧
          Settles peer.closed peer.sent earlier (frame body ++ rest) ∧
          Settles peer.closed rest later unread) ∧
      (result = .error .closed → (∀ ended ∈ later, ended.2 = .error .closed) ∧
        ∀ next rest, caller.ahead = next :: rest →
          caller.poll.finished = caller.finished ++ [(next, .error .closed)])) ∧
    (∀ call rest result left, caller.ahead = call :: rest →
      Decides peer.closed call unread result left →
      caller.poll.finished = caller.finished ++ [(call, result)]) ∧
    (ClientError.stream .brokenPipe).describe = "bincode error: io error: broken pipe" := by
  intro caller peer unread
  have follows : caller.Follows peer := Caller.follows_run calls happenings
  refine ⟨fun earlier call result later finished => ?_, ?_, rfl⟩
  · have settles := follows.settles
    rw [finished, settles_append] at settles
    obtain ⟨stream, before, after⟩ := settles
    cases after with
    | cons decides after =>
        cases decides with
        | @response _ response _ opens =>
            cases opens with
            | frame framable enough decoded =>
                refine ⟨fun fault failed => ?_, fun other failed => ?_, fun failed => ?_⟩
                · cases accept_error failed
                · cases accept_error failed
                  exact ⟨_, _, _, framable, decoded, before.suffix, before, after⟩
                · cases accept_error failed
        | body framable enough faulty =>
            refine ⟨fun fault failed => ?_, fun other failed => ?_, fun failed => ?_⟩
            · cases failed
              exact ⟨_, _, framable, faulty, before.suffix, before, after.behind_fault faulty,
                fun empty => by rw [empty] at after; exact after⟩
            · cases failed
            · cases failed
        | brokenPipe => exact ⟨nofun, nofun, nofun⟩
        | closed ended =>
            refine ⟨nofun, nofun, fun _ => ⟨after.spent, fun next rest ahead => ?_⟩⟩
            have empty : unread = [] := List.suffix_nil.mp after.suffix
            have decides : Decides caller.client.inbox.closed next unread (.error .closed) [] := by
              rw [empty]
              exact .closed (follows.closed.trans ended)
            rw [Caller.poll_decides ahead decides]
  · intro call rest result left next decides
    rw [← follows.closed] at decides
    rw [Caller.poll_decides next decides]

/-- The pong behind a faulty body answers no call. -/
example : (Caller.run { ahead := [.ping, .ping] }
    [.chunk (frame [3] ++ frame Response.pong.encode), .poll, .poll, .close, .poll]).finished =
      [(.ping, .error (.stream (.body (.unknownVariant 3 3)))),
        (.ping, .error (.stream .brokenPipe))] := rfl

end Chaincode.Service
