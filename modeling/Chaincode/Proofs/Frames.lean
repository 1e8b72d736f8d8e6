import Chaincode.Proofs.Bytes
import Chaincode.Wire.Inbox
import Chaincode.Wire.Message

namespace Chaincode.Wire

/-! Byte streams as frames, without a buffer.

A stream is cut into frames here all at once, by what it is and not by how it
arrived.  An inbox that holds the stream, or the first part of it, agrees with
this at every step.
-/

/-- A frame can hold the body: its length has four bytes. -/
def Framable (body : Bytes) : Prop := body.length < UInt32.size

instance (body : Bytes) : Decidable (Framable body) :=
  inferInstanceAs (Decidable (body.length < UInt32.size))

/-- A stream that ends before its first frame does, or with fewer than five bytes. -/
inductive Unfinished : Bytes → Prop
  | short : stream.length < 5 → Unfinished stream
  | inside : Framable body → missing ≠ [] → stream ++ missing = frame body → Unfinished stream

/-- A stream is a frame whose body decodes, and the rest. -/
inductive Opens (decode : Decoder α) : Bytes → α → Bytes → Prop
  | frame : Framable body → 5 ≤ (frame body ++ rest).length → decode body = .ok (value, extra) →
      Opens decode (frame body ++ rest) value rest

/-- The longest run of leading frames that are complete and decode, and what is left. -/
inductive Leads (decode : Decoder α) : Bytes → List α → Bytes → Prop
  | stop : (∀ value rest, ¬ Opens decode left value rest) → Leads decode left [] left
  | next : Opens decode stream value rest → Leads decode rest values left →
      Leads decode stream (value :: values) left

/-- Why what is left of a closed stream is in error. -/
inductive Spoils (decode : Decoder α) : Bytes → StreamError → Prop
  | brokenPipe : left ≠ [] → Unfinished left → Spoils decode left .brokenPipe
  | body : Framable body → 5 ≤ (frame body ++ rest).length → decode body = .error fault →
      Spoils decode (frame body ++ rest) (.body fault)

theorem frame_length (body : Bytes) : (frame body).length = 4 + body.length := by
  rw [frame, List.length_append, Bytes.bigEndian_length]

theorem frame_append_drop (body rest : Bytes) : (frame body ++ rest).drop 4 = body ++ rest := by
  rw [frame, List.append_assoc]
  exact List.drop_left' (Bytes.bigEndian_length 4 body.length)

theorem announced_frame {body : Bytes} (framable : Framable body) (rest : Bytes) (closed : Bool) :
    (⟨frame body ++ rest, closed⟩ : Inbox).announced = body.length := by
  have header : (frame body ++ rest).take 4 = Bytes.bigEndian 4 body.length := by
    rw [frame, List.append_assoc]
    exact List.take_left' (Bytes.bigEndian_length 4 body.length)
  rw [Inbox.announced, header, Bytes.ofBigEndian_bigEndian]
  exact Nat.mod_eq_of_lt framable

theorem exists_frame (stream : Bytes)
    (long : 4 + Bytes.ofBigEndian (stream.take 4) ≤ stream.length) :
    ∃ body rest, Framable body ∧ stream = frame body ++ rest := by
  have header : (stream.take 4).length = 4 := List.length_take_of_le (by omega)
  have bound := Bytes.ofBigEndian_lt (stream.take 4)
  have written := Bytes.bigEndian_ofBigEndian (stream.take 4)
  rw [header] at bound written
  generalize Bytes.ofBigEndian (stream.take 4) = length at *
  have size : ((stream.drop 4).take length).length = length := by
    rw [List.length_take_of_le]
    rw [List.length_drop]
    omega
  refine ⟨(stream.drop 4).take length, (stream.drop 4).drop length, ?_, ?_⟩
  · rw [Framable, size]
    exact bound
  · rw [frame, size, written, List.append_assoc, List.take_append_drop, List.take_append_drop]

theorem unfinished_of_announced {stream : Bytes} (headed : 4 ≤ stream.length)
    (few : stream.length < 4 + Bytes.ofBigEndian (stream.take 4)) : Unfinished stream := by
  -- With as many zeros as it lacks the stream is a frame of the length that it announces.
  let lacking := 4 + Bytes.ofBigEndian (stream.take 4) - stream.length
  have positive : 0 < lacking := by
    change 0 < 4 + Bytes.ofBigEndian (stream.take 4) - stream.length
    omega
  have same : (stream ++ List.replicate lacking 0).take 4 = stream.take 4 :=
    List.take_append_of_le_length headed
  obtain ⟨body, rest, framable, equal⟩ :=
    exists_frame (stream ++ List.replicate lacking 0) (by
      rw [same, List.length_append, List.length_replicate]
      omega)
  have announced := announced_frame framable rest false
  rw [← equal, Inbox.announced, same] at announced
  have whole := congrArg List.length equal
  rw [List.length_append, List.length_append, List.length_replicate, frame_length] at whole
  have nothing : rest = [] := List.eq_nil_of_length_eq_zero (by omega)
  rw [nothing, List.append_nil] at equal
  refine .inside framable ?_ equal
  exact List.ne_nil_of_length_pos (by rw [List.length_replicate]; exact positive)

theorem unfinished_or_frame (stream : Bytes) :
    Unfinished stream ∨
      ∃ body rest, Framable body ∧ 5 ≤ stream.length ∧ stream = frame body ++ rest := by
  by_cases short : stream.length < 5
  · exact .inl (.short short)
  · by_cases few : stream.length < 4 + Bytes.ofBigEndian (stream.take 4)
    · exact .inl (unfinished_of_announced (by omega) few)
    · obtain ⟨body, rest, framable, equal⟩ := exists_frame stream (by omega)
      exact .inr ⟨body, rest, framable, by omega, equal⟩

theorem enough_append {body rest : Bytes} (enough : 5 ≤ (frame body ++ rest).length)
    (later : Bytes) : 5 ≤ (frame body ++ (rest ++ later)).length := by
  rw [← List.append_assoc, List.length_append]
  omega

namespace Inbox

variable {decode : Decoder α}

theorem read_unfinished {stream : Bytes} (unfinished : Unfinished stream) (closed : Bool) :
    (⟨stream, closed⟩ : Inbox).read decode =
      ((⟨stream, closed⟩ : Inbox).starved, ⟨stream, closed⟩) := by
  refine if_pos ?_
  rw [Bool.or_eq_true, decide_eq_true_eq, decide_eq_true_eq]
  cases unfinished with
  | short short => exact .inl short
  | @inside body missing _ framable lacking equal =>
      by_cases short : stream.length < 5
      · exact .inl short
      · right
        have whole := congrArg List.length equal
        rw [List.length_append, frame_length] at whole
        have positive := List.length_pos_of_ne_nil lacking
        have announced := announced_frame framable [] closed
        rw [List.append_nil, ← equal, Inbox.announced,
          List.take_append_of_le_length (by omega)] at announced
        change stream.length < 4 + Bytes.ofBigEndian (stream.take 4)
        omega

theorem read_whole {body rest : Bytes} (framable : Framable body)
    (enough : 5 ≤ (frame body ++ rest).length) (closed : Bool) :
    (∀ fault, decode body = .error fault →
      (⟨frame body ++ rest, closed⟩ : Inbox).read decode =
        (.failed (.body fault), ⟨body ++ rest, closed⟩)) ∧
    ∀ value extra, decode body = .ok (value, extra) →
      (⟨frame body ++ rest, closed⟩ : Inbox).read decode = (.value value, ⟨rest, closed⟩) := by
  have announced := announced_frame framable rest closed
  have whole : ¬ ((frame body ++ rest).length < 5 ||
      (frame body ++ rest).length < 4 + (⟨frame body ++ rest, closed⟩ : Inbox).announced) := by
    rw [announced, Bool.or_eq_true, decide_eq_true_eq, decide_eq_true_eq]
    rw [List.length_append, frame_length] at enough ⊢
    omega
  constructor
  · intro fault decoded
    rw [read, if_neg whole]
    dsimp only
    rw [announced, frame_append_drop, List.take_left, decoded]
  · intro value extra decoded
    rw [read, if_neg whole]
    dsimp only
    rw [announced, frame_append_drop, List.take_left, List.drop_left, decoded]

theorem read_faulty {body rest : Bytes} {fault : Fault} (framable : Framable body)
    (enough : 5 ≤ (frame body ++ rest).length) (faulty : decode body = .error fault)
    (closed : Bool) :
    (⟨frame body ++ rest, closed⟩ : Inbox).read decode =
      (.failed (.body fault), ⟨body ++ rest, closed⟩) :=
  (read_whole framable enough closed).1 fault faulty

theorem read_opens {stream rest : Bytes} {value : α} (opens : Opens decode stream value rest)
    (closed : Bool) :
    (⟨stream, closed⟩ : Inbox).read decode = (.value value, ⟨rest, closed⟩) := by
  cases opens with
  | @frame body rest value extra framable enough decoded =>
      exact (read_whole framable enough closed).2 value extra decoded

theorem read_nil : (⟨[], true⟩ : Inbox).read decode = (.ended, ⟨[], true⟩) := rfl

theorem read_spoils {left : Bytes} {error : StreamError} (spoils : Spoils decode left error) :
    ∃ after, (⟨left, true⟩ : Inbox).read decode = (.failed error, after) := by
  cases spoils with
  | brokenPipe nonempty unfinished =>
      refine ⟨⟨left, true⟩, ?_⟩
      have starved : (⟨left, true⟩ : Inbox).starved = (.failed .brokenPipe : Reading α) := by
        cases left with
        | nil => exact absurd rfl nonempty
        | cons first rest => rfl
      rw [read_unfinished unfinished, starved]
  | @body body rest fault framable enough decoded =>
      exact ⟨⟨body ++ rest, true⟩, read_faulty framable enough decoded true⟩

/-- What an open inbox has read it reads as well when more has arrived and the peer has closed. -/
theorem read_more {stream : Bytes} {after : Inbox} {reading : Reading α}
    (found : (⟨stream, false⟩ : Inbox).read decode = (reading, after))
    (moved : reading ≠ .waiting) (later : Bytes) (closed : Bool) :
    after.closed = false ∧
      (⟨stream ++ later, closed⟩ : Inbox).read decode = (reading, ⟨after.buffer ++ later, closed⟩) := by
  rcases unfinished_or_frame stream with unfinished | ⟨body, rest, framable, enough, rfl⟩
  · rw [read_unfinished unfinished] at found
    cases found
    exact absurd rfl moved
  · have more := enough_append enough later
    rw [List.append_assoc]
    cases decoded : decode body with
    | error fault =>
        rw [read_faulty framable enough decoded] at found
        cases found
        exact ⟨rfl, by rw [read_faulty framable more decoded, List.append_assoc]⟩
    | ok result =>
        rw [read_opens (.frame framable enough decoded)] at found
        cases found
        exact ⟨rfl, read_opens (.frame framable more decoded) closed⟩

end Inbox

section Streams

variable {decode : Decoder α} {stream left rest more : Bytes} {value : α} {values : List α}

theorem Opens.unique {others : Bytes} {other : α} (opens : Opens decode stream value rest)
    (again : Opens decode stream other others) : other = value ∧ others = rest := by
  have found := Inbox.read_opens opens false
  rw [Inbox.read_opens again] at found
  cases found
  exact ⟨rfl, rfl⟩

theorem Opens.append (opens : Opens decode stream value rest) (more : Bytes) :
    Opens decode (stream ++ more) value (rest ++ more) := by
  cases opens with
  | @frame body _ _ _ framable enough decoded =>
      rw [List.append_assoc]
      exact .frame framable (enough_append enough more) decoded

theorem Opens.shorter (opens : Opens decode stream value rest) : rest.length < stream.length := by
  cases opens with
  | @frame body _ _ _ framable enough decoded =>
      rw [List.length_append, frame_length]
      omega

theorem opens_of_read {inbox after : Inbox}
    (found : inbox.read decode = (.value value, after)) :
    Opens decode inbox.buffer value after.buffer := by
  obtain ⟨stream, closed⟩ := inbox
  rcases unfinished_or_frame stream with unfinished | ⟨body, rest, framable, enough, rfl⟩
  · have starved := congrArg Prod.fst ((Inbox.read_unfinished unfinished closed).symm.trans found)
    change (if !closed then _ else if stream.isEmpty then _ else _) = Reading.value value at starved
    split at starved
    · cases starved
    · split at starved <;> cases starved
  · cases decoded : decode body with
    | error fault =>
        rw [Inbox.read_faulty framable enough decoded] at found
        cases found
    | ok result =>
        have opens := Opens.frame framable enough decoded
        rw [Inbox.read_opens opens] at found
        cases found
        exact opens

/-- Computes what a stream leads with. -/
def leading (decode : Decoder α) (stream : Bytes) : List α × Bytes :=
  match _found : (⟨stream, false⟩ : Inbox).read decode with
  | (.value value, after) =>
      let (values, left) := leading decode after.buffer
      (value :: values, left)
  | _ => ([], stream)
termination_by stream.length
decreasing_by exact Inbox.read_value_length _found

theorem leads_leading (decode : Decoder α) (stream : Bytes) :
    Leads decode stream (leading decode stream).1 (leading decode stream).2 := by
  induction size : stream.length using Nat.strongRecOn generalizing stream with
  | _ length ih =>
      rw [leading]
      split
      next value after found =>
          have opens := opens_of_read found
          exact .next opens (ih _ (size ▸ opens.shorter) after.buffer rfl)
      next unread =>
          refine .stop fun value rest opens => ?_
          exact unread value _ (Inbox.read_opens opens false)

theorem Leads.unique {others : List α} (leads : Leads decode stream values left)
    (again : Leads decode stream others rest) : others = values ∧ rest = left := by
  induction leads generalizing others with
  | stop stuck =>
      cases again with
      | stop => exact ⟨rfl, rfl⟩
      | next opens => exact absurd opens (stuck _ _)
  | next opens _ ih =>
      cases again with
      | stop stuck => exact absurd opens (stuck _ _)
      | next opened later =>
          obtain ⟨rfl, rfl⟩ := opens.unique opened
          obtain ⟨rfl, rfl⟩ := ih later
          exact ⟨rfl, rfl⟩

theorem Leads.eq_leading (leads : Leads decode stream values left) :
    leading decode stream = (values, left) := by
  obtain ⟨same, rest⟩ := leads.unique (leads_leading decode stream)
  exact Prod.ext same rest

theorem Leads.append {others : List α} (leads : Leads decode stream values left)
    (later : Leads decode (left ++ more) others rest) :
    Leads decode (stream ++ more) (values ++ others) rest := by
  induction leads with
  | stop => exact later
  | next opens _ ih => exact .next (opens.append more) (ih later)

theorem Leads.after (leads : Leads decode stream values left)
    (opens : Opens decode stream value rest) :
    ∃ others, values = value :: others ∧ Leads decode rest others left := by
  cases leads with
  | stop stuck => exact absurd opens (stuck _ _)
  | next first later =>
      obtain ⟨rfl, rfl⟩ := opens.unique first
      exact ⟨_, rfl, later⟩

theorem Leads.stuck (leads : Leads decode stream values left) :
    ∀ value rest, ¬ Opens decode left value rest := by
  induction leads with
  | stop stuck => exact stuck
  | next _ _ ih => exact ih

theorem leads_unfinished (unfinished : Unfinished stream) : Leads decode stream [] stream := by
  refine .stop fun value rest opens => ?_
  have found := Inbox.read_opens opens false
  rw [Inbox.read_unfinished unfinished] at found
  cases found

theorem leads_nil (decode : Decoder α) : Leads decode [] [] [] :=
  leads_unfinished (.short (by decide))

theorem not_unfinished {body : Bytes} (framable : Framable body)
    (enough : 5 ≤ (frame body ++ rest).length) : ¬ Unfinished (frame body ++ rest) := by
  intro unfinished
  -- A decoder that accepts everything finds a value in a whole frame.
  have whole : (⟨frame body ++ rest, false⟩ : Inbox).read (fun bytes => .ok ((), bytes)) =
      (.value (), ⟨rest, false⟩) := Inbox.read_opens (.frame framable enough rfl) false
  rw [Inbox.read_unfinished unfinished] at whole
  cases whole

theorem stuck_of_faulty {body : Bytes} {fault : Fault} (framable : Framable body)
    (enough : 5 ≤ (frame body ++ rest).length) (faulty : decode body = .error fault) :
    ∀ value after, ¬ Opens decode (frame body ++ rest) value after := by
  intro value after opens
  have found := Inbox.read_opens opens false
  rw [Inbox.read_faulty framable enough faulty] at found
  cases found

theorem Spoils.ne_nil {error : StreamError} (spoils : Spoils decode left error) : left ≠ [] := by
  cases spoils with
  | brokenPipe nonempty _ => exact nonempty
  | body _ enough _ => exact List.ne_nil_of_length_pos (Nat.lt_of_lt_of_le (by decide) enough)

theorem spoils_of_stuck (stuck : ∀ value rest, ¬ Opens decode left value rest)
    (nonempty : left ≠ []) : ∃ error, Spoils decode left error := by
  rcases unfinished_or_frame left with unfinished | ⟨body, rest, framable, enough, rfl⟩
  · exact ⟨.brokenPipe, .brokenPipe nonempty unfinished⟩
  · cases decoded : decode body with
    | error fault => exact ⟨.body fault, .body framable enough decoded⟩
    | ok result => exact absurd (.frame framable enough decoded) (stuck result.1 rest)

end Streams

end Chaincode.Wire
