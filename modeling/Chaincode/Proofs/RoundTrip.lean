import Chaincode.Proofs.Frames
import Chaincode.Proofs.Wire

namespace Chaincode.Wire

/-! Messages written and read back.

A message is read back from its encoding whatever bytes follow, so two messages
never share an encoding and none is the beginning of another.  Frames joined in a
stream come apart again.  Main statement: `messages_round_trip`.
-/

theorem Decoder.Reads.eq_of_begins {decoder : Decoder α} {front whole : Bytes} {first second : α}
    (readsFirst : decoder.Reads front first) (readsSecond : decoder.Reads whole second)
    (begins : front <+: whole) : first = second := by
  obtain ⟨rest, rfl⟩ := begins
  have read := readsFirst rest
  have again := readsSecond []
  rw [List.append_nil, read] at again
  cases again
  rfl

theorem opens_frame {decode : Decoder α} {body : Bytes} {value : α} (framable : Framable body)
    (occupied : 1 ≤ body.length) (reads : decode.Reads body value) :
    Opens decode (frame body) value [] := by
  have decoded := reads []
  rw [List.append_nil] at decoded
  have enough : 5 ≤ (frame body ++ []).length := by
    rw [List.append_nil, frame_length]
    omega
  have opens := Opens.frame framable enough decoded
  rw [List.append_nil] at opens
  exact opens

theorem opens_request {request : Request} (framable : Framable request.encode) :
    Opens Request.decode (frame request.encode) request [] := by
  have short : request.encode.length < UInt64.size := Nat.lt_trans framable (by decide)
  refine opens_frame framable ?_ (Request.reads_encode (Request.fits_of_length short))
  cases request with
  | ping | methods => exact encodeInteger_length_pos _
  | start stub | invoke stub =>
      rw [Request.encode, List.length_append]
      exact Nat.le_add_right_of_le (encodeInteger_length_pos _)

theorem opens_response {response : Response} (framable : Framable response.encode) :
    Opens Response.decode (frame response.encode) response [] := by
  have short : response.encode.length < UInt64.size := Nat.lt_trans framable (by decide)
  refine opens_frame framable ?_ (Response.reads_encode (Response.fits_of_length short))
  cases response with
  | pong => exact encodeInteger_length_pos _
  | methods names | result outcome =>
      rw [Response.encode, List.length_append]
      exact Nat.le_add_right_of_le (encodeInteger_length_pos _)

theorem leads_requests {requests : List Request}
    (framable : ∀ request ∈ requests, Framable request.encode) :
    Leads Request.decode (requests.flatMap fun request => frame request.encode) requests [] := by
  induction requests with
  | nil => exact leads_nil _
  | cons request rest ih =>
      have first := opens_request (framable request List.mem_cons_self)
      exact .next (first.append _) (ih fun other later => framable other (.tail request later))

/-- Reads frames until there is none left to read, and says how that ends. -/
def Inbox.readAll (decode : Decoder α) (inbox : Inbox) : List α × Reading α :=
  match _found : inbox.read decode with
  | (.value value, after) =>
      let (values, last) := readAll decode after
      (value :: values, last)
  | (last, _) => ([], last)
termination_by inbox.buffer.length
decreasing_by exact Inbox.read_value_length _found

theorem Inbox.readAll_opens {decode : Decoder α} {stream rest : Bytes} {value : α}
    (opens : Opens decode stream value rest) (closed : Bool) :
    (⟨stream, closed⟩ : Inbox).readAll decode =
      (value :: ((⟨rest, closed⟩ : Inbox).readAll decode).1,
        ((⟨rest, closed⟩ : Inbox).readAll decode).2) := by
  have found := Inbox.read_opens opens closed
  rw [Inbox.readAll]
  split
  next read =>
      rw [found] at read
      cases read
      rfl
  next unread read =>
      have same := congrArg Prod.fst (read.symm.trans found)
      exact absurd same (unread value)

theorem Inbox.readAll_nil (decode : Decoder α) :
    (⟨[], true⟩ : Inbox).readAll decode = ([], .ended) := by
  rw [Inbox.readAll]
  rfl

/-- The values that fit are told apart by their encodings, alone and in a stream of frames. -/
structure RoundTrips (decode : Decoder α) (encode : α → Bytes) (fits : α → Prop) : Prop where
  reads : ∀ value, fits value → ∀ rest, decode (encode value ++ rest) = .ok (value, rest)
  injective : ∀ first second, fits first → fits second → encode first = encode second →
    first = second
  prefixFree : ∀ first second, fits first → fits second → encode first <+: encode second →
    first = second
  frames : ∀ values : List α, (∀ value ∈ values, Framable (encode value)) →
    Inbox.readAll decode ⟨values.flatMap fun value => frame (encode value), true⟩ =
      (values, .ended)

theorem roundTrips {decode : Decoder α} {encode : α → Bytes} {fits : α → Prop}
    (reads : ∀ value, fits value → decode.Reads (encode value) value)
    (opens : ∀ value, Framable (encode value) → Opens decode (frame (encode value)) value []) :
    RoundTrips decode encode fits where
  reads := reads
  injective first second fitsFirst fitsSecond same :=
    (reads first fitsFirst).eq_of_begins (reads second fitsSecond) (same ▸ List.prefix_rfl)
  prefixFree first second fitsFirst fitsSecond begins :=
    (reads first fitsFirst).eq_of_begins (reads second fitsSecond) begins
  frames values framable := by
    induction values with
    | nil => exact Inbox.readAll_nil decode
    | cons value rest ih =>
        have later := ih fun other member => framable other (List.mem_cons_of_mem value member)
        have first := framable value List.mem_cons_self
        have whole := (opens value first).append (rest.flatMap fun other => frame (encode other))
        rw [List.flatMap_cons, Inbox.readAll_opens whole, List.nil_append, later]

/-- Requests and responses whose lengths fit into eight bytes are read back from their encodings,
with exactly the bytes left that follow; frames with bodies shorter than `2 ^ 32` bytes are read
back as the list that they were made from, and then the stream ends cleanly. -/
theorem messages_round_trip :
    RoundTrips Request.decode Request.encode Request.Fits ∧
      RoundTrips Response.decode Response.encode Response.Fits :=
  ⟨roundTrips (fun _ => Request.reads_encode) fun _ => opens_request,
    roundTrips (fun _ => Response.reads_encode) fun _ => opens_response⟩

theorem trial_round_trip :
    let request := Request.invoke ⟨"tx", "κανάλι", ["echo", "€", ""]⟩
    request.Fits ∧ Request.decode (request.encode ++ [1, 2]) = .ok (request, [1, 2]) := by
  have fits : (Request.invoke ⟨"tx", "κανάλι", ["echo", "€", ""]⟩).Fits :=
    Request.fits_of_length (by decide)
  exact ⟨fits, messages_round_trip.1.reads _ fits [1, 2]⟩

end Chaincode.Wire
