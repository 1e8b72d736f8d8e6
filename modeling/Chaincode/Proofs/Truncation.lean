import Chaincode.Handlers.Ping
import Chaincode.Proofs.Serving
import Chaincode.Proofs.RoundTrip

namespace Chaincode.Wire

/-! Messages cut short.

A body that ends too early is never taken for another message.  Which of two errors it
gives depends on one thing only: whether it ends inside a text, behind the length of it.
Where the texts of a message stand is said here without a decoder.  Main statement:
`cut_messages_fail`.
-/

/-- A text of a message and the bytes of the message in front of it. -/
structure Place where
  before : Bytes
  text : String

namespace Place

/-- The same place when there are more bytes in front. -/
def behind (front : Bytes) (place : Place) : Place := { place with before := front ++ place.before }

/-- The bytes end behind the length of the text, and before its last byte. -/
def Ends (place : Place) (cut : Bytes) : Prop :=
  ∃ content, content <+: Text.Utf8.encode place.text ∧ content ≠ Text.Utf8.encode place.text ∧
    cut = place.before ++ (encodeInteger (Text.Utf8.encode place.text).length ++ content)

end Place

def EndsInText (places : List Place) (cut : Bytes) : Prop := ∃ place ∈ places, place.Ends cut

/-- The places in a part with bytes `front`, and those in what follows this part. -/
def joined (front : Bytes) (places later : List Place) : List Place :=
  places ++ later.map (.behind front)

def itemPlaces (encode : α → Bytes) (places : α → List Place) : List α → List Place
  | [] => []
  | first :: rest => joined (encode first) (places first) (itemPlaces encode places rest)

def textPlaces (text : String) : List Place := [⟨[], text⟩]

def textListPlaces (texts : List String) : List Place :=
  joined (encodeInteger texts.length) [] (itemPlaces encodeText textPlaces texts)

def stubPlaces (stub : Stub) : List Place :=
  joined (encodeText stub.transactionId) (textPlaces stub.transactionId)
    (joined (encodeText stub.channelId) (textPlaces stub.channelId) (textListPlaces stub.arguments))

def outcomePlaces : Outcome → List Place
  | .success _ => []
  | .failure message => joined (encodeInteger 1) [] (textPlaces message)

/-- Where the texts of a request stand in its encoding. -/
def Request.places : Request → List Place
  | .ping | .methods => []
  | .start stub => joined (encodeInteger 2) [] (stubPlaces stub)
  | .invoke stub => joined (encodeInteger 3) [] (stubPlaces stub)

/-- Where the texts of a response stand in its encoding. -/
def Response.places : Response → List Place
  | .pong => []
  | .methods names => joined (encodeInteger 1) [] (textListPlaces names)
  | .result outcome => joined (encodeInteger 2) [] (outcomePlaces outcome)

def stubTexts (stub : Stub) : List String :=
  stub.transactionId :: stub.channelId :: stub.arguments

/-- The texts of a request, in their order. -/
def Request.texts : Request → List String
  | .ping | .methods => []
  | .start stub | .invoke stub => stubTexts stub

/-- The texts of a response, in their order. -/
def Response.texts : Response → List String
  | .pong | .result (.success _) => []
  | .methods names => names
  | .result (.failure message) => [message]

theorem texts_joined (front : Bytes) (places later : List Place) :
    (joined front places later).map Place.text = places.map Place.text ++ later.map Place.text := by
  rw [joined, List.map_append, List.map_map]
  rfl

theorem texts_textListPlaces (texts : List String) :
    (textListPlaces texts).map Place.text = texts := by
  rw [textListPlaces, texts_joined]
  induction texts with
  | nil => rfl
  | cons first rest ih =>
      rw [itemPlaces, texts_joined]
      exact congrArg (first :: ·) ih

theorem texts_stubPlaces (stub : Stub) : (stubPlaces stub).map Place.text = stubTexts stub := by
  rw [stubPlaces, texts_joined, texts_joined, texts_textListPlaces]
  rfl

theorem Request.texts_places (request : Request) :
    request.places.map Place.text = request.texts := by
  cases request with
  | ping | methods => rfl
  | start stub | invoke stub =>
      rw [places, texts_joined, texts_stubPlaces]
      rfl

theorem Response.texts_places (response : Response) :
    response.places.map Place.text = response.texts := by
  cases response with
  | pong => rfl
  | methods names =>
      rw [places, texts_joined, texts_textListPlaces]
      rfl
  | result outcome => cases outcome <;> rfl

/-- Bytes that begin others and do not reach their end. -/
def Cuts (cut bytes : Bytes) : Prop := cut <+: bytes ∧ cut ≠ bytes

instance (cut bytes : Bytes) : Decidable (Cuts cut bytes) :=
  inferInstanceAs (Decidable (_ ∧ _))

theorem Cuts.shorter {cut bytes : Bytes} (cuts : Cuts cut bytes) : cut.length < bytes.length := by
  rcases Nat.lt_or_ge cut.length bytes.length with less | enough
  · exact less
  · exact absurd (cuts.1.eq_of_length_le enough) cuts.2

theorem not_cuts_nil {cut : Bytes} : ¬ Cuts cut [] := fun cuts => cuts.2 (List.prefix_nil.mp cuts.1)

/-- What is cut off joined bytes ends in the first part or in the second. -/
theorem cuts_append {cut front back : Bytes} (cuts : Cuts cut (front ++ back)) :
    Cuts cut front ∨ ∃ content, cut = front ++ content ∧ Cuts content back := by
  obtain ⟨⟨missing, whole⟩, proper⟩ := cuts
  rcases List.append_eq_append_iff.mp whole with ⟨between, front_eq, _⟩ | ⟨content, rfl, back_eq⟩
  · cases between with
    | nil =>
        rw [List.append_nil] at front_eq
        subst front_eq
        refine .inr ⟨[], (List.append_nil front).symm, List.nil_prefix, ?_⟩
        rintro rfl
        exact proper (List.append_nil front).symm
    | cons first between =>
        refine .inl ⟨⟨_, front_eq.symm⟩, ?_⟩
        rintro rfl
        simp at front_eq
  · refine .inr ⟨content, rfl, ⟨missing, back_eq.symm⟩, ?_⟩
    rintro rfl
    exact proper rfl

namespace Decoder

/-- The error is the one of a short text just if the bytes end in a text. -/
def Stops (decoder : Decoder α) (places : List Place) (cut : Bytes) : Prop :=
  (EndsInText places cut ∧ decoder cut = .error .shortText) ∨
    (¬ EndsInText places cut ∧ decoder cut = .error .endOfInput)

/-- Bytes that hold texts at these places, and of which no part that ends too early decodes. -/
structure Truncates (decoder : Decoder α) (bytes : Bytes) (places : List Place) : Prop where
  stands : ∀ place ∈ places, place.before ++ encodeText place.text <+: bytes
  stops : ∀ cut, Cuts cut bytes → decoder.Stops places cut

variable {decoder : Decoder α} {bytes : Bytes} {places : List Place}

theorem truncates_nil : decoder.Truncates [] [] :=
  ⟨fun _ absent => (List.not_mem_nil absent).elim, fun _ cuts => absurd cuts not_cuts_nil⟩

/-- Nothing is decoded behind bytes that end too early. -/
theorem Stops.andThen {cut : Bytes} (stops : decoder.Stops places cut) (next : α → Decoder β) :
    (decoder.andThen next).Stops places cut := by
  rcases stops with ⟨ends, read⟩ | ⟨outside, read⟩
  · exact .inl ⟨ends, by rw [Decoder.andThen, read]⟩
  · exact .inr ⟨outside, by rw [Decoder.andThen, read]⟩

theorem Stops.endOfInput {cut : Bytes} (stops : decoder.Stops [] cut) :
    decoder cut = .error .endOfInput := by
  rcases stops with ⟨⟨_, absent, _⟩, _⟩ | ⟨_, read⟩
  · exact (List.not_mem_nil absent).elim
  · exact read

/-- The last part of a value need not have bytes of its own. -/
theorem Truncates.ending (truncates : decoder.Truncates bytes places) (next : α → Decoder β) :
    (decoder.andThen next).Truncates bytes places :=
  ⟨truncates.stands, fun cut cuts => (truncates.stops cut cuts).andThen next⟩

theorem endsInText_joined {front cut : Bytes} {later : List Place} :
    EndsInText (joined front places later) cut ↔
      EndsInText places cut ∨ ∃ content, cut = front ++ content ∧ EndsInText later content := by
  simp only [EndsInText, joined, List.mem_append, List.mem_map]
  constructor
  · rintro ⟨place, here | ⟨place, there, rfl⟩, ends⟩
    · exact .inl ⟨place, here, ends⟩
    · obtain ⟨content, begins, proper, whole⟩ := ends
      rw [Place.behind, List.append_assoc] at whole
      exact .inr ⟨_, whole, place, there, content, begins, proper, rfl⟩
  · rintro (⟨place, here, ends⟩ | ⟨_, rfl, place, there, content, begins, proper, rfl⟩)
    · exact ⟨place, .inl here, ends⟩
    · exact ⟨place.behind front, .inr ⟨place, there, rfl⟩, content, begins, proper,
        (List.append_assoc ..).symm⟩

/-- Who stands in the bytes does not end behind them. -/
theorem not_endsInText_append {front content : Bytes}
    (stands : ∀ place ∈ places, place.before ++ encodeText place.text <+: front) :
    ¬ EndsInText places (front ++ content) := by
  rintro ⟨place, member, inside, begins, proper, whole⟩
  have short := Cuts.shorter ⟨begins, proper⟩
  have within := (stands place member).length_le
  have size := congrArg List.length whole
  simp only [encodeText, List.length_append] at within size
  omega

theorem Truncates.andThen {next : α → Decoder β} {front back : Bytes} {first : α}
    {later : List Place} (truncates : decoder.Truncates front places)
    (reads : decoder.Reads front first) (nextTruncates : (next first).Truncates back later) :
    (decoder.andThen next).Truncates (front ++ back) (joined front places later) where
  stands := by
    intro place member
    rcases List.mem_append.mp member with here | there
    · exact (truncates.stands place here).trans (List.prefix_append front back)
    · obtain ⟨inner, present, rfl⟩ := List.mem_map.mp there
      rw [Place.behind, List.append_assoc]
      exact (List.prefix_append_right_inj front).mpr (nextTruncates.stands inner present)
  stops := by
    intro cut cuts
    rcases cuts_append cuts with early | ⟨content, rfl, late⟩
    · have short := early.shorter
      have same : EndsInText (joined front places later) cut ↔ EndsInText places cut := by
        rw [endsInText_joined, or_iff_left]
        rintro ⟨content, rfl, _⟩
        rw [List.length_append] at short
        omega
      have stops := (truncates.stops cut early).andThen next
      rwa [Stops, same]
    · have same : EndsInText (joined front places later) (front ++ content) ↔
          EndsInText later content := by
        rw [endsInText_joined, or_iff_right (not_endsInText_append truncates.stands)]
        simp only [List.append_cancel_left_eq, exists_eq_left']
      have behind : decoder.andThen next (front ++ content) = next first content := by
        rw [Decoder.andThen, reads]
      rw [Stops, same, behind]
      exact nextTruncates.stops content late

/-- Two parts without texts. -/
theorem Truncates.textless {next : α → Decoder β} {front back : Bytes} {first : α}
    (truncates : decoder.Truncates front []) (reads : decoder.Reads front first)
    (nextTruncates : (next first).Truncates back []) :
    (decoder.andThen next).Truncates (front ++ back) [] :=
  truncates.andThen reads nextTruncates

theorem truncates_byte (first : UInt8) : byte.Truncates [first] [] := by
  refine ⟨fun _ absent => (List.not_mem_nil absent).elim, fun cut cuts => ?_⟩
  have nothing : cut = [] := List.eq_nil_of_length_eq_zero (Nat.lt_one_iff.mp cuts.shorter)
  subst nothing
  exact .inr ⟨fun ⟨_, absent, _⟩ => (List.not_mem_nil absent).elim, rfl⟩

theorem truncates_times {item : Decoder α} {encode : α → Bytes} {placesOf : α → List Place}
    {items : List α} (reads : ∀ value ∈ items, item.Reads (encode value) value)
    (truncates : ∀ value ∈ items, item.Truncates (encode value) (placesOf value)) :
    (times item items.length).Truncates (items.flatMap encode)
      (itemPlaces encode placesOf items) := by
  induction items with
  | nil => exact truncates_nil
  | cons first rest ih =>
      rw [List.length_cons, times, List.flatMap_cons]
      have later := ih (fun value member => reads value (List.mem_cons_of_mem first member))
        fun value member => truncates value (List.mem_cons_of_mem first member)
      exact (truncates first List.mem_cons_self).andThen (reads first List.mem_cons_self)
        (later.ending _)

end Decoder

open Decoder

theorem truncates_word (width number : Nat) :
    (decodeWord width).Truncates (Bytes.littleEndian width number) [] := by
  refine Truncates.ending ⟨fun _ absent => (List.not_mem_nil absent).elim, fun cut cuts => ?_⟩ _
  have short := cuts.shorter
  rw [Bytes.littleEndian_length] at short
  refine .inr ⟨fun ⟨_, absent, _⟩ => (List.not_mem_nil absent).elim, ?_⟩
  rw [take, if_neg (Nat.not_le.mpr short)]

theorem truncates_integer (number : Nat) :
    decodeInteger.Truncates (encodeInteger number) [] := by
  unfold encodeInteger
  split
  · exact (truncates_byte _).ending _
  split
  · exact (truncates_byte 251).textless (reads_byte 251) (truncates_word 2 number)
  split
  · exact (truncates_byte 252).textless (reads_byte 252) (truncates_word 4 number)
  · exact (truncates_byte 253).textless (reads_byte 253) (truncates_word 8 number)

theorem truncates_variant (count number : Nat) :
    (decodeVariant count).Truncates (encodeInteger number) [] :=
  (truncates_integer number).ending _

theorem truncates_text {text : String} (fits : TextFits text) :
    decodeText.Truncates (encodeText text) (textPlaces text) := by
  constructor
  · intro place member
    rw [List.mem_singleton.mp member]
    exact List.prefix_rfl
  · intro cut cuts
    rcases cuts_append cuts with early | ⟨content, rfl, late⟩
    · refine .inr ⟨?_, ?_⟩
      · rintro ⟨place, member, content, _, _, whole⟩
        have short := early.shorter
        rw [whole, List.mem_singleton.mp member] at short
        simp only [List.length_append] at short
        omega
      · rw [decodeText, Decoder.andThen, ((truncates_integer _).stops cut early).endOfInput]
    · have few := late.shorter
      refine .inl ⟨⟨_, List.mem_singleton_self _, content, late.1, late.2, rfl⟩, ?_⟩
      rw [decodeText, Decoder.andThen, reads_integer fits]
      dsimp only
      rw [Decoder.andThen, take, if_neg (Nat.not_le.mpr few)]

theorem truncates_list {item : Decoder α} {encode : α → Bytes} {fits : α → Prop}
    {placesOf : α → List Place} {items : List α}
    (reads : ∀ value, fits value → item.Reads (encode value) value)
    (truncates : ∀ value, fits value → item.Truncates (encode value) (placesOf value))
    (fit : ListFits fits items) :
    (decodeList item).Truncates (encodeList encode items)
      (joined (encodeInteger items.length) [] (itemPlaces encode placesOf items)) :=
  (truncates_integer _).andThen (reads_integer fit.1)
    (truncates_times (fun value member => reads value (fit.2 value member))
      fun value member => truncates value (fit.2 value member))

theorem truncates_textList {texts : List String} (fits : ListFits TextFits texts) :
    (decodeList decodeText).Truncates (encodeList encodeText texts) (textListPlaces texts) :=
  truncates_list (fun _ => reads_text) (fun _ => truncates_text) fits

theorem truncates_stub {stub : Stub} (fits : StubFits stub) :
    decodeStub.Truncates (encodeStub stub) (stubPlaces stub) := by
  rw [encodeStub, List.append_assoc]
  exact (truncates_text fits.transactionId).andThen (reads_text fits.transactionId)
    ((truncates_text fits.channelId).andThen (reads_text fits.channelId)
      ((truncates_textList fits.arguments).ending _))

theorem itemPlaces_nil (encode : α → Bytes) (items : List α) :
    itemPlaces encode (fun _ => []) items = [] := by
  induction items with
  | nil => rfl
  | cons first rest ih =>
      rw [itemPlaces, ih]
      rfl

theorem truncates_payload {payload : Payload} (fits : payload.length < UInt64.size) :
    decodePayload.Truncates (encodePayload payload) [] := by
  have fit : ListFits (fun _ => True) payload := ⟨fits, fun _ _ => trivial⟩
  have truncates := truncates_list (fun first _ => reads_byte first)
    (fun first _ => truncates_byte first) fit
  rw [itemPlaces_nil] at truncates
  exact truncates

theorem truncates_option {item : Decoder α} {encode : α → Bytes} {value : Option α}
    (truncates : ∀ present ∈ value, item.Truncates (encode present) []) :
    (decodeOption item).Truncates (encodeOption encode value) [] := by
  cases value with
  | none => exact (truncates_byte 0).ending _
  | some present =>
      exact (truncates_byte 1).textless (reads_byte 1) ((truncates present rfl).ending _)

theorem truncates_outcome {outcome : Outcome} (fits : OutcomeFits outcome) :
    decodeOutcome.Truncates (encodeOutcome outcome) (outcomePlaces outcome) := by
  cases outcome with
  | success payload =>
      exact (truncates_variant 2 0).textless (reads_variant 2 0 (by decide) (by decide))
        ((truncates_option fun present member => truncates_payload (fits present member)).ending _)
  | failure message =>
      exact (truncates_variant 2 1).andThen (reads_variant 2 1 (by decide) (by decide))
        ((truncates_text fits).ending _)

theorem Request.truncates_encode {request : Request} (fits : request.Fits) :
    Request.decode.Truncates request.encode request.places := by
  rw [Request.decode_eq]
  cases request with
  | ping => exact (truncates_variant 4 0).ending _
  | methods => exact (truncates_variant 4 1).ending _
  | start stub =>
      exact (truncates_variant 4 2).andThen (reads_variant 4 2 (by decide) (by decide))
        ((truncates_stub fits).ending _)
  | invoke stub =>
      exact (truncates_variant 4 3).andThen (reads_variant 4 3 (by decide) (by decide))
        ((truncates_stub fits).ending _)

theorem Response.truncates_encode {response : Response} (fits : response.Fits) :
    Response.decode.Truncates response.encode response.places := by
  rw [Response.decode_eq]
  cases response with
  | pong => exact (truncates_variant 3 0).ending _
  | methods names =>
      exact (truncates_variant 3 1).andThen (reads_variant 3 1 (by decide) (by decide))
        ((truncates_textList fits).ending _)
  | result outcome =>
      exact (truncates_variant 3 2).andThen (reads_variant 3 2 (by decide) (by decide))
        ((truncates_outcome fits).ending _)

/-- A message whose texts stand at these places is not decoded from a part of its bytes: the error
has the empty text just if the part ends in one of the texts, and otherwise tells the end of the
input. -/
structure FailsCut (decode : Decoder α) (bytes : Bytes) (texts : List String)
    (places : List Place) : Prop where
  texts : places.map Place.text = texts
  stands : ∀ place ∈ places, place.before ++ encodeText place.text <+: bytes
  fails : ∀ cut, Cuts cut bytes → ∃ fault, decode cut = .error fault ∧
    (fault.describe = "io error: " ↔ EndsInText places cut) ∧
    (fault.describe = "io error: unexpected end of file" ↔ ¬ EndsInText places cut)

theorem Decoder.Truncates.failsCut {decoder : Decoder α} {bytes : Bytes} {texts : List String}
    {places : List Place} (truncates : decoder.Truncates bytes places)
    (all : places.map Place.text = texts) : FailsCut decoder bytes texts places where
  texts := all
  stands := truncates.stands
  fails := by
    intro cut cuts
    rcases truncates.stops cut cuts with ⟨ends, read⟩ | ⟨outside, read⟩
    · exact ⟨_, read, iff_of_true rfl ends, iff_of_false (by decide) (not_not_intro ends)⟩
    · exact ⟨_, read, iff_of_false (by decide) outside, iff_of_true rfl outside⟩

end Chaincode.Wire

namespace Chaincode.Service

open Wire Tracing

namespace Connection

/-- A server stops at a body that does not decode, whatever is behind it. -/
theorem stops_at_faulty (server : Server σ) {requests : List Request} {earlier body later : Bytes}
    {fault : Fault} {moves : List Move} (leads : Leads Request.decode earlier requests [])
    (nonempty : body ≠ []) (framable : Framable body) (faulty : Request.decode body = .error fault)
    (arrived : moves.flatMap Move.bytes = earlier ++ (frame body ++ later)) (store : σ) :
    let turn := conversation server {} moves store
    Matches (server.dispatcher.replies requests store) (frame body ++ later) turn ∧
      turn.value.reported = [warning ("undecodable request: " ++ fault.describe)] := by
  intro turn
  have enough : 5 ≤ (frame body ++ later).length := by
    have some := List.length_pos_of_ne_nil nonempty
    rw [List.length_append, frame_length]
    omega
  have whole : Leads Request.decode (earlier ++ (frame body ++ later)) (requests ++ [])
      (frame body ++ later) := leads.append (.stop (stuck_of_faulty framable enough faulty))
  rw [List.append_nil] at whole
  have served : Matches (server.dispatcher.replies requests store) (frame body ++ later) turn := by
    change Matches _ _ (conversation server {} moves store)
    rw [conversation_eq rfl, arrived]
    exact settle_matches whole store
  exact ⟨served, ((served.reported _).mp (.faulty framable enough faulty)).symm⟩

end Connection

/-- No message is decoded from a part of its bytes that ends too early, and the error tells whether
this part ends in a text.  A server that has such a part of a request as the body of a frame stops
there and warns of this error: of that frame and of all that follows it does nothing, however the
bytes arrive.  Lengths have to fit into eight bytes, as those of all texts and lists in memory do,
and the responses before the stop into frames. -/
theorem cut_messages_fail :
    (∀ request : Request, request.Fits →
      FailsCut Request.decode request.encode request.texts request.places) ∧
    (∀ response : Response, response.Fits →
      FailsCut Response.decode response.encode response.texts response.places) ∧
    ∀ request : Request, request.Fits → ∀ cut, Cuts cut request.encode → cut ≠ [] → Framable cut →
      ∀ (σ : Type) (server : Server σ) (requests : List Request) (earlier later : Bytes)
        (moves : List Connection.Move) (store : σ), Leads Request.decode earlier requests [] →
        moves.flatMap Connection.Move.bytes = earlier ++ (frame cut ++ later) →
        (∀ response ∈ (server.dispatcher.replies requests store).value,
          Framable response.encode) →
        let turn := Connection.conversation server {} moves store
        let recorded := Connection.conversation ⟨server.dispatcher.recorded⟩ {} moves (store, [])
        Connection.Matches (server.dispatcher.replies requests store) (frame cut ++ later) turn ∧
          (EndsInText request.places cut →
            turn.value.reported = [warning "undecodable request: io error: "]) ∧
          (¬ EndsInText request.places cut → turn.value.reported =
            [warning "undecodable request: io error: unexpected end of file"]) ∧
          recorded.store.2 = requests.flatMap server.dispatcher.calls := by
  refine ⟨fun request fits => (Request.truncates_encode fits).failsCut request.texts_places,
    fun response fits => (Response.truncates_encode fits).failsCut response.texts_places, ?_⟩
  intro request fits cut cuts nonempty framable
  obtain ⟨fault, faulty, inText, outside⟩ :=
    ((Request.truncates_encode fits).failsCut request.texts_places).fails cut cuts
  intro σ server requests earlier later moves store leads arrived _ turn recorded
  obtain ⟨served, warned⟩ :=
    Connection.stops_at_faulty server leads nonempty framable faulty arrived store
  have noted := (Connection.stops_at_faulty ⟨server.dispatcher.recorded⟩ leads nonempty framable
    faulty arrived (store, [])).1.store
  rw [Dispatcher.replies_recorded] at noted
  refine ⟨served, fun ends => ?_, fun apart => ?_, congrArg Prod.snd noted⟩
  · rw [inText.mpr ends] at warned
    exact warned
  · rw [outside.mpr apart] at warned
    exact warned

/-- A request that ends after the first of the three bytes of a text, between two pings. -/
theorem trial_cut_fails :
    let request := Request.invoke (Stub.ofArguments ["€"])
    let cut := request.encode.dropLast.dropLast
    let stream := frame Request.ping.encode ++ (frame cut ++ frame Request.ping.encode)
    let turn := Connection.conversation ⟨VerySimple.dispatcher⟩ {} [.step, .chunk stream] ()
    request.Fits ∧ Cuts cut request.encode ∧ cut ≠ [] ∧ Framable cut ∧
      Leads Request.decode (frame Request.ping.encode) [.ping] [] ∧
      EndsInText request.places cut ∧ Request.decode cut = .error .shortText ∧
      turn.value.outbox = replyStream [.pong] ∧
      turn.value.reported = [{
        level := .warn
        target := "chaincode_dispatch::net::server"
        message := "undecodable request: io error: " }] := by
  intro request cut stream turn
  have fits : request.Fits := Request.fits_of_length (by decide)
  have cuts : Cuts cut request.encode := by decide
  have nonempty : cut ≠ [] := by decide
  have framable : Framable cut := by decide
  have leads : Leads Request.decode (frame Request.ping.encode) [.ping] [] :=
    .next (opens_request (by decide)) (leads_nil _)
  obtain ⟨fault, faulty, inText, _⟩ := (cut_messages_fail.1 request fits).fails cut cuts
  have short : Request.decode cut = .error .shortText := by decide
  cases short.symm.trans faulty
  obtain ⟨matched, warned, _⟩ := cut_messages_fail.2.2 request fits cut cuts nonempty framable Unit
    ⟨VerySimple.dispatcher⟩ [.ping] _ (frame Request.ping.encode) [.step, .chunk stream] () leads
    rfl (List.forall_mem_singleton.mpr (by decide))
  exact ⟨fits, cuts, nonempty, framable, leads, inText.mp rfl, short, matched.outbox,
    warned (inText.mp rfl)⟩

end Chaincode.Service
