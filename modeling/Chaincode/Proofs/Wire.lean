import Chaincode.Proofs.Bytes
import Chaincode.Proofs.Metering
import Chaincode.Proofs.Utf8

namespace Chaincode.Wire

/-! Values read back from their encodings.

A decoder reads bytes as a value when it does so whatever follows them, and
leaves exactly that.  Reading is closed under what decoders are built with, so
each message needs one line.  Every length has to fit into eight bytes.
-/

namespace Decoder

def Reads (decoder : Decoder α) (bytes : Bytes) (value : α) : Prop :=
  ∀ rest, decoder (bytes ++ rest) = .ok (value, rest)

variable {decoder : Decoder α} {bytes : Bytes}

theorem reads_pure (value : α) : (pure value).Reads [] value := fun _ => rfl

theorem Reads.andThen {next : α → Decoder β} {front back : Bytes} {first : α} {second : β}
    (readsFirst : decoder.Reads front first) (readsSecond : (next first).Reads back second) :
    (decoder.andThen next).Reads (front ++ back) second := by
  intro rest
  rw [Decoder.andThen, List.append_assoc, readsFirst]
  exact readsSecond rest

/-- The last part of a value need not have bytes of its own. -/
theorem Reads.ending {next : α → Decoder β} {first : α} {second : β}
    (reads : decoder.Reads bytes first) (ends : (next first).Reads [] second) :
    (decoder.andThen next).Reads bytes second := by
  have whole := reads.andThen ends
  rw [List.append_nil] at whole
  exact whole

theorem Reads.map {value : α} (reads : decoder.Reads bytes value) (change : α → β) :
    (decoder.map change).Reads bytes (change value) := by
  intro rest
  rw [Decoder.map, Decoder.andThen, reads]
  rfl

theorem reads_byte (first : UInt8) : byte.Reads [first] first := fun _ => rfl

theorem reads_take (fault : Fault) (bytes : Bytes) :
    (take bytes.length fault).Reads bytes bytes := by
  intro rest
  have enough : bytes.length ≤ (bytes ++ rest).length := by simp
  rw [take, if_pos enough, List.take_left, List.drop_left]

theorem reads_times {item : Decoder α} {encode : α → Bytes} {items : List α}
    (reads : ∀ value ∈ items, item.Reads (encode value) value) :
    (times item items.length).Reads (items.flatMap encode) items := by
  induction items with
  | nil => exact reads_pure []
  | cons first rest ih =>
      rw [List.length_cons, times, List.flatMap_cons]
      have later := ih fun value member => reads value (List.mem_cons_of_mem first member)
      exact (reads first List.mem_cons_self).andThen (later.map (first :: ·))

end Decoder

open Decoder

theorem reads_word {width number : Nat} (bound : number < 256 ^ width) :
    (decodeWord width).Reads (Bytes.littleEndian width number) number := by
  have taken := reads_take .endOfInput (Bytes.littleEndian width number)
  rw [Bytes.littleEndian_length] at taken
  have read := taken.map Bytes.ofLittleEndian
  rw [Bytes.ofLittleEndian_littleEndian, Nat.mod_eq_of_lt bound] at read
  exact read

theorem reads_integer {number : Nat} (bound : number < UInt64.size) :
    decodeInteger.Reads (encodeInteger number) number := by
  unfold encodeInteger
  split
  next small =>
      have first : (UInt8.ofNat number).toNat = number := by
        rw [UInt8.toNat_ofNat']
        omega
      have below : UInt8.ofNat number < 251 := by
        rw [UInt8.lt_iff_toNat_lt, first]
        exact small
      refine (reads_byte _).ending ?_
      rw [if_pos below, first]
      exact reads_pure number
  next =>
  split
  next small => exact (reads_byte 251).andThen (reads_word small)
  next =>
  split
  next small => exact (reads_byte 252).andThen (reads_word small)
  next => exact (reads_byte 253).andThen (reads_word bound)

theorem reads_variant (count number : Nat) (known : number < count) (few : count ≤ 251) :
    (decodeVariant count).Reads (encodeInteger number) number := by
  have narrow : ¬ UInt32.size ≤ number := by
    change ¬ 4294967296 ≤ number
    omega
  have wide : number < UInt64.size := by
    change number < 18446744073709551616
    omega
  refine (reads_integer wide).ending ?_
  rw [if_neg narrow, if_neg (Nat.not_le.mpr known)]
  exact reads_pure number

def TextFits (text : String) : Prop := (Text.Utf8.encode text).length < UInt64.size

def ListFits (fits : α → Prop) (items : List α) : Prop :=
  items.length < UInt64.size ∧ ∀ item ∈ items, fits item

theorem reads_text {text : String} (fits : TextFits text) :
    decodeText.Reads (encodeText text) text := by
  refine (reads_integer fits).andThen ((reads_take _ _).ending ?_)
  rw [Text.Utf8.decode_encode]
  exact reads_pure text

theorem reads_list {item : Decoder α} {encode : α → Bytes} {fits : α → Prop} {items : List α}
    (reads : ∀ value, fits value → item.Reads (encode value) value)
    (fit : ListFits fits items) : (decodeList item).Reads (encodeList encode items) items :=
  (reads_integer fit.1).andThen (reads_times fun value member => reads value (fit.2 value member))

theorem reads_option {item : Decoder α} {encode : α → Bytes} {value : Option α}
    (reads : ∀ present ∈ value, item.Reads (encode present) present) :
    (decodeOption item).Reads (encodeOption encode value) value := by
  cases value with
  | none => exact (reads_byte 0).andThen (reads_pure none)
  | some present => exact (reads_byte 1).andThen ((reads present rfl).map some)

structure StubFits (stub : Stub) : Prop where
  transactionId : TextFits stub.transactionId
  channelId : TextFits stub.channelId
  arguments : ListFits TextFits stub.arguments

theorem reads_stub {stub : Stub} (fits : StubFits stub) :
    decodeStub.Reads (encodeStub stub) stub := by
  rw [encodeStub, List.append_assoc]
  refine (reads_text fits.transactionId).andThen ((reads_text fits.channelId).andThen ?_)
  exact (reads_list (fun _ => reads_text) fits.arguments).map fun arguments =>
    { stub with arguments }

theorem reads_payload {payload : Payload} (fits : payload.length < UInt64.size) :
    decodePayload.Reads (encodePayload payload) payload := by
  have fit : ListFits (fun _ => True) payload := ⟨fits, fun _ _ => trivial⟩
  exact reads_list (fun first _ => reads_byte first) fit

def OutcomeFits : Outcome → Prop
  | .success payload => ∀ present ∈ payload, present.length < UInt64.size
  | .failure message => TextFits message

theorem reads_outcome {outcome : Outcome} (fits : OutcomeFits outcome) :
    decodeOutcome.Reads (encodeOutcome outcome) outcome := by
  cases outcome with
  | success payload =>
      exact (reads_variant 2 0 (by decide) (by decide)).andThen
        ((reads_option fun present member => reads_payload (fits present member)).map
          Outcome.success)
  | failure message =>
      exact (reads_variant 2 1 (by decide) (by decide)).andThen
        ((reads_text fits).map Outcome.failure)

/-! Every length inside a message is at most the length of its encoding. -/

theorem encodeInteger_length_pos (number : Nat) : 1 ≤ (encodeInteger number).length := by
  unfold encodeInteger
  split
  · simp
  · split
    · simp
    · split <;> simp

theorem textFits_of_length {text : String} (short : (encodeText text).length < UInt64.size) :
    TextFits text := by
  rw [encodeText, List.length_append] at short
  exact Nat.lt_of_le_of_lt (Nat.le_add_left _ _) short

theorem length_le_flatMap (encode : α → Bytes) (occupied : ∀ item, 1 ≤ (encode item).length)
    (items : List α) : items.length ≤ (items.flatMap encode).length := by
  induction items with
  | nil => simp
  | cons first rest ih =>
      have := occupied first
      rw [List.flatMap_cons, List.length_append, List.length_cons]
      omega

theorem item_length_le_flatMap (encode : α → Bytes) {items : List α} {item : α}
    (member : item ∈ items) : (encode item).length ≤ (items.flatMap encode).length := by
  induction items with
  | nil => cases member
  | cons first rest ih =>
      rw [List.flatMap_cons, List.length_append]
      rcases List.mem_cons.mp member with rfl | later
      · omega
      · have := ih later
        omega

theorem listFits_of_length {encode : α → Bytes} {fits : α → Prop} {items : List α}
    (occupied : ∀ item, 1 ≤ (encode item).length)
    (each : ∀ item, (encode item).length < UInt64.size → fits item)
    (short : (encodeList encode items).length < UInt64.size) : ListFits fits items := by
  rw [encodeList, List.length_append] at short
  constructor
  · have := length_le_flatMap encode occupied items
    omega
  · intro item member
    apply each
    have := item_length_le_flatMap encode member
    omega

theorem encodeText_length_pos (text : String) : 1 ≤ (encodeText text).length := by
  have := encodeInteger_length_pos (Text.Utf8.encode text).length
  rw [encodeText, List.length_append]
  omega

theorem textListFits_of_length {texts : List String}
    (short : (encodeList encodeText texts).length < UInt64.size) : ListFits TextFits texts :=
  listFits_of_length encodeText_length_pos (fun _ => textFits_of_length) short

theorem stubFits_of_length {stub : Stub} (short : (encodeStub stub).length < UInt64.size) :
    StubFits stub := by
  rw [encodeStub, List.length_append, List.length_append] at short
  exact ⟨textFits_of_length (by omega), textFits_of_length (by omega),
    textListFits_of_length (by omega)⟩

theorem outcomeFits_of_length {outcome : Outcome}
    (short : (encodeOutcome outcome).length < UInt64.size) : OutcomeFits outcome := by
  cases outcome with
  | success payload =>
      cases payload with
      | none => exact fun _ absent => nomatch absent
      | some payload =>
          rintro present ⟨⟩
          have := length_le_flatMap (fun byte : UInt8 => [byte]) (fun _ => Nat.le_refl 1) payload
          simp only [encodeOutcome, encodeOption, encodePayload, encodeList, List.length_append,
            List.length_cons] at short
          omega
  | failure message =>
      rw [encodeOutcome, List.length_append] at short
      exact textFits_of_length (by omega)

namespace Request

def Fits : Request → Prop
  | .ping | .methods => True
  | .start stub | .invoke stub => StubFits stub

theorem reads_encode {request : Request} (fits : request.Fits) :
    decode.Reads request.encode request := by
  rw [decode_eq]
  cases request with
  | ping => exact (reads_variant 4 0 (by decide) (by decide)).ending (reads_pure Request.ping)
  | methods => exact (reads_variant 4 1 (by decide) (by decide)).ending (reads_pure Request.methods)
  | start stub =>
      exact (reads_variant 4 2 (by decide) (by decide)).andThen
        ((reads_stub fits).map Request.start)
  | invoke stub =>
      exact (reads_variant 4 3 (by decide) (by decide)).andThen
        ((reads_stub fits).map Request.invoke)

theorem fits_of_length {request : Request} (short : request.encode.length < UInt64.size) :
    request.Fits := by
  cases request with
  | ping => trivial
  | methods => trivial
  | start stub | invoke stub =>
      rw [encode, List.length_append] at short
      exact stubFits_of_length (by omega)

end Request

namespace Response

def Fits : Response → Prop
  | .pong => True
  | .methods names => ListFits TextFits names
  | .result outcome => OutcomeFits outcome

theorem reads_encode {response : Response} (fits : response.Fits) :
    decode.Reads response.encode response := by
  rw [decode_eq]
  cases response with
  | pong => exact (reads_variant 3 0 (by decide) (by decide)).ending (reads_pure Response.pong)
  | methods names =>
      exact (reads_variant 3 1 (by decide) (by decide)).andThen
        ((reads_list (fun _ => reads_text) fits).map Response.methods)
  | result outcome =>
      exact (reads_variant 3 2 (by decide) (by decide)).andThen
        ((reads_outcome fits).map Response.result)

theorem fits_of_length {response : Response} (short : response.encode.length < UInt64.size) :
    response.Fits := by
  cases response with
  | pong => trivial
  | methods names =>
      rw [encode, List.length_append] at short
      exact textListFits_of_length (by omega)
  | result outcome =>
      rw [encode, List.length_append] at short
      exact outcomeFits_of_length (by omega)

end Response

end Chaincode.Wire
