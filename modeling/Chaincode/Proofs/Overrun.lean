import Chaincode.Proofs.Acceptance
import Chaincode.Proofs.Metering
import Chaincode.Proofs.Truncation

namespace Chaincode.Wire

/-! Lists that announce more than there is.

A list of more elements than the body holds is read up to the first element that is
missing or faulty, and no further.  Which bodies announce a list, and what they hold of it,
is said without a decoder.  Main statement: `decoding_bounded`.
-/

/-- Up to the length of the list of arguments, the body is that of a request. -/
inductive Request.Announces : Bytes → Nat → Bytes → Prop
  | start : IntegerForm 2 variant → TextForm transactionId front → TextForm channelId middle →
      IntegerForm count length →
      Request.Announces (variant ++ (front ++ (middle ++ (length ++ content)))) count content
  | invoke : IntegerForm 3 variant → TextForm transactionId front → TextForm channelId middle →
      IntegerForm count length →
      Request.Announces (variant ++ (front ++ (middle ++ (length ++ content)))) count content

inductive Response.AnnouncesNames : Bytes → Nat → Bytes → Prop
  | methods : IntegerForm 1 variant → IntegerForm count length →
      Response.AnnouncesNames (variant ++ (length ++ content)) count content

inductive Response.AnnouncesPayload : Bytes → Nat → Bytes → Prop
  | success : IntegerForm 2 variant → IntegerForm 0 chosen → IntegerForm count length →
      Response.AnnouncesPayload (variant ++ (chosen ++ ([1] ++ (length ++ content)))) count content

/-- The bytes begin with so many elements. -/
def Holds (form : α → Bytes → Prop) (count : Nat) (content : Bytes) : Prop :=
  ∃ items front rest, content = front ++ rest ∧ items.length = count ∧ ItemsForm form items front

/-- Of `count` announced elements some are read, and the next one fails: for want of bytes, or
because of the bytes that it has.  Then nothing more is begun. -/
def Overruns (item : Metered α) (count : Nat) (content : Bytes) (elements : Nat)
    (result : Except Fault β) : Prop :=
  ∃ (values : List α) (left : Bytes) (fault : Fault), values.length < count ∧
    (item.times values.length).decoder content = .ok (values, left) ∧
    item.decoder left = .error fault ∧ (left = [] ∧ fault = .endOfInput ∨ left ≠ []) ∧
    elements = values.length + 1 ∧ result = .error fault

namespace Metered

/-- Nothing that this reads is an element of a list. -/
def Elementless (metered : Metered α) : Prop :=
  ∀ body position, (metered body position).elements = 0

variable {metered : Metered α} {decoder : Decoder α}

theorem Elementless.andThen {next : α → Metered β} (elementless : metered.Elementless)
    (later : ∀ value, (next value).Elementless) : (metered.andThen next).Elementless := by
  intro body position
  cases found : (metered body position).result with
  | error fault =>
      rw [andThen_error found]
      exact elementless body position
  | ok pair => rw [andThen_ok found, elementless body position, later pair.1 body pair.2]

theorem Elementless.ite {condition : Prop} [Decidable condition] {other : Metered α}
    (elementless : metered.Elementless) (otherwise : other.Elementless) :
    (if condition then metered else other).Elementless := by
  split
  · exact elementless
  · exact otherwise

theorem elementless_pure (value : α) : (pure value).Elementless := fun _ _ => rfl

theorem elementless_fail (fault : Fault) : (fail fault : Metered α).Elementless := fun _ _ => rfl

theorem elementless_byte : byte.Elementless := by
  intro body position
  rw [byte]
  split <;> rfl

theorem elementless_take (count : Nat) (fault : Fault) : (take count fault).Elementless := by
  intro body position
  rw [take]
  split <;> rfl

theorem elementless_word (width : Nat) : (word width).Elementless :=
  (elementless_take width _).andThen fun _ => elementless_pure _

theorem elementless_integer : integer.Elementless :=
  elementless_byte.andThen fun first =>
    (elementless_pure first.toNat).ite <| (elementless_word 2).ite <| (elementless_word 4).ite <|
      (elementless_word 8).ite <|
        (elementless_fail .wideInteger).ite (elementless_fail .extensionByte)

theorem elementless_variant (count : Nat) : (variant count).Elementless :=
  elementless_integer.andThen fun found =>
    (elementless_fail (.wideVariant found)).ite <|
      (elementless_fail (.unknownVariant found count)).ite (elementless_pure found)

theorem elementless_text : text.Elementless := by
  refine elementless_integer.andThen fun length =>
    (elementless_take length _).andThen fun bytes => ?_
  split
  · exact elementless_pure _
  · exact elementless_fail _

/-- What a decoder does with a body whose bytes from some position on are `rest`. -/
def OverrunsAt (metered : Metered β) (item : Metered α) (count : Nat)
    (content body rest : Bytes) : Prop :=
  ∀ position, body.drop position = rest →
    Overruns item count content (metered body position).elements (metered body position).result

section Lists

variable {item : Metered γ} {count : Nat} {content body front rest : Bytes}

theorem overruns_behind {next : α → Metered β} {value : α} {form : α → Bytes → Prop} {spare : Nat}
    (meters : metered.Meters decoder spare) (elementless : metered.Elementless)
    (exact : decoder.Exact form) (found : form value front)
    (overruns : (next value).OverrunsAt item count content body rest) :
    (metered.andThen next).OverrunsAt item count content body (front ++ rest) := by
  intro position here
  have reads := (exact (front ++ rest) value rest).mpr ⟨front, rfl, found⟩
  rcases meters.cases body position with ⟨fault, _, read⟩ | ⟨first, behind, done, read⟩
  · rw [here, reads] at read
    cases read
  · rw [here, reads, Except.ok.injEq, Prod.mk.injEq] at read
    obtain ⟨rfl, left⟩ := read
    rw [andThen_ok done, elementless, Nat.zero_add]
    exact overruns behind left.symm

theorem OverrunsAt.map (overruns : metered.OverrunsAt item count content body rest)
    (change : α → β) : (metered.map change).OverrunsAt item count content body rest := by
  intro position here
  obtain ⟨values, left, fault, few, read, failed, missing, counted, ended⟩ := overruns position here
  refine ⟨values, left, fault, few, read, failed, missing, ?_, ?_⟩
  · rw [Metered.map, andThen_error ended]
    exact counted
  · rw [Metered.map, andThen_error ended]

theorem overruns_times {form : α → Bytes → Prop} (meters : metered.Meters decoder 1)
    (elementless : metered.Elementless) (missing : decoder [] = .error .endOfInput)
    (exact : decoder.Exact form) (short : ¬ Holds form count content) :
    (metered.times count).OverrunsAt metered count content body content := by
  have plain (count : Nat) : (metered.times count).decoder = Decoder.times decoder count :=
    (meters.times count).decoder_eq
  induction count generalizing content with
  | zero => exact absurd ⟨[], [], content, rfl, rfl, .nil⟩ short
  | succ count ih =>
      intro position here
      rw [times]
      rcases meters.element.cases body position with
        ⟨fault, done, read⟩ | ⟨value, behind, done, read⟩
      · rw [here] at read
        refine ⟨[], content, fault, Nat.succ_pos count, rfl, meters.decoder_eq ▸ read, ?_, ?_, ?_⟩
        · by_cases spent : content = []
          · rw [spent, missing] at read
            exact .inl ⟨spent, (Except.error.inj read).symm⟩
          · exact .inr spent
        · rw [andThen_error done]
          exact congrArg (· + 1) (elementless body position)
        · rw [andThen_error done]
      · rw [here] at read
        obtain ⟨front, whole, found⟩ := (exact _ _ _).mp read
        have left : ¬ Holds form count (body.drop behind) := by
          rintro ⟨items, middle, rest, same, counted, forms⟩
          refine short ⟨value :: items, front ++ middle, rest, ?_, congrArg (· + 1) counted,
            .cons found forms⟩
          rw [whole, same, List.append_assoc]
        obtain ⟨values, last, fault, fewer, reads, failed, cause, counted, ended⟩ :=
          ih left behind rfl
        refine ⟨value :: values, last, fault, Nat.succ_lt_succ fewer, ?_, failed, cause, ?_, ?_⟩
        · rw [plain] at reads ⊢
          rw [List.length_cons, Decoder.times, Decoder.andThen, read]
          dsimp only
          rw [Decoder.map, Decoder.andThen, reads]
          rfl
        · have first : (metered.element body position).elements = 1 :=
            congrArg (· + 1) (elementless body position)
          rw [andThen_ok done, Metered.map, andThen_error ended, first, List.length_cons,
            Nat.add_comm 1]
          exact congrArg (· + 1) counted
        · rw [andThen_ok done, Metered.map, andThen_error ended]

theorem overruns_list {form : α → Bytes → Prop} {length : Bytes} (meters : metered.Meters decoder 1)
    (elementless : metered.Elementless) (missing : decoder [] = .error .endOfInput)
    (exact : decoder.Exact form) (announced : IntegerForm count length)
    (short : ¬ Holds form count content) :
    metered.list.OverrunsAt metered count content body (length ++ content) :=
  overruns_behind meters_integer elementless_integer exact_integer announced
    (overruns_times meters elementless missing exact short)

end Lists

section Messages

variable {count : Nat} {content body length : Bytes}

theorem overruns_texts (announced : IntegerForm count length)
    (short : ¬ Holds TextForm count content) :
    text.list.OverrunsAt text count content body (length ++ content) :=
  overruns_list meters_text elementless_text rfl exact_text announced short

theorem overruns_bytes (announced : IntegerForm count length)
    (short : ¬ Holds ByteForm count content) :
    byte.list.OverrunsAt byte count content body (length ++ content) :=
  overruns_list meters_byte elementless_byte rfl Decoder.exact_byte announced short

theorem overruns_stub {transactionId channelId : String} {front middle : Bytes}
    (first : TextForm transactionId front) (second : TextForm channelId middle)
    (announced : IntegerForm count length) (short : ¬ Holds TextForm count content) :
    stub.OverrunsAt text count content body (front ++ (middle ++ (length ++ content))) := by
  apply overruns_behind meters_text elementless_text exact_text first
  apply overruns_behind meters_text elementless_text exact_text second
  exact (overruns_texts announced short).map _

theorem overruns_variant {variants number : Nat} {next : Nat → Metered β} {item : Metered α}
    {front rest : Bytes} (few : variants ≤ UInt32.size) (known : number < variants)
    (form : IntegerForm number front)
    (overruns : (next number).OverrunsAt item count content body rest) :
    ((variant variants).andThen next).OverrunsAt item count content body (front ++ rest) :=
  overruns_behind (meters_variant variants) (elementless_variant variants) (exact_variant few)
    ⟨known, form⟩ overruns

/-- Behind the byte that says that there is a payload. -/
theorem overruns_payload (announced : IntegerForm count length)
    (short : ¬ Holds ByteForm count content) :
    byte.list.option.OverrunsAt byte count content body ([1] ++ (length ++ content)) := by
  apply overruns_behind meters_byte elementless_byte Decoder.exact_byte .raw
  exact (overruns_bytes announced short).map some

end Messages

end Metered

open Metered

/-! Each element takes a byte at least. -/

theorem IntegerForm.length_pos {number : Nat} {bytes : Bytes} (form : IntegerForm number bytes) :
    1 ≤ bytes.length := by
  cases form <;> exact Nat.le_add_left 1 _

theorem TextForm.length_pos {value : String} {bytes : Bytes} (form : TextForm value bytes) :
    1 ≤ bytes.length := by
  cases form with
  | text announced =>
      rw [List.length_append]
      exact Nat.le_add_right_of_le (IntegerForm.length_pos announced)

theorem Holds.le_length {form : α → Bytes → Prop} {count : Nat} {content : Bytes}
    (occupied : ∀ value front, form value front → 1 ≤ front.length)
    (holds : Holds form count content) : count ≤ content.length := by
  obtain ⟨items, front, rest, rfl, rfl, forms⟩ := holds
  rw [List.length_append]
  refine Nat.le_add_right_of_le ?_
  induction forms with
  | nil => exact Nat.le_refl 0
  | cons first others ih =>
      have taken := occupied _ _ first
      rw [List.length_cons, List.length_append]
      omega

theorem not_holds_texts {count : Nat} {content : Bytes} (few : content.length < count) :
    ¬ Holds TextForm count content :=
  fun holds => Nat.not_le.mpr few (holds.le_length fun _ _ => TextForm.length_pos)

theorem not_holds_bytes {count : Nat} {content : Bytes} (few : content.length < count) :
    ¬ Holds ByteForm count content := by
  intro holds
  refine Nat.not_le.mpr few (holds.le_length fun value front form => ?_)
  cases form
  exact Nat.le_refl 1

/-- Without the account, from the beginning of a body. -/
theorem Metered.OverrunsAt.decode {metered : Metered β} {item : Metered α} {count : Nat}
    {content body : Bytes} (overruns : metered.OverrunsAt item count content body body) :
    Overruns item count content (metered body 0).elements (metered.decoder body) := by
  obtain ⟨values, left, fault, few, read, failed, missing, counted, ended⟩ := overruns 0 rfl
  exact ⟨values, left, fault, few, read, failed, missing, counted, by rw [decoder, ended]; rfl⟩

theorem Request.Announces.overruns {body content : Bytes} {count : Nat}
    (announces : Request.Announces body count content) (short : ¬ Holds TextForm count content) :
    Overruns Metered.text count content (request body 0).elements (Request.decode body) := by
  refine OverrunsAt.decode ?_
  cases announces with
  | start form first second announced =>
      apply overruns_variant (by decide) (by decide) form
      exact (overruns_stub first second announced short).map _
  | invoke form first second announced =>
      apply overruns_variant (by decide) (by decide) form
      exact (overruns_stub first second announced short).map _

theorem Response.AnnouncesNames.overruns {body content : Bytes} {count : Nat}
    (announces : Response.AnnouncesNames body count content)
    (short : ¬ Holds TextForm count content) :
    Overruns Metered.text count content (response body 0).elements (Response.decode body) := by
  refine OverrunsAt.decode ?_
  cases announces with
  | methods form announced =>
      apply overruns_variant (by decide) (by decide) form
      exact (overruns_texts announced short).map _

theorem Response.AnnouncesPayload.overruns {body content : Bytes} {count : Nat}
    (announces : Response.AnnouncesPayload body count content)
    (short : ¬ Holds ByteForm count content) :
    Overruns Metered.byte count content (response body 0).elements (Response.decode body) := by
  refine OverrunsAt.decode ?_
  cases announces with
  | success form chosen announced =>
      apply overruns_variant (by decide) (by decide) form
      refine OverrunsAt.map ?_ _
      apply overruns_variant (by decide) (by decide) chosen
      exact (overruns_payload announced short).map _

/-! A message holds no more than its bytes. -/

def textBytes (texts : List String) : Nat :=
  (texts.map fun text => (Text.Utf8.encode text).length).sum

/-- How many bytes of texts and elements of lists a request has. -/
def Request.volume (request : Request) : Nat :=
  textBytes request.texts + match request with
    | .ping | .methods => 0
    | .start stub | .invoke stub => stub.arguments.length

/-- How many bytes of texts and elements of lists a response has, and bytes of a payload. -/
def Response.volume (response : Response) : Nat :=
  textBytes response.texts + match response with
    | .pong | .result (.failure _) | .result (.success none) => 0
    | .methods names => names.length
    | .result (.success (some payload)) => payload.length

theorem encodeText_length (text : String) :
    (Text.Utf8.encode text).length + 1 ≤ (encodeText text).length := by
  have announced := encodeInteger_length_pos (Text.Utf8.encode text).length
  rw [encodeText, List.length_append]
  omega

theorem textBytes_cons (text : String) (texts : List String) :
    textBytes (text :: texts) = (Text.Utf8.encode text).length + textBytes texts := by
  simp [textBytes]

theorem encodeTextList_length (texts : List String) :
    textBytes texts + texts.length ≤ (encodeList encodeText texts).length := by
  have items : textBytes texts + texts.length ≤ (texts.flatMap encodeText).length := by
    induction texts with
    | nil => exact Nat.le_refl 0
    | cons text rest ih =>
        have first := encodeText_length text
        rw [textBytes_cons, List.length_cons, List.flatMap_cons, List.length_append]
        omega
  rw [encodeList, List.length_append]
  omega

theorem encodeStub_length (stub : Stub) :
    textBytes (stubTexts stub) + stub.arguments.length ≤ (encodeStub stub).length := by
  have first := encodeText_length stub.transactionId
  have second := encodeText_length stub.channelId
  have third := encodeTextList_length stub.arguments
  rw [stubTexts, textBytes_cons, textBytes_cons, encodeStub, List.length_append, List.length_append]
  omega

theorem Request.volume_le (request : Request) : request.volume ≤ request.encode.length := by
  cases request with
  | ping | methods => exact Nat.zero_le _
  | start stub | invoke stub =>
      have held := encodeStub_length stub
      simp only [Request.volume, Request.texts, Request.encode, List.length_append]
      omega

theorem Response.volume_le (response : Response) : response.volume ≤ response.encode.length := by
  match response with
  | .pong => exact Nat.zero_le _
  | .methods names =>
      have held := encodeTextList_length names
      simp only [Response.volume, Response.texts, Response.encode, List.length_append]
      omega
  | .result (.success none) => exact Nat.zero_le _
  | .result (.success (some payload)) =>
      simp only [Response.volume, Response.texts, Response.encode, encodeOutcome, encodeOption,
        encodePayload, encodeList, textBytes, List.length_append, List.length_cons,
        List.length_flatMap, List.length_nil, List.map_nil, List.sum_nil]
      simp
      omega
  | .result (.failure message) =>
      have held := encodeText_length message
      simp only [Response.volume, Response.texts, textBytes_cons, Response.encode, encodeOutcome,
        List.length_append]
      simp only [textBytes, List.map_nil, List.sum_nil]
      omega

theorem volume_le_of_decode {decode : Decoder α} {encode : α → Bytes} {form : α → Bytes → Prop}
    {volume : α → Nat} (exact : decode.Exact form)
    (saves : ∀ value bytes, form value bytes → Saves (encode value) bytes)
    (held : ∀ value, volume value ≤ (encode value).length) {body rest : Bytes} {value : α}
    (read : decode body = .ok (value, rest)) : volume value ≤ body.length := by
  obtain ⟨front, rfl, found⟩ := (exact _ _ _).mp read
  have enough := held value
  rw [List.length_append]
  rcases saves value front found with same | fewer
  · rw [same] at enough
    exact Nat.le_add_right_of_le enough
  · omega

/-- What a decoder does with a body, as its account tells: it begins no more list elements than the
body has bytes, stays inside the body, and finds no more than that. -/
structure Bounded (metered : Metered α) (decode : Decoder α) (volume : α → Nat) (body : Bytes) :
    Prop where
  erases : (metered body 0).result.map (fun found => (found.1, body.drop found.2)) = decode body
  elements : (metered body 0).elements ≤ body.length
  positions : ∀ position ∈ (metered body 0).positions, position ≤ body.length
  volume : ∀ value rest, decode body = .ok (value, rest) → volume value ≤ body.length

theorem bounded {metered : Metered α} {decoder : Decoder α} {volume : α → Nat}
    (meters : metered.Meters decoder 1)
    (held : ∀ body value rest, metered.decoder body = .ok (value, rest) →
      volume value ≤ body.length) (body : Bytes) :
    Bounded metered metered.decoder volume body where
  erases := rfl
  elements := by
    have within := meters.within body 0 (Nat.zero_le _)
    cases done : (metered body 0).result with
    | error fault =>
        have spent := within.failed fault done
        omega
    | ok found =>
        have spent := within.found found.1 found.2 done
        omega
  positions := (meters.within body 0 (Nat.zero_le _)).positions
  volume := held body

/-- No length that a body announces makes its decoder run away.  Lengths may be of any size that
eight bytes can hold, and of more elements than there are bytes the body never holds all. -/
theorem decoding_bounded :
    (∀ body, Bounded Metered.request Request.decode Request.volume body) ∧
    (∀ body, Bounded Metered.response Response.decode Response.volume body) ∧
    (∀ body count content, Request.Announces body count content → ¬ Holds TextForm count content →
      Overruns Metered.text count content (Metered.request body 0).elements (Request.decode body)) ∧
    (∀ body count content, Response.AnnouncesNames body count content →
      ¬ Holds TextForm count content →
      Overruns Metered.text count content (Metered.response body 0).elements
        (Response.decode body)) ∧
    (∀ body count content, Response.AnnouncesPayload body count content →
      ¬ Holds ByteForm count content →
      Overruns Metered.byte count content (Metered.response body 0).elements
        (Response.decode body)) ∧
    ∀ count (content : Bytes), content.length < count →
      ¬ Holds TextForm count content ∧ ¬ Holds ByteForm count content := by
  refine ⟨bounded meters_request fun body value rest => ?_,
    bounded meters_response fun body value rest => ?_, ?_, ?_, ?_, ?_⟩
  · exact volume_le_of_decode Request.exact_decode (fun _ _ => Request.encode_saves)
      Request.volume_le
  · exact volume_le_of_decode Response.exact_decode (fun _ _ => Response.encode_saves)
      Response.volume_le
  · exact fun body count content announces => announces.overruns
  · exact fun body count content announces => announces.overruns
  · exact fun body count content announces => announces.overruns
  · exact fun count content few => ⟨not_holds_texts few, not_holds_bytes few⟩

/-- As many names as eight bytes can count, and three bytes for them: an empty name, a name of one
byte, and no third. -/
theorem countless_names_end :
    let count := UInt64.size - 1
    let content : Bytes := [0, 1, 65]
    let body : Bytes := [1] ++ (253 :: Bytes.littleEndian 8 count ++ content)
    Response.AnnouncesNames body count content ∧ ¬ Holds TextForm count content ∧
      Overruns Metered.text count content (Metered.response body 0).elements
        (Response.decode body) ∧
      Response.decode body = .error .endOfInput ∧ (Metered.response body 0).elements = 3 := by
  intro count content body
  have announces : Response.AnnouncesNames body count content :=
    .methods (.one (by decide)) (.eight (by decide))
  have short := (decoding_bounded.2.2.2.2.2 count content (by decide)).1
  have overruns := decoding_bounded.2.2.2.1 body count content announces short
  exact ⟨announces, short, overruns, by decide, by decide⟩

end Chaincode.Wire
