import Chaincode.Proofs.Bytes
import Chaincode.Proofs.Metering
import Chaincode.Proofs.Utf8

namespace Chaincode.Wire

/-! All the ways to write a message.

Encoders take the shortest form of a number; the forms here allow each width that
can hold it.  Nothing else is left open: a message has the bytes of its parts, one
after the other.  No decoder occurs in this.
-/

inductive IntegerForm : Nat → Bytes → Prop
  | one : number < 251 → IntegerForm number [UInt8.ofNat number]
  | two : number < UInt16.size → IntegerForm number (251 :: Bytes.littleEndian 2 number)
  | four : number < UInt32.size → IntegerForm number (252 :: Bytes.littleEndian 4 number)
  | eight : number < UInt64.size → IntegerForm number (253 :: Bytes.littleEndian 8 number)

/-- The number of bytes, and then the bytes themselves, which are the text's in UTF-8. -/
inductive TextForm : String → Bytes → Prop
  | text : IntegerForm (Text.Utf8.encode text).length length →
      TextForm text (length ++ Text.Utf8.encode text)

inductive ItemsForm (form : α → Bytes → Prop) : List α → Bytes → Prop
  | nil : ItemsForm form [] []
  | cons : form first front → ItemsForm form rest back → ItemsForm form (first :: rest) (front ++ back)

inductive ListForm (form : α → Bytes → Prop) : List α → Bytes → Prop
  | list : IntegerForm items.length length → ItemsForm form items content →
      ListForm form items (length ++ content)

inductive OptionForm (form : α → Bytes → Prop) : Option α → Bytes → Prop
  | none : OptionForm form none [0]
  | some : form value content → OptionForm form (some value) (1 :: content)

inductive StubForm : Stub → Bytes → Prop
  | stub : TextForm transactionId front → TextForm channelId middle →
      ListForm TextForm arguments back →
      StubForm ⟨transactionId, channelId, arguments⟩ (front ++ (middle ++ back))

inductive ByteForm : UInt8 → Bytes → Prop
  | raw : ByteForm byte [byte]

inductive OutcomeForm : Outcome → Bytes → Prop
  | success : IntegerForm 0 variant → OptionForm (ListForm ByteForm) payload content →
      OutcomeForm (.success payload) (variant ++ content)
  | failure : IntegerForm 1 variant → TextForm message content →
      OutcomeForm (.failure message) (variant ++ content)

inductive Request.Form : Request → Bytes → Prop
  | ping : IntegerForm 0 variant → Request.Form .ping variant
  | methods : IntegerForm 1 variant → Request.Form .methods variant
  | start : IntegerForm 2 variant → StubForm stub content →
      Request.Form (.start stub) (variant ++ content)
  | invoke : IntegerForm 3 variant → StubForm stub content →
      Request.Form (.invoke stub) (variant ++ content)

inductive Response.Form : Response → Bytes → Prop
  | pong : IntegerForm 0 variant → Response.Form .pong variant
  | methods : IntegerForm 1 variant → ListForm TextForm names content →
      Response.Form (.methods names) (variant ++ content)
  | result : IntegerForm 2 variant → OutcomeForm outcome content →
      Response.Form (.result outcome) (variant ++ content)

/-! The encoding of a value is its shortest form, and no other form is as short. -/

/-- The same bytes, or fewer of them. -/
def Saves (short long : Bytes) : Prop := short = long ∨ short.length < long.length

theorem saves_rfl (bytes : Bytes) : Saves bytes bytes := .inl rfl

theorem Saves.append {front back long rest : Bytes} (first : Saves front long)
    (second : Saves back rest) : Saves (front ++ back) (long ++ rest) := by
  rw [Saves, List.length_append, List.length_append]
  rcases first with rfl | first
  · rcases second with rfl | second
    · exact .inl rfl
    · exact .inr (Nat.add_lt_add_left second _)
  · rcases second with rfl | second
    · exact .inr (Nat.add_lt_add_right first _)
    · exact .inr (Nat.add_lt_add first second)

theorem encodeInteger_saves {number : Nat} {bytes : Bytes} (form : IntegerForm number bytes) :
    Saves (encodeInteger number) bytes := by
  unfold encodeInteger
  cases form with
  | one small =>
      rw [if_pos small]
      exact saves_rfl _
  | two bound =>
      split
      · exact .inr (by simp)
      · exact saves_rfl _
  | four bound =>
      split
      · exact .inr (by simp)
      · split
        · exact .inr (by simp)
        · exact saves_rfl _
  | eight bound =>
      split
      · exact .inr (by simp)
      · split
        · exact .inr (by simp)
        · split
          · exact .inr (by simp)
          · exact saves_rfl _

theorem encodeText_saves {text : String} {bytes : Bytes} (form : TextForm text bytes) :
    Saves (encodeText text) bytes := by
  cases form with
  | text length => exact (encodeInteger_saves length).append (saves_rfl _)

theorem flatMap_saves {encode : α → Bytes} {form : α → Bytes → Prop}
    (saves : ∀ value bytes, form value bytes → Saves (encode value) bytes) {items : List α}
    {bytes : Bytes} (forms : ItemsForm form items bytes) : Saves (items.flatMap encode) bytes := by
  induction forms with
  | nil => exact saves_rfl _
  | cons first rest ih =>
      rw [List.flatMap_cons]
      exact (saves _ _ first).append ih

theorem encodeList_saves {encode : α → Bytes} {form : α → Bytes → Prop}
    (saves : ∀ value bytes, form value bytes → Saves (encode value) bytes) {items : List α}
    {bytes : Bytes} (listed : ListForm form items bytes) :
    Saves (encodeList encode items) bytes := by
  cases listed with
  | list length content => exact (encodeInteger_saves length).append (flatMap_saves saves content)

theorem encodeOption_saves {encode : α → Bytes} {form : α → Bytes → Prop}
    (saves : ∀ value bytes, form value bytes → Saves (encode value) bytes) {value : Option α}
    {bytes : Bytes} (chosen : OptionForm form value bytes) :
    Saves (encodeOption encode value) bytes := by
  cases chosen with
  | none => exact saves_rfl _
  | some content => exact (saves_rfl [1]).append (saves _ _ content)

theorem encodeStub_saves {stub : Stub} {bytes : Bytes} (form : StubForm stub bytes) :
    Saves (encodeStub stub) bytes := by
  cases form with
  | stub transactionId channelId arguments =>
      rw [encodeStub, List.append_assoc]
      exact (encodeText_saves transactionId).append ((encodeText_saves channelId).append
        (encodeList_saves (fun _ _ form => encodeText_saves form) arguments))

theorem encodeByte_saves {byte : UInt8} {bytes : Bytes} (form : ByteForm byte bytes) :
    Saves [byte] bytes := by
  cases form with
  | raw => exact saves_rfl _

theorem encodePayload_saves {payload : Payload} {bytes : Bytes}
    (form : ListForm ByteForm payload bytes) : Saves (encodePayload payload) bytes :=
  encodeList_saves (fun _ _ single => encodeByte_saves single) form

theorem encodeOutcome_saves {outcome : Outcome} {bytes : Bytes} (form : OutcomeForm outcome bytes) :
    Saves (encodeOutcome outcome) bytes := by
  cases form with
  | success variant payload =>
      rw [encodeOutcome]
      exact (encodeInteger_saves variant).append
        (encodeOption_saves (fun _ _ form => encodePayload_saves form) payload)
  | failure variant message =>
      rw [encodeOutcome]
      exact (encodeInteger_saves variant).append (encodeText_saves message)

theorem Request.encode_saves {request : Request} {bytes : Bytes} (form : request.Form bytes) :
    Saves request.encode bytes := by
  cases form with
  | ping variant | methods variant =>
      rw [encode]
      exact encodeInteger_saves variant
  | start variant stub | invoke variant stub =>
      rw [encode]
      exact (encodeInteger_saves variant).append (encodeStub_saves stub)

theorem Response.encode_saves {response : Response} {bytes : Bytes} (form : response.Form bytes) :
    Saves response.encode bytes := by
  cases form with
  | pong variant =>
      rw [encode]
      exact encodeInteger_saves variant
  | methods variant names =>
      rw [encode]
      exact (encodeInteger_saves variant).append
        (encodeList_saves (fun _ _ form => encodeText_saves form) names)
  | result variant outcome =>
      rw [encode]
      exact (encodeInteger_saves variant).append (encodeOutcome_saves outcome)

end Chaincode.Wire
