import Chaincode.Wire.Message

namespace Chaincode.Wire

/-! What metered decoders read, and the account that they keep.

Without its account a metered decoder is a plain one, which goes on with the bytes behind
each value; this is the form to prove things about.  The account is bounded by the body,
whatever lengths this announces.  Main statements: `meters_request`, `meters_response`,
`Request.decode_eq`, `Response.decode_eq`.
-/

namespace Decoder

def pure (value : α) : Decoder α := fun bytes => .ok (value, bytes)

def fail (fault : Fault) : Decoder α := fun _ => .error fault

/-- Reads a value and goes on behind it. -/
def andThen (decoder : Decoder α) (next : α → Decoder β) : Decoder β := fun bytes =>
  match decoder bytes with
  | .error fault => .error fault
  | .ok (value, rest) => next value rest

def map (change : α → β) (decoder : Decoder α) : Decoder β :=
  decoder.andThen fun value => pure (change value)

def byte : Decoder UInt8
  | [] => .error .endOfInput
  | byte :: rest => .ok (byte, rest)

/-- Exactly `count` bytes; `fault` when there are fewer. -/
def take (count : Nat) (fault : Fault) : Decoder Bytes := fun bytes =>
  if count ≤ bytes.length then .ok (bytes.take count, bytes.drop count) else .error fault

/-- The same item `count` times. -/
def times (item : Decoder α) : Nat → Decoder (List α)
  | 0 => pure []
  | count + 1 => item.andThen fun first => (times item count).map (first :: ·)

end Decoder

/-- A number of `width` bytes. -/
def decodeWord (width : Nat) : Decoder Nat :=
  (Decoder.take width .endOfInput).map Bytes.ofLittleEndian

def decodeInteger : Decoder Nat :=
  Decoder.byte.andThen fun first =>
    if first < 251 then Decoder.pure first.toNat
    else if first = 251 then decodeWord 2
    else if first = 252 then decodeWord 4
    else if first = 253 then decodeWord 8
    else if first = 254 then Decoder.fail .wideInteger
    else Decoder.fail .extensionByte

/-- The number of a variant, one of `count`. -/
def decodeVariant (count : Nat) : Decoder Nat :=
  decodeInteger.andThen fun found =>
    if UInt32.size ≤ found then Decoder.fail (.wideVariant found)
    else if count ≤ found then Decoder.fail (.unknownVariant found count)
    else Decoder.pure found

def decodeText : Decoder String :=
  decodeInteger.andThen fun length =>
    (Decoder.take length .shortText).andThen fun bytes =>
      match Text.Utf8.decode bytes with
      | .ok text => Decoder.pure text
      | .error error => Decoder.fail (.invalidText error)

def decodeList (item : Decoder α) : Decoder (List α) :=
  decodeInteger.andThen (Decoder.times item)

def decodeOption (item : Decoder α) : Decoder (Option α) :=
  Decoder.byte.andThen fun tag =>
    if tag = 0 then Decoder.pure none
    else if tag = 1 then item.map some
    else Decoder.fail (.invalidOption tag.toNat)

def decodeStub : Decoder Stub :=
  decodeText.andThen fun transactionId =>
    decodeText.andThen fun channelId =>
      (decodeList decodeText).map fun arguments => { transactionId, channelId, arguments }

def decodePayload : Decoder Payload := decodeList Decoder.byte

def decodeOutcome : Decoder Outcome :=
  (decodeVariant 2).andThen fun
    | 0 => (decodeOption decodePayload).map .success
    | _ => decodeText.map .failure

def decodeRequest : Decoder Request :=
  (decodeVariant 4).andThen fun
    | 0 => Decoder.pure .ping
    | 1 => Decoder.pure .methods
    | 2 => decodeStub.map .start
    | _ => decodeStub.map .invoke

def decodeResponse : Decoder Response :=
  (decodeVariant 3).andThen fun
    | 0 => Decoder.pure .pong
    | 1 => (decodeList decodeText).map .methods
    | _ => decodeOutcome.map .result

namespace Metered

/-! The account of a decoder, and the bounds that it keeps. -/

/-- The account of a run from a position of a body of `size` bytes: it stays inside, and reads at
least `spare` bytes more than it begins elements; when it fails, one of these may be missing. -/
structure Within (size position spare : Nat) (account : Account α) : Prop where
  positions : ∀ place ∈ account.positions, place ≤ size
  found : ∀ value behind, account.result = .ok (value, behind) →
    position + account.elements + spare ≤ behind ∧ behind ≤ size
  failed : ∀ fault, account.result = .error fault →
    position + account.elements + spare ≤ size + 1

structure Meters (metered : Metered α) (decoder : Decoder α) (spare : Nat) : Prop where
  erases : ∀ body position,
    (metered body position).result.map (fun found => (found.1, body.drop found.2)) =
      decoder (body.drop position)
  within : ∀ body position, position ≤ body.length →
    Within body.length position spare (metered body position)

variable {metered : Metered α} {decoder : Decoder α} {spare : Nat}

theorem Meters.cases (meters : metered.Meters decoder spare) (body : Bytes) (position : Nat) :
    (∃ fault, (metered body position).result = .error fault ∧
      decoder (body.drop position) = .error fault) ∨
    ∃ value behind, (metered body position).result = .ok (value, behind) ∧
      decoder (body.drop position) = .ok (value, body.drop behind) := by
  have same := meters.erases body position
  cases found : (metered body position).result with
  | error fault =>
      rw [found] at same
      exact .inl ⟨fault, rfl, same.symm⟩
  | ok pair =>
      rw [found] at same
      exact .inr ⟨pair.1, pair.2, rfl, same.symm⟩

theorem andThen_error {next : α → Metered β} {body : Bytes} {position : Nat} {fault : Fault}
    (found : (metered body position).result = .error fault) :
    metered.andThen next body position =
      ⟨(metered body position).elements, (metered body position).positions, .error fault⟩ := by
  simp only [andThen, found]

theorem andThen_ok {next : α → Metered β} {body : Bytes} {position behind : Nat} {value : α}
    (found : (metered body position).result = .ok (value, behind)) :
    metered.andThen next body position =
      ⟨(metered body position).elements + (next value body behind).elements,
        (metered body position).positions ++ (next value body behind).positions,
        (next value body behind).result⟩ := by
  simp only [andThen, found]

theorem Within.weaken {size position : Nat} {account : Account α}
    (within : Within size position spare account) : Within size position 0 account where
  positions := within.positions
  found value behind done := by
    have spent := within.found value behind done
    omega
  failed fault done := by
    have spent := within.failed fault done
    omega

theorem Meters.weaken (meters : metered.Meters decoder spare) : metered.Meters decoder 0 :=
  ⟨meters.erases, fun body position inside => (meters.within body position inside).weaken⟩

/-- Nothing is read. -/
theorem within_failed {size position : Nat} (inside : position ≤ size) (fault : Fault) :
    Within size position 1 ({ result := .error fault } : Account α) where
  positions _ absent := (List.not_mem_nil absent).elim
  found _ _ done := by cases done
  failed _ _ := Nat.succ_le_succ inside

/-- Some bytes are read, and no elements. -/
theorem within_moved {size position count : Nat} (inside : position + count ≤ size) (value : α) :
    Within size position count
      { positions := [position + count], result := .ok (value, position + count) } where
  positions place member := by
    rw [List.mem_singleton.mp member]
    exact inside
  found _ _ done := by
    cases done
    exact ⟨Nat.le_refl _, inside⟩
  failed _ done := by cases done

theorem meters_pure (value : α) : (pure value).Meters (Decoder.pure value) 0 where
  erases _ _ := rfl
  within body position inside := by
    refine ⟨fun _ absent => (List.not_mem_nil absent).elim, fun _ _ done => ?_, fun _ done => ?_⟩
    · cases done
      exact ⟨Nat.le_refl _, inside⟩
    · cases done

theorem meters_fail (fault : Fault) : (fail fault : Metered α).Meters (Decoder.fail fault) 0 where
  erases _ _ := rfl
  within _ _ inside := (within_failed inside fault).weaken

theorem Meters.andThen {next : α → Metered β} {nextDecoder : α → Decoder β}
    (meters : metered.Meters decoder spare)
    (later : ∀ value, (next value).Meters (nextDecoder value) 0) :
    (metered.andThen next).Meters (decoder.andThen nextDecoder) spare where
  erases body position := by
    rcases meters.cases body position with ⟨fault, found, read⟩ | ⟨value, behind, found, read⟩
    · rw [andThen_error found, Decoder.andThen, read]
      rfl
    · rw [andThen_ok found, Decoder.andThen, read]
      exact (later value).erases body behind
  within body position inside := by
    have first := meters.within body position inside
    cases done : (metered body position).result with
    | error fault =>
        rw [andThen_error done]
        exact ⟨first.positions, fun _ _ other => (by cases other),
          fun _ _ => first.failed fault done⟩
    | ok pair =>
        obtain ⟨value, middle⟩ := pair
        obtain ⟨spent, short⟩ := first.found value middle done
        have second := (later value).within body middle short
        rw [andThen_ok done]
        refine ⟨fun place member => ?_, fun last behind ended => ?_, fun fault ended => ?_⟩
        · rcases List.mem_append.mp member with early | late
          · exact first.positions place early
          · exact second.positions place late
        · have both := second.found last behind ended
          dsimp only at both ⊢
          omega
        · have both := second.failed fault ended
          dsimp only at both ⊢
          omega

theorem Meters.map (meters : metered.Meters decoder spare) (change : α → β) :
    (metered.map change).Meters (decoder.map change) spare :=
  meters.andThen fun value => meters_pure (change value)

theorem Meters.ite {condition : Prop} [Decidable condition] {other : Metered α}
    {otherDecoder : Decoder α} (meters : metered.Meters decoder spare)
    (otherwise : other.Meters otherDecoder spare) :
    (if condition then metered else other).Meters
      (if condition then decoder else otherDecoder) spare := by
  split
  · exact meters
  · exact otherwise

theorem meters_byte : byte.Meters Decoder.byte 1 where
  erases body position := by
    cases read : body[position]? with
    | none =>
        have spent := List.drop_eq_nil_of_le (List.getElem?_eq_none_iff.mp read)
        simp only [byte, read, spent]
        rfl
    | some first =>
        obtain ⟨inside, rfl⟩ := List.getElem?_eq_some_iff.mp read
        simp only [byte, read]
        rw [List.drop_eq_getElem_cons inside]
        rfl
  within body position inside := by
    cases read : body[position]? with
    | none =>
        simp only [byte, read]
        exact within_failed inside _
    | some first =>
        simp only [byte, read]
        exact within_moved (List.getElem?_eq_some_iff.mp read).1 first

theorem meters_take (count : Nat) (fault : Fault) :
    (take count fault).Meters (Decoder.take count fault) 0 where
  erases body position := by
    rw [take, Decoder.take, List.length_drop]
    split
    · rw [List.drop_drop]
      rfl
    · rfl
  within body position inside := by
    rw [take]
    split
    next enough => exact (within_moved (by omega) _).weaken
    next => exact (within_failed inside fault).weaken

/-- The byte that an element takes pays for beginning it. -/
theorem Meters.element (meters : metered.Meters decoder 1) : metered.element.Meters decoder 0 where
  erases := meters.erases
  within body position inside := by
    have item := meters.within body position inside
    refine ⟨item.positions, fun value behind done => ?_, fun fault done => ?_⟩
    · have spent := item.found value behind done
      dsimp only [Metered.element]
      omega
    · have spent := item.failed fault done
      dsimp only [Metered.element]
      omega

theorem Meters.times (meters : metered.Meters decoder 1) (count : Nat) :
    (metered.times count).Meters (Decoder.times decoder count) 0 := by
  induction count with
  | zero => exact meters_pure []
  | succ count ih => exact meters.element.andThen fun first => ih.map (first :: ·)

theorem meters_word (width : Nat) : (word width).Meters (decodeWord width) 0 :=
  (meters_take width _).map _

theorem meters_integer : integer.Meters decodeInteger 1 :=
  meters_byte.andThen fun first =>
    (meters_pure first.toNat).ite <| (meters_word 2).ite <| (meters_word 4).ite <|
      (meters_word 8).ite <| (meters_fail .wideInteger).ite (meters_fail .extensionByte)

theorem meters_variant (count : Nat) : (variant count).Meters (decodeVariant count) 1 :=
  meters_integer.andThen fun found =>
    (meters_fail (.wideVariant found)).ite <|
      (meters_fail (.unknownVariant found count)).ite (meters_pure found)

theorem meters_text : text.Meters decodeText 1 := by
  refine meters_integer.andThen fun length => (meters_take length _).andThen fun bytes => ?_
  cases Text.Utf8.decode bytes with
  | ok content => exact meters_pure content
  | error fault => exact meters_fail (.invalidText fault)

theorem Meters.list (meters : metered.Meters decoder 1) :
    metered.list.Meters (decodeList decoder) 1 :=
  meters_integer.andThen meters.times

theorem Meters.option (meters : metered.Meters decoder spare) :
    metered.option.Meters (decodeOption decoder) 1 :=
  meters_byte.andThen fun tag =>
    (meters_pure none).ite <| (meters.map some).weaken.ite (meters_fail (.invalidOption tag.toNat))

theorem meters_stub : stub.Meters decodeStub 1 :=
  meters_text.andThen fun _ =>
    (meters_text.andThen fun _ => (meters_text.list.map _).weaken).weaken

theorem meters_outcome : outcome.Meters decodeOutcome 1 := by
  refine (meters_variant 2).andThen fun number => ?_
  match number with
  | 0 => exact (meters_byte.list.option.map _).weaken
  | _ + 1 => exact (meters_text.map _).weaken

theorem meters_request : request.Meters decodeRequest 1 := by
  refine (meters_variant 4).andThen fun number => ?_
  match number with
  | 0 => exact meters_pure _
  | 1 => exact meters_pure _
  | 2 => exact (meters_stub.map _).weaken
  | _ + 3 => exact (meters_stub.map _).weaken

theorem meters_response : response.Meters decodeResponse 1 := by
  refine (meters_variant 3).andThen fun number => ?_
  match number with
  | 0 => exact meters_pure _
  | 1 => exact (meters_text.list.map _).weaken
  | _ + 2 => exact (meters_outcome.map _).weaken

theorem Meters.decoder_eq (meters : metered.Meters decoder spare) : metered.decoder = decoder :=
  funext fun body => meters.erases body 0

end Metered

theorem Request.decode_eq : Request.decode = decodeRequest := Metered.meters_request.decoder_eq

theorem Response.decode_eq : Response.decode = decodeResponse :=
  Metered.meters_response.decoder_eq

end Chaincode.Wire
