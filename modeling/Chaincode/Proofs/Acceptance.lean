import Chaincode.Proofs.Forms

namespace Chaincode.Wire

/-! Decoders accept the forms of a value, and nothing else.

A decoder is exact for a relation between values and bytes when it succeeds just
on inputs that begin with related bytes.  Exactness is closed under what decoders
are built with.  Main statement: `messages_accepted`.
-/

namespace Decoder

def Exact (decoder : Decoder α) (form : α → Bytes → Prop) : Prop :=
  ∀ bytes value rest,
    decoder bytes = .ok (value, rest) ↔ ∃ front, bytes = front ++ rest ∧ form value front

/-- The bytes of a first value, and behind them those of a value that may depend on it. -/
def Joined (form : α → Bytes → Prop) (next : α → β → Bytes → Prop) (value : β) (bytes : Bytes) :
    Prop :=
  ∃ first front back, bytes = front ++ back ∧ form first front ∧ next first value back

variable {decoder : Decoder α} {form : α → Bytes → Prop}

theorem Exact.congr {other : α → Bytes → Prop} (exact : decoder.Exact form)
    (same : ∀ value bytes, form value bytes ↔ other value bytes) : decoder.Exact other := by
  intro bytes value rest
  simp only [exact bytes value rest, same]

theorem exact_pure (value : α) :
    (pure value).Exact fun found bytes => found = value ∧ bytes = [] := by
  intro bytes found rest
  constructor
  · intro read
    cases read
    exact ⟨[], rfl, rfl, rfl⟩
  · rintro ⟨front, rfl, rfl, rfl⟩
    rfl

theorem exact_fail (fault : Fault) : (fail fault : Decoder α).Exact fun _ _ => False := by
  intro bytes value rest
  constructor
  · intro read
    cases read
  · rintro ⟨front, _, impossible⟩
    exact impossible.elim

theorem Exact.ite {other : Decoder α} {otherForm : α → Bytes → Prop} (exact : decoder.Exact form)
    (condition : Prop) [Decidable condition] (otherwise : other.Exact otherForm) :
    (if condition then decoder else other).Exact fun value bytes =>
      if condition then form value bytes else otherForm value bytes := by
  by_cases holds : condition
  · simp only [if_pos holds]
    exact exact
  · simp only [if_neg holds]
    exact otherwise

theorem andThen_eq_ok {next : α → Decoder β} {bytes rest : Bytes} {value : β} :
    decoder.andThen next bytes = .ok (value, rest) ↔
      ∃ first left, decoder bytes = .ok (first, left) ∧ next first left = .ok (value, rest) := by
  rw [Decoder.andThen]
  constructor
  · intro read
    cases found : decoder bytes with
    | error fault =>
        rw [found] at read
        cases read
    | ok result =>
        rw [found] at read
        exact ⟨result.1, result.2, rfl, read⟩
  · rintro ⟨first, left, found, read⟩
    rw [found]
    exact read

theorem Exact.andThen {next : α → Decoder β} {nextForm : α → β → Bytes → Prop}
    (exact : decoder.Exact form) (nextExact : ∀ value, (next value).Exact (nextForm value)) :
    (decoder.andThen next).Exact (Joined form nextForm) := by
  intro bytes value rest
  rw [andThen_eq_ok]
  constructor
  · rintro ⟨first, left, read, later⟩
    obtain ⟨front, rfl, firstForm⟩ := (exact _ _ _).mp read
    obtain ⟨back, rfl, secondForm⟩ := (nextExact first _ _ _).mp later
    exact ⟨front ++ back, (List.append_assoc ..).symm, first, front, back, rfl, firstForm,
      secondForm⟩
  · rintro ⟨_, rfl, first, front, back, rfl, firstForm, secondForm⟩
    exact ⟨first, back ++ rest, (exact _ _ _).mpr ⟨front, List.append_assoc .., firstForm⟩,
      (nextExact first _ _ _).mpr ⟨back, rfl, secondForm⟩⟩

theorem Exact.map (exact : decoder.Exact form) (change : α → β) :
    (decoder.map change).Exact fun value bytes => ∃ first, value = change first ∧ form first bytes := by
  refine (exact.andThen fun first => exact_pure (change first)).congr fun value bytes => ?_
  constructor
  · rintro ⟨first, front, _, rfl, found, rfl, rfl⟩
    exact ⟨first, rfl, by rwa [List.append_nil]⟩
  · rintro ⟨first, rfl, found⟩
    exact ⟨first, bytes, [], (List.append_nil bytes).symm, found, rfl, rfl⟩

theorem exact_byte : byte.Exact ByteForm := by
  intro bytes value rest
  constructor
  · intro read
    cases bytes with
    | nil => cases read
    | cons first others =>
        cases read
        exact ⟨[value], rfl, .raw⟩
  · rintro ⟨_, rfl, single⟩
    cases single
    rfl

theorem exact_take (count : Nat) (fault : Fault) :
    (take count fault).Exact fun value bytes => value = bytes ∧ bytes.length = count := by
  intro bytes value rest
  rw [take]
  constructor
  · intro read
    split at read
    · next enough =>
      cases read
      exact ⟨bytes.take count, (List.take_append_drop count bytes).symm, rfl,
        List.length_take_of_le enough⟩
    · cases read
  · rintro ⟨front, rfl, rfl, rfl⟩
    have enough : value.length ≤ (value ++ rest).length := by simp
    rw [if_pos enough, List.take_left, List.drop_left]

theorem exact_times (exact : decoder.Exact form) (count : Nat) :
    (times decoder count).Exact fun items bytes =>
      items.length = count ∧ ItemsForm form items bytes := by
  induction count with
  | zero =>
      refine (exact_pure []).congr fun items bytes => ?_
      constructor
      · rintro ⟨rfl, rfl⟩
        exact ⟨rfl, .nil⟩
      · rintro ⟨empty, items⟩
        cases items with
        | nil => exact ⟨rfl, rfl⟩
        | cons => cases empty
  | succ count ih =>
      refine (exact.andThen fun first => ih.map (first :: ·)).congr fun items bytes => ?_
      constructor
      · rintro ⟨first, front, back, rfl, found, rest, rfl, counted, forms⟩
        exact ⟨congrArg (· + 1) counted, .cons found forms⟩
      · rintro ⟨counted, items⟩
        cases items with
        | nil => cases counted
        | cons found forms =>
            exact ⟨_, _, _, rfl, found, _, rfl, Nat.succ.inj counted, forms⟩

end Decoder

open Decoder

theorem exact_word (width : Nat) :
    (decodeWord width).Exact fun number bytes =>
      number < 256 ^ width ∧ bytes = Bytes.littleEndian width number := by
  refine ((exact_take width _).map _).congr fun number bytes => ?_
  constructor
  · rintro ⟨word, rfl, rfl, rfl⟩
    exact ⟨Bytes.ofLittleEndian_lt word, (Bytes.littleEndian_ofLittleEndian word).symm⟩
  · rintro ⟨bound, rfl⟩
    refine ⟨_, ?_, rfl, Bytes.littleEndian_length width number⟩
    rw [Bytes.ofLittleEndian_littleEndian, Nat.mod_eq_of_lt bound]

theorem exact_integer : decodeInteger.Exact IntegerForm := by
  have exact := exact_byte.andThen fun first =>
    (exact_pure first.toNat).ite (first < 251) <|
      (exact_word 2).ite (first = 251) <|
        (exact_word 4).ite (first = 252) <|
          (exact_word 8).ite (first = 253) <|
            (exact_fail .wideInteger).ite (first = 254) (exact_fail .extensionByte)
  refine exact.congr fun number bytes => ?_
  constructor
  · rintro ⟨first, _, back, rfl, single, rest⟩
    cases single
    split at rest
    · next small =>
      obtain ⟨rfl, rfl⟩ := rest
      have one := IntegerForm.one (UInt8.lt_iff_toNat_lt.mp small)
      rw [UInt8.ofNat_toNat] at one
      exact one
    split at rest
    · next marker =>
      obtain ⟨bound, rfl⟩ := rest
      exact marker ▸ .two bound
    split at rest
    · next marker =>
      obtain ⟨bound, rfl⟩ := rest
      exact marker ▸ .four bound
    split at rest
    · next marker =>
      obtain ⟨bound, rfl⟩ := rest
      exact marker ▸ .eight bound
    split at rest
    · exact rest.elim
    · exact rest.elim
  · intro form
    cases form with
    | one small =>
        have same : (UInt8.ofNat number).toNat = number := by
          rw [UInt8.toNat_ofNat']
          omega
        have below : UInt8.ofNat number < 251 := by
          rw [UInt8.lt_iff_toNat_lt, same]
          exact small
        refine ⟨UInt8.ofNat number, _, [], (List.append_nil _).symm, .raw, ?_⟩
        exact (if_pos below).mpr ⟨same.symm, rfl⟩
    | two bound => exact ⟨251, _, _, rfl, .raw, bound, rfl⟩
    | four bound => exact ⟨252, _, _, rfl, .raw, bound, rfl⟩
    | eight bound => exact ⟨253, _, _, rfl, .raw, bound, rfl⟩

theorem exact_variant {count : Nat} (few : count ≤ UInt32.size) :
    (decodeVariant count).Exact fun number bytes => number < count ∧ IntegerForm number bytes := by
  have exact := exact_integer.andThen fun found =>
    (exact_fail (.wideVariant found)).ite (UInt32.size ≤ found) <|
      (exact_fail (.unknownVariant found count)).ite (count ≤ found) (exact_pure found)
  refine exact.congr fun number bytes => ?_
  constructor
  · rintro ⟨found, front, back, rfl, form, rest⟩
    split at rest
    · exact rest.elim
    split at rest
    · exact rest.elim
    · next known =>
      obtain ⟨rfl, rfl⟩ := rest
      rw [List.append_nil]
      exact ⟨Nat.not_le.mp known, form⟩
  · rintro ⟨known, form⟩
    have narrow : ¬ UInt32.size ≤ number := Nat.not_le.mpr (Nat.lt_of_lt_of_le known few)
    refine ⟨number, bytes, [], (List.append_nil bytes).symm, form, ?_⟩
    exact (if_neg narrow).mpr ((if_neg (Nat.not_le.mpr known)).mpr ⟨rfl, rfl⟩)

theorem exact_utf8 (content : Bytes) :
    (match Text.Utf8.decode content with
      | .ok text => Decoder.pure text
      | .error error => Decoder.fail (.invalidText error)).Exact fun text bytes =>
        content = Text.Utf8.encode text ∧ bytes = [] := by
  cases decoded : Text.Utf8.decode content with
  | error fault =>
      refine (exact_fail _).congr fun text bytes => ?_
      constructor
      · exact False.elim
      · rintro ⟨valid, _⟩
        rw [Text.Utf8.decode_eq_ok_iff.mpr valid] at decoded
        cases decoded
  | ok text =>
      refine (exact_pure text).congr fun other bytes => ?_
      rw [← Text.Utf8.decode_eq_ok_iff, decoded, Except.ok.injEq, eq_comm]

theorem exact_text : decodeText.Exact TextForm := by
  have exact := exact_integer.andThen fun length =>
    (exact_take length .shortText).andThen exact_utf8
  refine exact.congr fun text bytes => ?_
  constructor
  · rintro ⟨_, length, _, rfl, announced, _, content, _, rfl, ⟨rfl, rfl⟩, rfl, rfl⟩
    rw [List.append_nil]
    exact .text announced
  · intro form
    cases form with
    | text announced =>
        exact ⟨_, _, _, rfl, announced, _, _, [], (List.append_nil _).symm, ⟨rfl, rfl⟩, rfl, rfl⟩

theorem exact_list {item : Decoder α} {form : α → Bytes → Prop} (exact : item.Exact form) :
    (decodeList item).Exact (ListForm form) := by
  refine (exact_integer.andThen (exact_times exact)).congr fun items bytes => ?_
  constructor
  · rintro ⟨_, length, content, rfl, announced, rfl, forms⟩
    exact .list announced forms
  · intro listed
    cases listed with
    | list announced forms => exact ⟨_, _, _, rfl, announced, rfl, forms⟩

theorem exact_option {item : Decoder α} {form : α → Bytes → Prop} (exact : item.Exact form) :
    (decodeOption item).Exact (OptionForm form) := by
  have chosen := exact_byte.andThen fun tag =>
    (exact_pure none).ite (tag = 0) <|
      (exact.map some).ite (tag = 1) (exact_fail (.invalidOption tag.toNat))
  refine chosen.congr fun value bytes => ?_
  constructor
  · rintro ⟨tag, _, content, rfl, single, rest⟩
    cases single
    split at rest
    · next absent =>
      obtain ⟨rfl, rfl⟩ := rest
      exact absent ▸ .none
    split at rest
    · next present =>
      obtain ⟨first, rfl, found⟩ := rest
      exact present ▸ .some found
    · exact rest.elim
  · intro option
    cases option with
    | none => exact ⟨0, _, [], rfl, .raw, rfl, rfl⟩
    | some found => exact ⟨1, _, _, rfl, .raw, _, rfl, found⟩

theorem exact_stub : decodeStub.Exact StubForm := by
  have exact := exact_text.andThen fun transactionId =>
    exact_text.andThen fun channelId =>
      (exact_list exact_text).map fun arguments => (⟨transactionId, channelId, arguments⟩ : Stub)
  refine exact.congr fun stub bytes => ?_
  constructor
  · rintro ⟨transactionId, front, _, rfl, first, channelId, middle, back, rfl, second, arguments, rfl,
      third⟩
    exact .stub first second third
  · intro form
    cases form with
    | stub first second third => exact ⟨_, _, _, rfl, first, _, _, _, rfl, second, _, rfl, third⟩

theorem andThen_variant_eq_ok {count : Nat} (few : count ≤ UInt32.size) {next : Nat → Decoder α}
    {bytes rest : Bytes} {value : α} :
    (decodeVariant count).andThen next bytes = .ok (value, rest) ↔
      ∃ number < count, ∃ variant left, bytes = variant ++ left ∧ IntegerForm number variant ∧
        next number left = .ok (value, rest) := by
  rw [andThen_eq_ok]
  constructor
  · rintro ⟨number, left, read, content⟩
    obtain ⟨variant, rfl, known, form⟩ := (exact_variant few _ _ _).mp read
    exact ⟨number, known, variant, left, rfl, form, content⟩
  · rintro ⟨number, known, variant, left, rfl, form, content⟩
    exact ⟨number, left, (exact_variant few _ _ _).mpr ⟨variant, rfl, known, form⟩, content⟩

theorem exact_success :
    ((decodeOption decodePayload).map Outcome.success).Exact fun outcome bytes =>
      ∃ payload, outcome = .success payload ∧ OptionForm (ListForm ByteForm) payload bytes :=
  (exact_option (exact_list exact_byte)).map Outcome.success

theorem exact_outcome : decodeOutcome.Exact OutcomeForm := by
  intro bytes outcome rest
  rw [decodeOutcome, andThen_variant_eq_ok (by decide)]
  constructor
  · rintro ⟨number, known, variant, left, rfl, form, content⟩
    match number, known with
    | 0, _ =>
        obtain ⟨back, rfl, payload, rfl, found⟩ := (exact_success _ _ _).mp content
        exact ⟨variant ++ back, (List.append_assoc ..).symm, .success form found⟩
    | 1, _ =>
        obtain ⟨back, rfl, message, rfl, found⟩ := (exact_text.map _ _ _ _).mp content
        exact ⟨variant ++ back, (List.append_assoc ..).symm, .failure form found⟩
  · rintro ⟨_, rfl, form⟩
    cases form with
    | success form found =>
        have content := (exact_success _ _ rest).mpr ⟨_, rfl, _, rfl, found⟩
        exact ⟨0, by decide, _, _, List.append_assoc .., form, content⟩
    | failure form found =>
        have content := (exact_text.map Outcome.failure _ _ rest).mpr ⟨_, rfl, _, rfl, found⟩
        exact ⟨1, by decide, _, _, List.append_assoc .., form, content⟩

theorem Request.exact_decode : Request.decode.Exact Request.Form := by
  intro bytes request rest
  rw [Request.decode_eq, decodeRequest, andThen_variant_eq_ok (by decide)]
  constructor
  · rintro ⟨number, known, variant, left, rfl, form, content⟩
    match number, known with
    | 0, _ =>
        cases content
        exact ⟨variant, rfl, .ping form⟩
    | 1, _ =>
        cases content
        exact ⟨variant, rfl, .methods form⟩
    | 2, _ =>
        obtain ⟨back, rfl, stub, rfl, found⟩ := (exact_stub.map _ _ _ _).mp content
        exact ⟨variant ++ back, (List.append_assoc ..).symm, .start form found⟩
    | 3, _ =>
        obtain ⟨back, rfl, stub, rfl, found⟩ := (exact_stub.map _ _ _ _).mp content
        exact ⟨variant ++ back, (List.append_assoc ..).symm, .invoke form found⟩
  · rintro ⟨_, rfl, form⟩
    cases form with
    | ping form => exact ⟨0, by decide, _, rest, rfl, form, rfl⟩
    | methods form => exact ⟨1, by decide, _, rest, rfl, form, rfl⟩
    | start form found =>
        have content := (exact_stub.map Request.start _ _ rest).mpr ⟨_, rfl, _, rfl, found⟩
        exact ⟨2, by decide, _, _, List.append_assoc .., form, content⟩
    | invoke form found =>
        have content := (exact_stub.map Request.invoke _ _ rest).mpr ⟨_, rfl, _, rfl, found⟩
        exact ⟨3, by decide, _, _, List.append_assoc .., form, content⟩

theorem Response.exact_decode : Response.decode.Exact Response.Form := by
  intro bytes response rest
  rw [Response.decode_eq, decodeResponse, andThen_variant_eq_ok (by decide)]
  constructor
  · rintro ⟨number, known, variant, left, rfl, form, content⟩
    match number, known with
    | 0, _ =>
        cases content
        exact ⟨variant, rfl, .pong form⟩
    | 1, _ =>
        obtain ⟨back, rfl, names, rfl, found⟩ := ((exact_list exact_text).map _ _ _ _).mp content
        exact ⟨variant ++ back, (List.append_assoc ..).symm, .methods form found⟩
    | 2, _ =>
        obtain ⟨back, rfl, outcome, rfl, found⟩ := (exact_outcome.map _ _ _ _).mp content
        exact ⟨variant ++ back, (List.append_assoc ..).symm, .result form found⟩
  · rintro ⟨_, rfl, form⟩
    cases form with
    | pong form => exact ⟨0, by decide, _, rest, rfl, form, rfl⟩
    | methods form found =>
        have content := ((exact_list exact_text).map Response.methods _ _ rest).mpr
          ⟨_, rfl, _, rfl, found⟩
        exact ⟨1, by decide, _, _, List.append_assoc .., form, content⟩
    | result form found =>
        have content := (exact_outcome.map Response.result _ _ rest).mpr ⟨_, rfl, _, rfl, found⟩
        exact ⟨2, by decide, _, _, List.append_assoc .., form, content⟩

/-- The decoder takes the first `count` bytes of its input as the value. -/
def Decoder.Takes (decoder : Decoder α) (bytes : Bytes) (value : α) (count : Nat) : Prop :=
  count ≤ bytes.length ∧ decoder bytes = .ok (value, bytes.drop count)

/-- Accepted are the inputs that begin with a form of a value, whatever comes behind it. -/
structure Accepts (decode : Decoder α) (encode : α → Bytes) (form : α → Bytes → Prop) : Prop where
  /-- A decoder that succeeds leaves an end of its input. -/
  takes : ∀ bytes value rest, decode bytes = .ok (value, rest) →
    ∃ count, decode.Takes bytes value count ∧ rest = bytes.drop count
  exact : ∀ bytes value count,
    decode.Takes bytes value count ↔ count ≤ bytes.length ∧ form value (bytes.take count)
  trailing : ∀ bytes value count, decode.Takes bytes value count →
    ∀ others, decode.Takes (bytes.take count ++ others) value count
  minimal : ∀ bytes value count, decode.Takes bytes value count →
    ∀ fewer < count, ∃ fault, decode (bytes.take fewer) = .error fault
  shortest : ∀ bytes value count, decode.Takes bytes value count →
    (encode value).length ≤ count ∧
      ((encode value).length = count ↔ bytes.take count = encode value)

theorem Decoder.Exact.takes_iff {decode : Decoder α} {form : α → Bytes → Prop}
    (exact : decode.Exact form) {bytes : Bytes} {value : α} {count : Nat} :
    decode.Takes bytes value count ↔ count ≤ bytes.length ∧ form value (bytes.take count) := by
  refine and_congr_right fun enough => ?_
  rw [exact]
  constructor
  · rintro ⟨front, whole, found⟩
    have same : bytes.take count ++ bytes.drop count = front ++ bytes.drop count := by
      rw [List.take_append_drop]
      exact whole
    exact List.append_cancel_right same ▸ found
  · intro found
    exact ⟨bytes.take count, (List.take_append_drop count bytes).symm, found⟩

theorem accepts {decode : Decoder α} {encode : α → Bytes} {form : α → Bytes → Prop}
    (exact : decode.Exact form)
    (saves : ∀ value bytes, form value bytes → Saves (encode value) bytes) :
    Accepts decode encode form where
  takes bytes value rest read := by
    obtain ⟨front, rfl, found⟩ := (exact _ _ _).mp read
    refine ⟨front.length, ⟨?_, ?_⟩, List.drop_left.symm⟩
    · simp
    · rw [read, List.drop_left]
  exact _ _ _ := exact.takes_iff
  trailing bytes value count taken others := by
    obtain ⟨enough, found⟩ := exact.takes_iff.mp taken
    have size : (bytes.take count).length = count := List.length_take_of_le enough
    refine exact.takes_iff.mpr ⟨?_, ?_⟩
    · rw [List.length_append, size]
      exact Nat.le_add_right _ _
    · rwa [List.take_left' size]
  minimal bytes value count taken fewer less := by
    cases read : decode (bytes.take fewer) with
    | error fault => exact ⟨fault, rfl⟩
    | ok result =>
        -- What is read from fewer bytes would be read from all of them, with more left.
        obtain ⟨other, rest⟩ := result
        obtain ⟨enough, whole⟩ := taken
        obtain ⟨front, equal, found⟩ := (exact _ _ _).mp read
        have again := (exact bytes other (rest ++ bytes.drop fewer)).mpr
          ⟨front, by rw [← List.append_assoc, ← equal, List.take_append_drop], found⟩
        rw [whole, Except.ok.injEq, Prod.mk.injEq] at again
        have left := congrArg List.length again.2
        rw [List.length_append, List.length_drop, List.length_drop] at left
        omega
  shortest bytes value count taken := by
    obtain ⟨enough, found⟩ := exact.takes_iff.mp taken
    have size : (bytes.take count).length = count := List.length_take_of_le enough
    rcases saves _ _ found with same | fewer
    · rw [same, size]
      exact ⟨Nat.le_refl count, iff_of_true rfl rfl⟩
    · rw [size] at fewer
      refine ⟨Nat.le_of_lt fewer, iff_of_false (Nat.ne_of_lt fewer) fun same => ?_⟩
      rw [← same, size] at fewer
      exact Nat.lt_irrefl count fewer

/-- The decoders of requests and responses succeed just on inputs that begin with a form of a value,
take that form and nothing behind it, and fail on every proper beginning of it.  The encoding of
the value is not longer, and as long only when it is what was taken. -/
theorem messages_accepted :
    Accepts Request.decode Request.encode Request.Form ∧
      Accepts Response.decode Response.encode Response.Form :=
  ⟨accepts Request.exact_decode fun _ _ => Request.encode_saves,
    accepts Response.exact_decode fun _ _ => Response.encode_saves⟩

/-- A variant number in two bytes more than it needs, and a byte behind the request. -/
theorem wide_ping_accepted :
    Request.decode.Takes [251, 0, 0, 9] .ping 3 ∧ Request.ping.encode.length < 3 := by
  have form : Request.ping.Form [251, 0, 0] := .ping (.two (by decide))
  have taken := (messages_accepted.1.exact [251, 0, 0, 9] .ping 3).mpr ⟨by decide, form⟩
  have differs : ¬ Request.ping.encode.length = 3 := by decide
  exact ⟨taken, Nat.lt_of_le_of_ne (messages_accepted.1.shortest _ _ _ taken).1 differs⟩

end Chaincode.Wire
