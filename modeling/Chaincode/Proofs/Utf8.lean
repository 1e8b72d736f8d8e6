import Chaincode.Text.Utf8

namespace Chaincode.Text.Utf8

/-! Texts read back from their bytes.

Main statements: `decode_encode`, and `decode_eq_ok_iff`, that nothing else is read.  The four
widths of a character are treated apart: bytes of one shape are read as one character, the encoding
of a character has that shape, and the character that is read has these bytes as its encoding.
-/

theorem between_iff {low byte high : UInt8} :
    (low ≤ byte && byte < high) = true ↔ low.toNat ≤ byte.toNat ∧ byte.toNat < high.toNat := by
  rw [Bool.and_eq_true, decide_eq_true_eq, decide_eq_true_eq, UInt8.le_iff_toNat_le,
    UInt8.lt_iff_toNat_lt]

theorem not_between {low byte high : UInt8} (above : high.toNat ≤ byte.toNat) :
    ¬ (low ≤ byte && byte < high) = true := by
  rw [between_iff]
  omega

theorem not_ascii {byte : UInt8} (above : 0x80 ≤ byte.toNat) : ¬ byte < 0x80 := by
  rw [UInt8.lt_iff_toNat_lt]
  exact Nat.not_lt.mpr above

theorem decodeFrom_one {index : Nat} {first : UInt8} {rest : Bytes} (lead : first.toNat < 0x80) :
    decodeFrom index (first :: rest) =
      (decodeFrom (index + 1) rest).map (Char.ofNat first.toNat :: ·) := by
  rw [decodeFrom.eq_def]
  exact if_pos (UInt8.lt_iff_toNat_lt.mpr lead)

theorem decodeFrom_two {index : Nat} {first second : UInt8} {rest : Bytes}
    (lower : 0xc2 ≤ first.toNat) (upper : first.toNat < 0xe0)
    (follows : isContinuation second = true) :
    decodeFrom index (first :: second :: rest) =
      (decodeFrom (index + 2) rest).map (charOfTwo first second :: ·) := by
  have ascii : ¬ first < 0x80 := not_ascii (by omega)
  have lead : (0xc2 ≤ first && first < 0xe0) = true := between_iff.mpr ⟨lower, upper⟩
  rw [decodeFrom.eq_def]
  exact (if_neg ascii).trans ((if_pos lead).trans (if_pos follows))

theorem decodeFrom_three {index : Nat} {first second third : UInt8} {rest : Bytes}
    (lower : 0xe0 ≤ first.toNat) (upper : first.toNat < 0xf0)
    (follows : followsThree first second = true) (last : isContinuation third = true) :
    decodeFrom index (first :: second :: third :: rest) =
      (decodeFrom (index + 3) rest).map (charOfThree first second third :: ·) := by
  have ascii : ¬ first < 0x80 := not_ascii (by omega)
  have two : ¬ (0xc2 ≤ first && first < 0xe0) = true := not_between lower
  have lead : (0xe0 ≤ first && first < 0xf0) = true := between_iff.mpr ⟨lower, upper⟩
  rw [decodeFrom.eq_def]
  exact (if_neg ascii).trans ((if_neg two).trans ((if_pos lead).trans
    ((if_pos follows).trans (if_pos last))))

theorem decodeFrom_four {index : Nat} {first second third fourth : UInt8} {rest : Bytes}
    (lower : 0xf0 ≤ first.toNat) (upper : first.toNat < 0xf5)
    (follows : followsFour first second = true) (inner : isContinuation third = true)
    (last : isContinuation fourth = true) :
    decodeFrom index (first :: second :: third :: fourth :: rest) =
      (decodeFrom (index + 4) rest).map (charOfFour first second third fourth :: ·) := by
  have ascii : ¬ first < 0x80 := not_ascii (by omega)
  have two : ¬ (0xc2 ≤ first && first < 0xe0) = true :=
    not_between (show 0xe0 ≤ first.toNat by omega)
  have three : ¬ (0xe0 ≤ first && first < 0xf0) = true := not_between lower
  have lead : (0xf0 ≤ first && first < 0xf5) = true := between_iff.mpr ⟨lower, upper⟩
  rw [decodeFrom.eq_def]
  exact (if_neg ascii).trans ((if_neg two).trans ((if_neg three).trans
    ((if_pos lead).trans ((if_pos follows).trans ((if_pos inner).trans (if_pos last))))))

theorem isContinuation_iff {byte : UInt8} :
    isContinuation byte = true ↔ 0x80 ≤ byte.toNat ∧ byte.toNat < 0xc0 := between_iff

theorem isContinuation_ofNat {number : Nat} (bound : number < 64) :
    isContinuation (UInt8.ofNat (0x80 + number)) = true := by
  rw [isContinuation_iff, UInt8.toNat_ofNat']
  omega

theorem followsThree_iff {lead second : UInt8} :
    followsThree lead second = true ↔ 0x80 ≤ second.toNat ∧ second.toNat < 0xc0 ∧
      (lead.toNat = 0xe0 → 0xa0 ≤ second.toNat) ∧
      (lead.toNat = 0xed → second.toNat < 0xa0) := by
  unfold followsThree
  split
  next equal =>
      subst equal
      rw [between_iff]
      change 0xa0 ≤ second.toNat ∧ second.toNat < 0xc0 ↔ _ ∧ _ ∧ (0xe0 = 0xe0 → _) ∧ (0xe0 = 0xed → _)
      omega
  next different =>
      have first : lead.toNat ≠ 0xe0 := fun same => different (UInt8.toNat_inj.mp same)
      split
      next equal =>
          subst equal
          rw [between_iff]
          change 0x80 ≤ second.toNat ∧ second.toNat < 0xa0 ↔ _ ∧ _ ∧ _ ∧ (0xed = 0xed → _)
          omega
      next other =>
          have surrogate : lead.toNat ≠ 0xed := fun same => other (UInt8.toNat_inj.mp same)
          rw [isContinuation_iff]
          omega

theorem followsFour_iff {lead second : UInt8} :
    followsFour lead second = true ↔ 0x80 ≤ second.toNat ∧ second.toNat < 0xc0 ∧
      (lead.toNat = 0xf0 → 0x90 ≤ second.toNat) ∧
      (lead.toNat = 0xf4 → second.toNat < 0x90) := by
  unfold followsFour
  split
  next equal =>
      subst equal
      rw [between_iff]
      change 0x90 ≤ second.toNat ∧ second.toNat < 0xc0 ↔ _ ∧ _ ∧ (0xf0 = 0xf0 → _) ∧ (0xf0 = 0xf4 → _)
      omega
  next different =>
      have first : lead.toNat ≠ 0xf0 := fun same => different (UInt8.toNat_inj.mp same)
      split
      next equal =>
          subst equal
          rw [between_iff]
          change 0x80 ≤ second.toNat ∧ second.toNat < 0x90 ↔ _ ∧ _ ∧ _ ∧ (0xf4 = 0xf4 → _)
          omega
      next other =>
          have final : lead.toNat ≠ 0xf4 := fun same => other (UInt8.toNat_inj.mp same)
          rw [isContinuation_iff]
          omega

/-- A code point is below the surrogates, or above them and not past the last one. -/
theorem code_bounds (char : Char) :
    char.toNat < 0xd800 ∨ 0xdfff < char.toNat ∧ char.toNat < 0x110000 := char.valid

theorem decodeFrom_encodeChar (index : Nat) (char : Char) (rest : Bytes) :
    ∃ next, decodeFrom index (encodeChar char ++ rest) =
      (decodeFrom next rest).map (char :: ·) := by
  have bounds := code_bounds char
  have same : Char.ofNat char.toNat = char := Char.ofNat_toNat char
  unfold encodeChar
  dsimp only
  generalize char.toNat = code at bounds same
  split
  next one =>
      refine ⟨index + 1, ?_⟩
      have first : (UInt8.ofNat code).toNat = code := by rw [UInt8.toNat_ofNat']; omega
      rw [List.cons_append, List.nil_append, decodeFrom_one (by omega), first, same]
  next notOne =>
  split
  next two =>
      refine ⟨index + 2, ?_⟩
      have first : (UInt8.ofNat (0xc0 + code / 64)).toNat = 0xc0 + code / 64 := by
        rw [UInt8.toNat_ofNat']; omega
      have second : (UInt8.ofNat (0x80 + code % 64)).toNat = 0x80 + code % 64 := by
        rw [UInt8.toNat_ofNat']; omega
      have read : charOfTwo (UInt8.ofNat (0xc0 + code / 64)) (UInt8.ofNat (0x80 + code % 64)) =
          char := by
        rw [charOfTwo, first, second, ← same]
        congr 1
        omega
      rw [List.cons_append, List.cons_append, List.nil_append,
        decodeFrom_two (by omega) (by omega) (isContinuation_ofNat (by omega)), read]
  next notTwo =>
  split
  next three =>
      refine ⟨index + 3, ?_⟩
      have first : (UInt8.ofNat (0xe0 + code / 4096)).toNat = 0xe0 + code / 4096 := by
        rw [UInt8.toNat_ofNat']; omega
      have second : (UInt8.ofNat (0x80 + code / 64 % 64)).toNat = 0x80 + code / 64 % 64 := by
        rw [UInt8.toNat_ofNat']; omega
      have third : (UInt8.ofNat (0x80 + code % 64)).toNat = 0x80 + code % 64 := by
        rw [UInt8.toNat_ofNat']; omega
      have read : charOfThree (UInt8.ofNat (0xe0 + code / 4096))
          (UInt8.ofNat (0x80 + code / 64 % 64)) (UInt8.ofNat (0x80 + code % 64)) = char := by
        rw [charOfThree, first, second, third, ← same]
        congr 1
        omega
      rw [List.cons_append, List.cons_append, List.cons_append, List.nil_append,
        decodeFrom_three (by omega) (by omega)
          (followsThree_iff.mpr (by rw [first, second]; omega))
          (isContinuation_ofNat (by omega)), read]
  next notThree =>
      refine ⟨index + 4, ?_⟩
      have first : (UInt8.ofNat (0xf0 + code / 262144)).toNat = 0xf0 + code / 262144 := by
        rw [UInt8.toNat_ofNat']; omega
      have second : (UInt8.ofNat (0x80 + code / 4096 % 64)).toNat =
          0x80 + code / 4096 % 64 := by
        rw [UInt8.toNat_ofNat']; omega
      have third : (UInt8.ofNat (0x80 + code / 64 % 64)).toNat = 0x80 + code / 64 % 64 := by
        rw [UInt8.toNat_ofNat']; omega
      have fourth : (UInt8.ofNat (0x80 + code % 64)).toNat = 0x80 + code % 64 := by
        rw [UInt8.toNat_ofNat']; omega
      have read : charOfFour (UInt8.ofNat (0xf0 + code / 262144))
          (UInt8.ofNat (0x80 + code / 4096 % 64)) (UInt8.ofNat (0x80 + code / 64 % 64))
          (UInt8.ofNat (0x80 + code % 64)) = char := by
        rw [charOfFour, first, second, third, fourth, ← same]
        congr 1
        omega
      rw [List.cons_append, List.cons_append, List.cons_append, List.cons_append,
        List.nil_append, decodeFrom_four (by omega) (by omega)
          (followsFour_iff.mpr (by rw [first, second]; omega))
          (isContinuation_ofNat (by omega)) (isContinuation_ofNat (by omega)), read]

theorem decodeFrom_encodeChars (index : Nat) (chars : List Char) :
    decodeFrom index (encodeChars chars) = .ok chars := by
  induction chars generalizing index with
  | nil => rw [encodeChars, List.flatMap_nil, decodeFrom]
  | cons char rest ih =>
      obtain ⟨next, read⟩ := decodeFrom_encodeChar index char (encodeChars rest)
      rw [encodeChars, List.flatMap_cons]
      rw [encodeChars] at read ih
      rw [read, ih next]
      rfl

theorem decode_encode (text : String) : decode (encode text) = .ok text := by
  rw [decode, encode, decodeFrom_encodeChars]
  exact congrArg Except.ok (String.ofList_toList)

theorem toNat_ofNat {code : Nat} (valid : code.isValidChar) : (Char.ofNat code).toNat = code := by
  rw [Char.ofNat, dif_pos valid]
  rfl

theorem eq_ofNat (byte : UInt8) {number : Nat} (same : byte.toNat = number) :
    UInt8.ofNat number = byte := by
  rw [← same, UInt8.ofNat_toNat]

theorem encodeChar_one {first : UInt8} (lead : first < 0x80) :
    encodeChar (Char.ofNat first.toNat) = [first] := by
  have small : first.toNat < 0x80 := UInt8.lt_iff_toNat_lt.mp lead
  rw [encodeChar, toNat_ofNat (.inl (by omega)), if_pos small, UInt8.ofNat_toNat]

theorem encodeChar_charOfTwo {first second : UInt8} (lead : (0xc2 ≤ first && first < 0xe0) = true)
    (follows : isContinuation second = true) :
    encodeChar (charOfTwo first second) = [first, second] := by
  obtain ⟨lower, upper⟩ : 0xc2 ≤ first.toNat ∧ first.toNat < 0xe0 := between_iff.mp lead
  obtain ⟨low, high⟩ := isContinuation_iff.mp follows
  rw [encodeChar, charOfTwo, toNat_ofNat (.inl (by omega))]
  rw [if_neg (by omega), if_pos (by omega), eq_ofNat first (by omega),
    eq_ofNat second (by omega)]

theorem encodeChar_charOfThree {first second third : UInt8}
    (lead : (0xe0 ≤ first && first < 0xf0) = true) (follows : followsThree first second = true)
    (last : isContinuation third = true) :
    encodeChar (charOfThree first second third) = [first, second, third] := by
  obtain ⟨lower, upper⟩ : 0xe0 ≤ first.toNat ∧ first.toNat < 0xf0 := between_iff.mp lead
  obtain ⟨low, high, long, surrogate⟩ := followsThree_iff.mp follows
  obtain ⟨lastLow, lastHigh⟩ := isContinuation_iff.mp last
  rw [encodeChar, charOfThree, toNat_ofNat (by rw [Nat.isValidChar]; omega)]
  rw [if_neg (by omega), if_neg (by omega), if_pos (by omega), eq_ofNat first (by omega),
    eq_ofNat second (by omega), eq_ofNat third (by omega)]

theorem encodeChar_charOfFour {first second third fourth : UInt8}
    (lead : (0xf0 ≤ first && first < 0xf5) = true) (follows : followsFour first second = true)
    (inner : isContinuation third = true) (last : isContinuation fourth = true) :
    encodeChar (charOfFour first second third fourth) = [first, second, third, fourth] := by
  obtain ⟨lower, upper⟩ : 0xf0 ≤ first.toNat ∧ first.toNat < 0xf5 := between_iff.mp lead
  obtain ⟨low, high, long, final⟩ := followsFour_iff.mp follows
  obtain ⟨innerLow, innerHigh⟩ := isContinuation_iff.mp inner
  obtain ⟨lastLow, lastHigh⟩ := isContinuation_iff.mp last
  rw [encodeChar, charOfFour, toNat_ofNat (.inr (by omega))]
  rw [if_neg (by omega), if_neg (by omega), if_neg (by omega), eq_ofNat first (by omega),
    eq_ofNat second (by omega), eq_ofNat third (by omega), eq_ofNat fourth (by omega)]

/-- Bytes that begin with a character and go on with bytes that are read. -/
theorem eq_encodeChars_of_map {char : Char} {front rest : Bytes} {read : Except Error (List Char)}
    {chars : List Char} (encoded : encodeChar char = front)
    (later : ∀ {chars}, read = .ok chars → rest = encodeChars chars)
    (decoded : read.map (char :: ·) = .ok chars) : front ++ rest = encodeChars chars := by
  cases read with
  | error fault => cases decoded
  | ok others =>
      cases decoded
      rw [encodeChars, List.flatMap_cons, encoded, later rfl]
      rfl

theorem eq_encodeChars_of_decodeFrom {index : Nat} {bytes : Bytes} {chars : List Char}
    (decoded : decodeFrom index bytes = .ok chars) : bytes = encodeChars chars := by
  -- Each branch of the decoder either fails or has read the bytes of one character.
  fun_induction decodeFrom index bytes generalizing chars with
  | case1 =>
      cases decoded
      rfl
  | case2 _ first rest lead ih => exact eq_encodeChars_of_map (encodeChar_one lead) ih decoded
  | case4 _ first _ lead second rest follows ih =>
      exact eq_encodeChars_of_map (encodeChar_charOfTwo lead follows) ih decoded
  | case8 _ first _ _ lead second follows third rest last ih =>
      exact eq_encodeChars_of_map (encodeChar_charOfThree lead follows last) ih decoded
  | case14 _ first _ _ _ lead second follows third inner fourth rest last ih =>
      exact eq_encodeChars_of_map (encodeChar_charOfFour lead follows inner last) ih decoded
  | _ => cases decoded

theorem decode_eq_ok_iff {bytes : Bytes} {text : String} :
    decode bytes = .ok text ↔ bytes = encode text := by
  constructor
  · intro decoded
    rw [decode] at decoded
    cases read : decodeFrom 0 bytes with
    | error fault => rw [read] at decoded; cases decoded
    | ok chars =>
        rw [read] at decoded
        cases decoded
        rw [encode, String.toList_ofList]
        exact eq_encodeChars_of_decodeFrom read
  · rintro rfl
    exact decode_encode text

end Chaincode.Text.Utf8
