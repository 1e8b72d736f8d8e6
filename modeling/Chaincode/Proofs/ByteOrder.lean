import Chaincode.Proofs.Bytes
import Chaincode.Proofs.Utf8

namespace Chaincode

/-! The order of texts and the order of their bytes.

UTF-8 keeps the order of the characters: bytes of one width have the order of the
numbers written in them, and a wider character has a greater first byte.  Main
statement: `Text.Utf8.encode_lt_encode_iff`.
-/

namespace Bytes

theorem append_lt_append_of_ofBigEndian_lt {left right : Bytes} (sized : left.length = right.length)
    (less : ofBigEndian left < ofBigEndian right) (rest others : Bytes) :
    left ++ rest < right ++ others := by
  induction left generalizing right with
  | nil =>
      cases right with
      | nil => exact absurd less (Nat.lt_irrefl _)
      | cons byte later => cases sized
  | cons byte later ih =>
      cases right with
      | nil => cases sized
      | cons other further =>
          have same : later.length = further.length := Nat.succ.inj sized
          have bound := ofBigEndian_lt further
          rw [ofBigEndian_cons, ofBigEndian_cons, same] at less
          rw [List.cons_append, List.cons_append, List.cons_lt_cons_iff]
          rcases Nat.lt_trichotomy byte.toNat other.toNat with smaller | equal | greater
          · exact .inl (UInt8.lt_iff_toNat_lt.mpr smaller)
          · rw [equal] at less
            exact .inr ⟨UInt8.toNat_inj.mp equal, ih same (Nat.lt_of_add_lt_add_left less)⟩
          · have more := Nat.mul_le_mul_right (256 ^ further.length) greater
            rw [Nat.succ_mul] at more
            omega

end Bytes

namespace Text.Utf8

theorem cons_lt_cons {first second : Nat} (less : first < second) (bounded : second < 256)
    (rest others : Bytes) : UInt8.ofNat first :: rest < UInt8.ofNat second :: others := by
  rw [List.cons_lt_cons_iff, UInt8.lt_iff_toNat_lt, UInt8.toNat_ofNat', UInt8.toNat_ofNat']
  left
  omega

theorem encodeChar_append_lt {first second : Char} (less : first < second) (rest others : Bytes) :
    encodeChar first ++ rest < encodeChar second ++ others := by
  have codes : first.toNat < second.toNat := UInt32.lt_iff_toNat_lt.mp (Char.lt_def.mp less)
  have limit := code_bounds second
  unfold encodeChar
  dsimp only
  generalize first.toNat = low at codes
  generalize second.toNat = high at codes limit
  -- The wider of two characters has the greater first byte; of one width their numbers decide.
  split
  · split
    · exact cons_lt_cons codes (by omega) _ _
    split
    · exact cons_lt_cons (by omega) (by omega) _ _
    split
    · exact cons_lt_cons (by omega) (by omega) _ _
    · exact cons_lt_cons (by omega) (by omega) _ _
  rw [if_neg (show ¬ high < 0x80 by omega)]
  split
  · split
    · refine Bytes.append_lt_append_of_ofBigEndian_lt (by simp) ?_ rest others
      simp only [Bytes.ofBigEndian_cons, Bytes.ofBigEndian_nil, UInt8.toNat_ofNat', List.length_cons,
        List.length_nil]
      omega
    split
    · exact cons_lt_cons (by omega) (by omega) _ _
    · exact cons_lt_cons (by omega) (by omega) _ _
  rw [if_neg (show ¬ high < 0x800 by omega)]
  split
  · split
    · refine Bytes.append_lt_append_of_ofBigEndian_lt (by simp) ?_ rest others
      simp only [Bytes.ofBigEndian_cons, Bytes.ofBigEndian_nil, UInt8.toNat_ofNat', List.length_cons,
        List.length_nil]
      omega
    · exact cons_lt_cons (by omega) (by omega) _ _
  rw [if_neg (show ¬ high < 0x10000 by omega)]
  refine Bytes.append_lt_append_of_ofBigEndian_lt (by simp) ?_ rest others
  have digits (code : Nat) : code = code / 262144 * 262144 + code / 4096 % 64 * 4096 +
      code / 64 % 64 * 64 + code % 64 := by omega
  have lowDigits := digits low
  have highDigits := digits high
  simp only [Bytes.ofBigEndian_cons, Bytes.ofBigEndian_nil, UInt8.toNat_ofNat', List.length_cons,
    List.length_nil]
  simp (disch := omega) only [Nat.mod_eq_of_lt]
  omega

theorem encodeChar_ne_nil (char : Char) : encodeChar char ≠ [] := by
  unfold encodeChar
  dsimp only
  split
  · simp
  · split
    · simp
    · split <;> simp

theorem encodeChars_lt {first second : List Char} (less : first < second) :
    encodeChars first < encodeChars second := by
  induction first generalizing second with
  | nil =>
      cases second with
      | nil => exact absurd less (List.lt_irrefl [])
      | cons char rest =>
          rw [encodeChars, encodeChars, List.flatMap_nil, List.flatMap_cons]
          cases encoded : encodeChar char with
          | nil => exact absurd encoded (encodeChar_ne_nil char)
          | cons byte later => exact List.nil_lt_cons _ _
  | cons char rest ih =>
      cases second with
      | nil => exact absurd less (List.not_lt_nil _)
      | cons other others =>
          rw [encodeChars, encodeChars, List.flatMap_cons, List.flatMap_cons]
          rcases List.cons_lt_cons_iff.mp less with smaller | ⟨rfl, later⟩
          · exact encodeChar_append_lt smaller _ _
          · exact List.append_left_lt (ih later)

theorem encode_lt_encode {first second : String} (less : first < second) :
    encode first < encode second := encodeChars_lt (String.lt_iff.mp less)

theorem encode_lt_encode_iff {first second : String} :
    encode first < encode second ↔ first < second := by
  refine ⟨fun less => ?_, encode_lt_encode⟩
  rcases lt_trichotomy first second with smaller | rfl | greater
  · exact smaller
  · exact absurd less (List.lt_irrefl _)
  · exact absurd (List.lt_trans less (encode_lt_encode greater)) (List.lt_irrefl _)

end Text.Utf8

end Chaincode
