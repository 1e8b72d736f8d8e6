import Chaincode.Bytes
import Mathlib

namespace Chaincode.Bytes

/-! Numbers written in bytes and read back.

Main statements: reading the `count` low bytes of a number gives the number modulo
`256 ^ count`, in either order of the bytes, and bytes are the digits of the number read from them.
-/

theorem ofLittleEndian_littleEndian (count number : Nat) :
    ofLittleEndian (littleEndian count number) = number % 256 ^ count := by
  induction count generalizing number with
  | zero => simp [littleEndian, ofLittleEndian, Nat.mod_one]
  | succ count ih =>
      have low : (UInt8.ofNat (number % 256)).toNat = number % 256 := by simp
      rw [littleEndian, ofLittleEndian, ih, low, Nat.pow_succ, Nat.mul_comm (256 ^ count),
        Nat.mod_mul]

theorem ofBigEndian_bigEndian (count number : Nat) :
    ofBigEndian (bigEndian count number) = number % 256 ^ count := by
  simp [ofBigEndian, bigEndian, ofLittleEndian_littleEndian]

theorem ofLittleEndian_lt (bytes : Bytes) : ofLittleEndian bytes < 256 ^ bytes.length := by
  induction bytes with
  | nil => simp [ofLittleEndian]
  | cons byte rest ih =>
      have low := byte.toNat_lt
      rw [ofLittleEndian, List.length_cons, Nat.pow_succ]
      omega

theorem littleEndian_ofLittleEndian (bytes : Bytes) :
    littleEndian bytes.length (ofLittleEndian bytes) = bytes := by
  induction bytes with
  | nil => rfl
  | cons byte rest ih =>
      have low := byte.toNat_lt
      have remainder : (byte.toNat + 256 * ofLittleEndian rest) % 256 = byte.toNat := by omega
      have quotient : (byte.toNat + 256 * ofLittleEndian rest) / 256 = ofLittleEndian rest := by
        omega
      rw [List.length_cons, ofLittleEndian, littleEndian, remainder, quotient, ih,
        UInt8.ofNat_toNat]

theorem ofBigEndian_lt (bytes : Bytes) : ofBigEndian bytes < 256 ^ bytes.length := by
  have bound := ofLittleEndian_lt bytes.reverse
  rw [List.length_reverse] at bound
  exact bound

theorem bigEndian_ofBigEndian (bytes : Bytes) :
    bigEndian bytes.length (ofBigEndian bytes) = bytes := by
  have written := littleEndian_ofLittleEndian bytes.reverse
  rw [List.length_reverse] at written
  rw [bigEndian, ofBigEndian, written, List.reverse_reverse]

theorem ofLittleEndian_append (low high : Bytes) :
    ofLittleEndian (low ++ high) = ofLittleEndian low + 256 ^ low.length * ofLittleEndian high := by
  induction low with
  | nil => simp [ofLittleEndian]
  | cons byte rest ih =>
      simp only [List.cons_append, ofLittleEndian, ih, List.length_cons, Nat.pow_succ]
      ring

theorem ofBigEndian_nil : ofBigEndian [] = 0 := rfl

theorem ofBigEndian_cons (byte : UInt8) (rest : Bytes) :
    ofBigEndian (byte :: rest) = byte.toNat * 256 ^ rest.length + ofBigEndian rest := by
  rw [ofBigEndian, List.reverse_cons, ofLittleEndian_append, List.length_reverse, ofBigEndian]
  simp only [ofLittleEndian]
  ring

end Chaincode.Bytes
