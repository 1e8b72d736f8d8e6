namespace Chaincode

/-! Byte strings and the numbers written in them. -/

abbrev Bytes := List UInt8

namespace Bytes

/-- The `count` low bytes of a number, least significant first. -/
def littleEndian : Nat → Nat → Bytes
  | 0, _ => []
  | count + 1, number => UInt8.ofNat (number % 256) :: littleEndian count (number / 256)

/-- The number whose bytes these are, least significant first. -/
def ofLittleEndian : Bytes → Nat
  | [] => 0
  | byte :: rest => byte.toNat + 256 * ofLittleEndian rest

def bigEndian (count number : Nat) : Bytes := (littleEndian count number).reverse

def ofBigEndian (bytes : Bytes) : Nat := ofLittleEndian bytes.reverse

@[simp] theorem littleEndian_length (count number : Nat) :
    (littleEndian count number).length = count := by
  induction count generalizing number with
  | zero => rfl
  | succ count ih => simp [littleEndian, ih]

@[simp] theorem bigEndian_length (count number : Nat) :
    (bigEndian count number).length = count := by
  simp [bigEndian]

end Bytes

end Chaincode
