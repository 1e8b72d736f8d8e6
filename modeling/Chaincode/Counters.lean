namespace Chaincode

/-! The counters that handlers share. -/

/-- One number for each counter handed out, in the order in which they were. -/
structure Counters where
  counts : List Nat := []
deriving DecidableEq

namespace Counters

/-- A fresh counter, which starts at zero. -/
def allocate (counters : Counters) : Nat × Counters :=
  (counters.counts.length, ⟨counters.counts ++ [0]⟩)

def read (counters : Counters) (counter : Nat) : Nat := counters.counts.getD counter 0

/-- Counts one more and reads the new count. -/
def increment (counters : Counters) (counter : Nat) : Nat × Counters :=
  let counted : Counters := ⟨counters.counts.modify counter (· + 1)⟩
  (counted.read counter, counted)

end Counters

end Chaincode
