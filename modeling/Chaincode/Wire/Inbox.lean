import Chaincode.Wire.Decoder

namespace Chaincode.Wire

/-! The receiving end of a connection.

A frame is the length of its body in four bytes, most significant first, and
then the body.  Whatever has arrived and is not yet consumed waits in a buffer.
Only the body is decoded; bytes of the body behind the value are dropped with
it.
-/

/-- A body behind its length, for which there are four bytes; bodies that need more are not
meant to be framed. -/
def frame (body : Bytes) : Bytes := Bytes.bigEndian 4 body.length ++ body

structure Inbox where
  buffer : Bytes := []
  /-- Whether the peer has closed its sending side. -/
  closed : Bool := false
deriving DecidableEq

/-- Why no more frames can be read. -/
inductive StreamError where
  /-- The peer closed inside a frame. -/
  | brokenPipe
  /-- A body that does not decode. -/
  | body (fault : Fault)
deriving DecidableEq

namespace StreamError

def describe : StreamError → String
  | .brokenPipe => "io error: broken pipe"
  | .body fault => fault.describe

end StreamError

/-- What one attempt to read a frame gives. -/
inductive Reading (α : Type) where
  /-- More has to arrive first. -/
  | waiting
  /-- The peer closed between two frames. -/
  | ended
  | failed (error : StreamError)
  | value (value : α)
deriving DecidableEq

namespace Inbox

def receive (inbox : Inbox) (chunk : Bytes) : Inbox :=
  { inbox with buffer := inbox.buffer ++ chunk }

def close (inbox : Inbox) : Inbox := { inbox with closed := true }

/-- The length that the first four buffered bytes announce. -/
def announced (inbox : Inbox) : Nat := Bytes.ofBigEndian (inbox.buffer.take 4)

/-- Too little is buffered: wait for more, unless there is no more. -/
def starved (inbox : Inbox) : Reading α :=
  if !inbox.closed then .waiting
  else if inbox.buffer.isEmpty then .ended
  else .failed .brokenPipe

/-- Reads one frame.  It waits for five bytes, then for the whole frame.  A body
that does not decode stays in the buffer, without the length before it. -/
def read (decode : Decoder α) (inbox : Inbox) : Reading α × Inbox :=
  if inbox.buffer.length < 5 || inbox.buffer.length < 4 + inbox.announced then
    (inbox.starved, inbox)
  else
    let content := inbox.buffer.drop 4
    match decode (content.take inbox.announced) with
    | .error fault => (.failed (.body fault), { inbox with buffer := content })
    | .ok (value, _) => (.value value, { inbox with buffer := content.drop inbox.announced })

theorem read_value_length {decode : Decoder α} {inbox after : Inbox} {value : α}
    (found : inbox.read decode = (.value value, after)) :
    after.buffer.length < inbox.buffer.length := by
  unfold read at found
  split at found
  next short =>
      unfold starved at found
      split at found
      · simp at found
      · split at found <;> simp at found
  next long =>
      simp only [Bool.or_eq_true, decide_eq_true_eq, not_or, Nat.not_lt] at long
      dsimp only at found
      split at found
      · simp at found
      · simp only [Prod.mk.injEq] at found
        obtain ⟨_, equal⟩ := found
        subst equal
        simp only [List.length_drop]
        omega

end Inbox

end Chaincode.Wire
