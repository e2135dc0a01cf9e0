import BrokerRpc.Frame.Codec

/-! # Streams of frames

A connection delivers its bytes in pieces of any size. Each piece is appended to a buffer, and
frames are read off its front until more bytes are wanted.
-/
namespace BrokerRpc

/-- One reading: a message or a rejection, each with its count of bytes. -/
abbrev Reading := Except Rejected (Message × Nat)

def Reading.consumed : Reading → Nat
  | .ok (_, n) => n
  | .error r => r.consumed

namespace Frame

def next? (b : Bytes) : Option Reading :=
  match decode b with
  | .ok none => none
  | .ok (some found) => some (.ok found)
  | .error r => some (.error r)

/-- Reads until more bytes are wanted: the readings in order and the bytes left. A reading that
takes nothing would end the run, so that the run ends on every buffer. -/
def drain (b : Bytes) : List Reading × Bytes :=
  match next? b with
  | none => ([], b)
  | some reading =>
    if _h : b ≠ [] ∧ 0 < reading.consumed then
      let (more, left) := drain (b.drop reading.consumed)
      (reading :: more, left)
    else ([reading], b)
termination_by b.length
decreasing_by
  have := List.length_pos_iff.2 ‹b ≠ [] ∧ _›.1
  simp only [List.length_drop]
  omega

def feed (buffer piece : Bytes) : List Reading × Bytes := drain (buffer ++ piece)

def feedAll (buffer : Bytes) : List Bytes → List (List Reading × Bytes)
  | [] => []
  | piece :: pieces =>
    let step := feed buffer piece
    step :: feedAll step.2 pieces

end Frame
end BrokerRpc
