import BrokerRpc.Text.Numeral

/-! # Durations

A duration is a count of nanoseconds. Its text uses the largest unit whose count is not zero and
drops trailing zeros of the fraction.
-/
namespace BrokerRpc

structure Duration where
  nanos : Nat
  deriving DecidableEq, Repr, Inhabited

/-- A point in time, in nanoseconds since the start of the clock. -/
abbrev Instant := Nat

namespace Duration

def ofMillis (n : Nat) : Duration := ⟨n * 1000000⟩

def ofSeconds (n : Nat) : Duration := ⟨n * 1000000000⟩

def millis (d : Duration) : Nat := d.nanos / 1000000

theorem millis_ofMillis (n : Nat) : (ofMillis n).millis = n := by
  simp [ofMillis, millis]

/-- The decimal fraction `part / 10 ^ places` after its point, without trailing zeros; nothing for
zero. -/
def fractionText (part places : Nat) : String :=
  let digits := (Nat.toDigits 10 part)
  let padded := List.replicate (places - digits.length) '0' ++ digits
  let kept := (padded.reverse.dropWhile (· = '0')).reverse
  if kept.isEmpty then "" else "." ++ String.ofList kept

def inUnit (d : Duration) (places : Nat) (unit : String) : String :=
  let size := Nat.pow 10 places
  Text.decimal (d.nanos / size) ++ fractionText (d.nanos % size) places ++ unit

/-- The text of a duration, as in `30ms`, `1.5s` and `0ns`. -/
def text (d : Duration) : String :=
  if 1000000000 ≤ d.nanos then d.inUnit 9 "s"
  else if 1000000 ≤ d.nanos then d.inUnit 6 "ms"
  else if 1000 ≤ d.nanos then d.inUnit 3 "µs"
  else d.inUnit 0 "ns"

end Duration
end BrokerRpc
