import BrokerRpc.Duration
import BrokerRpc.Text.Blank

/-! # Heartbeats

Each side offers the interval at which it sends a sign of life and the interval at which it wants
one, in milliseconds. The two offers settle one interval for each direction. Timers use an
interval with half of it as grace.
-/
namespace BrokerRpc.Heartbeat

/-- The longest interval that two offers can settle: one day. -/
def longest : Nat := 24 * 60 * 60 * 1000

/-- A number rounded to 53 significant bits, a tie going to the even neighbour. -/
def round53 (n : Nat) : Nat :=
  let unit := 1 <<< (n.log2 + 1 - 53)
  let low := n / unit
  let rest := n % unit
  if rest * 2 < unit then low * unit
  else if unit < rest * 2 then (low + 1) * unit
  else if unit = 1 then n
  else (low + low % 2) * unit

/-- The grace for an interval: half of the interval's rounded value, without its fraction. -/
def grace (interval : Nat) : Nat := round53 interval / 2

/-- How often to send, so that the other side never sees a sign of life late. -/
def reduced (interval : Nat) : Nat := interval - grace interval

def extended (interval : Nat) : Nat := min (interval + grace interval) Text.maxWord

def cutComma? (s : String) : Option (String × String) :=
  match s.toList.dropWhile (· != ',') with
  | [] => none
  | _ :: rest => some (String.ofList (s.toList.takeWhile (· != ',')), String.ofList rest)

/-- Exchanges the two halves of an offer and trims them. A text without a comma stays as it is. -/
def swap (offer : String) : String :=
  match cutComma? offer with
  | some (own, expected) => Text.trim expected ++ "," ++ Text.trim own
  | none => offer

def parse (offer : String) : Option (Nat × Nat) := do
  let (own, expected) ← cutComma? offer
  let own ← Text.below? Text.wordBound (Text.trim own)
  let expected ← Text.below? Text.wordBound (Text.trim expected)
  return (own, expected)

def format (own expected : Duration) : String :=
  Text.decimal own.millis ++ "," ++ Text.decimal expected.millis

/-- The interval that two offers for one direction settle; zero turns the direction off. -/
def negotiate (ours theirs : Nat) : Nat :=
  if ours = 0 ∨ theirs = 0 then 0 else min (max ours theirs) longest

def negotiatePair (outgoing incoming : Nat) (header : String) : Option (Nat × Nat) := do
  let (wanted, sent) ← parse (swap header)
  return (negotiate outgoing wanted, negotiate incoming sent)

theorem negotiate_le (ours theirs : Nat) : negotiate ours theirs ≤ longest := by
  unfold negotiate
  split
  · exact Nat.zero_le _
  · exact Nat.min_le_right _ _

theorem negotiate_comm (ours theirs : Nat) : negotiate ours theirs = negotiate theirs ours := by
  simp [negotiate, Or.comm, Nat.max_comm]

end BrokerRpc.Heartbeat
