/-! # Punycode

A text is spelled in ASCII: first its ASCII characters and a hyphen, then numbers that say which
character to insert next and where. A number has digits to the base 36, the lowest first; a digit
below a threshold ends it, and the thresholds follow the size of the numbers before.
-/
namespace BrokerRpc.Text.Punycode

def digitValue? (c : Char) : Option Nat :=
  if 'a' ≤ c ∧ c ≤ 'z' then some (c.toNat - 'a'.toNat)
  else if 'A' ≤ c ∧ c ≤ 'Z' then some (c.toNat - 'A'.toNat)
  else if c.isDigit then some (c.toNat - '0'.toNat + 26)
  else none

/-- The threshold for the digit at a place; places are counted in steps of 36. -/
def threshold (place bias : Nat) : Nat := min 26 (max 1 (place - bias))

/-- Divides by 35 until at most 455 is left, and counts the divisions in steps of 36. -/
def scaled (delta bias : Nat) : Nat × Nat :=
  if 455 < delta then scaled (delta / 35) (bias + 36) else (delta, bias)
termination_by delta
decreasing_by omega

def nextBias (number size : Nat) (first : Bool) : Nat :=
  let delta := if first then number / 700 else number / 2
  let (delta, bias) := scaled (delta + delta / size) 0
  bias + 36 * delta / (delta + 38)

/-- What is read so far. `position` counts places in the text, once round for each code point, and
grows by the digits of the number; `start` is where the number began. -/
structure Decoding where
  text : List Char
  code : Nat := 0x80
  position : Nat := 0
  bias : Nat := 72
  start : Nat := 0
  weight : Nat := 1
  place : Nat := 36
  deriving Repr

def Decoding.insert? (s : Decoding) : Option Decoding :=
  let size := s.text.length + 1
  let code := s.code + s.position / size
  let index := s.position % size
  if code.isValidChar then
    some
      { text := s.text.insertIdx index (Char.ofNat code), code, position := index + 1
        bias := nextBias (s.position - s.start) size (s.start = 0), start := index + 1 }
  else none

/-- Reads a digit. Numbers stay within 32 bits. -/
def Decoding.step? (s : Decoding) (c : Char) : Option Decoding :=
  match digitValue? c with
  | none => none
  | some digit =>
    let least := threshold s.place s.bias
    let position := s.position + digit * s.weight
    let weight := s.weight * (36 - least)
    if 0x100000000 ≤ position then none
    else if digit < least then { s with position }.insert?
    else if 0x100000000 ≤ weight then none
    else some { s with position, weight, place := s.place + 36 }

/-- The characters before the last hyphen, and the digits. A hyphen at the start is a digit. -/
def splitDigits (cs : List Char) : List Char × List Char :=
  let back := cs.reverse
  match back.dropWhile (· ≠ '-') with
  | [] | [_] => ([], cs)
  | _ :: plain => (plain.reverse, (back.takeWhile (· ≠ '-')).reverse)

def decode? (cs : List Char) : Option (List Char) := do
  let (plain, digits) := splitDigits cs
  guard (plain.all (·.toNat < 0x80))
  let s ← digits.foldlM Decoding.step? { text := plain }
  guard (s.place = 36)
  return s.text

end BrokerRpc.Text.Punycode
