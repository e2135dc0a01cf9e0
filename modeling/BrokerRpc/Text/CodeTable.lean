import BrokerRpc.Text.Numeral
import BrokerRpc.Text.Split

/-! # Tables of code points

The data of a standard are written as lines of hexadecimal code points. A line has entries with
commas between them; an entry is a span and the code points that belong to it. A span is one code
point, `first-last` for a row of them or `first~last` for every second one of a row.
-/
namespace BrokerRpc.Text

/-- The code points from `first` to `last` in steps of `step`. -/
structure CodeSpan where
  first : Nat
  last : Nat
  step : Nat
  deriving DecidableEq, Repr

/-- A span and the code points that belong to its first one. -/
structure CodeEntry where
  span : CodeSpan
  codes : List Nat
  deriving DecidableEq, Repr

def hexNumber (digits : List Char) : Nat :=
  digits.foldl (fun n c => n * 16 + (hexValue? c).getD 0) 0

namespace CodeSpan

def offset? (s : CodeSpan) (code : Nat) : Option Nat :=
  if s.first ≤ code ∧ code ≤ s.last ∧ (code - s.first) % s.step = 0 then some (code - s.first)
  else none

def read (word : List Char) : CodeSpan :=
  match splitAt '-' word, splitAt '~' word with
  | [first, last], _ => ⟨hexNumber first, hexNumber last, 1⟩
  | _, [first, last] => ⟨hexNumber first, hexNumber last, 2⟩
  | _, _ => ⟨hexNumber word, hexNumber word, 1⟩

end CodeSpan

namespace CodeEntry

/-- The code points that belong to one of the span: along the span the first of them moves on and
the others stay. -/
def image? (e : CodeEntry) (code : Nat) : Option (List Nat) :=
  (e.span.offset? code).map fun offset =>
    match e.codes with
    | [] => []
    | first :: others => (first + offset) :: others

def read? (text : List Char) : Option CodeEntry :=
  match (splitAt ' ' text).filter (!·.isEmpty) with
  | [] => none
  | span :: codes => some ⟨.read span, codes.map hexNumber⟩

def readAll (lines : List String) : List CodeEntry :=
  lines.flatMap fun line => (splitAt ',' line.toList).filterMap read?

end CodeEntry
end BrokerRpc.Text
