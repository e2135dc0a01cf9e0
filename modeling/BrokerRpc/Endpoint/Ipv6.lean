import BrokerRpc.Text.Numeral
import BrokerRpc.Text.Split

/-! # IPv6 addresses

An address has eight pieces of sixteen bits. It is written with colons between the pieces, in
lower-case hexadecimal; the first of the longest rows of two or more zero pieces is written as two
colons. Reading takes two colons anywhere once, for one zero piece or more, and the last two
pieces also as four decimal numbers with dots between them.
-/
namespace BrokerRpc.Ipv6

/-- The value of the first digits, `most` at most, read after the value `acc`, and the rest. -/
def leadingHex (acc : Nat) : Nat → List Char → Nat × List Char
  | 0, cs => (acc, cs)
  | _ + 1, [] => (acc, [])
  | most + 1, c :: rest =>
    match Text.hexValue? c with
    | some digit => leadingHex (acc * 16 + digit) most rest
    | none => (acc, c :: rest)

def octet? (cs : List Char) : Option Nat :=
  if cs.isEmpty ∨ (cs.head? = some '0' ∧ 1 < cs.length) ∨ !cs.all Char.isDigit then none
  else
    let n := cs.foldl (fun acc c => acc * 10 + (c.toNat - '0'.toNat)) 0
    if n < 256 then some n else none

def dottedTail? (cs : List Char) : Option (List Nat) :=
  match (Text.splitAt '.' cs).mapM octet? with
  | some [a, b, c, d] => some [a * 256 + b, c * 256 + d]
  | _ => none

/-- What is read so far: the pieces in order, and how many of them stand up to the two colons. -/
structure Reading where
  pieces : List Nat := []
  gap : Option Nat := none
  deriving Repr

/-- Reads the remaining pieces. Every round takes a character or more. -/
def readPieces (fuel : Nat) (r : Reading) (cs : List Char) : Option Reading :=
  match fuel, cs with
  | _, [] => some r
  | 0, _ => none
  | fuel + 1, c :: rest =>
    if r.pieces.length = 8 then none
    else if c = ':' then
      if r.gap.isSome then none
      else
        let pieces := r.pieces ++ [0]
        readPieces fuel ⟨pieces, some pieces.length⟩ rest
    else
      let (piece, after) := leadingHex 0 4 (c :: rest)
      match after with
      | [] => some { r with pieces := r.pieces ++ [piece] }
      | '.' :: _ =>
        if 6 < r.pieces.length then none
        else (dottedTail? (c :: rest)).map fun last => { r with pieces := r.pieces ++ last }
      | ':' :: next =>
        if next.isEmpty then none
        else readPieces fuel { r with pieces := r.pieces ++ [piece] } next
      | _ => none

/-- The eight pieces, with the zeros that the two colons stand for. -/
def Reading.complete? (r : Reading) : Option (List Nat) :=
  match r.gap with
  | some gap =>
    if r.pieces.length ≤ 8 then
      some (r.pieces.take gap ++ List.replicate (8 - r.pieces.length) 0 ++ r.pieces.drop gap)
    else none
  | none => if r.pieces.length = 8 then some r.pieces else none

def parse? (cs : List Char) : Option (List Nat) :=
  match cs with
  | ':' :: ':' :: rest => readPieces rest.length ⟨[0], some 1⟩ rest >>= Reading.complete?
  | ':' :: _ => none
  | _ => if cs.length < 2 then none else readPieces cs.length {} cs >>= Reading.complete?

def zeroRun (pieces : List Nat) : Nat := (pieces.takeWhile (· = 0)).length

/-- Where the first of the longest rows of zero pieces starts, and how long it is. -/
def longestZeroRun (pieces : List Nat) : Nat × Nat :=
  (List.range pieces.length).foldl
    (fun best i =>
      let run := zeroRun (pieces.drop i)
      if best.2 < run then (i, run) else best)
    (0, 0)

def joined (pieces : List Nat) : String :=
  ":".intercalate (pieces.map fun n => String.ofList (Nat.toDigits 16 n))

def text (pieces : List Nat) : String :=
  let (start, length) := longestZeroRun pieces
  if length < 2 then joined pieces
  else joined (pieces.take start) ++ "::" ++ joined (pieces.drop (start + length))

end BrokerRpc.Ipv6
