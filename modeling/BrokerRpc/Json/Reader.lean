import BrokerRpc.Json.Number

/-! # Reading JSON

Readers take bytes off the front of a text. A value may nest as deep as the reader is told; a text
is one value with blanks around it.
-/
namespace BrokerRpc.Json

/-- Reads a value off the front of the bytes, leaving the rest. -/
abbrev Reader (α : Type) := Bytes → Except Fault (α × Bytes)

def isSpace (c : UInt8) : Bool := c = 32 || c = 10 || c = 9 || c = 13

def skipSpaces (b : Bytes) : Bytes := b.dropWhile isSpace

def letters : List UInt8 → Bytes → Except Fault Bytes
  | [], b => .ok b
  | _ :: _, [] => .error .ended
  | l :: ls, c :: rest => if c = l then letters ls rest else .error .malformed

/-! ## Strings -/

def hexValue? (c : UInt8) : Option Nat :=
  if 48 ≤ c ∧ c ≤ 57 then some (c.toNat - 48)
  else if 97 ≤ c ∧ c ≤ 102 then some (c.toNat - 87)
  else if 65 ≤ c ∧ c ≤ 70 then some (c.toNat - 55)
  else none

def hexFour : Reader Nat
  | a :: b :: c :: d :: rest =>
    match hexValue? a, hexValue? b, hexValue? c, hexValue? d with
    | some a, some b, some c, some d => .ok (((a * 16 + b) * 16 + c) * 16 + d, rest)
    | _, _, _, _ => .error .malformed
  | _ => .error .ended

def escapedByte? (c : UInt8) : Option UInt8 :=
  if c = 34 then some 34
  else if c = 92 then some 92
  else if c = 47 then some 47
  else if c = 98 then some 8
  else if c = 102 then some 12
  else if c = 110 then some 10
  else if c = 114 then some 13
  else if c = 116 then some 9
  else none

def codeBytes (n : Nat) : Bytes := String.utf8EncodeChar (Char.ofNat n)

/-- Reads the escape of a code point behind its first letters; a high surrogate must be followed
by the escape of a low one. -/
def codeEscape : Reader Bytes := fun b => do
  let (n, b) ← hexFour b
  if 0xDC00 ≤ n ∧ n ≤ 0xDFFF then throw .malformed
  if n < 0xD800 ∨ 0xDBFF < n then return (codeBytes n, b)
  let b ← letters [92, 117] b
  let (m, b) ← hexFour b
  if m < 0xDC00 ∨ 0xDFFF < m then throw .malformed
  return (codeBytes (0x10000 + (n - 0xD800) * 0x400 + (m - 0xDC00)), b)

/-- Reads a string behind its opening quote into bytes, up to the closing quote. Each round takes
a byte or more, so `fuel` rounds suffice for as many bytes. -/
def stringBytes (fuel : Nat) (acc : Bytes) : Reader Bytes := fun b =>
  match fuel, b with
  | _, [] => .error .ended
  | 0, _ => .error .ended
  | fuel + 1, c :: rest =>
    if c = 34 then .ok (acc.reverse, rest)
    else if c = 92 then
      match rest with
      | [] => .error .ended
      | d :: rest =>
        if d = 117 then do
          let (code, rest) ← codeEscape rest
          stringBytes fuel (code.reverse ++ acc) rest
        else
          match escapedByte? d with
          | some e => stringBytes fuel (e :: acc) rest
          | none => .error .malformed
    else if c < 32 then .error .malformed
    else stringBytes fuel (c :: acc) rest

def string : Reader String := fun b => do
  let (content, rest) ← stringBytes b.length [] b
  match Bytes.toText? content with
  | some s => return (s, rest)
  | none => throw .malformed

/-! ## Values -/

def number (negative : Bool) : Reader Json := fun b => do
  let (numeral, rest) ← scanNumeral negative b
  return (← numeral.value, rest)

/-- Reads the items of an array up to its closing bracket; `first` says that none was read. Each
round takes a byte or more. -/
def items {α : Type} (item : Reader α) (fuel : Nat) (first : Bool) (acc : List α) :
    Reader (List α) := fun b =>
  match fuel, skipSpaces b with
  | _, [] => .error .ended
  | 0, _ => .error .ended
  | fuel + 1, c :: rest =>
    if c = 93 then .ok (acc.reverse, rest)
    else if first then do
      let (x, rest) ← item (c :: rest)
      items item fuel false (x :: acc) rest
    else if c = 44 then
      match skipSpaces rest with
      | [] => .error .ended
      | d :: rest =>
        if d = 93 then .error .malformed
        else do
          let (x, rest) ← item (d :: rest)
          items item fuel false (x :: acc) rest
    else .error .malformed

/-- Reads a key's opening quote, or the closing brace: `none`. `first` says that no member was
read. -/
def keyQuote (first : Bool) : Reader (Option Unit) := fun b =>
  let opening (b : Bytes) : Except Fault (Option Unit × Bytes) :=
    match b with
    | [] => .error .ended
    | d :: rest => if d = 34 then .ok (some (), rest) else .error .malformed
  match skipSpaces b with
  | [] => .error .ended
  | c :: rest =>
    if c = 125 then .ok (none, rest)
    else if first then opening (c :: rest)
    else if c = 44 then opening (skipSpaces rest)
    else .error .malformed

def colon : Bytes → Except Fault Bytes := fun b =>
  match skipSpaces b with
  | [] => .error .ended
  | c :: rest => if c = 58 then .ok rest else .error .malformed

def members {α : Type} (item : Reader α) (fuel : Nat) (first : Bool) (acc : List (String × α)) :
    Reader (List (String × α)) := fun b =>
  match fuel with
  | 0 => .error .ended
  | fuel + 1 => do
    let (more, rest) ← keyQuote first b
    match more with
    | none => return (acc.reverse, rest)
    | some () =>
      let (key, rest) ← string rest
      let rest ← colon rest
      let (x, rest) ← item rest
      members item fuel false ((key, x) :: acc) rest

def value : Nat → Reader Json := fun depth b =>
  match skipSpaces b with
  | [] => .error .ended
  | c :: rest =>
    if c = 110 then do return (.null, ← letters [117, 108, 108] rest)
    else if c = 116 then do return (.bool true, ← letters [114, 117, 101] rest)
    else if c = 102 then do return (.bool false, ← letters [97, 108, 115, 101] rest)
    else if c = 45 then number true rest
    else if isDigit c then number false (c :: rest)
    else if c = 34 then do
      let (s, rest) ← string rest
      return (.str s, rest)
    else if c = 91 then
      match depth with
      | 0 => .error .malformed
      | depth + 1 => do
        let (xs, rest) ← items (value depth) (rest.length + 1) true [] rest
        return (.arr xs, rest)
    else if c = 123 then
      match depth with
      | 0 => .error .malformed
      | depth + 1 => do
        let (entries, rest) ← members (value depth) (rest.length + 1) true [] rest
        return (.obj (Members.ofList entries), rest)
    else .error .malformed

def maxDepth : Nat := 127

def onlySpaces (b : Bytes) : Except Fault Unit :=
  if (skipSpaces b).isEmpty then .ok () else .error .malformed

def parse (b : Bytes) : Except Fault Json := do
  let (v, rest) ← value maxDepth b
  onlySpaces rest
  return v

end BrokerRpc.Json
