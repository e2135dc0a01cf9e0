import BrokerRpc.Json.Reader

/-! # Reading records

A record is written as an object with known members, or as an array of their values in order.
Members that the record does not know are passed over. The first fault in the order of the text
decides, and a missing member shows only where the record ends.
-/
namespace BrokerRpc.Json

/-! ## Passing over a value -/

inductive Bracket where
  | array
  | object
  deriving DecidableEq, Repr

def Bracket.closing : Bracket → UInt8
  | array => 93
  | object => 125

/-- Passes over a string behind its opening quote. Escapes are checked for their form only. -/
def skipString (fuel : Nat) (b : Bytes) : Except Fault Bytes :=
  match fuel, b with
  | _, [] => .error .ended
  | 0, _ => .error .ended
  | fuel + 1, c :: rest =>
    if c = 34 then .ok rest
    else if c = 92 then
      match rest with
      | [] => .error .ended
      | d :: rest =>
        if d = 117 then do
          let (_, rest) ← hexFour rest
          skipString fuel rest
        else if (escapedByte? d).isSome then skipString fuel rest
        else .error .malformed
    else if c < 32 then .error .malformed
    else skipString fuel rest

/-- Passes over a numeral behind its sign. A broken one is malformed, even where the text ends
inside of it. -/
def skipNumeral (b : Bytes) : Except Fault Bytes :=
  match scanNumeral false b with
  | .ok (_, rest) => .ok rest
  | .error _ => .error .malformed

def skipScalar (c : UInt8) (rest : Bytes) : Except Fault Bytes :=
  if c = 110 then letters [117, 108, 108] rest
  else if c = 116 then letters [114, 117, 101] rest
  else if c = 102 then letters [97, 108, 115, 101] rest
  else if c = 45 then skipNumeral rest
  else if isDigit c then skipNumeral (c :: rest)
  else if c = 34 then skipString rest.length rest
  else .error .malformed

/-- Passes over what stands before a member's value: nothing in an array, the key in an object. -/
def skipKey (bracket : Bracket) (b : Bytes) : Except Fault Bytes :=
  match bracket with
  | .array => .ok b
  | .object =>
    match skipSpaces b with
    | [] => .error .ended
    | c :: rest =>
      if c = 34 then do colon (← skipString rest.length rest) else .error .malformed

inductive Awaited where
  | value
  | firstMember
  | nextMember
  deriving DecidableEq, Repr

/-- Passes over values inside the given brackets, the innermost first. Every second round takes a
byte or more. -/
def skipFrom (fuel : Nat) (awaited : Awaited) (brackets : List Bracket) (b : Bytes) :
    Except Fault Bytes :=
  match fuel with
  | 0 => .error .ended
  | fuel + 1 =>
    match awaited, brackets with
    | .value, _ =>
      match skipSpaces b with
      | [] => .error .ended
      | c :: rest =>
        if c = 91 then skipFrom fuel .firstMember (.array :: brackets) rest
        else if c = 123 then skipFrom fuel .firstMember (.object :: brackets) rest
        else do skipFrom fuel .nextMember brackets (← skipScalar c rest)
    | _, [] => .ok b
    | .firstMember, bracket :: outer =>
      match skipSpaces b with
      | [] => .error .ended
      | c :: rest =>
        if c = bracket.closing then skipFrom fuel .nextMember outer rest
        else do skipFrom fuel .value brackets (← skipKey bracket (c :: rest))
    | .nextMember, bracket :: outer =>
      match skipSpaces b with
      | [] => .error .ended
      | c :: rest =>
        if c = bracket.closing then skipFrom fuel .nextMember outer rest
        else if c = 44 then do skipFrom fuel .value brackets (← skipKey bracket rest)
        else .error .malformed

def skipValue (b : Bytes) : Except Fault Bytes := skipFrom (2 * b.length + 2) .value [] b

/-! ## Members of a known shape -/

inductive Shape where
  | any
  | text
  | whole (low high : Int)
  | optional (inner : Shape)
  deriving DecidableEq, Repr

/-- A known member. One that is not required may be absent. -/
structure Field where
  name : String
  shape : Shape
  required : Bool := false
  deriving DecidableEq, Repr

/-- The fault for a value of another shape: a scalar is read first, so that a broken one shows its
own fault. -/
def wrongShape (b : Bytes) : Fault :=
  match b with
  | [] => .ended
  | c :: _ =>
    if c = 91 ∨ c = 123 then .mismatch
    else
      match value 0 b with
      | .error fault => fault
      | .ok _ => .mismatch

/-- Reads a value of the given shape; a missing option is `null`. -/
def shaped (depth : Nat) : Shape → Reader Json
  | .any => value depth
  | .text => fun b =>
    match skipSpaces b with
    | [] => .error .ended
    | c :: rest =>
      if c = 34 then do
        let (s, rest) ← string rest
        return (.str s, rest)
      else .error (wrongShape (c :: rest))
  | .whole low high => fun b =>
    match skipSpaces b with
    | [] => .error .ended
    | c :: rest =>
      if c = 45 ∨ isDigit c then do
        let (v, rest) ← value depth (c :: rest)
        match v with
        | .int n => if low ≤ n ∧ n ≤ high then return (.int n, rest) else throw .mismatch
        | _ => throw .mismatch
      else .error (wrongShape (c :: rest))
  | .optional inner => fun b =>
    match skipSpaces b with
    | c :: rest =>
      if c = 110 then do return (.null, ← letters [117, 108, 108] rest)
      else shaped depth inner (c :: rest)
    | [] => .error .ended

abbrev Record := Assoc String Json

namespace Record

def complete (fields : List Field) (r : Record) : Bool :=
  fields.all fun field => !field.required || (r.get? field.name).isSome

def ofMembers (fields : List Field) (depth fuel : Nat) (first : Bool) (r : Record) :
    Reader Record := fun b =>
  match fuel with
  | 0 => .error .ended
  | fuel + 1 => do
    let (more, rest) ← keyQuote first b
    match more with
    | none => if complete fields r then return (r, rest) else throw .mismatch
    | some () =>
      let (key, rest) ← string rest
      match fields.find? (·.name = key) with
      | some field =>
        if (r.get? key).isSome then throw .mismatch
        let (v, rest) ← shaped depth field.shape (← colon rest)
        ofMembers fields depth fuel false (r ++ [(key, v)]) rest
      | none =>
        let rest ← skipValue (← colon rest)
        ofMembers fields depth fuel false r rest

/-- Finds the next item of an array; `none` at the closing bracket, which stays unread. -/
def nextItem (first : Bool) : Reader (Option Unit) := fun b =>
  match skipSpaces b with
  | [] => .error .ended
  | c :: rest =>
    if c = 93 then .ok (none, c :: rest)
    else if first then .ok (some (), c :: rest)
    else if c = 44 then
      match skipSpaces rest with
      | [] => .error .ended
      | d :: rest => if d = 93 then .error .malformed else .ok (some (), d :: rest)
    else .error .malformed

/-- Reads the values of an array in the order of the fields, up to its closing bracket. -/
def ofItems (depth : Nat) (first : Bool) (r : Record) : List Field → Reader Record
  | [] => fun b =>
    match skipSpaces b with
    | [] => .error .ended
    | c :: rest => if c = 93 then .ok (r, rest) else .error .malformed
  | field :: fields => fun b => do
    let (more, rest) ← nextItem first b
    match more with
    | none => if field.required then throw .mismatch else ofItems depth first r fields rest
    | some () =>
      let (v, rest) ← shaped depth field.shape rest
      ofItems depth false (r ++ [(field.name, v)]) fields rest

def parse (fields : List Field) (b : Bytes) : Except Fault Record := do
  let depth := maxDepth - 1
  match skipSpaces b with
  | [] => throw .ended
  | c :: rest =>
    if c = 91 then
      let (r, rest) ← ofItems depth true [] fields rest
      onlySpaces rest
      return r
    else if c = 123 then
      let (r, rest) ← ofMembers fields depth (rest.length + 1) true [] rest
      onlySpaces rest
      return r
    else throw (wrongShape (c :: rest))

end Record
end BrokerRpc.Json
