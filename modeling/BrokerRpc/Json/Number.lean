import BrokerRpc.Bytes
import BrokerRpc.Json.Value

/-! # JSON numbers

A numeral is first scanned and then evaluated. Evaluation keeps as many leading digits as a 64-bit
number holds and scales them by one rounded power of ten.
-/
namespace BrokerRpc.Json

/-- Why a text is no JSON value of the wanted shape: it ends early, it breaks the grammar, or it
has another shape. -/
inductive Fault where
  | ended
  | malformed
  | mismatch
  deriving DecidableEq, Repr

def Fault.category : Fault → String
  | ended => "Eof"
  | malformed => "Syntax"
  | mismatch => "Data"

/-- The parts of a numeral: its digits before and after the point and its exponent with a sign. -/
structure Numeral where
  negative : Bool
  whole : List Nat
  places : Option (List Nat) := none
  exponent : Option (Bool × List Nat) := none
  deriving DecidableEq, Repr

def digit? (c : UInt8) : Option Nat :=
  if 48 ≤ c ∧ c ≤ 57 then some (c.toNat - 48) else none

def isDigit (c : UInt8) : Bool := (digit? c).isSome

def digits (b : Bytes) : List Nat × Bytes :=
  ((b.takeWhile isDigit).filterMap digit?, b.dropWhile isDigit)

def someDigits (b : Bytes) : Except Fault (List Nat × Bytes) :=
  match b with
  | [] => .error .ended
  | c :: _ => if isDigit c then .ok (digits b) else .error .malformed

/-- The digits before the point: a zero alone, or digits that start with no zero. -/
def wholeDigits (b : Bytes) : Except Fault (List Nat × Bytes) :=
  match b with
  | 48 :: rest =>
    match rest with
    | c :: _ => if isDigit c then .error .malformed else .ok ([0], rest)
    | [] => .ok ([0], rest)
  | _ => someDigits b

def placeDigits (b : Bytes) : Except Fault (Option (List Nat) × Bytes) :=
  match b with
  | 46 :: rest => do
    let (ds, rest) ← someDigits rest
    return (some ds, rest)
  | _ => .ok (none, b)

/-- The exponent, if there is one; `true` is a negative one. -/
def exponentDigits (b : Bytes) : Except Fault (Option (Bool × List Nat) × Bytes) :=
  match b with
  | c :: rest =>
    if c = 101 ∨ c = 69 then
      match rest with
      | 43 :: rest => do
        let (ds, rest) ← someDigits rest
        return (some (false, ds), rest)
      | 45 :: rest => do
        let (ds, rest) ← someDigits rest
        return (some (true, ds), rest)
      | _ => do
        let (ds, rest) ← someDigits rest
        return (some (false, ds), rest)
    else .ok (none, b)
  | [] => .ok (none, b)

def scanNumeral (negative : Bool) (b : Bytes) : Except Fault (Numeral × Bytes) := do
  let (whole, b) ← wholeDigits b
  let (places, b) ← placeDigits b
  let (exponent, b) ← exponentDigits b
  return (⟨negative, whole, places, exponent⟩, b)

namespace Numeral

/-- Takes digits while the number stays below the 64-bit bound: the number and the digits left
over. -/
def takeDigits (n : Nat) : List Nat → Nat × List Nat
  | [] => (n, [])
  | d :: ds => if n * 10 + d ≤ Text.maxWord then takeDigits (n * 10 + d) ds else (n, d :: ds)

def maxExponent : Nat := 0x7fffffff

/-- The value of the exponent's digits; `none` beyond the largest. -/
def exponentValue? : List Nat → Option Nat :=
  List.foldl (fun acc d => do
    let n ← acc
    if n * 10 + d ≤ maxExponent then some (n * 10 + d) else none) (some 0)

def powerOfTen (k : Nat) : Binary64 := (Binary64.ofNat? false (Nat.pow 10 k)).getD (.zero false)

/-- Divides by `10 ^ k` in steps of at most `10 ^ 308`. -/
def scaleDown (x : Binary64) (k : Nat) : Binary64 :=
  if x.isZero then x
  else if _h : k ≤ 308 then (x.div? (powerOfTen k)).getD x
  else scaleDown ((x.div? (powerOfTen 308)).getD x) (k - 308)
termination_by k
decreasing_by omega

def scaleUp? (x : Binary64) (k : Nat) : Option Binary64 :=
  if k ≤ 308 then x.mul? (powerOfTen k)
  else if x.isZero then some x
  else none

def scaled? (negative : Bool) (n : Nat) (e : Int) : Option Binary64 := do
  let x ← Binary64.ofNat? negative n
  match e with
  | .ofNat k => scaleUp? x k
  | .negSucc k => some (scaleDown x (k + 1))

/-- The fraction for the leading digits `n` and the power of ten `e` that belongs to them. -/
def fraction (m : Numeral) (n : Nat) (e : Int) : Except Fault Json :=
  let result (x : Option Binary64) : Except Fault Json :=
    match x with
    | some x => .ok (.fraction x)
    | none => .error .malformed
  match m.exponent with
  | none => result (scaled? m.negative n e)
  | some (down, ds) =>
    match exponentValue? ds with
    | none =>
      if n ≠ 0 ∧ !down then .error .malformed else .ok (.fraction (.zero m.negative))
    | some k => result (scaled? m.negative n (if down then e - k else e + k))

/-- The value of a numeral. A whole numeral within the 64-bit range keeps its exact value, except
that minus zero is a fraction. -/
def value (m : Numeral) : Except Fault Json :=
  let (n, left) := takeDigits 0 m.whole
  match m.places, m.exponent, left with
  | none, none, [] =>
    if !m.negative then .ok (.int n)
    else if n ≠ 0 ∧ n ≤ 0x8000000000000000 then .ok (.int (-(n : Int)))
    else m.fraction n 0
  | places, _, _ =>
    let (n', unused) := takeDigits n (places.getD [])
    let used := (places.getD []).length - unused.length
    m.fraction n' ((left.length : Int) - used)

end Numeral
end BrokerRpc.Json
