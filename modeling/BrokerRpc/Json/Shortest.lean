import BrokerRpc.Json.Binary64

/-! # Shortest decimal text of a binary fraction

The digits are the fewest that read back as the same number; of several such numerals the nearest
is taken. Powers from `10 ^ -5` up to `10 ^ 15` are written positionally, others with an exponent.
-/
namespace BrokerRpc.Binary64

/-- A decimal magnitude: `digits * 10 ^ power`. -/
structure Decimal where
  digits : Nat
  power : Int
  deriving DecidableEq, Repr

/-- Numerator and denominator of `10 ^ power` units counted in quarters of a unit. -/
def gridStep (power : Int) : Nat × Nat :=
  match power with
  | .ofNat p => (Nat.pow 10 p <<< (unitPlaces + 2), 1)
  | .negSucc p => (1 <<< (unitPlaces + 2), Nat.pow 10 (p + 1))

/-- The bounds of the reals that round to the number, in quarters of a unit, and whether the
bounds themselves round to it. The gap below a power of two is half as wide. -/
def roundingInterval (x : Binary64) : Nat × Nat × Bool :=
  let quarter := 1 <<< x.scale
  let middle := x.significand * 4 * quarter
  let below := if x.significand = significandBound / 2 ∧ x.scale ≠ 0 then quarter else 2 * quarter
  (middle - below, middle + 2 * quarter, x.significand % 2 = 0)

def readsBack (x : Binary64) (step : Nat × Nat) (count : Nat) : Bool :=
  let (low, high, closed) := roundingInterval x
  let at4 := count * step.1
  if closed then decide (low * step.2 ≤ at4) && decide (at4 ≤ high * step.2)
  else decide (low * step.2 < at4) && decide (at4 < high * step.2)

/-- The count of steps of the grid that reads back and is nearest to the number. -/
def onGrid? (x : Binary64) (power : Int) : Option Nat :=
  let step := gridStep power
  let scaled := x.units * 4 * step.2
  let low := scaled / step.1
  let rest := scaled % step.1
  let lowFits := readsBack x step low && low != 0
  let highFits := readsBack x step (low + 1)
  if lowFits && highFits then
    if rest * 2 < step.1 then some low
    else if step.1 < rest * 2 then some (low + 1)
    else some (low + low % 2)
  else if lowFits then some low
  else if highFits then some (low + 1)
  else none

def digitCount (n : Nat) : Nat := (Nat.toDigits 10 n).length

/-- The power of the leading digit of `n / d`, for `d ≤ n`; for a smaller quotient, minus the
count of decimal places up to its leading digit. -/
def leadingPower (n d : Nat) : Int :=
  if d ≤ n then (digitCount (n / d) : Int) - 1
  else
    let places := digitCount (d / n)
    if d ≤ n * Nat.pow 10 (places - 1) then -((places : Int) - 1) else -(places : Int)

def search (x : Binary64) (top : Int) (tried : Nat) : Nat → Decimal
  | 0 => ⟨x.units * Nat.pow 10 unitPlaces >>> unitPlaces, -(unitPlaces : Int)⟩
  | more + 1 =>
    let power := top - tried
    match onGrid? x power with
    | some count => ⟨count, power⟩
    | none => search x top (tried + 1) more

/-- The shortest decimal magnitude that reads back as the number. -/
def shortest (x : Binary64) : Decimal :=
  search x (leadingPower x.units (1 <<< unitPlaces) + 1) 0 19

def trimZeros (digits : List Char) : List Char := (digits.reverse.dropWhile (· = '0')).reverse

def exponentText (e : Int) : List Char :=
  match e with
  | .ofNat n => 'e' :: '+' :: Nat.toDigits 10 n
  | .negSucc n => 'e' :: '-' :: Nat.toDigits 10 (n + 1)

/-- Lays out digits whose first one has the power `lead`. -/
def layout (digits : List Char) (lead : Int) : List Char :=
  let count := digits.length
  match lead with
  | .ofNat k =>
    if k ≤ 15 then
      if count ≤ k + 1 then digits ++ List.replicate (k + 1 - count) '0' ++ ['.', '0']
      else digits.take (k + 1) ++ '.' :: digits.drop (k + 1)
    else scientific digits lead
  | .negSucc k =>
    if k + 1 ≤ 5 then '0' :: '.' :: (List.replicate k '0' ++ digits)
    else scientific digits lead
where
  scientific (digits : List Char) (lead : Int) : List Char :=
    match digits with
    | [d] => d :: exponentText lead
    | d :: rest => d :: '.' :: rest ++ exponentText lead
    | [] => exponentText lead

def text (x : Binary64) : List Char :=
  let magnitude :=
    if x.isZero then ['0', '.', '0']
    else
      let d := shortest x
      let all := Nat.toDigits 10 d.digits
      layout (trimZeros all) ((all.length : Int) - 1 + d.power)
  if x.negative then '-' :: magnitude else magnitude

end BrokerRpc.Binary64
