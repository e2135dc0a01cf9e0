/-! # Binary fractions of 64 bits

A finite number in binary64 is a sign and `significand * 2 ^ scale` units, where a unit is
`2 ^ -1074`. Every result is the exact value rounded to the nearest such number, a tie going to
the even significand.
-/
namespace BrokerRpc

/-- A finite binary64 number: sign, significand below `2 ^ 53` and the power of two by which the
significand counts units. -/
structure Binary64 where
  negative : Bool
  significand : Nat
  scale : Nat
  deriving DecidableEq, Repr, Inhabited

namespace Binary64

def significandBound : Nat := 0x20000000000000

def maxScale : Nat := 2045

/-- The number of units in one is `2 ^ unitPlaces`. -/
def unitPlaces : Nat := 1074

def zero (negative : Bool) : Binary64 := ⟨negative, 0, 0⟩

def isZero (x : Binary64) : Bool := x.significand = 0

def units (x : Binary64) : Nat := x.significand <<< x.scale

/-- The quotient of two counts rounded to the nearest count, a tie going to the even one. -/
def divideEven (n d : Nat) : Nat :=
  let low := n / d
  let rest := n % d
  if rest * 2 < d then low
  else if d < rest * 2 then low + 1
  else low + low % 2

/-- The number nearest to `n / d` units; `none` beyond the largest finite number. -/
def ofUnits? (negative : Bool) (n d : Nat) : Option Binary64 :=
  let scale := (n / d).log2 - 52
  let rounded := divideEven n (d <<< scale)
  let x : Binary64 :=
    if rounded = significandBound then ⟨negative, rounded / 2, scale + 1⟩
    else ⟨negative, rounded, scale⟩
  if maxScale < x.scale then none else some x

def ofNat? (negative : Bool) (n : Nat) : Option Binary64 :=
  ofUnits? negative (n <<< unitPlaces) 1

/-- The rounded product of two magnitudes, with the sign of the first. -/
def mul? (x y : Binary64) : Option Binary64 :=
  ofUnits? x.negative (x.units * y.units) (1 <<< unitPlaces)

def div? (x y : Binary64) : Option Binary64 :=
  ofUnits? x.negative (x.units <<< unitPlaces) y.units

end Binary64
end BrokerRpc
