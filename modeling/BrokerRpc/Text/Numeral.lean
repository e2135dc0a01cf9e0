/-! # Numerals

Unsigned numbers are written in decimal, without leading zeros. Reading also takes a leading plus
sign and leading zeros, and refuses a number at or above the bound of its field.
-/
namespace BrokerRpc.Text

def decimal (n : Nat) : String := String.ofList (Nat.toDigits 10 n)

/-- The value of a row of digits, read after the value `acc`; `none` at a character that is no
digit. -/
def digitsValue? (acc : Nat) : List Char → Option Nat
  | [] => some acc
  | c :: rest => if c.isDigit then digitsValue? (acc * 10 + (c.toNat - '0'.toNat)) rest else none

/-- Reads one digit or more after an optional plus sign. -/
def natural? (cs : List Char) : Option Nat :=
  match cs with
  | '+' :: digits => if digits.isEmpty then none else digitsValue? 0 digits
  | digits => if digits.isEmpty then none else digitsValue? 0 digits

def below? (bound : Nat) (s : String) : Option Nat :=
  (natural? s.toList).filter (· < bound)

def hexValue? (c : Char) : Option Nat :=
  if c.isDigit then some (c.toNat - '0'.toNat)
  else if 'a' ≤ c ∧ c ≤ 'f' then some (c.toNat - 'a'.toNat + 10)
  else if 'A' ≤ c ∧ c ≤ 'F' then some (c.toNat - 'A'.toNat + 10)
  else none

def wordBound : Nat := 0x10000000000000000

def halfWordBound : Nat := 0x100000000

def maxWord : Nat := 0xffffffffffffffff

end BrokerRpc.Text
