import BrokerRpc.Event.Subscription
import BrokerRpc.Text.Numeral

/-! # Calendar text of timestamps

A timestamp is written as a date and a time of day in universal time. The fraction of a second has
three, six or nine places, as few as hold it, and is left out if it is zero.
-/
namespace BrokerRpc

structure CivilDate where
  year : Int
  month : Nat
  day : Nat
  deriving DecidableEq, Repr

namespace CivilDate

/-- The day with the given number, where day 0 is the first of January 1970. Years are counted from
March on, so that a leap day is the last day of its year; 400 years have 146097 days. -/
def ofDayNumber (n : Int) : CivilDate :=
  let shifted := n + 719468
  let era := shifted.fdiv 146097
  let ofEra := (shifted.fmod 146097).toNat
  let yearOfEra := (ofEra - ofEra / 1460 + ofEra / 36524 - ofEra / 146096) / 365
  let ofYear := ofEra - (365 * yearOfEra + yearOfEra / 4 - yearOfEra / 100)
  let shiftedMonth := (5 * ofYear + 2) / 153
  let month := if shiftedMonth < 10 then shiftedMonth + 3 else shiftedMonth - 9
  { year := era * 400 + yearOfEra + (if month ≤ 2 then 1 else 0)
    month, day := ofYear - (153 * shiftedMonth + 2) / 5 + 1 }

end CivilDate

namespace Timestamp

def padded (width n : Nat) : String :=
  let digits := Nat.toDigits 10 n
  String.ofList (List.replicate (width - digits.length) '0' ++ digits)

/-- The written year: four digits, or a sign and more digits outside of them. -/
def yearText (year : Int) : String :=
  if 0 ≤ year ∧ year ≤ 9999 then padded 4 year.toNat
  else (if year < 0 then "-" else "+") ++ padded 4 year.natAbs

def fractionText (nanos : Nat) : String :=
  if nanos = 0 then ""
  else if nanos % 1000000 = 0 then "." ++ padded 3 (nanos / 1000000)
  else if nanos % 1000 = 0 then "." ++ padded 6 (nanos / 1000)
  else "." ++ padded 9 nanos

def text (t : Timestamp) : String :=
  let seconds := t.fdiv 1000000000
  let date := CivilDate.ofDayNumber (seconds.fdiv 86400)
  let ofDay := (seconds.fmod 86400).toNat
  yearText date.year ++ "-" ++ padded 2 date.month ++ "-" ++ padded 2 date.day ++ "T" ++
    padded 2 (ofDay / 3600) ++ ":" ++ padded 2 (ofDay / 60 % 60) ++ ":" ++
    padded 2 (ofDay % 60) ++ fractionText (t.fmod 1000000000).toNat ++ "+00:00"

end Timestamp
end BrokerRpc
