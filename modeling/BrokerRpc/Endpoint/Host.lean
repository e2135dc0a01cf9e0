import BrokerRpc.Bytes
import BrokerRpc.Endpoint.DomainName
import BrokerRpc.Endpoint.Ipv6

/-! # Hosts of locators

Under a scheme of its own a host is an opaque text: it keeps its case and is never taken for a
number. Under one of the schemes of the web it is a domain name or an IPv4 address. Under both, a
host in brackets is an IPv6 address.
-/
namespace BrokerRpc

inductive LocatorFault where
  | noScheme
  | emptyHost
  | badPort
  | badDomainName
  | badIpv4
  | badIpv6
  | badHostCharacter
  deriving DecidableEq, Repr

def LocatorFault.message : LocatorFault → String
  | noScheme => "relative URL without a base"
  | emptyHost => "empty host"
  | badPort => "invalid port number"
  | badDomainName => "invalid international domain name"
  | badIpv4 => "invalid IPv4 address"
  | badIpv6 => "invalid IPv6 address"
  | badHostCharacter => "invalid domain character"

namespace Host

def isForbidden (c : Char) : Bool :=
  ['\x00', '\t', '\n', '\r', ' ', '#', '/', ':', '<', '>', '?', '@', '[', '\\', ']', '^',
   '|'].contains c

def percentByte (b : UInt8) : List Char :=
  let digit (n : Nat) : Char := (Nat.digitChar n).toUpper
  ['%', digit (b.toNat / 16), digit (b.toNat % 16)]

/-- Writes control characters and characters beyond ASCII as their bytes. -/
def percentEncode (cs : List Char) : List Char :=
  cs.flatMap fun c =>
    if c.toNat < 0x20 ∨ 0x7F ≤ c.toNat then (Bytes.ofText c.toString).flatMap percentByte else [c]

def bracketed (cs : List Char) : Except LocatorFault String :=
  if cs.getLast? = some ']' then
    match Ipv6.parse? (cs.drop 1).dropLast with
    | some pieces => .ok ("[" ++ Ipv6.text pieces ++ "]")
    | none => .error .badIpv6
  else .error .badIpv6

def opaqueText (cs : List Char) : Except LocatorFault String :=
  if cs.head? = some '[' then bracketed cs
  else if cs.any isForbidden then .error .badHostCharacter
  else .ok (String.ofList (percentEncode cs))

/-! ## Domain names -/

def percentDecode : List Char → Bytes
  | '%' :: a :: b :: rest =>
    match Text.hexValue? a, Text.hexValue? b with
    | some high, some low => UInt8.ofNat (high * 16 + low) :: percentDecode rest
    | _, _ => 37 :: percentDecode (a :: b :: rest)
  | c :: rest => Bytes.ofText c.toString ++ percentDecode rest
  | [] => []

/-- The digits of a part of an address and their base: hexadecimal behind `0x`, octal behind
another zero. -/
def radix (part : List Char) : Nat × List Char :=
  match part with
  | '0' :: 'x' :: rest => (16, rest)
  | '0' :: 'X' :: rest => (16, rest)
  | '0' :: c :: rest => (8, c :: rest)
  | _ => (10, part)

def partValue? (part : List Char) : Option Nat :=
  if part.isEmpty then none
  else
    let (base, digits) := radix part
    digits.foldlM
      (fun acc c =>
        match Text.hexValue? c with
        | some digit => if digit < base then some (acc * base + digit) else none
        | none => none)
      0

/-- The labels of a name; a dot at the end is not followed by a label. -/
def parts (name : DomainName) : List (List Char) :=
  if 1 < name.labels.length ∧ name.labels.getLast? = some [] then name.labels.dropLast
  else name.labels

def endsInNumber (name : DomainName) : Bool :=
  match (parts name).getLast? with
  | some last => (!last.isEmpty && last.all Char.isDigit) || (partValue? last).isSome
  | none => false

/-- Whether the parts are at most four numbers, each but the last one below 256 and the last one
within the remaining bytes. -/
def isAddress (name : DomainName) : Bool :=
  match (parts name).mapM partValue? with
  | none => false
  | some numbers =>
    numbers.length ≤ 4 && numbers.dropLast.all (· < 256) &&
      (numbers.getLast?.getD 0) < 1 <<< (8 * (5 - numbers.length))

def nameText (cs : List Char) : Except LocatorFault String :=
  if cs.head? = some '[' then bracketed cs
  else
    match (Bytes.toText? (percentDecode cs)).bind fun s => DomainName.ofText? s.toList with
    | none => .error .badDomainName
    | some name =>
      if name.text.isEmpty then .error .emptyHost
      else if endsInNumber name ∧ !isAddress name then .error .badIpv4
      else .ok name.text

end Host
end BrokerRpc
