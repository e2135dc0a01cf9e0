import BrokerRpc.Endpoint.Host
import BrokerRpc.Text.Numeral

/-! # Locators

A locator is a scheme, a colon and, behind two slashes, a host with an optional port; what follows
is not looked at. Blanks at both ends, tabs and line breaks do not count.
-/
namespace BrokerRpc

structure Locator where
  scheme : String
  host : Option String
  port : Option Nat
  deriving DecidableEq, Repr

namespace Locator

inductive SchemeKind where
  | file
  | web
  | other
  deriving DecidableEq, Repr

def kindOf (scheme : String) : SchemeKind :=
  if scheme = "file" then .file
  else if ["http", "https", "ws", "wss", "ftp"].contains scheme then .web
  else .other

/-- Drops control characters and spaces at both ends, and tabs and line breaks everywhere. -/
def cleaned (s : String) : List Char :=
  let edge (c : Char) : Bool := c.toNat ≤ 0x20
  let inner := ((s.toList.dropWhile edge).reverse.dropWhile edge).reverse
  inner.filter fun c => c ≠ '\t' ∧ c ≠ '\n' ∧ c ≠ '\r'

def isSchemeChar (c : Char) : Bool := c.isAlphanum || c = '+' || c = '-' || c = '.'

def splitScheme? (cs : List Char) : Option (String × List Char) :=
  match cs with
  | [] => none
  | first :: _ =>
    if first.isAlpha then
      match cs.dropWhile isSchemeChar with
      | ':' :: rest => some (String.ofList ((cs.takeWhile isSchemeChar).map Char.toLower), rest)
      | _ => none
    else none

def endsAuthority (kind : SchemeKind) (c : Char) : Bool :=
  c = '/' || c = '?' || c = '#' || (c = '\\' && kind != .other)

def authority (kind : SchemeKind) (cs : List Char) : List Char × List Char :=
  (cs.takeWhile (!endsAuthority kind ·), cs.dropWhile (!endsAuthority kind ·))

/-- The user part before the last `@`, if there is one, and what follows it. -/
def splitUser (cs : List Char) : Option (List Char) × List Char :=
  let back := cs.reverse
  match back.dropWhile (· ≠ '@') with
  | [] => (none, cs)
  | _ :: user => (some user.reverse, (back.takeWhile (· ≠ '@')).reverse)

def isNamed : Option (List Char) → Bool
  | none => false
  | some user => user ≠ [] ∧ user ≠ [':']

def splitHost (inside : Bool) : List Char → List Char × List Char
  | [] => ([], [])
  | c :: rest =>
    if c = ':' ∧ !inside then ([], c :: rest)
    else
      let (host, after) := splitHost (if c = '[' then true else if c = ']' then false else inside) rest
      (c :: host, after)

def readPort (acc : Option Nat) : List Char → Except LocatorFault (Option Nat)
  | [] => .ok acc
  | c :: rest =>
    if c.isDigit then
      let n := acc.getD 0 * 10 + (c.toNat - '0'.toNat)
      if n < 0x10000 then readPort (some n) rest else .error .badPort
    else if c = '\\' then .ok acc
    else .error .badPort

def ofAuthority (scheme : String) (kind : SchemeKind) (cs : List Char) :
    Except LocatorFault Locator := do
  let (part, after) := authority kind cs
  let (user, rest) := splitUser part
  if user = some [] ∧ rest.isEmpty ∧ !after.isEmpty then throw .emptyHost
  let (name, portPart) := splitHost false rest
  if kind = .web ∧ name.isEmpty then throw .emptyHost
  let host ← if kind = .web then Host.nameText name else Host.opaqueText name
  if name.isEmpty ∧ !portPart.isEmpty then throw .emptyHost
  let port ← readPort none (portPart.drop 1)
  if name.isEmpty ∧ isNamed user then throw .emptyHost
  return { scheme, host := if name.isEmpty then none else some host, port }

def isDrive : List Char → Bool
  | [letter, mark] => letter.isAlpha && (mark = ':' || mark = '|')
  | _ => false

/-- Checks the host of a file, unless a drive letter stands in its place. -/
def checkFile (cs : List Char) : Except LocatorFault Unit :=
  match cs with
  | a :: b :: rest =>
    if (a = '/' ∨ a = '\\') ∧ (b = '/' ∨ b = '\\') then
      let host := (authority .file rest).1
      if host.isEmpty ∨ isDrive host then .ok () else (Host.nameText host).map fun _ => ()
    else .ok ()
  | _ => .ok ()

def parse (s : String) : Except LocatorFault Locator :=
  match splitScheme? (cleaned s) with
  | none => .error .noScheme
  | some (scheme, rest) =>
    match kindOf scheme with
    | .file => (checkFile rest).map fun _ => { scheme, host := none, port := none }
    | .web =>
      ofAuthority scheme .web (rest.dropWhile fun c => c = '/' || c = '\\')
    | .other =>
      match rest with
      | '/' :: '/' :: rest => ofAuthority scheme .other rest
      | _ => .ok { scheme, host := none, port := none }

end Locator
end BrokerRpc
