import BrokerRpc.Assoc
import BrokerRpc.Failure

/-! # Slots

A slot holds one instance that everybody shares. It is made on first use; one that was closed by
somebody who holds it is replaced on the next use. Each instance has a number of its own.
-/
namespace BrokerRpc

/-- A slot. `made` holds every instance ever made, by its number, and `alive` the numbers of those
that are not closed. -/
structure Slot (α : Type) where
  current : Option Nat := none
  made : Assoc Nat α := []
  alive : List Nat := []
  deriving DecidableEq, Repr

namespace Slot

variable {α : Type}

def isAlive (s : Slot α) (number : Nat) : Bool := s.alive.contains number

/-- The instance that is in the slot and not closed. -/
def shared? (s : Slot α) : Option Nat := s.current.filter s.isAlive

def make (s : Slot α) (instance_ : α) : Nat × Slot α :=
  let number := s.made.length
  (number,
    { current := some number, made := s.made ++ [(number, instance_)]
      alive := s.alive ++ [number] })

/-- The shared instance, made now if there is none. What is built is used only then; a failure
leaves the slot as it is. -/
def getOrMake (s : Slot α) (build : Unit → Except Failure α) : Except Failure (Nat × Slot α) :=
  match s.shared? with
  | some number => .ok (number, s)
  | none =>
    match build () with
    | .ok x => .ok (s.make x)
    | .error failure => .error failure

def close (s : Slot α) (number : Nat) : Slot α :=
  { s with alive := s.alive.filter (· ≠ number) }

def release (s : Slot α) : Slot α :=
  match s.current with
  | some number => { s.close number with current := none }
  | none => s

end Slot
end BrokerRpc
