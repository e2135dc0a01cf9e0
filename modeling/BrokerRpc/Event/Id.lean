import BrokerRpc.Failure
import BrokerRpc.Text.Split

/-! # Event ids

An event is addressed by four segments with bars between them. A subscription names the events it
wants in the same form, where a star stands for any segment. A star in the id of an event is an
ordinary text.
-/
namespace BrokerRpc

structure EventId where
  receiver : String
  component : String
  operation : String
  unique : String
  deriving DecidableEq, Repr

namespace EventId

def delimiter : Char := '|'

def wildcard : String := "*"

def segments (id : EventId) : List String :=
  [id.receiver, id.component, id.operation, id.unique]

def text (id : EventId) : String := delimiter.toString.intercalate id.segments

def parse (s : String) : Except Failure EventId :=
  match Text.splitAt delimiter s.toList with
  | [receiver, component, operation, unique] =>
    .ok ⟨String.ofList receiver, String.ofList component, String.ofList operation,
      String.ofList unique⟩
  | _ => .error (.misuse (.segmentCount s))

def all : EventId := ⟨wildcard, wildcard, wildcard, wildcard⟩

def admits (ours theirs : String) : Bool := ours = wildcard || ours = theirs

def wants (id event : EventId) : Bool :=
  admits id.receiver event.receiver && admits id.component event.component &&
    admits id.operation event.operation && admits id.unique event.unique

theorem wants_self (id : EventId) : id.wants id = true := by
  simp [wants, admits]

theorem wants_all (event : EventId) : all.wants event = true := by
  simp [wants, admits, all]

end EventId
end BrokerRpc
