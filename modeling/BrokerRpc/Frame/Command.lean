/-! # Commands

The first line of a frame names its command. A heartbeat is a bare line feed and has no name on
the wire.
-/
namespace BrokerRpc

inductive Command where
  | connect
  | connected
  | subscribe
  | unsubscribe
  | send
  | message
  | receipt
  | error
  | disconnect
  | begin
  | commit
  | heartbeat
  deriving DecidableEq, Repr, Inhabited

namespace Command

def wireName : Command → String
  | connect => "CONNECT"
  | connected => "CONNECTED"
  | subscribe => "SUBSCRIBE"
  | unsubscribe => "UNSUBSCRIBE"
  | send => "SEND"
  | message => "MESSAGE"
  | receipt => "RECEIPT"
  | error => "ERROR"
  | disconnect => "DISCONNECT"
  | begin => "BEGIN"
  | commit => "COMMIT"
  | heartbeat => ""

def text : Command → String
  | heartbeat => "HEARTBEAT"
  | c => c.wireName

/-- The command that a first line names. `STOMP` is the second name of `CONNECT`. -/
def ofWireName? : String → Option Command
  | "CONNECT" => some connect
  | "STOMP" => some connect
  | "CONNECTED" => some connected
  | "SUBSCRIBE" => some subscribe
  | "UNSUBSCRIBE" => some unsubscribe
  | "SEND" => some send
  | "MESSAGE" => some message
  | "RECEIPT" => some receipt
  | "ERROR" => some error
  | "DISCONNECT" => some disconnect
  | "BEGIN" => some begin
  | "COMMIT" => some commit
  | _ => none

theorem ofWireName?_wireName {c : Command} (h : c ≠ heartbeat) : ofWireName? c.wireName = some c := by
  cases c <;> first | rfl | exact absurd rfl h

end Command
end BrokerRpc
