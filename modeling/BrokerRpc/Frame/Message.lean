import BrokerRpc.Assoc
import BrokerRpc.Bytes
import BrokerRpc.Text.Numeral
import BrokerRpc.Frame.Command

/-! # Messages

A message is a command with ordered headers and a content. A header is written once: a second
write to a name replaces the value in place, so that names stay distinct and keep the order of
their first writes.
-/
namespace BrokerRpc

/-- Header names that the library itself reads or writes. -/
inductive HeaderName where
  | acceptVersion
  | destination
  | id
  | receipt
  | receiptId
  | transaction
  | contentLength
  | heartBeat
  | host
  deriving DecidableEq, Repr

def HeaderName.text : HeaderName → String
  | acceptVersion => "accept-version"
  | destination => "destination"
  | id => "id"
  | receipt => "receipt"
  | receiptId => "receipt-id"
  | transaction => "transaction"
  | contentLength => "content-length"
  | heartBeat => "heart-beat"
  | host => "host"

/-- Named values in the order of their first writes. -/
abbrev Headers := Assoc String String

structure Message where
  command : Command
  headers : Headers := []
  content : Bytes := []
  deriving DecidableEq, Repr

namespace Message

def new (command : Command) : Message := { command }

def heartbeat : Message := new .heartbeat

def isHeartbeat (m : Message) : Bool := m.command = .heartbeat

def withHeader (m : Message) (name value : String) : Message :=
  { m with headers := m.headers.put name value }

def withField (m : Message) (name : HeaderName) (value : String) : Message :=
  m.withHeader name.text value

/-- Attaches a content and states its length. -/
def withContent (m : Message) (content : Bytes) : Message :=
  { m.withField .contentLength (Text.decimal content.length) with content }

def header? (m : Message) (name : String) : Option String := m.headers.get? name

def field? (m : Message) (name : HeaderName) : Option String := m.header? name.text

end Message
end BrokerRpc
