import BrokerRpc.Destinations
import BrokerRpc.Endpoint
import BrokerRpc.Policy
import BrokerRpc.Rpc.Request
import BrokerRpc.Text.Blank

/-! # Settings

A client is set up by eleven settings, each with a standard value. A file may give some of them,
and an environment may then override some. Each setting has one name, which stands in the file as
it is and in the environment in capitals behind a common beginning.
-/
namespace BrokerRpc

/-- The settings, in the order in which they are written and overridden. -/
inductive Setting where
  | url
  | retryTimeoutMs
  | retryNumber
  | incomingHeartbeatMs
  | outgoingHeartbeatMs
  | handshakeTimeoutMs
  | requestDestination
  | responseDestination
  | parallelism
  | eventRetentionHours
  | trustAnchor
  deriving DecidableEq, Repr

namespace Setting

def all : List Setting :=
  [url, retryTimeoutMs, retryNumber, incomingHeartbeatMs, outgoingHeartbeatMs, handshakeTimeoutMs,
   requestDestination, responseDestination, parallelism, eventRetentionHours, trustAnchor]

theorem mem_all (k : Setting) : k ∈ all := by cases k <;> decide

def name : Setting → String
  | url => "url"
  | retryTimeoutMs => "retry_timeout_ms"
  | retryNumber => "retry_number"
  | incomingHeartbeatMs => "incoming_heartbeat_ms"
  | outgoingHeartbeatMs => "outgoing_heartbeat_ms"
  | handshakeTimeoutMs => "handshake_timeout_ms"
  | requestDestination => "request_destination"
  | responseDestination => "response_destination"
  | parallelism => "parallelism"
  | eventRetentionHours => "event_retention_hours"
  | trustAnchor => "trust_anchor"

def variableName : Setting → String
  | url => "STOMP_JSONRPC_URL"
  | retryTimeoutMs => "STOMP_JSONRPC_RETRY_TIMEOUT_MS"
  | retryNumber => "STOMP_JSONRPC_RETRY_NUMBER"
  | incomingHeartbeatMs => "STOMP_JSONRPC_INCOMING_HEARTBEAT_MS"
  | outgoingHeartbeatMs => "STOMP_JSONRPC_OUTGOING_HEARTBEAT_MS"
  | handshakeTimeoutMs => "STOMP_JSONRPC_HANDSHAKE_TIMEOUT_MS"
  | requestDestination => "STOMP_JSONRPC_REQUEST_DESTINATION"
  | responseDestination => "STOMP_JSONRPC_RESPONSE_DESTINATION"
  | parallelism => "STOMP_JSONRPC_PARALLELISM"
  | eventRetentionHours => "STOMP_JSONRPC_EVENT_RETENTION_HOURS"
  | trustAnchor => "STOMP_JSONRPC_TRUST_ANCHOR"

inductive Content where
  | text
  | number (bound : Nat)
  | path
  deriving DecidableEq, Repr

def content : Setting → Content
  | url | requestDestination | responseDestination => .text
  | retryNumber => .number Text.halfWordBound
  | trustAnchor => .path
  | _ => .number Text.wordBound

abbrev Content.Value : Content → Type
  | text => String
  | number _ => Nat
  | path => Option String

abbrev Value (k : Setting) : Type := k.content.Value

/-- Reads a value from the text of a variable: a number may stand between blanks. -/
def Content.read? : (c : Content) → String → Option c.Value
  | text, s => some s
  | number bound, s => Text.below? bound (Text.trim s)
  | path, s => some (some s)

def Content.shape : Content → Json.Shape
  | text => .text
  | number bound => .whole 0 (bound - 1)
  | path => .optional .text

def Content.ofJson : (c : Content) → Json → c.Value
  | text, v => Request.textOf (some v)
  | number _, v => (RpcError.numberOf (some v)).toNat
  | path, .str s => some s
  | path, _ => none

def Content.toJson : (c : Content) → c.Value → Json
  | text, s => .str s
  | number _, n => .int n
  | path, some s => .str s
  | path, none => .null

end Setting

/-- A computation that breaks down, and what it says. -/
structure Panic where
  message : String
  deriving DecidableEq, Repr

def Panic.overflow : Panic := ⟨"attempt to multiply with overflow"⟩

/-- The product of two 64-bit words, which has to be a word as well. -/
def wordProduct (a b : Nat) : Except Panic Nat :=
  if a * b < Text.wordBound then .ok (a * b) else .error .overflow

structure Settings where
  url : String
  retryTimeoutMs : Nat
  retryNumber : Nat
  incomingHeartbeatMs : Nat
  outgoingHeartbeatMs : Nat
  handshakeTimeoutMs : Nat
  requestDestination : String
  responseDestination : String
  parallelism : Nat
  eventRetentionHours : Nat
  trustAnchor : Option String
  deriving DecidableEq, Repr

namespace Settings

def standard : Settings :=
  { url := "stomp://localhost:61613", retryTimeoutMs := 10000, retryNumber := 3
    incomingHeartbeatMs := 0, outgoingHeartbeatMs := 0, handshakeTimeoutMs := 10000
    requestDestination := Destinations.standard.requests
    responseDestination := Destinations.standard.responses
    parallelism := 4, eventRetentionHours := 3, trustAnchor := none }

instance : Inhabited Settings := ⟨standard⟩

def get (s : Settings) : (k : Setting) → k.Value
  | .url => s.url
  | .retryTimeoutMs => s.retryTimeoutMs
  | .retryNumber => s.retryNumber
  | .incomingHeartbeatMs => s.incomingHeartbeatMs
  | .outgoingHeartbeatMs => s.outgoingHeartbeatMs
  | .handshakeTimeoutMs => s.handshakeTimeoutMs
  | .requestDestination => s.requestDestination
  | .responseDestination => s.responseDestination
  | .parallelism => s.parallelism
  | .eventRetentionHours => s.eventRetentionHours
  | .trustAnchor => s.trustAnchor

def set (s : Settings) : (k : Setting) → k.Value → Settings
  | .url, x => { s with url := x }
  | .retryTimeoutMs, x => { s with retryTimeoutMs := x }
  | .retryNumber, x => { s with retryNumber := x }
  | .incomingHeartbeatMs, x => { s with incomingHeartbeatMs := x }
  | .outgoingHeartbeatMs, x => { s with outgoingHeartbeatMs := x }
  | .handshakeTimeoutMs, x => { s with handshakeTimeoutMs := x }
  | .requestDestination, x => { s with requestDestination := x }
  | .responseDestination, x => { s with responseDestination := x }
  | .parallelism, x => { s with parallelism := x }
  | .eventRetentionHours, x => { s with eventRetentionHours := x }
  | .trustAnchor, x => { s with trustAnchor := x }

theorem get_set (s : Settings) (k : Setting) (x : k.Value) : (s.set k x).get k = x := by
  cases k <;> rfl

theorem get_set_of_ne (s : Settings) {k l : Setting} (x : k.Value) (h : l ≠ k) :
    (s.set k x).get l = s.get l := by
  cases k <;> cases l <;> (try contradiction) <;> rfl

/-! ## What the settings stand for -/

def endpoint (s : Settings) : Except Endpoint.Fault Endpoint := Endpoint.parse s.url

/-- The policy that the settings ask for; socket failures allow another attempt. -/
def policy (s : Settings) : Policy :=
  Policy.new (.ofMillis s.retryTimeoutMs) s.retryNumber (.ofMillis s.incomingHeartbeatMs)
    (.ofMillis s.outgoingHeartbeatMs) Policy.standard.retryable

def destinations (s : Settings) : Destinations :=
  { requests := s.requestDestination, responses := s.responseDestination }

def handshakeTimeout (s : Settings) : Duration := .ofMillis s.handshakeTimeoutMs

def eventRetentionSeconds (s : Settings) : Except Panic Nat := do
  wordProduct (← wordProduct s.eventRetentionHours 60) 60

def eventRetention (s : Settings) : Except Panic Duration :=
  s.eventRetentionSeconds.map .ofSeconds

end Settings
end BrokerRpc
