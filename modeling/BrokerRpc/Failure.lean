import BrokerRpc.Duration
import BrokerRpc.Text.Quoted

/-! # Failures

A failure is given by its cause. The wording of a cause stands in one function, and its coarse
kind decides whether a policy lets the operation be tried again.
-/
namespace BrokerRpc

inductive IoKind where
  | notFound
  | permissionDenied
  | connectionRefused
  | connectionReset
  | connectionAborted
  | hostUnreachable
  | networkUnreachable
  | notConnected
  | addrInUse
  | addrNotAvailable
  | brokenPipe
  | alreadyExists
  | wouldBlock
  | invalidInput
  | invalidData
  | timedOut
  | writeZero
  | interrupted
  | unsupported
  | unexpectedEof
  | outOfMemory
  | other
  deriving DecidableEq, Repr, Inhabited

structure IoFault where
  kind : IoKind
  message : String
  deriving DecidableEq, Repr

inductive Misuse where
  | transactionRunning
  | noTransaction
  | alreadySubscribed (destination : String)
  | notSubscribed (destination : String)
  | emptyBatch
  | repeatedId (id : String)
  | notificationWithId
  | callWithoutId (method : String)
  | nullId
  | idInFlight (id : String)
  | blockingConnect
  | blockingDisconnect
  | segmentCount (id : String)
  | other (text : String)
  deriving DecidableEq, Repr

inductive Violation where
  | unreadableResponse
  | responseNotObject
  | versionMissing
  | versionUnsupported
  | idMissing
  | resultAndError
  | unresolvedCall
  | other (text : String)
  deriving DecidableEq, Repr

inductive Failure where
  | connectionFailed (fault : IoFault)
  | io (fault : IoFault)
  | tls (message : String)
  | heartbeatExpired (window : Duration)
  | closed
  | malformedFrame (message : String)
  | protocol (violation : Violation)
  | timeout (bound : Duration)
  | cancelled
  | misuse (cause : Misuse)
  | decomposition (detail : Option String)
  | subscriberFailed (message : String)
  | loopStopped
  deriving DecidableEq, Repr

/-- The coarse kind by which a policy decides on another attempt. -/
inductive FailureKind where
  | io
  | tls
  | heartbeat
  | closed
  | protocol
  | timeout
  | misuse
  deriving DecidableEq, Repr

def Misuse.message : Misuse → String
  | transactionRunning => "Transaction already running"
  | noTransaction => "No running transaction"
  | alreadySubscribed destination => "Already subscribed to " ++ destination
  | notSubscribed destination => "Not subscribed to " ++ destination
  | emptyBatch => "Empty batch"
  | repeatedId id => "Duplicate id " ++ id ++ " in batch"
  | notificationWithId => "notifications must not carry an id"
  | callWithoutId method =>
    "call to " ++ method ++ " requires an id; use notify for one-way requests"
  | nullId => "calls require a non-null id"
  | idInFlight id => "id " ++ id ++ " is already in flight"
  | blockingConnect => "blocking connect called from the reactor thread"
  | blockingDisconnect => "blocking disconnect called from the reactor thread"
  | segmentCount id => "Subscription id " ++ Text.quoted id ++ " must have exactly 4 segments"
  | other text => text

def Violation.message : Violation → String
  | unreadableResponse => "Failed to parse response"
  | responseNotObject => "response is not an object"
  | versionMissing => "'jsonrpc' field missing in node"
  | versionUnsupported => "Only jsonrpc 2.0 is supported"
  | idMissing => "Response missing id field"
  | resultAndError => "Response carries both result and error"
  | unresolvedCall => "call resolved without a response"
  | other text => text

namespace Failure

def message : Failure → String
  | connectionFailed fault => "Connection failed: " ++ fault.message
  | io fault => "I/O error: " ++ fault.message
  | tls text => "TLS error: " ++ text
  | heartbeatExpired window => "Heartbeat not received within " ++ window.text
  | closed => "Connection closed"
  | malformedFrame text => "Malformed frame: " ++ text
  | protocol violation => "Protocol violation: " ++ violation.message
  | timeout bound => "Timed out after " ++ bound.text
  | cancelled => "Call cancelled"
  | misuse cause => "Invalid operation: " ++ cause.message
  | decomposition none => "Response decomposition failed"
  | decomposition (some detail) => "Response decomposition failed: " ++ detail
  | subscriberFailed text => "Subscriber failed: " ++ text
  | loopStopped => "Reactor stopped"

def kind : Failure → FailureKind
  | connectionFailed _ | io _ => .io
  | tls _ => .tls
  | heartbeatExpired _ => .heartbeat
  | closed | loopStopped => .closed
  | malformedFrame _ | protocol _ | decomposition _ => .protocol
  | timeout _ => .timeout
  | cancelled | misuse _ | subscriberFailed _ => .misuse

/-- The failure handed to a second party. A failed decomposition is passed on as a violation with
its detail; every other failure is passed on unchanged. -/
def duplicate : Failure → Failure
  | decomposition detail => protocol (.other (detail.getD ""))
  | failure => failure

/-- The failure for a report of the operating system: an endpoint that is absent or refuses is a
failed connection. -/
def ofIo (fault : IoFault) : Failure :=
  match fault.kind with
  | .notFound | .connectionRefused => connectionFailed fault
  | _ => io fault

theorem kind_duplicate (failure : Failure) : failure.duplicate.kind = failure.kind := by
  cases failure <;> rfl

end Failure
end BrokerRpc
