import BrokerRpc.Failure

/-! # Names of failures

Every cause, coarse kind and report of the operating system has a short name, by which records and
policies refer to it.
-/
namespace BrokerRpc

namespace IoKind

/-- The kinds with their names. A kind that has no name of its own goes by the last one. -/
def names : List (IoKind × String) :=
  [(notFound, "NotFound"), (permissionDenied, "PermissionDenied"),
   (connectionRefused, "ConnectionRefused"), (connectionReset, "ConnectionReset"),
   (connectionAborted, "ConnectionAborted"), (hostUnreachable, "HostUnreachable"),
   (networkUnreachable, "NetworkUnreachable"), (notConnected, "NotConnected"),
   (addrInUse, "AddrInUse"), (addrNotAvailable, "AddrNotAvailable"), (brokenPipe, "BrokenPipe"),
   (alreadyExists, "AlreadyExists"), (wouldBlock, "WouldBlock"), (invalidInput, "InvalidInput"),
   (invalidData, "InvalidData"), (timedOut, "TimedOut"), (writeZero, "WriteZero"),
   (interrupted, "Interrupted"), (unsupported, "Unsupported"), (unexpectedEof, "UnexpectedEof"),
   (outOfMemory, "OutOfMemory"), (other, "Other")]

def ofName (name : String) : IoKind :=
  ((names.find? fun e => e.2 = name).map Prod.fst).getD other

end IoKind

namespace FailureKind

def name : FailureKind → String
  | io => "Io"
  | tls => "Tls"
  | heartbeat => "Heartbeat"
  | closed => "Closed"
  | protocol => "Protocol"
  | timeout => "Timeout"
  | misuse => "Misuse"

def all : List FailureKind := [io, tls, heartbeat, closed, protocol, timeout, misuse]

def ofName? (name : String) : Option FailureKind := all.find? fun k => k.name = name

theorem ofName?_name (k : FailureKind) : ofName? k.name = some k := by cases k <;> rfl

end FailureKind

def Failure.name : Failure → String
  | connectionFailed _ => "ConnectionFailed"
  | io _ => "Io"
  | tls _ => "Tls"
  | heartbeatExpired _ => "HeartbeatExpired"
  | closed => "Closed"
  | malformedFrame _ => "MalformedFrame"
  | protocol _ => "Protocol"
  | timeout _ => "Timeout"
  | cancelled => "Cancelled"
  | misuse _ => "Misuse"
  | decomposition _ => "Decomposition"
  | subscriberFailed _ => "SubscriberFailed"
  | loopStopped => "ReactorStopped"

end BrokerRpc
