import BrokerRpc.Failure

/-! # Policies

A policy says how often and how soon an operation is tried again, which kinds of failure allow
it, and at which intervals a connection shows signs of life. The two directions of heartbeats can
be switched while the policy is in use; a direction without an interval stays off.
-/
namespace BrokerRpc

structure Policy where
  retryTimeout : Duration
  retryNumber : Nat
  incoming : Duration
  outgoing : Duration
  retryable : List FailureKind
  identifier : Option String
  incomingOn : Bool
  outgoingOn : Bool
  deriving DecidableEq, Repr

namespace Policy

def hasInterval (d : Duration) : Bool := d.nanos != 0

/-- A policy with each direction on that has an interval. -/
def new (retryTimeout : Duration) (retryNumber : Nat) (incoming outgoing : Duration)
    (retryable : List FailureKind) : Policy :=
  { retryTimeout, retryNumber, incoming, outgoing, retryable, identifier := none
    incomingOn := hasInterval incoming, outgoingOn := hasInterval outgoing }

/-- A policy without outgoing heartbeats under which no failure allows another attempt. -/
def withRetry (retryTimeout : Duration) (retryNumber : Nat) (incoming : Duration) : Policy :=
  new retryTimeout retryNumber incoming ⟨0⟩ []

/-- Three attempts, ten seconds apart, after socket failures; no heartbeats. -/
def standard : Policy := new (.ofSeconds 10) 3 ⟨0⟩ ⟨0⟩ [.io]

instance : Inhabited Policy := ⟨standard⟩

def withIdentifier (p : Policy) (identifier : String) : Policy :=
  { p with identifier := some identifier }

def isRetryable (p : Policy) (failure : Failure) : Bool := p.retryable.contains failure.kind

def setIncoming (p : Policy) (on : Bool) : Policy :=
  { p with incomingOn := on && hasInterval p.incoming }

def setOutgoing (p : Policy) (on : Bool) : Policy :=
  { p with outgoingOn := on && hasInterval p.outgoing }

/-- The same policy with both switches as at its creation. -/
def renewed (p : Policy) : Policy :=
  { p with incomingOn := hasInterval p.incoming, outgoingOn := hasInterval p.outgoing }

def offeredOutgoing (p : Policy) : Duration := if p.outgoingOn then p.outgoing else ⟨0⟩

def offeredIncoming (p : Policy) : Duration := if p.incomingOn then p.incoming else ⟨0⟩

theorem isRetryable_duplicate (p : Policy) (failure : Failure) :
    p.isRetryable failure.duplicate = p.isRetryable failure := by
  simp [isRetryable, Failure.kind_duplicate]

end Policy
end BrokerRpc
