import BrokerRpc.Event.Id
import BrokerRpc.Json.Value

/-! # Subscriptions

A subscription keeps the events that wait for its subscriber and the count of events the
subscriber has asked for. At most one delivery job works for it at a time: the job takes one event
after the other and ends when nothing waits or nothing more is asked for. Each definition here is
one step that nothing can interrupt.
-/
namespace BrokerRpc

/-- A point in calendar time, in nanoseconds since the start of 1970. -/
abbrev Timestamp := Int

structure Event where
  id : EventId
  params : Json
  receivedAt : Timestamp
  deriving DecidableEq, Repr

inductive Signal where
  | subscribed
  | next (event : Event)
  | error (failure : Failure)
  | complete
  deriving DecidableEq, Repr

structure Subscription where
  id : EventId
  backlog : List Event := []
  demand : Nat := 0
  /-- A delivery job works for the subscription. -/
  draining : Bool := false
  cancelled : Bool := false
  /-- The subscriber has been told of an error or of completion. -/
  terminated : Bool := false
  deriving DecidableEq, Repr

namespace Subscription

/-- A demand at this bound is unlimited. -/
def unlimited : Nat := 0xffffffffffffffff

def offer (s : Subscription) (event : Event) : Subscription :=
  if s.cancelled then s else { s with backlog := s.backlog ++ [event] }

def ready (s : Subscription) : Bool := !s.cancelled && s.demand != 0 && !s.backlog.isEmpty

def wantsJob (s : Subscription) : Bool := !s.draining && s.ready

def grant (s : Subscription) (n : Nat) : Subscription :=
  { s with demand := min (s.demand + n) unlimited }

def spend (demand : Nat) : Nat := if demand = unlimited then demand else demand - 1

def take (s : Subscription) : Option Event × Subscription :=
  match s.ready, s.backlog with
  | true, event :: rest => (some event, { s with backlog := rest, demand := spend s.demand })
  | _, _ => (none, { s with draining := false })

def cancel (s : Subscription) : Subscription := { s with cancelled := true, backlog := [] }

/-- Ends the subscription and its delivery job after the subscriber failed. The subscriber is told
unless it was told of an end before. -/
def fail (s : Subscription) (failure : Failure) : Subscription × List Signal :=
  ({ s with cancelled := true, draining := false, backlog := [], terminated := true },
    if s.terminated then [] else [.error failure])

/-- Ends the subscription because no more events come. The subscriber is told unless it was told of
an end before. -/
def finish (s : Subscription) : Subscription × List Signal :=
  ({ s with cancelled := true, backlog := [], terminated := true },
    if s.terminated then [] else [.complete])

def expire (s : Subscription) (cutoff : Timestamp) : Subscription :=
  { s with backlog := s.backlog.filter fun event => cutoff ≤ event.receivedAt }

end Subscription
end BrokerRpc
