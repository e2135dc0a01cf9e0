import BrokerRpc.Frame.Stream
import BrokerRpc.Heartbeat
import BrokerRpc.Policy

/-! # Wires

A wire is one open connection. It carries out the orders that it was given, in their order; it cuts
the bytes that arrive into messages; and it keeps two timers, one for the next tick that it sends
and one for the silence of the other side that it bears. Each definition here is one step of its
work, and the steps come in any order.
-/
namespace BrokerRpc

inductive Order where
  | frame (message : Message)
  /-- Takes up settled intervals in milliseconds; zero turns a direction off. -/
  | heartbeats (outgoing incoming : Nat)
  | close
  deriving DecidableEq, Repr

inductive Written where
  | frame (message : Message)
  | tick
  deriving DecidableEq, Repr

def Written.bytes : Written → Bytes
  | frame message => Frame.encode message
  | tick => Frame.encode .heartbeat

abbrev WireEnd := Except Failure Unit

/-- One connection. `orders` are still to be carried out, `unread` bytes still to be cut into
messages. -/
structure Wire where
  orders : List Order := []
  written : List Written := []
  unread : Bytes := []
  sendEvery : Option Duration := none
  expectWithin : Option Duration := none
  nextTick : Option Instant := none
  deadline : Option Instant := none
  ended : Bool := false
  deriving DecidableEq, Repr

namespace Wire

def after (now : Instant) (interval : Option Duration) : Option Instant :=
  interval.map fun d => now + d.nanos

def isOver (now : Instant) (timer : Option Instant) : Bool :=
  match timer with
  | some t => t ≤ now
  | none => false

def interval (millis grace : Nat) : Option Duration :=
  if millis = 0 then none else some (.ofMillis grace)

def order (w : Wire) (o : Order) : Wire := { w with orders := w.orders ++ [o] }

/-- Writes a frame and puts off the next tick. -/
def write (w : Wire) (now : Instant) (m : Message) : Wire :=
  { w with written := w.written ++ [.frame m], nextTick := after now w.sendEvery }

/-- Takes up settled intervals. Ticks are sent early and silence is borne longer, each by the
grace of the interval. -/
def setHeartbeats (w : Wire) (now : Instant) (outgoing incoming : Nat) : Wire :=
  let sendEvery := interval outgoing (Heartbeat.reduced outgoing)
  let expectWithin := interval incoming (Heartbeat.extended incoming)
  { w with sendEvery, expectWithin, nextTick := after now sendEvery
           deadline := after now expectWithin }

def carryOut (w : Wire) (now : Instant) : Wire × Option WireEnd :=
  match w.orders with
  | [] => (w, none)
  | .frame m :: rest => ({ w with orders := rest }.write now m, none)
  | .heartbeats outgoing incoming :: rest =>
    ({ w with orders := rest }.setHeartbeats now outgoing incoming, none)
  | .close :: rest => ({ w with orders := rest }, some (.ok ()))

def carryOutAll (now : Instant) (fuel : Nat) (w : Wire) : Wire × Option WireEnd :=
  match fuel with
  | 0 => (w, none)
  | fuel + 1 =>
    if w.orders.isEmpty then (w, none)
    else
      match w.carryOut now with
      | (w, none) => carryOutAll now fuel w
      | ended => ended

/-- The tick timer runs down: a tick is written if the policy still has them on. -/
def tick (w : Wire) (policy : Policy) (now : Instant) : Wire :=
  if isOver now w.nextTick then
    let w := { w with nextTick := after now w.sendEvery }
    if policy.outgoingOn then { w with written := w.written ++ [.tick] } else w
  else w

/-- The other side was silent too long: the wire ends if the policy still minds. -/
def expire (w : Wire) (policy : Policy) (now : Instant) : Wire × Option WireEnd :=
  if isOver now w.deadline then
    if policy.incomingOn then (w, some (.error (.heartbeatExpired (w.expectWithin.getD ⟨0⟩))))
    else ({ w with deadline := after now w.expectWithin }, none)
  else (w, none)

/-- The messages among readings; ticks and malformed frames are passed over. -/
def messages (readings : List Reading) : List Message :=
  readings.filterMap fun reading =>
    match reading with
    | .ok (m, _) => if m.isHeartbeat then none else some m
    | .error _ => none

def frameTooLarge : Failure :=
  .malformedFrame ("frame exceeds " ++ Text.decimal maxFrameSize ++ " bytes")

/-- Bytes arrive: the messages that are complete now. An unfinished frame may not be larger than
the largest frame. -/
def receive (w : Wire) (now : Instant) (piece : Bytes) : Wire × List Message × Option WireEnd :=
  let (readings, unread) := Frame.feed w.unread piece
  ({ w with unread, deadline := after now w.expectWithin }, messages readings,
    if maxFrameSize < unread.length then some (.error frameTooLarge) else none)

def frames (w : Wire) : List Message :=
  w.written.filterMap fun x =>
    match x with
    | .frame m => some m
    | .tick => none

end Wire
end BrokerRpc
