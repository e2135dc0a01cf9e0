import BrokerRpc.Link.Wire

/-! # Links

A link is a way to one remote side that can be opened again and again. It is closed, or it is being
dialled, or one wire is open; a link that was closed for good stays stopped. Frames that are sent
while it is dialled are kept for the wire that opens, and a dial that fails drops them. Each
definition here is one step.
-/
namespace BrokerRpc

abbrev Waiter := Nat

inductive LinkState where
  | closed
  /-- A dial is under way. `backlog` is written once it succeeds. -/
  | connecting (backlog : List Message) (waiters : List Waiter)
  | opened (generation : Nat)
  | stopped
  deriving DecidableEq, Repr

structure Resolution where
  waiter : Waiter
  result : Except Failure Unit
  deriving Repr

/-- A link. An accepted one has no remote side that could be dialled. `wires` holds every wire
ever opened, by its generation; `running` says whether the loop that works for the link is. -/
structure Link where
  remote : Option (String × Nat)
  policy : Policy
  state : LinkState := .closed
  generation : Nat := 0
  wires : Assoc Nat Wire := []
  nextWaiter : Waiter := 0
  running : Bool := true
  deriving DecidableEq, Repr

namespace Link

def new (host : String) (port : Nat) (policy : Policy) : Link :=
  { remote := some (host, port), policy }

def accepted : Link :=
  { remote := none, policy := .withRetry ⟨0⟩ 1 ⟨0⟩, state := .opened 1, generation := 1
    wires := [(1, {})] }

def isOpen (l : Link) : Bool :=
  match l.state with
  | .opened _ => true
  | _ => false

def isConnecting (l : Link) : Bool :=
  match l.state with
  | .connecting _ _ => true
  | _ => false

def isLive (l : Link) (generation : Nat) : Bool :=
  match l.wires.get? generation with
  | some w => !w.ended
  | none => false

def change (l : Link) (generation : Nat) (f : Wire → Wire) : Link :=
  { l with wires := l.wires.modify generation f }

/-! ## What callers do -/

def dialRefusal? (l : Link) : Option Failure :=
  if l.remote.isNone then some .closed else if l.running then none else some .loopStopped

inductive Opening where
  | settled (result : Except Failure Unit)
  /-- The waiter has to wait for a dial; `dials` says whether it has to be started. -/
  | awaiting (waiter : Waiter) (dials : Bool)
  deriving Repr

def awaiting (l : Link) (backlog : List Message) (waiters : List Waiter) (dials : Bool) :
    Link × Opening :=
  ({ l with state := .connecting backlog (waiters ++ [l.nextWaiter])
            nextWaiter := l.nextWaiter + 1 },
    .awaiting l.nextWaiter dials)

def connectOnce (l : Link) : Link × Opening :=
  match l.state with
  | .opened _ => (l, .settled (.ok ()))
  | .stopped => (l, .settled (.error .closed))
  | .connecting backlog waiters => l.awaiting backlog waiters false
  | .closed =>
    match l.dialRefusal? with
    | some failure => (l, .settled (.error failure))
    | none => l.awaiting [] [] true

/-- Starts to open a closed link and says whether a dial has to be started. -/
def reconnect (l : Link) : Except Failure (Link × Bool) :=
  match l.state with
  | .closed =>
    match l.dialRefusal? with
    | some failure => .error failure
    | none => .ok ({ l with state := .connecting [] [] }, true)
  | .stopped => .error .closed
  | _ => .ok (l, false)

/-- Accepts a frame and says whether a dial has to be started for it. -/
def send (l : Link) (m : Message) : Except Failure (Link × Bool) :=
  match l.state with
  | .opened generation =>
    if l.isLive generation then .ok (l.change generation (·.order (.frame m)), false)
    else .error .closed
  | .connecting backlog waiters =>
    .ok ({ l with state := .connecting (backlog ++ [m]) waiters }, false)
  | .closed =>
    match l.dialRefusal? with
    | some failure => .error failure
    | none => .ok ({ l with state := .connecting [m] [] }, true)
  | .stopped => .error .closed

def setHeartbeats (l : Link) (outgoing incoming : Nat) : Link :=
  match l.state with
  | .opened generation => l.change generation (·.order (.heartbeats outgoing incoming))
  | _ => l

def resolveAll (waiters : List Waiter) (result : Except Failure Unit) : List Resolution :=
  waiters.map fun waiter => { waiter, result }

/-- Closes the link for good. The open wire still carries out the orders it has. -/
def close (l : Link) : Link × List Resolution :=
  match l.state with
  | .opened generation =>
    ({ l with state := .stopped }.change generation (·.order .close), [])
  | .connecting _ waiters => ({ l with state := .stopped }, resolveAll waiters (.error .closed))
  | _ => ({ l with state := .stopped }, [])

def setPolicy (l : Link) (policy : Policy) : Link := { l with policy }

/-! ## How a dial ends -/

/-- A dial failed. The last part says whether the link was still being dialled. -/
def dialFailed (l : Link) (failure : Failure) : Link × List Resolution × Bool :=
  match l.state with
  | .connecting _ waiters =>
    ({ l with state := .closed }, resolveAll waiters (.error failure.duplicate), true)
  | _ => (l, [], false)

/-- A dial succeeded: a wire opens that writes the greeting and then the backlog. A link that was
stopped meanwhile drops the connection. -/
def dialSucceeded (l : Link) (greeting : List Message) : Link × List Resolution :=
  let generation := l.generation + 1
  match l.state with
  | .connecting backlog waiters =>
    ({ l with
        state := .opened generation
        generation
        wires := l.wires ++ [(generation, { orders := (greeting ++ backlog).map .frame })] },
      resolveAll waiters (.ok ()))
  | _ => ({ l with state := .stopped, generation }, [])

/-! ## What wires do -/

/-- A wire ended. The link closes if that wire was the open one; an accepted link stops. -/
def wireEnded (l : Link) (generation : Nat) : Link :=
  let l := l.change generation fun w => { w with ended := true }
  if l.state = .opened generation then
    { l with state := if l.remote.isSome then .closed else .stopped }
  else l

def lost? : WireEnd → Option Failure
  | .ok () => none
  | .error failure => some failure

def take (l : Link) (generation : Nat) (step : Wire × Option WireEnd) : Link × Option Failure :=
  let l := l.change generation fun _ => step.1
  match step.2 with
  | none => (l, none)
  | some ended => (l.wireEnded generation, lost? ended)

def onWire (l : Link) (generation : Nat) (step : Wire → Wire × Option WireEnd) :
    Link × Option Failure :=
  match l.wires.get? generation with
  | some w => if w.ended then (l, none) else l.take generation (step w)
  | none => (l, none)

def carryOut (l : Link) (generation : Nat) (now : Instant) : Link × Option Failure :=
  l.onWire generation (·.carryOut now)

def carryOutAll (l : Link) (generation : Nat) (now : Instant) : Link × Option Failure :=
  l.onWire generation fun w => w.carryOutAll now w.orders.length

def tick (l : Link) (generation : Nat) (now : Instant) : Link :=
  (l.onWire generation fun w => (w.tick l.policy now, none)).1

def expire (l : Link) (generation : Nat) (now : Instant) : Link × Option Failure :=
  l.onWire generation (·.expire l.policy now)

def fail (l : Link) (generation : Nat) (failure : Failure) : Link × Option Failure :=
  l.onWire generation fun w => (w, some (.error failure))

/-- Bytes arrive on a wire: the messages that are complete now, and how the wire ends, if it does.
The end is taken up after the messages were handled. -/
def receive (l : Link) (generation : Nat) (now : Instant) (piece : Bytes) :
    Link × List Message × Option WireEnd :=
  match l.wires.get? generation with
  | some w =>
    if w.ended then (l, [], none)
    else
      let (w, messages, ended) := w.receive now piece
      (l.change generation fun _ => w, messages, ended)
  | none => (l, [], none)

/-- The loop stops: every wire is dropped where it is, and no dial ends any more. -/
def stopLoop (l : Link) : Link :=
  { l with running := false, wires := l.wires.map fun e => (e.1, { e.2 with ended := true }) }

end Link
end BrokerRpc
