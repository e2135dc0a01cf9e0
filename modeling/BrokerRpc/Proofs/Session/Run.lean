import BrokerRpc.Session.Blocking
import BrokerRpc.Proofs.Link.Wires

/-! # Runs of a client

A run performs operations one after the other: what callers do, how dials end, frames that arrive,
and what the wires of the link do. A dial ends only if one is under way, and frames arrive only on a
live wire. Each operation leaves a moment.
-/
namespace BrokerRpc.Client

/-- What can happen to a client that is not stopped and whose loop runs. -/
inductive Operation where
  | subscribe (destination token : String) (recipient : Recipient)
  | unsubscribe (destination : String)
  | send (destination : String) (payload : Bytes)
  | resend (destination : String) (payload : Bytes)
  | begin (token : String)
  | commit
  | await
  | leave (w : Waiter)
  | dial
  | dialEnded (result : Except Failure Unit)
  | frame (g : Nat) (m : Message)
  /-- Bytes arrive; the frames that they complete arrive one by one after that. -/
  | piece (g : Nat) (now : Instant) (bytes : Bytes)
  | carryOut (g : Nat) (now : Instant)
  | tick (g : Nat) (now : Instant)
  | expire (g : Nat) (now : Instant)
  | fail (g : Nat) (failure : Failure)

def openLink (c : Client) : Client × List Effect :=
  match c.link.connectOnce with
  | (link, .settled _) => ({ c with link }, [])
  | (link, .awaiting _ dials) => ({ c with link }, dialEffects dials)

def act (c : Client) : Operation → Client × List Effect
  | .subscribe destination token recipient =>
    let (c, effects, _) := c.subscribe destination token recipient
    (c, effects)
  | .unsubscribe destination =>
    let (c, effects, _) := c.unsubscribe destination
    (c, effects)
  | .send destination payload =>
    let (c, effects, _) := c.send destination payload
    (c, effects)
  | .resend destination payload =>
    let (c, effects, _) := c.resend destination payload
    (c, effects)
  | .begin token =>
    let (c, effects, _) := c.begin token
    (c, effects)
  | .commit =>
    let (c, effects, _) := c.commit
    (c, effects)
  | .await => (c.addWaiter, [])
  | .leave w => (c.dropWaiter w, [])
  | .dial => c.openLink
  | .dialEnded result => c.dialEnded result
  | .frame g m => if c.link.isLive g then c.onMessage m else (c, [])
  | .piece g now bytes => ({ c with link := (c.link.receive g now bytes).1 }, [])
  | .carryOut g now => c.carryOut g now
  | .tick g now => (c.tick g now, [])
  | .expire g now => c.expire g now
  | .fail g failure => c.fail g failure

def dialsIn (effects : List Effect) : Nat :=
  effects.countP fun e =>
    match e with
    | .dial => true
    | _ => false

/-- A client and the count of dials under way for it. -/
structure Site where
  client : Client
  dials : Nat := 0

namespace Site

def start (host : String) (port : Nat) (policy : Policy) (timeout : Duration) : Site :=
  { client := .new (.new host port policy) timeout }

abbrev link (x : Site) : Link := x.client.link

abbrev session (x : Site) : Session := x.client.session

def perform (x : Site) (operation : Operation) : Site :=
  let step := x.client.act operation
  match operation with
  | .dialEnded _ =>
    if x.dials = 0 then x else { client := step.1, dials := x.dials - 1 + dialsIn step.2 }
  | _ => { client := step.1, dials := x.dials + dialsIn step.2 }

end Site

structure Moment where
  before : Site
  operation : Operation

def Moment.after (m : Moment) : Site := m.before.perform m.operation

def history (x : Site) : List Operation → List Moment
  | [] => []
  | operation :: rest => ⟨x, operation⟩ :: history (x.perform operation) rest

def reached (x : Site) (operations : List Operation) : Site := operations.foldl Site.perform x

theorem reached_append (x : Site) (first rest : List Operation) :
    reached x (first ++ rest) = reached (reached x first) rest := List.foldl_append

/-! ## Dials under way -/

@[simp] theorem dialsIn_nil : dialsIn [] = 0 := rfl

@[simp] theorem dialsIn_append (first rest : List Effect) :
    dialsIn (first ++ rest) = dialsIn first + dialsIn rest := List.countP_append

@[simp] theorem dialsIn_linkSettled (resolutions : List Resolution) :
    dialsIn (resolutions.map .linkSettled) = 0 := by
  simp [dialsIn, List.countP_eq_zero]

@[simp] theorem dialsIn_settle (waiters : List Waiter) (result : Except Failure Unit) :
    dialsIn (settle waiters result) = 0 := by
  simp [dialsIn, settle, List.countP_eq_zero]

@[simp] theorem dialsIn_onLost (c : Client) (failure : Failure) :
    dialsIn (c.onLost failure).2 = 0 := by
  simp only [onLost, dialsIn_append, dialsIn_settle]
  rfl

/-! ## What an operation asks for -/

/-- The frame that the session makes of what a caller does. What it refuses makes none. -/
def submission? (s : Session) : Operation → Option Message
  | .subscribe destination token _ =>
    if s.channels.contains destination then none
    else some (Session.subscribeFrame destination token)
  | .unsubscribe destination =>
    (s.channels.get? destination).map fun channel => Session.unsubscribeFrame channel.token
  | .send destination payload => some (Session.sendFrame destination s.transaction payload)
  | .resend destination payload => some (Session.sendFrame destination s.transaction payload)
  | .begin token => if s.transaction.isSome then none else some (Session.beginFrame token)
  | .commit => s.transaction.map Session.commitFrame
  | _ => none

/-- The frame that is parked for what a caller does without a session. A channel is only kept, and a
frame that is sent again is not parked twice. -/
def parked? (s : Session) (operation : Operation) : Option Message :=
  match operation with
  | .subscribe .. => none
  | .unsubscribe _ => none
  | .resend destination payload =>
    let m := Session.sendFrame destination s.transaction payload
    if m ∈ s.outbox then none else some m
  | _ => submission? s operation

def channelsAfter (s : Session) : Operation → Assoc String Channel
  | .subscribe destination token recipient =>
    if s.channels.contains destination then s.channels
    else s.channels ++ [(destination, ⟨token, recipient⟩)]
  | .unsubscribe destination => s.channels.erase destination
  | _ => s.channels

namespace Moment

/-- Whether the connection is opened at that moment: a dial that was under way succeeds. -/
def opens (m : Moment) (g : Nat) : Bool :=
  match m.operation with
  | .dialEnded (.ok ()) => m.before.dials ≠ 0 && g = m.before.link.generation + 1
  | _ => false

def confirms (m : Moment) (g : Nat) : Bool :=
  match m.operation with
  | .frame i answer => i = g && answer.command = .connected && m.before.link.isLive g
  | _ => false

def greeting (m : Moment) : Message :=
  Session.connectFrame m.before.client.host m.before.link.policy

end Moment

end BrokerRpc.Client
