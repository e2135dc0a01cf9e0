import BrokerRpc.Session.Basic

/-! # Clients of a broker

A client is a session on a link. Each definition here is one step: something that a caller does, a
dial that ends, or something that a wire of the link does. What a step asks of its surroundings or
tells them is the list of its effects.
-/
namespace BrokerRpc

/-- What a step asks of its surroundings, or tells them. -/
inductive Effect where
  | dial
  | linkSettled (resolution : Resolution)
  | sessionSettled (resolution : Resolution)
  | deliver (recipient : Recipient) (delivery : Delivery)
  | receipt (token : String)
  | lost (failure : Failure)
  deriving Repr

structure Client where
  link : Link
  session : Session := {}
  handshakeTimeout : Duration
  deriving DecidableEq, Repr

namespace Client

def new (link : Link) (handshakeTimeout : Duration) : Client := { link, handshakeTimeout }

/-- What a caller's step gives: the client, the effects, and the caller's result. -/
abbrev Outcome (α : Type) := Client × List Effect × Except Failure α

def isConnected (c : Client) : Bool := c.session.handshake = .connected

def host (c : Client) : String := (c.link.remote.map Prod.fst).getD ""

def dialEffects (dials : Bool) : List Effect := if dials then [.dial] else []

def onLink (c : Client) (result : Except Failure (Link × Bool)) : Outcome Unit :=
  match result with
  | .ok (link, dials) => ({ c with link }, dialEffects dials, .ok ())
  | .error failure => (c, [], .error failure)

def write (c : Client) (m : Message) : Outcome Unit := c.onLink (c.link.send m)

/-- Hands a frame to the link if there is a session; otherwise parks it and sees to it that the
link is opened. -/
def submit (c : Client) (m : Message) (collapse : Bool) : Outcome Unit :=
  if c.isConnected then c.write m
  else
    let c := { c with session := c.session.park m collapse }
    c.onLink c.link.reconnect

/-! ## What callers do -/

/-- Subscribes a destination under a new token. Without a session the subscription follows the
confirmation of the next one. -/
def subscribe (c : Client) (destination token : String) (recipient : Recipient) : Outcome String :=
  if c.session.channels.contains destination then
    (c, [], .error (.misuse (.alreadySubscribed destination)))
  else
    let channels := c.session.channels ++ [(destination, ⟨token, recipient⟩)]
    let c := { c with session := { c.session with channels } }
    if c.isConnected then
      let (c, effects, result) := c.write (Session.subscribeFrame destination token)
      (c, effects, result.map fun _ => token)
    else (c, [], .ok token)

def unsubscribe (c : Client) (destination : String) : Outcome Unit :=
  match c.session.channels.get? destination with
  | none => (c, [], .error (.misuse (.notSubscribed destination)))
  | some channel =>
    let channels := c.session.channels.erase destination
    let c := { c with session := { c.session with channels } }
    if c.isConnected then c.write (Session.unsubscribeFrame channel.token) else (c, [], .ok ())

def send (c : Client) (destination : String) (payload : Bytes) : Outcome Unit :=
  c.submit (Session.sendFrame destination c.session.transaction payload) false

/-- Sends a payload again. Without a session an equal parked frame stands for it. -/
def resend (c : Client) (destination : String) (payload : Bytes) : Outcome Unit :=
  c.submit (Session.sendFrame destination c.session.transaction payload) true

def begin (c : Client) (token : String) : Outcome String :=
  if c.session.transaction.isSome then (c, [], .error (.misuse .transactionRunning))
  else
    match c.submit (Session.beginFrame token) false with
    | (c, effects, .error failure) => (c, effects, .error failure)
    | (c, effects, .ok ()) =>
      ({ c with session := { c.session with transaction := some token } }, effects, .ok token)

def commit (c : Client) : Outcome Unit :=
  match c.session.transaction with
  | none => (c, [], .error (.misuse .noTransaction))
  | some id =>
    let c := { c with session := { c.session with transaction := none } }
    c.submit (Session.commitFrame id) false

def settle (waiters : List Waiter) (result : Except Failure Unit) : List Effect :=
  (Link.resolveAll waiters result).map .sessionSettled

/-- Ends the session and closes the link for good, without a goodbye. -/
def stop (c : Client) : Client × List Effect :=
  let (link, resolutions) := c.link.close
  ({ c with link, session := c.session.stopped },
    settle c.session.waiters (.error .closed) ++ resolutions.map .linkSettled)

/-! ## What arrives -/

/-- The intervals that the policy and the broker's answer settle. What we offer is cut to 64-bit
words; an answer that cannot be read turns both directions off. -/
def settledHeartbeats (policy : Policy) (m : Message) : Nat × Nat :=
  let offer := (m.field? .heartBeat).getD "0,0"
  let word (d : Duration) := d.millis % Text.wordBound
  (Heartbeat.negotiatePair (word policy.offeredOutgoing) (word policy.offeredIncoming)
    offer).getD (0, 0)

/-- Hands frames to the link up to the first one that it refuses. -/
def writeEach (c : Client) : List Message → Client × List Effect
  | [] => (c, [])
  | m :: rest =>
    match c.write m with
    | (c, effects, .ok ()) =>
      let (c, more) := c.writeEach rest
      (c, effects ++ more)
    | (c, effects, .error _) => (c, effects)

/-- The broker confirms. The settled intervals are taken up in any case; a confirmation that nobody
waits for does nothing else. -/
def onConnected (c : Client) (m : Message) : Client × List Effect :=
  let (outgoing, incoming) := settledHeartbeats c.link.policy m
  let c := { c with link := c.link.setHeartbeats outgoing incoming }
  if c.session.handshake = .pending then
    let s := c.session
    let (c, effects) := { c with session := s.confirmed }.writeEach s.flushFrames
    (c, effects ++ settle s.waiters (.ok ()))
  else (c, [])

/-- A receipt arrives. It counts only for the goodbye that waits for it. -/
def onReceipt (c : Client) (m : Message) : Client × List Effect :=
  match c.session.receipt, m.field? .receiptId with
  | some token, some id =>
    if token = id then ({ c with session := { c.session with receipt := none } }, [.receipt token])
    else (c, [])
  | _, _ => (c, [])

def onMessage (c : Client) (m : Message) : Client × List Effect :=
  match m.command with
  | .connected => c.onConnected m
  | .message =>
    (c, ((c.session.recipientFor? m).map fun r => Effect.deliver r (.message m.content)).toList)
  | .error =>
    (c, ((c.session.recipientFor? m).map fun l =>
      Effect.deliver l (.error m.headers m.content)).toList)
  | .receipt => c.onReceipt m
  | _ => (c, [])

def onMessages (c : Client) : List Message → Client × List Effect
  | [] => (c, [])
  | m :: rest =>
    let (c, effects) := c.onMessage m
    let (c, more) := c.onMessages rest
    (c, effects ++ more)

def onLost (c : Client) (failure : Failure) : Client × List Effect :=
  ({ c with session := c.session.lost },
    settle c.session.waiters (.error failure.duplicate) ++ [.lost failure])

def onLost? (c : Client) (failure : Option Failure) : Client × List Effect :=
  match failure with
  | some failure => c.onLost failure
  | none => (c, [])

/-! ## What the loop does -/

/-- A dial ended. One that succeeds is greeted before anything else is written. -/
def dialEnded (c : Client) (result : Except Failure Unit) : Client × List Effect :=
  match result with
  | .ok () =>
    let c := { c with session := { c.session with handshake := .pending } }
    let (link, resolutions) :=
      c.link.dialSucceeded [Session.connectFrame c.host c.link.policy]
    ({ c with link }, resolutions.map .linkSettled)
  | .error failure =>
    let (link, resolutions, told) := c.link.dialFailed failure
    let (c, effects) := { c with link }.onLost? (if told then some failure else none)
    (c, resolutions.map .linkSettled ++ effects)

def onWire (c : Client) (step : Link × Option Failure) : Client × List Effect :=
  { c with link := step.1 }.onLost? step.2

def carryOut (c : Client) (generation : Nat) (now : Instant) : Client × List Effect :=
  c.onWire (c.link.carryOut generation now)

def carryOutAll (c : Client) (generation : Nat) (now : Instant) : Client × List Effect :=
  c.onWire (c.link.carryOutAll generation now)

def tick (c : Client) (generation : Nat) (now : Instant) : Client :=
  { c with link := c.link.tick generation now }

def expire (c : Client) (generation : Nat) (now : Instant) : Client × List Effect :=
  c.onWire (c.link.expire generation now)

def fail (c : Client) (generation : Nat) (failure : Failure) : Client × List Effect :=
  c.onWire (c.link.fail generation failure)

def receive (c : Client) (generation : Nat) (now : Instant) (piece : Bytes) :
    Client × List Effect :=
  let (link, messages, ended) := c.link.receive generation now piece
  let (c, effects) := { c with link }.onMessages messages
  match ended with
  | none => (c, effects)
  | some ended =>
    let (c, more) := c.onWire (c.link.wireEnded generation, Link.lost? ended)
    (c, effects ++ more)

end Client
end BrokerRpc
