import BrokerRpc.Link.Basic

/-! # Sessions

A session is what a client has agreed with a broker over a link: whether the broker has confirmed
the connection, which channels are subscribed, and which transaction runs. Frames that are sent
while there is no session are parked and follow the confirmation of the next one.
-/
namespace BrokerRpc

inductive Handshake where
  | idle
  /-- The greeting is written and not answered. -/
  | pending
  | connected
  deriving DecidableEq, Repr

abbrev Recipient := Nat

/-- A subscribed destination: the token under which the broker knows it, and who is told. -/
structure Channel where
  token : String
  recipient : Recipient
  deriving DecidableEq, Repr

inductive Delivery where
  | message (content : Bytes)
  | error (headers : Headers) (content : Bytes)
  deriving DecidableEq, Repr

structure Session where
  handshake : Handshake := .idle
  channels : Assoc String Channel := []
  transaction : Option String := none
  /-- The receipt that a disconnect waits for. -/
  receipt : Option String := none
  waiters : List Waiter := []
  nextWaiter : Waiter := 0
  outbox : List Message := []
  deriving DecidableEq, Repr

def sessionVersion : String := "1.2"

def maxOutbox : Nat := 1024

namespace Session

def subscribeFrame (destination token : String) : Message :=
  ((Message.new .subscribe).withField .destination destination).withField .id token

def unsubscribeFrame (token : String) : Message := (Message.new .unsubscribe).withField .id token

def sendFrame (destination : String) (transaction : Option String) (payload : Bytes) : Message :=
  let m := (Message.new .send).withField .destination destination
  (match transaction with
   | some id => m.withField .transaction id
   | none => m).withContent payload

def beginFrame (id : String) : Message := (Message.new .begin).withField .transaction id

def commitFrame (id : String) : Message := (Message.new .commit).withField .transaction id

def disconnectFrame (token : String) : Message := (Message.new .disconnect).withField .receipt token

def connectFrame (host : String) (policy : Policy) : Message :=
  (((Message.new .connect).withField .acceptVersion sessionVersion).withField .host
    host).withField .heartBeat (Heartbeat.format policy.offeredOutgoing policy.offeredIncoming)

/-- Parks a frame; when too many are parked, the oldest one goes. With `collapse` a frame that is
parked already is not parked again. -/
def park (s : Session) (m : Message) (collapse : Bool) : Session :=
  if collapse ∧ m ∈ s.outbox then s
  else
    let kept := if maxOutbox ≤ s.outbox.length then s.outbox.drop 1 else s.outbox
    { s with outbox := kept ++ [m] }

def dropWaiter (s : Session) (w : Waiter) : Session :=
  { s with waiters := s.waiters.filter (· ≠ w) }

/-- The session as its end leaves it, apart from what is parked. The broker forgets a transaction
with its session. -/
def lost (s : Session) : Session :=
  { s with handshake := .idle, transaction := none, waiters := [] }

def stopped (s : Session) : Session := { s.lost with receipt := none, outbox := [] }

/-- The frames that follow a confirmation: each channel's subscription, then what is parked. -/
def flushFrames (s : Session) : List Message :=
  (s.channels.map fun e => subscribeFrame e.1 e.2.token) ++ s.outbox

def confirmed (s : Session) : Session :=
  { s with handshake := .connected, outbox := [], waiters := [] }

/-- Who is told of a frame with its destination, while the session is confirmed. -/
def recipientFor? (s : Session) (m : Message) : Option Recipient :=
  if s.handshake = .connected then do
    let channel ← s.channels.get? (← m.field? .destination)
    return channel.recipient
  else none

end Session
end BrokerRpc
