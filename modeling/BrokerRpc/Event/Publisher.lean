import BrokerRpc.Assoc
import BrokerRpc.Event.Subscription

/-! # Event delivery

A publisher hands each event to every subscription that wants it, and keeps an event that nobody
wants until somebody subscribes to it or it expires. Deliveries run as jobs, one step an event.
While a subscriber is told something it may ask for more events, give up, publish, or fail; it may
also hold the handles of other subscriptions.
-/
namespace BrokerRpc

inductive Reaction where
  | request (n : Nat)
  | cancel
  | publish (event : Event)
  | requestFor (number n : Nat)
  | cancelOf (number : Nat)
  /-- Gives up control with a reason; reactions after it do not happen. -/
  | panic (reason : String)
  deriving DecidableEq, Repr

structure Subscriber where
  onSubscribe : List Reaction := []
  onNext : Event → List Reaction := fun _ => []

abbrev SignalNotice := Nat × Signal

/-- The subscriptions of one publisher. `subscriptions` holds every subscription ever accepted,
under numbers that are never used again; `registered` holds the numbers of those that events are
offered to, by the texts of their ids. `jobs` are the subscriptions whose delivery job has been
started and not ended. -/
structure Publisher where
  retention : Duration
  subscriptions : Assoc Nat Subscription := []
  registered : Assoc String Nat := []
  unclaimed : List Event := []
  jobs : List Nat := []
  closed : Bool := false
  deriving DecidableEq, Repr

namespace Publisher

def longestRetention : Nat := 0x7fffffffffffffff * 1000000

/-- The retention in place of a longer one: 36500 days. -/
def cappedRetention : Duration := .ofSeconds (36500 * 24 * 60 * 60)

def new (retention : Duration) : Publisher :=
  { retention := if retention.nanos ≤ longestRetention then retention else cappedRetention }

def subscriberCount (p : Publisher) : Nat := p.registered.length

def unclaimedCount (p : Publisher) : Nat := p.unclaimed.length

def isCancelled (p : Publisher) (number : Nat) : Bool :=
  match p.subscriptions.get? number with
  | some s => s.cancelled
  | none => true

def change (p : Publisher) (number : Nat) (f : Subscription → Subscription) : Publisher :=
  { p with subscriptions := p.subscriptions.modify number f }

def schedule (p : Publisher) (number : Nat) : Publisher :=
  match p.subscriptions.get? number with
  | some s =>
    if s.wantsJob then
      { p.change number ({ · with draining := true }) with jobs := p.jobs ++ [number] }
    else p
  | none => p

def request (p : Publisher) (number n : Nat) : Publisher :=
  if n = 0 then p else (p.change number (·.grant n)).schedule number

def unregister (p : Publisher) (number : Nat) : Publisher :=
  { p with registered := p.registered.filter fun entry => !decide (entry.2 = number) }

def cancel (p : Publisher) (number : Nat) : Publisher :=
  (p.change number Subscription.cancel).unregister number

def targets (p : Publisher) (event : Event) : List Nat :=
  p.registered.values.filter fun number =>
    match p.subscriptions.get? number with
    | some s => s.id.wants event.id
    | none => false

def offer (p : Publisher) (event : Event) (number : Nat) : Publisher :=
  (p.change number (·.offer event)).schedule number

/-- Hands an event to every registered subscription that wants it; if there is none, the event
waits for a subscription, unless the publisher is closed. -/
def publish (p : Publisher) (event : Event) : Publisher :=
  match p.targets event with
  | [] => if p.closed then p else { p with unclaimed := p.unclaimed ++ [event] }
  | targets => targets.foldl (offer · event ·) p

/-- Carries out a subscriber's reactions in order. A panic ends them and gives its reason. -/
def react (p : Publisher) (number : Nat) : List Reaction → Publisher × Option String
  | [] => (p, none)
  | .request n :: more => react (p.request number n) number more
  | .cancel :: more => react (p.cancel number) number more
  | .publish event :: more => react (p.publish event) number more
  | .requestFor other n :: more => react (p.request other n) number more
  | .cancelOf other :: more => react (p.cancel other) number more
  | .panic reason :: _ => (p, some reason)

def enrol (p : Publisher) (id : EventId) : Nat × Publisher :=
  let number := p.subscriptions.length
  let claimed := p.unclaimed.filter fun event => id.wants event.id
  (number,
    { p with
      subscriptions := p.subscriptions ++ [(number, { id, backlog := claimed })]
      registered := p.registered ++ [(id.text, number)]
      unclaimed := p.unclaimed.filter fun event => !id.wants event.id })

/-- Subscribes to the events that an id wants. The subscriber is told before anything else. -/
def subscribe (p : Publisher) (id : String) (subscriber : Subscriber) :
    Except Failure (Nat × Publisher × List SignalNotice) :=
  if p.closed then .error .closed
  else do
    let id ← EventId.parse id
    if p.registered.contains id.text then throw (.misuse (.alreadySubscribed id.text))
    let (number, p) := p.enrol id
    let (p, _) := p.react number subscriber.onSubscribe
    return (number, p.schedule number, [(number, .subscribed)])

/-! ## Delivery jobs -/

/-- One step of the delivery job of a subscription: it takes an event and hands it over, or ends.
The job also ends when the subscriber fails. -/
def deliver (subscriber : Nat → Subscriber) (p : Publisher) (number : Nat) :
    Publisher × List SignalNotice :=
  match p.subscriptions.get? number with
  | none => ({ p with jobs := p.jobs.erase number }, [])
  | some s =>
    match s.take with
    | (none, s) => ({ p.change number (fun _ => s) with jobs := p.jobs.erase number }, [])
    | (some event, s) =>
      let next := (number, Signal.next event)
      let (p, reason) := (p.change number fun _ => s).react number ((subscriber number).onNext event)
      match reason with
      | none => (p, [next])
      | some reason =>
        match p.subscriptions.get? number with
        | none => ({ p with jobs := p.jobs.erase number }, [next])
        | some s =>
          let (s, signals) := s.fail (.subscriberFailed reason)
          ({ p.change number (fun _ => s) with jobs := p.jobs.erase number },
            next :: signals.map fun signal => (number, signal))

/-- Runs the oldest delivery job step by step until no job is left, for at most `fuel` steps. -/
def settle (subscriber : Nat → Subscriber) (fuel : Nat) (p : Publisher) :
    Publisher × List SignalNotice :=
  match fuel, p.jobs with
  | 0, _ => (p, [])
  | _, [] => (p, [])
  | fuel + 1, number :: _ =>
    let (p, notices) := deliver subscriber p number
    let (p, more) := settle subscriber fuel p
    (p, notices ++ more)

/-! ## Expiry and end -/

def earliest : Timestamp := -8334601228800 * 1000000000

def cutoff (p : Publisher) (now : Timestamp) : Timestamp := max (now - p.retention.nanos) earliest

def live (p : Publisher) : Assoc String Nat :=
  p.registered.filter fun entry => !p.isCancelled entry.2

def purge (p : Publisher) (now : Timestamp) : Publisher :=
  let cutoff := p.cutoff now
  let live := p.live
  { p with
    unclaimed := p.unclaimed.filter fun event => cutoff ≤ event.receivedAt
    registered := live
    subscriptions := p.subscriptions.map fun entry =>
      if entry.1 ∈ live.values then (entry.1, entry.2.expire cutoff) else entry }

/-- The count of events that wait somewhere: unclaimed, or for one of the given subscriptions. -/
def waiting (p : Publisher) (numbers : List Nat) : Nat :=
  p.unclaimed.length + (numbers.flatMap fun number =>
    match p.subscriptions.get? number with
    | some s => s.backlog
    | none => []).length

def purgeCount (p : Publisher) (now : Timestamp) : Nat :=
  p.waiting p.live.values - (p.purge now).waiting p.live.values

def finishAll (p : Publisher) : List Nat → Publisher × List SignalNotice
  | [] => (p, [])
  | number :: more =>
    match p.subscriptions.get? number with
    | none => finishAll p more
    | some s =>
      let (s, signals) := s.finish
      let (p, rest) := finishAll (p.change number fun _ => s) more
      (p, signals.map (fun signal => (number, signal)) ++ rest)

/-- Ends every registered subscription and refuses new ones. A second close changes nothing. -/
def close (p : Publisher) : Publisher × List SignalNotice :=
  if p.closed then (p, [])
  else
    finishAll { p with closed := true, registered := [], unclaimed := [] } p.registered.values

end Publisher
end BrokerRpc
