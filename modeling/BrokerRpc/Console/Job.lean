import BrokerRpc.Console.Invocation
import BrokerRpc.Event.Calendar
import BrokerRpc.Json.Layout
import BrokerRpc.Json.Reader
import BrokerRpc.Rpc.Client
import BrokerRpc.Rpc.Decompose

/-! # Jobs

A job carries out one task on a client for calls. It takes up what happens outside, one thing at a
time, and answers with what it wants done there. It ends with a code: zero for success, one for an
answer that is an error, two for a failure of its own.
-/
namespace BrokerRpc.Console

/-- What a job wants done outside. -/
inductive Demand where
  | dial
  | write (bytes : Bytes)
  | hangUp
  | print (line : String)
  | complain (line : String)
  deriving DecidableEq, Repr

inductive Happening where
  | dialEnded (result : Except Failure Unit)
  | arrived (piece : Bytes)
  | broken (failure : Failure)
  | elapsed
  deriving Repr

structure Moment where
  now : Instant
  stamp : Timestamp
  deriving DecidableEq, Repr

inductive Plan where
  | call (request : Request)
  | notify (request : Request)
  | events (filter : String) (count duration : Option Nat)
  deriving DecidableEq, Repr

/-- The plan for a task; `none` if its parameters are not JSON. A call that names no id gets a
fresh one. -/
def Plan.ofTask? (fresh : String) : Task → Option Plan
  | .call method params id =>
    (Json.parse (Bytes.ofText params)).toOption.map fun params =>
      .call { method, params, id := some (.str (id.getD fresh)) }
  | .notify method params =>
    (Json.parse (Bytes.ofText params)).toOption.map fun params =>
      .notify { method, params, id := none }
  | .events filter count duration => some (.events filter count duration)

inductive Stage where
  | ready
  /-- Waits for a dial; so many attempts are left after it. -/
  | dialling (waiter : Waiter) (attemptsLeft : Nat)
  | pausing (attemptsLeft : Nat) (resumption : Instant)
  | greeting (deadline : Instant)
  | calling (key : Nat)
  | watching (number : Nat) (left : Option Nat) (deadline : Option Instant)
  | leaving (deadline : Instant) (code : Nat)
  | finished (code : Nat)
  deriving DecidableEq, Repr

/-- A plan under way. `waiter` is who waits for the session on behalf of the job, and `heard` is
what that waiter got; `goodbye` is the token under which the job says goodbye. `demands` are not
met yet. -/
structure Job where
  plan : Plan
  goodbye : String
  rpc : RpcClient
  publisher : Publisher
  stage : Stage := .ready
  waiter : Waiter := 0
  heard : Option (Except Failure Unit) := none
  receipted : Bool := false
  lastSweep : Instant := 0
  lastPurge : Instant := 0
  demands : List Demand := []

def complaint (attempted : String) (failure : Failure) : String :=
  let causes :=
    match failure with
    | .connectionFailed fault | .io fault => [fault.message]
    | _ => []
  "Error: " ++ ": ".intercalate (attempted :: failure.message :: causes)

def purgeEvery : Duration := .ofSeconds 60

def receiptTimeout : Duration := .ofSeconds 1

namespace Job

def exitCode? (j : Job) : Option Nat :=
  match j.stage with
  | .finished code => some code
  | _ => none

def ask (j : Job) (demands : List Demand) : Job := { j with demands := j.demands ++ demands }

def dials (effects : List Effect) : List Demand :=
  effects.filterMap fun e =>
    match e with
    | .dial => some .dial
    | _ => none

def took {α : Type} (j : Job) (done : RpcClient.Done α) : Job :=
  { j with
    rpc := done.client
    heard := j.heard.or (Client.sessionResult? j.waiter done.effects)
    receipted := j.receipted || Client.isConfirmed j.goodbye done.effects }.ask
      (dials done.effects)

def fail (j : Job) (attempted : String) (failure : Failure) : Job :=
  { j with stage := .finished 2 }.ask [.complain (complaint attempted failure)]

/-! ## The way out -/

def finish (j : Job) (code : Nat) : Job :=
  let j := j.took (j.rpc.step Client.stop)
  { j with rpc := { j.rpc with tracker := j.rpc.tracker.failAll.1 }, stage := .finished code }

def leave (j : Job) (m : Moment) (code : Nat) : Job :=
  let (client, effects, said) := j.rpc.client.sayGoodbye j.goodbye
  let j := j.took (j.rpc.took client effects (.ok ()))
  if said then { j with stage := .leaving (m.now + receiptTimeout.nanos) code } else j.finish code

/-! ## The way in -/

def dial (j : Job) (m : Moment) (attemptsLeft : Nat) : Job :=
  let client := j.rpc.client
  let greeting : Stage := .greeting (m.now + client.handshakeTimeout.nanos)
  match client.link.connectOnce with
  | (_, .settled (.ok ())) => { j with stage := greeting }
  | (_, .settled (.error failure)) => j.fail "Failed to connect" failure
  | (link, .awaiting waiter dials) =>
    { j with
      rpc := { j.rpc with client := { client with link } }
      stage := .dialling waiter attemptsLeft }.ask (if dials then [.dial] else [])

def join (j : Job) (m : Moment) : Job :=
  let client := j.rpc.client
  { j with
    rpc := { j.rpc with client := client.addWaiter }
    waiter := client.session.nextWaiter }.dial m (max client.link.policy.retryNumber 1 - 1)

def dialled (j : Job) (m : Moment) (attemptsLeft : Nat) : Except Failure Unit → Job
  | .ok () => { j with stage := .greeting (m.now + j.rpc.client.handshakeTimeout.nanos) }
  | .error failure =>
    let policy := j.rpc.client.link.policy
    if attemptsLeft = 0 ∨ !policy.isRetryable failure then j.fail "Failed to connect" failure
    else { j with stage := .pausing (attemptsLeft - 1) (m.now + policy.retryTimeout.nanos) }

/-! ## The plan -/

def joined (j : Job) (m : Moment) : Job :=
  match j.plan with
  | .call _ => j
  | .notify request =>
    let done := j.rpc.notify request
    match done.result with
    | .error failure => (j.took done).fail "Failed to send notification" failure
    | .ok () => (j.took done).leave m 0
  | .events filter count duration =>
    match j.publisher.subscribe filter { onSubscribe := [.request Subscription.unlimited] } with
    | .error failure =>
      (j.ask [.complain (complaint ("Invalid subscription id " ++ filter) failure)]).leave m 2
    | .ok (number, publisher, _) =>
      { j with
        publisher
        stage := .watching number count
          (duration.map fun seconds => m.now + (Duration.ofSeconds seconds).nanos) }

/-- Starts the plan. A call needs no session yet: its frame is parked. -/
def start (j : Job) (m : Moment) : Job :=
  let j := { j with lastSweep := m.now, lastPurge := m.now }
  match j.plan with
  | .call request =>
    let done := j.rpc.call m.now request
    match done.result with
    | .error failure => (j.took done).fail "Failed to issue call" failure
    | .ok key => { j.took done with stage := .calling key }
  | _ => j.join m

def shown (r : Response) : String × Nat :=
  if r.isError then (r.status.pretty, 1) else ((r.result.getD .null).pretty, 0)

def eventLine (event : Event) : String :=
  (Json.obj [("id", .str event.id.text), ("params", event.params),
    ("received_at", .str (Timestamp.text event.receivedAt))]).text

def events (notices : List SignalNotice) : List Event :=
  notices.filterMap fun notice =>
    match notice.2 with
    | .next event => some event
    | _ => none

def watch (j : Job) (m : Moment) (number : Nat) (left : Option Nat) (deadline : Option Instant) :
    Job :=
  let steps := j.publisher.waiting [number] + 2
  let (publisher, notices) := j.publisher.settle (fun _ => {}) steps
  let arrived := events notices
  let seen := arrived.take (left.getD arrived.length)
  let left : Option Nat := left.map (· - seen.length)
  let j := { j with publisher }.ask (seen.map fun event => .print (eventLine event))
  if left = some 0 ∨ Wire.isOver m.now deadline then
    { j with publisher := j.publisher.cancel number }.leave m 0
  else { j with stage := .watching number left deadline }

def proceed (j : Job) (m : Moment) : Job :=
  match j.stage with
  | .pausing attemptsLeft resumption => if resumption ≤ m.now then j.dial m attemptsLeft else j
  | .greeting deadline =>
    match j.heard with
    | some (.ok ()) => j.joined m
    | some (.error failure) => j.fail "Failed to connect" failure
    | none =>
      if deadline ≤ m.now then
        j.fail "Failed to connect" (.timeout j.rpc.client.handshakeTimeout)
      else j
  | .calling key =>
    match j.rpc.tracker.calls.get? key with
    | none => j
    | some call =>
      if call.status = .pending then j
      else
        match call.waitOne ⟨0⟩ with
        | .error failure => j.fail "Call failed" failure
        | .ok response =>
          let (line, code) := shown response
          (j.ask [.print line]).leave m code
  | .watching number left deadline => j.watch m number left deadline
  | .leaving deadline code => if j.receipted ∨ deadline ≤ m.now then j.finish code else j
  | _ => j

/-! ## What happens outside -/

def dispatchAll (m : Moment) (fuel : Nat) (j : Job) : Job :=
  match fuel with
  | 0 => j
  | fuel + 1 =>
    let (rpc, publisher, _) := j.rpc.dispatchNext j.publisher m.stamp
    dispatchAll m fuel { j with rpc, publisher }

/-- The wire that is open or was last. -/
def generation (j : Job) : Nat := j.rpc.client.link.generation

def elapse (j : Job) (m : Moment) : Job :=
  let j := j.took (j.rpc.step fun c => (c.tick j.generation m.now, []))
  let j := j.took (j.rpc.step (·.expire j.generation m.now))
  let j :=
    if j.lastSweep + Tracker.sweepInterval.nanos ≤ m.now then
      { j.took (j.rpc.sweep m.now) with lastSweep := m.now }
    else j
  if j.lastPurge + purgeEvery.nanos ≤ m.now then
    { j with publisher := j.publisher.purge m.stamp, lastPurge := m.now }
  else j

def takeUp (j : Job) (m : Moment) : Happening → Job
  | .dialEnded result =>
    let done := j.rpc.step (·.dialEnded result)
    let j' := j.took done
    match j.stage with
    | .dialling waiter attemptsLeft =>
      match Client.linkResult? waiter done.effects with
      | some result => j'.dialled m attemptsLeft result
      | none => j'
    | _ => j'
  | .arrived piece => j.took (j.rpc.step (·.receive j.generation m.now piece))
  | .broken failure => j.took (j.rpc.step (·.fail j.generation failure))
  | .elapsed => j.elapse m

/-- Lets the open wire carry out its orders, and wants written what it wrote. A wire that ends is
hung up. -/
def flush (j : Job) (m : Moment) (wasLive : Bool) : Job :=
  let generation := j.generation
  let j := j.took (j.rpc.step (·.carryOutAll generation m.now))
  let link := j.rpc.client.link
  let written : List Written := ((link.wires.get? generation).map Wire.written).getD []
  let link := link.change generation fun w => { w with written := [] }
  { j with rpc := { j.rpc with client := { j.rpc.client with link } } }.ask
    ((if written.isEmpty then [] else [Demand.write (written.flatMap Written.bytes)]) ++
      (if wasLive && !link.isLive generation then [Demand.hangUp] else []))

/-- One turn of the job: something happens, the job goes on, and its frames are written. -/
def turn (j : Job) (m : Moment) (happening : Happening) : Job :=
  let wasLive := j.rpc.client.link.isLive j.generation
  let j := j.takeUp m happening
  let j := dispatchAll m j.rpc.inbox.length j
  (j.proceed m).flush m (wasLive || j.rpc.client.link.isLive j.generation)

def collect (j : Job) : Job × List Demand := ({ j with demands := [] }, j.demands)

end Job
end BrokerRpc.Console
