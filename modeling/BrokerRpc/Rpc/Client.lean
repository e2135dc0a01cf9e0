import BrokerRpc.Destinations
import BrokerRpc.Rpc.Inbound
import BrokerRpc.Session.Blocking

/-! # Clients for calls

A client for calls sends requests over a session and keeps track of the responses. A request that
cannot be sent at once is parked and sent again while its policy allows it; a response arrives as a
payload that waits in the inbox until it is taken apart. What happens to the link is told to the
calls as well.
-/
namespace BrokerRpc

/-- A client for calls. `inbox` holds the payloads that are not taken apart yet. -/
structure RpcClient where
  client : Client
  tracker : Tracker
  destinations : Destinations
  inbox : List Bytes := []
  deriving DecidableEq, Repr

structure Accounts where
  tracker : Tracker
  inbox : List Bytes := []
  notices : List CallNotice := []
  deriving DecidableEq, Repr

namespace Accounts

def recipient : Recipient := 0

/-- Takes note of one effect: a lost link is told to the calls, and a response payload goes to the
inbox. -/
def noteOne (a : Accounts) : Effect → Accounts
  | .lost failure =>
    let (tracker, notices) := a.tracker.linkLost failure
    { a with tracker, notices := a.notices ++ notices }
  | .deliver r (.message payload) =>
    if r = recipient then { a with inbox := a.inbox ++ [payload] } else a
  | _ => a

def note (effects : List Effect) (a : Accounts) : Accounts := effects.foldl noteOne a

end Accounts

namespace RpcClient

/-- What a step gives: the client, the effects on its surroundings, what the owners of the calls
are told, and the caller's result. -/
structure Done (α : Type) where
  client : RpcClient
  effects : List Effect := []
  notices : List CallNotice := []
  result : Except Failure α

/-- Binds a session to a new client for calls and subscribes its responses under a new token. -/
def register (client : Client) (destinations : Destinations) (token : String) :
    Except Failure (RpcClient × List Effect) :=
  match client.subscribe destinations.responses token Accounts.recipient with
  | (_, _, .error failure) => .error failure
  | (client, effects, .ok _) =>
    .ok ({ client, tracker := .new client.link.policy, destinations }, effects)

def isConnected (r : RpcClient) : Bool := r.client.isConnected

def pending (r : RpcClient) : Nat := r.tracker.pending

/-- Takes effect for calls made and links opened from now on. -/
def setPolicy (r : RpcClient) (policy : Policy) : RpcClient :=
  { r with tracker := r.tracker.setPolicy policy
           client := { r.client with link := r.client.link.setPolicy policy } }

def accounts (r : RpcClient) : Accounts := { tracker := r.tracker, inbox := r.inbox }

/-- Takes up a step of the session below: its effects are told to the calls. -/
def took {α : Type} (r : RpcClient) (client : Client) (effects : List Effect)
    (result : Except Failure α) : Done α :=
  let a := r.accounts.note effects
  { client := { r with client, tracker := a.tracker, inbox := a.inbox }, effects
    notices := a.notices, result }

def step (r : RpcClient) (f : Client → Client × List Effect) : Done Unit :=
  let (client, effects) := f r.client
  r.took client effects (.ok ())

def act {α : Type} (r : RpcClient) (f : Client → Client.Outcome α) : Done α :=
  let (client, effects, result) := f r.client
  r.took client effects result

/-! ## Requests -/

def requestId (request : Request) : Except Failure Json :=
  match request.id with
  | none => .error (.misuse (.callWithoutId request.method))
  | some id => if id.isNull then .error (.misuse (.callWithoutId request.method)) else .ok id

def requestIds (seen : List String) : List Request → Except Failure (List Json)
  | [] => .ok []
  | request :: rest => do
    let id ← requestId request
    if seen.contains (Response.idKey id) then throw (.misuse (.repeatedId id.text))
    return id :: (← requestIds (Response.idKey id :: seen) rest)

/-- Tracks a call and sends its request. A failure that allows another attempt leaves the call to a
later sweep; any other takes it off the table. The result is the key of the call. -/
def issue (r : RpcClient) (now : Instant) (ids : List Json) (payload : Bytes) : Done Nat :=
  let policy := r.tracker.policy
  match r.tracker.register now (.new ids) payload policy with
  | .error failure => { client := r, result := .error failure }
  | .ok (key, tracker) =>
    let r := { r with tracker }
    let (client, effects, sent) := r.client.send r.destinations.requests payload
    let done := r.took client effects (.ok key)
    match sent with
    | .ok () => done
    | .error failure =>
      if policy.isRetryable failure then done
      else
        let client := { done.client with tracker := done.client.tracker.remove key }
        { done with client, result := .error failure }

def call (r : RpcClient) (now : Instant) (request : Request) : Done Nat :=
  match requestId request with
  | .error failure => { client := r, result := .error failure }
  | .ok id => r.issue now [id] request.bytes

def batch (r : RpcClient) (now : Instant) (requests : List Request) : Done Nat :=
  if requests.isEmpty then { client := r, result := .error (.misuse .emptyBatch) }
  else
    match requestIds [] requests with
    | .error failure => { client := r, result := .error failure }
    | .ok ids => r.issue now ids (Request.batchBytes requests)

/-- Sends one request that wants no answer. It is neither tracked nor sent again. -/
def notify (r : RpcClient) (request : Request) : Done Unit :=
  if request.isNotification then r.act (·.send r.destinations.requests request.bytes)
  else { client := r, result := .error (.misuse .notificationWithId) }

def cancel (r : RpcClient) (key : Nat) : RpcClient × Bool :=
  let (tracker, waiting) := r.tracker.cancel key
  ({ r with tracker }, waiting)

def sweep (r : RpcClient) (now : Instant) : Done Unit :=
  let send (payload : Bytes) (s : Client × List Effect) : Except Failure Unit × Client × List Effect :=
    let (client, effects, result) := s.1.resend r.destinations.requests payload
    (result, client, s.2 ++ effects)
  let (tracker, (client, effects), notices) := r.tracker.sweep send now (r.client, [])
  let done := { r with tracker }.took client effects (.ok ())
  { done with notices := notices ++ done.notices }

def dispatchNext (r : RpcClient) (publisher : Publisher) (now : Timestamp) :
    RpcClient × Publisher × List CallNotice :=
  match r.inbox with
  | [] => (r, publisher, [])
  | payload :: inbox =>
    let (desk, notices) := Desk.dispatch { publisher, tracker := r.tracker } now payload
    ({ r with inbox, tracker := desk.tracker }, desk.publisher, notices)

/-! ## Blocking operations -/

/-- What goes on around a client for calls while a caller is blocked. -/
structure World (σ : Type) where
  dial : σ → Except Failure Unit × σ
  pause : RpcClient → σ → Done Unit × σ
  reply : RpcClient → σ → Done Unit × σ

/-- Something goes on around a client for calls while the session below is blocked. -/
def World.meanwhile {σ : Type} (f : RpcClient → σ → Done Unit × σ) (destinations : Destinations)
    (client : Client) (s : Accounts × σ) : Client × List Effect × Accounts × σ :=
  let (done, world) := f { client, tracker := s.1.tracker, destinations, inbox := s.1.inbox } s.2
  (done.client.client, done.effects,
    { tracker := done.client.tracker, inbox := done.client.inbox
      notices := s.1.notices ++ done.notices }, world)

def World.below {σ : Type} (w : World σ) (destinations : Destinations) :
    Surroundings (Accounts × σ) :=
  { dial := fun s => let (ended, world) := w.dial s.2; (ended, s.1, world)
    pause := meanwhile w.pause destinations
    reply := meanwhile w.reply destinations
    note := fun effects s => (s.1.note effects, s.2) }

def blocked {σ α : Type} (r : RpcClient) (s : σ)
    (f : Client → Accounts × σ → Blocked (Accounts × σ) α) : Done α × σ :=
  let b := f r.client (r.accounts, s)
  let a := b.around.1
  ({ client := { r with client := b.client, tracker := a.tracker, inbox := a.inbox }
     effects := b.effects, notices := a.notices, result := b.result }, b.around.2)

def connect {σ : Type} (w : World σ) (onLoop : Bool) (r : RpcClient) (s : σ) : Done Unit × σ :=
  r.blocked s (Client.connect (w.below r.destinations) onLoop)

def connectLink {σ : Type} (w : World σ) (onLoop : Bool) (r : RpcClient) (s : σ) :
    Done Unit × σ :=
  r.blocked s (Client.connectLink (w.below r.destinations) onLoop)

/-- Says goodbye under a new token and closes the link for good. The calls in flight stay. -/
def disconnect {σ : Type} (w : World σ) (onLoop : Bool) (token : String) (r : RpcClient) (s : σ) :
    Done Bool × σ :=
  r.blocked s (Client.disconnect (w.below r.destinations) onLoop token)

/-- Closes the session and resolves all calls in flight. The loop itself leaves out the goodbye. -/
def close {σ : Type} (w : World σ) (onLoop : Bool) (token : String) (r : RpcClient) (s : σ) :
    Done Unit × σ :=
  let (done, s) :=
    if onLoop then (r.step Client.stop, s)
    else
      let (said, s) := r.disconnect w false token s
      ({ said with result := said.result.map fun _ => () }, s)
  let (tracker, notices) := done.client.tracker.failAll
  ({ done with client := { done.client with tracker }, notices := done.notices ++ notices }, s)

end RpcClient
end BrokerRpc
