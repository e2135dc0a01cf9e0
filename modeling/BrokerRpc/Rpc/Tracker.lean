import BrokerRpc.Policy
import BrokerRpc.Rpc.Call

/-! # Calls in flight

The tracker keeps every call whose request is on its way, the deadline by which it is sent again,
and an index from ids to calls. A call leaves the table with its last response, with its last
attempt, with a failure that allows no other attempt, or when its owner gives it up. Whatever takes
it off the table for good resolves it.
-/
namespace BrokerRpc

structure Tracking where
  payload : Bytes
  retryTimeout : Duration
  deadline : Instant
  attemptsLeft : Nat
  attempt : Nat
  deriving DecidableEq, Repr

namespace Tracking

def hasAttempt (tracking : Tracking) : Bool := 1 < tracking.attemptsLeft

def renew (tracking : Tracking) (now : Instant) : Tracking :=
  { tracking with
    attemptsLeft := tracking.attemptsLeft - 1
    attempt := tracking.attempt + 1
    deadline := now + tracking.retryTimeout.nanos }

end Tracking

abbrev CallNotice := Nat × CallEvent

/-- The calls of one client. `calls` holds every call ever accepted, so that its owner sees how it
ended; `table` holds those in flight. -/
structure Tracker where
  policy : Policy
  calls : Assoc Nat Call := []
  table : Assoc Nat Tracking := []
  index : Assoc String Nat := []
  nextKey : Nat := 1
  deriving DecidableEq, Repr

namespace Tracker

def new (policy : Policy) : Tracker := { policy }

/-- Takes effect for calls accepted and failures judged from now on. -/
def setPolicy (t : Tracker) (policy : Policy) : Tracker := { t with policy }

def pending (t : Tracker) : Nat := t.table.length

def refusal? (t : Tracker) : List Json → Option Misuse
  | [] => none
  | id :: ids =>
    if id.isNull then some .nullId
    else if t.index.contains (Response.idKey id) then some (.idInFlight id.text)
    else refusal? t ids

def register (t : Tracker) (now : Instant) (call : Call) (payload : Bytes) (policy : Policy) :
    Except Failure (Nat × Tracker) :=
  match t.refusal? call.ids with
  | some cause => .error (.misuse cause)
  | none =>
    let key := t.nextKey
    let tracking : Tracking :=
      { payload, retryTimeout := policy.retryTimeout, deadline := now + policy.retryTimeout.nanos
        attemptsLeft := policy.retryNumber, attempt := 1 }
    .ok (key,
      { t with
        calls := t.calls ++ [(key, call)]
        table := t.table ++ [(key, tracking)]
        index := call.keys.foldl (fun index id => index.put id key) t.index
        nextKey := key + 1 })

def idsOf (t : Tracker) (key : Nat) : List String := ((t.calls.get? key).map Call.keys).getD []

def remove (t : Tracker) (key : Nat) : Tracker :=
  if t.table.contains key then
    { t with table := t.table.erase key, index := (t.idsOf key).foldl Assoc.erase t.index }
  else t

def change (t : Tracker) (key : Nat) (f : Call → Call × List CallEvent) :
    Tracker × List CallNotice :=
  match t.calls.get? key with
  | none => (t, [])
  | some call =>
    let (call, events) := f call
    ({ t with calls := t.calls.put key call }, events.map fun event => (key, event))

def isDone (t : Tracker) (key : Nat) : Bool :=
  match t.calls.get? key with
  | some call => call.status = .done
  | none => false

/-- Routes a response to the call in flight that expects its id. One with the id `null` resolves
nothing. -/
def processResponse (t : Tracker) (r : Response) : Tracker × List CallNotice :=
  if r.id.isNull then (t, [])
  else
    match t.index.get? (Response.idKey r.id) with
    | none => (t, [])
    | some key =>
      if t.table.contains key then
        let (t, notices) := t.change key (·.answer r)
        (if t.isDone key then t.remove key else t, notices)
      else (t, [])

/-- Gives up a call on behalf of its owner, and says whether it was still waiting. -/
def cancel (t : Tracker) (key : Nat) : Tracker × Bool :=
  let waiting :=
    match t.calls.get? key with
    | some call => call.status = .pending
    | none => false
  (({ t with calls := t.calls.modify key Call.cancel } : Tracker).remove key, waiting)

def resolve (t : Tracker) (make : Json → Response) (key : Nat) : Tracker × List CallNotice :=
  t.change key (·.failMissing make)

def failureResponse (failure : Failure) (id : Json) : Response :=
  .failure id Response.timeoutCode failure.message

def forEach (step : Tracker → Nat → Tracker × List CallNotice) (t : Tracker) :
    List Nat → Tracker × List CallNotice
  | [] => (t, [])
  | key :: keys =>
    let (t, notices) := step t key
    let (t, more) := forEach step t keys
    (t, notices ++ more)

/-! ## Attempts -/

def sweepInterval : Duration := .ofMillis 100

def due (t : Tracker) (now : Instant) : Assoc Nat Tracking :=
  t.table.filter fun entry => entry.2.deadline ≤ now

def renewDue (t : Tracker) (now : Instant) : Tracker :=
  { t with
    table := t.table.map fun entry =>
      if entry.2.deadline ≤ now ∧ entry.2.hasAttempt then
        (entry.1, entry.2.renew now)
      else entry }

/-- Sends one request again. A failure that allows no other attempt resolves the call. -/
def resend {σ : Type} (send : Bytes → σ → Except Failure Unit × σ) (t : Tracker) (s : σ)
    (key : Nat) (tracking : Tracking) : Tracker × σ × List CallNotice :=
  let retrying := (key, CallEvent.retrying tracking.attempt)
  let (result, s) := send tracking.payload s
  match result with
  | .ok () => (t, s, [retrying])
  | .error failure =>
    if t.policy.isRetryable failure then (t, s, [retrying])
    else
      let (t, notices) := (t.remove key).resolve (failureResponse failure) key
      (t, s, retrying :: notices)

def resendAll {σ : Type} (send : Bytes → σ → Except Failure Unit × σ) (t : Tracker) (s : σ) :
    Assoc Nat Tracking → Tracker × σ × List CallNotice
  | [] => (t, s, [])
  | (key, tracking) :: rest =>
    let (t, s, notices) := resend send t s key tracking
    let (t, s, more) := resendAll send t s rest
    (t, s, notices ++ more)

/-- Sends each due call again that has an attempt left, and resolves the others as timed out. -/
def sweep {σ : Type} (send : Bytes → σ → Except Failure Unit × σ) (now : Instant) (t : Tracker)
    (s : σ) : Tracker × σ × List CallNotice :=
  let due := t.due now
  let expired := Assoc.keys (due.filter fun entry => !entry.2.hasAttempt)
  let renewed := (due.filter fun entry => entry.2.hasAttempt).map fun entry =>
    (entry.1, entry.2.renew now)
  let t := expired.foldl remove (t.renewDue now)
  let (t, notices) := forEach (resolve · Response.timeout ·) t expired
  let (t, s, more) := resendAll send t s renewed
  (t, s, notices ++ more)

/-! ## The end of a connection -/

def lose (failure : Failure) (final : Bool) (t : Tracker) (key : Nat) :
    Tracker × List CallNotice :=
  let lost := (key, CallEvent.linkLost failure.message)
  if final then
    let (t, notices) := t.resolve (failureResponse failure) key
    (t, lost :: notices)
  else (t, [lost])

/-- The connection went down. A failure that allows another attempt leaves the calls in flight; any
other takes them off the table and resolves them. -/
def linkLost (t : Tracker) (failure : Failure) : Tracker × List CallNotice :=
  let keys := t.table.keys
  if t.policy.isRetryable failure then forEach (lose failure false) t keys
  else forEach (lose failure true) (keys.foldl remove t) keys

def failAll (t : Tracker) : Tracker × List CallNotice :=
  let keys := t.table.keys
  forEach (resolve · Response.timeout ·) (keys.foldl remove t) keys

end Tracker
end BrokerRpc
