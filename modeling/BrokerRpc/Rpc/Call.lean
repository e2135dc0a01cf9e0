import BrokerRpc.Assoc
import BrokerRpc.Rpc.Response

/-! # Calls

A call waits for one response to each of its ids. It is done with the last of them, or cancelled
before; after that nothing changes any more. The first response to an id counts, in whatever order
the responses arrive, and the caller gets them in the order of the ids.
-/
namespace BrokerRpc

inductive CallEvent where
  | retrying (attempt : Nat)
  | linkLost (reason : String)
  | resolved (response : Response)
  deriving DecidableEq, Repr

inductive CallStatus where
  | pending
  | done
  | cancelled
  deriving DecidableEq, Repr

def CallStatus.name : CallStatus → String
  | pending => "pending"
  | done => "done"
  | cancelled => "cancelled"

/-- A call with the ids it expects and the responses recorded under their keys, in the order of
their arrival. -/
structure Call where
  ids : List Json
  answers : Assoc String Response := []
  status : CallStatus := .pending
  deriving DecidableEq, Repr

namespace Call

def new (ids : List Json) : Call := { ids }

def keys (c : Call) : List String := c.ids.map Response.idKey

def expects (c : Call) (r : Response) : Bool :=
  c.keys.contains (Response.idKey r.id) && !c.answers.contains (Response.idKey r.id)

def record (c : Call) (r : Response) : Call :=
  let answers := c.answers ++ [(Response.idKey r.id, r)]
  { c with answers, status := if answers.length = c.ids.length then .done else c.status }

/-- Offers a response to the call. One that the call does not expect changes nothing. -/
def answer (c : Call) (r : Response) : Call × List CallEvent :=
  if c.status = .pending ∧ c.expects r then (c.record r, [.resolved r]) else (c, [])

def missing (c : Call) : List Json :=
  c.ids.filter fun id => !c.answers.contains (Response.idKey id)

def answerAll (c : Call) : List Response → Call × List CallEvent
  | [] => (c, [])
  | r :: rs =>
    let (c, events) := c.answer r
    let (c, more) := c.answerAll rs
    (c, events ++ more)

/-- Resolves every missing id with a response made for it. -/
def failMissing (c : Call) (make : Json → Response) : Call × List CallEvent :=
  c.answerAll (c.missing.map make)

def cancel (c : Call) : Call := if c.status = .pending then { c with status := .cancelled } else c

def giveUp (c : Call) : Call × Bool := (c.cancel, c.status = .pending)

def responses (c : Call) : List Response :=
  c.ids.filterMap fun id => c.answers.get? (Response.idKey id)

/-- What a caller gets that waits for at most `bound`, if nothing more arrives. -/
def wait (c : Call) (bound : Duration) : Except Failure (List Response) :=
  match c.status with
  | .done => .ok c.responses
  | .cancelled => .error .cancelled
  | .pending => .error (.timeout bound)

def waitOne (c : Call) (bound : Duration) : Except Failure Response := do
  match ← c.wait bound with
  | r :: _ => return r
  | [] => throw (.protocol .unresolvedCall)

end Call
end BrokerRpc
