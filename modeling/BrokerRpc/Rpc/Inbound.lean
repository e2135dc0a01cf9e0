import BrokerRpc.Event.Publisher
import BrokerRpc.Rpc.Tracker

/-! # Inbound payloads

A payload on the response destination is JSON text: one value, or an array of values that count one
by one. An object with a method is an event; any other object must be a valid response. Whatever is
neither is dropped without a trace.
-/
namespace BrokerRpc

inductive Inbound where
  | event (id : EventId) (params : Json)
  | response (r : Response)
  | dropped
  deriving DecidableEq, Repr

namespace Inbound

def ofMethod (method : Json) (params : Option Json) : Inbound :=
  match method with
  | .str s =>
    match EventId.parse s with
    | .ok id => .event id (params.getD .null)
    | .error _ => .dropped
  | _ => .dropped

def ofJson (v : Json) : Inbound :=
  match v with
  | .obj node =>
    match Assoc.get? node "method" with
    | some method => ofMethod method (Assoc.get? node "params")
    | none =>
      match Response.ofJson v with
      | .ok r => .response r
      | .error _ => .dropped
  | _ => .dropped

def values (payload : Bytes) : List Json :=
  match Json.parse payload with
  | .ok (.arr items) => items
  | .ok v => [v]
  | .error _ => []

def ofPayload (payload : Bytes) : List Inbound := (values payload).map ofJson

end Inbound

structure Desk where
  publisher : Publisher
  tracker : Tracker
  deriving DecidableEq, Repr

namespace Desk

/-- Takes one inbound value to its place. Events are stamped with the time of their arrival. -/
def route (d : Desk) (now : Timestamp) : Inbound → Desk × List CallNotice
  | .event id params => ({ d with publisher := d.publisher.publish ⟨id, params, now⟩ }, [])
  | .response r =>
    let (tracker, notices) := d.tracker.processResponse r
    ({ d with tracker }, notices)
  | .dropped => (d, [])

def routeAll (d : Desk) (now : Timestamp) : List Inbound → Desk × List CallNotice
  | [] => (d, [])
  | x :: xs =>
    let (d, notices) := d.route now x
    let (d, more) := d.routeAll now xs
    (d, notices ++ more)

def dispatch (d : Desk) (now : Timestamp) (payload : Bytes) : Desk × List CallNotice :=
  d.routeAll now (Inbound.ofPayload payload)

end Desk
end BrokerRpc
