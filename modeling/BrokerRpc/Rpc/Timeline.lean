import BrokerRpc.Rpc.Client

/-! # Timelines

A timeline runs a client for calls along a clock whose dials all end in the same way. A dial ends as
soon as the step that started it is over, and time passes only where somebody waits; sweeps come at
whole multiples of their interval. What happened is kept until it is collected.
-/
namespace BrokerRpc

structure Report where
  lost : List Failure := []
  notices : List CallNotice := []

structure Timeline where
  client : RpcClient
  dialEnd : Except Failure Unit
  sweeping : Bool := true
  now : Instant := 0
  lastSweep : Instant := 0
  report : Report := {}

namespace Timeline

def losses (effects : List Effect) : List Failure :=
  effects.filterMap fun e =>
    match e with
    | .lost failure => some failure
    | _ => none

def took {α : Type} (t : Timeline) (done : RpcClient.Done α) : Timeline :=
  { t with client := done.client
           report := { lost := t.report.lost ++ losses done.effects
                       notices := t.report.notices ++ done.notices } }

def act {α : Type} (t : Timeline) (f : RpcClient → RpcClient.Done α) :
    Timeline × Except Failure α :=
  let done := f t.client
  (t.took done, done.result)

def settle (t : Timeline) : Timeline :=
  let link := t.client.client.link
  if link.isConnecting ∧ link.running then t.took (t.client.step (·.dialEnded t.dialEnd)) else t

/-- The first sweep after the last one that is not before the given time. -/
def sweepFrom (t : Timeline) (due : Instant) : Instant :=
  let n := Tracker.sweepInterval.nanos
  max ((due + n - 1) / n * n) (t.lastSweep + n)

def nextSweep? (t : Timeline) : Option Instant :=
  match t.client.tracker.table.values.map Tracking.deadline with
  | [] => none
  | d :: ds => if t.sweeping then some (t.sweepFrom (ds.foldl min d)) else none

def sweepAt (t : Timeline) (now : Instant) : Timeline :=
  ({ t with now, lastSweep := now }.took (t.client.sweep now)).settle

def isWaiting (t : Timeline) (key : Nat) : Bool :=
  match t.client.tracker.calls.get? key with
  | some call => call.status = .pending
  | none => false

/-- Lets time pass with its sweeps up to the given time, or until the condition fails. -/
def advance (goesOn : Timeline → Bool) (target : Instant) (fuel : Nat) (t : Timeline) : Timeline :=
  match fuel with
  | 0 => t
  | fuel + 1 =>
    if !goesOn t then t
    else
      match t.nextSweep? with
      | none => { t with now := max t.now target }
      | some now =>
        if now ≤ target then advance goesOn target fuel (t.sweepAt now)
        else { t with now := max t.now target }

def sweepBound (target : Instant) : Nat := target / Tracker.sweepInterval.nanos + 2

def pass (t : Timeline) (d : Duration) : Timeline :=
  let target := t.now + d.nanos
  t.advance (fun _ => true) target (sweepBound target)

def await (t : Timeline) (key : Nat) (d : Duration) : Timeline :=
  let target := t.now + d.nanos
  t.advance (·.isWaiting key) target (sweepBound target)

/-- The surroundings of a blocked caller: between two attempts the retry time passes, and the
broker is silent. -/
def world : RpcClient.World Timeline where
  dial t := (t.dialEnd, t)
  pause client t :=
    let later := { t with client, report := {} }.pass client.client.link.policy.retryTimeout
    ({ client := later.client, effects := later.report.lost.map .lost
       notices := later.report.notices, result := .ok () }, { later with report := t.report })
  reply client t := ({ client, result := .ok () }, t)

def block {α : Type} (t : Timeline)
    (f : RpcClient.World Timeline → RpcClient → Timeline → RpcClient.Done α × Timeline) :
    Timeline × Except Failure α :=
  let (done, later) := f world t.client t
  (later.took done, done.result)

def collect (t : Timeline) : Timeline × Report := ({ t with report := {} }, t.report)

end Timeline
end BrokerRpc
