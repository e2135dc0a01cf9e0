import BrokerRpc.Proofs.Inbound.Dispatch
import BrokerRpc.Proofs.Rpc.Asking
import BrokerRpc.Proofs.Session.Run
import BrokerRpc.Proofs.Tracker.Attempts

/-! # Runs of a client for calls

A run performs operations one after the other: what callers do, with the calls or with the session
below, what arrives, what the wires of the link do, and how dials end. A dial may end at any time,
also when none is under way, so that there are more runs than a link allows. A caller that is
blocked is the operations that it consists of.
-/
namespace BrokerRpc

namespace RpcClient

inductive Operation where
  | ask (now : Instant) (a : Ask)
  | notify (request : Request)
  | cancel (key : Nat)
  | sweep (now : Instant)
  | dispatch (publisher : Publisher) (now : Timestamp)
  | setPolicy (policy : Policy)
  /-- What callers do with the session, how dials end and what wires do. -/
  | session (operation : Client.Operation)
  | receive (g : Nat) (now : Instant) (bytes : Bytes)
  /-- A caller says goodbye and goes on to wait for the receipt. -/
  | goodbye (token : String)
  | stop
  | failAll
  | stopLoop

def perform (r : RpcClient) : Operation → Done Unit
  | .ask now a =>
    let done := r.ask now a
    { done with result := .ok () }
  | .notify request => r.notify request
  | .cancel key => { client := (r.cancel key).1, result := .ok () }
  | .sweep now => r.sweep now
  | .dispatch publisher now =>
    let (client, _, notices) := r.dispatchNext publisher now
    { client, notices, result := .ok () }
  | .setPolicy policy => { client := r.setPolicy policy, result := .ok () }
  | .session operation => r.step (·.act operation)
  | .receive g now bytes => r.step (·.receive g now bytes)
  | .goodbye token =>
    r.step fun c =>
      let (c, effects, _) := c.sayGoodbye token
      (c, effects)
  | .stop => r.step Client.stop
  | .failAll =>
    let (tracker, notices) := r.tracker.failAll
    { client := { r with tracker }, notices, result := .ok () }
  | .stopLoop =>
    let client := { r.client with link := r.client.link.stopLoop }
    { client := { r with client }, result := .ok () }

def reached (r : RpcClient) (operations : List Operation) : RpcClient :=
  operations.foldl (fun r operation => (r.perform operation).client) r

/-- What a run asks of its surroundings and tells them. -/
def effectsIn (r : RpcClient) : List Operation → List Effect
  | [] => []
  | operation :: rest =>
    (r.perform operation).effects ++ effectsIn (r.perform operation).client rest

inductive Reachable : RpcClient → Prop where
  | registered {client : Client} {destinations : Destinations} {token : String} {r : RpcClient}
    {effects : List Effect} (h : register client destinations token = .ok (r, effects)) :
    Reachable r
  | performed {r : RpcClient} (h : Reachable r) (operation : Operation) :
    Reachable (r.perform operation).client

theorem reached_append (r : RpcClient) (first rest : List Operation) :
    r.reached (first ++ rest) = (r.reached first).reached rest := List.foldl_append

theorem Reachable.reached {r : RpcClient} (h : r.Reachable) (operations : List Operation) :
    (r.reached operations).Reachable := by
  induction operations generalizing r with
  | nil => exact h
  | cons operation rest ih => exact ih (h.performed operation)

/-! ## What an operation means to the tracker -/

/-- What an operation may mean to the tracker of a client. Calls are registered with different ids,
and of those with older keys only one that its owner gives up leaves the table unresolved. -/
structure Means (n : Nat) (operation : Operation) (o : Tracker.Operation) : Prop where
  proper : o.Proper
  kept : ∀ key < n, o ≠ .remove key
  owned : ∀ key < n, o = .cancel key → operation = .cancel key

variable {n : Nat} {operation : Operation}

theorem means_of_ne {o : Tracker.Operation} (hproper : o.Proper) (hr : ∀ key, o ≠ .remove key)
    (hc : ∀ key, o ≠ .cancel key) : Means n operation o :=
  ⟨hproper, fun key _ => hr key, fun key _ he => absurd he (hc key)⟩

def sure (_ : Bytes) (s : Unit) : Except Failure Unit × Unit := (.ok (), s)

/-- Of the effects of a session only lost links concern the tracker. -/
theorem steps_note (effects : List Effect) (a : Accounts) :
    Tracker.Steps (Means n operation) a.tracker (a.note effects).tracker := by
  have hone (a : Accounts) (effect : Effect) :
      Tracker.Steps (Means n operation) a.tracker (a.noteOne effect).tracker := by
    cases effect with
    | lost failure =>
      exact .single sure a.tracker () (.linkLost failure)
        (means_of_ne trivial (by simp) (by simp))
    | deliver recipient delivery =>
      cases delivery with
      | message payload =>
        simp only [Accounts.noteOne]
        split <;> exact .refl
      | error headers content => exact .refl
    | _ => exact .refl
  induction effects generalizing a with
  | nil => exact .refl
  | cons effect rest ih => exact (hone a effect).trans (ih _)

theorem steps_step (r : RpcClient) (f : Client → Client × List Effect) :
    Tracker.Steps (Means n operation) r.tracker (r.step f).client.tracker :=
  steps_note (f r.client).2 r.accounts

theorem steps_ask {r : RpcClient} {now : Instant} {a : Ask} {done : Done Nat}
    (h : r.Asked now a done) (hn : n ≤ r.tracker.nextKey) :
    Tracker.Steps (Means n operation) r.tracker done.client.tracker := by
  have hregister {ids : List Json} {tracker : Tracker} (h : r.Accepts now a ids tracker) :
      Tracker.Steps (Means n operation) r.tracker tracker := by
    have hproper : (Tracker.Operation.register now (.new ids) a.payload
        r.tracker.policy).Proper := ⟨ids, rfl, h.ne_nil, h.distinct⟩
    have hstep := Tracker.Steps.single (Q := Means n operation) sure r.tracker () _
      (means_of_ne hproper (by simp) (by simp))
    simp only [Tracker.perform, Tracker.registered, h.registered] at hstep
    exact hstep
  cases h with
  | refused _ => exact .refl
  | tracked haccepts _ => exact hregister haccepts
  | unsent haccepts _ _ =>
    -- the call that is taken off the table is the one that was just registered
    have hremove : Means n operation (.remove r.tracker.nextKey) := by
      refine ⟨trivial, fun key hkey he => ?_, fun key _ he => by cases he⟩
      rw [Tracker.Operation.remove.injEq] at he
      omega
    exact (hregister haccepts).perform sure () hremove

/-- The sender of a sweep: the session, together with the effects so far. -/
def resender (r : RpcClient) (payload : Bytes) (s : Client × List Effect) :
    Except Failure Unit × Client × List Effect :=
  let resent := s.1.resend r.destinations.requests payload
  (resent.2.2, resent.1, s.2 ++ resent.2.1)

theorem sweep_eq (r : RpcClient) (now : Instant) : r.sweep now =
    let swept := r.tracker.sweep r.resender now (r.client, [])
    let done := ({ r with tracker := swept.1 } : RpcClient).took swept.2.1.1 swept.2.1.2 (.ok ())
    { done with notices := swept.2.2 ++ done.notices } := rfl

theorem steps_sweep (r : RpcClient) (now : Instant) :
    Tracker.Steps (Means n operation) r.tracker (r.sweep now).client.tracker := by
  have hstep := Tracker.Steps.single (Q := Means n operation) r.resender r.tracker (r.client, [])
    (.sweep now) (means_of_ne trivial (by simp) (by simp))
  rw [Tracker.after_sweep] at hstep
  rw [sweep_eq]
  let swept : RpcClient :=
    { r with tracker := (r.tracker.sweep r.resender now (r.client, [])).1 }
  exact hstep.trans (steps_note _ swept.accounts)

theorem steps_dispatch (r : RpcClient) (publisher : Publisher) (now : Timestamp) :
    Tracker.Steps (Means n operation) r.tracker (r.dispatchNext publisher now).1.tracker := by
  unfold dispatchNext
  split
  · exact .refl
  · rename_i payload inbox _
    have hdesk := Desk.tracker_routeAll sure () { publisher, tracker := r.tracker } now
      (Inbound.ofPayload payload)
    change Tracker.Steps _ _ (Desk.routeAll { publisher, tracker := r.tracker } now
      (Inbound.ofPayload payload)).1.tracker
    rw [hdesk]
    refine Tracker.steps_reached sure _ () fun o ho => ?_
    obtain ⟨response, _, rfl⟩ := List.mem_map.mp ho
    exact means_of_ne trivial (by simp) (by simp)

/-- Whatever is done with a client, its tracker goes through operations of its own. -/
theorem steps_perform (r : RpcClient) (hn : n ≤ r.tracker.nextKey) (operation : Operation) :
    Tracker.Steps (Means n operation) r.tracker (r.perform operation).client.tracker := by
  cases operation with
  | ask now a => exact steps_ask (r.asked now a) hn
  | notify request =>
    simp only [perform, notify]
    split
    · exact steps_note _ r.accounts
    · exact .refl
  | cancel key =>
    exact .single sure r.tracker () (.cancel key)
      ⟨trivial, by simp, fun other _ he => by rw [Tracker.Operation.cancel.inj he]⟩
  | sweep now => exact r.steps_sweep now
  | dispatch publisher now => exact r.steps_dispatch publisher now
  | setPolicy policy =>
    exact .single sure r.tracker () (.setPolicy policy)
      (means_of_ne trivial (by simp) (by simp))
  | session o => exact r.steps_step _
  | receive g now bytes => exact r.steps_step _
  | goodbye token => exact r.steps_step _
  | stop => exact r.steps_step _
  | failAll =>
    exact .single sure r.tracker () .failAll
      (means_of_ne trivial (by simp) (by simp))
  | stopLoop => exact .refl

theorem Reachable.attended {r : RpcClient} (h : r.Reachable) : r.tracker.Attended := by
  induction h with
  | registered h =>
    unfold register at h
    split at h
    · cases h
    · obtain ⟨rfl, _⟩ := Prod.mk.inj (Except.ok.inj h)
      exact Tracker.attended_new _
  | performed _ operation ih =>
    exact ih.steps ((steps_perform _ (Nat.le_refl _) operation).mono fun _ hm => hm.proper)

end RpcClient
end BrokerRpc
