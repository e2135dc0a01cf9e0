import BrokerRpc.Proofs.Rpc.Run

/-! # Blocked callers

A caller that waits for the link or for the broker is no operation of its own. What it does itself,
and what goes on around it while it waits, are operations one after the other, so that what holds of
every run holds of blocked callers as well.
-/
namespace BrokerRpc

/-! ## Accounts of a client -/

namespace Accounts
variable {a a' : Accounts} {r : RpcClient}

structure Of (a : Accounts) (r : RpcClient) : Prop where
  tracker_eq : a.tracker = r.tracker
  inbox_eq : a.inbox = r.inbox

/-- What was told earlier does not matter to what happens to the calls. -/
theorem note_congr (htracker : a'.tracker = a.tracker) (hinbox : a'.inbox = a.inbox)
    (effects : List Effect) : (a'.note effects).tracker = (a.note effects).tracker ∧
      (a'.note effects).inbox = (a.note effects).inbox := by
  induction effects generalizing a a' with
  | nil => exact ⟨htracker, hinbox⟩
  | cons effect rest ih =>
    have hone : (a'.noteOne effect).tracker = (a.noteOne effect).tracker ∧
        (a'.noteOne effect).inbox = (a.noteOne effect).inbox := by
      cases effect with
      | lost failure => simp only [noteOne, htracker, hinbox, and_self]
      | deliver recipient delivery =>
        cases delivery with
        | message payload =>
          simp only [noteOne]
          split
          · exact ⟨htracker, by rw [hinbox]⟩
          · exact ⟨htracker, hinbox⟩
        | error headers content => exact ⟨htracker, hinbox⟩
      | _ => exact ⟨htracker, hinbox⟩
    exact ih hone.1 hone.2

theorem Of.step (h : a.Of r) (f : Client → Client × List Effect) :
    (a.note (f r.client).2).Of (r.step f).client := by
  obtain ⟨htracker, hinbox⟩ := note_congr (a := r.accounts) h.tracker_eq h.inbox_eq (f r.client).2
  exact ⟨htracker, hinbox⟩

end Accounts

namespace RpcClient

/-! ## Runs -/

theorem effectsIn_append (r : RpcClient) (first rest : List Operation) :
    r.effectsIn (first ++ rest) = r.effectsIn first ++ (r.reached first).effectsIn rest := by
  induction first generalizing r with
  | nil => rfl
  | cons operation more ih =>
    simp only [List.cons_append, effectsIn, ih, List.append_assoc]
    rfl

/-- What a blocked caller has come to, if it is where the run ends. -/
structure Along (r : RpcClient) (operations : List Operation) (c : Client) (effects : List Effect)
    (a : Accounts) : Prop where
  client_eq : c = (r.reached operations).client
  effects_eq : effects = r.effectsIn operations
  accounts : a.Of (r.reached operations)

namespace Along
variable {r : RpcClient} {first rest : List Operation} {c c' : Client} {effects more : List Effect}
  {a a' : Accounts}

theorem start (ha : a.Of r) : Along r [] r.client [] a := ⟨rfl, rfl, ha⟩

theorem trans (h : Along r first c effects a) (h' : Along (r.reached first) rest c' more a') :
    Along r (first ++ rest) c' (effects ++ more) a' := by
  refine ⟨?_, ?_, ?_⟩
  · rw [reached_append, h'.client_eq]
  · rw [effectsIn_append, h.effects_eq, h'.effects_eq]
  · rw [reached_append]
    exact h'.accounts

end Along

/-! ## What goes on around a caller -/

/-- What goes on around a blocked caller are operations on the client. -/
structure World.Runs {σ : Type} (w : World σ) : Prop where
  pause (r : RpcClient) (s : σ) : ∃ operations, (w.pause r s).1.client = r.reached operations ∧
    (w.pause r s).1.effects = r.effectsIn operations
  reply (r : RpcClient) (s : σ) : ∃ operations, (w.reply r s).1.client = r.reached operations ∧
    (w.reply r s).1.effects = r.effectsIn operations

variable {σ α : Type} {w : World σ} {r : RpcClient} {a : Accounts}

end RpcClient
end BrokerRpc
