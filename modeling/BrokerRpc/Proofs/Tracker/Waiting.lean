import BrokerRpc.Proofs.Tracker.Outcome

/-! # Calls that wait

The calls of a client are new when they are registered, so that every call in flight waits. If their
ids are different too, and there is at least one, every call is sound, and a call in flight can be
completed at once by failing what it misses.
-/
namespace BrokerRpc.Tracker

variable {t : Tracker}

def Operation.Fresh : Operation → Prop
  | register _ call _ _ => ∃ ids, call = Call.new ids
  | _ => True

/-- Index and table tell the same, and every call in flight waits. -/
structure Waiting (t : Tracker) : Prop where
  correlated : Correlated t
  pending : ∀ key ∈ t.table.keys, ∃ call, t.calls.get? key = some call ∧ call.status = .pending

theorem waiting_new (policy : Policy) : Waiting (new policy) :=
  ⟨correlated_new policy, fun _ h => absurd h List.not_mem_nil⟩

theorem pending_answer {c : Call} (r : Response) (hc : c.status = .pending)
    (hs : (c.answer r).1.status ≠ .done) : (c.answer r).1.status = .pending := by
  rcases c.answer_cases r with he | ⟨_, _, he⟩
  · rw [he]
    exact hc
  · rw [he, Call.status_record] at hs ⊢
    split
    · rename_i hlast
      exact absurd (if_pos hlast) hs
    · exact hc

theorem Fate.pending {policy : Policy} {key : Nat} {tracking left : Tracking} {call call' : Call}
    {operation : Operation} {events : List CallEvent}
    (h : Fate policy key tracking call operation (some left) call' events)
    (hc : call.status = .pending) : call'.status = .pending := by
  cases h with
  | answered _ hs => exact pending_answer _ hc hs
  | spared _ | early _ | resent _ _ | disturbed _ => exact hc

section Run
variable {σ : Type} (send : Bytes → σ → Except Failure Unit × σ)

/-- A call that comes into flight waits, and waits as long as it is in flight. -/
theorem Waiting.perform (h : Waiting t) (s : σ) {operation : Operation} (hfresh : operation.Fresh) :
    Waiting (Tracker.perform send t s operation).1.after := by
  have hafter := h.correlated.perform send s operation
  refine ⟨hafter, fun key hkey => ?_⟩
  obtain ⟨call', hcall'⟩ := Assoc.mem_keys_iff.mp (hafter.known key hkey)
  obtain ⟨left, hleft⟩ := Assoc.mem_keys_iff.mp hkey
  refine ⟨call', hcall', ?_⟩
  cases ht : t.table.get? key with
  | some tracking =>
    obtain ⟨call, hcall, hpending⟩ := h.pending key (Assoc.mem_keys_of_get? ht)
    obtain ⟨found, hfound, hfate⟩ := perform_fate send h.correlated s operation ht hcall
    obtain rfl := Option.some.inj (hcall'.symm.trans hfound)
    rw [hleft] at hfate
    exact hfate.pending hpending
  | none =>
    cases hcall : t.calls.get? key with
    | some call =>
      have hgone := (perform_departed send h.correlated s operation ht hcall).1
      rw [hleft] at hgone
      cases hgone
    | none =>
      obtain ⟨now, payload, policy, hop, _⟩ := accepts_of_new send hcall hcall'
      rw [operation_perform] at hop
      subst hop
      obtain ⟨ids, rfl⟩ := hfresh
      rfl

/-- A tracker that a client can come to have, whatever its sender does. -/
def Reachable (t : Tracker) : Prop :=
  ∃ (σ : Type) (send : Bytes → σ → Except Failure Unit × σ) (policy : Policy) (s : σ)
    (operations : List Operation), (∀ operation ∈ operations, operation.Fresh) ∧
      (reached send (new policy) s operations).1 = t

theorem waiting_reached (policy : Policy) (s : σ) {operations : List Operation}
    (hfresh : ∀ operation ∈ operations, operation.Fresh) :
    Waiting (reached send (new policy) s operations).1 :=
  (steps_reached send (new policy) s hfresh).preserves
    (fun _ _ send s _ hfresh h => h.perform send s hfresh) (waiting_new policy)

end Run

theorem Reachable.waiting (h : t.Reachable) : Waiting t := by
  obtain ⟨_, send, policy, s, operations, hfresh, rfl⟩ := h
  exact waiting_reached send policy s hfresh

/-! ## Calls that can be completed -/

theorem Operation.Proper.fresh {operation : Operation} (h : operation.Proper) :
    operation.Fresh := by
  cases operation with
  | register now call payload policy =>
    obtain ⟨ids, hcall, _⟩ := h
    exact ⟨ids, hcall⟩
  | _ => trivial

structure Attended (t : Tracker) : Prop extends Waiting t where
  sound : ∀ key call, t.calls.get? key = some call → call.Sound

theorem attended_new (policy : Policy) : Attended (new policy) :=
  ⟨waiting_new policy, fun _ _ h => by cases h⟩

theorem Fate.sound {policy : Policy} {key : Nat} {tracking : Tracking} {call call' : Call}
    {operation : Operation} {left : Option Tracking} {events : List CallEvent}
    (h : Fate policy key tracking call operation left call' events) (hs : call.Sound) :
    call'.Sound := by
  cases h with
  | spared _ | early _ | resent _ _ | disturbed _ | removed => exact hs
  | answered _ _ | completed _ _ => exact hs.answer _
  | unsendable _ _ _ | expired _ _ | severed _ | closed => exact hs.failMissing _
  | cancelled => exact hs.cancel

namespace Attended

theorem perform (h : Attended t) {σ : Type} (send : Bytes → σ → Except Failure Unit × σ) (s : σ)
    {operation : Operation} (hproper : operation.Proper) :
    Attended (Tracker.perform send t s operation).1.after := by
  refine ⟨h.toWaiting.perform send s hproper.fresh, fun key call' hcall' => ?_⟩
  cases hcall : t.calls.get? key with
  | some call =>
    have hsound := h.sound key call hcall
    cases ht : t.table.get? key with
    | some tracking =>
      obtain ⟨found, hfound, hfate⟩ := perform_fate send h.correlated s operation ht hcall
      obtain rfl := Option.some.inj (hcall'.symm.trans hfound)
      exact hfate.sound hsound
    | none =>
      obtain ⟨_, _, found, hfound, hsame⟩ :=
        perform_departed send h.correlated s operation ht hcall
      obtain rfl := Option.some.inj (hcall'.symm.trans hfound)
      rcases hsame with rfl | ⟨_, rfl⟩
      · exact hsound
      · exact hsound.cancel
  | none =>
    obtain ⟨now, payload, policy, hop, _⟩ := accepts_of_new send hcall hcall'
    rw [operation_perform] at hop
    subst hop
    obtain ⟨ids, rfl, hne, hdistinct⟩ := hproper
    exact Call.sound_new hne hdistinct

theorem steps {t' : Tracker} (h : Attended t) (hsteps : Steps Operation.Proper t t') :
    Attended t' :=
  hsteps.preserves (fun _ _ send s _ hproper h => h.perform send s hproper) h

theorem inFlight (h : Attended t) {key : Nat} (hkey : key ∈ t.table.keys) :
    ∃ call, t.calls.get? key = some call ∧ call.status = .pending ∧ call.Sound := by
  obtain ⟨call, hcall, hpending⟩ := h.pending key hkey
  exact ⟨call, hcall, hpending, h.sound key call hcall⟩

end Attended

/-! ## Calls that nobody gives up -/

/-- What becomes of a call in flight with time, if its owner does not give it up: it keeps its ids
and its answers, and it is done once it is not in flight any more. -/
structure Held (key : Nat) (call : Call) (t : Tracker) (call' : Call) : Prop where
  found : t.calls.get? key = some call'
  ids_eq : call'.ids = call.ids
  answers_prefix : call.answers <+: call'.answers
  ended : key ∈ t.table.keys ∨ call'.status = .done

theorem answers_answer (c : Call) (r : Response) : c.answers <+: (c.answer r).1.answers := by
  rcases c.answer_cases r with he | ⟨_, _, he⟩
  · simp only [he, List.prefix_rfl]
  · rw [he]
    exact List.prefix_append _ _

/-- Unless it is given up, a call in flight goes on with the answers it has, or ends done. -/
theorem Fate.held {policy : Policy} {key : Nat} {tracking : Tracking} {call call' : Call}
    {operation : Operation} {left : Option Tracking} {events : List CallEvent}
    (h : Fate policy key tracking call operation left call' events) (hs : call.Sound)
    (hp : call.status = .pending) (hr : operation ≠ .remove key) (hc : operation ≠ .cancel key) :
    call.answers <+: call'.answers ∧ (left.isSome = true ∨ call'.status = .done) := by
  have hfail (make : Json → Response) (hid : ∀ id, (make id).id = id) :
      call.answers <+: (call.failMissing make).1.answers ∧
        ((none : Option Tracking).isSome = true ∨ (call.failMissing make).1.status = .done) := by
    rw [hs.failMissing_eq hp hid]
    exact ⟨List.prefix_append _ _, Or.inr rfl⟩
  cases h with
  | spared _ | early _ | resent _ _ | disturbed _ => exact ⟨List.prefix_rfl, Or.inl rfl⟩
  | answered _ _ => exact ⟨answers_answer call _, Or.inl rfl⟩
  | completed _ hdone => exact ⟨answers_answer call _, Or.inr hdone⟩
  | unsendable _ _ _ | severed _ => exact hfail (failureResponse _) fun _ => rfl
  | expired _ _ | closed => exact hfail Response.timeout fun _ => rfl
  | removed => exact absurd rfl hr
  | cancelled => exact absurd rfl hc

theorem Held.perform {key : Nat} {call call' : Call} (h : Held key call t call')
    (ht : Attended t) {σ : Type} (send : Bytes → σ → Except Failure Unit × σ) (s : σ)
    {operation : Operation} (hr : operation ≠ .remove key) (hc : operation ≠ .cancel key) :
    ∃ call'', Held key call (Tracker.perform send t s operation).1.after call'' := by
  have hsound := ht.sound key call' h.found
  cases htable : t.table.get? key with
  | some tracking =>
    obtain ⟨waiting, hwaiting, hpending⟩ := ht.pending key (Assoc.mem_keys_of_get? htable)
    obtain rfl := Option.some.inj (hwaiting.symm.trans h.found)
    obtain ⟨call'', hfound, hfate⟩ := perform_fate send ht.correlated s operation htable h.found
    obtain ⟨hanswers, hended⟩ := hfate.held hsound hpending hr hc
    refine ⟨call'', hfound, hfate.ids_eq.trans h.ids_eq, h.answers_prefix.trans hanswers, ?_⟩
    exact hended.imp_left fun hleft => Assoc.contains_iff_mem_keys.mp hleft
  | none =>
    have hdone := h.ended.resolve_left (Assoc.get?_eq_none_iff.mp htable)
    obtain ⟨_, _, call'', hfound, hsame⟩ :=
      perform_departed send ht.correlated s operation htable h.found
    obtain rfl := hsame.resolve_right fun hcancel => hc hcancel.1
    exact ⟨call'', hfound, h.ids_eq, h.answers_prefix, Or.inr hdone⟩

end BrokerRpc.Tracker
