import BrokerRpc.Rpc.Tracker

/-! # Runs of a tracker

A run performs operations one after the other on one tracker with one sender. Each operation leaves
a moment: the tracker before and after it, what the owners of the calls were told, and what the
sender was asked to send. The sender is any function with a state of its own, so that it may answer
each request in any way.
-/
namespace BrokerRpc.Tracker

inductive Operation where
  | register (now : Instant) (call : Call) (payload : Bytes) (policy : Policy)
  | respond (r : Response)
  | sweep (now : Instant)
  | linkLost (failure : Failure)
  | failAll
  | setPolicy (policy : Policy)
  | remove (key : Nat)
  | cancel (key : Nat)

/-- One operation with what it found, what it left and what it showed. -/
structure Moment where
  before : Tracker
  operation : Operation
  after : Tracker
  notices : List CallNotice := []
  sent : List Bytes := []

variable {σ : Type} (send : Bytes → σ → Except Failure Unit × σ)

/-- The sender that also keeps what it was asked to send. -/
def recording (payload : Bytes) (s : σ × List Bytes) : Except Failure Unit × σ × List Bytes :=
  ((send payload s.1).1, (send payload s.1).2, s.2 ++ [payload])

/-- The tracker after a registration, which a refusal leaves as it was. -/
def registered (t : Tracker) (now : Instant) (call : Call) (payload : Bytes) (policy : Policy) :
    Tracker :=
  match t.register now call payload policy with
  | .ok (_, t) => t
  | .error _ => t

def perform (t : Tracker) (s : σ) (operation : Operation) : Moment × σ :=
  match operation with
  | .register now call payload policy =>
    ({ before := t, operation, after := t.registered now call payload policy }, s)
  | .respond r =>
    let (after, notices) := t.processResponse r
    ({ before := t, operation, after, notices }, s)
  | .sweep now =>
    let (after, (s, sent), notices) := t.sweep (recording send) now (s, [])
    ({ before := t, operation, after, notices, sent }, s)
  | .linkLost failure =>
    let (after, notices) := t.linkLost failure
    ({ before := t, operation, after, notices }, s)
  | .failAll =>
    let (after, notices) := t.failAll
    ({ before := t, operation, after, notices }, s)
  | .setPolicy policy => ({ before := t, operation, after := t.setPolicy policy }, s)
  | .remove key => ({ before := t, operation, after := t.remove key }, s)
  | .cancel key => ({ before := t, operation, after := (t.cancel key).1 }, s)

def history (t : Tracker) (s : σ) : List Operation → List Moment
  | [] => []
  | operation :: rest =>
    let (moment, s) := perform send t s operation
    moment :: history moment.after s rest

def reached (t : Tracker) (s : σ) : List Operation → Tracker × σ
  | [] => (t, s)
  | operation :: rest =>
    let (moment, s) := perform send t s operation
    reached moment.after s rest

@[simp] theorem before_perform (t : Tracker) (s : σ) (operation : Operation) :
    (perform send t s operation).1.before = t := by cases operation <;> rfl

@[simp] theorem operation_perform (t : Tracker) (s : σ) (operation : Operation) :
    (perform send t s operation).1.operation = operation := by cases operation <;> rfl

theorem reached_append (t : Tracker) (s : σ) (first rest : List Operation) :
    reached send t s (first ++ rest) =
      reached send (reached send t s first).1 (reached send t s first).2 rest := by
  induction first generalizing t s with
  | nil => rfl
  | cons operation first ih => exact ih _ _

theorem reached_preserves {P : Tracker → Prop}
    (hstep : ∀ t s operation, P t → P (perform send t s operation).1.after)
    {t : Tracker} (h : P t) (s : σ) (operations : List Operation) :
    P (reached send t s operations).1 := by
  induction operations generalizing t s with
  | nil => exact h
  | cons operation rest ih => exact ih (hstep t s operation h) _

/-- Operations of a kind one after the other, each with a sender of its own. -/
inductive Steps (Q : Operation → Prop) (t : Tracker) : Tracker → Prop where
  | refl : Steps Q t t
  | perform {t' : Tracker} (h : Steps Q t t') {σ : Type}
    (send : Bytes → σ → Except Failure Unit × σ) (s : σ) {operation : Operation}
    (hq : Q operation) : Steps Q t (Tracker.perform send t' s operation).1.after

namespace Steps
variable {Q : Operation → Prop} {t t' t'' : Tracker}

theorem single (t : Tracker) (s : σ) (operation : Operation) (hq : Q operation) :
    Steps Q t (Tracker.perform send t s operation).1.after := Steps.refl.perform send s hq

theorem trans (h : Steps Q t t') (h' : Steps Q t' t'') : Steps Q t t'' := by
  induction h' with
  | refl => exact h
  | perform _ send s hq ih => exact ih.perform send s hq

theorem mono {R : Operation → Prop} (h : Steps Q t t')
    (hqr : ∀ operation, Q operation → R operation) : Steps R t t' := by
  induction h with
  | refl => exact .refl
  | perform _ send s hq ih => exact ih.perform send s (hqr _ hq)

theorem preserves {P : Tracker → Prop}
    (hstep : ∀ t (σ : Type) (send : Bytes → σ → Except Failure Unit × σ) (s : σ) operation,
      Q operation → P t → P (Tracker.perform send t s operation).1.after)
    (h : Steps Q t t') (hp : P t) : P t' := by
  induction h with
  | refl => exact hp
  | perform _ send s hq ih => exact hstep _ _ send s _ hq ih

end Steps

theorem steps_reached {Q : Operation → Prop} (t : Tracker) (s : σ) {operations : List Operation}
    (hq : ∀ operation ∈ operations, Q operation) : Steps Q t (reached send t s operations).1 := by
  induction operations generalizing t s with
  | nil => exact .refl
  | cons operation rest ih =>
    have hrest := ih (perform send t s operation).1.after (perform send t s operation).2
      fun other hmem => hq other (List.mem_cons_of_mem _ hmem)
    exact (Steps.refl.perform send s (hq operation List.mem_cons_self)).trans hrest

/-- What every operation of a kind preserves, with the moments that led to it, holds of a whole run
of such operations. -/
theorem history_preserves {P : List Moment → Tracker → Prop} {Q : Operation → Prop}
    (hstep : ∀ past t s operation, Q operation → P past t →
      P (past ++ [(perform send t s operation).1]) (perform send t s operation).1.after)
    {past : List Moment} {t : Tracker} (h : P past t) (s : σ) {operations : List Operation}
    (hq : ∀ operation ∈ operations, Q operation) :
    P (past ++ history send t s operations) (reached send t s operations).1 := by
  induction operations generalizing past t s with
  | nil =>
    rw [history, List.append_nil]
    exact h
  | cons operation rest ih =>
    have hfirst := hstep past t s operation (hq operation List.mem_cons_self) h
    have hrest := ih hfirst (perform send t s operation).2
      fun other hmem => hq other (List.mem_cons_of_mem _ hmem)
    rw [List.append_assoc, List.singleton_append] at hrest
    exact hrest

def eventsOf (key : Nat) (notices : List CallNotice) : List CallEvent :=
  notices.filterMap fun notice => if notice.1 = key then some notice.2 else none

@[simp] theorem eventsOf_nil (key : Nat) : eventsOf key [] = [] := rfl

@[simp] theorem eventsOf_append (key : Nat) (first rest : List CallNotice) :
    eventsOf key (first ++ rest) = eventsOf key first ++ eventsOf key rest :=
  List.filterMap_append

@[simp] theorem eventsOf_cons (key : Nat) (notice : CallNotice) (rest : List CallNotice) :
    eventsOf key (notice :: rest) =
      if notice.1 = key then notice.2 :: eventsOf key rest else eventsOf key rest := by
  unfold eventsOf
  rw [List.filterMap_cons]
  split <;> simp_all

theorem eventsOf_map (key other : Nat) (events : List CallEvent) :
    eventsOf key (events.map fun event => (other, event)) = if other = key then events else [] := by
  induction events with
  | nil => simp
  | cons event rest ih => by_cases h : other = key <;> simp_all

end BrokerRpc.Tracker
