import BrokerRpc.Proofs.Session.Step

/-! # The course of a session

To a session an operation is one of three things: it goes on, the broker confirms it, or it is lost.
Those who wait for it wait on, or are all told how it turned out.
-/
namespace BrokerRpc.Client

def transactionAfter (s : Session) : Operation → Option String
  | .begin token => if s.transaction.isSome then s.transaction else some token
  | .commit => none
  | _ => s.transaction

def waitersAfter (s : Session) : Operation → List Waiter
  | .leave w => s.waiters.filter (· ≠ w)
  | _ => s.waiters

def Moment.effects (m : Moment) : List Effect :=
  match m.operation with
  | .dialEnded result => if m.before.dials = 0 then [] else (m.before.client.dialEnded result).2
  | operation => (m.before.client.act operation).2

/-! ## What waiters are told -/

theorem sessionResult?_append (w : Waiter) (first rest : List Effect) :
    sessionResult? w (first ++ rest) = (sessionResult? w first).or (sessionResult? w rest) :=
  List.findSome?_append

theorem sessionResult?_dialEffects (w : Waiter) (dials : Bool) :
    sessionResult? w (dialEffects dials) = none := by
  cases dials <;> rfl

theorem sessionResult?_linkSettled (w : Waiter) (resolutions : List Resolution) :
    sessionResult? w (resolutions.map .linkSettled) = none := by
  simp [sessionResult?]

/-- One of some waiters who all get the same result gets it first. -/
theorem findSome?_resolveAll {w : Waiter} {waiters : List Waiter} (hw : w ∈ waiters)
    (result : Except Failure Unit) {tell : Resolution → Effect}
    {hear : Effect → Option (Except Failure Unit)}
    (htell : ∀ r, hear (tell r) = if r.waiter = w then some r.result else none)
    (rest : List Effect) :
    ((Link.resolveAll waiters result).map tell ++ rest).findSome? hear = some result := by
  induction waiters with
  | nil => cases hw
  | cons first others ih =>
    by_cases hfirst : first = w
    · simp [Link.resolveAll, htell, hfirst]
    · have hlast := ih (List.mem_of_ne_of_mem (fun he => hfirst he.symm) hw)
      simpa [Link.resolveAll, htell, hfirst] using hlast

theorem sessionResult?_settle {w : Waiter} {waiters : List Waiter} (hw : w ∈ waiters)
    (result : Except Failure Unit) : sessionResult? w (settle waiters result) = some result := by
  have hfound : sessionResult? w (settle waiters result ++ []) = some result :=
    findSome?_resolveAll hw result (fun _ => rfl) []
  rwa [List.append_nil] at hfound

/-! ## Steps that neither confirm nor lose a session -/

/-- At most the channels of a session changed, its receipt, and what is parked. -/
structure Quiet (s t : Session) (effects : List Effect) : Prop where
  transaction_eq : t.transaction = s.transaction
  handshake_eq : t.handshake = s.handshake
  waiters_eq : t.waiters = s.waiters
  silent : ∀ w, sessionResult? w effects = none

namespace Quiet

variable {s t u : Session}

theorem refl (s : Session) : Quiet s s [] := ⟨rfl, rfl, rfl, fun _ => rfl⟩

theorem trans {first rest : List Effect} (h : Quiet s t first) (h' : Quiet t u rest) :
    Quiet s u (first ++ rest) :=
  ⟨h'.transaction_eq.trans h.transaction_eq, h'.handshake_eq.trans h.handshake_eq,
    h'.waiters_eq.trans h.waiters_eq, fun w => by
      rw [sessionResult?_append, h.silent w, h'.silent w]
      rfl⟩

theorem channels {effects : List Effect} {channels : Assoc String Channel}
    (h : Quiet { s with channels } t effects) : Quiet s t effects :=
  ⟨h.transaction_eq, h.handshake_eq, h.waiters_eq, h.silent⟩

end Quiet

theorem quiet_park (s : Session) (m : Message) (collapse : Bool) : Quiet s (s.park m collapse) [] := by
  unfold Session.park
  split <;> exact ⟨rfl, rfl, rfl, fun _ => rfl⟩

theorem quiet_onLink (c : Client) (result : Except Failure (Link × Bool)) :
    Quiet c.session (c.onLink result).1.session (c.onLink result).2.1 := by
  cases result with
  | ok _ => exact ⟨rfl, rfl, rfl, fun w => sessionResult?_dialEffects w _⟩
  | error _ => exact .refl c.session

theorem quiet_submit (c : Client) (m : Message) (collapse : Bool) :
    Quiet c.session (c.submit m collapse).1.session (c.submit m collapse).2.1 := by
  unfold submit
  split
  · exact quiet_onLink c _
  · exact (quiet_park c.session m collapse).trans
      (quiet_onLink { c with session := c.session.park m collapse } c.link.reconnect)

theorem quiet_writeEach (c : Client) (frames : List Message) :
    Quiet c.session (c.writeEach frames).1.session (c.writeEach frames).2 := by
  induction frames generalizing c with
  | nil => exact .refl c.session
  | cons m rest ih =>
    have hwrite : Quiet c.session (c.write m).1.session (c.write m).2.1 := quiet_onLink c _
    unfold writeEach
    split
    · rename_i c' effects he
      rw [he] at hwrite
      exact hwrite.trans (ih c')
    · rename_i c' effects failure he
      rw [he] at hwrite
      exact hwrite

theorem quiet_subscribe (c : Client) (destination token : String) (recipient : Recipient) :
    Quiet c.session (c.subscribe destination token recipient).1.session
      (c.subscribe destination token recipient).2.1 := by
  unfold subscribe
  split
  · exact .refl c.session
  · dsimp only
    split
    · exact (quiet_onLink { c with session := { c.session with channels := _ } } _).channels
    · exact ⟨rfl, rfl, rfl, fun _ => rfl⟩

theorem quiet_unsubscribe (c : Client) (destination : String) :
    Quiet c.session (c.unsubscribe destination).1.session (c.unsubscribe destination).2.1 := by
  unfold unsubscribe
  split
  · exact .refl c.session
  · dsimp only
    split
    · exact (quiet_onLink { c with session := { c.session with channels := _ } } _).channels
    · exact ⟨rfl, rfl, rfl, fun _ => rfl⟩

theorem submit_ok {x : Site} {p : Phase} (h : InStep x p) (m : Message) (collapse : Bool) :
    ∃ c effects, x.client.submit m collapse = (c, effects, .ok ()) := by
  unfold submit
  split
  · rename_i hup
    obtain ⟨g, rfl⟩ := h.isConnected_iff.mp hup
    exact ⟨_, _, write_opened (h.state_eq rfl) (h.isLive rfl) m⟩
  · rename_i hdown
    have hno : ∀ g, p ≠ .confirmed g := fun g hp => hdown (h.isConnected_iff.mpr ⟨g, hp⟩)
    obtain ⟨link, dials, _, hreconnect, _⟩ := reconnect_down h hno
    have hreconnect' : x.client.link.reconnect = .ok (link, dials) := hreconnect
    refine ⟨{ x.client with link, session := x.client.session.park m collapse }, dialEffects dials, ?_⟩
    simp only [onLink, hreconnect']

/-! ## What an operation is to a session -/

inductive Course (s t : Session) (effects : List Effect) (transaction : Option String)
    (waiters : List Waiter) : Prop where
  | kept (htransaction : t.transaction = transaction)
      (hhandshake : t.handshake = s.handshake ∨ t.handshake = .pending)
      (hwaiters : ∀ w ∈ waiters, w ∈ t.waiters) (hsilent : ∀ w, sessionResult? w effects = none)
  | confirmed (htransaction : t.transaction = transaction) (hpending : s.handshake = .pending)
      (hhandshake : t.handshake = .connected)
      (htold : ∀ w ∈ waiters, sessionResult? w effects = some (.ok ()))
  | lost (failure : Failure) (htransaction : t.transaction = none) (hhandshake : t.handshake = .idle)
      (htold : ∀ w ∈ waiters, sessionResult? w effects = some (.error failure.duplicate))

theorem Quiet.course {s t : Session} {effects : List Effect} (h : Quiet s t effects) :
    Course s t effects s.transaction s.waiters :=
  .kept h.transaction_eq (Or.inl h.handshake_eq) (fun _ hw => h.waiters_eq ▸ hw) h.silent

theorem course_onLost? (c : Client) (failure : Option Failure) (before : List Effect)
    (hsilent : ∀ w, sessionResult? w before = none) :
    Course c.session (c.onLost? failure).1.session (before ++ (c.onLost? failure).2)
      c.session.transaction c.session.waiters := by
  cases failure with
  | none =>
    refine Quiet.course ⟨rfl, rfl, rfl, fun w => ?_⟩
    simp [onLost?, hsilent w]
  | some failure =>
    refine .lost failure rfl rfl fun w hw => ?_
    simp [onLost?, onLost, sessionResult?_append, hsilent w, sessionResult?_settle hw]

theorem course_onMessage (c : Client) (m : Message) :
    Course c.session (c.onMessage m).1.session (c.onMessage m).2 c.session.transaction
      c.session.waiters := by
  by_cases hcommand : m.command = .connected
  · have hmessage : c.onMessage m = c.onConnected m := by simp only [onMessage, hcommand]
    rw [hmessage]
    generalize hpair : settledHeartbeats c.link.policy m = pair
    obtain ⟨outgoing, incoming⟩ := pair
    by_cases hpending : c.session.handshake = .pending
    · have hflushed := quiet_writeEach
        { c with
          link := c.link.setHeartbeats outgoing incoming, session := c.session.confirmed }
        c.session.flushFrames
      simp only [onConnected, hpair, hpending, if_true]
      refine .confirmed hflushed.transaction_eq hpending hflushed.handshake_eq fun w hw => ?_
      rw [sessionResult?_append, hflushed.silent w, sessionResult?_settle hw]
      rfl
    · simp only [onConnected, hpair, hpending, if_false]
      exact (Quiet.refl c.session).course
  · obtain ⟨receipt, effects, heq, _, hsilent⟩ := onMessage_other c hcommand
    rw [heq]
    exact Quiet.course ⟨rfl, rfl, rfl, hsilent⟩

/-- Every operation keeps a session, confirms it or loses it. -/
theorem course_perform {x : Site} {p : Phase} (h : InStep x p) (operation : Operation) :
    let m : Moment := ⟨x, operation⟩
    Course x.session m.after.session m.effects (transactionAfter x.session operation)
      (waitersAfter x.session operation) := by
  intro m
  have hrefl : Course x.session x.session [] x.session.transaction x.session.waiters :=
    (Quiet.refl x.session).course
  cases operation with
  | subscribe destination token recipient =>
    exact (quiet_subscribe x.client destination token recipient).course
  | unsubscribe destination => exact (quiet_unsubscribe x.client destination).course
  | send destination payload => exact (quiet_submit x.client _ false).course
  | resend destination payload => exact (quiet_submit x.client _ true).course
  | begin token =>
    cases ht : x.session.transaction with
    | some id =>
      have hbegin : x.client.begin token =
          (x.client, [], .error (.misuse .transactionRunning)) := by simp [begin, ht]
      have hrunning : transactionAfter x.session (.begin token) = x.session.transaction := by
        simp [transactionAfter, ht]
      simp only [m, Moment.after, Moment.effects, Site.perform, act, hbegin, hrunning]
      exact hrefl
    | none =>
      -- a frame is never refused here, so that the transaction runs afterwards
      obtain ⟨c, effects, hsubmit⟩ := submit_ok h (Session.beginFrame token) false
      have hbegin : x.client.begin token =
          ({ c with session := { c.session with transaction := some token } }, effects, .ok token) := by
        simp [begin, ht, hsubmit]
      have hrunning : transactionAfter x.session (.begin token) = some token := by
        simp [transactionAfter, ht]
      have hquiet := quiet_submit x.client (Session.beginFrame token) false
      rw [hsubmit] at hquiet
      simp only [m, Moment.after, Moment.effects, Site.perform, act, hbegin, hrunning]
      exact .kept rfl (Or.inl hquiet.handshake_eq)
        (fun _ hw => hquiet.waiters_eq ▸ hw) hquiet.silent
  | commit =>
    simp only [m, Moment.after, Moment.effects, Site.perform, act, commit]
    split
    · rename_i hnone
      exact .kept hnone (Or.inl rfl) (fun _ => id) fun _ => rfl
    · rename_i id _
      have hquiet := quiet_submit { x.client with session := { x.session with transaction := none } }
        (Session.commitFrame id) false
      exact .kept hquiet.transaction_eq (Or.inl hquiet.handshake_eq)
        (fun w => (congrArg (w ∈ ·) hquiet.waiters_eq).mpr) hquiet.silent
  | await => exact .kept rfl (Or.inl rfl) (fun _ hw => List.mem_append_left _ hw) fun _ => rfl
  | leave w => exact .kept rfl (Or.inl rfl) (fun _ => id) fun _ => rfl
  | dial =>
    simp only [m, Moment.after, Moment.effects, Site.perform, act, openLink]
    split
    · exact hrefl
    · exact Quiet.course ⟨rfl, rfl, rfl, fun w => sessionResult?_dialEffects w _⟩
  | dialEnded result =>
    simp only [m, Moment.after, Moment.effects, Site.perform]
    split
    · exact hrefl
    · cases result with
      | ok _ =>
        exact .kept rfl (Or.inr rfl) (fun _ => id)
          fun w => sessionResult?_linkSettled w _
      | error failure =>
        exact course_onLost? { x.client with link := (x.link.dialFailed failure).1 } _ _
          fun w => sessionResult?_linkSettled w _
  | frame g answer =>
    simp only [m, Moment.after, Moment.effects, Site.perform, act]
    split
    · exact course_onMessage _ _
    · exact hrefl
  | piece g now bytes => exact hrefl
  | carryOut g now =>
    exact course_onLost? { x.client with link := (x.link.carryOut g now).1 } _ [] fun _ => rfl
  | tick g now => exact hrefl
  | expire g now =>
    exact course_onLost? { x.client with link := (x.link.expire g now).1 } _ [] fun _ => rfl
  | fail g failure =>
    exact course_onLost? { x.client with link := (x.link.fail g failure).1 } _ [] fun _ => rfl

end BrokerRpc.Client
