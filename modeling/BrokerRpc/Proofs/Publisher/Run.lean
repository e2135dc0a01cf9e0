import BrokerRpc.Proofs.Publisher.Lifetime

/-! # Runs of a publisher

A run performs operations one after the other; what subscribers do when they are told something is
part of the operation that tells them. Each operation leaves a moment. The step lemma says what one
moment means to one subscription that goes on afterwards: it was there before, or began at that
moment.
-/
namespace BrokerRpc.Publisher

/-- What can be done with a publisher. The reactions are what the subscriber does when it is told of
its subscription, or of the event. -/
inductive Operation where
  | publish (event : Event)
  | subscribe (id : String) (reactions : List Reaction)
  | request (number n : Nat)
  | cancel (number : Nat)
  | purge (now : Timestamp)
  | close
  | deliver (number : Nat) (reactions : List Reaction)

/-- One operation with what it found, what it left and what subscribers were told. -/
structure Moment where
  before : Publisher
  operation : Operation
  after : Publisher
  notices : List SignalNotice := []

/-- Performs one operation. A refused subscription changes nothing, and a job that was not started
takes no step. -/
def perform (p : Publisher) (operation : Operation) : Moment :=
  match operation with
  | .publish event => { before := p, operation, after := p.publish event }
  | .subscribe id reactions =>
    match p.subscribe id { onSubscribe := reactions } with
    | .ok (_, after, notices) => { before := p, operation, after, notices }
    | .error _ => { before := p, operation, after := p }
  | .request number n => { before := p, operation, after := p.request number n }
  | .cancel number => { before := p, operation, after := p.cancel number }
  | .purge now => { before := p, operation, after := p.purge now }
  | .close =>
    let (after, notices) := p.close
    { before := p, operation, after, notices }
  | .deliver number reactions =>
    if number ∈ p.jobs then
      let (after, notices) := deliver (fun _ => { onNext := fun _ => reactions }) p number
      { before := p, operation, after, notices }
    else { before := p, operation, after := p }

@[simp] theorem before_perform (p : Publisher) (operation : Operation) :
    (perform p operation).before = p := by
  unfold perform
  split
  all_goals first | rfl | (split <;> rfl)

def history (p : Publisher) : List Operation → List Moment
  | [] => []
  | operation :: rest => perform p operation :: history (perform p operation).after rest

def reached (p : Publisher) (operations : List Operation) : Publisher :=
  operations.foldl (fun p operation => (perform p operation).after) p

def handedTo (number : Nat) (notices : List SignalNotice) : List Event :=
  notices.filterMap fun notice =>
    match notice.2 with
    | .next event => if notice.1 = number then some event else none
    | _ => none

@[simp] theorem handedTo_cons_next (number other : Nat) (event : Event)
    (notices : List SignalNotice) :
    handedTo number ((other, .next event) :: notices) =
      (if number = other then [event] else []) ++ handedTo number notices := by
  by_cases h : other = number
  · simp [handedTo, h]
  · have h' : ¬ number = other := fun e => h e.symm
    simp [handedTo, h, h']

theorem handedTo_eq_nil {notices : List SignalNotice}
    (h : ∀ notice ∈ notices, ∀ event, notice.2 ≠ .next event) (number : Nat) :
    handedTo number notices = [] := by
  refine List.filterMap_eq_nil_iff.mpr fun notice hmem => ?_
  split
  · rename_i event he
    exact absurd he (h notice hmem event)
  · rfl

namespace Moment

/-- The events that were published at that moment, in order. A subscriber that is told nothing
publishes nothing. -/
def published (m : Moment) : List Event :=
  match m.operation with
  | .publish event => [event]
  | .subscribe _ reactions => if m.notices.isEmpty then [] else publishedBy reactions
  | .deliver _ reactions => if m.notices.isEmpty then [] else publishedBy reactions
  | _ => []

def handed (m : Moment) (number : Nat) : List Event := handedTo number m.notices

def arrivals (m : Moment) (id : EventId) : List Event :=
  m.published.filter fun event => id.wants event.id

/-- Whether an event that waits survives the moment: a purge drops what has expired. -/
def spares (m : Moment) (event : Event) : Bool :=
  match m.operation with
  | .purge now => m.before.cutoff now ≤ event.receivedAt
  | _ => true

def dropped (m : Moment) (number : Nat) : List Event :=
  match m.before.queue? number with
  | some (_, backlog) => backlog.filter fun event => !m.spares event
  | none => []

end Moment

/-! ## What holds along publishing and reacting -/

section Along

variable {R : Publisher → Publisher → Prop} (refl : ∀ p, R p p)
  (trans : ∀ {p q r}, R p q → R q r → R p r)

include refl trans in
theorem offers_along (offer : ∀ p event number, R p (offer p event number)) (p : Publisher)
    (event : Event) (targets : List Nat) : R p (targets.foldl (Publisher.offer · event ·) p) := by
  induction targets generalizing p with
  | nil => exact refl p
  | cons first rest ih => exact trans (offer p event first) (ih _)

include refl trans in
/-- What holds along one offer, and along parking an event that nobody wants, holds along
publishing. -/
theorem publish_along (offer : ∀ p event number, R p (offer p event number))
    (park : ∀ p event, p.targets event = [] → p.closed = false →
      R p { p with unclaimed := p.unclaimed ++ [event] })
    (p : Publisher) (event : Event) : R p (p.publish event) := by
  unfold publish
  split
  · rename_i hnone
    split
    · exact refl p
    · rename_i hopen
      exact park p event hnone (Bool.eq_false_iff.mpr hopen)
  · exact offers_along refl trans offer p event _

include refl trans in
theorem react_along (request : ∀ p number n, R p (request p number n))
    (cancel : ∀ p number, R p (cancel p number)) (publish : ∀ p event, R p (publish p event))
    (p : Publisher) (number : Nat) (reactions : List Reaction) :
    R p (p.react number reactions).1 := by
  induction reactions generalizing p with
  | nil => exact refl p
  | cons reaction more ih =>
    cases reaction with
    | request n => exact trans (request p number n) (ih _)
    | cancel => exact trans (cancel p number) (ih _)
    | publish event => exact trans (publish p event) (ih _)
    | requestFor other n => exact trans (request p other n) (ih _)
    | cancelOf other => exact trans (cancel p other) (ih _)
    | panic reason => exact refl p

include refl trans in
theorem finishAll_along (finish : ∀ (p : Publisher) number s,
      p.subscriptions.get? number = some s → R p (p.change number fun _ => s.finish.1))
    (p : Publisher) (numbers : List Nat) : R p (p.finishAll numbers).1 := by
  induction numbers generalizing p with
  | nil => exact refl p
  | cons first rest ih =>
    unfold finishAll
    split
    · exact ih p
    · rename_i s hs
      exact trans (finish p first s hs) (ih _)

end Along

/-! ## One delivery -/

/-- What a delivery step does that hands over an event: the event leaves the front of its queue, and
what the subscriber publishes enters all queues. -/
structure Delivers (p : Publisher) (number : Nat) (event : Event) (published : List Event)
    (q : Publisher) : Prop where
  orderly : Orderly q
  keys_eq : q.subscriptions.keys = p.subscriptions.keys
  moved : ∀ other id backlog, q.queue? other = some (id, backlog) →
    ∃ earlier, p.queue? other = some (id, earlier) ∧
      (if other = number then [event] else []) ++ backlog =
        earlier ++ published.filter fun e => id.wants e.id

theorem Delivers.trans {p q r : Publisher} {number : Nat} {event : Event} {first rest : List Event}
    (h : Delivers p number event first q) (h' : Receives q r rest) :
    Delivers p number event (first ++ rest) r := by
  refine ⟨h'.orderly, h'.keys_eq.trans h.keys_eq, ?_⟩
  intro other id backlog hr
  obtain ⟨middle, hq, hrest⟩ := h'.received other id backlog hr
  obtain ⟨earlier, hp, hfirst⟩ := h.moved other id middle hq
  refine ⟨earlier, hp, ?_⟩
  rw [hrest, ← List.append_assoc, hfirst, List.filter_append, List.append_assoc]

theorem take_cases (s : Subscription) :
    s.take = (none, { s with draining := false }) ∨
      ∃ event rest, s.cancelled = false ∧ s.backlog = event :: rest ∧
        s.take = (some event,
          { s with backlog := rest, demand := Subscription.spend s.demand }) := by
  unfold Subscription.take
  cases hr : s.ready with
  | false => exact Or.inl rfl
  | true =>
    cases hb : s.backlog with
    | nil => exact Or.inl rfl
    | cons event rest =>
      have hc : s.cancelled = false := by
        simp only [Subscription.ready, Bool.and_eq_true, Bool.not_eq_true'] at hr
        exact hr.1.1
      exact Or.inr ⟨event, rest, hc, rfl, rfl⟩

theorem delivers_take {p : Publisher} (h : Orderly p) {number : Nat} {s : Subscription}
    (hs : p.subscriptions.get? number = some s) (hc : s.cancelled = false) {event : Event}
    {rest : List Event} (hb : s.backlog = event :: rest) (demand : Nat) :
    Delivers p number event [] (p.change number fun _ => { s with backlog := rest, demand }) := by
  have hqueue : ∀ other, (p.change number fun _ => { s with backlog := rest, demand }).queue? other =
      if other = number then some (s.id, rest) else p.queue? other := by
    intro other
    rw [queue?_change]
    split
    · rename_i heq
      simp [heq, hs, hc]
    · rfl
  have hfront : p.queue? number = some (s.id, event :: rest) :=
    queue?_eq_some_iff.mpr ⟨s, hs, hc, rfl, hb⟩
  refine ⟨h.of_sublist (keys_change _ _ _) (List.Sublist.refl _) ?_, keys_change _ _ _, ?_⟩
  · intro other queue hq
    rw [hqueue] at hq
    split at hq
    · rename_i heq
      exact heq ▸ h.registered number _ hfront
    · exact h.registered other queue hq
  · intro other id backlog hq
    rw [hqueue] at hq
    by_cases heq : other = number
    · subst heq
      simp only [if_true, Option.some.injEq, Prod.mk.injEq] at hq
      obtain ⟨rfl, rfl⟩ := hq
      exact ⟨event :: rest, hfront, by simp⟩
    · rw [if_neg heq] at hq
      exact ⟨backlog, hq, by simp [heq]⟩

/-- A step of a delivery job hands nothing over and changes no queue, or it hands over the event at
the front of the queue. -/
theorem deliver_cases {p : Publisher} (h : Orderly p) (number : Nat) (reactions : List Reaction) :
    let step := deliver (fun _ => { onNext := fun _ => reactions }) p number
    (step.2 = [] ∧ Receives p step.1 []) ∨
      ∃ event, ∃ failures : List Failure,
        step.2 = (number, .next event) :: failures.map (fun f => (number, .error f)) ∧
        Delivers p number event (publishedBy reactions) step.1 := by
  intro step
  have hjobs : ∀ {q : Publisher} (jobs : List Nat), Orderly q → Receives q { q with jobs } [] :=
    fun jobs hq => receives_of_queue_eq hq rfl rfl fun _ => rfl
  unfold step deliver
  cases hs : p.subscriptions.get? number with
  | none => exact Or.inl ⟨rfl, hjobs _ h⟩
  | some s =>
    rcases take_cases s with ht | ⟨event, rest, hc, hb, ht⟩
    · left
      simp only [ht]
      have hidle : Receives p (p.change number fun _ => { s with draining := false }) [] := by
        refine receives_of_queue_eq h (keys_change _ _ _) rfl (queue?_change_of_same p number ?_)
        intro found hf
        rw [hs, Option.some.injEq] at hf
        subst hf
        exact ⟨rfl, rfl, rfl⟩
      exact ⟨trivial, hidle.trans (hjobs _ hidle.orderly)⟩
    · right
      simp only [ht]
      have htaken := delivers_take h hs hc hb (Subscription.spend s.demand)
      have hreacted := htaken.trans (receives_react htaken.orderly number reactions)
      generalize react _ number reactions = reacted at hreacted ⊢
      obtain ⟨q, reason⟩ := reacted
      cases reason with
      | none => exact ⟨event, [], rfl, hreacted⟩
      | some reason =>
        simp only
        cases hf : q.subscriptions.get? number with
        | none =>
          have hend := hreacted.trans (hjobs (q.jobs.erase number) hreacted.orderly)
          rw [List.append_nil] at hend
          exact ⟨event, [], rfl, hend⟩
        | some failed =>
          have hfailed : Receives q (q.change number fun _ =>
              (failed.fail (.subscriberFailed reason)).1) [] :=
            receives_change_ended hreacted.orderly number rfl
          have hend := hreacted.trans (hfailed.trans (hjobs (q.jobs.erase number) hfailed.orderly))
          simp only [List.nil_append, List.append_nil] at hend
          simp only
          refine ⟨event, if failed.terminated then [] else [.subscriberFailed reason], ?_, hend⟩
          cases ht : failed.terminated <;> simp [Subscription.fail, ht]

/-! ## Moments and runs -/

/-- A publisher accepts a subscription unless it is closed, or the id is taken or cannot be read. -/
theorem subscribe_eq_ok_iff {p q : Publisher} {text : String} {subscriber : Subscriber}
    {number : Nat} {notices : List SignalNotice} :
    p.subscribe text subscriber = .ok (number, q, notices) ↔
      ∃ id, p.closed = false ∧ EventId.parse text = .ok id ∧
        p.registered.contains id.text = false ∧ number = p.subscriptions.length ∧
        q = ((p.enrol id).2.react number subscriber.onSubscribe).1.schedule number ∧
        notices = [(number, .subscribed)] := by
  unfold subscribe
  cases p.closed with
  | true => simp
  | false =>
    cases EventId.parse text with
    | error failure => simp [bind, Except.bind]
    | ok id =>
      cases hr : p.registered.contains id.text with
      | true => simp [bind, Except.bind, hr, throw, throwThe, MonadExceptOf.throw]
      | false =>
        simp only [Bool.false_eq_true, if_false, bind, Except.bind, hr, enrol, pure, Except.pure,
          Except.ok.injEq, Prod.mk.injEq, exists_eq_left', true_and]
        constructor <;> rintro ⟨rfl, rfl, rfl⟩ <;> exact ⟨rfl, rfl, rfl⟩

theorem receives_subscribe {p q : Publisher} (h : Orderly p) {text : String}
    {subscriber : Subscriber} {number : Nat} {notices : List SignalNotice}
    (hs : p.subscribe text subscriber = .ok (number, q, notices)) :
    ∃ id, EventId.parse text = .ok id ∧ number = p.subscriptions.length ∧
      notices = [(number, .subscribed)] ∧
      Receives (p.enrol id).2 q (publishedBy subscriber.onSubscribe) := by
  obtain ⟨id, _, hparse, _, hnumber, rfl, hnotices⟩ := subscribe_eq_ok_iff.mp hs
  have hreact := receives_react (orderly_enrol h id) number subscriber.onSubscribe
  have hend := hreact.trans (receives_schedule hreact.orderly number)
  rw [List.append_nil] at hend
  exact ⟨id, hparse, hnumber, hnotices, hend⟩

/-- What a moment means to a queue that is there before and after it: what was handed over left the
queue at its front, what was published and is wanted entered it at its end, and a purge dropped what
had expired. -/
structure Moment.Moves (m : Moment) (number : Nat) (id : EventId) (earlier backlog : List Event) :
    Prop where
  found : m.before.queue? number = some (id, earlier)
  balance : m.handed number ++ backlog = earlier.filter m.spares ++ m.arrivals id

structure Moment.Sound (m : Moment) : Prop where
  orderly : Orderly m.after
  kept : ∀ number ∈ m.before.subscriptions.keys, number ∈ m.after.subscriptions.keys
  moves : ∀ number id backlog, number ∈ m.before.subscriptions.keys →
    m.after.queue? number = some (id, backlog) → ∃ earlier, m.Moves number id earlier backlog

theorem Moment.filter_spares {m : Moment} (h : ∀ now, m.operation ≠ .purge now)
    (events : List Event) : events.filter m.spares = events := by
  refine List.filter_eq_self.mpr fun event _ => ?_
  unfold spares
  split
  · rename_i now hop
    exact absurd hop (h now)
  · rfl

theorem Moment.sound_of_receives {m : Moment} (h : Receives m.before m.after m.published)
    (hhanded : ∀ number, m.handed number = []) (hpurge : ∀ now, m.operation ≠ .purge now) :
    m.Sound := by
  refine ⟨h.orderly, fun number hmem => h.keys_eq ▸ hmem, ?_⟩
  intro number id backlog _ hq
  obtain ⟨earlier, hfound, hbacklog⟩ := h.received number id backlog hq
  refine ⟨earlier, hfound, ?_⟩
  rw [hhanded, List.nil_append, hbacklog, filter_spares hpurge, arrivals]

theorem sound_subscribe {p : Publisher} (h : Orderly p) (text : String)
    (reactions : List Reaction) : (perform p (.subscribe text reactions)).Sound := by
  unfold perform
  simp only
  split
  · rename_i number after notices hs
    obtain ⟨id, _, rfl, rfl, hreceives⟩ := receives_subscribe h hs
    refine ⟨hreceives.orderly, ?_, ?_⟩
    · intro number hmem
      rw [hreceives.keys_eq, keys_enrol]
      exact List.mem_append_left _ hmem
    intro number other backlog hold hq
    obtain ⟨earlier, hfound, hbacklog⟩ := hreceives.received number other backlog hq
    rw [queue?_enrol h, if_neg (Nat.ne_of_lt (h.issued number hold))] at hfound
    refine ⟨earlier, hfound, ?_⟩
    rw [Moment.filter_spares fun now => by simp]
    simp [Moment.handed, handedTo, Moment.arrivals, Moment.published, hbacklog]
  · exact Moment.sound_of_receives (Receives.refl h) (fun _ => rfl) (by simp)

theorem sound_deliver {p : Publisher} (h : Orderly p) (number : Nat) (reactions : List Reaction) :
    (perform p (.deliver number reactions)).Sound := by
  have hcases := deliver_cases h number reactions
  unfold perform
  simp only
  split
  · generalize deliver _ p number = step at hcases ⊢
    obtain ⟨after, notices⟩ := step
    rcases hcases with ⟨rfl, hreceives⟩ | ⟨event, failures, rfl, hdelivers⟩
    · exact Moment.sound_of_receives hreceives (fun _ => rfl) (by simp)
    · refine ⟨hdelivers.orderly, fun number hmem => hdelivers.keys_eq ▸ hmem, ?_⟩
      intro other id backlog _ hq
      obtain ⟨earlier, hfound, hbalance⟩ := hdelivers.moved other id backlog hq
      refine ⟨earlier, hfound, ?_⟩
      rw [Moment.filter_spares fun now => by simp]
      have hnone : handedTo other (failures.map fun f => (number, Signal.error f)) = [] :=
        handedTo_eq_nil (by simp) other
      simpa [Moment.handed, Moment.arrivals, Moment.published, hnone] using hbalance
  · exact Moment.sound_of_receives (Receives.refl h) (fun _ => rfl) (by simp)

theorem sound_purge {p : Publisher} (h : Orderly p) (now : Timestamp) :
    (perform p (.purge now)).Sound := by
  refine ⟨orderly_purge h now, ?_, ?_⟩
  · intro number hmem
    exact (keys_purge p now).symm ▸ hmem
  · intro number id backlog _ hq
    change (p.purge now).queue? number = _ at hq
    rw [queue?_purge h] at hq
    obtain ⟨⟨id', earlier⟩, hfound, he⟩ := Option.map_eq_some_iff.mp hq
    simp only [Prod.mk.injEq] at he
    obtain ⟨rfl, rfl⟩ := he
    exact ⟨earlier, hfound, (List.append_nil _).symm⟩

theorem perform_sound {p : Publisher} (h : Orderly p) (operation : Operation) :
    (perform p operation).Sound := by
  cases operation with
  | publish event =>
    exact Moment.sound_of_receives (receives_publish h event) (fun _ => rfl) (by simp [perform])
  | subscribe text reactions => exact sound_subscribe h text reactions
  | request number n =>
    exact Moment.sound_of_receives (receives_request h number n) (fun _ => rfl) (by simp [perform])
  | cancel number =>
    exact Moment.sound_of_receives (receives_cancel h number) (fun _ => rfl) (by simp [perform])
  | purge now => exact sound_purge h now
  | close =>
    refine Moment.sound_of_receives (receives_close h) ?_ (by simp [perform])
    refine handedTo_eq_nil fun notice hmem event => ?_
    rw [complete_of_mem_close hmem]
    simp
  | deliver number reactions => exact sound_deliver h number reactions

end BrokerRpc.Publisher
