import BrokerRpc.Proofs.Publisher.Run

/-! # Sections

Callers and delivery jobs work at the same time. What none of them can interrupt is a section: one
change of a subscription or of the registry. A publisher in the midst of operations is known by what
was changed so far, the schedule calls that are due and the subscribers that are busy with an event;
its sections come in any order. An operation that nobody interrupts is a run of sections.
-/
namespace BrokerRpc.Publisher

/-! ## The sections of a delivery job -/

def takeNext (p : Publisher) (number : Nat) : Publisher × Option Event :=
  match p.subscriptions.get? number with
  | none => ({ p with jobs := p.jobs.erase number }, none)
  | some s =>
    match s.take with
    | (none, s) => ({ p.change number (fun _ => s) with jobs := p.jobs.erase number }, none)
    | (some event, s) => (p.change number fun _ => s, some event)

def failJob (p : Publisher) (number : Nat) (reason : String) : Publisher × List SignalNotice :=
  match p.subscriptions.get? number with
  | none => ({ p with jobs := p.jobs.erase number }, [])
  | some s =>
    let (s, signals) := s.fail (.subscriberFailed reason)
    ({ p.change number (fun _ => s) with jobs := p.jobs.erase number },
      signals.map fun signal => (number, signal))

/-- A step of a delivery job ends it, or takes an event and tells the subscriber, whose failure ends
the job. -/
theorem deliver_steps (p : Publisher) (number : Nat) (reactions : List Reaction) :
    let step := deliver (fun _ => { onNext := fun _ => reactions }) p number
    (∃ q, p.takeNext number = (q, none) ∧ step = (q, [])) ∨
      ∃ q event, p.takeNext number = (q, some event) ∧
        ((∃ r, q.react number reactions = (r, none) ∧ step = (r, [(number, .next event)])) ∨
          ∃ r reason, q.react number reactions = (r, some reason) ∧
            step = ((r.failJob number reason).1,
              (number, .next event) :: (r.failJob number reason).2)) := by
  unfold deliver takeNext
  cases p.subscriptions.get? number with
  | none => exact Or.inl ⟨_, rfl, rfl⟩
  | some s =>
    rcases ht : s.take with ⟨taken, s'⟩
    simp only [ht]
    cases taken with
    | none => exact Or.inl ⟨_, rfl, rfl⟩
    | some event =>
      refine Or.inr ⟨_, event, rfl, ?_⟩
      rcases hr : (p.change number fun _ => s').react number reactions with ⟨r, reason⟩
      simp only [hr]
      cases reason with
      | none => exact Or.inl ⟨r, rfl, rfl⟩
      | some reason =>
        refine Or.inr ⟨r, reason, rfl, ?_⟩
        simp only [failJob]
        cases r.subscriptions.get? number <;> rfl

theorem forall_found {p : Publisher} {number : Nat} {s : Subscription}
    (hs : p.subscriptions.get? number = some s) {P : Subscription → Prop} (h : P s)
    (found : Subscription) (hfound : p.subscriptions.get? number = some found) : P found := by
  obtain rfl := Option.some.inj (hs.symm.trans hfound)
  exact h

theorem takeNext_cases (p : Publisher) (number : Nat) :
    (p.subscriptions.get? number = none ∧
      p.takeNext number = ({ p with jobs := p.jobs.erase number }, none)) ∨
    (∃ s, p.subscriptions.get? number = some s ∧ s.ready = false ∧ p.takeNext number =
      ({ p.change number (fun _ => { s with draining := false }) with
          jobs := p.jobs.erase number }, none)) ∨
    ∃ s event rest, p.subscriptions.get? number = some s ∧ s.ready = true ∧
      s.backlog = event :: rest ∧ p.takeNext number =
        (p.change number fun _ =>
          { s with backlog := rest, demand := Subscription.spend s.demand }, some event) := by
  unfold takeNext
  cases hs : p.subscriptions.get? number with
  | none => exact Or.inl ⟨rfl, rfl⟩
  | some s =>
    right
    cases hr : s.ready with
    | false => exact Or.inl ⟨s, rfl, hr, by simp [Subscription.take, hr]⟩
    | true =>
      cases hb : s.backlog with
      | nil => simp [Subscription.ready, hb] at hr
      | cons event rest =>
        exact Or.inr ⟨s, event, rest, rfl, hr, hb, by simp [Subscription.take, hr, hb]⟩

theorem live_of_ready {s : Subscription} (h : s.ready = true) : s.cancelled = false := by
  simp only [Subscription.ready, Bool.and_eq_true, Bool.not_eq_true'] at h
  exact h.1.1

theorem ready_of_takeNext {p q : Publisher} {number : Nat} {event : Event}
    (h : p.takeNext number = (q, some event)) :
    ∃ s, p.subscriptions.get? number = some s ∧ s.ready = true := by
  rcases takeNext_cases p number with ⟨_, ht⟩ | ⟨_, _, _, ht⟩ | ⟨s, _, _, hs, hready, _, _⟩
  · cases h.symm.trans ht
  · cases h.symm.trans ht
  · exact ⟨s, hs, hready⟩

theorem failJob_cases (p : Publisher) (number : Nat) (reason : String) :
    (p.subscriptions.get? number = none ∧
      p.failJob number reason = ({ p with jobs := p.jobs.erase number }, [])) ∨
    ∃ s, p.subscriptions.get? number = some s ∧ p.failJob number reason =
      ({ p.change number (fun _ => (s.fail (.subscriberFailed reason)).1) with
          jobs := p.jobs.erase number },
        (s.fail (.subscriberFailed reason)).2.map fun signal => (number, signal)) := by
  unfold failJob
  cases hs : p.subscriptions.get? number with
  | none => exact Or.inl ⟨rfl, rfl⟩
  | some s => exact Or.inr ⟨s, rfl, rfl⟩

/-! ## Publishers in the midst of operations -/

/-- What nothing can interrupt. -/
inductive Section where
  | enrol (id : EventId)
  | park (event : Event)
  | offer (event : Event) (number : Nat)
  | grant (number n : Nat)
  /-- A schedule call, which may set the flag of the subscription and start a job. -/
  | schedule (number : Nat)
  | cancel (number : Nat)
  | unregister (number : Nat)
  /-- A close begins: nothing is registered or unclaimed any more. -/
  | shut
  | finish (number : Nat)
  | forget (now : Timestamp)
  | expire (number : Nat) (cutoff : Timestamp)
  /-- A job takes an event and tells its subscriber, or ends. -/
  | take (number : Nat)
  /-- A subscriber is done with its event, and its job goes on. -/
  | resume (number : Nat)
  | fail (number : Nat) (reason : String)

/-- A publisher in the midst of operations. `due` has one entry for each offer, request or
subscription that has made its update and not yet its schedule call; `telling` has one for each job
whose subscriber is busy with an event. -/
structure Busy where
  publisher : Publisher
  due : List Nat := []
  telling : List Nat := []

namespace Busy

/-- Carries out a section. An offer to a cancelled subscription makes no schedule call, and only a
job whose subscriber is not busy takes an event. -/
def carryOut (b : Busy) : Section → Busy
  | .enrol id =>
    { b with
      publisher := (b.publisher.enrol id).2
      due := b.publisher.subscriptions.length :: b.due }
  | .park event =>
    { b with publisher := { b.publisher with unclaimed := b.publisher.unclaimed ++ [event] } }
  | .offer event number =>
    { b with
      publisher := b.publisher.change number (·.offer event)
      due := if b.publisher.isCancelled number then b.due else number :: b.due }
  | .grant number n =>
    { b with publisher := b.publisher.change number (·.grant n), due := number :: b.due }
  | .schedule number =>
    { b with publisher := b.publisher.schedule number, due := b.due.erase number }
  | .cancel number => { b with publisher := b.publisher.change number Subscription.cancel }
  | .unregister number => { b with publisher := b.publisher.unregister number }
  | .shut =>
    { b with publisher := { b.publisher with closed := true, registered := [], unclaimed := [] } }
  | .finish number => { b with publisher := (b.publisher.finishAll [number]).1 }
  | .forget now =>
    { b with
      publisher :=
        { b.publisher with
          unclaimed := b.publisher.unclaimed.filter fun event =>
            b.publisher.cutoff now ≤ event.receivedAt
          registered := b.publisher.live } }
  | .expire number cutoff => { b with publisher := b.publisher.change number (·.expire cutoff) }
  | .take number =>
    if b.telling.count number < b.publisher.jobs.count number then
      match b.publisher.takeNext number with
      | (p, none) => { b with publisher := p }
      | (p, some _) => { b with publisher := p, telling := number :: b.telling }
    else b
  | .resume number => { b with telling := b.telling.erase number }
  | .fail number reason =>
    if number ∈ b.telling then
      { b with
        publisher := (b.publisher.failJob number reason).1
        telling := b.telling.erase number }
    else b

def run (b : Busy) (sections : List Section) : Busy := sections.foldl carryOut b

theorem run_append (b : Busy) (first rest : List Section) :
    b.run (first ++ rest) = (b.run first).run rest := List.foldl_append

end Busy

/-! ## Operations that nobody interrupts -/

/-- From one state to another by sections alone, with nothing left to do, whatever else is due. -/
def Leads (p q : Publisher) : Prop :=
  ∀ due telling, ∃ sections, Busy.run ⟨p, due, telling⟩ sections = ⟨q, due, telling⟩

namespace Leads

theorem refl (p : Publisher) : Leads p p := fun _ _ => ⟨[], rfl⟩

theorem trans {p q r : Publisher} (h : Leads p q) (h' : Leads q r) : Leads p r := by
  intro due telling
  obtain ⟨first, hfirst⟩ := h due telling
  obtain ⟨rest, hrest⟩ := h' due telling
  exact ⟨first ++ rest, by rw [Busy.run_append, hfirst, hrest]⟩

end Leads

theorem change_of_ended (p : Publisher) (event : Event) {number : Nat}
    (h : p.isCancelled number = true) :
    (p.change number (·.offer event)).schedule number = p.change number (·.offer event) := by
  unfold schedule change
  simp only [Assoc.get?_modify, if_true]
  cases hs : p.subscriptions.get? number with
  | none => rfl
  | some s =>
    have hc : s.cancelled = true := by simpa [isCancelled, hs] using h
    simp [Subscription.offer, Subscription.wantsJob, Subscription.ready, hc]

theorem leads_offer (p : Publisher) (event : Event) (number : Nat) :
    Leads p (p.offer event number) := by
  intro due telling
  cases hc : p.isCancelled number with
  | true =>
    refine ⟨[.offer event number], ?_⟩
    simp [Busy.run, Busy.carryOut, hc, offer, change_of_ended p event hc]
  | false =>
    refine ⟨[.offer event number, .schedule number], ?_⟩
    simp [Busy.run, Busy.carryOut, hc, offer]

theorem leads_request (p : Publisher) (number n : Nat) : Leads p (p.request number n) := by
  unfold request
  split
  · exact Leads.refl p
  · intro due telling
    refine ⟨[.grant number n, .schedule number], ?_⟩
    simp [Busy.run, Busy.carryOut]

theorem leads_cancel (p : Publisher) (number : Nat) : Leads p (p.cancel number) :=
  fun _ _ => ⟨[.cancel number, .unregister number], rfl⟩

theorem leads_publish (p : Publisher) (event : Event) : Leads p (p.publish event) :=
  publish_along Leads.refl Leads.trans leads_offer (fun _ event _ _ _ _ => ⟨[.park event], rfl⟩)
    p event

theorem leads_react (p : Publisher) (number : Nat) (reactions : List Reaction) :
    Leads p (p.react number reactions).1 :=
  react_along Leads.refl Leads.trans leads_request leads_cancel leads_publish p number reactions

theorem leads_finishAll (p : Publisher) (numbers : List Nat) :
    Leads p (p.finishAll numbers).1 := by
  refine finishAll_along Leads.refl Leads.trans (fun p number s hs due telling => ?_) p numbers
  exact ⟨[.finish number], by simp [Busy.run, Busy.carryOut, finishAll, hs]⟩

theorem leads_close (p : Publisher) : Leads p p.close.1 := by
  unfold close
  split
  · exact Leads.refl p
  · exact Leads.trans (fun _ _ => ⟨[.shut], rfl⟩) (leads_finishAll _ _)

theorem expire_expire (s : Subscription) (cutoff : Timestamp) :
    (s.expire cutoff).expire cutoff = s.expire cutoff := by
  simp [Subscription.expire, List.filter_filter]

theorem leads_expire (p : Publisher) (cutoff : Timestamp) (numbers : List Nat) :
    Leads p { p with
      subscriptions := p.subscriptions.map fun entry =>
        if entry.1 ∈ numbers then (entry.1, entry.2.expire cutoff) else entry } := by
  induction numbers generalizing p with
  | nil => simpa using Leads.refl p
  | cons first rest ih =>
    have hone : Leads p (p.change first (·.expire cutoff)) :=
      fun _ _ => ⟨[.expire first cutoff], rfl⟩
    -- a number that comes twice changes nothing the second time
    refine (congrArg (Leads p) ?_).mp (hone.trans (ih _))
    simp only [change, Assoc.modify, List.map_map]
    congr 1
    refine List.map_congr_left fun entry _ => ?_
    by_cases hf : entry.1 = first
    · subst hf
      by_cases hr : entry.1 ∈ rest <;> simp [hr, expire_expire]
    · by_cases hr : entry.1 ∈ rest <;> simp [hf, hr]

theorem leads_purge (p : Publisher) (now : Timestamp) : Leads p (p.purge now) := by
  have hforget : Leads p { p with
      unclaimed := p.unclaimed.filter fun event => p.cutoff now ≤ event.receivedAt
      registered := p.live } := fun _ _ => ⟨[.forget now], rfl⟩
  exact hforget.trans (leads_expire _ (p.cutoff now) p.live.values)

theorem leads_subscribe {p q : Publisher} {text : String} {subscriber : Subscriber} {number : Nat}
    {notices : List SignalNotice} (h : p.subscribe text subscriber = .ok (number, q, notices)) :
    Leads p q := by
  obtain ⟨id, _, _, _, rfl, rfl, _⟩ := subscribe_eq_ok_iff.mp h
  intro due telling
  obtain ⟨sections, hsections⟩ := leads_react (p.enrol id).2 p.subscriptions.length
    subscriber.onSubscribe (p.subscriptions.length :: due) telling
  refine ⟨.enrol id :: sections ++ [.schedule p.subscriptions.length], ?_⟩
  rw [Busy.run_append]
  change Busy.run (Busy.run ⟨(p.enrol id).2, p.subscriptions.length :: due, telling⟩ sections) _ = _
  rw [hsections]
  simp [Busy.run, Busy.carryOut]

theorem exists_sections_deliver (p : Publisher) {number : Nat} (hjob : number ∈ p.jobs)
    (reactions : List Reaction) (due : List Nat) :
    ∃ sections, Busy.run ⟨p, due, []⟩ sections =
      ⟨(deliver (fun _ => { onNext := fun _ => reactions }) p number).1, due, []⟩ := by
  have hcount : 0 < p.jobs.count number := List.count_pos_iff.mpr hjob
  rcases deliver_steps p number reactions with ⟨q, ht, he⟩ | ⟨q, event, ht, hstep⟩
  · exact ⟨[.take number], by simp [Busy.run, Busy.carryOut, hcount, ht, he]⟩
  obtain ⟨sections, hsections⟩ := leads_react q number reactions due [number]
  have htake : Busy.carryOut ⟨p, due, []⟩ (.take number) = ⟨q, due, [number]⟩ := by
    simp [Busy.carryOut, hcount, ht]
  -- the subscriber reacts while it is busy with the event
  have hbusy : Busy.run ⟨p, due, []⟩ (.take number :: sections) =
      ⟨(q.react number reactions).1, due, [number]⟩ := by
    rw [← hsections, ← htake]
    rfl
  rcases hstep with ⟨r, hr, he⟩ | ⟨r, reason, hr, he⟩
  · refine ⟨.take number :: sections ++ [.resume number], ?_⟩
    rw [Busy.run_append, hbusy, hr, he]
    simp [Busy.run, Busy.carryOut]
  · refine ⟨.take number :: sections ++ [.fail number reason], ?_⟩
    rw [Busy.run_append, hbusy, hr, he]
    simp [Busy.run, Busy.carryOut]

/-- Every operation that nobody interrupts is a run of sections. -/
theorem exists_sections_perform (p : Publisher) (operation : Operation) :
    ∃ sections, Busy.run ⟨p, [], []⟩ sections = ⟨(perform p operation).after, [], []⟩ := by
  cases operation with
  | publish event => exact leads_publish p event [] []
  | subscribe text reactions =>
    simp only [perform]
    split
    · rename_i hs
      exact leads_subscribe hs [] []
    · exact Leads.refl p [] []
  | request number n => exact leads_request p number n [] []
  | cancel number => exact leads_cancel p number [] []
  | purge now => exact leads_purge p now [] []
  | close => exact leads_close p [] []
  | deliver number reactions =>
    simp only [perform]
    split
    · rename_i hjob
      exact exists_sections_deliver p hjob reactions []
    · exact Leads.refl p [] []

end BrokerRpc.Publisher
