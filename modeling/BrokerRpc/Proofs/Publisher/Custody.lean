import BrokerRpc.Proofs.Publisher.Delivery

/-! # Events that nobody gets

An event that is published enters a queue, or waits unclaimed for a subscription. There is one way for
it to do neither: only registered subscriptions want it that ended by the failure of their
subscriber.
-/
namespace BrokerRpc.Publisher

/-- A registered subscription that has ended was told so. -/
def Informed (p : Publisher) : Prop :=
  ∀ number ∈ p.registered.values, ∀ s, p.subscriptions.get? number = some s →
    s.cancelled = true → s.terminated = true

/-- What most steps keep: who has ended is informed, and the unclaimed events stay. -/
structure Keeps (p q : Publisher) : Prop where
  informed : p.Informed → q.Informed
  unclaimed : p.unclaimed <+: q.unclaimed

namespace Keeps

theorem refl (p : Publisher) : p.Keeps p := ⟨id, List.prefix_refl _⟩

theorem trans {p q r : Publisher} (h : p.Keeps q) (h' : q.Keeps r) : p.Keeps r :=
  ⟨fun hp => h'.informed (h.informed hp), h.unclaimed.trans h'.unclaimed⟩

end Keeps

/-! ## Steps that keep who is informed and what is unclaimed -/

theorem keeps_change (p : Publisher) (number : Nat) {f : Subscription → Subscription}
    (hf : ∀ s, p.subscriptions.get? number = some s → (s.cancelled = true → s.terminated = true) →
      (f s).cancelled = true → (f s).terminated = true) : p.Keeps (p.change number f) := by
  refine ⟨fun h other hmem s hs => ?_, List.prefix_refl _⟩
  change Assoc.get? (p.subscriptions.modify number f) other = some s at hs
  rw [Assoc.get?_modify] at hs
  split at hs
  · rename_i heq
    obtain ⟨found, hfound, rfl⟩ := Option.map_eq_some_iff.mp hs
    exact hf found (heq ▸ hfound) (h other hmem found hfound)
  · exact h other hmem s hs

theorem keeps_schedule (p : Publisher) (number : Nat) : p.Keeps (p.schedule number) := by
  rcases schedule_cases p number with he | he
  · rw [he]
    exact Keeps.refl p
  · have hchange := keeps_change p number (f := fun s => { s with draining := true }) fun _ _ => id
    rw [he]
    exact ⟨hchange.informed, hchange.unclaimed⟩

theorem keeps_request (p : Publisher) (number n : Nat) : p.Keeps (p.request number n) := by
  unfold request
  split
  · exact Keeps.refl p
  · exact (keeps_change p number (f := (·.grant n)) fun _ _ => id).trans (keeps_schedule _ number)

theorem keeps_cancel (p : Publisher) (number : Nat) : p.Keeps (p.cancel number) := by
  -- a subscription that is cancelled is not registered any more, told or not
  refine ⟨fun h other hmem s hs => ?_, List.prefix_refl _⟩
  obtain ⟨entry, hentry, rfl⟩ := List.mem_map.mp hmem
  obtain ⟨hregistered, hother⟩ := List.mem_filter.mp hentry
  have hne : entry.2 ≠ number := by simpa using hother
  change Assoc.get? (p.subscriptions.modify number Subscription.cancel) entry.2 = some s at hs
  rw [Assoc.get?_modify, if_neg hne] at hs
  exact h entry.2 (List.mem_map.mpr ⟨entry, hregistered, rfl⟩) s hs

theorem keeps_offer (p : Publisher) (event : Event) (number : Nat) :
    p.Keeps (p.offer event number) := by
  refine (keeps_change p number (f := (·.offer event)) ?_).trans (keeps_schedule _ number)
  intro s _ hs
  unfold Subscription.offer
  split <;> exact hs

theorem keeps_publish (p : Publisher) (event : Event) : p.Keeps (p.publish event) :=
  publish_along Keeps.refl Keeps.trans keeps_offer
    (fun _ _ _ _ => ⟨id, List.prefix_append _ _⟩) p event

theorem keeps_react (p : Publisher) (number : Nat) (reactions : List Reaction) :
    p.Keeps (p.react number reactions).1 :=
  react_along Keeps.refl Keeps.trans keeps_request keeps_cancel keeps_publish p number reactions

theorem keeps_deliver (p : Publisher) (number : Nat) (reactions : List Reaction) :
    p.Keeps (deliver (fun _ => { onNext := fun _ => reactions }) p number).1 := by
  have hjobs : ∀ (q : Publisher) (jobs : List Nat), q.Keeps { q with jobs } :=
    fun q _ => ⟨id, List.prefix_refl _⟩
  unfold deliver
  cases hs : p.subscriptions.get? number with
  | none => exact hjobs p _
  | some s =>
    rcases take_cases s with ht | ⟨event, rest, _, _, ht⟩
    · simp only [ht]
      refine (keeps_change p number (f := fun _ => { s with draining := false }) ?_).trans (hjobs _ _)
      intro found hfound
      obtain rfl := Option.some.inj (hs.symm.trans hfound)
      exact id
    · simp only [ht]
      have htaken : p.Keeps (p.change number fun _ =>
          { s with backlog := rest, demand := Subscription.spend s.demand }) := by
        refine keeps_change p number fun found hfound => ?_
        obtain rfl := Option.some.inj (hs.symm.trans hfound)
        exact id
      have hreacted := htaken.trans (keeps_react _ number reactions)
      generalize react _ number reactions = reacted at hreacted ⊢
      obtain ⟨q, reason⟩ := reacted
      cases reason with
      | none => exact hreacted
      | some reason =>
        simp only
        split
        · exact hreacted.trans (hjobs q _)
        -- a subscriber that fails stays registered, and is told
        · rename_i failed _
          have hfailed := keeps_change q number
            (f := fun _ => (failed.fail (.subscriberFailed reason)).1) fun _ _ _ _ => rfl
          exact (hreacted.trans hfailed).trans (hjobs _ _)

/-! ## Moments and runs -/

/-- Whether an event that is unclaimed before a moment is so after it: a purge drops it if it has
expired, a subscription that is accepted claims it if it wants it, and a close drops it. -/
def Moment.leaves (m : Moment) (event : Event) : Bool :=
  match m.operation with
  | .subscribe text _ =>
    m.notices.isEmpty ||
      match EventId.parse text with
      | .ok id => !id.wants event.id
      | .error _ => true
  | .purge now => m.before.cutoff now ≤ event.receivedAt
  | .close => m.before.closed
  | _ => true

/-- What a moment keeps: who has ended is informed, and what it leaves unclaimed stays in order. -/
structure Moment.Custody (m : Moment) : Prop where
  informed : m.before.Informed → m.after.Informed
  unclaimed : m.before.unclaimed.filter m.leaves <+: m.after.unclaimed

theorem Moment.custody_of_keeps {m : Moment} (h : m.before.Keeps m.after)
    (hleaves : ∀ event, m.leaves event = true) : m.Custody :=
  ⟨h.informed, by rw [List.filter_eq_self.mpr fun event _ => hleaves event]; exact h.unclaimed⟩

theorem informed_enrol {p : Publisher} (h : Orderly p) (hinformed : p.Informed) (id : EventId) :
    (p.enrol id).2.Informed := by
  intro number hmem s hs hc
  have hvalues : (p.enrol id).2.registered.values =
      p.registered.values ++ [p.subscriptions.length] := by simp [enrol, Assoc.values]
  have hget : (p.enrol id).2.subscriptions.get? number =
      (p.subscriptions.get? number).or (Assoc.get? [(p.subscriptions.length,
        { id, backlog := p.claimed id })] number) := Assoc.get?_append _ _ _
  rw [hvalues, List.mem_append, List.mem_singleton] at hmem
  by_cases hnew : number = p.subscriptions.length
  · have hfresh : p.subscriptions.get? number = none := by
      rw [Assoc.get?_eq_none_iff, hnew]
      exact fun hold => absurd (h.issued _ hold) (Nat.lt_irrefl _)
    rw [hget, hfresh, hnew] at hs
    simp [Assoc.get?] at hs
    subst hs
    cases hc
  · have hold : number ∈ p.registered.values := hmem.resolve_right hnew
    have hother : ¬ p.subscriptions.length = number := fun e => hnew e.symm
    refine hinformed number hold s ?_ hc
    simpa [hget, Assoc.get?, hother] using hs

theorem informed_purge (p : Publisher) (now : Timestamp) : (p.purge now).Informed := by
  intro number hmem s hs hc
  obtain ⟨entry, hentry, rfl⟩ := List.mem_map.mp hmem
  have hlive := (List.mem_filter.mp hentry).2
  rw [get?_purge] at hs
  obtain ⟨found, hfound, rfl⟩ := Option.map_eq_some_iff.mp hs
  have hup : found.cancelled = false := by simpa [isCancelled, hfound] using hlive
  have hdown : found.cancelled = true := by
    split at hc <;> exact hc
  rw [hup] at hdown
  cases hdown

theorem custody_subscribe {p : Publisher} (h : Orderly p) (text : String)
    (reactions : List Reaction) : (perform p (.subscribe text reactions)).Custody := by
  unfold perform
  simp only
  split
  · rename_i number after notices hs
    obtain ⟨id, _, hparse, _, rfl, rfl, rfl⟩ := subscribe_eq_ok_iff.mp hs
    have hkeeps := (keeps_react (p.enrol id).2 p.subscriptions.length reactions).trans
      (keeps_schedule _ p.subscriptions.length)
    refine ⟨fun hinformed => hkeeps.informed (informed_enrol h hinformed id), ?_⟩
    rw [List.filter_congr (q := fun event => !id.wants event.id)]
    · exact hkeeps.unclaimed
    · intro event _
      simp [Moment.leaves, hparse]
  · exact Moment.custody_of_keeps (Keeps.refl p) fun _ => rfl

theorem custody_close (p : Publisher) : (perform p .close).Custody := by
  unfold perform close
  simp only
  split
  · rename_i hclosed
    exact Moment.custody_of_keeps (Keeps.refl p) fun _ => hclosed
  · rename_i hopen
    refine ⟨fun _ number hmem => ?_, ?_⟩
    · rw [registered_finishAll] at hmem
      exact absurd hmem List.not_mem_nil
    · rw [List.filter_eq_nil_iff.mpr]
      · exact List.nil_prefix
      · intro event _
        simpa [Moment.leaves] using hopen

theorem custody_perform {p : Publisher} (h : Orderly p) (operation : Operation) :
    (perform p operation).Custody := by
  cases operation with
  | publish event => exact Moment.custody_of_keeps (keeps_publish p event) fun _ => rfl
  | subscribe text reactions => exact custody_subscribe h text reactions
  | request number n => exact Moment.custody_of_keeps (keeps_request p number n) fun _ => rfl
  | cancel number => exact Moment.custody_of_keeps (keeps_cancel p number) fun _ => rfl
  | purge now => exact ⟨fun _ => informed_purge p now, List.prefix_refl _⟩
  | close => exact custody_close p
  | deliver number reactions =>
    simp only [perform]
    split
    · exact Moment.custody_of_keeps (keeps_deliver p number reactions) fun _ => rfl
    · exact Moment.custody_of_keeps (Keeps.refl p) fun _ => rfl

/-- What no moment of a run takes away stays unclaimed, in order and in front of what comes later. -/
theorem unclaimed_reached {p : Publisher} (h : Orderly p) (operations : List Operation) :
    (p.unclaimed.filter fun event => (history p operations).all (·.leaves event)) <+:
      (reached p operations).unclaimed := by
  induction operations generalizing p with
  | nil =>
    rw [List.filter_eq_self.mpr]
    · exact List.prefix_refl _
    · exact fun _ _ => rfl
  | cons operation rest ih =>
    have hfirst := (custody_perform h operation).unclaimed
    rw [before_perform] at hfirst
    have hrest := ih (perform_sound h operation).orderly
    have hall : p.unclaimed.filter (fun event =>
        (history p (operation :: rest)).all (·.leaves event)) =
      (p.unclaimed.filter (perform p operation).leaves).filter fun event =>
        (history (perform p operation).after rest).all (·.leaves event) := by
      rw [List.filter_filter]
      exact List.filter_congr fun event _ => Bool.and_comm _ _
    -- what the first moment leaves is in front of what it adds, and the rest leaves it so
    rw [hall]
    exact (hfirst.filter _).trans hrest

theorem informed_reached (retention : Duration) (operations : List Operation) :
    (reached (new retention) operations).Informed := by
  have hrun : ∀ p, Orderly p → p.Informed → (reached p operations).Informed := by
    induction operations with
    | nil => exact fun p _ h => h
    | cons operation rest ih =>
      intro p h hinformed
      have hcustody := custody_perform h operation
      rw [← before_perform p operation] at hinformed
      exact ih _ (perform_sound h operation).orderly (hcustody.informed hinformed)
  exact hrun _ (orderly_new retention) fun _ hmem => absurd hmem List.not_mem_nil

/-! ## Publishing -/

theorem isCancelled_eq_false_iff {p : Publisher} {number : Nat} :
    p.isCancelled number = false ↔ ∃ queue, p.queue? number = some queue := by
  unfold isCancelled queue?
  cases p.subscriptions.get? number with
  | none => simp
  | some s => cases hc : s.cancelled <;> simp [hc]

theorem unclaimed_offers (p : Publisher) (event : Event) (targets : List Nat) :
    (targets.foldl (offer · event ·) p).unclaimed = p.unclaimed := by
  have hschedule : ∀ (q : Publisher) number, (q.schedule number).unclaimed = q.unclaimed := by
    intro q number
    rcases schedule_cases q number with he | he <;> rw [he]
    rfl
  induction targets generalizing p with
  | nil => rfl
  | cons first rest ih => exact (ih _).trans (hschedule _ first)

/-- Between two states of a publisher the event was put at the end of a queue that wants it. -/
def Queued (p q : Publisher) (event : Event) : Prop :=
  ∃ number id backlog, p.queue? number = some (id, backlog) ∧ id.wants event.id = true ∧
    q.queue? number = some (id, backlog ++ [event])

/-- Between two states of a publisher the event was put at the end of the unclaimed ones. -/
def Parked (p q : Publisher) (event : Event) : Prop := q.unclaimed = p.unclaimed ++ [event]

theorem parked_publish {p : Publisher} (hopen : p.closed = false) {event : Event}
    (hnone : p.targets event = []) : Parked p (p.publish event) event := by
  simp [Parked, publish, hnone, hopen]

theorem publish_eq_offers {p : Publisher} {event : Event} (hsome : p.targets event ≠ []) :
    p.publish event = (p.targets event).foldl (offer · event ·) p := by
  unfold publish
  split
  · rename_i hnone
    exact absurd hnone hsome
  · rfl

theorem queued_publish_iff {p : Publisher} (h : Orderly p) {event : Event}
    (hsome : p.targets event ≠ []) :
    Queued p (p.publish event) event ↔ ∃ number ∈ p.targets event, p.isCancelled number = false := by
  obtain ⟨_, _, hqueue⟩ := offers_spec p event (nodup_targets h event)
  rw [publish_eq_offers hsome]
  constructor
  · rintro ⟨number, id, backlog, hq, hwants, _⟩
    exact ⟨number, (mem_targets_iff h event hq).mpr hwants, isCancelled_eq_false_iff.mpr ⟨_, hq⟩⟩
  · rintro ⟨number, hmem, hlive⟩
    obtain ⟨⟨id, backlog⟩, hq⟩ := isCancelled_eq_false_iff.mp hlive
    refine ⟨number, id, backlog, hq, (mem_targets_iff h event hq).mp hmem, ?_⟩
    rw [hqueue, if_pos hmem, hq]
    rfl

theorem trackless_publish {p : Publisher} (h : Orderly p) {event : Event}
    (hsome : p.targets event ≠ []) (hended : ∀ number ∈ p.targets event, p.isCancelled number = true) :
    (p.publish event).unclaimed = p.unclaimed ∧
      ∀ number, (p.publish event).queue? number = p.queue? number := by
  obtain ⟨_, _, hqueue⟩ := offers_spec p event (nodup_targets h event)
  rw [publish_eq_offers hsome]
  refine ⟨unclaimed_offers p event _, fun number => ?_⟩
  rw [hqueue]
  split
  · rename_i hmem
    cases hq : p.queue? number with
    | none => rfl
    | some queue =>
      have hlive := isCancelled_eq_false_iff.mpr ⟨queue, hq⟩
      rw [hended number hmem] at hlive
      cases hlive
  · rfl

/-- Which events an open publisher keeps, in every state that it can reach: those that no registered
subscription wants, which wait unclaimed, and those that a registered subscription wants that has not
ended, which enter its queue. Any other event leaves no trace; only subscriptions want it that ended
and were told so. An event that waits unclaimed does so, in its place, until a purge finds it expired,
a subscription claims it or the publisher is closed, and a subscription that is accepted finds all
that it claims at the front of its queue. -/
theorem publish_keeps_iff (retention : Duration) (operations : List Operation) (event : Event)
    (hopen : (reached (new retention) operations).closed = false) :
    let p := reached (new retention) operations
    let q := p.publish event
    (Queued p q event ∨ Parked p q event ↔
      p.targets event = [] ∨ ∃ number ∈ p.targets event, p.isCancelled number = false) ∧
    (¬ (Queued p q event ∨ Parked p q event) →
      (q.unclaimed = p.unclaimed ∧ ∀ number, q.queue? number = p.queue? number) ∧
      ∀ number ∈ p.targets event, ∃ s, p.subscriptions.get? number = some s ∧
        s.cancelled = true ∧ s.terminated = true) ∧
    (∀ later, (q.unclaimed.filter fun e => (history q later).all (·.leaves e)) <+:
      (reached q later).unclaimed) ∧
    ∀ text reactions number r notices id,
      q.subscribe text { onSubscribe := reactions } = .ok (number, r, notices) →
      EventId.parse text = .ok id → ∀ other backlog, r.queue? number = some (other, backlog) →
        other = id ∧ q.claimed id <+: backlog := by
  intro p q
  have horderly : Orderly p := orderly_reached retention operations
  have hinformed : p.Informed := informed_reached retention operations
  have hq : Orderly q := (receives_publish horderly event).orderly
  have hkept : p.targets event ≠ [] →
      ((∃ number ∈ p.targets event, p.isCancelled number = false) ↔
        Queued p q event ∨ Parked p q event) := by
    intro hsome
    rw [← queued_publish_iff horderly hsome]
    have hparked : ¬ Parked p q event := by
      rw [Parked, show q = _ from publish_eq_offers hsome, unclaimed_offers]
      simp
    simp only [hparked, or_false]
    exact Iff.rfl
  refine ⟨?_, ?_, unclaimed_reached hq, ?_⟩
  · by_cases hnone : p.targets event = []
    · exact iff_of_true (Or.inr (parked_publish hopen hnone)) (Or.inl hnone)
    · rw [← hkept hnone]
      simp [hnone]
  · intro hlost
    have hnone : p.targets event ≠ [] := fun hnone => hlost (Or.inr (parked_publish hopen hnone))
    have hended : ∀ number ∈ p.targets event, p.isCancelled number = true := by
      intro number hmem
      rw [← Bool.not_eq_false]
      exact fun hlive => hlost ((hkept hnone).mp ⟨number, hmem, hlive⟩)
    refine ⟨trackless_publish horderly hnone hended, fun number hmem => ?_⟩
    obtain ⟨hregistered, hwants⟩ := List.mem_filter.mp hmem
    cases hs : p.subscriptions.get? number with
    | none => simp [hs] at hwants
    | some s =>
      have hcancelled : s.cancelled = true := by simpa [isCancelled, hs] using hended number hmem
      exact ⟨s, rfl, hcancelled, hinformed number hregistered s hs hcancelled⟩
  · intro text reactions number r notices id hs hid other backlog hr
    obtain ⟨_, _, _, _, hbegins⟩ := begins hq hs hid
    obtain ⟨hother, _, _, hbacklog⟩ := hbegins other backlog hr
    exact ⟨hother, hbacklog ▸ List.prefix_append _ _⟩

/-- The first subscriber fails, the second goes on. -/
theorem publish_keeps_iff_one_failed :
    let event : Event := ⟨⟨"peer", "editor", "saved", "7"⟩, .null, 0⟩
    let p := reached (new ⟨20⟩)
      [.subscribe "peer|editor|*|*" [.request 2], .subscribe "peer|*|saved|*" [], .publish event,
        .deliver 0 [.panic "boom"]]
    p.closed = false ∧ p.isCancelled 0 = true ∧
      (Queued p (p.publish event) event ∨ Parked p (p.publish event) event) := by
  intro event p
  have hopen : p.closed = false := by decide
  have hone : ∃ number ∈ p.targets event, p.isCancelled number = false := ⟨1, by decide, by decide⟩
  exact ⟨hopen, by decide, (publish_keeps_iff ⟨20⟩ _ event hopen).1.mpr (Or.inr hone)⟩

/-- The only subscriber fails at the first event. The second one is neither queued nor parked: the
subscription that ended is registered still. -/
theorem lost_after_panic :
    let event : Event := ⟨⟨"peer", "editor", "saved", "7"⟩, .null, 0⟩
    let p := reached (new ⟨20⟩)
      [.subscribe "peer|editor|saved|7" [.request 2], .publish event, .deliver 0 [.panic "boom"]]
    p.closed = false ∧ ¬ (Queued p (p.publish event) event ∨ Parked p (p.publish event) event) := by
  intro event p
  have hsame : p.publish event = p := by decide
  refine ⟨by decide, ?_⟩
  rw [hsame]
  rintro (⟨number, id, backlog, hq, _, hq'⟩ | hparked)
  · rw [hq] at hq'
    simp at hq'
  · simp [Parked] at hparked

end BrokerRpc.Publisher
