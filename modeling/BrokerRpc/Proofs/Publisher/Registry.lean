import BrokerRpc.Proofs.Inbound.Values
import BrokerRpc.Proofs.Publisher.Custody
import BrokerRpc.Proofs.Publisher.Jobs

/-! # The registry and the unclaimed events

What is registered and what is unclaimed fit together at any time: no unclaimed event is wanted by a
registered subscription, the unclaimed events are in the order in which they were published, and each
registered subscription is found under the text of its id, which it shares with no other. A
subscription that is refused changes nothing.
-/
namespace BrokerRpc.Publisher

def id? (p : Publisher) (number : Nat) : Option EventId :=
  (p.subscriptions.get? number).map (·.id)

theorem id?_enrol {p : Publisher}
    (h : ∀ number ∈ p.subscriptions.keys, number < p.subscriptions.length) (id : EventId)
    (number : Nat) :
    (p.enrol id).2.id? number =
      if number = p.subscriptions.length then some id else p.id? number := by
  unfold id?
  rw [get?_enrol h]
  split <;> rfl

theorem targets_eq_nil_iff {p : Publisher} {event : Event} :
    p.targets event = [] ↔ ∀ entry ∈ p.registered, ∀ id, p.id? entry.2 = some id →
      id.wants event.id = false := by
  unfold targets Assoc.values id?
  rw [List.filter_eq_nil_iff]
  simp only [List.mem_map, forall_exists_index, and_imp, forall_apply_eq_imp_iff₂]
  refine forall₂_congr fun entry _ => ?_
  cases p.subscriptions.get? entry.2 <;> simp

structure Filed (p : Publisher) : Prop where
  stored : ∀ entry ∈ p.registered, ∃ id, p.id? entry.2 = some id ∧ EventId.parse entry.1 = .ok id
  distinct : p.registered.Distinct
  unwanted : ∀ event ∈ p.unclaimed, p.targets event = []
  emptied : p.closed = true → p.registered = [] ∧ p.unclaimed = []

theorem filed_new (retention : Duration) : Filed (new retention) where
  stored := fun _ h => absurd h List.not_mem_nil
  distinct := List.nodup_nil
  unwanted := fun _ h => absurd h List.not_mem_nil
  emptied := fun _ => ⟨rfl, rfl⟩

/-- Between two states of a publisher the given events were published: it stays filed, what is
unclaimed was so before or is among them, in order, and what is closed stays closed. -/
structure Shelves (p : Publisher) (events : List Event) (q : Publisher) : Prop where
  filed : p.Filed → q.Filed
  closed : p.closed = true → q.closed = true
  unclaimed : q.unclaimed.Sublist (p.unclaimed ++ events)

namespace Shelves

theorem refl (p : Publisher) : Shelves p [] p := ⟨id, id, by simp⟩

theorem trans {p q r : Publisher} {first rest : List Event} (h : Shelves p first q)
    (h' : Shelves q rest r) : Shelves p (first ++ rest) r := by
  refine ⟨fun hp => h'.filed (h.filed hp), fun hp => h'.closed (h.closed hp),
    h'.unclaimed.trans ?_⟩
  rw [← List.append_assoc]
  exact h.unclaimed.append_right rest

theorem of_nil {p q : Publisher} (h : Shelves p [] q) (events : List Event) :
    Shelves p events q := by
  refine ⟨h.filed, h.closed, h.unclaimed.trans ?_⟩
  rw [List.append_nil]
  exact List.sublist_append_left _ _

end Shelves

/-! ## Parts of operations -/

theorem shelves_of_kept {p q : Publisher} (hid : ∀ number, q.id? number = p.id? number)
    (hregistered : q.registered.Sublist p.registered) (hunclaimed : q.unclaimed.Sublist p.unclaimed)
    (hclosed : q.closed = p.closed) : Shelves p [] q := by
  refine ⟨fun h => ⟨?_, ?_, ?_, ?_⟩, fun hp => hclosed ▸ hp, by simpa using hunclaimed⟩
  · intro entry hmem
    rw [hid]
    exact h.stored entry (hregistered.subset hmem)
  · exact (hregistered.map Prod.fst).nodup h.distinct
  · intro event hmem
    have hbefore := targets_eq_nil_iff.mp (h.unwanted event (hunclaimed.subset hmem))
    refine targets_eq_nil_iff.mpr fun entry hentry id hq => ?_
    rw [hid] at hq
    exact hbefore entry (hregistered.subset hentry) id hq
  · intro hq
    obtain ⟨hnone, hempty⟩ := h.emptied (hclosed ▸ hq)
    rw [hnone] at hregistered
    rw [hempty] at hunclaimed
    exact ⟨List.sublist_nil.mp hregistered, List.sublist_nil.mp hunclaimed⟩

theorem shelves_change (p : Publisher) (number : Nat) {f : Subscription → Subscription}
    (hf : ∀ s, p.subscriptions.get? number = some s → (f s).id = s.id) :
    Shelves p [] (p.change number f) :=
  shelves_of_kept (map_get?_change_of_same p (·.id) number hf) (List.Sublist.refl _)
    (List.Sublist.refl _) rfl

theorem shelves_jobs (p : Publisher) (jobs : List Nat) : Shelves p [] { p with jobs } :=
  shelves_of_kept (fun _ => rfl) (List.Sublist.refl _) (List.Sublist.refl _) rfl

theorem shelves_schedule (p : Publisher) (number : Nat) : Shelves p [] (p.schedule number) := by
  rcases schedule_cases p number with he | he
  · rw [he]
    exact Shelves.refl p
  · rw [he]
    exact (shelves_change p number (f := fun s => { s with draining := true })
      fun _ _ => rfl).trans (shelves_jobs _ _)

theorem shelves_request (p : Publisher) (number n : Nat) : Shelves p [] (p.request number n) := by
  unfold request
  split
  · exact Shelves.refl p
  · exact (shelves_change p number (f := (·.grant n)) fun _ _ => rfl).trans
      (shelves_schedule _ number)

theorem shelves_cancel (p : Publisher) (number : Nat) : Shelves p [] (p.cancel number) :=
  shelves_of_kept
    (map_get?_change_of_same p (·.id) number (f := Subscription.cancel) fun _ _ => rfl)
    List.filter_sublist (List.Sublist.refl _) rfl

theorem shelves_offer (p : Publisher) (event : Event) (number : Nat) :
    Shelves p [] (p.offer event number) := by
  refine (shelves_change p number (f := (·.offer event)) ?_).trans (shelves_schedule _ number)
  intro s _
  unfold Subscription.offer
  split <;> rfl

theorem shelves_park {p : Publisher} {event : Event} (hnone : p.targets event = [])
    (hopen : p.closed = false) :
    Shelves p [event] { p with unclaimed := p.unclaimed ++ [event] } := by
  refine ⟨fun h => ⟨h.stored, h.distinct, ?_, ?_⟩, id, List.Sublist.refl _⟩
  · intro other hmem
    rcases List.mem_append.mp hmem with hmem | hmem
    · exact h.unwanted other hmem
    · rw [List.mem_singleton.mp hmem]
      exact hnone
  · intro hclosed
    cases hopen.symm.trans hclosed

theorem shelves_publish (p : Publisher) (event : Event) :
    Shelves p [event] (p.publish event) := by
  unfold publish
  split
  · rename_i hnone
    split
    · exact (Shelves.refl p).of_nil _
    · rename_i hopen
      exact shelves_park hnone (Bool.eq_false_iff.mpr hopen)
  · refine Shelves.of_nil ?_ _
    exact offers_along (R := fun p q => Shelves p [] q) Shelves.refl Shelves.trans shelves_offer
      p event _

theorem shelves_react (p : Publisher) (number : Nat) (reactions : List Reaction) :
    Shelves p (publishedBy reactions) (p.react number reactions).1 := by
  induction reactions generalizing p with
  | nil => exact Shelves.refl p
  | cons reaction more ih =>
    cases reaction with
    | request n => exact (shelves_request p number n).trans (ih _)
    | cancel => exact (shelves_cancel p number).trans (ih _)
    | publish event => exact (shelves_publish p event).trans (ih _)
    | requestFor other n => exact (shelves_request p other n).trans (ih _)
    | cancelOf other => exact (shelves_cancel p other).trans (ih _)
    | panic reason => exact Shelves.refl p

/-- A new subscription is registered under the text of its id, and what it wants is not unclaimed any
more. -/
theorem shelves_enrol {p : Publisher} (h : Orderly p) {id : EventId} (hopen : p.closed = false)
    (hid : EventId.parse id.text = .ok id) (hnew : p.registered.contains id.text = false) :
    Shelves p [] (p.enrol id).2 := by
  have hids := id?_enrol h.issued id
  have hold : ∀ entry ∈ p.registered, (p.enrol id).2.id? entry.2 = p.id? entry.2 := by
    intro entry hmem
    rw [hids, if_neg]
    exact Nat.ne_of_lt (h.registered_issued entry.2 (List.mem_map_of_mem hmem))
  refine ⟨fun hp => ⟨?_, ?_, ?_, ?_⟩, fun hclosed => hclosed, ?_⟩
  · intro entry hmem
    rcases List.mem_append.mp hmem with hmem | hmem
    · rw [hold entry hmem]
      exact hp.stored entry hmem
    · rw [List.mem_singleton.mp hmem]
      exact ⟨id, by simp [hids], hid⟩
  · exact Assoc.distinct_append_iff.mpr ⟨hp.distinct, Assoc.contains_eq_false_iff.mp hnew⟩
  · -- what the new subscription leaves unclaimed it does not want, and the others did not before
    intro event hmem
    obtain ⟨hunclaimed, hwants⟩ := List.mem_filter.mp hmem
    have hbefore := targets_eq_nil_iff.mp (hp.unwanted event hunclaimed)
    refine targets_eq_nil_iff.mpr fun entry hentry other hother => ?_
    rcases List.mem_append.mp hentry with hentry | hentry
    · rw [hold entry hentry] at hother
      exact hbefore entry hentry other hother
    · rw [List.mem_singleton.mp hentry, hids, if_pos rfl] at hother
      obtain rfl := Option.some.inj hother
      simpa using hwants
  · intro hclosed
    cases hopen.symm.trans hclosed
  · rw [List.append_nil]
    exact List.filter_sublist

theorem shelves_takeNext (p : Publisher) (number : Nat) : Shelves p [] (p.takeNext number).1 := by
  rcases takeNext_cases p number with ⟨_, ht⟩ | ⟨s, hs, _, ht⟩ | ⟨s, event, rest, hs, _, _, ht⟩
  all_goals rw [ht]
  · exact shelves_jobs p _
  · exact Shelves.trans (shelves_change p number (forall_found hs rfl)) (shelves_jobs _ _)
  · exact shelves_change p number (forall_found hs rfl)

theorem shelves_failJob (p : Publisher) (number : Nat) (reason : String) :
    Shelves p [] (p.failJob number reason).1 := by
  rcases failJob_cases p number reason with ⟨_, hf⟩ | ⟨s, hs, hf⟩
  all_goals rw [hf]
  · exact shelves_jobs p _
  · exact Shelves.trans (shelves_change p number (forall_found hs rfl)) (shelves_jobs _ _)

theorem shelves_purge (p : Publisher) (now : Timestamp) : Shelves p [] (p.purge now) := by
  refine shelves_of_kept (fun number => ?_) List.filter_sublist List.filter_sublist rfl
  unfold id?
  rw [get?_purge]
  cases p.subscriptions.get? number with
  | none => rfl
  | some s =>
    simp only [Option.map_some]
    split <;> rfl

theorem shelves_close (p : Publisher) : Shelves p [] p.close.1 := by
  unfold close
  split
  · exact Shelves.refl p
  · -- what is left of the registry and of the unclaimed events is nothing
    have hempty : Shelves p [] { p with closed := true, registered := [], unclaimed := [] } := by
      refine ⟨fun _ => ⟨fun _ h => absurd h List.not_mem_nil, List.nodup_nil,
        fun _ h => absurd h List.not_mem_nil, fun _ => ⟨rfl, rfl⟩⟩, fun _ => rfl,
        List.nil_sublist _⟩
    exact hempty.trans (finishAll_along (R := fun p q => Shelves p [] q) Shelves.refl Shelves.trans
      (fun p number s hs => shelves_change p number (forall_found hs rfl)) _ _)

/-! ## Moments and runs -/

theorem shelves_subscribe {p q : Publisher} (h : Orderly p) {text : String}
    {subscriber : Subscriber} {number : Nat} {notices : List SignalNotice}
    (hs : p.subscribe text subscriber = .ok (number, q, notices)) :
    Shelves p (publishedBy subscriber.onSubscribe) q := by
  obtain ⟨id, hopen, hparse, hnew, rfl, rfl, _⟩ := subscribe_eq_ok_iff.mp hs
  have htext := (EventId.parse_eq_ok_iff.mp hparse).1
  have henrol := shelves_enrol h hopen (htext ▸ hparse) hnew
  have hall := (henrol.trans (shelves_react _ p.subscriptions.length subscriber.onSubscribe)).trans
    (shelves_schedule _ p.subscriptions.length)
  rwa [List.nil_append, List.append_nil] at hall

theorem shelves_perform {p : Publisher} (h : Orderly p) (operation : Operation) :
    Shelves p (perform p operation).published (perform p operation).after := by
  cases operation with
  | publish event => exact shelves_publish p event
  | subscribe text reactions =>
    simp only [perform]
    split
    · rename_i hs
      obtain ⟨_, _, _, _, _, _, rfl⟩ := subscribe_eq_ok_iff.mp hs
      exact shelves_subscribe h hs
    · exact Shelves.refl p
  | request number n => exact shelves_request p number n
  | cancel number => exact shelves_cancel p number
  | purge now => exact shelves_purge p now
  | close => exact shelves_close p
  | deliver number reactions =>
    by_cases hjob : number ∈ p.jobs
    case neg =>
      simp only [perform, if_neg hjob]
      exact Shelves.refl p
    have htake := shelves_takeNext p number
    simp only [perform, if_pos hjob]
    rcases deliver_steps p number reactions with ⟨q, ht, he⟩ | ⟨q, event, ht, hstep⟩
    · rw [he]
      rw [ht] at htake
      exact htake
    rw [ht] at htake
    have hreact := htake.trans (shelves_react q number reactions)
    rcases hstep with ⟨r, hr, he⟩ | ⟨r, reason, hr, he⟩
    · rw [he]
      rw [hr] at hreact
      exact hreact
    · rw [he]
      rw [hr] at hreact
      have hall := hreact.trans (shelves_failJob r number reason)
      rwa [List.append_nil] at hall

def publishedIn (moments : List Moment) : List Event := moments.flatMap (·.published)

theorem shelves_reached {p : Publisher} (h : Orderly p) (operations : List Operation) :
    Shelves p (publishedIn (history p operations)) (reached p operations) := by
  induction operations generalizing p with
  | nil => exact Shelves.refl p
  | cons operation rest ih =>
    exact (shelves_perform h operation).trans (ih (perform_sound h operation).orderly)

/-- A subscription is refused by a closed publisher, for a text that is no id, and where the text is
registered. -/
theorem subscribe_eq_error_iff {p : Publisher} {text : String} {subscriber : Subscriber} :
    (∃ failure, p.subscribe text subscriber = .error failure) ↔
      p.closed = true ∨ (∃ failure, EventId.parse text = .error failure) ∨
        p.registered.contains text = true := by
  have hok : (∃ failure, p.subscribe text subscriber = .error failure) ↔
      ¬ ∃ result, p.subscribe text subscriber = .ok result := by
    cases p.subscribe text subscriber <;> simp
  rw [hok]
  constructor
  · intro hnot
    cases hclosed : p.closed with
    | true => exact Or.inl rfl
    | false =>
      cases hparse : EventId.parse text with
      | error failure => exact Or.inr (Or.inl ⟨failure, rfl⟩)
      | ok id =>
        have htext := (EventId.parse_eq_ok_iff.mp hparse).1
        refine Or.inr (Or.inr (Decidable.byContradiction fun hnew => hnot ?_))
        have hfree : p.registered.contains id.text = false := by simpa [← htext] using hnew
        exact ⟨_, subscribe_eq_ok_iff.mpr ⟨id, hclosed, hparse, hfree, rfl, rfl, rfl⟩⟩
  · rintro hcause ⟨⟨number, q, notices⟩, hs⟩
    obtain ⟨id, hopen, hparse, hnew, _⟩ := subscribe_eq_ok_iff.mp hs
    have htext := (EventId.parse_eq_ok_iff.mp hparse).1
    rcases hcause with hclosed | ⟨failure, hfailure⟩ | hregistered
    · cases hopen.symm.trans hclosed
    · cases hparse.symm.trans hfailure
    · rw [htext, hnew] at hregistered
      cases hregistered

/-- In every state that a publisher can reach: no unclaimed event is wanted by a registered
subscription, the unclaimed events are in the order in which they were published, every registered
subscription is found under the text of its own id, and no two under the same. A subscription is
refused exactly by a closed publisher, for a text that is no id, and for one that is registered; that
leaves everything as it was, and nobody is told of it. -/
theorem registry_consistent (retention : Duration) (operations : List Operation) :
    let p := reached (new retention) operations
    (∀ event ∈ p.unclaimed, ∀ entry ∈ p.registered, ∀ s,
      p.subscriptions.get? entry.2 = some s → s.id.wants event.id = false) ∧
    p.unclaimed.Sublist (publishedIn (history (new retention) operations)) ∧
    (∀ entry ∈ p.registered, ∃ s, p.subscriptions.get? entry.2 = some s ∧
      entry.1 = s.id.text ∧ EventId.parse entry.1 = .ok s.id) ∧
    p.registered.Distinct ∧
    ∀ text reactions,
      ((∃ failure, p.subscribe text { onSubscribe := reactions } = .error failure) ↔
        p.closed = true ∨ (∃ failure, EventId.parse text = .error failure) ∨
          p.registered.contains text = true) ∧
      ∀ failure, p.subscribe text { onSubscribe := reactions } = .error failure →
        (perform p (.subscribe text reactions)).after = p ∧
        (perform p (.subscribe text reactions)).notices = [] := by
  intro p
  have hshelves := shelves_reached (orderly_new retention) operations
  have hfiled : Filed p := hshelves.filed (filed_new retention)
  refine ⟨?_, hshelves.unclaimed, ?_, hfiled.distinct, fun text reactions => ⟨?_, ?_⟩⟩
  · intro event hevent entry hentry s hs
    have hnone := targets_eq_nil_iff.mp (hfiled.unwanted event hevent)
    exact hnone entry hentry s.id (by simp [id?, hs])
  · intro entry hentry
    obtain ⟨id, hid, hparse⟩ := hfiled.stored entry hentry
    obtain ⟨s, hs, rfl⟩ := Option.map_eq_some_iff.mp hid
    exact ⟨s, hs, (EventId.parse_eq_ok_iff.mp hparse).1, hparse⟩
  · exact subscribe_eq_error_iff
  · intro failure hrefused
    simp [perform, hrefused]

end BrokerRpc.Publisher
