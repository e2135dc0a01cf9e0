import BrokerRpc.Event.Publisher

/-! # Subscriptions as queues

To the outside a subscription that has not ended is a queue: events enter at its end, in the order in
which they are published, each once. The statements here say what the parts of an operation do to
all queues of a publisher at once.
-/
namespace BrokerRpc.Publisher

theorem get?_change (p : Publisher) (number other : Nat) (f : Subscription → Subscription) :
    (p.change number f).subscriptions.get? other =
      if other = number then (p.subscriptions.get? other).map f
      else p.subscriptions.get? other := Assoc.get?_modify _ _ _ _

/-- A change of one subscription that keeps what is seen of it keeps what is seen of all. -/
theorem map_get?_change_of_same {β : Type} (p : Publisher) (see : Subscription → β) (number : Nat)
    {f : Subscription → Subscription}
    (hf : ∀ s, p.subscriptions.get? number = some s → see (f s) = see s) (other : Nat) :
    ((p.change number f).subscriptions.get? other).map see =
      (p.subscriptions.get? other).map see := by
  rw [get?_change]
  split
  · rename_i heq
    subst heq
    cases hs : p.subscriptions.get? other with
    | none => rfl
    | some s => exact congrArg some (hf s hs)
  · rfl

/-- A subscription that has not ended: the id it was made under and the events that wait. -/
def queue? (p : Publisher) (number : Nat) : Option (EventId × List Event) :=
  (p.subscriptions.get? number).bind fun s => if s.cancelled then none else some (s.id, s.backlog)

theorem queue?_eq_some_iff {p : Publisher} {number : Nat} {id : EventId} {backlog : List Event} :
    p.queue? number = some (id, backlog) ↔
      ∃ s, p.subscriptions.get? number = some s ∧ s.cancelled = false ∧ s.id = id ∧
        s.backlog = backlog := by
  unfold queue?
  cases p.subscriptions.get? number with
  | none => simp
  | some s => cases hc : s.cancelled <;> simp [hc]

theorem queue?_change (p : Publisher) (number other : Nat) (f : Subscription → Subscription) :
    (p.change number f).queue? other =
      if other = number then
        ((p.subscriptions.get? other).map f).bind fun s =>
          if s.cancelled then none else some (s.id, s.backlog)
      else p.queue? other := by
  unfold queue? change
  rw [Assoc.get?_modify]
  split <;> rfl

theorem queue?_change_of_same (p : Publisher) (number : Nat) {f : Subscription → Subscription}
    (hf : ∀ s, p.subscriptions.get? number = some s →
      (f s).cancelled = s.cancelled ∧ (f s).id = s.id ∧ (f s).backlog = s.backlog)
    (other : Nat) : (p.change number f).queue? other = p.queue? other := by
  let see (s : Subscription) := if s.cancelled then none else some (s.id, s.backlog)
  have hseen : ∀ s, p.subscriptions.get? number = some s → see (f s) = see s := by
    intro s hs
    obtain ⟨hcancelled, hid, hbacklog⟩ := hf s hs
    simp only [see, hcancelled, hid, hbacklog]
  have hqueue : ∀ q : Publisher,
      q.queue? other = ((q.subscriptions.get? other).map see).bind id := by
    intro q
    rw [Option.bind_map]
    rfl
  rw [hqueue, hqueue, map_get?_change_of_same p see number hseen other]

theorem keys_change (p : Publisher) (number : Nat) (f : Subscription → Subscription) :
    (p.change number f).subscriptions.keys = p.subscriptions.keys := Assoc.keys_modify _ _ _

/-- What holds of a publisher at any time: numbers are given out in order, and a subscription that
has not ended is registered, under one entry. -/
structure Orderly (p : Publisher) : Prop where
  issued : ∀ number ∈ p.subscriptions.keys, number < p.subscriptions.length
  registered_issued : ∀ number ∈ p.registered.values, number < p.subscriptions.length
  registered_nodup : p.registered.values.Nodup
  registered : ∀ number queue, p.queue? number = some queue → number ∈ p.registered.values

theorem orderly_new (retention : Duration) : Orderly (new retention) where
  issued := fun _ h => absurd h List.not_mem_nil
  registered_issued := fun _ h => absurd h List.not_mem_nil
  registered_nodup := List.nodup_nil
  registered := fun _ _ h => by cases h

/-- Between two states of a publisher the given events were published, and no more: each queue that
is left got those that it wants at its end. -/
structure Receives (p q : Publisher) (events : List Event) : Prop where
  orderly : Orderly q
  keys_eq : q.subscriptions.keys = p.subscriptions.keys
  received : ∀ number id backlog, q.queue? number = some (id, backlog) →
    ∃ earlier, p.queue? number = some (id, earlier) ∧
      backlog = earlier ++ events.filter fun e => id.wants e.id

namespace Receives

theorem refl {p : Publisher} (h : Orderly p) : Receives p p [] where
  orderly := h
  keys_eq := rfl
  received := fun _ _ backlog hq => ⟨backlog, hq, (List.append_nil _).symm⟩

theorem trans {p q r : Publisher} {first rest : List Event} (h : Receives p q first)
    (h' : Receives q r rest) : Receives p r (first ++ rest) := by
  refine ⟨h'.orderly, h'.keys_eq.trans h.keys_eq, ?_⟩
  intro number id backlog hr
  obtain ⟨middle, hq, hrest⟩ := h'.received number id backlog hr
  obtain ⟨earlier, hp, hfirst⟩ := h.received number id middle hq
  refine ⟨earlier, hp, ?_⟩
  rw [hrest, hfirst, List.filter_append, List.append_assoc]

end Receives

/-! ## Parts that publish nothing -/

/-- What takes no number away, registers nothing anew and wakes no subscription keeps a publisher
orderly. -/
theorem Orderly.of_sublist {p q : Publisher} (h : Orderly p)
    (hkeys : q.subscriptions.keys = p.subscriptions.keys)
    (hsub : q.registered.values.Sublist p.registered.values)
    (hqueue : ∀ number queue, q.queue? number = some queue → number ∈ q.registered.values) :
    Orderly q := by
  have hlength : q.subscriptions.length = p.subscriptions.length := by
    have hl := congrArg List.length hkeys
    simpa [Assoc.keys] using hl
  refine ⟨?_, ?_, hsub.nodup h.registered_nodup, hqueue⟩
  · rw [hkeys, hlength]
    exact h.issued
  · intro number hmem
    rw [hlength]
    exact h.registered_issued number (hsub.subset hmem)

theorem receives_of_kept {p q : Publisher} (h : Orderly p)
    (hkeys : q.subscriptions.keys = p.subscriptions.keys)
    (hsub : q.registered.values.Sublist p.registered.values)
    (hkept : ∀ number queue, q.queue? number = some queue →
      p.queue? number = some queue ∧ number ∈ q.registered.values) : Receives p q [] := by
  refine ⟨h.of_sublist hkeys hsub fun number queue hq => (hkept number queue hq).2, hkeys, ?_⟩
  intro number id backlog hq
  exact ⟨backlog, (hkept number _ hq).1, (List.append_nil _).symm⟩

theorem receives_of_queue_eq {p q : Publisher} (h : Orderly p)
    (hkeys : q.subscriptions.keys = p.subscriptions.keys) (hregistered : q.registered = p.registered)
    (hqueue : ∀ number, q.queue? number = p.queue? number) : Receives p q [] := by
  refine receives_of_kept h hkeys (hregistered ▸ List.Sublist.refl _) ?_
  intro number queue hq
  rw [hqueue] at hq
  exact ⟨hq, hregistered ▸ h.registered number queue hq⟩

theorem schedule_cases (p : Publisher) (number : Nat) :
    p.schedule number = p ∨
      p.schedule number =
        { p.change number (fun s => { s with draining := true }) with
          jobs := p.jobs ++ [number] } := by
  unfold schedule
  split
  · split
    · exact Or.inr rfl
    · exact Or.inl rfl
  · exact Or.inl rfl

theorem keys_schedule (p : Publisher) (number : Nat) :
    (p.schedule number).subscriptions.keys = p.subscriptions.keys := by
  rcases schedule_cases p number with he | he
  · rw [he]
  · rw [he]
    exact keys_change p number fun s => { s with draining := true }

theorem registered_schedule (p : Publisher) (number : Nat) :
    (p.schedule number).registered = p.registered := by
  rcases schedule_cases p number with he | he
  · rw [he]
  · rw [he]
    rfl

@[simp] theorem queue?_schedule (p : Publisher) (number other : Nat) :
    (p.schedule number).queue? other = p.queue? other := by
  rcases schedule_cases p number with he | he
  · rw [he]
  · rw [he]
    exact queue?_change_of_same p number (f := fun s => { s with draining := true })
      (fun _ _ => ⟨rfl, rfl, rfl⟩) other

theorem receives_schedule {p : Publisher} (h : Orderly p) (number : Nat) :
    Receives p (p.schedule number) [] :=
  receives_of_queue_eq h (keys_schedule p number) (registered_schedule p number)
    (queue?_schedule p number)

theorem receives_request {p : Publisher} (h : Orderly p) (number n : Nat) :
    Receives p (p.request number n) [] := by
  unfold request
  split
  · exact Receives.refl h
  · have hgrant : Receives p (p.change number (·.grant n)) [] :=
      receives_of_queue_eq h (keys_change _ _ _) rfl
        (queue?_change_of_same p number fun _ _ => ⟨rfl, rfl, rfl⟩)
    exact hgrant.trans (receives_schedule hgrant.orderly number)

theorem queue?_cancel (p : Publisher) (number other : Nat) :
    (p.cancel number).queue? other = if other = number then none else p.queue? other := by
  have hc := queue?_change p number other Subscription.cancel
  change (p.change number Subscription.cancel).queue? other = _
  rw [hc]
  split
  · cases p.subscriptions.get? other <;> rfl
  · rfl

theorem receives_cancel {p : Publisher} (h : Orderly p) (number : Nat) :
    Receives p (p.cancel number) [] := by
  have hkeys : (p.cancel number).subscriptions.keys = p.subscriptions.keys := keys_change _ _ _
  refine receives_of_kept h hkeys (List.filter_sublist.map _) ?_
  intro other queue hq
  rw [queue?_cancel] at hq
  split at hq
  · cases hq
  · rename_i hne
    refine ⟨hq, ?_⟩
    obtain ⟨entry, hmem, rfl⟩ := List.mem_map.mp (h.registered other queue hq)
    refine List.mem_map.mpr ⟨entry, List.mem_filter.mpr ⟨hmem, ?_⟩, rfl⟩
    simpa using hne

/-! ## Publishing -/

theorem queue?_offer (p : Publisher) (event : Event) (number other : Nat) :
    (p.offer event number).queue? other =
      if other = number then (p.queue? other).map fun queue => (queue.1, queue.2 ++ [event])
      else p.queue? other := by
  unfold offer
  rw [queue?_schedule, queue?_change]
  split
  · unfold queue?
    cases p.subscriptions.get? other with
    | none => rfl
    | some s => cases hc : s.cancelled <;> simp [Subscription.offer, hc]
  · rfl

theorem keys_offer (p : Publisher) (event : Event) (number : Nat) :
    (p.offer event number).subscriptions.keys = p.subscriptions.keys :=
  (keys_schedule _ number).trans (keys_change _ _ _)

theorem registered_offer (p : Publisher) (event : Event) (number : Nat) :
    (p.offer event number).registered = p.registered := registered_schedule _ number

theorem offers_spec (p : Publisher) (event : Event) {targets : List Nat} (hd : targets.Nodup) :
    (targets.foldl (offer · event ·) p).subscriptions.keys = p.subscriptions.keys ∧
      (targets.foldl (offer · event ·) p).registered = p.registered ∧
      ∀ number, (targets.foldl (offer · event ·) p).queue? number =
        if number ∈ targets then (p.queue? number).map fun queue => (queue.1, queue.2 ++ [event])
        else p.queue? number := by
  induction targets generalizing p with
  | nil => exact ⟨rfl, rfl, fun number => by simp⟩
  | cons first rest ih =>
    obtain ⟨hnew, hrest⟩ := List.nodup_cons.mp hd
    obtain ⟨hkeys, hregistered, hqueue⟩ := ih (p.offer event first) hrest
    refine ⟨hkeys.trans (keys_offer p event first),
      hregistered.trans (registered_offer p event first), ?_⟩
    intro number
    rw [List.foldl_cons, hqueue, queue?_offer]
    by_cases hf : number = first
    · subst hf
      simp [hnew]
    · simp [hf]

theorem mem_targets_iff {p : Publisher} (h : Orderly p) (event : Event) {number : Nat} {id : EventId}
    {backlog : List Event} (hq : p.queue? number = some (id, backlog)) :
    number ∈ p.targets event ↔ id.wants event.id = true := by
  obtain ⟨s, hs, _, rfl, _⟩ := queue?_eq_some_iff.mp hq
  have hmem := h.registered number _ hq
  simp [targets, hmem, hs]

theorem nodup_targets {p : Publisher} (h : Orderly p) (event : Event) : (p.targets event).Nodup :=
  h.registered_nodup.filter _

/-- An event reaches exactly the queues that want it. -/
theorem receives_publish {p : Publisher} (h : Orderly p) (event : Event) :
    Receives p (p.publish event) [event] := by
  unfold publish
  split
  · rename_i hnone
    -- nobody wants the event
    have hunwanted : ∀ number id backlog, p.queue? number = some (id, backlog) →
        id.wants event.id = false := by
      intro number id backlog hq
      have hiff := mem_targets_iff h event hq
      simpa [hnone] using hiff
    have hkept : ∀ number id backlog, p.queue? number = some (id, backlog) →
        ∃ earlier, p.queue? number = some (id, earlier) ∧
          backlog = earlier ++ [event].filter fun e => id.wants e.id := by
      intro number id backlog hq
      refine ⟨backlog, hq, ?_⟩
      simp [hunwanted number id backlog hq]
    split
    · exact ⟨h, rfl, hkept⟩
    · exact ⟨⟨h.issued, h.registered_issued, h.registered_nodup, h.registered⟩, rfl, hkept⟩
  · obtain ⟨hkeys, hregistered, hqueue⟩ := offers_spec p event (nodup_targets h event)
    refine ⟨h.of_sublist hkeys (hregistered ▸ List.Sublist.refl _) ?_, hkeys, ?_⟩
    · intro number queue hq
      rw [hqueue] at hq
      rw [hregistered]
      cases hp : p.queue? number with
      | none => simp [hp] at hq
      | some queue => exact h.registered number queue hp
    · intro number id backlog hq
      rw [hqueue] at hq
      cases hp : p.queue? number with
      | none => simp [hp] at hq
      | some queue =>
        obtain ⟨id', earlier⟩ := queue
        have hiff := mem_targets_iff h event hp
        by_cases hmem : number ∈ p.targets event
        · have hwants := hiff.mp hmem
          simp only [hp, hmem, if_true, Option.map_some, Option.some.injEq, Prod.mk.injEq] at hq
          obtain ⟨rfl, rfl⟩ := hq
          exact ⟨earlier, rfl, by simp [hwants]⟩
        · have hwants : id'.wants event.id = false := by simpa [hmem] using hiff
          simp only [hp, hmem, if_false, Option.some.injEq, Prod.mk.injEq] at hq
          obtain ⟨rfl, rfl⟩ := hq
          exact ⟨earlier, rfl, by simp [hwants]⟩

/-! ## Subscribers -/

def publishedBy : List Reaction → List Event
  | [] => []
  | .publish event :: more => event :: publishedBy more
  | .panic _ :: _ => []
  | _ :: more => publishedBy more

theorem receives_react {p : Publisher} (h : Orderly p) (number : Nat) (reactions : List Reaction) :
    Receives p (p.react number reactions).1 (publishedBy reactions) := by
  induction reactions generalizing p with
  | nil => exact Receives.refl h
  | cons reaction more ih =>
    cases reaction with
    | request n =>
      have hfirst := receives_request h number n
      exact hfirst.trans (ih hfirst.orderly)
    | cancel =>
      have hfirst := receives_cancel h number
      exact hfirst.trans (ih hfirst.orderly)
    | publish event =>
      have hfirst := receives_publish h event
      exact hfirst.trans (ih hfirst.orderly)
    | requestFor other n =>
      have hfirst := receives_request h other n
      exact hfirst.trans (ih hfirst.orderly)
    | cancelOf other =>
      have hfirst := receives_cancel h other
      exact hfirst.trans (ih hfirst.orderly)
    | panic reason => exact Receives.refl h

end BrokerRpc.Publisher
