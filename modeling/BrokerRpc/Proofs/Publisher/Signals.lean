import BrokerRpc.Proofs.Publisher.Registry

/-! # What subscribers are told

A subscriber is told of its subscription before anything else, then of events, and at last of at most
one end. What it was told fits the state of its subscription, and each step keeps that. A subscriber
may fail at an event long after it was handed over, when its subscription has ended for another
reason.
-/
namespace BrokerRpc

def Signal.isEnd : Signal → Bool
  | .error _ | .complete => true
  | .subscribed | .next _ => false

namespace Publisher

/-! ## Subscribers that fail late -/

inductive Occurrence where
  | operation (operation : Operation)
  /-- A subscriber fails at the event that it was handed last, and its job ends. What it did before,
  or others did meanwhile, comes between the delivery and the failure. -/
  | failure (number : Nat) (reason : String)

/-- What an occurrence leaves, and what subscribers are told. Where a job works for the subscription
its subscriber may fail at any time. -/
def occur (p : Publisher) : Occurrence → Publisher × List SignalNotice
  | .operation operation => ((perform p operation).after, (perform p operation).notices)
  | .failure number reason => if number ∈ p.jobs then p.failJob number reason else (p, [])

def proceed (p : Publisher) : List Occurrence → Publisher × List SignalNotice
  | [] => (p, [])
  | first :: rest =>
    let (q, notices) := p.occur first
    let (r, more) := q.proceed rest
    (r, notices ++ more)

/-! ## The order of signals -/

def heard (number : Nat) (notices : List SignalNotice) : List Signal :=
  notices.filterMap fun notice => if notice.1 = number then some notice.2 else none

@[simp] theorem heard_nil (number : Nat) : heard number [] = [] := rfl

theorem heard_append (number : Nat) (first rest : List SignalNotice) :
    heard number (first ++ rest) = heard number first ++ heard number rest :=
  List.filterMap_append

theorem heard_cons (number other : Nat) (signal : Signal) (rest : List SignalNotice) :
    heard number ((other, signal) :: rest) =
      (if number = other then [signal] else []) ++ heard number rest := by
  by_cases heq : other = number
  · simp [heard, heq]
  · have hne : ¬ number = other := fun e => heq e.symm
    simp [heard, heq, hne]

@[simp] theorem heard_map (number other : Nat) (signals : List Signal) :
    heard number (signals.map fun signal => (other, signal)) =
      if number = other then signals else [] := by
  induction signals with
  | nil => simp
  | cons first rest ih =>
    rw [List.map_cons, heard_cons, ih]
    split <;> rfl

/-- What a subscriber may be told up to some point: of its subscription, then of events, and of at
most one end after them. -/
def InOrder (signals : List Signal) : Prop :=
  ∃ events : List Event, ∃ ending : List Signal,
    signals = .subscribed :: (events.map .next ++ ending) ∧ ending.length ≤ 1 ∧
      ∀ signal ∈ ending, signal.isEnd = true

/-- What was told so far fits the state of the subscription: the flag says whether there was an end,
and after an end nothing goes on. -/
structure Fits (s : Subscription) (signals : List Signal) : Prop where
  in_order : InOrder signals
  terminated_eq : s.terminated = signals.any Signal.isEnd
  cancelled : s.terminated = true → s.cancelled = true

theorem fits_subscribed (id : EventId) (backlog : List Event) :
    Fits { id, backlog } [.subscribed] where
  in_order := ⟨[], [], rfl, Nat.zero_le _, fun _ h => absurd h List.not_mem_nil⟩
  terminated_eq := rfl
  cancelled := fun h => by cases h

namespace Fits

variable {s s' : Subscription} {signals : List Signal}

theorem of_flags (h : Fits s signals) (hterminated : s'.terminated = s.terminated)
    (hcancelled : s.cancelled = true → s'.cancelled = true) : Fits s' signals where
  in_order := h.in_order
  terminated_eq := hterminated.trans h.terminated_eq
  cancelled := fun ht => hcancelled (h.cancelled (hterminated ▸ ht))

theorem events (h : Fits s signals) (hgoes : s.terminated = false) :
    ∃ events : List Event, signals = .subscribed :: events.map .next := by
  obtain ⟨events, ending, rfl, _, hend⟩ := h.in_order
  cases ending with
  | nil => exact ⟨events, by rw [List.append_nil]⟩
  | cons last rest =>
    have hany : (Signal.subscribed :: (events.map Signal.next ++ last :: rest)).any Signal.isEnd =
        true := by
      simp [hend last List.mem_cons_self]
    cases (h.terminated_eq.trans hany).symm.trans hgoes

theorem goes_on (h : Fits s signals) (hlive : s.cancelled = false) : s.terminated = false := by
  cases ht : s.terminated with
  | false => rfl
  | true => cases hlive.symm.trans (h.cancelled ht)

theorem next (h : Fits s signals) (hlive : s.cancelled = false) (event : Event)
    (hterminated : s'.terminated = s.terminated) : Fits s' (signals ++ [.next event]) := by
  have hgoes := h.goes_on hlive
  obtain ⟨events, rfl⟩ := h.events hgoes
  refine ⟨⟨events ++ [event], [], by simp, Nat.zero_le _, fun _ h => absurd h List.not_mem_nil⟩,
    ?_, fun ht => ?_⟩
  · rw [hterminated, hgoes]
    simp [Signal.isEnd]
  · cases (hterminated.trans hgoes).symm.trans ht

theorem ending (h : Fits s signals) {signal : Signal} (hend : signal.isEnd = true)
    (hterminated : s'.terminated = true) (hcancelled : s'.cancelled = true) :
    Fits s' (signals ++ if s.terminated then [] else [signal]) := by
  cases ht : s.terminated with
  | true =>
    simp only [if_true, List.append_nil]
    exact ⟨h.in_order, by rw [hterminated, ← h.terminated_eq, ht], fun _ => hcancelled⟩
  | false =>
    obtain ⟨events, rfl⟩ := h.events ht
    simp only [Bool.false_eq_true, if_false]
    refine ⟨⟨events, [signal], rfl, Nat.le_refl _, fun other hmem => ?_⟩, ?_, fun _ => hcancelled⟩
    · rw [List.mem_singleton.mp hmem]
      exact hend
    · rw [hterminated]
      simp [hend]

end Fits

/-! ## What a step tells -/

/-- What one subscriber was told fits the publisher; whoever has no subscription was told nothing. -/
def Spoken (p : Publisher) (number : Nat) (signals : List Signal) : Prop :=
  match p.subscriptions.get? number with
  | some s => Fits s signals
  | none => signals = []

theorem spoken_of_some {p : Publisher} {number : Nat} {s : Subscription}
    (hs : p.subscriptions.get? number = some s) {signals : List Signal} :
    Spoken p number signals ↔ Fits s signals := by
  unfold Spoken
  rw [hs]

theorem spoken_of_none {p : Publisher} {number : Nat}
    (hs : p.subscriptions.get? number = none) {signals : List Signal} :
    Spoken p number signals ↔ signals = [] := by
  unfold Spoken
  rw [hs]

def Ended (p : Publisher) (number : Nat) : Prop :=
  ∃ s, p.subscriptions.get? number = some s ∧ s.cancelled = true

/-- Between two states of a publisher subscribers were told so much: it fits what they were told
before, and nobody who had ended before was told of an event. -/
structure Speaks (p : Publisher) (notices : List SignalNotice) (q : Publisher) : Prop where
  known : ∀ number ∈ p.subscriptions.keys, number ∈ q.subscriptions.keys
  spoken : ∀ number signals, Spoken p number signals →
    Spoken q number (signals ++ heard number notices)
  ended : ∀ number, Ended p number →
    Ended q number ∧ ∀ event, Signal.next event ∉ heard number notices

namespace Speaks

theorem refl (p : Publisher) : Speaks p [] p where
  known := fun _ h => h
  spoken := fun _ _ h => by simpa using h
  ended := fun _ h => ⟨h, fun _ => List.not_mem_nil⟩

theorem trans {p q r : Publisher} {first rest : List SignalNotice} (h : Speaks p first q)
    (h' : Speaks q rest r) : Speaks p (first ++ rest) r := by
  refine ⟨fun number hmem => h'.known number (h.known number hmem), ?_, ?_⟩
  · intro number signals hp
    rw [heard_append, ← List.append_assoc]
    exact h'.spoken number _ (h.spoken number signals hp)
  · intro number hp
    obtain ⟨hq, hfirst⟩ := h.ended number hp
    obtain ⟨hr, hrest⟩ := h'.ended number hq
    refine ⟨hr, fun event hmem => ?_⟩
    rw [heard_append, List.mem_append] at hmem
    exact hmem.elim (hfirst event) (hrest event)

theorem of_change {p : Publisher} {number : Nat} {s s' : Subscription}
    (hs : p.subscriptions.get? number = some s) (signals : List Signal)
    (hfits : ∀ earlier, Fits s earlier → Fits s' (earlier ++ signals))
    (hended : s.cancelled = true → s'.cancelled = true ∧ ∀ event, .next event ∉ signals) :
    Speaks p (signals.map fun signal => (number, signal)) (p.change number fun _ => s') := by
  refine ⟨fun other hmem => (keys_change p number _).symm ▸ hmem, fun other earlier hp => ?_,
    fun other hp => ?_⟩
  · rw [heard_map]
    unfold Spoken at hp ⊢
    rw [get?_change]
    by_cases heq : other = number
    · subst heq
      rw [hs] at hp ⊢
      simpa using hfits earlier hp
    · simpa [heq] using hp
  · obtain ⟨found, hfound, hcancelled⟩ := hp
    unfold Ended
    rw [heard_map, get?_change]
    by_cases heq : other = number
    · subst heq
      obtain rfl := Option.some.inj (hs.symm.trans hfound)
      simpa [hs] using hended hcancelled
    · simpa [heq] using ⟨found, hfound, hcancelled⟩

theorem of_silent {p q : Publisher}
    (hnone : ∀ number, p.subscriptions.get? number = none → q.subscriptions.get? number = none)
    (hsome : ∀ number s, p.subscriptions.get? number = some s →
      ∃ s', q.subscriptions.get? number = some s' ∧ s'.terminated = s.terminated ∧
        (s.cancelled = true → s'.cancelled = true)) : Speaks p [] q := by
  refine ⟨fun number hmem => ?_, fun number signals hp => ?_, fun number hp => ?_⟩
  · obtain ⟨s, hs⟩ := Assoc.mem_keys_iff.mp hmem
    obtain ⟨s', hs', _⟩ := hsome number s hs
    exact Assoc.mem_keys_of_get? hs'
  · rw [heard_nil, List.append_nil]
    cases hs : p.subscriptions.get? number with
    | none => exact (spoken_of_none (hnone number hs)).mpr ((spoken_of_none hs).mp hp)
    | some s =>
      obtain ⟨s', hs', hterminated, hcancelled⟩ := hsome number s hs
      exact (spoken_of_some hs').mpr (((spoken_of_some hs).mp hp).of_flags hterminated hcancelled)
  · obtain ⟨s, hs, hended⟩ := hp
    obtain ⟨s', hs', _, hcancelled⟩ := hsome number s hs
    exact ⟨⟨s', hs', hcancelled hended⟩, fun _ => List.not_mem_nil⟩

theorem of_eq {p q : Publisher} (h : q.subscriptions = p.subscriptions) : Speaks p [] q :=
  of_silent (fun _ hs => h ▸ hs) fun _ s hs => ⟨s, h ▸ hs, rfl, fun hc => hc⟩

end Speaks

theorem speaks_change (p : Publisher) (number : Nat) {f : Subscription → Subscription}
    (hf : ∀ s, p.subscriptions.get? number = some s →
      (f s).terminated = s.terminated ∧ (s.cancelled = true → (f s).cancelled = true)) :
    Speaks p [] (p.change number f) := by
  refine Speaks.of_silent (fun other hs => ?_) fun other s hs => ?_
  · rw [get?_change, hs]
    simp
  · rw [get?_change, hs]
    split
    · rename_i heq
      exact ⟨f s, rfl, hf s (heq ▸ hs)⟩
    · exact ⟨s, rfl, rfl, fun hc => hc⟩

theorem speaks_schedule (p : Publisher) (number : Nat) : Speaks p [] (p.schedule number) := by
  rcases schedule_cases p number with he | he
  · rw [he]
    exact Speaks.refl p
  · rw [he]
    exact (speaks_change p number (f := fun s => { s with draining := true })
      fun _ _ => ⟨rfl, fun hc => hc⟩).trans (Speaks.of_eq rfl)

theorem speaks_request (p : Publisher) (number n : Nat) : Speaks p [] (p.request number n) := by
  unfold request
  split
  · exact Speaks.refl p
  · exact (speaks_change p number (f := (·.grant n)) fun _ _ => ⟨rfl, fun hc => hc⟩).trans
      (speaks_schedule _ number)

theorem speaks_cancel (p : Publisher) (number : Nat) : Speaks p [] (p.cancel number) :=
  (speaks_change p number (f := Subscription.cancel) fun _ _ => ⟨rfl, fun _ => rfl⟩).trans
    (Speaks.of_eq rfl)

theorem speaks_offer (p : Publisher) (event : Event) (number : Nat) :
    Speaks p [] (p.offer event number) := by
  refine (speaks_change p number (f := (·.offer event)) fun s _ => ?_).trans
    (speaks_schedule _ number)
  unfold Subscription.offer
  split <;> exact ⟨rfl, fun hc => hc⟩

theorem speaks_publish (p : Publisher) (event : Event) : Speaks p [] (p.publish event) :=
  publish_along (R := fun p q => Speaks p [] q) Speaks.refl Speaks.trans speaks_offer
    (fun _ _ _ _ => Speaks.of_eq rfl) p event

theorem speaks_react (p : Publisher) (number : Nat) (reactions : List Reaction) :
    Speaks p [] (p.react number reactions).1 :=
  react_along (R := fun p q => Speaks p [] q) Speaks.refl Speaks.trans speaks_request
    speaks_cancel speaks_publish p number reactions

theorem speaks_purge (p : Publisher) (now : Timestamp) : Speaks p [] (p.purge now) := by
  refine Speaks.of_silent (fun number hs => ?_) fun number s hs => ?_
  · rw [get?_purge, hs]
    rfl
  · rw [get?_purge, hs]
    refine ⟨_, rfl, ?_⟩
    split <;> exact ⟨rfl, fun hc => hc⟩

theorem speaks_enrol {p : Publisher} (h : Orderly p) (id : EventId) :
    Speaks p [(p.subscriptions.length, .subscribed)] (p.enrol id).2 := by
  have hget := get?_enrol h.issued id
  have hold : ∀ number ∈ p.subscriptions.keys, number ≠ p.subscriptions.length :=
    fun number hmem => Nat.ne_of_lt (h.issued number hmem)
  have hheard : ∀ number, heard number [(p.subscriptions.length, Signal.subscribed)] =
      if number = p.subscriptions.length then [.subscribed] else [] :=
    fun number => heard_map number _ [.subscribed]
  refine ⟨fun number hmem => ?_, fun number signals hp => ?_, fun number hp => ?_⟩
  · rw [keys_enrol]
    exact List.mem_append_left _ hmem
  · unfold Spoken
    rw [hget, hheard]
    by_cases hnew : number = p.subscriptions.length
    · -- under a number that was not given yet nobody was told anything
      have hnone : p.subscriptions.get? number = none :=
        Assoc.get?_eq_none_iff.mpr fun hmem => hold number hmem hnew
      rw [(spoken_of_none hnone).mp hp]
      simpa [hnew] using fits_subscribed id _
    · rw [if_neg hnew, if_neg hnew, List.append_nil]
      exact hp
  · obtain ⟨s, hs, hcancelled⟩ := hp
    have hne := hold number (Assoc.mem_keys_of_get? hs)
    rw [hheard, if_neg hne]
    exact ⟨⟨s, by rw [hget, if_neg hne, hs], hcancelled⟩, fun _ => List.not_mem_nil⟩

theorem speaks_takeNext (p : Publisher) (number : Nat) :
    Speaks p ((p.takeNext number).2.toList.map fun event => (number, Signal.next event))
      (p.takeNext number).1 := by
  rcases takeNext_cases p number with ⟨_, ht⟩ | ⟨s, hs, _, ht⟩ | ⟨s, event, rest, hs, hready, _, ht⟩
  all_goals rw [ht]
  · exact Speaks.of_eq rfl
  · have hidle : Speaks p [] (p.change number fun _ => { s with draining := false }) :=
      speaks_change p number (forall_found hs ⟨rfl, fun hc => hc⟩)
    exact hidle.trans (Speaks.of_eq rfl)
  · -- whoever is handed an event has not ended, by a signal or without one
    have hlive := live_of_ready hready
    refine Speaks.of_change hs [.next event]
      (fun earlier hfits => hfits.next hlive event rfl) fun hc => ?_
    cases hlive.symm.trans hc

theorem speaks_failJob (p : Publisher) (number : Nat) (reason : String) :
    Speaks p (p.failJob number reason).2 (p.failJob number reason).1 := by
  rcases failJob_cases p number reason with ⟨_, hf⟩ | ⟨s, hs, hf⟩
  all_goals rw [hf]
  · exact Speaks.of_eq rfl
  · have hchange : Speaks p _ (p.change number fun _ => (s.fail (.subscriberFailed reason)).1) :=
      Speaks.of_change hs (s.fail (.subscriberFailed reason)).2
        (fun earlier hfits => hfits.ending rfl rfl rfl)
        fun _ => ⟨rfl, fun event => by cases ht : s.terminated <;> simp [Subscription.fail, ht]⟩
    have hall := hchange.trans (Speaks.of_eq (q := { p.change number
      (fun _ => (s.fail (.subscriberFailed reason)).1) with jobs := p.jobs.erase number }) rfl)
    rwa [List.append_nil] at hall

theorem speaks_finishAll (p : Publisher) (numbers : List Nat) :
    Speaks p (p.finishAll numbers).2 (p.finishAll numbers).1 := by
  induction numbers generalizing p with
  | nil => exact Speaks.refl p
  | cons first rest ih =>
    unfold finishAll
    split
    · exact ih p
    · rename_i s hs
      refine Speaks.trans (Speaks.of_change hs s.finish.2
        (fun earlier hfits => hfits.ending rfl rfl rfl) fun _ => ⟨rfl, fun event => ?_⟩) (ih _)
      cases s.terminated <;> simp [Subscription.finish]

theorem speaks_close (p : Publisher) : Speaks p p.close.2 p.close.1 := by
  unfold close
  split
  · exact Speaks.refl p
  · have hempty : Speaks p [] { p with closed := true, registered := [], unclaimed := [] } :=
      Speaks.of_eq rfl
    exact hempty.trans (speaks_finishAll _ _)

theorem speaks_deliver (p : Publisher) (number : Nat) (reactions : List Reaction) :
    Speaks p (deliver (fun _ => { onNext := fun _ => reactions }) p number).2
      (deliver (fun _ => { onNext := fun _ => reactions }) p number).1 := by
  have htake := speaks_takeNext p number
  rcases deliver_steps p number reactions with ⟨q, ht, he⟩ | ⟨q, event, ht, hstep⟩
  · rw [he]
    rw [ht] at htake
    exact htake
  rw [ht] at htake
  have hreact := htake.trans (speaks_react q number reactions)
  rcases hstep with ⟨r, hr, he⟩ | ⟨r, reason, hr, he⟩
  · rw [he]
    rw [hr] at hreact
    exact hreact
  · rw [he]
    rw [hr] at hreact
    exact hreact.trans (speaks_failJob r number reason)

theorem speaks_subscribe {p q : Publisher} (h : Orderly p) {text : String}
    {subscriber : Subscriber} {number : Nat} {notices : List SignalNotice}
    (hs : p.subscribe text subscriber = .ok (number, q, notices)) : Speaks p notices q := by
  obtain ⟨id, _, _, _, rfl, rfl, rfl⟩ := subscribe_eq_ok_iff.mp hs
  have hreact := (speaks_enrol h id).trans
    (speaks_react _ p.subscriptions.length subscriber.onSubscribe)
  exact hreact.trans (speaks_schedule _ p.subscriptions.length)

theorem speaks_perform {p : Publisher} (h : Orderly p) (operation : Operation) :
    Speaks p (perform p operation).notices (perform p operation).after := by
  cases operation with
  | publish event => exact speaks_publish p event
  | subscribe text reactions =>
    simp only [perform]
    split
    · rename_i hs
      exact speaks_subscribe h hs
    · exact Speaks.refl p
  | request number n => exact speaks_request p number n
  | cancel number => exact speaks_cancel p number
  | purge now => exact speaks_purge p now
  | close => exact speaks_close p
  | deliver number reactions =>
    simp only [perform]
    split
    · exact speaks_deliver p number reactions
    · exact Speaks.refl p

theorem speaks_occur {p : Publisher} (h : Orderly p) (occurrence : Occurrence) :
    Speaks p (p.occur occurrence).2 (p.occur occurrence).1 := by
  cases occurrence with
  | operation operation => exact speaks_perform h operation
  | failure number reason =>
    simp only [occur]
    split
    · exact speaks_failJob p number reason
    · exact Speaks.refl p

end Publisher
end BrokerRpc
