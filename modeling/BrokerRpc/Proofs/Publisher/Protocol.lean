import BrokerRpc.Proofs.Publisher.Signals

/-! # What subscribers can rely on

Once a subscriber has given up it is told nothing more of events. One that fails is told so, unless it
was told of an end before. A close tells everyone who goes on, nobody twice, and is final.
-/
namespace BrokerRpc.Publisher

/-! ## Runs -/

structure Consistent (p : Publisher) : Prop where
  orderly : Orderly p
  staffed : Staffed p []
  informed : Informed p
  filed : Filed p

theorem consistent_new (retention : Duration) : Consistent (new retention) where
  orderly := orderly_new retention
  staffed := staffed_new retention
  informed := fun _ hmem => absurd hmem List.not_mem_nil
  filed := filed_new retention

namespace Consistent

variable {p : Publisher}

theorem perform (h : Consistent p) (operation : Operation) :
    Consistent (Publisher.perform p operation).after where
  orderly := (perform_sound h.orderly operation).orderly
  staffed := staffed_perform h.staffed operation
  informed :=
    (custody_perform h.orderly operation).informed ((before_perform p operation).symm ▸ h.informed)
  filed := (shelves_perform h.orderly operation).filed h.filed

theorem failJob (h : Consistent p) (number : Nat) (reason : String) :
    Consistent (p.failJob number reason).1 := by
  have hjobs : ∀ {q : Publisher} (jobs : List Nat), Orderly q → Orderly { q with jobs } :=
    fun {q} jobs hq => (receives_of_queue_eq (q := { q with jobs }) hq rfl rfl fun _ => rfl).orderly
  have hkept : Orderly (p.failJob number reason).1 ∧ Informed (p.failJob number reason).1 := by
    rcases failJob_cases p number reason with ⟨_, hf⟩ | ⟨s, _, hf⟩
    all_goals rw [hf]
    · exact ⟨hjobs _ h.orderly, h.informed⟩
    -- whoever fails stays registered, and is told
    · have hchange := keeps_change p number
        (f := fun _ => (s.fail (.subscriberFailed reason)).1) fun _ _ _ _ => rfl
      exact ⟨hjobs _ (receives_change_ended h.orderly number rfl).orderly,
        hchange.informed h.informed⟩
  exact ⟨hkept.1, h.staffed.failJob number reason, hkept.2,
    (shelves_failJob p number reason).filed h.filed⟩

theorem occur (h : Consistent p) (occurrence : Occurrence) :
    Consistent (p.occur occurrence).1 := by
  cases occurrence with
  | operation operation => exact h.perform operation
  | failure number reason =>
    simp only [Publisher.occur]
    split
    · exact h.failJob number reason
    · exact h

theorem proceed (h : Consistent p) (occurrences : List Occurrence) :
    Consistent (p.proceed occurrences).1 := by
  induction occurrences generalizing p with
  | nil => exact h
  | cons first rest ih => exact ih (h.occur first)

end Consistent

theorem speaks_proceed {p : Publisher} (h : Consistent p) (occurrences : List Occurrence) :
    Speaks p (p.proceed occurrences).2 (p.proceed occurrences).1 := by
  induction occurrences generalizing p with
  | nil => exact Speaks.refl p
  | cons first rest ih => exact (speaks_occur h.orderly first).trans (ih (h.occur first))

theorem spoken_proceed (retention : Duration) (occurrences : List Occurrence) (number : Nat) :
    Spoken ((new retention).proceed occurrences).1 number
      (heard number ((new retention).proceed occurrences).2) :=
  (speaks_proceed (consistent_new retention) occurrences).spoken number [] rfl

/-! ## Giving up -/

/-- Whether a subscriber gives up a subscription by its reactions; its own has the number `own`. A
panic ends them. -/
def givesUp (number own : Nat) : List Reaction → Bool
  | [] => false
  | .cancel :: more => decide (own = number) || givesUp number own more
  | .cancelOf other :: more => decide (other = number) || givesUp number own more
  | .panic _ :: _ => false
  | _ :: more => givesUp number own more

/-- Whether a subscription is given up at that moment. A subscriber that is told nothing gives up
nothing. -/
def Moment.givesUp (m : Moment) (number : Nat) : Bool :=
  match m.operation with
  | .cancel other => decide (other = number)
  | .subscribe _ reactions =>
    !m.notices.isEmpty && Publisher.givesUp number m.before.subscriptions.length reactions
  | .deliver other reactions => !m.notices.isEmpty && Publisher.givesUp number other reactions
  | _ => false

theorem ended_cancel {p : Publisher} {number : Nat} (h : number ∈ p.subscriptions.keys) :
    Ended (p.cancel number) number := by
  obtain ⟨s, hs⟩ := Assoc.mem_keys_iff.mp h
  have hget := get?_change p number number Subscription.cancel
  rw [if_pos rfl, hs] at hget
  exact ⟨s.cancel, hget, rfl⟩

theorem ended_react {p : Publisher} {number own : Nat} {reactions : List Reaction}
    (h : givesUp number own reactions = true) (hknown : number ∈ p.subscriptions.keys) :
    Ended (p.react own reactions).1 number := by
  induction reactions generalizing p with
  | nil => cases h
  | cons reaction more ih =>
    -- what one reaction gives up stays so through the others
    have hcancel : ∀ other, (decide (other = number) || givesUp number own more) = true →
        Ended ((p.cancel other).react own more).1 number := by
      intro other hgives
      by_cases heq : other = number
      · subst heq
        exact ((speaks_react _ own more).ended other (ended_cancel hknown)).1
      · exact ih (by simpa [heq] using hgives) ((speaks_cancel p other).known number hknown)
    cases reaction with
    | request n => exact ih h ((speaks_request p own n).known number hknown)
    | cancel => exact hcancel own h
    | publish event => exact ih h ((speaks_publish p event).known number hknown)
    | requestFor other n => exact ih h ((speaks_request p other n).known number hknown)
    | cancelOf other => exact hcancel other h
    | panic reason => cases h

theorem keys_deliver {p : Publisher} (h : Orderly p) (number : Nat) (reactions : List Reaction) :
    (deliver (fun _ => { onNext := fun _ => reactions }) p number).1.subscriptions.keys =
      p.subscriptions.keys := by
  rcases deliver_cases h number reactions with ⟨_, hreceives⟩ | ⟨event, failures, _, hdelivers⟩
  · exact hreceives.keys_eq
  · exact hdelivers.keys_eq

theorem ended_deliver {p : Publisher} {number own : Nat} {reactions : List Reaction}
    (h : givesUp number own reactions = true) (hknown : number ∈ p.subscriptions.keys)
    (htold : (deliver (fun _ => { onNext := fun _ => reactions }) p own).2 ≠ []) :
    Ended (deliver (fun _ => { onNext := fun _ => reactions }) p own).1 number := by
  have htake := speaks_takeNext p own
  rcases deliver_steps p own reactions with ⟨q, ht, he⟩ | ⟨q, event, ht, hstep⟩
  · rw [he] at htold
    exact absurd rfl htold
  rw [ht] at htake
  have hended := ended_react h (htake.known number hknown)
  rcases hstep with ⟨r, hr, he⟩ | ⟨r, reason, hr, he⟩
  · rw [he]
    rw [hr] at hended
    exact hended
  · rw [he]
    rw [hr] at hended
    exact ((speaks_failJob r own reason).ended number hended).1

theorem ended_perform {p : Publisher} (h : Orderly p) {operation : Operation} {number : Nat}
    (hgives : (perform p operation).givesUp number = true)
    (hknown : number ∈ (perform p operation).after.subscriptions.keys) :
    Ended (perform p operation).after number := by
  cases operation with
  | cancel other =>
    obtain rfl : other = number := of_decide_eq_true hgives
    exact ended_cancel (keys_change p other Subscription.cancel ▸ hknown)
  | subscribe text reactions =>
    simp only [perform] at hgives hknown ⊢
    split at hgives
    · rename_i hs
      simp only [hs] at hknown ⊢
      obtain ⟨id, _, _, _, rfl, rfl, rfl⟩ := subscribe_eq_ok_iff.mp hs
      rw [keys_schedule, (receives_react (orderly_enrol h id) _ reactions).keys_eq] at hknown
      have hreact := ended_react hgives hknown
      exact ((speaks_schedule _ p.subscriptions.length).ended number hreact).1
    · cases hgives
  | deliver other reactions =>
    simp only [perform] at hgives hknown ⊢
    split at hgives
    · rename_i hjob
      simp only [if_pos hjob] at hknown ⊢
      rw [keys_deliver h] at hknown
      simp only [Moment.givesUp, Bool.and_eq_true, Bool.not_eq_true',
        List.isEmpty_eq_false_iff] at hgives
      exact ended_deliver hgives.2 hknown hgives.1
    · cases hgives
  | publish event => cases hgives
  | request other n => cases hgives
  | purge now => cases hgives
  | close => cases hgives

/-! ## Failures -/

def panicOf : List Reaction → Option String
  | [] => none
  | .panic reason :: _ => some reason
  | _ :: more => panicOf more

theorem react_snd (p : Publisher) (number : Nat) (reactions : List Reaction) :
    (p.react number reactions).2 = panicOf reactions := by
  induction reactions generalizing p with
  | nil => rfl
  | cons reaction more ih =>
    cases reaction with
    | panic reason => rfl
    | _ => exact ih _

theorem heard_failJob {p : Publisher} {number : Nat} {signals : List Signal}
    (h : Spoken p number signals) (hknown : number ∈ p.subscriptions.keys) (reason : String) :
    heard number (p.failJob number reason).2 =
      if signals.any Signal.isEnd then [] else [.error (.subscriberFailed reason)] := by
  rcases failJob_cases p number reason with ⟨hnone, _⟩ | ⟨s, hs, hf⟩
  · exact absurd hknown (Assoc.get?_eq_none_iff.mp hnone)
  · rw [hf, heard_map, if_pos rfl, ← ((spoken_of_some hs).mp h).terminated_eq]
    rfl

/-- A subscriber that is handed an event is told of its own failure at it, and of nothing else. -/
theorem heard_deliver {p : Publisher} {number : Nat} {signals : List Signal}
    (h : Spoken p number signals) {reactions : List Reaction} {event : Event}
    (hmem : .next event ∈
      heard number (deliver (fun _ => { onNext := fun _ => reactions }) p number).2) :
    heard number (deliver (fun _ => { onNext := fun _ => reactions }) p number).2 =
      .next event ::
        ((panicOf reactions).map fun reason => Signal.error (.subscriberFailed reason)).toList := by
  have htake := speaks_takeNext p number
  rcases deliver_steps p number reactions with ⟨q, ht, he⟩ | ⟨q, first, ht, hstep⟩
  · rw [he] at hmem
    exact absurd hmem List.not_mem_nil
  obtain ⟨s, hs, hready⟩ := ready_of_takeNext ht
  -- no end was told before, or the subscription would not be ready
  have hnone : (signals ++ [Signal.next first]).any Signal.isEnd = false := by
    have hfits := (spoken_of_some hs).mp h
    simp [← hfits.terminated_eq, hfits.goes_on (live_of_ready hready), Signal.isEnd]
  rw [ht] at htake
  have hreact := htake.trans (speaks_react q number reactions)
  have hknown := hreact.known number (Assoc.mem_keys_of_get? hs)
  have hspoken : Spoken (q.react number reactions).1 number (signals ++ [.next first]) := by
    simpa [heard_cons] using hreact.spoken number signals h
  rw [← react_snd q number reactions]
  rcases hstep with ⟨r, hr, he⟩ | ⟨r, reason, hr, he⟩
  · rw [he, heard_cons, if_pos rfl, heard_nil, List.append_nil] at hmem ⊢
    rw [List.mem_singleton.mp hmem, hr]
    rfl
  · rw [hr] at hknown hspoken
    have hfail := heard_failJob hspoken hknown reason
    rw [hnone] at hfail
    rw [he, heard_cons, if_pos rfl, hfail] at hmem ⊢
    obtain rfl : event = first := by simpa using hmem
    rw [hr]
    rfl

/-! ## Close -/

def farewell (p : Publisher) (number : Nat) : List Signal :=
  match p.subscriptions.get? number with
  | some s => s.finish.2
  | none => []

theorem heard_finishAll {p : Publisher} {numbers : List Nat} (h : numbers.Nodup) (number : Nat) :
    heard number (p.finishAll numbers).2 = if number ∈ numbers then p.farewell number else [] := by
  induction numbers generalizing p with
  | nil => simp [finishAll]
  | cons first rest ih =>
    obtain ⟨hfirst, hrest⟩ := List.nodup_cons.mp h
    unfold finishAll
    split
    · rename_i hnone
      rw [ih hrest]
      by_cases heq : number = first
      · subst heq
        simp [farewell, hnone]
      · simp [heq]
    · rename_i s hs
      rw [heard_append, heard_map, ih hrest]
      unfold farewell
      rw [get?_change]
      by_cases heq : number = first
      · subst heq
        simp [hfirst, hs]
      · simp [heq]

theorem heard_close {p : Publisher} (h : Consistent p) (hopen : p.closed = false) {number : Nat}
    {signals : List Signal} (hspoken : Spoken p number signals) :
    heard number p.close.2 = if p.isCancelled number then [] else [.complete] := by
  unfold close
  rw [if_neg (by simp [hopen]), heard_finishAll h.orderly.registered_nodup]
  unfold farewell isCancelled
  cases hs : p.subscriptions.get? number with
  | none => simp
  | some s =>
    have hfits := (spoken_of_some hs).mp hspoken
    cases hc : s.cancelled with
    | true =>
      -- whoever has ended and is registered still was told so before
      split
      · rename_i hmem
        simp [Subscription.finish, h.informed number hmem s hs hc]
      · rfl
    | false =>
      have hqueue : p.queue? number = some (s.id, s.backlog) :=
        queue?_eq_some_iff.mpr ⟨s, hs, hc, rfl, rfl⟩
      simp [h.orderly.registered number _ hqueue, Subscription.finish, hfits.goes_on hc, hc]

theorem closed_close (p : Publisher) : p.close.1.closed = true := by
  unfold close
  split
  · assumption
  · exact finishAll_along (R := fun p q => p.closed = true → q.closed = true) (fun _ h => h)
      (fun h h' hp => h' (h hp)) (fun _ _ _ _ h => h) _ _ rfl

theorem closed_occur {p : Publisher} (h : Consistent p) (hclosed : p.closed = true)
    (occurrence : Occurrence) : (p.occur occurrence).1.closed = true := by
  cases occurrence with
  | operation operation => exact (shelves_perform h.orderly operation).closed hclosed
  | failure number reason =>
    simp only [occur]
    split
    · exact (shelves_failJob p number reason).closed hclosed
    · exact hclosed

theorem closed_proceed {p : Publisher} (h : Consistent p) (hclosed : p.closed = true)
    (occurrences : List Occurrence) : (p.proceed occurrences).1.closed = true := by
  induction occurrences generalizing p with
  | nil => exact hclosed
  | cons first rest ih => exact ih (h.occur first) (closed_occur h hclosed first)

structure Shut (p : Publisher) : Prop where
  close_eq : p.close = (p, [])
  subscribe_eq : ∀ text subscriber, p.subscribe text subscriber = .error .closed
  publish_eq : ∀ event, p.publish event = p
  subscriberCount_eq : p.subscriberCount = 0
  unclaimedCount_eq : p.unclaimedCount = 0

theorem Consistent.shut {p : Publisher} (h : Consistent p) (hclosed : p.closed = true) : Shut p := by
  obtain ⟨hregistered, hunclaimed⟩ := h.filed.emptied hclosed
  refine ⟨by simp [close, hclosed], fun text subscriber => by simp [subscribe, hclosed],
    fun event => ?_, by simp [subscriberCount, hregistered], by simp [unclaimedCount, hunclaimed]⟩
  have hnone : p.targets event = [] := by simp [targets, hregistered, Assoc.values]
  simp [publish, hnone, hclosed]

/-- What every subscriber can rely on, whatever happens and however long its job is held back. It is
told of its subscription first, then of events, and at last of at most one end; whoever has no
subscription is told nothing. A subscription that is accepted is told so at once. Whoever has given up
is handed no event later. A subscriber that fails is told so unless it was told of an end before, also
where it fails late. A close tells everyone who goes on, and after it nothing comes in any more. -/
theorem subscriber_protocol (retention : Duration) (occurrences : List Occurrence) :
    let p := ((new retention).proceed occurrences).1
    let told := fun number => heard number ((new retention).proceed occurrences).2
    (∀ number, if number ∈ p.subscriptions.keys then InOrder (told number) else told number = []) ∧
    (∀ text reactions number q notices,
      p.subscribe text { onSubscribe := reactions } = .ok (number, q, notices) →
        number ∉ p.subscriptions.keys ∧ number ∈ q.subscriptions.keys ∧
        p.occur (.operation (.subscribe text reactions)) = (q, [(number, .subscribed)])) ∧
    (∀ operation number, (perform p operation).givesUp number = true →
      number ∈ (perform p operation).after.subscriptions.keys →
      ∀ more event, .next event ∉ heard number ((perform p operation).after.proceed more).2) ∧
    (∀ number reactions event,
      .next event ∈ heard number (perform p (.deliver number reactions)).notices →
        heard number (perform p (.deliver number reactions)).notices = .next event ::
          ((panicOf reactions).map fun reason => Signal.error (.subscriberFailed reason)).toList) ∧
    (∀ number reason, number ∈ p.jobs → heard number (p.occur (.failure number reason)).2 =
      if (told number).any Signal.isEnd then [] else [.error (.subscriberFailed reason)]) ∧
    (p.closed = false → ∀ number,
      heard number p.close.2 = if p.isCancelled number then [] else [.complete]) ∧
    ∀ more, Shut (p.close.1.proceed more).1 := by
  intro p told
  have hconsistent : Consistent p := (consistent_new retention).proceed occurrences
  have hspoken : ∀ number, Spoken p number (told number) := spoken_proceed retention occurrences
  refine ⟨fun number => ?_, fun text reactions number q notices hs => ?_,
    fun operation number hgives hknown more event => ?_, fun number reactions event hmem => ?_,
    fun number reason hjob => ?_, fun hopen number => ?_, fun more => ?_⟩
  · split
    · rename_i hmem
      obtain ⟨s, hs⟩ := Assoc.mem_keys_iff.mp hmem
      exact ((spoken_of_some hs).mp (hspoken number)).in_order
    · rename_i hnone
      exact (spoken_of_none (Assoc.get?_eq_none_iff.mpr hnone)).mp (hspoken number)
  · obtain ⟨id, hparse, rfl, rfl, hreceives⟩ := receives_subscribe hconsistent.orderly hs
    refine ⟨fun hmem => absurd (hconsistent.orderly.issued _ hmem) (Nat.lt_irrefl _), ?_, ?_⟩
    · rw [hreceives.keys_eq, keys_enrol]
      simp
    · simp [occur, perform, hs]
  · have hafter := hconsistent.perform operation
    have hended := ended_perform hconsistent.orderly hgives hknown
    exact ((speaks_proceed hafter more).ended number hended).2 event
  · simp only [perform] at hmem ⊢
    split at hmem
    · rename_i hjob
      simp only [if_pos hjob]
      exact heard_deliver (hspoken number) hmem
    · exact absurd hmem List.not_mem_nil
  · simp only [occur, if_pos hjob]
    exact heard_failJob (hspoken number) (hconsistent.staffed.known number hjob) reason
  · exact heard_close hconsistent hopen (hspoken number)
  · have hclose : Consistent p.close.1 := hconsistent.perform .close
    exact (hclose.proceed more).shut (closed_proceed hclose (closed_close p) more)

/-- The publisher is closed while the subscriber is busy with the event at which it fails. -/
example :
    let event : Event := ⟨⟨"peer", "editor", "saved", "7"⟩, .null, 0⟩
    heard 0 ((new ⟨20⟩).proceed [.operation (.subscribe "peer|*|saved|7" [.request 1]),
      .operation (.publish event), .operation (.deliver 0 []), .operation .close,
      .failure 0 "too late"]).2 = [.subscribed, .next event, .complete] := by decide

end BrokerRpc.Publisher
