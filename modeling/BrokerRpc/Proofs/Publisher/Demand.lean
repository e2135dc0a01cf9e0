import BrokerRpc.Proofs.Publisher.Delivery
import BrokerRpc.Proofs.Publisher.Jobs

/-! # Delivery on demand

What a subscriber asked for and what it was handed are kept in one account: the demand of a
subscription is what was asked for and not handed over yet. A demand that reached its bound stays
there. No event is handed over that was not asked for, and none that was asked for is left waiting
without a job.
-/
namespace BrokerRpc.Publisher

open Subscription (unlimited spend)

/-! ## Requests -/

/-- The count of events that a subscriber asks for by its reactions on behalf of one subscription;
its own has the number `own`. A panic ends them. -/
def requestedBy (number own : Nat) : List Reaction → Nat
  | [] => 0
  | .request n :: more => (if own = number then n else 0) + requestedBy number own more
  | .requestFor other n :: more => (if other = number then n else 0) + requestedBy number own more
  | .panic _ :: _ => 0
  | _ :: more => requestedBy number own more

namespace Moment

/-- The count of events that were asked for at that moment on behalf of one subscription. A subscriber
that is told nothing asks for nothing. -/
def requested (m : Moment) (number : Nat) : Nat :=
  match m.operation with
  | .request other n => if other = number then n else 0
  | .subscribe _ reactions =>
    if m.notices.isEmpty then 0 else requestedBy number m.before.subscriptions.length reactions
  | .deliver other reactions => if m.notices.isEmpty then 0 else requestedBy number other reactions
  | _ => 0

end Moment

def requestedIn : List Moment → Nat → Nat
  | [], _ => 0
  | m :: rest, number => m.requested number + requestedIn rest number

theorem requestedIn_append_singleton (moments : List Moment) (m : Moment) (number : Nat) :
    requestedIn (moments ++ [m]) number = requestedIn moments number + m.requested number := by
  induction moments with
  | nil => simp [requestedIn]
  | cons first rest ih => simp only [List.cons_append, requestedIn, ih, Nat.add_assoc]

theorem handedIn_append_singleton (moments : List Moment) (m : Moment) (number : Nat) :
    handedIn (moments ++ [m]) number = handedIn moments number ++ m.handed number := by
  simp [handedIn]

/-! ## Demand -/

def demand? (p : Publisher) (number : Nat) : Option Nat :=
  (p.subscriptions.get? number).map (·.demand)

/-- Between two states of a publisher `amount` events were asked for on behalf of a subscription, and
it took none. -/
def Grants (number : Nat) (p : Publisher) (amount : Nat) (q : Publisher) : Prop :=
  ∀ demand, demand ≤ unlimited → p.demand? number = some demand →
    q.demand? number = some (min (demand + amount) unlimited)

theorem grants_of_eq {number : Nat} {p q : Publisher} (h : q.demand? number = p.demand? number) :
    Grants number p 0 q := by
  intro demand hle hp
  rw [h, hp, Nat.add_zero, Nat.min_eq_left hle]

theorem Grants.trans {number amount more : Nat} {p q r : Publisher} (h : Grants number p amount q)
    (h' : Grants number q more r) : Grants number p (amount + more) r := by
  intro demand hle hp
  rw [h' _ (Nat.min_le_right _ _) (h demand hle hp)]
  congr 1
  omega

theorem demand?_schedule (p : Publisher) (number other : Nat) :
    (p.schedule number).demand? other = p.demand? other := by
  rcases schedule_cases p number with he | he
  · rw [he]
  · rw [he]
    exact map_get?_change_of_same p (·.demand) number (f := fun s => { s with draining := true })
      (fun _ _ => rfl) other

theorem grants_request (number : Nat) (p : Publisher) (other n : Nat) :
    Grants number p (if other = number then n else 0) (p.request other n) := by
  by_cases hzero : n = 0
  · subst hzero
    rw [ite_self]
    exact grants_of_eq rfl
  intro demand hle hp
  rw [request, if_neg hzero, demand?_schedule]
  by_cases heq : other = number
  · subst heq
    obtain ⟨s, hs, rfl⟩ := Option.map_eq_some_iff.mp hp
    simp [demand?, get?_change, hs, Subscription.grant]
  · have hne : ¬ number = other := fun e => heq e.symm
    rw [if_neg heq, Nat.add_zero, Nat.min_eq_left hle, ← hp]
    simp [demand?, get?_change, hne]

theorem demand?_cancel (p : Publisher) (number other : Nat) :
    (p.cancel number).demand? other = p.demand? other :=
  map_get?_change_of_same p (·.demand) number (f := Subscription.cancel) (fun _ _ => rfl) other

theorem demand?_publish (p : Publisher) (event : Event) (number : Nat) :
    (p.publish event).demand? number = p.demand? number := by
  refine publish_along (R := fun p q => q.demand? number = p.demand? number) (fun _ => rfl)
    (fun h h' => h'.trans h) ?_ (fun _ _ _ _ => rfl) p event
  intro p event other
  refine (demand?_schedule _ other number).trans
    (map_get?_change_of_same p (·.demand) other ?_ number)
  intro s _
  unfold Subscription.offer
  split <;> rfl

theorem grants_react (number : Nat) (p : Publisher) (own : Nat) (reactions : List Reaction) :
    Grants number p (requestedBy number own reactions) (p.react own reactions).1 := by
  induction reactions generalizing p with
  | nil => exact grants_of_eq rfl
  | cons reaction more ih =>
    have hnone : ∀ q : Publisher, q.demand? number = p.demand? number →
        Grants number p (requestedBy number own more) (q.react own more).1 := by
      intro q hq
      have hall := (grants_of_eq hq).trans (ih q)
      rwa [Nat.zero_add] at hall
    cases reaction with
    | request n => exact (grants_request number p own n).trans (ih _)
    | cancel => exact hnone _ (demand?_cancel p own number)
    | publish event => exact hnone _ (demand?_publish p event number)
    | requestFor other n => exact (grants_request number p other n).trans (ih _)
    | cancelOf other => exact hnone _ (demand?_cancel p other number)
    | panic reason => exact grants_of_eq rfl

theorem demand?_finishAll (p : Publisher) (numbers : List Nat) (number : Nat) :
    (p.finishAll numbers).1.demand? number = p.demand? number := by
  refine finishAll_along (R := fun p q => q.demand? number = p.demand? number) (fun _ => rfl)
    (fun h h' => h'.trans h) (fun p first s hs => ?_) p numbers
  exact map_get?_change_of_same p (·.demand) first (forall_found hs rfl) number

theorem demand?_close (p : Publisher) (number : Nat) :
    p.close.1.demand? number = p.demand? number := by
  unfold close
  split
  · rfl
  · exact demand?_finishAll _ _ number

theorem demand?_purge (p : Publisher) (now : Timestamp) (number : Nat) :
    (p.purge now).demand? number = p.demand? number := by
  unfold demand?
  rw [get?_purge]
  cases p.subscriptions.get? number with
  | none => rfl
  | some s =>
    simp only [Option.map_some]
    split <;> rfl

theorem demand?_failJob (p : Publisher) (number : Nat) (reason : String) (other : Nat) :
    (p.failJob number reason).1.demand? other = p.demand? other := by
  rcases failJob_cases p number reason with ⟨_, hf⟩ | ⟨s, hs, hf⟩
  all_goals rw [hf]
  · rfl
  · exact map_get?_change_of_same p (·.demand) number (f := fun _ => (s.fail _).1)
      (forall_found hs rfl) other

/-- A delivery job takes an event only where one was asked for, and takes it off the demand. -/
theorem demand?_takeNext (p : Publisher) (number other : Nat) :
    ((p.takeNext number).2 = none ∧ (p.takeNext number).1.demand? other = p.demand? other) ∨
      ∃ event demand, (p.takeNext number).2 = some event ∧ p.demand? number = some demand ∧
        demand ≠ 0 ∧ (p.takeNext number).1.demand? other =
          if other = number then some (spend demand) else p.demand? other := by
  rcases takeNext_cases p number with ⟨_, ht⟩ | ⟨s, hs, _, ht⟩ |
    ⟨s, event, rest, hs, hready, _, ht⟩
  all_goals rw [ht]
  · exact Or.inl ⟨rfl, rfl⟩
  · exact Or.inl ⟨rfl, map_get?_change_of_same p (·.demand) number
      (f := fun _ => { s with draining := false }) (forall_found hs rfl) other⟩
  · have hdemand : s.demand ≠ 0 := by
      simp only [Subscription.ready, Bool.and_eq_true, bne_iff_ne] at hready
      exact hready.1.2
    refine Or.inr ⟨event, s.demand, rfl, by simp [demand?, hs], hdemand, ?_⟩
    unfold demand?
    rw [get?_change]
    split
    · rename_i heq
      simp [heq, hs]
    · rfl

/-! ## Moments -/

/-- What a moment means to the demand of a subscription: it grows by what was asked for, and what was
handed over was asked for before. -/
def Moment.Pays (m : Moment) (number : Nat) : Prop :=
  ∀ demand, demand ≤ unlimited → m.before.demand? number = some demand →
    (m.handed number = [] ∧
      m.after.demand? number = some (min (demand + m.requested number) unlimited)) ∨
    ∃ event, m.handed number = [event] ∧ demand ≠ 0 ∧
      m.after.demand? number = some (min (spend demand + m.requested number) unlimited)

theorem Moment.pays_of_grants {m : Moment} {number : Nat} (hhanded : m.handed number = [])
    (h : Grants number m.before (m.requested number) m.after) : m.Pays number :=
  fun demand hle hp => Or.inl ⟨hhanded, h demand hle hp⟩

theorem spend_le {demand : Nat} (h : demand ≤ unlimited) : spend demand ≤ unlimited := by
  unfold spend
  split <;> omega

theorem Moment.pays_of_handed {p q r : Publisher} {number demand other : Nat} {event : Event}
    {reactions : List Reaction} {failures : List SignalNotice}
    (hdemand : p.demand? number = some demand) (hpositive : demand ≠ 0)
    (hspent : q.demand? other = if other = number then some (spend demand) else p.demand? other)
    (hfailures : ∀ notice ∈ failures, ∀ event, notice.2 ≠ .next event)
    (hgrants : Grants other q (requestedBy other number reactions) r) :
    Moment.Pays { before := p, operation := .deliver number reactions, after := r
                  notices := (number, .next event) :: failures } other := by
  intro left hle hp
  simp only [Moment.handed, handedTo_cons_next, handedTo_eq_nil hfailures, List.append_nil,
    Moment.requested, List.isEmpty_cons, Bool.false_eq_true, if_false]
  split at hspent
  · rename_i heq
    subst heq
    obtain rfl := Option.some.inj (hp.symm.trans hdemand)
    exact Or.inr ⟨event, if_pos rfl, hpositive, hgrants _ (spend_le hle) hspent⟩
  · rename_i hne
    exact Or.inl ⟨if_neg hne, hgrants left hle (hspent.trans hp)⟩

theorem pays_deliver (p : Publisher) (number : Nat) (reactions : List Reaction) (other : Nat) :
    (perform p (.deliver number reactions)).Pays other := by
  by_cases hjob : number ∈ p.jobs
  case neg =>
    simp only [perform, if_neg hjob]
    exact Moment.pays_of_grants rfl (grants_of_eq rfl)
  have htake := demand?_takeNext p number other
  simp only [perform, if_pos hjob]
  rcases deliver_steps p number reactions with ⟨q, ht, he⟩ | ⟨q, event, ht, hstep⟩
  · rw [he]
    rw [ht] at htake
    rcases htake with ⟨_, hsame⟩ | ⟨_, _, hsome, _⟩
    · exact Moment.pays_of_grants rfl (grants_of_eq hsame)
    · cases hsome
  rw [ht] at htake
  rcases htake with ⟨hnone, _⟩ | ⟨_, demand, _, hdemand, hpositive, hspent⟩
  · cases hnone
  have hreact := grants_react other q number reactions
  rcases hstep with ⟨r, hr, he⟩ | ⟨r, reason, hr, he⟩
  · rw [he]
    rw [hr] at hreact
    exact Moment.pays_of_handed hdemand hpositive hspent (by simp) hreact
  · rw [he]
    rw [hr] at hreact
    refine Moment.pays_of_handed hdemand hpositive hspent ?_ ?_
    · rcases failJob_cases r number reason with ⟨_, hf⟩ | ⟨s, _, hf⟩
      all_goals rw [hf]
      · simp
      · cases s.terminated <;> simp [Subscription.fail]
    · have hall := hreact.trans (grants_of_eq (demand?_failJob r number reason other))
      rwa [Nat.add_zero] at hall

theorem pays_perform {p : Publisher} (h : Orderly p) (operation : Operation) {number : Nat}
    (hknown : number ∈ p.subscriptions.keys) : (perform p operation).Pays number := by
  cases operation with
  | publish event =>
    exact Moment.pays_of_grants rfl (grants_of_eq (demand?_publish p event number))
  | subscribe text reactions =>
    unfold perform
    simp only
    split
    · rename_i other after notices hs
      obtain ⟨id, _, _, _, rfl, rfl, rfl⟩ := subscribe_eq_ok_iff.mp hs
      have henrol : (p.enrol id).2.demand? number = p.demand? number := by
        unfold demand?
        rw [get?_enrol h.issued, if_neg (Nat.ne_of_lt (h.issued number hknown))]
      have hreact := grants_react number (p.enrol id).2 p.subscriptions.length reactions
      have hall := ((grants_of_eq henrol).trans hreact).trans
        (grants_of_eq (demand?_schedule _ p.subscriptions.length number))
      rw [Nat.zero_add, Nat.add_zero] at hall
      exact Moment.pays_of_grants rfl hall
    · exact Moment.pays_of_grants rfl (grants_of_eq rfl)
  | request other n => exact Moment.pays_of_grants rfl (grants_request number p other n)
  | cancel other => exact Moment.pays_of_grants rfl (grants_of_eq (demand?_cancel p other number))
  | purge now => exact Moment.pays_of_grants rfl (grants_of_eq (demand?_purge p now number))
  | close =>
    refine Moment.pays_of_grants (handedTo_eq_nil ?_ number) (grants_of_eq (demand?_close p number))
    intro notice hmem event
    rw [complete_of_mem_close hmem]
    simp
  | deliver other reactions => exact pays_deliver p other reactions number

/-! ## The account of a subscription -/

/-- At some point of the moments what was asked for and not handed over yet reached the bound. -/
def Saturated (moments : List Moment) (number : Nat) : Prop :=
  ∃ first, first <+: moments ∧
    unlimited + (handedIn first number).length ≤ requestedIn first number

theorem saturated_append_singleton_iff {moments : List Moment} {m : Moment} {number : Nat} :
    Saturated (moments ++ [m]) number ↔ Saturated moments number ∨
      unlimited + (handedIn (moments ++ [m]) number).length ≤
        requestedIn (moments ++ [m]) number := by
  unfold Saturated
  simp only [List.prefix_concat_iff]
  constructor
  · rintro ⟨first, rfl | hfirst, hle⟩
    · exact Or.inr hle
    · exact Or.inl ⟨first, hfirst, hle⟩
  · rintro (⟨first, hfirst, hle⟩ | hle)
    · exact ⟨first, Or.inr hfirst, hle⟩
    · exact ⟨_, Or.inl rfl, hle⟩

/-- The demand of a subscription after some moments, the first of which is its beginning. -/
structure Account (moments : List Moment) (number demand : Nat) : Prop where
  unlimited_of : Saturated moments number → demand = unlimited
  balance : ¬ Saturated moments number → demand < unlimited ∧
    (handedIn moments number).length + demand = requestedIn moments number

theorem Account.le {moments : List Moment} {number demand : Nat}
    (h : Account moments number demand) : demand ≤ unlimited := by
  by_cases hs : Saturated moments number
  · exact Nat.le_of_eq (h.unlimited_of hs)
  · exact Nat.le_of_lt (h.balance hs).1

theorem Account.append {moments : List Moment} {number demand : Nat}
    (h : Account moments number demand) {m : Moment} (hdemand : demand ≠ 0 ∨ m.handed number = [])
    (hone : (m.handed number).length ≤ 1) :
    Account (moments ++ [m]) number
      (min ((if m.handed number = [] then demand else spend demand) + m.requested number)
        unlimited) := by
  have hhanded : (handedIn (moments ++ [m]) number).length =
      (handedIn moments number).length + (m.handed number).length := by
    rw [handedIn_append_singleton, List.length_append]
  have hrequested := requestedIn_append_singleton moments m number
  by_cases hs : Saturated moments number
  · have hfull := h.unlimited_of hs
    have hspend : (if m.handed number = [] then demand else spend demand) = unlimited := by
      rw [hfull]
      split <;> rfl
    refine ⟨fun _ => by rw [hspend]; omega, fun hnot => ?_⟩
    exact absurd (saturated_append_singleton_iff.mpr (Or.inl hs)) hnot
  · obtain ⟨hlt, hbalance⟩ := h.balance hs
    have hspend : (if m.handed number = [] then demand else spend demand) +
        (m.handed number).length = demand := by
      split
      · rename_i hnil
        simp [hnil]
      · rename_i hcons
        have hpos := List.length_pos_iff.mpr hcons
        have hne := hdemand.resolve_right hcons
        unfold spend
        rw [if_neg (Nat.ne_of_lt hlt)]
        omega
    constructor
    · intro hsat
      have hnow := (saturated_append_singleton_iff.mp hsat).resolve_left hs
      omega
    · intro hnot
      have hnow : ¬ unlimited + (handedIn (moments ++ [m]) number).length ≤
          requestedIn (moments ++ [m]) number :=
        fun hle => hnot (saturated_append_singleton_iff.mpr (Or.inr hle))
      omega

theorem account_nil (number : Nat) : Account [] number 0 := by
  refine ⟨?_, fun _ => ⟨by decide, rfl⟩⟩
  rintro ⟨first, hfirst, hle⟩
  rw [List.prefix_nil.mp hfirst] at hle
  simp [requestedIn, unlimited] at hle

theorem Account.perform {moments : List Moment} {number demand : Nat}
    (h : Account moments number demand) {p : Publisher} {operation : Operation}
    (hp : p.demand? number = some demand)
    (hpays : (Publisher.perform p operation).Pays number) :
    ∃ left, (Publisher.perform p operation).after.demand? number = some left ∧
      Account (moments ++ [Publisher.perform p operation]) number left := by
  have hbefore : (Publisher.perform p operation).before.demand? number = some demand := by
    rw [before_perform, hp]
  rcases hpays demand h.le hbefore with ⟨hnil, hleft⟩ | ⟨event, hevent, hpositive, hleft⟩
  · have hnext := h.append (m := Publisher.perform p operation) (Or.inr hnil) (by simp [hnil])
    rw [if_pos hnil] at hnext
    exact ⟨_, hleft, hnext⟩
  · have hnext := h.append (m := Publisher.perform p operation) (Or.inl hpositive)
      (by simp [hevent])
    rw [if_neg (by simp [hevent])] at hnext
    exact ⟨_, hleft, hnext⟩

theorem account_reached {p : Publisher} (h : Orderly p) {moments : List Moment}
    {number demand : Nat} (hp : p.demand? number = some demand)
    (haccount : Account moments number demand) (operations : List Operation) :
    ∃ left, (reached p operations).demand? number = some left ∧
      Account (moments ++ history p operations) number left := by
  induction operations generalizing p moments demand with
  | nil => exact ⟨demand, hp, by simpa [history] using haccount⟩
  | cons operation rest ih =>
    obtain ⟨s, hs, _⟩ := Option.map_eq_some_iff.mp hp
    obtain ⟨left, hleft, hnext⟩ :=
      haccount.perform hp (pays_perform h operation (Assoc.mem_keys_of_get? hs))
    have hrest := ih (perform_sound h operation).orderly hleft hnext
    rwa [List.append_assoc] at hrest

theorem account_begins {p q : Publisher} (h : Orderly p) {text : String}
    {reactions : List Reaction} {number : Nat} {notices : List SignalNotice}
    (hs : p.subscribe text { onSubscribe := reactions } = .ok (number, q, notices)) :
    (perform p (.subscribe text reactions)).after = q ∧ Orderly q ∧
      ∃ demand, q.demand? number = some demand ∧
        Account [perform p (.subscribe text reactions)] number demand := by
  obtain ⟨id, _, hparse, _, rfl, rfl, rfl⟩ := subscribe_eq_ok_iff.mp hs
  obtain ⟨hafter, _, hq, _⟩ := begins h hs hparse
  refine ⟨hafter, hq, ?_⟩
  have henrol : (p.enrol id).2.demand? p.subscriptions.length = some 0 := by
    simp [demand?, get?_enrol h.issued]
  have hreact := grants_react p.subscriptions.length (p.enrol id).2 p.subscriptions.length reactions
    0 (Nat.zero_le _) henrol
  have hhanded : (perform p (.subscribe text reactions)).handed p.subscriptions.length = [] := by
    simp [perform, hs, Moment.handed, handedTo]
  have hrequested : (perform p (.subscribe text reactions)).requested p.subscriptions.length =
      requestedBy p.subscriptions.length p.subscriptions.length reactions := by
    simp [perform, hs, Moment.requested]
  have hfirst := (account_nil p.subscriptions.length).append (Or.inr hhanded) (by simp [hhanded])
  rw [if_pos hhanded, hrequested] at hfirst
  exact ⟨_, (demand?_schedule _ _ _).trans hreact, hfirst⟩

/-- Flow control is exact. Until what was asked for and not handed over yet reaches the bound, the
demand of a subscription is just that, and nothing is ever handed over, at the next moment either,
that was not asked for before; from then on the demand is unlimited. Asking for nothing grants
nothing. A subscription that goes on and has no job has no demand left, or nothing waits for it. -/
theorem handed_le_requested (retention : Duration) (earlier later : List Operation)
    {text : String} {reactions : List Reaction} {number : Nat} {q : Publisher}
    {notices : List SignalNotice}
    (hs : (reached (new retention) earlier).subscribe text { onSubscribe := reactions } =
      .ok (number, q, notices)) :
    let p := reached (new retention) earlier
    let operations := .subscribe text reactions :: later
    let moments := history p operations
    let r := reached p operations
    ∃ s, r.subscriptions.get? number = some s ∧
      (Saturated moments number → s.demand = unlimited) ∧
      (¬ Saturated moments number →
        (handedIn moments number).length + s.demand = requestedIn moments number ∧
        ∀ next, (handedIn (moments ++ [perform r next]) number).length ≤
          requestedIn moments number) ∧
      (∀ other, r.request other 0 = r) ∧
      (s.cancelled = false → number ∉ r.jobs → s.demand = 0 ∨ s.backlog = []) := by
  intro p operations moments r
  have horderly : Orderly p := orderly_reached retention earlier
  obtain ⟨hafter, hq, first, hfirst, hbegun⟩ := account_begins horderly hs
  have hmoments : moments = perform p (.subscribe text reactions) :: history q later := by
    simp only [moments, operations, history, hafter]
  have hr : r = reached q later := by
    simp only [r, operations, reached, List.foldl_cons, hafter]
  obtain ⟨left, hleft, haccount⟩ := account_reached hq hfirst hbegun later
  rw [← hr] at hleft
  rw [List.singleton_append, ← hmoments] at haccount
  obtain ⟨s, hget, rfl⟩ := Option.map_eq_some_iff.mp hleft
  have hall : r = reached (new retention) (earlier ++ operations) := by
    simp only [r, p, reached, List.foldl_append]
  have hr_orderly : Orderly r := hall ▸ orderly_reached retention _
  have hstaffed : Staffed r [] := hall ▸ staffed_reached retention _
  refine ⟨s, hget, haccount.unlimited_of, fun hnot => ?_, fun _ => rfl, fun hlive hidle => ?_⟩
  · obtain ⟨_, hbalance⟩ := haccount.balance hnot
    refine ⟨hbalance, fun next => ?_⟩
    have hpays := pays_perform hr_orderly next (Assoc.mem_keys_of_get? hget)
    have hbefore : (perform r next).before.demand? number = some s.demand := by
      rw [before_perform, hleft]
    rw [handedIn_append_singleton, List.length_append]
    rcases hpays s.demand haccount.le hbefore with ⟨hnil, _⟩ | ⟨event, hevent, hpositive, _⟩
    · rw [hnil, List.length_nil]
      omega
    · rw [hevent, List.length_singleton]
      omega
  · -- with demand and events left a job would work for the subscription
    by_cases hdemand : s.demand = 0
    · exact Or.inl hdemand
    refine Or.inr (Decidable.byContradiction fun hbacklog => hidle ?_)
    exact hstaffed.at_work hget List.not_mem_nil hlive hdemand hbacklog

/-- The subscriber asks for one event while it is subscribed and for none while it is handed that
event; of the two that are published one waits, and no job is left. -/
theorem handed_le_requested_one :
    let event : Event := ⟨⟨"peer", "editor", "saved", "7"⟩, .null, 0⟩
    let operations : List Operation :=
      [.subscribe "peer|*|saved|7" [.request 1, .publish event], .publish event,
        .deliver 0 [.request 0], .deliver 0 []]
    let moments := history (new ⟨20⟩) operations
    let r := reached (new ⟨20⟩) operations
    requestedIn moments 0 = 1 ∧ handedIn moments 0 = [event] ∧ r.jobs = [] ∧
      (∀ next, (handedIn (moments ++ [perform r next]) 0).length ≤ 1) ∧
      ∃ s, r.subscriptions.get? 0 = some s ∧ s.backlog = [event] ∧
        (s.demand = 0 ∨ s.backlog = []) := by
  intro event operations moments r
  have hrequested : requestedIn moments 0 = 1 := by decide
  have hhanded : handedIn moments 0 = [event] := by decide
  have hjobs : r.jobs = [] := by decide
  obtain ⟨q, notices, hs⟩ : ∃ q notices, (reached (new ⟨20⟩) []).subscribe "peer|*|saved|7"
      { onSubscribe := [.request 1, .publish event] } = .ok (0, q, notices) := ⟨_, _, rfl⟩
  have hall := handed_le_requested ⟨20⟩ [] [.publish event, .deliver 0 [.request 0], .deliver 0 []] hs
  have hfound : (r.subscriptions.get? 0).map (fun s => (s.cancelled, s.demand, s.backlog)) =
      some (false, 0, [event]) := by decide
  change ∃ s, r.subscriptions.get? 0 = some s ∧ (Saturated moments 0 → s.demand = unlimited) ∧
    (¬ Saturated moments 0 → (handedIn moments 0).length + s.demand = requestedIn moments 0 ∧
      ∀ next, (handedIn (moments ++ [perform r next]) 0).length ≤ requestedIn moments 0) ∧
    (∀ other, r.request other 0 = r) ∧
    (s.cancelled = false → 0 ∉ r.jobs → s.demand = 0 ∨ s.backlog = []) at hall
  clear_value moments r
  obtain ⟨s, hget, hfull, hbalance, _, hidle⟩ := hall
  simp only [hget, Option.map_some, Option.some.injEq, Prod.mk.injEq] at hfound
  obtain ⟨hlive, hdemand, hbacklog⟩ := hfound
  have hnot : ¬ Saturated moments 0 := fun hsat => by
    have hunlimited := hfull hsat
    simp [hdemand, unlimited] at hunlimited
  have hnext := (hbalance hnot).2
  rw [hrequested] at hnext
  exact ⟨hrequested, hhanded, hjobs, hnext, s, hget, hbacklog, hidle hlive (by simp [hjobs])⟩

end BrokerRpc.Publisher
