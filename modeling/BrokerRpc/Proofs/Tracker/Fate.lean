import BrokerRpc.Proofs.Tracker.Sweep

/-! # What an operation means to one call

The calls in flight do not touch each other: what an operation does to a call depends on the call,
its own tracking and the policy alone. A call that left the table stays as it is; its owner may only
give it up once more.
-/
namespace BrokerRpc.Tracker

/-- Whether an operation has nothing to do with a call in flight. -/
def Operation.Spares (key : Nat) (call : Call) : Operation → Prop
  | register .. | setPolicy _ => True
  | remove other | cancel other => other ≠ key
  | respond r => r.id.isNull = true ∨ Response.idKey r.id ∉ call.keys
  | sweep _ | linkLost _ | failAll => False

/-- What an operation may mean to one call in flight: what becomes of its tracking and of the call,
and what its owner is told. -/
inductive Fate (policy : Policy) (key : Nat) (tracking : Tracking) (call : Call) :
    Operation → Option Tracking → Call → List CallEvent → Prop where
  | spared {operation : Operation} (h : operation.Spares key call) :
    Fate policy key tracking call operation (some tracking) call []
  | answered {r : Response} (hid : Response.idKey r.id ∈ call.keys)
    (hs : (call.answer r).1.status ≠ .done) :
    Fate policy key tracking call (.respond r) (some tracking) (call.answer r).1 (call.answer r).2
  | completed {r : Response} (hid : Response.idKey r.id ∈ call.keys)
    (hs : (call.answer r).1.status = .done) :
    Fate policy key tracking call (.respond r) none (call.answer r).1 (call.answer r).2
  | early {now : Instant} (h : now < tracking.deadline) :
    Fate policy key tracking call (.sweep now) (some tracking) call []
  | resent {now : Instant} (hd : tracking.deadline ≤ now) (ha : tracking.hasAttempt = true) :
    Fate policy key tracking call (.sweep now) (some (tracking.renew now)) call
      [.retrying (tracking.attempt + 1)]
  | unsendable {now : Instant} {failure : Failure} (hd : tracking.deadline ≤ now)
    (ha : tracking.hasAttempt = true) (hp : policy.isRetryable failure = false) :
    Fate policy key tracking call (.sweep now) none
      (call.failMissing (failureResponse failure)).1
      (.retrying (tracking.attempt + 1) :: (call.failMissing (failureResponse failure)).2)
  | expired {now : Instant} (hd : tracking.deadline ≤ now) (ha : tracking.hasAttempt = false) :
    Fate policy key tracking call (.sweep now) none (call.failMissing Response.timeout).1
      (call.failMissing Response.timeout).2
  | disturbed {failure : Failure} (hp : policy.isRetryable failure = true) :
    Fate policy key tracking call (.linkLost failure) (some tracking) call
      [.linkLost failure.message]
  | severed {failure : Failure} (hp : policy.isRetryable failure = false) :
    Fate policy key tracking call (.linkLost failure) none
      (call.failMissing (failureResponse failure)).1
      (.linkLost failure.message :: (call.failMissing (failureResponse failure)).2)
  | closed :
    Fate policy key tracking call .failAll none (call.failMissing Response.timeout).1
      (call.failMissing Response.timeout).2
  | removed : Fate policy key tracking call (.remove key) none call []
  | cancelled : Fate policy key tracking call (.cancel key) none call.cancel []

theorem Fate.ids_eq {policy : Policy} {key : Nat} {tracking : Tracking} {call call' : Call}
    {operation : Operation} {left : Option Tracking} {events : List CallEvent}
    (h : Fate policy key tracking call operation left call' events) : call'.ids = call.ids := by
  cases h with
  | spared _ => rfl
  | answered _ _ => exact call.ids_answer _
  | completed _ _ => exact call.ids_answer _
  | early _ => rfl
  | resent _ _ => rfl
  | unsendable _ _ _ => exact call.ids_failMissing _
  | expired _ _ => exact call.ids_failMissing _
  | disturbed _ => rfl
  | severed _ => exact call.ids_failMissing _
  | closed => exact call.ids_failMissing _
  | removed => rfl
  | cancelled => exact call.ids_cancel

/-- Where a response comes from that a call in flight gets: it arrived, it reports a failure, or it
is the timeout response, which a close gives and a sweep of a call that is due without an attempt. -/
theorem Fate.gets {policy : Policy} {key : Nat} {tracking : Tracking} {call call' : Call}
    {operation : Operation} {left : Option Tracking} {events : List CallEvent}
    (h : Fate policy key tracking call operation left call' events) {r : Response}
    (hg : call.Gets (call', events) r) :
    operation = .respond r ∨ (∃ failure id, r = failureResponse failure id) ∨
      operation = .failAll ∨
      ∃ now, operation = .sweep now ∧ tracking.deadline ≤ now ∧ tracking.hasAttempt = false := by
  cases h with
  | spared _ | early _ | removed => exact absurd hg (Call.not_gets rfl (by simp))
  | resent _ _ | disturbed _ => exact absurd hg (Call.not_gets rfl (by simp))
  | cancelled => exact absurd hg (Call.not_gets call.answers_cancel (by simp))
  | answered _ _ | completed _ _ => exact Or.inl (by rw [Call.eq_of_gets_answer hg])
  | unsendable _ _ _ | severed _ =>
    have hfail : call.Gets (call.failMissing (failureResponse _)) r :=
      hg.imp_left fun hevent => (List.mem_cons.mp hevent).resolve_left (by simp)
    obtain ⟨id, rfl⟩ := Call.exists_of_gets_failMissing hfail
    exact Or.inr (Or.inl ⟨_, id, rfl⟩)
  | expired hd ha => exact Or.inr (Or.inr (Or.inr ⟨_, rfl, hd, ha⟩))
  | closed => exact Or.inr (Or.inr (Or.inl rfl))

/-! ## Operations without the sender -/

section Plain
variable {t : Tracker} {key : Nat} {tracking : Tracking} {call : Call}

theorem linkLost_spec (h : Correlated t) (failure : Failure)
    (hc : t.calls.get? key = some call) :
    (t.linkLost failure).1.table.get? key =
        (if t.policy.isRetryable failure then t.table.get? key else none) ∧
      (t.linkLost failure).1.calls.get? key = some (if key ∈ t.table.keys then
        (lossOf failure (!t.policy.isRetryable failure) call).1 else call) ∧
      eventsOf key (t.linkLost failure).2 = if key ∈ t.table.keys then
        (lossOf failure (!t.policy.isRetryable failure) call).2 else [] := by
  cases hp : t.policy.isRetryable failure with
  | true =>
    have hl : t.linkLost failure = forEach (lose failure false) t t.table.keys := by
      simp only [linkLost, hp, if_true]
    have hs := actsOnCall_lose failure false
    obtain ⟨hcalls, hev⟩ := get?_calls_forEach hs h.known h.table_distinct hc
    rw [hl]
    refine ⟨?_, hcalls, hev⟩
    rw [forEach_eq hs h.known]
    rfl
  | false =>
    have hl : t.linkLost failure =
        forEach (lose failure true) (t.table.keys.foldl remove t) t.table.keys := by
      simp only [linkLost, hp, Bool.false_eq_true, if_false]
    have hs := actsOnCall_lose failure true
    have hk : ∀ k ∈ t.table.keys, k ∈ (t.table.keys.foldl remove t).calls.keys := by
      rw [calls_foldl_remove]
      exact h.known
    have hc' : (t.table.keys.foldl remove t).calls.get? key = some call := by
      rw [calls_foldl_remove]
      exact hc
    obtain ⟨hcalls, hev⟩ := get?_calls_forEach hs hk h.table_distinct hc'
    rw [hl]
    refine ⟨?_, hcalls, hev⟩
    rw [forEach_eq hs hk]
    exact get?_table_foldl_remove_keys t key

theorem failAll_spec (h : Correlated t) (hc : t.calls.get? key = some call) :
    t.failAll.1.table.get? key = none ∧
      t.failAll.1.calls.get? key = some (if key ∈ t.table.keys then
        (call.failMissing Response.timeout).1 else call) ∧
      eventsOf key t.failAll.2 = if key ∈ t.table.keys then
        (call.failMissing Response.timeout).2 else [] := by
  have hs := actsOnCall_resolve Response.timeout
  have hk : ∀ k ∈ t.table.keys, k ∈ (t.table.keys.foldl remove t).calls.keys := by
    rw [calls_foldl_remove]
    exact h.known
  have hc' : (t.table.keys.foldl remove t).calls.get? key = some call := by
    rw [calls_foldl_remove]
    exact hc
  obtain ⟨hcalls, hev⟩ := get?_calls_forEach hs hk h.table_distinct hc'
  refine ⟨?_, hcalls, hev⟩
  rw [failAll, forEach_eq hs hk]
  exact get?_table_foldl_remove_keys t key

theorem registered_spec (h : Correlated t) (now : Instant) (new : Call) (payload : Bytes)
    (policy : Policy) (hc : t.calls.get? key = some call) :
    (t.registered now new payload policy).table.get? key = t.table.get? key ∧
      (t.registered now new payload policy).calls.get? key = some call := by
  unfold registered
  split
  · rename_i hr
    obtain ⟨_, rfl, rfl⟩ := register_eq_ok_iff.mp hr
    have hne : t.nextKey ≠ key := fun he =>
      h.nextKey_not_mem (he ▸ Assoc.mem_keys_of_get? hc)
    constructor
    · simp only [Assoc.get?_append, Assoc.get?, if_neg hne, Option.or_none]
    · simp only [Assoc.get?_append, hc, Option.some_or]
  · exact ⟨rfl, hc⟩

theorem processResponse_of_index_ne (hc : t.calls.get? key = some call) {r : Response}
    (hr : r.id.isNull = true ∨ t.index.get? (Response.idKey r.id) ≠ some key) :
    (t.processResponse r).1.table.get? key = t.table.get? key ∧
      (t.processResponse r).1.calls.get? key = some call ∧
      eventsOf key (t.processResponse r).2 = [] := by
  unfold processResponse
  split
  · exact ⟨rfl, hc, rfl⟩
  rename_i hn
  split
  · exact ⟨rfl, hc, rfl⟩
  rename_i other ho
  split
  · have hne : key ≠ other := by
      intro he
      rw [ho, he] at hr
      exact hr.elim hn (fun hne => hne rfl)
    have htable : (t.change other (·.answer r)).1.table.get? key = t.table.get? key := by
      rw [change_eq]
    have hcalls : (t.change other (·.answer r)).1.calls.get? key = some call := by
      rw [get?_calls_change, if_neg hne, hc]
    refine ⟨?_, ?_, eventsOf_change_of_ne t (Ne.symm hne) _⟩
    · dsimp only
      split
      · rw [get?_table_remove, if_neg hne, htable]
      · exact htable
    · dsimp only
      split
      · rw [calls_remove, hcalls]
      · exact hcalls
  · exact ⟨rfl, hc, rfl⟩

/-- A response to one of its ids reaches a call in flight, and takes it off the table with the last
of them. -/
theorem processResponse_of_mem (h : Correlated t) (ht : t.table.get? key = some tracking)
    (hc : t.calls.get? key = some call) {r : Response} (hn : r.id.isNull = false)
    (hid : Response.idKey r.id ∈ call.keys) :
    (t.processResponse r).1.table.get? key =
        (if (call.answer r).1.status = .done then none else some tracking) ∧
      (t.processResponse r).1.calls.get? key = some (call.answer r).1 ∧
      eventsOf key (t.processResponse r).2 = (call.answer r).2 := by
  have hmem := Assoc.mem_keys_of_get? ht
  have hi : t.index.get? (Response.idKey r.id) = some key :=
    (h.index_iff _ _).mpr ⟨hmem, by rw [idsOf_eq hc]; exact hid⟩
  have hcalls : (t.change key (·.answer r)).1.calls.get? key = some (call.answer r).1 := by
    rw [get?_calls_change, if_pos rfl, hc]
    rfl
  have htable : (t.change key (·.answer r)).1.table.get? key = some tracking := by
    rw [change_eq]
    exact ht
  have hevents : eventsOf key (t.change key (·.answer r)).2 = (call.answer r).2 := by
    rw [change_of_get? hc, eventsOf_map, if_pos rfl]
  have hdone : (t.change key (·.answer r)).1.isDone key =
      decide ((call.answer r).1.status = .done) := by
    rw [isDone, hcalls]
  rw [processResponse, hn, hi]
  simp only [Bool.false_eq_true, if_false, Assoc.contains_iff_mem_keys.mpr hmem, if_true, hdone,
    decide_eq_true_eq]
  refine ⟨?_, ?_, hevents⟩
  · split
    · rw [get?_table_remove, if_pos rfl]
    · exact htable
  · split
    · rw [calls_remove, hcalls]
    · exact hcalls

theorem cancel_spec (t : Tracker) (other : Nat) (hc : t.calls.get? key = some call) :
    (t.cancel other).1.table.get? key = (if key = other then none else t.table.get? key) ∧
      (t.cancel other).1.calls.get? key = some (if key = other then call.cancel else call) := by
  constructor
  · exact get?_table_remove _ _ _
  · simp only [cancel, calls_remove, Assoc.get?_modify, hc]
    split <;> rfl

end Plain

/-! ## Every operation -/

section Perform
variable {σ : Type} (send : Bytes → σ → Except Failure Unit × σ) {t : Tracker} {key : Nat}
  {tracking : Tracking} {call : Call}

theorem sweep_fate (h : Correlated t) (now : Instant) (s : σ)
    (hg : t.table.get? key = some tracking) (hc : t.calls.get? key = some call) :
    ∃ call', (t.sweep send now s).1.calls.get? key = some call' ∧
      Fate t.policy key tracking call (.sweep now) ((t.sweep send now s).1.table.get? key) call'
        (eventsOf key (t.sweep send now s).2.2) := by
  by_cases hd : now < tracking.deadline
  · obtain ⟨ht, hcalls, hev⟩ := sweep_of_not_due send h now s hc (fun other ho => by
      rw [hg] at ho
      cases ho
      exact hd)
    rw [ht, hev, hg]
    exact ⟨call, hcalls, .early hd⟩
  have hle : tracking.deadline ≤ now := Nat.le_of_not_lt hd
  obtain ⟨hpol, ht, hcalls, hev⟩ := settled_spec h now hc
  rw [sweep_eq]
  simp only [eventsOf_append]
  cases ha : tracking.hasAttempt with
  | false =>
    have he : key ∈ t.expiredAt now :=
      (mem_expiredAt_iff_of_get? h.table_distinct hg).mpr ⟨hle, ha⟩
    have hr : key ∉ (t.renewedAt now).keys := by
      rw [mem_keys_renewedAt_iff_of_get? h.table_distinct hg, ha]
      exact fun hm => Bool.false_ne_true hm.2
    obtain ⟨ht', hcalls', hev'⟩ := resendAll_of_not_mem send (t.settled now).1 s hr
    rw [if_pos he] at ht hcalls hev
    rw [ht', ht, hev, hev', List.append_nil]
    exact ⟨_, hcalls'.trans hcalls, .expired hle ha⟩
  | true =>
    have he : key ∉ t.expiredAt now := by
      rw [mem_expiredAt_iff_of_get? h.table_distinct hg, ha]
      exact fun hm => Bool.false_ne_true hm.2.symm
    have hm : (key, tracking.renew now) ∈ t.renewedAt now :=
      (mem_renewedAt_iff h.table_distinct).mpr ⟨tracking, hg, hle, ha, rfl⟩
    rw [if_neg he] at ht hcalls hev
    have hrenewed : (t.settled now).1.table.get? key = some (tracking.renew now) := by
      rw [ht, get?_table_renewDue, hg, Option.map_some, if_pos ⟨hle, ha⟩]
    rcases resendAll_of_mem send (t.settled now).1 s (distinct_renewedAt h.table_distinct now) hm
      hcalls with ⟨ht', hcalls', hev'⟩ | ⟨failure, hp, ht', hcalls', hev'⟩
    · rw [ht', hrenewed, hev, hev', List.nil_append]
      exact ⟨call, hcalls', .resent hle ha⟩
    · rw [ht', hev, hev', List.nil_append]
      rw [hpol] at hp
      exact ⟨_, hcalls', .unsendable hle ha hp⟩

/-- Whatever is done with the tracker, one call in flight meets one of its fates. -/
theorem perform_fate (h : Correlated t) (s : σ) (operation : Operation)
    (ht : t.table.get? key = some tracking) (hc : t.calls.get? key = some call) :
    ∃ call', (perform send t s operation).1.after.calls.get? key = some call' ∧
      Fate t.policy key tracking call operation
        ((perform send t s operation).1.after.table.get? key) call'
        (eventsOf key (perform send t s operation).1.notices) := by
  have hmem := Assoc.mem_keys_of_get? ht
  cases operation with
  | register now new payload policy =>
    obtain ⟨htable, hcalls⟩ := registered_spec h now new payload policy hc
    refine ⟨call, hcalls, ?_⟩
    simp only [perform, htable, ht]
    exact .spared trivial
  | respond r =>
    by_cases hr : r.id.isNull = true ∨ Response.idKey r.id ∉ call.keys
    · have hi : r.id.isNull = true ∨ t.index.get? (Response.idKey r.id) ≠ some key := by
        refine hr.imp_right fun hid he => hid ?_
        rw [← idsOf_eq hc]
        exact ((h.index_iff _ _).mp he).2
      obtain ⟨htable, hcalls, hevents⟩ := processResponse_of_index_ne hc hi
      refine ⟨call, hcalls, ?_⟩
      simp only [perform, htable, ht, hevents]
      exact .spared hr
    · obtain ⟨hn, hid⟩ := not_or.mp hr
      obtain ⟨htable, hcalls, hevents⟩ := processResponse_of_mem h ht hc
        (Bool.not_eq_true _ ▸ hn) (Decidable.not_not.mp hid)
      refine ⟨_, hcalls, ?_⟩
      simp only [perform, htable, hevents]
      split
      · rename_i hs
        exact .completed (Decidable.not_not.mp hid) hs
      · rename_i hs
        exact .answered (Decidable.not_not.mp hid) hs
  | sweep now => exact sweep_fate (recording send) h now (s, []) ht hc
  | linkLost failure =>
    obtain ⟨htable, hcalls, hevents⟩ := linkLost_spec h failure hc
    rw [if_pos hmem] at hcalls hevents
    refine ⟨_, hcalls, ?_⟩
    simp only [perform, htable, hevents]
    cases hp : t.policy.isRetryable failure with
    | true =>
      rw [if_pos rfl, ht]
      exact .disturbed hp
    | false => exact .severed hp
  | failAll =>
    obtain ⟨htable, hcalls, hevents⟩ := failAll_spec h hc
    rw [if_pos hmem] at hcalls hevents
    refine ⟨_, hcalls, ?_⟩
    simp only [perform, htable, hevents]
    exact .closed
  | setPolicy policy =>
    refine ⟨call, hc, ?_⟩
    simp only [perform, setPolicy, ht]
    exact .spared trivial
  | remove other =>
    refine ⟨call, (congrArg (Assoc.get? · key) (calls_remove t other)).trans hc, ?_⟩
    simp only [perform, get?_table_remove, ht]
    split
    · rename_i he
      subst he
      exact .removed
    · rename_i hne
      exact .spared (Ne.symm hne)
  | cancel other =>
    obtain ⟨htable, hcalls⟩ := cancel_spec t other hc
    refine ⟨_, hcalls, ?_⟩
    simp only [perform, htable, ht]
    split
    · rename_i he
      subst he
      exact .cancelled
    · rename_i hne
      exact .spared (Ne.symm hne)

/-- A call that left the table stays out of it and as it is, but its owner may give it up. -/
theorem perform_departed (h : Correlated t) (s : σ) (operation : Operation)
    (ht : t.table.get? key = none) (hc : t.calls.get? key = some call) :
    (perform send t s operation).1.after.table.get? key = none ∧
      eventsOf key (perform send t s operation).1.notices = [] ∧
      ∃ call', (perform send t s operation).1.after.calls.get? key = some call' ∧
        (call' = call ∨ operation = .cancel key ∧ call' = call.cancel) := by
  have hmem := Assoc.get?_eq_none_iff.mp ht
  cases operation with
  | register now new payload policy =>
    obtain ⟨htable, hcalls⟩ := registered_spec h now new payload policy hc
    exact ⟨htable.trans ht, rfl, call, hcalls, Or.inl rfl⟩
  | respond r =>
    have hi : t.index.get? (Response.idKey r.id) ≠ some key :=
      fun he => hmem ((h.index_iff _ _).mp he).1
    obtain ⟨htable, hcalls, hevents⟩ := processResponse_of_index_ne hc (Or.inr hi)
    exact ⟨htable.trans ht, hevents, call, hcalls, Or.inl rfl⟩
  | sweep now =>
    obtain ⟨htable, hcalls, hevents⟩ := sweep_of_not_due (recording send) h now (s, []) hc
      (fun tracking hg => by rw [ht] at hg; cases hg)
    exact ⟨htable.trans ht, hevents, call, hcalls, Or.inl rfl⟩
  | linkLost failure =>
    obtain ⟨htable, hcalls, hevents⟩ := linkLost_spec h failure hc
    rw [if_neg hmem] at hcalls hevents
    refine ⟨htable.trans ?_, hevents, call, hcalls, Or.inl rfl⟩
    split
    · exact ht
    · rfl
  | failAll =>
    obtain ⟨htable, hcalls, hevents⟩ := failAll_spec h hc
    rw [if_neg hmem] at hcalls hevents
    exact ⟨htable, hevents, call, hcalls, Or.inl rfl⟩
  | setPolicy policy => exact ⟨ht, rfl, call, hc, Or.inl rfl⟩
  | remove other =>
    have hcalls : (t.remove other).calls.get? key = some call := by rw [calls_remove, hc]
    refine ⟨?_, rfl, call, hcalls, Or.inl rfl⟩
    simp only [perform, get?_table_remove, ht]
    split <;> rfl
  | cancel other =>
    obtain ⟨htable, hcalls⟩ := cancel_spec t other hc
    refine ⟨htable.trans ?_, rfl, _, hcalls, ?_⟩
    · split
      · rfl
      · exact ht
    · split
      · rename_i he
        exact Or.inr ⟨he ▸ rfl, rfl⟩
      · exact Or.inl rfl

end Perform

end BrokerRpc.Tracker
