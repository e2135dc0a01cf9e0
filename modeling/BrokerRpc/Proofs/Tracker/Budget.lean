import BrokerRpc.Proofs.Tracker.Attempts

/-! # The budget of a call

A policy allows a call a number of attempts, one at least, each with the full timeout to itself.
The budget is fixed when the call is accepted: the deadline only moves with an attempt, by the
timeout of that policy, and every sweep at or after the deadline uses up one attempt. Closing the
tracker, losing the connection or failing to send again may end a call earlier, but a sweep answers
it with the timeout response only after all its attempts had their time.
-/
namespace BrokerRpc

/-! ## The timeout response -/

/-- No failure is worded as an answer that never came. -/
theorem Failure.message_ne_timeoutMessage (failure : Failure) :
    failure.message ≠ Response.timeoutMessage := by
  -- the first two letters tell each wording from it
  have hbegins (opening rest : String) (hlength : 2 ≤ opening.toList.length)
      (hne : opening.toList.take 2 ≠ Response.timeoutMessage.toList.take 2) :
      opening ++ rest ≠ Response.timeoutMessage := by
    intro h
    rw [← h, String.toList_append, List.take_append_of_le_length hlength] at hne
    exact hne rfl
  cases failure with
  | connectionFailed _ | io _ | tls _ | heartbeatExpired _ | malformedFrame _ | protocol _
    | timeout _ | misuse _ | subscriberFailed _ => exact hbegins _ _ (by decide) (by decide)
  | closed | cancelled | loopStopped => decide
  | decomposition detail =>
    cases detail with
    | none => decide
    | some _ => exact hbegins _ _ (by decide) (by decide)

theorem Tracker.failureResponse_ne_timeout (failure : Failure) (id other : Json) :
    failureResponse failure id ≠ Response.timeout other := by
  intro h
  simp only [failureResponse, Response.timeout, Response.failure, Response.mk.injEq,
    Option.some.injEq, Json.obj.injEq, List.cons.injEq, Prod.mk.injEq, Json.str.injEq] at h
  exact failure.message_ne_timeoutMessage h.2.1.2.1.2

/-! ## Attempts -/

/-- How often a call may be sent, the first time included. -/
def Policy.attempts (p : Policy) : Nat := max p.retryNumber 1

namespace Tracker

/-- Whether a moment is a sweep at or after the deadline of a call. Without a deadline every sweep
is. -/
def Moment.sweepsDue (m : Moment) (key : Nat) : Bool :=
  match m.operation with
  | .sweep now =>
    match m.before.table.get? key with
    | some tracking => tracking.deadline ≤ now
    | none => true
  | _ => false

/-- The attempts after the first, numbered from two, each with the same payload. -/
def repeats (payload : Bytes) (count : Nat) : List (Nat × Bytes) :=
  (List.range' 2 count).map fun attempt => (attempt, payload)

/-- A moment gives a call a response if its owner is told of it or it is recorded. -/
def Moment.Gives (m : Moment) (key : Nat) (r : Response) : Prop :=
  .resolved r ∈ eventsOf key m.notices ∨
    ∃ call', m.after.calls.get? key = some call' ∧ r ∈ call'.answers.values ∧
      ∀ call, m.before.calls.get? key = some call → r ∉ call.answers.values

theorem Moment.Gives.gets {m : Moment} {key : Nat} {r : Response} (h : m.Gives key r)
    {call call' : Call} (hc : m.before.calls.get? key = some call)
    (hc' : m.after.calls.get? key = some call') :
    call.Gets (call', eventsOf key m.notices) r := by
  refine h.imp_right ?_
  rintro ⟨other, hother, hmem, hnew⟩
  cases hother.symm.trans hc'
  exact ⟨hmem, hnew call hc⟩

/-- What a moment may do to a call that was accepted at `start` under a policy. -/
structure Moment.Heeds (m : Moment) (key : Nat) (policy : Policy) (start : Instant) : Prop where
  /-- Every request that is sent again is announced, in order, and nothing else is. -/
  announced : (announced m.notices).length = m.sent.length
  early : ∀ now tracking, m.operation = .sweep now →
    m.before.table.get? key = some tracking → now < tracking.deadline →
    m.after.table.get? key = some tracking ∧ m.after.calls.get? key = m.before.calls.get? key ∧
      eventsOf key m.notices = [] ∧ m.resends key = []
  /-- A call that is sent again has the full timeout to go. -/
  renewed : ∀ now tracking, m.operation = .sweep now → m.resends key ≠ [] →
    m.after.table.get? key = some tracking →
    tracking.deadline = now + policy.retryTimeout.nanos
  /-- A sweep that gives up the call comes after all its attempts had their time, or has to send it
  again and cannot. -/
  departed : ∀ now, m.operation = .sweep now → key ∈ m.before.table.keys →
    key ∉ m.after.table.keys →
    (m.resends key = [] ∧ start + policy.attempts * policy.retryTimeout.nanos ≤ now ∧
      m.after.calls.get? key =
        (m.before.calls.get? key).map fun call => (call.failMissing Response.timeout).1) ∨
    (m.resends key ≠ [] ∧ ∃ failure, m.before.policy.isRetryable failure = false ∧
      m.after.calls.get? key =
        (m.before.calls.get? key).map fun call => (call.failMissing (failureResponse failure)).1)
  /-- Unless it arrives as an answer or the tracker is closed, the call gets the timeout response
  only after all its attempts had their time. -/
  timed_out : ∀ id, m.Gives key (Response.timeout id) →
    m.operation = .respond (Response.timeout id) ∨ m.operation = .failAll ∨
      ∃ now, m.operation = .sweep now ∧ start + policy.attempts * policy.retryTimeout.nanos ≤ now
  steady : (∀ now, m.operation ≠ .sweep now) → m.resends key = [] ∧
    ∀ tracking, m.after.table.get? key = some tracking →
      m.before.table.get? key = some tracking
  unmoved : ∀ other, m.operation = .setPolicy other →
    m.after.table = m.before.table ∧ m.after.calls = m.before.calls ∧ m.notices = []

structure KeepsBudget (key : Nat) (payload : Bytes) (policy : Policy) (start : Instant)
    (moments : List Moment) (last : Tracker) : Prop where
  numbered : ∃ count, count + 1 ≤ policy.attempts ∧
    moments.flatMap (·.resends key) = repeats payload count
  heeded : ∀ m ∈ moments, m.Heeds key policy start
  bounded : policy.attempts ≤ moments.countP (·.sweepsDue key) → key ∉ last.table.keys

/-! ## The state of a budget -/

structure WithinBudget (payload : Bytes) (policy : Policy) (start : Instant)
    (tracking : Tracking) : Prop where
  payload_eq : tracking.payload = payload
  timeout_eq : tracking.retryTimeout = policy.retryTimeout
  balance : tracking.attempt + tracking.attemptsLeft = policy.retryNumber + 1
  started : 1 ≤ tracking.attempt
  allowed : tracking.attempt ≤ policy.attempts
  patient : start + tracking.attempt * policy.retryTimeout.nanos ≤ tracking.deadline

namespace WithinBudget
variable {payload : Bytes} {policy : Policy} {start : Instant} {tracking : Tracking}

theorem attempts_le_of_last (h : WithinBudget payload policy start tracking)
    (ha : tracking.hasAttempt = false) : policy.attempts ≤ tracking.attempt := by
  have hleft : ¬ 1 < tracking.attemptsLeft := of_decide_eq_false ha
  have hbalance := h.balance
  have hstarted := h.started
  unfold Policy.attempts
  omega

/-- At the deadline of the last attempt all of them had their full time. -/
theorem overdue (h : WithinBudget payload policy start tracking) {now : Instant}
    (hd : tracking.deadline ≤ now) (ha : tracking.hasAttempt = false) :
    start + policy.attempts * policy.retryTimeout.nanos ≤ now := by
  have hle := Nat.mul_le_mul_right policy.retryTimeout.nanos (h.attempts_le_of_last ha)
  exact Nat.le_trans (Nat.add_le_add_left hle start) (Nat.le_trans h.patient hd)

theorem renew (h : WithinBudget payload policy start tracking) {now : Instant}
    (hd : tracking.deadline ≤ now) (ha : tracking.hasAttempt = true) :
    WithinBudget payload policy start (tracking.renew now) := by
  have hleft : 1 < tracking.attemptsLeft := of_decide_eq_true ha
  have hbalance := h.balance
  refine ⟨h.payload_eq, h.timeout_eq, ?_, ?_, ?_, ?_⟩
  · simp only [Tracking.renew]
    omega
  · exact Nat.le_add_left _ _
  · have hle : tracking.attempt + 1 ≤ policy.retryNumber := by omega
    exact Nat.le_trans hle (Nat.le_max_left _ _)
  · calc start + (tracking.attempt + 1) * policy.retryTimeout.nanos
        = start + tracking.attempt * policy.retryTimeout.nanos + policy.retryTimeout.nanos := by
          rw [Nat.succ_mul, Nat.add_assoc]
      _ ≤ now + policy.retryTimeout.nanos :=
          Nat.add_le_add_right (Nat.le_trans h.patient hd) _
      _ = (tracking.renew now).deadline := by rw [← h.timeout_eq]; rfl

theorem repeats_attempt (h : WithinBudget payload policy start tracking) :
    repeats payload tracking.attempt =
      repeats payload (tracking.attempt - 1) ++ [(tracking.attempt + 1, payload)] := by
  obtain ⟨count, hcount⟩ := Nat.exists_eq_add_of_le' h.started
  rw [hcount, Nat.add_sub_cancel, repeats, List.range'_1_concat, List.map_append, repeats,
    List.map_cons, List.map_nil]
  congr 3
  omega

end WithinBudget

section Budget
variable {σ : Type} (send : Bytes → σ → Except Failure Unit × σ) {t : Tracker} {key : Nat}
  {tracking : Tracking} {call : Call}

theorem sweepsDue_of_not_sweep (s : σ) {operation : Operation}
    (hs : ∀ now, operation ≠ .sweep now) (key : Nat) :
    (perform send t s operation).1.sweepsDue key = false := by
  unfold Moment.sweepsDue
  rw [operation_perform]
  split
  · rename_i now
    exact absurd rfl (hs now)
  · rfl

theorem sweepsDue_sweep (s : σ) (now : Instant) (ht : t.table.get? key = some tracking) :
    (perform send t s (.sweep now)).1.sweepsDue key = decide (tracking.deadline ≤ now) := by
  simp only [Moment.sweepsDue, operation_perform, before_perform, ht]

/-- A moment either sends nothing for a call and leaves its tracking alone, or uses up one attempt
at or after the deadline. -/
theorem perform_attempt (h : Correlated t) (s : σ) (operation : Operation)
    (ht : t.table.get? key = some tracking) (hc : t.calls.get? key = some call) :
    (perform send t s operation).1.resends key = [] ∧
        (∀ later, (perform send t s operation).1.after.table.get? key = some later →
          later = tracking ∧ (perform send t s operation).1.sweepsDue key = false) ∨
      ∃ now, operation = .sweep now ∧ tracking.deadline ≤ now ∧ tracking.hasAttempt = true ∧
        (perform send t s operation).1.resends key =
          [(tracking.attempt + 1, tracking.payload)] ∧
        (perform send t s operation).1.sweepsDue key = true ∧
        ∀ later, (perform send t s operation).1.after.table.get? key = some later →
          later = tracking.renew now := by
  -- only a sweep sends, and what it does is decided by the deadline and the attempts left
  by_cases hs : ∃ now, operation = .sweep now
  · obtain ⟨now, rfl⟩ := hs
    have hresends := resends_sweep send h.table_distinct s now ht
    have hdue := sweepsDue_sweep send s now ht
    obtain ⟨call', _, hf⟩ := perform_fate send h s (.sweep now) ht hc
    generalize (perform send t s (.sweep now)).1.after.table.get? key = left at hf ⊢
    generalize eventsOf key (perform send t s (.sweep now)).1.notices = events at hf
    cases hf with
    | spared hspares => exact hspares.elim
    | early hlt =>
      have hnot : ¬ tracking.deadline ≤ now := Nat.not_le_of_lt hlt
      refine Or.inl ⟨hresends.trans (if_neg fun hd => hnot hd.1), ?_⟩
      intro later hl
      exact ⟨(Option.some.inj hl).symm, hdue.trans (decide_eq_false hnot)⟩
    | resent hd ha =>
      refine Or.inr ⟨now, rfl, hd, ha, hresends.trans (if_pos ⟨hd, ha⟩),
        hdue.trans (decide_eq_true hd), ?_⟩
      intro later hl
      exact (Option.some.inj hl).symm
    | unsendable hd ha _ =>
      refine Or.inr ⟨now, rfl, hd, ha, hresends.trans (if_pos ⟨hd, ha⟩),
        hdue.trans (decide_eq_true hd), ?_⟩
      intro later hl
      cases hl
    | expired hd ha =>
      have hnot : ¬ (tracking.deadline ≤ now ∧ tracking.hasAttempt = true) := by
        rw [ha]
        exact fun hboth => Bool.false_ne_true hboth.2
      refine Or.inl ⟨hresends.trans (if_neg hnot), ?_⟩
      intro later hl
      cases hl
  · have hs' : ∀ now, operation ≠ .sweep now := fun now he => hs ⟨now, he⟩
    refine Or.inl ⟨resends_of_not_sweep send s hs' key, ?_⟩
    intro later hl
    refine ⟨?_, sweepsDue_of_not_sweep send s hs' key⟩
    obtain ⟨call', _, hf⟩ := perform_fate send h s operation ht hc
    rw [hl] at hf
    generalize eventsOf key (perform send t s operation).1.notices = events at hf
    cases hf with
    | spared _ => rfl
    | answered _ _ => rfl
    | early _ => rfl
    | resent _ _ => exact absurd rfl (hs' _)
    | disturbed _ => rfl

theorem sweep_early (h : Correlated t) (s : σ) {now : Instant}
    (ht : t.table.get? key = some tracking) (hc : t.calls.get? key = some call)
    (hlt : now < tracking.deadline) :
    (perform send t s (.sweep now)).1.after.table.get? key = some tracking ∧
      (perform send t s (.sweep now)).1.after.calls.get? key = some call ∧
      eventsOf key (perform send t s (.sweep now)).1.notices = [] ∧
      (perform send t s (.sweep now)).1.resends key = [] := by
  have hd : ∀ other, t.table.get? key = some other → now < other.deadline := by
    intro other ho
    rw [ht] at ho
    cases ho
    exact hlt
  obtain ⟨htable, hcalls, hevents⟩ := sweep_of_not_due (recording send) h now (s, []) hc hd
  have hresends := resends_sweep send h.table_distinct s now ht
  refine ⟨htable.trans ht, hcalls, hevents, hresends.trans (if_neg ?_)⟩
  exact fun hdue => Nat.not_le_of_lt hlt hdue.1

section Heeding
variable {payload : Bytes} {policy : Policy} {start : Instant}

theorem deadline_of_resends (h : Correlated t) (s : σ) {now : Instant}
    (hc : t.calls.get? key = some call)
    (hb : ∀ tracking, t.table.get? key = some tracking →
      WithinBudget payload policy start tracking)
    (hne : (perform send t s (.sweep now)).1.resends key ≠ []) {renewal : Tracking}
    (hl : (perform send t s (.sweep now)).1.after.table.get? key = some renewal) :
    renewal.deadline = now + policy.retryTimeout.nanos := by
  cases ht : t.table.get? key with
  | none => exact absurd (resends_of_not_mem send h.table_distinct s _ ht) hne
  | some tracking =>
    rcases perform_attempt send h s (.sweep now) ht hc with
      ⟨hnil, _⟩ | ⟨other, he, _, _, _, _, hl'⟩
    · exact absurd hnil hne
    · cases he
      rw [hl' renewal hl]
      exact congrArg (now + ·.nanos) (hb tracking ht).timeout_eq

/-- A call that a sweep gives up had all its attempts, each for its full time, or the sweep failed
to send it. -/
theorem departed_of_sweep (h : Correlated t) (s : σ) {now : Instant}
    (ht : t.table.get? key = some tracking) (hc : t.calls.get? key = some call)
    (hb : WithinBudget payload policy start tracking)
    (hl : (perform send t s (.sweep now)).1.after.table.get? key = none) :
    ((perform send t s (.sweep now)).1.resends key = [] ∧
      start + policy.attempts * policy.retryTimeout.nanos ≤ now ∧
      (perform send t s (.sweep now)).1.after.calls.get? key =
        some (call.failMissing Response.timeout).1) ∨
    ((perform send t s (.sweep now)).1.resends key ≠ [] ∧
      ∃ failure, t.policy.isRetryable failure = false ∧
        (perform send t s (.sweep now)).1.after.calls.get? key =
          some (call.failMissing (failureResponse failure)).1) := by
  have hresends := resends_sweep send h.table_distinct s now ht
  obtain ⟨call', hc', hf⟩ := perform_fate send h s (.sweep now) ht hc
  rw [hl] at hf
  generalize eventsOf key (perform send t s (.sweep now)).1.notices = events at hf
  cases hf with
  | unsendable hd ha hp =>
    rw [if_pos ⟨hd, ha⟩] at hresends
    refine Or.inr ⟨?_, _, hp, hc'⟩
    rw [hresends]
    exact List.cons_ne_nil _ _
  | expired hd ha =>
    have hnot : ¬ (tracking.deadline ≤ now ∧ tracking.hasAttempt = true) := by
      rw [ha]
      exact fun hboth => Bool.false_ne_true hboth.2
    exact Or.inl ⟨hresends.trans (if_neg hnot), hb.overdue hd ha, hc'⟩

/-- Where the timeout response comes from, whatever is done and however sending goes. -/
theorem timed_out_of_gives (h : Correlated t) (s : σ) {operation : Operation}
    (hc : t.calls.get? key = some call)
    (hb : ∀ tracking, t.table.get? key = some tracking →
      WithinBudget payload policy start tracking)
    {id : Json} (hg : (perform send t s operation).1.Gives key (Response.timeout id)) :
    operation = .respond (Response.timeout id) ∨ operation = .failAll ∨
      ∃ now, operation = .sweep now ∧
        start + policy.attempts * policy.retryTimeout.nanos ≤ now := by
  have hbefore : (perform send t s operation).1.before.calls.get? key = some call := by
    rw [before_perform]
    exact hc
  cases ht : t.table.get? key with
  | none =>
    obtain ⟨_, hevents, call', hc', hsame⟩ := perform_departed send h s operation ht hc
    have hanswers : call'.answers = call.answers := by
      rcases hsame with rfl | ⟨_, rfl⟩
      · rfl
      · exact call.answers_cancel
    have hgets := hg.gets hbefore hc'
    rw [hevents] at hgets
    exact absurd hgets (Call.not_gets hanswers List.not_mem_nil)
  | some tracking =>
    obtain ⟨call', hc', hf⟩ := perform_fate send h s operation ht hc
    rcases hf.gets (hg.gets hbefore hc') with hop | ⟨failure, other, he⟩ | hop | ⟨now, hop, hd, ha⟩
    · exact Or.inl hop
    · exact absurd he.symm (failureResponse_ne_timeout failure other id)
    · exact Or.inr (Or.inl hop)
    · exact Or.inr (Or.inr ⟨now, hop, (hb tracking ht).overdue hd ha⟩)

theorem tracking_of_not_sweep (h : Correlated t) (s : σ) {operation : Operation}
    (hs : ∀ now, operation ≠ .sweep now) (hc : t.calls.get? key = some call)
    (hl : (perform send t s operation).1.after.table.get? key = some tracking) :
    t.table.get? key = some tracking := by
  cases ht : t.table.get? key with
  | none =>
    obtain ⟨hnone, _⟩ := perform_departed send h s operation ht hc
    rw [hnone] at hl
    cases hl
  | some earlier =>
    rcases perform_attempt send h s operation ht hc with ⟨_, hl'⟩ | ⟨now, he, _⟩
    · rw [(hl' tracking hl).1]
    · exact absurd he (hs now)

theorem heeds_perform (h : Correlated t) (hc : t.calls.get? key = some call)
    (hb : ∀ tracking, t.table.get? key = some tracking →
      WithinBudget payload policy start tracking) (s : σ) (operation : Operation) :
    (perform send t s operation).1.Heeds key policy start := by
  refine ⟨length_announced send t s operation, ?_, ?_, ?_, ?_, ?_, ?_⟩
  · intro now tracking hop ht hlt
    rw [operation_perform] at hop
    subst hop
    rw [before_perform] at ht ⊢
    rw [hc]
    exact sweep_early send h s ht hc hlt
  · intro now renewal hop hne hl
    rw [operation_perform] at hop
    subst hop
    exact deadline_of_resends send h s hc hb hne hl
  · intro now hop hbefore hafter
    rw [operation_perform] at hop
    subst hop
    rw [before_perform] at hbefore ⊢
    obtain ⟨tracking, ht⟩ := Assoc.mem_keys_iff.mp hbefore
    rw [hc]
    exact departed_of_sweep send h s ht hc (hb tracking ht) (Assoc.get?_eq_none_iff.mpr hafter)
  · intro id hg
    rw [operation_perform]
    exact timed_out_of_gives send h s hc hb hg
  · intro hs
    rw [operation_perform] at hs
    refine ⟨resends_of_not_sweep send s hs key, ?_⟩
    intro later hl
    rw [before_perform]
    exact tracking_of_not_sweep send h s hs hc hl
  · intro other hop
    rw [operation_perform] at hop
    subst hop
    exact ⟨rfl, rfl, rfl⟩

end Heeding

/-! ## Whole runs -/

structure Followed (key : Nat) (payload : Bytes) (policy : Policy) (start : Instant)
    (past : List Moment) (t : Tracker) : Prop where
  correlated : Correlated t
  known : key ∈ t.calls.keys
  numbered : ∃ count, count + 1 ≤ policy.attempts ∧
    past.flatMap (·.resends key) = repeats payload count
  current : ∀ tracking, t.table.get? key = some tracking →
    WithinBudget payload policy start tracking ∧
      past.flatMap (·.resends key) = repeats payload (tracking.attempt - 1) ∧
      past.countP (·.sweepsDue key) + 1 = tracking.attempt
  heeded : ∀ m ∈ past, m.Heeds key policy start

theorem followed_register (h : Correlated t) {now : Instant} {payload : Bytes} {policy : Policy}
    {after : Tracker} (hr : t.register now call payload policy = .ok (key, after)) :
    Followed key payload policy now [] after := by
  obtain ⟨_, hkey, hafter⟩ := register_eq_ok_iff.mp hr
  have htable : t.table.get? key = none := by
    rw [hkey, Assoc.get?_eq_none_iff]
    exact fun hmem => h.nextKey_not_mem (h.known _ hmem)
  refine ⟨h.register hr, ?_, ⟨0, Nat.le_max_right _ _, rfl⟩, ?_, ?_⟩
  · rw [hafter]
    simp [Assoc.keys]
  · intro tracking ht
    rw [hafter, Assoc.get?_append, htable, Option.none_or] at ht
    simp only [Assoc.get?, if_true, Option.some.injEq] at ht
    subst ht
    refine ⟨⟨rfl, rfl, Nat.add_comm _ _, Nat.le_refl _, Nat.le_max_right _ _, ?_⟩, rfl, rfl⟩
    simp only [Nat.one_mul, Nat.le_refl]
  · exact fun m hm => absurd hm List.not_mem_nil

namespace Followed
variable {payload : Bytes} {policy : Policy} {start : Instant} {past : List Moment}

theorem perform (h : Followed key payload policy start past t) (s : σ) (operation : Operation) :
    Followed key payload policy start (past ++ [(Tracker.perform send t s operation).1])
      (Tracker.perform send t s operation).1.after := by
  obtain ⟨call, hc⟩ := Assoc.mem_keys_iff.mp h.known
  have hcorrelated := h.correlated.perform send s operation
  have hheeds := heeds_perform send h.correlated hc (fun tracking ht => (h.current tracking ht).1)
    s operation
  have hheeded : ∀ m ∈ past ++ [(Tracker.perform send t s operation).1],
      m.Heeds key policy start := by
    intro m hm
    rcases List.mem_append.mp hm with hm | hm
    · exact h.heeded m hm
    · rw [List.mem_singleton.mp hm]
      exact hheeds
  have hflat : (past ++ [(Tracker.perform send t s operation).1]).flatMap (·.resends key) =
      past.flatMap (·.resends key) ++ (Tracker.perform send t s operation).1.resends key := by
    rw [List.flatMap_append, List.flatMap_singleton]
  have hcount : (past ++ [(Tracker.perform send t s operation).1]).countP (·.sweepsDue key) =
      past.countP (·.sweepsDue key) +
        if (Tracker.perform send t s operation).1.sweepsDue key = true then 1 else 0 := by
    rw [List.countP_append, List.countP_singleton]
  -- off the table nothing is sent any more; on it the count of attempts and the list grow together
  cases ht : t.table.get? key with
  | none =>
    obtain ⟨hnone, _, call', hc', _⟩ := perform_departed send h.correlated s operation ht hc
    have hresends := resends_of_not_mem send h.correlated.table_distinct s operation ht
    refine ⟨hcorrelated, Assoc.mem_keys_of_get? hc', ?_, ?_, hheeded⟩
    · rw [hflat, hresends, List.append_nil]
      exact h.numbered
    · intro later hl
      rw [hnone] at hl
      cases hl
  | some tracking =>
    obtain ⟨hbudget, hpast, hsweeps⟩ := h.current tracking ht
    obtain ⟨call', hc', _⟩ := perform_fate send h.correlated s operation ht hc
    have hknown := Assoc.mem_keys_of_get? hc'
    rcases perform_attempt send h.correlated s operation ht hc with
      ⟨hnil, hl'⟩ | ⟨now, _, hd, ha, hone, hdue, hl'⟩
    · rw [hnil, List.append_nil] at hflat
      refine ⟨hcorrelated, hknown, hflat ▸ h.numbered, ?_, hheeded⟩
      intro later hl
      obtain ⟨rfl, hnot⟩ := hl' later hl
      rw [hflat, hcount, hnot]
      exact ⟨hbudget, hpast, hsweeps⟩
    · have hrenewed := hbudget.renew hd ha
      rw [hone, hpast, hbudget.payload_eq, ← hbudget.repeats_attempt] at hflat
      refine ⟨hcorrelated, hknown, ⟨tracking.attempt, hrenewed.allowed, hflat⟩, ?_, hheeded⟩
      intro later hl
      rw [hl' later hl, hflat, hcount, hdue, if_pos rfl, hsweeps]
      exact ⟨hrenewed, rfl, rfl⟩

end Followed

/-- Every call keeps within the budget of the policy it was accepted under, whatever is done with
the tracker afterwards, other policies included. -/
theorem keeps_budget {first policy : Policy} {s : σ} {earlier : List Operation} {now : Instant}
    {payload : Bytes} {after : Tracker}
    (hr : (reached send (new first) s earlier).1.register now call payload policy =
      .ok (key, after)) (s' : σ) (later : List Operation) :
    KeepsBudget key payload policy now (history send after s' later)
      (reached send after s' later).1 := by
  have hstart := followed_register (correlated_reached send first s earlier) hr
  have hend : Followed key payload policy now (history send after s' later)
      (reached send after s' later).1 :=
    history_preserves send (fun past t s operation _ h => h.perform send s operation) hstart s'
      fun operation _ => trivial
  refine ⟨hend.numbered, hend.heeded, ?_⟩
  intro hdue hmem
  obtain ⟨tracking, ht⟩ := Assoc.mem_keys_iff.mp hmem
  obtain ⟨hbudget, _, hsweeps⟩ := hend.current tracking ht
  have hallowed := hbudget.allowed
  omega

end Budget

/-- Three attempts are all used although the policy is replaced meanwhile. The first sweep comes too
early and the last one finds no attempt left. -/
theorem keeps_budget_three_attempts :
    let send : Bytes → Unit → Except Failure Unit × Unit := fun _ s => (.ok (), s)
    let policy : Policy := .withRetry (.ofSeconds 1) 3 ⟨0⟩
    let after := (new policy).registered 0 (.new [.int 1]) [65] policy
    let later : List Operation :=
      [.sweep 999999999, .sweep 1000000000, .setPolicy (.withRetry (.ofSeconds 9) 9 ⟨0⟩),
        .sweep 2500000000, .sweep 3500000000]
    let moments := history send after () later
    (reached send (new policy) () []).1.register 0 (.new [.int 1]) [65] policy =
        .ok (1, after) ∧
      policy.attempts ≤ moments.countP (·.sweepsDue 1) ∧
      1 ∉ (reached send after () later).1.table.keys ∧
      moments.flatMap (·.resends 1) = repeats [65] 2 := by
  intro send policy after later moments
  have hr : (reached send (new policy) () []).1.register 0 (.new [.int 1]) [65] policy =
      .ok (1, after) := rfl
  have hdue : policy.attempts ≤ moments.countP (·.sweepsDue 1) := by decide
  have hkeeps := keeps_budget send hr () later
  exact ⟨hr, hdue, hkeeps.bounded hdue, by decide⟩

end Tracker
end BrokerRpc
