import BrokerRpc.Proofs.Tracker.Correlation

/-! # Sweeping

A sweep gives up the due calls without another attempt and sends the others again. What it does to
a call depends on the call and its own tracking alone, and on the answer to its own request: the
other calls do not matter, nor does the order of the requests.
-/
namespace BrokerRpc.Tracker

/-! ## Sending again -/

section Resend
variable {σ : Type} (send : Bytes → σ → Except Failure Unit × σ)

theorem resend_of_ne (t : Tracker) (s : σ) {key other : Nat} (h : key ≠ other)
    (tracking : Tracking) :
    (resend send t s key tracking).1.table.get? other = t.table.get? other ∧
      (resend send t s key tracking).1.calls.get? other = t.calls.get? other ∧
      (resend send t s key tracking).1.policy = t.policy ∧
      eventsOf other (resend send t s key tracking).2.2 = [] := by
  have h' : other ≠ key := fun e => h e.symm
  rcases resend_cases send t s key tracking with ⟨he, hn⟩ | ⟨failure, _, he, hn⟩
  · rw [he, hn]
    exact ⟨rfl, rfl, rfl, by simp [h]⟩
  · rw [he, hn, resolve, change_eq]
    refine ⟨?_, ?_, policy_remove t key, ?_⟩
    · rw [get?_table_remove, if_neg h']
    · rw [get?_calls_change, if_neg h', calls_remove]
    · rw [eventsOf_cons, if_neg h, eventsOf_change_of_ne _ h]

theorem resendAll_of_not_mem (t : Tracker) (s : σ) {due : Assoc Nat Tracking} {key : Nat}
    (h : key ∉ due.keys) :
    (resendAll send t s due).1.table.get? key = t.table.get? key ∧
      (resendAll send t s due).1.calls.get? key = t.calls.get? key ∧
      eventsOf key (resendAll send t s due).2.2 = [] := by
  induction due generalizing t s with
  | nil => exact ⟨rfl, rfl, rfl⟩
  | cons entry rest ih =>
    obtain ⟨other, tracking⟩ := entry
    obtain ⟨hne, hrest⟩ := not_or.mp (fun hm => h (List.mem_cons.mpr hm))
    obtain ⟨ht, hc, _, he⟩ := resend_of_ne send t s (Ne.symm hne) tracking
    obtain ⟨ht', hc', he'⟩ :=
      ih (resend send t s other tracking).1 (resend send t s other tracking).2.1 hrest
    rw [resendAll_cons]
    refine ⟨ht'.trans ht, hc'.trans hc, ?_⟩
    rw [eventsOf_append, he, he']
    rfl

theorem resendAll_of_mem (t : Tracker) (s : σ) {due : Assoc Nat Tracking} (hd : due.Distinct)
    {key : Nat} {tracking : Tracking} (hm : (key, tracking) ∈ due) {call : Call}
    (hc : t.calls.get? key = some call) :
    ((resendAll send t s due).1.table.get? key = t.table.get? key ∧
        (resendAll send t s due).1.calls.get? key = some call ∧
        eventsOf key (resendAll send t s due).2.2 = [.retrying tracking.attempt]) ∨
      ∃ failure, t.policy.isRetryable failure = false ∧
        (resendAll send t s due).1.table.get? key = none ∧
        (resendAll send t s due).1.calls.get? key =
          some (call.failMissing (failureResponse failure)).1 ∧
        eventsOf key (resendAll send t s due).2.2 =
          .retrying tracking.attempt :: (call.failMissing (failureResponse failure)).2 := by
  induction due generalizing t s with
  | nil => exact absurd hm List.not_mem_nil
  | cons entry rest ih =>
    obtain ⟨other, first⟩ := entry
    obtain ⟨hnew, hrest⟩ := List.nodup_cons.mp hd
    rw [resendAll_cons, eventsOf_append]
    by_cases hk : other = key
    -- the attempt of the call itself, after which only other keys are left
    · subst hk
      have hfirst : first = tracking := by
        rcases List.mem_cons.mp hm with he | hm
        · cases he
          rfl
        · exact absurd (List.mem_map.mpr ⟨_, hm, rfl⟩) hnew
      subst hfirst
      obtain ⟨ht', hc', he'⟩ := resendAll_of_not_mem send (resend send t s other first).1
        (resend send t s other first).2.1 hnew
      rcases resend_cases send t s other first with ⟨he, hn⟩ | ⟨failure, hp, he, hn⟩
      · refine Or.inl ⟨ht'.trans ?_, hc'.trans ?_, ?_⟩
        · rw [he]
        · rw [he, hc]
        · rw [hn, he']
          simp
      · refine Or.inr ⟨failure, hp, ht'.trans ?_, hc'.trans ?_, ?_⟩
        · rw [he, resolve, change_eq, get?_table_remove, if_pos rfl]
        · rw [he, resolve, get?_calls_change, if_pos rfl, calls_remove, hc]
          rfl
        · have hcr : (t.remove other).calls.get? other = some call := by rw [calls_remove, hc]
          rw [hn, he', resolve, change_of_get? hcr]
          simp [eventsOf_map]
    · have hm' : (key, tracking) ∈ rest := by
        rcases List.mem_cons.mp hm with he | hm
        · cases he
          exact absurd rfl hk
        · exact hm
      obtain ⟨ht, hc₁, hp, he⟩ := resend_of_ne send t s hk first
      have hrec := ih (resend send t s other first).1 (resend send t s other first).2.1 hrest hm'
        (hc₁.trans hc)
      rw [ht, hp] at hrec
      rw [he, List.nil_append]
      exact hrec

end Resend

/-! ## Sweeping -/

def expiredAt (t : Tracker) (now : Instant) : List Nat :=
  Assoc.keys ((t.due now).filter fun entry => !entry.2.hasAttempt)

def renewedAt (t : Tracker) (now : Instant) : Assoc Nat Tracking :=
  ((t.due now).filter fun entry => entry.2.hasAttempt).map fun entry =>
    (entry.1, entry.2.renew now)

def settled (t : Tracker) (now : Instant) : Tracker × List CallNotice :=
  forEach (resolve · Response.timeout ·) ((t.expiredAt now).foldl remove (t.renewDue now))
    (t.expiredAt now)

section Sweep
variable {σ : Type} (send : Bytes → σ → Except Failure Unit × σ) {t : Tracker}

theorem sweep_eq (t : Tracker) (now : Instant) (s : σ) :
    t.sweep send now s =
      ((resendAll send (t.settled now).1 s (t.renewedAt now)).1,
        (resendAll send (t.settled now).1 s (t.renewedAt now)).2.1,
        (t.settled now).2 ++ (resendAll send (t.settled now).1 s (t.renewedAt now)).2.2) := rfl

theorem keys_calls_sweep (t : Tracker) (now : Instant) (s : σ) :
    (t.sweep send now s).1.calls.keys = t.calls.keys := by
  rw [sweep_eq, keys_calls_resendAll, settled,
    keys_calls_forEach (keys_calls_resolve _), calls_foldl_remove]
  rfl

theorem keys_due_sublist (t : Tracker) (now : Instant) (p : Nat × Tracking → Bool) :
    (Assoc.keys ((t.due now).filter p)).Sublist t.table.keys := by
  have h : ((t.due now).filter p).Sublist t.table :=
    List.filter_sublist.trans List.filter_sublist
  exact h.map Prod.fst

theorem nodup_expiredAt (h : t.table.Distinct) (now : Instant) : (t.expiredAt now).Nodup :=
  (keys_due_sublist t now _).nodup h

theorem keys_renewedAt (t : Tracker) (now : Instant) : (t.renewedAt now).keys =
    Assoc.keys ((t.due now).filter fun entry => entry.2.hasAttempt) := by
  rw [renewedAt]
  exact Assoc.keys_map _ fun tracking : Tracking => tracking.renew now

theorem distinct_renewedAt (h : t.table.Distinct) (now : Instant) :
    (t.renewedAt now).Distinct := by
  rw [Assoc.Distinct, keys_renewedAt]
  exact (keys_due_sublist t now _).nodup h

theorem mem_due_filter_iff (h : t.table.Distinct) {now : Instant} {p : Nat × Tracking → Bool}
    {key : Nat} {tracking : Tracking} : (key, tracking) ∈ (t.due now).filter p ↔
      t.table.get? key = some tracking ∧ tracking.deadline ≤ now ∧ p (key, tracking) = true := by
  rw [List.mem_filter, due, List.mem_filter, Assoc.mem_iff_get? h, decide_eq_true_iff, and_assoc]

theorem mem_expiredAt_iff (h : t.table.Distinct) {now : Instant} {key : Nat} :
    key ∈ t.expiredAt now ↔ ∃ tracking, t.table.get? key = some tracking ∧
      tracking.deadline ≤ now ∧ tracking.hasAttempt = false := by
  rw [expiredAt, Assoc.keys, List.mem_map]
  constructor
  · rintro ⟨⟨_, tracking⟩, hm, rfl⟩
    obtain ⟨hg, hd, ha⟩ := (mem_due_filter_iff h).mp hm
    exact ⟨tracking, hg, hd, by simpa using ha⟩
  · rintro ⟨tracking, hg, hd, ha⟩
    exact ⟨(key, tracking), (mem_due_filter_iff h).mpr ⟨hg, hd, by simp [ha]⟩, rfl⟩

theorem mem_renewedAt_iff (h : t.table.Distinct) {now : Instant} {key : Nat}
    {renewal : Tracking} : (key, renewal) ∈ t.renewedAt now ↔
      ∃ tracking, t.table.get? key = some tracking ∧ tracking.deadline ≤ now ∧
        tracking.hasAttempt = true ∧ renewal = tracking.renew now := by
  rw [renewedAt, List.mem_map]
  constructor
  · rintro ⟨⟨_, tracking⟩, hm, he⟩
    cases he
    obtain ⟨hg, hd, ha⟩ := (mem_due_filter_iff h).mp hm
    exact ⟨tracking, hg, hd, ha, rfl⟩
  · rintro ⟨tracking, hg, hd, ha, rfl⟩
    exact ⟨(key, tracking), (mem_due_filter_iff h).mpr ⟨hg, hd, ha⟩, rfl⟩

theorem mem_keys_renewedAt_iff (h : t.table.Distinct) {now : Instant} {key : Nat} :
    key ∈ (t.renewedAt now).keys ↔ ∃ tracking, t.table.get? key = some tracking ∧
      tracking.deadline ≤ now ∧ tracking.hasAttempt = true := by
  rw [keys_renewedAt, Assoc.keys, List.mem_map]
  constructor
  · rintro ⟨⟨_, tracking⟩, hm, rfl⟩
    exact ⟨tracking, (mem_due_filter_iff h).mp hm⟩
  · rintro ⟨tracking, hg, hd, ha⟩
    exact ⟨(key, tracking), (mem_due_filter_iff h).mpr ⟨hg, hd, ha⟩, rfl⟩

/-- What becomes of a call at a sweep is decided by its own tracking. -/
theorem mem_expiredAt_iff_of_get? (h : t.table.Distinct) {now : Instant} {key : Nat}
    {tracking : Tracking} (ht : t.table.get? key = some tracking) :
    key ∈ t.expiredAt now ↔ tracking.deadline ≤ now ∧ tracking.hasAttempt = false := by
  rw [mem_expiredAt_iff h, ht]
  simp only [Option.some.injEq, exists_eq_left']

theorem mem_keys_renewedAt_iff_of_get? (h : t.table.Distinct) {now : Instant} {key : Nat}
    {tracking : Tracking} (ht : t.table.get? key = some tracking) :
    key ∈ (t.renewedAt now).keys ↔ tracking.deadline ≤ now ∧ tracking.hasAttempt = true := by
  rw [mem_keys_renewedAt_iff h, ht]
  simp only [Option.some.injEq, exists_eq_left']

theorem get?_table_renewDue (t : Tracker) (now : Instant) (key : Nat) :
    (t.renewDue now).table.get? key = (t.table.get? key).map fun tracking =>
      if tracking.deadline ≤ now ∧ tracking.hasAttempt then tracking.renew now else tracking := by
  rw [← Assoc.get?_map]
  simp only [renewDue]
  congr 1
  refine List.map_congr_left fun entry _ => ?_
  split <;> rfl

theorem mem_keys_of_mem_expiredAt {now : Instant} {key : Nat} (hm : key ∈ t.expiredAt now) :
    key ∈ t.table.keys := (keys_due_sublist t now _).subset hm

/-- What a sweep does to a call before it sends anything. -/
theorem settled_spec (h : Correlated t) (now : Instant) {key : Nat} {call : Call}
    (hc : t.calls.get? key = some call) :
    (t.settled now).1.policy = t.policy ∧
      (t.settled now).1.table.get? key =
        (if key ∈ t.expiredAt now then none else (t.renewDue now).table.get? key) ∧
      (t.settled now).1.calls.get? key =
        some (if key ∈ t.expiredAt now then (call.failMissing Response.timeout).1 else call) ∧
      eventsOf key (t.settled now).2 =
        if key ∈ t.expiredAt now then (call.failMissing Response.timeout).2 else [] := by
  have hs := actsOnCall_resolve Response.timeout
  have hk : ∀ k ∈ t.expiredAt now,
      k ∈ ((t.expiredAt now).foldl remove (t.renewDue now)).calls.keys := by
    intro k hm
    rw [calls_foldl_remove]
    exact h.known k (mem_keys_of_mem_expiredAt hm)
  have hc' : ((t.expiredAt now).foldl remove (t.renewDue now)).calls.get? key = some call := by
    rw [calls_foldl_remove]
    exact hc
  obtain ⟨hcalls, hevents⟩ :=
    get?_calls_forEach hs hk (nodup_expiredAt h.table_distinct now) hc'
  refine ⟨?_, ?_, hcalls, hevents⟩
  · rw [settled, forEach_eq hs hk]
    exact policy_foldl_remove _ _
  · rw [settled, forEach_eq hs hk]
    exact get?_table_foldl_remove _ _ _

theorem sweep_of_not_due (h : Correlated t) (now : Instant) (s : σ) {key : Nat} {call : Call}
    (hc : t.calls.get? key = some call)
    (hd : ∀ tracking, t.table.get? key = some tracking → now < tracking.deadline) :
    (t.sweep send now s).1.table.get? key = t.table.get? key ∧
      (t.sweep send now s).1.calls.get? key = some call ∧
      eventsOf key (t.sweep send now s).2.2 = [] := by
  have he : key ∉ t.expiredAt now := by
    rw [mem_expiredAt_iff h.table_distinct]
    rintro ⟨tracking, hg, hle, _⟩
    exact Nat.not_le_of_lt (hd tracking hg) hle
  have hr : key ∉ (t.renewedAt now).keys := by
    rw [mem_keys_renewedAt_iff h.table_distinct]
    rintro ⟨tracking, hg, hle, _⟩
    exact Nat.not_le_of_lt (hd tracking hg) hle
  obtain ⟨_, ht, hcalls, hev⟩ := settled_spec h now hc
  obtain ⟨ht', hcalls', hev'⟩ := resendAll_of_not_mem send (t.settled now).1 s hr
  rw [if_neg he] at ht hcalls hev
  rw [sweep_eq]
  refine ⟨?_, ?_, ?_⟩
  · rw [ht', ht, get?_table_renewDue]
    cases hg : t.table.get? key with
    | none => rfl
    | some tracking =>
      have hlt : ¬ (tracking.deadline ≤ now ∧ tracking.hasAttempt = true) :=
        fun hle => Nat.not_le_of_lt (hd tracking hg) hle.1
      rw [Option.map_some, if_neg hlt]
  · rw [hcalls', hcalls]
  · rw [eventsOf_append, hev, hev']
    rfl

end Sweep

end BrokerRpc.Tracker
