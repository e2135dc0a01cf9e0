import BrokerRpc.Proofs.Tracker.Waiting

/-! # Calls at the end of a connection

A lost connection tells the owner of every call in flight, and of no other. If the failure allows
another attempt, that is all it does. Any other failure completes the calls in flight with what they
had and a response with the text of the failure for each id that misses one; closing completes them
in the same way, with the text of a timeout. Nothing is in flight after that.
-/
namespace BrokerRpc.Tracker

variable {t : Tracker}

theorem table_foldl_remove_keys (t : Tracker) : (t.table.keys.foldl remove t).table = [] :=
  Assoc.eq_nil_of_get? (get?_table_foldl_remove_keys t)

theorem mem_calls_foldl_remove (h : Correlated t) :
    ∀ key ∈ t.table.keys, key ∈ (t.table.keys.foldl remove t).calls.keys := by
  rw [calls_foldl_remove]
  exact h.known

theorem Correlated.get?_index_of_idle (h : Correlated t) (ht : t.table = []) (id : String) :
    t.index.get? id = none := by
  cases hi : t.index.get? id with
  | none => rfl
  | some key =>
    have hmem := ((h.index_iff id key).mp hi).1
    rw [ht] at hmem
    exact absurd hmem List.not_mem_nil

/-! ## Losing the connection -/

theorem fst_forEach_lose (failure : Failure) (t : Tracker) (keys : List Nat) :
    (forEach (lose failure false) t keys).1 = t := by
  induction keys with
  | nil => rfl
  | cons key keys ih => exact ih

theorem linkLost_of_retryable {failure : Failure} (hp : t.policy.isRetryable failure = true) :
    (t.linkLost failure).1 = t := by
  simp only [linkLost, hp, if_true]
  exact fst_forEach_lose failure t _

theorem Correlated.table_linkLost (h : Correlated t) {failure : Failure}
    (hp : t.policy.isRetryable failure = false) : (t.linkLost failure).1.table = [] := by
  simp only [Tracker.linkLost, hp, Bool.false_eq_true, if_false]
  rw [forEach_eq (actsOnCall_lose failure true) (mem_calls_foldl_remove h)]
  exact table_foldl_remove_keys t

theorem Attended.linkLost_inFlight (h : Attended t) {failure : Failure}
    (hp : t.policy.isRetryable failure = false) {key : Nat} (hkey : key ∈ t.table.keys) :
    ∃ call, t.calls.get? key = some call ∧ call.Sound ∧
      (t.linkLost failure).1.calls.get? key = some (call.completed (failureResponse failure)) ∧
      eventsOf key (t.linkLost failure).2 = .linkLost failure.message ::
        call.missing.map fun id => .resolved (failureResponse failure id) := by
  obtain ⟨call, hcall, hpending, hsound⟩ := h.inFlight hkey
  obtain ⟨_, hcalls, hevents⟩ := linkLost_spec h.correlated failure hcall
  have hid : ∀ id, (failureResponse failure id).id = id := fun _ => rfl
  have hfail := hsound.failMissing_eq hpending hid
  rw [if_pos hkey, hp, Bool.not_false, lossOf, if_pos rfl, hfail] at hcalls hevents
  exact ⟨call, hcall, hsound, hcalls, hevents⟩

/-! ## Closing -/

section Run
variable {σ : Type} (send : Bytes → σ → Except Failure Unit × σ)

/-- What the loss of a connection means, wherever a run of a tracker has come to. No call that is
not in flight changes, and its owner is told nothing. A failure that the current policy lets be
tried again leaves the tracker as it was, deadlines and attempts included, and tells the owner of
each call in flight of the loss, once. After any other nothing is in flight and no id leads anywhere:
each call that was in flight is done with the responses it had and one with the text of the failure
for each id without, and its owner is told of the loss first and then of each new response. -/
theorem link_loss_outcome (policy : Policy) (s : σ) {operations : List Operation}
    (hproper : ∀ operation ∈ operations, operation.Proper) (failure : Failure) :
    let t := (reached send (new policy) s operations).1
    let t' := (t.linkLost failure).1
    let notices := (t.linkLost failure).2
    let made := fun id => Response.failure id 5022 failure.message
    (∀ key call, t.calls.get? key = some call → key ∉ t.table.keys →
      t'.calls.get? key = some call ∧ eventsOf key notices = []) ∧
    (t.policy.isRetryable failure = true → t' = t ∧
      ∀ key ∈ t.table.keys, eventsOf key notices = [.linkLost failure.message]) ∧
    (t.policy.isRetryable failure = false → t'.table = [] ∧ (∀ id, t'.index.get? id = none) ∧
      ∀ key ∈ t.table.keys, ∃ call call', t.calls.get? key = some call ∧
        t'.calls.get? key = some call' ∧ call'.status = .done ∧ call'.ids = call.ids ∧
        call'.answers = call.answers ++
          (call.missing.map fun id => (Response.idKey id, made id)) ∧
        call'.responses = (call.ids.map fun id =>
          (call.answers.get? (Response.idKey id)).getD (made id)) ∧
        eventsOf key notices =
          .linkLost failure.message :: call.missing.map fun id => .resolved (made id)) := by
  intro t t' notices made
  have h : Attended t := (attended_new policy).steps (steps_reached send (new policy) s hproper)
  refine ⟨fun key call hcall hkey => ?_, fun hp => ⟨linkLost_of_retryable hp, fun key hkey => ?_⟩,
    fun hp => ⟨h.correlated.table_linkLost hp, fun id => ?_, fun key hkey => ?_⟩⟩
  · obtain ⟨_, hcalls, hevents⟩ := linkLost_spec h.correlated failure hcall
    rw [if_neg hkey] at hcalls hevents
    exact ⟨hcalls, hevents⟩
  · obtain ⟨call, hcall, _⟩ := h.inFlight hkey
    obtain ⟨_, _, hevents⟩ := linkLost_spec h.correlated failure hcall
    rw [if_pos hkey, hp] at hevents
    exact hevents
  · exact (h.correlated.linkLost failure).get?_index_of_idle (h.correlated.table_linkLost hp) id
  · obtain ⟨call, hcall, hsound, hcalls, hevents⟩ := h.linkLost_inFlight hp hkey
    exact ⟨call, call.completed made, hcall, hcalls, rfl, rfl, rfl,
      hsound.responses_completed made, hevents⟩

end Run

/-- The policy of a call with one of two answers allows attempts after socket failures, but at the
loss it is another one that does not. -/
theorem link_loss_outcome_half_answered :
    let send : Bytes → Unit → Except Failure Unit × Unit := fun _ s => (.ok (), s)
    let answer : Response := .success (.str "a") .null
    let strict : Policy := .withRetry (.ofSeconds 1) 1 ⟨0⟩
    let operations : List Operation :=
      [.register 0 (.new [.int 1, .str "a"]) [65] .standard, .respond answer, .setPolicy strict]
    let t := (reached send (new .standard) () operations).1
    let reset : Failure := .io ⟨.connectionReset, "reset"⟩
    Policy.standard.isRetryable reset = true ∧ (∀ operation ∈ operations, operation.Proper) ∧
      (t.linkLost reset).1.table = [] ∧
      eventsOf 1 (t.linkLost reset).2 =
        [.linkLost "I/O error: reset", .resolved (.failure (.int 1) 5022 "I/O error: reset")] ∧
      ∃ call, (t.linkLost reset).1.calls.get? 1 = some call ∧ call.status = .done ∧
        call.responses = [.failure (.int 1) 5022 "I/O error: reset", answer] := by
  intro send answer strict operations t reset
  have hproper : ∀ operation ∈ operations, operation.Proper := by
    intro operation hmem
    simp only [operations, List.mem_cons, List.not_mem_nil, or_false] at hmem
    rcases hmem with rfl | rfl | rfl
    · exact ⟨_, rfl, by simp, by decide⟩
    · trivial
    · trivial
  obtain ⟨_, _, hfinal⟩ := link_loss_outcome send .standard () hproper reset
  obtain ⟨htable, _, hcalls⟩ := hfinal (by decide)
  obtain ⟨call, call', hcall, hcall', hdone, _, _, hresponses, hevents⟩ :=
    hcalls 1 (by decide)
  have hbefore : t.calls.get? 1 = some
      { ids := [.int 1, .str "a"], answers := [(Response.idKey (.str "a"), answer)] } := by decide
  obtain rfl := Option.some.inj (hcall.symm.trans hbefore)
  refine ⟨by decide, hproper, htable, hevents.trans (by decide), call', hcall', hdone, ?_⟩
  exact hresponses.trans (by decide)

end BrokerRpc.Tracker
