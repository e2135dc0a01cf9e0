import BrokerRpc.Proofs.Tracker.Effects
import BrokerRpc.Proofs.Tracker.Resolution

/-! # Ids and calls in flight

The index and the table are written by different lines of every operation, and still tell the same:
an id leads to a call exactly while that call is in flight and lists the id. Keys are given out
once, so that the key of a call that left the table never leads to another call.
-/
namespace BrokerRpc

namespace Tracker

/-- The index and the table tell the same, and every key was given out before. -/
structure Correlated (t : Tracker) : Prop where
  calls_distinct : t.calls.Distinct
  table_distinct : t.table.Distinct
  known : ∀ key ∈ t.table.keys, key ∈ t.calls.keys
  issued : ∀ key ∈ t.calls.keys, key < t.nextKey
  index_iff : ∀ id key, t.index.get? id = some key ↔ key ∈ t.table.keys ∧ id ∈ t.idsOf key

theorem correlated_new (policy : Policy) : Correlated (new policy) where
  calls_distinct := List.nodup_nil
  table_distinct := List.nodup_nil
  known := fun _ h => absurd h List.not_mem_nil
  issued := fun _ h => absurd h List.not_mem_nil
  index_iff := fun id key => by simp [new, Assoc.get?, Assoc.keys]

theorem idsOf_eq {t : Tracker} {key : Nat} {call : Call} (h : t.calls.get? key = some call) :
    t.idsOf key = call.keys := by
  rw [idsOf, h]
  rfl

theorem idsOf_remove (t : Tracker) (key other : Nat) :
    (t.remove key).idsOf other = t.idsOf other := by
  simp only [idsOf, calls_remove]

theorem mem_keys_remove_iff {t : Tracker} {key other : Nat} :
    other ∈ (t.remove key).table.keys ↔ other ≠ key ∧ other ∈ t.table.keys := by
  simp only [Assoc.mem_keys_iff, get?_table_remove]
  by_cases h : other = key <;> simp [h]

theorem distinct_remove {t : Tracker} (key : Nat) (h : t.table.Distinct) :
    (t.remove key).table.Distinct := by
  unfold Tracker.remove
  split
  · exact Assoc.distinct_erase _ h
  · exact h

namespace Correlated
variable {t : Tracker}

theorem eq_of_mem_idsOf (h : Correlated t) {first second : Nat} {id : String}
    (hf : first ∈ t.table.keys) (hs : second ∈ t.table.keys)
    (hif : id ∈ t.idsOf first) (his : id ∈ t.idsOf second) : first = second := by
  have h₁ := (h.index_iff id first).mpr ⟨hf, hif⟩
  have h₂ := (h.index_iff id second).mpr ⟨hs, his⟩
  rw [h₁] at h₂
  exact Option.some.inj h₂

theorem with_calls (h : Correlated t) {calls : Assoc Nat Call} (hk : calls.keys = t.calls.keys)
    (hi : ∀ key, (calls.get? key).map Call.keys = (t.calls.get? key).map Call.keys) :
    Correlated { t with calls } where
  calls_distinct := Assoc.distinct_of_keys_eq hk h.calls_distinct
  table_distinct := h.table_distinct
  known := fun key hmem => hk ▸ h.known key hmem
  issued := fun key hmem => h.issued key (hk ▸ hmem)
  index_iff := fun id key => by
    have hids : idsOf { t with calls } key = t.idsOf key := congrArg (·.getD []) (hi key)
    rw [hids]
    exact h.index_iff id key

/-- Taking a call off the table takes its ids out of the index, and no others. -/
theorem get?_index_remove (h : Correlated t) (key other : Nat) (id : String) :
    (t.remove key).index.get? id = some other ↔ other ≠ key ∧ t.index.get? id = some other := by
  by_cases hmem : key ∈ t.table.keys
  · rw [remove_of_mem hmem]
    simp only [Assoc.get?_foldl_erase]
    constructor
    · intro hi
      split at hi
      · cases hi
      · rename_i hnot
        exact ⟨fun he => hnot (he ▸ ((h.index_iff id other).mp hi).2), hi⟩
    · rintro ⟨hne, hi⟩
      obtain ⟨hother, hid⟩ := (h.index_iff id other).mp hi
      rw [if_neg fun hid' => hne (h.eq_of_mem_idsOf hother hmem hid hid')]
      exact hi
  · rw [remove_of_not_mem hmem]
    constructor
    · intro hi
      exact ⟨fun he => hmem (he ▸ ((h.index_iff id other).mp hi).1), hi⟩
    · exact And.right

theorem remove (h : Correlated t) (key : Nat) : Correlated (t.remove key) where
  calls_distinct := by
    rw [calls_remove]
    exact h.calls_distinct
  table_distinct := distinct_remove key h.table_distinct
  known := fun other hmem => by
    rw [calls_remove]
    exact h.known other (mem_keys_remove_iff.mp hmem).2
  issued := fun other hmem => by
    rw [calls_remove] at hmem
    rw [nextKey_remove]
    exact h.issued other hmem
  index_iff := fun id other => by
    rw [h.get?_index_remove, h.index_iff, mem_keys_remove_iff, idsOf_remove, and_assoc]

theorem foldl_remove (h : Correlated t) (keys : List Nat) :
    Correlated (keys.foldl Tracker.remove t) := by
  induction keys generalizing t with
  | nil => exact h
  | cons key keys ih => exact ih (h.remove key)

theorem change (h : Correlated t) (key : Nat) {f : Call → Call × List CallEvent}
    (hf : ∀ c, (f c).1.ids = c.ids) : Correlated (t.change key f).1 := by
  cases hc : t.calls.get? key with
  | none =>
    rw [Tracker.change, hc]
    exact h
  | some call =>
    rw [change_of_get? hc]
    refine h.with_calls ?_ ?_
    · rw [Assoc.keys_put, if_pos (Assoc.mem_keys_of_get? hc)]
    · intro k
      rw [Assoc.get?_put]
      split
      · rename_i he
        rw [he, hc]
        exact congrArg (fun ids => some (ids.map Response.idKey)) (hf call)
      · rfl

theorem forEach (h : Correlated t) {step : Tracker → Nat → Tracker × List CallNotice}
    {f : Call → Call × List CallEvent} (hs : ActsOnCall step f) (hf : ∀ c, (f c).1.ids = c.ids)
    {keys : List Nat} (hk : ∀ key ∈ keys, key ∈ t.calls.keys) :
    Correlated (Tracker.forEach step t keys).1 := by
  induction keys generalizing t with
  | nil => exact h
  | cons key keys ih =>
    obtain ⟨call, hc⟩ := Assoc.mem_keys_iff.mp (hk key List.mem_cons_self)
    have hfirst := h.change key hf
    have hstep := hs t key call hc
    rw [← change_of_get? hc f] at hstep
    have hkeys := keys_calls_change t key f
    simp only [Tracker.forEach, hstep]
    exact ih hfirst fun k hmem => hkeys ▸ hk k (List.mem_cons_of_mem _ hmem)

theorem renewDue (h : Correlated t) (now : Instant) : Correlated (t.renewDue now) := by
  have hk : (t.renewDue now).table.keys = t.table.keys := by
    simp only [Tracker.renewDue, Assoc.keys, List.map_map]
    refine List.map_congr_left fun entry _ => ?_
    simp only [Function.comp_apply]
    split <;> rfl
  refine ⟨h.calls_distinct, Assoc.distinct_of_keys_eq hk h.table_distinct, ?_, h.issued, ?_⟩
  · intro key hmem
    exact h.known key (hk ▸ hmem)
  · intro id key
    rw [hk]
    exact h.index_iff id key

theorem resendAll {σ : Type} (send : Bytes → σ → Except Failure Unit × σ) (h : Correlated t)
    (s : σ) (due : Assoc Nat Tracking) : Correlated (Tracker.resendAll send t s due).1 := by
  induction due generalizing t s with
  | nil => exact h
  | cons entry rest ih =>
    obtain ⟨key, tracking⟩ := entry
    have hstep : Correlated (resend send t s key tracking).1 := by
      rcases resend_cases send t s key tracking with ⟨he, _⟩ | ⟨failure, _, he, _⟩
      · rw [he]
        exact h
      · rw [he]
        exact (h.remove key).change key fun c => c.ids_failMissing _
    exact ih hstep _

end Correlated

/-! ## Registering -/

theorem refusal?_congr {t t' : Tracker} (h : t'.index = t.index) (ids : List Json) :
    t'.refusal? ids = t.refusal? ids := by
  induction ids with
  | nil => rfl
  | cons id ids ih => simp only [refusal?, h, ih]

theorem refusal?_eq_none_iff {t : Tracker} {ids : List Json} :
    t.refusal? ids = none ↔
      ∀ id ∈ ids, id.isNull = false ∧ t.index.get? (Response.idKey id) = none := by
  induction ids with
  | nil => simp [refusal?]
  | cons id ids ih =>
    simp only [refusal?, List.mem_cons, forall_eq_or_imp, ← ih]
    cases hn : id.isNull with
    | true => simp
    | false =>
      cases hi : t.index.get? (Response.idKey id) <;> simp [Assoc.contains, hi]

theorem register_eq_ok_iff {t t' : Tracker} {now : Instant} {call : Call} {payload : Bytes}
    {policy : Policy} {key : Nat} :
    t.register now call payload policy = .ok (key, t') ↔
      (∀ id ∈ call.ids, id.isNull = false ∧ t.index.get? (Response.idKey id) = none) ∧
      key = t.nextKey ∧
      t' = { t with
        calls := t.calls ++ [(key, call)]
        table := t.table ++ [(key,
          { payload, retryTimeout := policy.retryTimeout
            deadline := now + policy.retryTimeout.nanos
            attemptsLeft := policy.retryNumber, attempt := 1 })]
        index := call.keys.foldl (fun index id => index.put id key) t.index
        nextKey := key + 1 } := by
  rw [← refusal?_eq_none_iff, register]
  cases h : t.refusal? call.ids with
  | some cause => simp
  | none =>
    simp only [Except.ok.injEq, Prod.mk.injEq, true_and]
    constructor
    · rintro ⟨rfl, rfl⟩
      exact ⟨rfl, rfl⟩
    · rintro ⟨rfl, rfl⟩
      exact ⟨rfl, rfl⟩

namespace Correlated
variable {t : Tracker}

theorem nextKey_not_mem (h : Correlated t) : t.nextKey ∉ t.calls.keys :=
  fun hmem => Nat.lt_irrefl _ (h.issued _ hmem)

theorem register (h : Correlated t) {t' : Tracker} {now : Instant} {call : Call} {payload : Bytes}
    {policy : Policy} {key : Nat} (hr : t.register now call payload policy = .ok (key, t')) :
    Correlated t' := by
  obtain ⟨hfree, rfl, rfl⟩ := register_eq_ok_iff.mp hr
  have hcalls := h.nextKey_not_mem
  have htable : t.nextKey ∉ t.table.keys := fun hmem => hcalls (h.known _ hmem)
  refine ⟨?_, ?_, ?_, ?_, ?_⟩
  · exact Assoc.distinct_append_iff.mpr ⟨h.calls_distinct, hcalls⟩
  · exact Assoc.distinct_append_iff.mpr ⟨h.table_distinct, htable⟩
  · intro k hk
    simp only [Assoc.keys, List.map_append, List.map_cons, List.map_nil, List.mem_append] at hk ⊢
    exact hk.imp_left (h.known k)
  · intro k hk
    simp only [Assoc.keys, List.map_append, List.map_cons, List.map_nil, List.mem_append,
      List.mem_singleton] at hk
    rcases hk with hk | rfl
    · exact Nat.lt_succ_of_lt (h.issued k hk)
    · exact Nat.lt_succ_self _
  · intro id k
    simp only [Assoc.get?_foldl_put, idsOf, Assoc.get?_append, Assoc.keys, List.map_append,
      List.map_cons, List.map_nil, List.mem_append, List.mem_singleton]
    -- the new key was not in the index, and the ids of the new call led nowhere
    by_cases hk : k = t.nextKey
    · subst hk
      have hnew : t.index.get? id ≠ some t.nextKey :=
        fun hi => htable ((h.index_iff id _).mp hi).1
      simp [Assoc.get?_eq_none_iff.mpr hcalls, Assoc.get?, hnew]
    · have hlook : Assoc.get? [(t.nextKey, call)] k = none := by
        simp [Assoc.get?, Ne.symm hk]
      rw [hlook, Option.or_none]
      have hold := h.index_iff id k
      rw [idsOf] at hold
      constructor
      · intro hi
        split at hi
        · exact absurd (Option.some.inj hi).symm hk
        · obtain ⟨hmem, hid⟩ := hold.mp hi
          exact ⟨Or.inl hmem, hid⟩
      · rintro ⟨hmem, hid⟩
        have hi := hold.mpr ⟨hmem.resolve_right hk, hid⟩
        have hnot : id ∉ call.keys := by
          intro hc
          obtain ⟨json, hj, rfl⟩ := List.mem_map.mp hc
          rw [(hfree json hj).2] at hi
          cases hi
        rw [if_neg hnot]
        exact hi

theorem registered (h : Correlated t) (now : Instant) (call : Call) (payload : Bytes)
    (policy : Policy) : Correlated (t.registered now call payload policy) := by
  unfold Tracker.registered
  split
  · rename_i hr
    exact h.register hr
  · exact h

theorem processResponse (h : Correlated t) (r : Response) :
    Correlated (t.processResponse r).1 := by
  unfold Tracker.processResponse
  split
  · exact h
  split
  · exact h
  rename_i key _
  split
  · have hc := h.change key fun c => c.ids_answer r
    dsimp only
    split
    · exact hc.remove key
    · exact hc
  · exact h

theorem cancel (h : Correlated t) (key : Nat) : Correlated (t.cancel key).1 := by
  refine Correlated.remove ?_ key
  refine h.with_calls (Assoc.keys_modify _ _ _) ?_
  intro k
  rw [Assoc.get?_modify]
  split
  · cases t.calls.get? k with
    | none => rfl
    | some call => exact congrArg (fun ids => some (ids.map Response.idKey)) call.ids_cancel
  · rfl

theorem mem_due (t : Tracker) (now : Instant) {key : Nat}
    (hmem : key ∈ (t.due now).keys) : key ∈ t.table.keys := by
  obtain ⟨entry, he, rfl⟩ := List.mem_map.mp hmem
  exact List.mem_map_of_mem (List.mem_filter.mp he).1

theorem sweep {σ : Type} (send : Bytes → σ → Except Failure Unit × σ) (h : Correlated t)
    (now : Instant) (s : σ) : Correlated (t.sweep send now s).1 := by
  refine Correlated.resendAll send (Correlated.forEach ?_ (actsOnCall_resolve _) ?_ ?_) s _
  · exact (h.renewDue now).foldl_remove _
  · exact fun c => c.ids_failMissing _
  · intro key hmem
    rw [calls_foldl_remove]
    obtain ⟨entry, he, rfl⟩ := List.mem_map.mp hmem
    exact h.known _ (mem_due t now (List.mem_map_of_mem (List.mem_filter.mp he).1))

theorem linkLost (h : Correlated t) (failure : Failure) : Correlated (t.linkLost failure).1 := by
  have hids : ∀ final c, (lossOf failure final c).1.ids = c.ids := by
    intro final c
    cases final with
    | true => exact c.ids_failMissing _
    | false => rfl
  unfold Tracker.linkLost
  dsimp only
  split
  · exact h.forEach (actsOnCall_lose failure false) (hids false) h.known
  · refine (h.foldl_remove _).forEach (actsOnCall_lose failure true) (hids true) ?_
    intro key hmem
    rw [calls_foldl_remove]
    exact h.known key hmem

theorem failAll (h : Correlated t) : Correlated t.failAll.1 := by
  refine (h.foldl_remove _).forEach (actsOnCall_resolve _) (fun c => c.ids_failMissing _) ?_
  intro key hmem
  rw [calls_foldl_remove]
  exact h.known key hmem

theorem perform {σ : Type} (send : Bytes → σ → Except Failure Unit × σ) (h : Correlated t) (s : σ)
    (operation : Operation) : Correlated (Tracker.perform send t s operation).1.after := by
  cases operation with
  | register now call payload policy => exact h.registered now call payload policy
  | respond r => exact h.processResponse r
  | sweep now => exact h.sweep (recording send) now (s, [])
  | linkLost failure => exact h.linkLost failure
  | failAll => exact h.failAll
  | setPolicy policy => exact ⟨h.calls_distinct, h.table_distinct, h.known, h.issued, h.index_iff⟩
  | remove key => exact h.remove key
  | cancel key => exact h.cancel key

end Correlated

theorem correlated_reached {σ : Type} (send : Bytes → σ → Except Failure Unit × σ)
    (policy : Policy) (s : σ) (operations : List Operation) :
    Correlated (reached send (new policy) s operations).1 :=
  reached_preserves send (fun _ s operation h => h.perform send s operation)
    (correlated_new policy) s operations

end Tracker
end BrokerRpc
