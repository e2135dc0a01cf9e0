import BrokerRpc.Proofs.Publisher.Queue

/-! # Beginning and end of subscriptions

A new subscription starts with the unclaimed events that it wants. One that is ended has no queue any
more, whatever ends it, and a purge drops what has expired from every queue.
-/
namespace BrokerRpc.Publisher

theorem queue?_change_ended (p : Publisher) (number : Nat) {s : Subscription}
    (hs : s.cancelled = true) (other : Nat) :
    (p.change number fun _ => s).queue? other =
      if other = number then none else p.queue? other := by
  rw [queue?_change]
  split
  · cases p.subscriptions.get? other with
    | none => rfl
    | some _ => simp [hs]
  · rfl

theorem receives_change_ended {p : Publisher} (h : Orderly p) (number : Nat) {s : Subscription}
    (hs : s.cancelled = true) : Receives p (p.change number fun _ => s) [] := by
  refine receives_of_kept h (keys_change _ _ _) (List.Sublist.refl _) ?_
  intro other queue hq
  rw [queue?_change_ended p number hs] at hq
  split at hq
  · cases hq
  · exact ⟨hq, h.registered other queue hq⟩

theorem queue?_finishAll (p : Publisher) (numbers : List Nat) (number : Nat) :
    (p.finishAll numbers).1.queue? number = if number ∈ numbers then none else p.queue? number := by
  induction numbers generalizing p with
  | nil => simp [finishAll]
  | cons first rest ih =>
    unfold finishAll
    split
    · rename_i hnone
      rw [ih]
      by_cases hf : number = first
      · subst hf
        have hq : p.queue? number = none := by simp [queue?, hnone]
        simp [hq]
      · simp [hf]
    · rename_i s hsome
      rw [ih, queue?_change_ended p first (s := s.finish.1) rfl]
      by_cases hf : number = first <;> simp [hf]

theorem keys_finishAll (p : Publisher) (numbers : List Nat) :
    (p.finishAll numbers).1.subscriptions.keys = p.subscriptions.keys := by
  induction numbers generalizing p with
  | nil => rfl
  | cons first rest ih =>
    unfold finishAll
    split
    · exact ih p
    · exact (ih _).trans (keys_change _ _ _)

theorem registered_finishAll (p : Publisher) (numbers : List Nat) :
    (p.finishAll numbers).1.registered = p.registered := by
  induction numbers generalizing p with
  | nil => rfl
  | cons first rest ih =>
    unfold finishAll
    split
    · exact ih p
    · exact ih _

theorem complete_of_mem_finishAll {p : Publisher} {numbers : List Nat} {notice : SignalNotice}
    (h : notice ∈ (p.finishAll numbers).2) : notice.2 = .complete := by
  induction numbers generalizing p with
  | nil => exact absurd h List.not_mem_nil
  | cons first rest ih =>
    unfold finishAll at h
    split at h
    · exact ih h
    · rename_i s hs
      rcases List.mem_append.mp h with h | h
      · obtain ⟨signal, hmem, rfl⟩ := List.mem_map.mp h
        simp only [Subscription.finish] at hmem
        split at hmem
        · exact absurd hmem List.not_mem_nil
        · exact List.mem_singleton.mp hmem
      · exact ih h

theorem complete_of_mem_close {p : Publisher} {notice : SignalNotice} (h : notice ∈ p.close.2) :
    notice.2 = .complete := by
  unfold close at h
  split at h
  · exact absurd h List.not_mem_nil
  · exact complete_of_mem_finishAll h

theorem receives_close {p : Publisher} (h : Orderly p) : Receives p p.close.1 [] := by
  unfold close
  split
  · exact Receives.refl h
  · generalize hc : ({ p with closed := true, registered := [], unclaimed := [] } : Publisher) = c
    have hkeys : (c.finishAll p.registered.values).1.subscriptions.keys = p.subscriptions.keys := by
      rw [keys_finishAll, ← hc]
    have hregistered : (c.finishAll p.registered.values).1.registered = [] := by
      rw [registered_finishAll, ← hc]
    have hnone : ∀ number, (c.finishAll p.registered.values).1.queue? number = none := by
      intro number
      rw [queue?_finishAll]
      split
      · rfl
      · rename_i hnot
        cases hq : c.queue? number with
        | none => rfl
        | some queue =>
          have hp : p.queue? number = some queue := by rw [← hq, ← hc]; rfl
          exact absurd (h.registered number queue hp) hnot
    refine receives_of_kept h hkeys ?_ ?_
    · rw [hregistered]
      exact List.nil_sublist _
    · intro number queue hq
      rw [hnone] at hq
      cases hq

theorem get?_purge (p : Publisher) (now : Timestamp) (number : Nat) :
    (p.purge now).subscriptions.get? number = (p.subscriptions.get? number).map fun s =>
      if number ∈ p.live.values then s.expire (p.cutoff now) else s := by
  unfold purge
  simp only
  induction p.subscriptions with
  | nil => rfl
  | cons entry rest ih =>
    by_cases he : entry.1 = number
    · by_cases hl : number ∈ p.live.values <;> simp [Assoc.get?, he, hl]
    · by_cases hl : entry.1 ∈ p.live.values <;> simpa [Assoc.get?, he, hl] using ih

theorem queue?_purge {p : Publisher} (h : Orderly p) (now : Timestamp) (number : Nat) :
    (p.purge now).queue? number = (p.queue? number).map fun queue =>
      (queue.1, queue.2.filter fun event => p.cutoff now ≤ event.receivedAt) := by
  unfold queue?
  rw [get?_purge]
  cases hs : p.subscriptions.get? number with
  | none => rfl
  | some s =>
    cases hc : s.cancelled with
    | true =>
      by_cases hl : number ∈ p.live.values <;> simp [hl, hc, Subscription.expire]
    | false =>
      have hq : p.queue? number = some (s.id, s.backlog) :=
        queue?_eq_some_iff.mpr ⟨s, hs, hc, rfl, rfl⟩
      obtain ⟨entry, hmem, rfl⟩ := List.mem_map.mp (h.registered number _ hq)
      have hlive : entry.2 ∈ p.live.values := by
        refine List.mem_map.mpr ⟨entry, List.mem_filter.mpr ⟨hmem, ?_⟩, rfl⟩
        simp [isCancelled, hs, hc]
      simp [hlive, hc, Subscription.expire]

theorem keys_purge (p : Publisher) (now : Timestamp) :
    (p.purge now).subscriptions.keys = p.subscriptions.keys := by
  unfold purge Assoc.keys
  simp only [List.map_map]
  refine List.map_congr_left fun entry _ => ?_
  simp only [Function.comp_apply]
  split <;> rfl

theorem orderly_purge {p : Publisher} (h : Orderly p) (now : Timestamp) : Orderly (p.purge now) := by
  refine h.of_sublist (keys_purge p now) (List.filter_sublist.map _) ?_
  intro number queue hq
  rw [queue?_purge h] at hq
  obtain ⟨⟨id, backlog⟩, hp, _⟩ := Option.map_eq_some_iff.mp hq
  obtain ⟨s, hs, hc, _, _⟩ := queue?_eq_some_iff.mp hp
  obtain ⟨entry, hmem, rfl⟩ := List.mem_map.mp (h.registered number _ hp)
  refine List.mem_map.mpr ⟨entry, List.mem_filter.mpr ⟨hmem, ?_⟩, rfl⟩
  simp [isCancelled, hs, hc]

def claimed (p : Publisher) (id : EventId) : List Event :=
  p.unclaimed.filter fun event => id.wants event.id

/-- A new subscription starts with the unclaimed events that it wants; all other queues stay. -/
theorem queue?_enrol {p : Publisher} (h : Orderly p) (id : EventId) (number : Nat) :
    (p.enrol id).2.queue? number =
      if number = p.subscriptions.length then some (id, p.claimed id) else p.queue? number := by
  unfold queue? enrol claimed
  simp only [Assoc.get?_append]
  by_cases hn : number = p.subscriptions.length
  · subst hn
    have hnew : p.subscriptions.get? p.subscriptions.length = none := by
      rw [Assoc.get?_eq_none_iff]
      exact fun hmem => absurd (h.issued _ hmem) (Nat.lt_irrefl _)
    simp [hnew, Assoc.get?]
  · have hother : ¬ p.subscriptions.length = number := fun e => hn e.symm
    simp [Assoc.get?, hn, hother]

theorem keys_enrol (p : Publisher) (id : EventId) :
    (p.enrol id).2.subscriptions.keys = p.subscriptions.keys ++ [p.subscriptions.length] := by
  simp [enrol, Assoc.keys]

theorem orderly_enrol {p : Publisher} (h : Orderly p) (id : EventId) : Orderly (p.enrol id).2 := by
  have hlength : (p.enrol id).2.subscriptions.length = p.subscriptions.length + 1 := by
    simp [enrol]
  have hvalues : (p.enrol id).2.registered.values =
      p.registered.values ++ [p.subscriptions.length] := by simp [enrol, Assoc.values]
  refine ⟨?_, ?_, ?_, ?_⟩
  · intro number hmem
    rw [keys_enrol, List.mem_append, List.mem_singleton] at hmem
    rw [hlength]
    rcases hmem with hmem | rfl
    · exact Nat.lt_succ_of_lt (h.issued number hmem)
    · exact Nat.lt_succ_self _
  · intro number hmem
    rw [hvalues, List.mem_append, List.mem_singleton] at hmem
    rw [hlength]
    rcases hmem with hmem | rfl
    · exact Nat.lt_succ_of_lt (h.registered_issued number hmem)
    · exact Nat.lt_succ_self _
  · rw [hvalues, List.nodup_append]
    refine ⟨h.registered_nodup, by simp, ?_⟩
    intro number hmem other hother
    rw [List.mem_singleton] at hother
    exact fun e => absurd (h.registered_issued number hmem) (by omega)
  · intro number queue hq
    rw [queue?_enrol h] at hq
    rw [hvalues, List.mem_append, List.mem_singleton]
    split at hq
    · rename_i hn
      exact Or.inr hn
    · exact Or.inl (h.registered number queue hq)

end BrokerRpc.Publisher
