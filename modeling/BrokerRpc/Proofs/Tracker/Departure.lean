import BrokerRpc.Proofs.Tracker.Fate

/-! # Calls that left the table

A call never comes back to the table, and its key never leads to another call. Whoever still holds
the key may use it without harm, also when the ids of the call are in use again.
-/
namespace BrokerRpc.Tracker

def Departed (t : Tracker) (key : Nat) : Prop := key ∈ t.calls.keys ∧ key ∉ t.table.keys

instance (t : Tracker) (key : Nat) : Decidable (t.Departed key) :=
  inferInstanceAs (Decidable (_ ∧ _))

section Departure
variable {σ : Type} (send : Bytes → σ → Except Failure Unit × σ)

theorem departed_perform {t : Tracker} (h : Correlated t) {key : Nat} (hd : t.Departed key)
    (s : σ) (operation : Operation) : (perform send t s operation).1.after.Departed key := by
  obtain ⟨call, hc⟩ := Assoc.mem_keys_iff.mp hd.1
  have ht := Assoc.get?_eq_none_iff.mpr hd.2
  obtain ⟨ht', _, call', hc', _⟩ := perform_departed send h s operation ht hc
  exact ⟨Assoc.mem_keys_of_get? hc', Assoc.get?_eq_none_iff.mp ht'⟩

theorem departed_reached {t : Tracker} (h : Correlated t) {key : Nat} (hd : t.Departed key)
    (s : σ) (operations : List Operation) : (reached send t s operations).1.Departed key := by
  have hstep : ∀ t s operation, Correlated t ∧ t.Departed key →
      Correlated (perform send t s operation).1.after ∧
        (perform send t s operation).1.after.Departed key := by
    intro t s operation hp
    exact ⟨hp.1.perform send s operation, departed_perform send hp.1 hp.2 s operation⟩
  exact (reached_preserves send hstep ⟨h, hd⟩ s operations).2

/-- Giving up a call that left the table concerns no other call. -/
theorem cancel_of_departed {t : Tracker} {key : Nat} (hd : t.Departed key) :
    (t.cancel key).1 = { t with calls := t.calls.modify key Call.cancel } := by
  unfold cancel
  exact remove_of_not_mem hd.2

/-- The index tells of exactly the ids of the calls in flight, no two of which share one, and their
keys were all given out before. A key whose call left the table is worth nothing any more: removing
it changes nothing, and giving it up changes neither table nor index nor any other call. -/
theorem index_iff_and_departed_inert (policy : Policy) (s : σ) (earlier later : List Operation) :
    let left := (reached send (new policy) s earlier).1
    let t := (reached send (new policy) s (earlier ++ later)).1
    (∀ id key, t.index.get? id = some key ↔ key ∈ t.table.keys ∧ id ∈ t.idsOf key) ∧
      (∀ first ∈ t.table.keys, ∀ second ∈ t.table.keys, ∀ id ∈ t.idsOf first,
        id ∈ t.idsOf second → first = second) ∧
      (∀ key ∈ t.table.keys, key < t.nextKey) ∧
      ∀ key, left.Departed key →
        t.Departed key ∧ t.remove key = t ∧
          (t.cancel key).1.table = t.table ∧ (t.cancel key).1.index = t.index ∧
          ∀ other, other ≠ key → (t.cancel key).1.calls.get? other = t.calls.get? other := by
  intro left t
  have h : Correlated t := correlated_reached send policy s (earlier ++ later)
  refine ⟨h.index_iff, ?_, ?_, ?_⟩
  · intro first hf second hs id hif his
    exact h.eq_of_mem_idsOf hf hs hif his
  · intro key hmem
    exact h.issued key (h.known key hmem)
  · intro key hd
    have hd' : t.Departed key := by
      have he := departed_reached send (correlated_reached send policy s earlier) hd
        (reached send (new policy) s earlier).2 later
      rwa [← reached_append] at he
    refine ⟨hd', remove_of_not_mem hd'.2, ?_, ?_, ?_⟩
    · rw [cancel_of_departed hd']
    · rw [cancel_of_departed hd']
    · intro other hne
      rw [cancel_of_departed hd']
      exact (Assoc.get?_modify _ _ _ _).trans (if_neg hne)

end Departure

/-- The first call shares an id with the second, which is accepted once the first is given up. The
old key then leaves the new call alone. -/
theorem index_iff_and_departed_inert_reused_id :
    let send : Bytes → Unit → Except Failure Unit × Unit := fun _ s => (.ok (), s)
    let earlier : List Operation :=
      [.register 0 (.new [.int 1, .str "a"]) [65] .standard, .cancel 1]
    let later : List Operation := [.register 5 (.new [.str "a"]) [66] .standard]
    let left := (reached send (new .standard) () earlier).1
    let t := (reached send (new .standard) () (earlier ++ later)).1
    left.Departed 1 ∧ t.index.get? (Response.idKey (.str "a")) = some 2 ∧
      t.remove 1 = t ∧ (t.cancel 1).1.index = t.index := by
  intro send earlier later left t
  have hd : left.Departed 1 := by decide
  have hi : t.index.get? (Response.idKey (.str "a")) = some 2 := by decide
  obtain ⟨_, _, _, hinert⟩ := index_iff_and_departed_inert send .standard () earlier later
  obtain ⟨_, hremove, _, hindex, _⟩ := hinert 1 hd
  exact ⟨hd, hi, hremove, hindex⟩

end BrokerRpc.Tracker
