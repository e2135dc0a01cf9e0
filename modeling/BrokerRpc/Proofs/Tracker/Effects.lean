import BrokerRpc.Proofs.Tracker.Run

/-! # What the parts of an operation change

Taking a call off the table leaves all calls as they are, and resolving a call leaves the table as
it is. Loops over keys that are all different act on each key alone.
-/
namespace BrokerRpc.Tracker

/-! ## Taking calls off the table -/

@[simp] theorem calls_remove (t : Tracker) (key : Nat) : (t.remove key).calls = t.calls := by
  unfold remove
  split <;> rfl

@[simp] theorem policy_remove (t : Tracker) (key : Nat) : (t.remove key).policy = t.policy := by
  unfold remove
  split <;> rfl

@[simp] theorem nextKey_remove (t : Tracker) (key : Nat) :
    (t.remove key).nextKey = t.nextKey := by
  unfold remove
  split <;> rfl

theorem remove_of_not_mem {t : Tracker} {key : Nat} (h : key ∉ t.table.keys) :
    t.remove key = t := by
  rw [remove, Assoc.contains_eq_false_iff.mpr h]
  rfl

theorem remove_of_mem {t : Tracker} {key : Nat} (h : key ∈ t.table.keys) :
    t.remove key =
      { t with table := t.table.erase key, index := (t.idsOf key).foldl Assoc.erase t.index } := by
  rw [remove, if_pos (Assoc.contains_iff_mem_keys.mpr h)]

theorem get?_table_remove (t : Tracker) (key other : Nat) :
    (t.remove key).table.get? other = if other = key then none else t.table.get? other := by
  by_cases h : key ∈ t.table.keys
  · rw [remove_of_mem h]
    exact Assoc.get?_erase _ _ _
  · rw [remove_of_not_mem h]
    split
    · rename_i he
      rw [he, Assoc.get?_eq_none_iff.mpr h]
    · rfl

@[simp] theorem calls_foldl_remove (t : Tracker) (keys : List Nat) :
    (keys.foldl remove t).calls = t.calls := by
  induction keys generalizing t with
  | nil => rfl
  | cons key keys ih => rw [List.foldl_cons, ih, calls_remove]

@[simp] theorem policy_foldl_remove (t : Tracker) (keys : List Nat) :
    (keys.foldl remove t).policy = t.policy := by
  induction keys generalizing t with
  | nil => rfl
  | cons key keys ih => rw [List.foldl_cons, ih, policy_remove]

theorem get?_table_foldl_remove (t : Tracker) (keys : List Nat) (key : Nat) :
    (keys.foldl remove t).table.get? key = if key ∈ keys then none else t.table.get? key :=
  Assoc.foldl_of_step (·.table.get? key) (fun t other => get?_table_remove t other key) t keys

theorem get?_table_foldl_remove_keys (t : Tracker) (key : Nat) :
    (t.table.keys.foldl remove t).table.get? key = none := by
  rw [get?_table_foldl_remove]
  split
  · rfl
  · rename_i h
    exact Assoc.get?_eq_none_iff.mpr h

/-! ## Changing calls -/

theorem change_of_get? {t : Tracker} {key : Nat} {call : Call} (h : t.calls.get? key = some call)
    (f : Call → Call × List CallEvent) :
    t.change key f = ({ t with calls := t.calls.put key (f call).1 },
      (f call).2.map fun event => (key, event)) := by
  rw [change, h]

theorem change_eq (t : Tracker) (key : Nat) (f : Call → Call × List CallEvent) :
    (t.change key f).1 = { t with calls := (t.change key f).1.calls } := by
  unfold change
  split <;> rfl

theorem get?_calls_change (t : Tracker) (key other : Nat) (f : Call → Call × List CallEvent) :
    (t.change key f).1.calls.get? other =
      if other = key then (t.calls.get? key).map (fun call => (f call).1)
      else t.calls.get? other := by
  cases hc : t.calls.get? key with
  | none =>
    simp only [change, hc, Option.map_none]
    split
    · rename_i he
      rw [he, hc]
    · rfl
  | some call =>
    rw [change_of_get? hc]
    exact Assoc.get?_put _ _ _ _

theorem keys_calls_change (t : Tracker) (key : Nat) (f : Call → Call × List CallEvent) :
    (t.change key f).1.calls.keys = t.calls.keys := by
  cases hc : t.calls.get? key with
  | none => rw [change, hc]
  | some call => rw [change_of_get? hc, Assoc.keys_put, if_pos (Assoc.mem_keys_of_get? hc)]

theorem eventsOf_change_of_ne (t : Tracker) {key other : Nat} (h : key ≠ other)
    (f : Call → Call × List CallEvent) : eventsOf other (t.change key f).2 = [] := by
  unfold change
  split
  · rfl
  · rw [eventsOf_map, if_neg h]

/-- A loop body that changes one call, by `f`, and nothing else. -/
def ActsOnCall (step : Tracker → Nat → Tracker × List CallNotice)
    (f : Call → Call × List CallEvent) : Prop :=
  ∀ t key call, t.calls.get? key = some call →
    step t key = ({ t with calls := t.calls.put key (f call).1 },
      (f call).2.map fun event => (key, event))

theorem actsOnCall_resolve (make : Json → Response) :
    ActsOnCall (resolve · make ·) (·.failMissing make) := fun _ _ _ h => change_of_get? h _

def lossOf (failure : Failure) (final : Bool) (call : Call) : Call × List CallEvent :=
  if final then
    ((call.failMissing (failureResponse failure)).1,
      .linkLost failure.message :: (call.failMissing (failureResponse failure)).2)
  else (call, [.linkLost failure.message])

theorem actsOnCall_lose (failure : Failure) (final : Bool) :
    ActsOnCall (lose failure final) (lossOf failure final) := by
  intro t key call h
  cases final with
  | true => simp only [lose, lossOf, if_true, resolve, change_of_get? h, List.map_cons]
  | false =>
    simp only [lose, lossOf, Bool.false_eq_true, if_false, Assoc.put_of_get? h, List.map_cons,
      List.map_nil]

section Loop
variable {step : Tracker → Nat → Tracker × List CallNotice} {f : Call → Call × List CallEvent}

theorem keys_calls_forEach (hs : ∀ t key, (step t key).1.calls.keys = t.calls.keys) (t : Tracker)
    (keys : List Nat) : (forEach step t keys).1.calls.keys = t.calls.keys := by
  induction keys generalizing t with
  | nil => rfl
  | cons key keys ih => exact (ih _).trans (hs t key)

theorem forEach_eq (hs : ActsOnCall step f) {t : Tracker} {keys : List Nat}
    (hk : ∀ key ∈ keys, key ∈ t.calls.keys) :
    (forEach step t keys).1 = { t with calls := (forEach step t keys).1.calls } := by
  induction keys generalizing t with
  | nil => rfl
  | cons key keys ih =>
    obtain ⟨call, hc⟩ := Assoc.mem_keys_iff.mp (hk key List.mem_cons_self)
    have hrest : ∀ k ∈ keys, k ∈ (t.calls.put key (f call).1).keys := by
      intro k hmem
      rw [Assoc.keys_put, if_pos (Assoc.mem_keys_of_get? hc)]
      exact hk k (List.mem_cons_of_mem _ hmem)
    have h := ih (t := { t with calls := t.calls.put key (f call).1 }) hrest
    simp only [forEach, hs t key call hc]
    rw [h]

theorem get?_calls_forEach (hs : ActsOnCall step f) {t : Tracker} {keys : List Nat}
    (hk : ∀ key ∈ keys, key ∈ t.calls.keys) (hd : keys.Nodup) {key : Nat} {call : Call}
    (hc : t.calls.get? key = some call) :
    (forEach step t keys).1.calls.get? key = some (if key ∈ keys then (f call).1 else call) ∧
      eventsOf key (forEach step t keys).2 = if key ∈ keys then (f call).2 else [] := by
  induction keys generalizing t call with
  | nil => simp [forEach, hc]
  | cons first rest ih =>
    obtain ⟨hnew, hrest⟩ := List.nodup_cons.mp hd
    obtain ⟨other, ho⟩ := Assoc.mem_keys_iff.mp (hk first List.mem_cons_self)
    have hput : (t.calls.put first (f other).1).keys = t.calls.keys := by
      rw [Assoc.keys_put, if_pos (Assoc.mem_keys_of_get? ho)]
    have hkeys : ∀ k ∈ rest, k ∈ (t.calls.put first (f other).1).keys :=
      fun k hmem => hput ▸ hk k (List.mem_cons_of_mem _ hmem)
    simp only [forEach, hs t first other ho, eventsOf_append, eventsOf_map]
    by_cases he : key = first
    · subst he
      rw [hc] at ho
      cases ho
      have hget : (t.calls.put key (f call).1).get? key = some (f call).1 := by
        rw [Assoc.get?_put, if_pos rfl]
      obtain ⟨h₁, h₂⟩ := ih (t := { t with calls := t.calls.put key (f call).1 }) hkeys hrest hget
      rw [h₁, h₂]
      simp [hnew]
    · have he' : first ≠ key := fun h => he h.symm
      have hget : (t.calls.put first (f other).1).get? key = some call := by
        rw [Assoc.get?_put, if_neg he, hc]
      obtain ⟨h₁, h₂⟩ :=
        ih (t := { t with calls := t.calls.put first (f other).1 }) hkeys hrest hget
      rw [h₁, h₂]
      simp [he, he']

end Loop

/-! ## The calls that are known

No part of an operation but a registration adds or drops a call.
-/

theorem keys_calls_lose (failure : Failure) (final : Bool) (t : Tracker) (key : Nat) :
    (lose failure final t key).1.calls.keys = t.calls.keys := by
  cases final with
  | true => exact keys_calls_change t key _
  | false => rfl

theorem keys_calls_resolve (make : Json → Response) (t : Tracker) (key : Nat) :
    (t.resolve make key).1.calls.keys = t.calls.keys := keys_calls_change t key _

theorem keys_calls_processResponse (t : Tracker) (r : Response) :
    (t.processResponse r).1.calls.keys = t.calls.keys := by
  unfold processResponse
  split
  · rfl
  split
  · rfl
  rename_i key _
  split
  · dsimp only
    split
    · rw [calls_remove, keys_calls_change]
    · exact keys_calls_change t key _
  · rfl

theorem keys_calls_linkLost (t : Tracker) (failure : Failure) :
    (t.linkLost failure).1.calls.keys = t.calls.keys := by
  unfold linkLost
  dsimp only
  split
  · exact keys_calls_forEach (keys_calls_lose failure false) _ _
  · rw [keys_calls_forEach (keys_calls_lose failure true), calls_foldl_remove]

theorem keys_calls_failAll (t : Tracker) : t.failAll.1.calls.keys = t.calls.keys := by
  rw [failAll, keys_calls_forEach (keys_calls_resolve _), calls_foldl_remove]

/-! ## Sending again -/

section Resend
variable {σ : Type} (send : Bytes → σ → Except Failure Unit × σ)

/-- One more attempt leaves the tracker as it is, or takes the call off the table and resolves it
with a failure that allows no other attempt. -/
theorem resend_cases (t : Tracker) (s : σ) (key : Nat) (tracking : Tracking) :
    (resend send t s key tracking).1 = t ∧
        (resend send t s key tracking).2.2 = [(key, .retrying tracking.attempt)] ∨
      ∃ failure, t.policy.isRetryable failure = false ∧
        (resend send t s key tracking).1 =
          ((t.remove key).resolve (failureResponse failure) key).1 ∧
        (resend send t s key tracking).2.2 = (key, .retrying tracking.attempt) ::
          ((t.remove key).resolve (failureResponse failure) key).2 := by
  unfold resend
  cases h : (send tracking.payload s).1 with
  | ok _ => exact Or.inl ⟨by simp only [h], by simp only [h]⟩
  | error failure =>
    cases hp : t.policy.isRetryable failure with
    | true => exact Or.inl ⟨by simp only [h, hp, if_true], by simp only [h, hp, if_true]⟩
    | false =>
      refine Or.inr ⟨failure, hp, ?_, ?_⟩ <;>
        simp only [h, hp, Bool.false_eq_true, if_false]

theorem resendAll_cons (t : Tracker) (s : σ) (key : Nat) (tracking : Tracking)
    (rest : Assoc Nat Tracking) :
    resendAll send t s ((key, tracking) :: rest) =
      let first := resend send t s key tracking
      let later := resendAll send first.1 first.2.1 rest
      (later.1, later.2.1, first.2.2 ++ later.2.2) := rfl

theorem keys_calls_resend (t : Tracker) (s : σ) (key : Nat) (tracking : Tracking) :
    (resend send t s key tracking).1.calls.keys = t.calls.keys := by
  rcases resend_cases send t s key tracking with ⟨he, _⟩ | ⟨failure, _, he, _⟩
  · rw [he]
  · rw [he, resolve, keys_calls_change, calls_remove]

theorem keys_calls_resendAll (t : Tracker) (s : σ) (due : Assoc Nat Tracking) :
    (resendAll send t s due).1.calls.keys = t.calls.keys := by
  induction due generalizing t s with
  | nil => rfl
  | cons entry rest ih =>
    obtain ⟨key, tracking⟩ := entry
    exact (ih _ _).trans (keys_calls_resend send t s key tracking)

end Resend

end BrokerRpc.Tracker
