import BrokerRpc.Proofs.Rpc.Run

/-! # Calls that fail at once

A call that cannot be made leaves the calls in flight and the index of their ids as they were, so
that nobody can tell from a later call that it was tried. A call that can be sent again later is in
flight, and its caller gets its key.
-/
namespace BrokerRpc

/-! ## Tables -/

namespace Assoc
variable {κ α : Type} [DecidableEq κ]

theorem foldl_erase_eq_filter (t : Assoc κ α) (keys : List κ) :
    keys.foldl erase t = t.filter fun entry => !decide (entry.1 ∈ keys) := by
  induction keys generalizing t with
  | nil => simp
  | cons key rest ih =>
    rw [List.foldl_cons, ih, erase, List.filter_filter]
    refine List.filter_congr fun entry _ => ?_
    by_cases hk : entry.1 = key <;> simp [hk]

theorem filter_put (t : Assoc κ α) {key : κ} (value : α) {p : κ → Bool} (hp : p key = false) :
    (t.put key value).filter (fun entry => p entry.1) = t.filter fun entry => p entry.1 := by
  induction t with
  | nil => simp [put, hp]
  | cons entry rest ih =>
    obtain ⟨first, old⟩ := entry
    by_cases hk : first = key
    · subst hk
      simp [put, hp]
    · simp [put, hk, List.filter_cons, ih]

/-- To take out what was put in under new keys gives the table back. -/
theorem foldl_erase_foldl_put {t : Assoc κ α} {keys : List κ} (h : ∀ key ∈ keys, key ∉ t.keys)
    (value : α) : keys.foldl erase (keys.foldl (fun t key => t.put key value) t) = t := by
  have hput (more : List κ) (hmore : ∀ key ∈ more, key ∈ keys) (u : Assoc κ α) :
      (more.foldl (fun t key => t.put key value) u).filter (fun entry => !decide (entry.1 ∈ keys)) =
        u.filter fun entry => !decide (entry.1 ∈ keys) := by
    induction more generalizing u with
    | nil => rfl
    | cons key rest ih =>
      rw [List.foldl_cons, ih fun other hmem => hmore other (List.mem_cons_of_mem _ hmem)]
      exact filter_put (p := fun key => !decide (key ∈ keys)) u value
        (by simp [hmore key List.mem_cons_self])
  rw [foldl_erase_eq_filter, hput keys fun _ => id, List.filter_eq_self]
  intro entry hentry
  have hnot : entry.1 ∉ keys := fun hmem => h entry.1 hmem (List.mem_map_of_mem hentry)
  simp [hnot]

theorem erase_append_of_not_mem {t : Assoc κ α} {key : κ} (h : key ∉ t.keys) (value : α) :
    Assoc.erase (t ++ [(key, value)]) key = t := by
  have hold : t.erase key = t := by
    rw [erase, List.filter_eq_self]
    intro entry hentry
    have hne : entry.1 ≠ key := fun he => h (he ▸ List.mem_map_of_mem hentry)
    simp [hne]
  rw [erase, List.filter_append]
  change t.erase key ++ _ = t
  rw [hold]
  simp

end Assoc

/-! ## Registrations taken back -/

theorem Tracker.Correlated.remove_registered {t t' : Tracker} (h : t.Correlated) {now : Instant}
    {call : Call} {payload : Bytes} {policy : Policy} {key : Nat}
    (hr : t.register now call payload policy = .ok (key, t')) :
    (t'.remove key).table = t.table ∧ (t'.remove key).index = t.index := by
  obtain ⟨hfree, rfl, rfl⟩ := register_eq_ok_iff.mp hr
  have hcalls := h.nextKey_not_mem
  have htable : t.nextKey ∉ t.table.keys := fun hmem => hcalls (h.known _ hmem)
  have hfresh : ∀ id ∈ call.keys, id ∉ t.index.keys := by
    intro id hid
    obtain ⟨json, hjson, rfl⟩ := List.mem_map.mp hid
    exact Assoc.get?_eq_none_iff.mp (hfree json hjson).2
  rw [remove_of_mem (by simp [Assoc.keys])]
  constructor
  · exact Assoc.erase_append_of_not_mem htable _
  · have hids : Tracker.idsOf { t with calls := t.calls ++ [(t.nextKey, call)] } t.nextKey =
        call.keys := by
      refine idsOf_eq (?_ : Assoc.get? (t.calls ++ [(t.nextKey, call)]) t.nextKey = some call)
      simp [Assoc.get?_append, Assoc.get?_eq_none_iff.mpr hcalls, Assoc.get?]
    change (Tracker.idsOf { t with calls := t.calls ++ [(t.nextKey, call)] } t.nextKey).foldl
      Assoc.erase _ = t.index
    rw [hids]
    exact Assoc.foldl_erase_foldl_put hfresh t.nextKey

namespace RpcClient

/-! ## Later calls -/

/-- Whether a call is made depends on the ids in flight, the policy and the session alone. -/
theorem result_issue (r : RpcClient) (now : Instant) (ids : List Json) (payload : Bytes) :
    (r.issue now ids payload).result.map (fun _ => ()) =
      match r.tracker.refusal? ids with
      | some cause => .error (.misuse cause)
      | none =>
        match (r.client.send r.destinations.requests payload).2.2 with
        | .ok () => .ok ()
        | .error failure =>
          if r.tracker.policy.isRetryable failure then .ok () else .error failure := by
  cases hrefusal : r.tracker.refusal? ids with
  | some cause =>
    simp only [issue, Tracker.register, Call.new, hrefusal]
    rfl
  | none =>
    cases hsent : (r.client.send r.destinations.requests payload).2.2 with
    | ok _ =>
      simp only [issue, Tracker.register, Call.new, hrefusal, hsent]
      rfl
    | error failure =>
      simp only [issue, Tracker.register, Call.new, hrefusal, hsent]
      split <;> rfl

theorem result_ask_congr (r r' : RpcClient) (hclient : r'.client = r.client)
    (hdestinations : r'.destinations = r.destinations)
    (hpolicy : r'.tracker.policy = r.tracker.policy) (hindex : r'.tracker.index = r.tracker.index)
    (now : Instant) (a : Ask) : (r'.ask now a).result.map (fun _ => ()) =
      (r.ask now a).result.map fun _ => () := by
  have hissue (ids : List Json) (payload : Bytes) :
      (r'.issue now ids payload).result.map (fun _ => ()) =
        (r.issue now ids payload).result.map fun _ => () := by
    rw [result_issue, result_issue, hclient, hdestinations, hpolicy,
      Tracker.refusal?_congr hindex]
  cases a with
  | one request =>
    simp only [ask, call]
    split
    · rfl
    · exact hissue _ _
  | batch requests =>
    simp only [ask, batch]
    split
    · rfl
    · split
      · rfl
      · exact hissue _ _

/-- A call or batch that fails at once leaves no trace among the calls in flight. Wherever a client
has come to: if it reports a failure, the table and the index of ids are as before, and any later
call, over any session, is made or refused as it would have been. The failure is one of the listed
refusals, or that of a session whose failure the policy does not let be tried again. If there is no
reason to refuse it and the session fails so that it may be tried again, the call is in flight with
all its ids, and its caller gets its key. -/
theorem failed_ask_leaves_no_trace {r : RpcClient} (hr : r.Reachable) (now : Instant) (a : Ask) :
    let done := r.ask now a
    let t := r.tracker
    let t' := done.client.tracker
    (∀ failure, done.result = .error failure →
      t'.table = t.table ∧ t'.index = t.index ∧
      (∀ (q : RpcClient) (later : Instant) (b : Ask),
        (({ q with tracker := t' } : RpcClient).ask later b).result.map (fun _ => ()) =
          (({ q with tracker := t } : RpcClient).ask later b).result.map fun _ => ()) ∧
      (Refused t a failure ∨
        (r.offer a).2.2 = .error failure ∧ t.policy.isRetryable failure = false)) ∧
    ((∀ cause, ¬ Refused t a cause) → ∀ failure, (r.offer a).2.2 = .error failure →
      t.policy.isRetryable failure = true → done.result = .ok t.nextKey ∧
        ∃ ids tracking, a.requests.map Request.id = ids.map some ∧
          t'.calls.get? t.nextKey = some (.new ids) ∧
          t'.table = t.table ++ [(t.nextKey, tracking)] ∧ tracking.payload = a.payload ∧
          ∀ id ∈ ids, t'.index.get? (Response.idKey id) = some t.nextKey) := by
  intro done t t'
  have hcorrelated := hr.attended.correlated
  have hasked : Asked r now a done := r.asked now a
  clear_value done
  constructor
  · intro failure hfailed
    have hkept : t'.table = t.table ∧ t'.index = t.index ∧ t'.policy = t.policy ∧
        (Refused t a failure ∨
          (r.offer a).2.2 = .error failure ∧ t.policy.isRetryable failure = false) := by
      cases hasked with
      | refused hrefused =>
        cases hfailed
        exact ⟨rfl, rfl, rfl, Or.inl hrefused⟩
      | tracked _ _ => cases hfailed
      | unsent haccepts hsent hfinal =>
        cases hfailed
        obtain ⟨htable, hindex⟩ := hcorrelated.remove_registered haccepts.registered
        have hpolicy := congrArg Tracker.policy
          (Tracker.register_eq_ok_iff.mp haccepts.registered).2.2
        exact ⟨htable, hindex, (Tracker.policy_remove _ _).trans hpolicy, Or.inr ⟨hsent, hfinal⟩⟩
    obtain ⟨htable, hindex, hpolicy, hcause⟩ := hkept
    refine ⟨htable, hindex, fun q later b => ?_, hcause⟩
    exact result_ask_congr { q with tracker := t } { q with tracker := t' } rfl rfl hpolicy hindex
      later b
  · intro hgood failure hsent hp
    cases hasked with
    | refused hrefused => exact absurd hrefused (hgood _)
    | unsent _ hother hfinal =>
      rw [hsent, Except.error.injEq] at hother
      rw [← hother, hp] at hfinal
      cases hfinal
    | @tracked ids tracker haccepts _ =>
      obtain ⟨_, _, htracker⟩ := Tracker.register_eq_ok_iff.mp haccepts.registered
      have ht' : t' = tracker := rfl
      refine ⟨rfl, ids, _, haccepts.ids_eq, ?_, by rw [ht', htracker], rfl, fun id hid => ?_⟩
      · have hnew := Assoc.get?_eq_none_iff.mpr hcorrelated.nextKey_not_mem
        rw [ht', htracker]
        simp [Assoc.get?_append, hnew, Assoc.get?, t]
      · rw [ht', htracker]
        simp only [Assoc.get?_foldl_put]
        exact if_pos (List.mem_map_of_mem hid)

/-- A call is in flight when the link is closed for good. A batch with new ids then fails, as the
policy does not let it be sent again. -/
theorem failed_ask_leaves_no_trace_stopped :
    let client : Client := .new (.new "broker" 61613 .standard) (.ofSeconds 10)
    let destinations : Destinations := { requests := "requests", responses := "responses" }
    let first : RpcClient := { client := { client with session := { channels :=
      [("responses", ⟨"token", Accounts.recipient⟩)] } }, tracker := .new .standard, destinations }
    let r := first.reached [.ask 0 (.one (.call "add" .null (.int 1))), .stop]
    let batch : Ask := .batch [.call "add" .null (.int 2), .call "add" .null (.int 3)]
    r.Reachable ∧ r.tracker.table.keys = [1] ∧ (r.ask 5 batch).result = .error .closed ∧
      (r.ask 5 batch).client.tracker.table = r.tracker.table ∧
      (r.ask 5 batch).client.tracker.index = r.tracker.index := by
  intro client destinations first r batch
  have hregister : register client destinations "token" = .ok (first, []) := rfl
  have hr : r.Reachable := (Reachable.registered hregister).reached _
  have hfailed : (r.ask 5 batch).result = .error .closed := by decide
  obtain ⟨hkept, _⟩ := failed_ask_leaves_no_trace hr 5 batch
  obtain ⟨htable, hindex, _⟩ := hkept .closed hfailed
  exact ⟨hr, by decide, hfailed, htable, hindex⟩

end RpcClient
end BrokerRpc
