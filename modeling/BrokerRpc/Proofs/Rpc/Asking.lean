import BrokerRpc.Rpc.Client
import BrokerRpc.Proofs.Tracker.Correlation

/-! # Asking

A caller asks with one request or with a batch of them. What is asked is refused before anything
changes, or it is registered and offered to the session. An offer that fails for good takes the
call off the table again; any other leaves the caller with the key of a call in flight.
-/
namespace BrokerRpc

namespace Accounts

theorem note_dialEffects (a : Accounts) (dials : Bool) : a.note (Client.dialEffects dials) = a := by
  cases dials <;> rfl

end Accounts

namespace Client

/-- What the link makes of a frame asks for a dial at most, and a failure changes no link. -/
theorem onLink_cases (c : Client) (result : Except Failure (Link × Bool)) :
    (∃ link dials, c.onLink result = ({ c with link }, dialEffects dials, .ok ())) ∨
      ∃ failure, c.onLink result = (c, [], .error failure) := by
  cases result with
  | ok taken => exact Or.inl ⟨taken.1, taken.2, rfl⟩
  | error failure => exact Or.inr ⟨failure, rfl⟩

theorem effects_submit (c : Client) (m : Message) (collapse : Bool) :
    ∃ dials, (c.submit m collapse).2.1 = dialEffects dials := by
  unfold submit write
  split
  · rcases c.onLink_cases (c.link.send m) with ⟨link, dials, he⟩ | ⟨failure, he⟩
    · exact ⟨dials, by rw [he]⟩
    · exact ⟨false, by rw [he]; rfl⟩
  · dsimp only
    rcases onLink_cases { c with session := c.session.park m collapse } c.link.reconnect with
      ⟨link, dials, he⟩ | ⟨failure, he⟩
    · exact ⟨dials, by rw [he]⟩
    · exact ⟨false, by rw [he]; rfl⟩

end Client

namespace RpcClient

inductive Ask where
  | one (request : Request)
  | batch (requests : List Request)

namespace Ask

def requests : Ask → List Request
  | one request => [request]
  | batch requests => requests

def payload : Ask → Bytes
  | one request => request.bytes
  | batch requests => Request.batchBytes requests

end Ask

def ask (r : RpcClient) (now : Instant) : Ask → Done Nat
  | .one request => r.call now request
  | .batch requests => r.batch now requests

/-! ## The ids of requests -/

def idKeys (requests : List Request) : List String :=
  requests.filterMap fun request => request.id.map Response.idKey

theorem requestId_eq_ok_iff {request : Request} {id : Json} :
    requestId request = .ok id ↔ request.id = some id ∧ id.isNull = false := by
  unfold requestId
  cases hid : request.id with
  | none => simp
  | some found =>
    cases hnull : found.isNull with
    | true =>
      simp only [hnull, if_true, reduceCtorEq, Option.some.injEq, false_iff, not_and]
      rintro rfl
      simp [hnull]
    | false =>
      simp only [hnull, Bool.false_eq_true, if_false, Except.ok.injEq, Option.some.injEq]
      exact ⟨fun he => ⟨he, he ▸ hnull⟩, And.left⟩

theorem requestId_eq_error {request : Request} {failure : Failure}
    (h : requestId request = .error failure) :
    request.isNotification = true ∧ failure = .misuse (.callWithoutId request.method) := by
  unfold requestId at h
  unfold Request.isNotification
  cases hid : request.id with
  | none =>
    rw [hid] at h
    exact ⟨rfl, (Except.error.inj h).symm⟩
  | some id =>
    rw [hid] at h
    dsimp only at h ⊢
    split at h
    · rename_i hnull
      exact ⟨hnull, (Except.error.inj h).symm⟩
    · cases h

theorem requestIds_cons (seen : List String) (request : Request) (rest : List Request) :
    requestIds seen (request :: rest) =
      match requestId request with
      | .error failure => .error failure
      | .ok id =>
        if seen.contains (Response.idKey id) then .error (.misuse (.repeatedId id.text))
        else (requestIds (Response.idKey id :: seen) rest).map (id :: ·) := by
  rw [requestIds]
  cases requestId request with
  | error failure => rfl
  | ok id =>
    dsimp only [bind, Except.bind]
    split
    · rfl
    · cases requestIds (Response.idKey id :: seen) rest <;> rfl

/-- Ids that are accepted are those of the requests, not null, and different from each other. -/
theorem requestIds_eq_ok {seen : List String} {requests : List Request} {ids : List Json}
    (h : requestIds seen requests = .ok ids) :
    requests.map Request.id = ids.map some ∧ (∀ id ∈ ids, id.isNull = false) ∧
      (ids.map Response.idKey).Nodup ∧ ∀ id ∈ ids, Response.idKey id ∉ seen := by
  induction requests generalizing seen ids with
  | nil =>
    obtain rfl := Except.ok.inj h
    exact ⟨rfl, by simp, List.nodup_nil, by simp⟩
  | cons request rest ih =>
    rw [requestIds_cons] at h
    cases hid : requestId request with
    | error failure =>
      rw [hid] at h
      cases h
    | ok id =>
      rw [hid] at h
      dsimp only at h
      split at h
      · cases h
      rename_i hnew
      cases hrest : requestIds (Response.idKey id :: seen) rest with
      | error failure =>
        rw [hrest] at h
        cases h
      | ok more =>
        rw [hrest] at h
        obtain rfl := Except.ok.inj h
        obtain ⟨hsome, hnull⟩ := requestId_eq_ok_iff.mp hid
        obtain ⟨hids, hnulls, hdistinct, hunseen⟩ := ih hrest
        refine ⟨by rw [List.map_cons, List.map_cons, hsome, hids], ?_, ?_, ?_⟩
        · rintro other (_ | ⟨_, hmem⟩)
          · exact hnull
          · exact hnulls other hmem
        · rw [List.map_cons, List.nodup_cons]
          refine ⟨fun hmem => ?_, hdistinct⟩
          obtain ⟨other, hother, hkey⟩ := List.mem_map.mp hmem
          exact hunseen other hother (List.mem_cons.mpr (Or.inl hkey))
        · rintro other (_ | ⟨_, hmem⟩)
          · simpa using hnew
          · exact fun hseen => hunseen other hmem (List.mem_cons_of_mem _ hseen)

theorem requestIds_eq_error {seen : List String} {requests : List Request} {failure : Failure}
    (h : requestIds seen requests = .error failure) :
    (∃ request ∈ requests, request.isNotification = true ∧
        failure = .misuse (.callWithoutId request.method)) ∨
      ∃ id : Json, 2 ≤ (seen ++ idKeys requests).count (Response.idKey id) ∧
        failure = .misuse (.repeatedId id.text) := by
  induction requests generalizing seen with
  | nil => cases h
  | cons request rest ih =>
    rw [requestIds_cons] at h
    cases hid : requestId request with
    | error cause =>
      rw [hid] at h
      obtain rfl := Except.error.inj h
      obtain ⟨hnone, hfailure⟩ := requestId_eq_error hid
      exact Or.inl ⟨request, List.mem_cons_self, hnone, hfailure⟩
    | ok id =>
      rw [hid] at h
      have hkeys : idKeys (request :: rest) = Response.idKey id :: idKeys rest := by
        simp [idKeys, (requestId_eq_ok_iff.mp hid).1]
      dsimp only at h
      split at h
      · rename_i hseen
        refine Or.inr ⟨id, ?_, (Except.error.inj h).symm⟩
        have hcount := List.count_pos_iff.mpr (List.contains_iff_mem.mp hseen)
        rw [hkeys, List.count_append, List.count_cons_self]
        omega
      · cases hrest : requestIds (Response.idKey id :: seen) rest with
        | ok more =>
          rw [hrest] at h
          cases h
        | error cause =>
          rw [hrest] at h
          obtain rfl := Except.error.inj h
          rcases ih hrest with ⟨other, hmem, hother⟩ | ⟨other, hcount, hother⟩
          · exact Or.inl ⟨other, List.mem_cons_of_mem _ hmem, hother⟩
          · refine Or.inr ⟨other, ?_, hother⟩
            rw [hkeys, List.perm_middle.count_eq]
            exact hcount

/-! ## What becomes of what is asked -/

/-- Why a client refuses what is asked before it changes anything. -/
inductive Refused (t : Tracker) (a : Ask) : Failure → Prop where
  | empty (h : a.requests = []) : Refused t a (.misuse .emptyBatch)
  | withoutId {request : Request} (hmem : request ∈ a.requests)
    (h : request.isNotification = true) : Refused t a (.misuse (.callWithoutId request.method))
  | repeated {id : Json} (h : 2 ≤ (idKeys a.requests).count (Response.idKey id)) :
    Refused t a (.misuse (.repeatedId id.text))
  | inFlight {id : Json} (hmem : some id ∈ a.requests.map Request.id)
    (h : t.index.contains (Response.idKey id) = true) :
    Refused t a (.misuse (.idInFlight id.text))

structure Accepts (r : RpcClient) (now : Instant) (a : Ask) (ids : List Json)
    (tracker : Tracker) : Prop where
  ids_eq : a.requests.map Request.id = ids.map some
  ne_nil : ids ≠ []
  distinct : (ids.map Response.idKey).Nodup
  registered : r.tracker.register now (.new ids) a.payload r.tracker.policy =
    .ok (r.tracker.nextKey, tracker)

def offer (r : RpcClient) (a : Ask) : Client.Outcome Unit :=
  r.client.send r.destinations.requests a.payload

inductive Asked (r : RpcClient) (now : Instant) (a : Ask) : Done Nat → Prop where
  | refused {failure : Failure} (h : Refused r.tracker a failure) :
    Asked r now a { client := r, result := .error failure }
  | tracked {ids : List Json} {tracker : Tracker} (haccepts : r.Accepts now a ids tracker)
    (hsent : ∀ failure, (r.offer a).2.2 = .error failure →
      r.tracker.policy.isRetryable failure = true) :
    Asked r now a
      { client := { r with client := (r.offer a).1, tracker }, effects := (r.offer a).2.1
        result := .ok r.tracker.nextKey }
  | unsent {ids : List Json} {tracker : Tracker} {failure : Failure}
    (haccepts : r.Accepts now a ids tracker) (hsent : (r.offer a).2.2 = .error failure)
    (hfinal : r.tracker.policy.isRetryable failure = false) :
    Asked r now a
      { client := { r with client := (r.offer a).1, tracker := tracker.remove r.tracker.nextKey }
        effects := (r.offer a).2.1, result := .error failure }

theorem refusal?_eq_some {t : Tracker} {ids : List Json} {cause : Misuse}
    (h : t.refusal? ids = some cause) (hnull : ∀ id ∈ ids, id.isNull = false) :
    ∃ id ∈ ids, t.index.contains (Response.idKey id) = true ∧ cause = .idInFlight id.text := by
  induction ids with
  | nil => cases h
  | cons id rest ih =>
    rw [Tracker.refusal?, hnull id List.mem_cons_self] at h
    simp only [Bool.false_eq_true, if_false] at h
    split at h
    · rename_i hindex
      exact ⟨id, List.mem_cons_self, hindex, (Option.some.inj h).symm⟩
    · obtain ⟨other, hmem, hother⟩ :=
        ih h fun other hmem => hnull other (List.mem_cons_of_mem _ hmem)
      exact ⟨other, List.mem_cons_of_mem _ hmem, hother⟩

/-- An offer tells the calls nothing, so that the session and the tracker change side by side. -/
theorem took_offer {α : Type} (r : RpcClient) (tracker : Tracker) (a : Ask)
    (result : Except Failure α) :
    ({ r with tracker } : RpcClient).took (r.offer a).1 (r.offer a).2.1 result =
      { client := { r with client := (r.offer a).1, tracker }
        effects := (r.offer a).2.1, result } := by
  obtain ⟨dials, heffects⟩ := r.client.effects_submit
    (Session.sendFrame r.destinations.requests r.client.session.transaction a.payload) false
  have hnote := Accounts.note_dialEffects ({ r with tracker } : RpcClient).accounts dials
  rw [← heffects] at hnote
  unfold took
  dsimp only
  change _ = (⟨_, _, [], result⟩ : Done α)
  rw [offer, Client.send, hnote]
  rfl

theorem issue_of_register {r : RpcClient} {now : Instant} {a : Ask} {ids : List Json} {key : Nat}
    {tracker : Tracker}
    (h : r.tracker.register now (.new ids) a.payload r.tracker.policy = .ok (key, tracker)) :
    r.issue now ids a.payload =
      let client := { r with client := (r.offer a).1, tracker }
      let tracked : Done Nat := { client, effects := (r.offer a).2.1, result := .ok key }
      match (r.offer a).2.2 with
      | .ok () => tracked
      | .error failure =>
        if r.tracker.policy.isRetryable failure then tracked
        else
          { client := { client with tracker := tracker.remove key }, effects := (r.offer a).2.1
            result := .error failure } := by
  have htook := took_offer r tracker a (.ok key)
  simp only [offer] at htook ⊢
  cases hsent : (r.client.send r.destinations.requests a.payload).2.2 with
  | ok _ => simp only [issue, h, htook, hsent]
  | error failure => simp only [issue, h, htook, hsent]

theorem asked_of_ids {r : RpcClient} {now : Instant} {a : Ask} {ids : List Json}
    (hids : requestIds [] a.requests = .ok ids) (hne : a.requests ≠ []) :
    Asked r now a (r.issue now ids a.payload) := by
  obtain ⟨heq, hnull, hdistinct, _⟩ := requestIds_eq_ok hids
  have hne' : ids ≠ [] := by
    rintro rfl
    exact hne (List.map_eq_nil_iff.mp heq)
  cases hrefusal : r.tracker.refusal? ids with
  | some cause =>
    obtain ⟨id, hmem, hindex, rfl⟩ := refusal?_eq_some hrefusal hnull
    have hregister : r.tracker.register now (.new ids) a.payload r.tracker.policy =
        .error (.misuse (.idInFlight id.text)) := by
      simp only [Tracker.register, Call.new, hrefusal]
    simp only [issue, hregister]
    exact .refused (.inFlight (heq ▸ List.mem_map_of_mem hmem) hindex)
  | none =>
    obtain ⟨tracker, hregister⟩ : ∃ tracker, r.tracker.register now (.new ids) a.payload
        r.tracker.policy = .ok (r.tracker.nextKey, tracker) :=
      ⟨_, by simp only [Tracker.register, Call.new, hrefusal]; rfl⟩
    have haccepts : r.Accepts now a ids tracker := ⟨heq, hne', hdistinct, hregister⟩
    rw [issue_of_register hregister]
    dsimp only
    split
    · rename_i hsent
      exact .tracked haccepts fun failure he => by rw [hsent] at he; cases he
    · rename_i failure hsent
      split
      · rename_i hp
        exact .tracked haccepts fun other he => by
          rw [hsent] at he
          cases he
          exact hp
      · rename_i hp
        exact .unsent haccepts hsent (Bool.not_eq_true _ ▸ hp)

theorem asked (r : RpcClient) (now : Instant) (a : Ask) : Asked r now a (r.ask now a) := by
  cases a with
  | one request =>
    simp only [ask, call]
    split
    · rename_i failure hid
      obtain ⟨hnone, rfl⟩ := requestId_eq_error hid
      exact .refused (.withoutId (List.mem_singleton.mpr rfl) hnone)
    · rename_i id hid
      refine asked_of_ids (a := .one request) ?_ (List.cons_ne_nil _ _)
      simp only [Ask.requests, requestIds_cons, hid]
      rfl
  | batch requests =>
    simp only [ask, batch]
    split
    · rename_i hempty
      exact .refused (.empty (List.isEmpty_iff.mp hempty))
    · rename_i hne
      split
      · rename_i failure hids
        rcases requestIds_eq_error hids with ⟨request, hmem, hnone, rfl⟩ | ⟨id, hcount, rfl⟩
        · exact .refused (.withoutId hmem hnone)
        · exact .refused (.repeated hcount)
      · rename_i ids hids
        exact asked_of_ids (a := .batch requests) hids fun he => hne (List.isEmpty_iff.mpr he)

end RpcClient
end BrokerRpc
