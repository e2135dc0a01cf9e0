import BrokerRpc.Proofs.Tracker.Fate

/-! # How calls end

A call waits while it is in flight. Whatever takes it off the table resolves it with one response
for each of its ids, or was its owner giving it up. Each of these responses arrived while the call
was in flight, or reports a failure in place of an answer.
-/
namespace BrokerRpc.Tracker

/-- The calls of a client come without answers and with different ids, at least one. -/
def Operation.Proper : Operation → Prop
  | register _ call _ _ =>
    ∃ ids, call = Call.new ids ∧ ids ≠ [] ∧ (ids.map Response.idKey).Nodup
  | _ => True

/-- The operations of a client: nobody takes a call off the table without giving it up. -/
structure Operation.Regular (operation : Operation) : Prop where
  proper : operation.Proper
  kept : ∀ key, operation ≠ .remove key

def Moment.Accepts (m : Moment) (key : Nat) (call : Call) : Prop :=
  ∃ now payload policy, m.operation = .register now call payload policy ∧
    m.before.register now call payload policy = .ok (key, m.after)

/-- Where a response of a call comes from: it arrived while the call was in flight, or reports a
failure in place of an answer. -/
def Genuine (past : List Moment) (key : Nat) (r : Response) : Prop :=
  (∃ m ∈ past, m.operation = .respond r ∧ key ∈ m.before.table.keys) ∨
    ∃ message, r = Response.failure r.id Response.timeoutCode message

/-- What holds of one call after some moments: it waits while it is in flight, and otherwise is done
or was given up. -/
structure Accounted (past : List Moment) (key : Nat) (inFlight : Bool) (call : Call) : Prop where
  sound : call.Sound
  waiting : inFlight = true → call.status = .pending
  settled : inFlight = false → call.status = .done ∨ call.status = .cancelled
  excused : call.status = .cancelled → ∃ m ∈ past, m.operation = .cancel key
  genuine : ∀ entry ∈ call.answers, Genuine past key entry.2

theorem Genuine.later {past : List Moment} {key : Nat} {r : Response} (h : Genuine past key r)
    (more : List Moment) : Genuine (past ++ more) key r := by
  refine h.imp_left ?_
  rintro ⟨m, hm, hrest⟩
  exact ⟨m, List.mem_append_left _ hm, hrest⟩

theorem genuine_failure {past : List Moment} {key : Nat} (id : Json) (message : String) :
    Genuine past key (.failure id Response.timeoutCode message) := Or.inr ⟨message, rfl⟩

namespace Accounted
variable {past : List Moment} {key : Nat} {inFlight : Bool} {call : Call}

theorem later (h : Accounted past key inFlight call) (more : List Moment) :
    Accounted (past ++ more) key inFlight call := by
  refine ⟨h.sound, h.waiting, h.settled, ?_, ?_⟩
  · intro hs
    obtain ⟨m, hm, hop⟩ := h.excused hs
    exact ⟨m, List.mem_append_left _ hm, hop⟩
  · intro entry hmem
    exact (h.genuine entry hmem).later more

theorem answer (h : Accounted past key true call) {m : Moment} {r : Response}
    (hop : m.operation = .respond r) (hm : key ∈ m.before.table.keys) :
    Accounted (past ++ [m]) key ((call.answer r).1.status != .done) (call.answer r).1 := by
  have hpending := h.waiting rfl
  have hself : Genuine (past ++ [m]) key r :=
    Or.inl ⟨m, List.mem_append_right _ List.mem_cons_self, hop, hm⟩
  rcases call.answer_cases r with he | ⟨_, hexp, he⟩
  · rw [he, hpending]
    exact h.later [m]
  · have hstatus : (call.record r).status = .done ∨ (call.record r).status = .pending := by
      rw [Call.status_record, hpending]
      split
      · exact Or.inl rfl
      · exact Or.inr rfl
    rw [he]
    refine ⟨h.sound.record hpending hexp, ?_, ?_, ?_, ?_⟩
    · intro hs
      exact hstatus.resolve_left (bne_iff_ne.mp hs)
    · intro hs
      exact Or.inl (by simpa using hs)
    · intro hs
      rw [hs] at hstatus
      rcases hstatus with hs | hs <;> cases hs
    · intro entry hmem
      rcases List.mem_append.mp hmem with hmem | hmem
      · exact (h.genuine entry hmem).later [m]
      · rw [List.mem_singleton.mp hmem]
        exact hself

theorem failMissing (h : Accounted past key true call) (m : Moment) {make : Json → Response}
    (hmake : ∀ id, ∃ message, make id = Response.failure id Response.timeoutCode message) :
    Accounted (past ++ [m]) key false (call.failMissing make).1 := by
  have hid : ∀ id, (make id).id = id := by
    intro id
    obtain ⟨message, he⟩ := hmake id
    rw [he]
    rfl
  have hfail := congrArg Prod.fst (h.sound.failMissing_eq (h.waiting rfl) hid)
  have hstatus : (call.failMissing make).1.status = .done := by rw [hfail]
  refine ⟨h.sound.failMissing make, fun hf => absurd hf Bool.false_ne_true,
    fun _ => Or.inl hstatus, ?_, ?_⟩
  · intro hs
    rw [hstatus] at hs
    cases hs
  · intro entry hmem
    rw [hfail] at hmem
    rcases List.mem_append.mp hmem with hmem | hmem
    · exact (h.genuine entry hmem).later [m]
    · obtain ⟨id, _, rfl⟩ := List.mem_map.mp hmem
      obtain ⟨message, he⟩ := hmake id
      rw [he]
      exact genuine_failure id message

theorem cancel (h : Accounted past key true call) {m : Moment} (hop : m.operation = .cancel key) :
    Accounted (past ++ [m]) key false call.cancel := by
  have hcancel : call.cancel = { call with status := .cancelled } := by
    rw [Call.cancel, if_pos (h.waiting rfl)]
  refine ⟨h.sound.cancel, fun hf => absurd hf Bool.false_ne_true, ?_, ?_, ?_⟩
  · intro _
    rw [hcancel]
    exact Or.inr rfl
  · intro _
    exact ⟨m, List.mem_append_right _ List.mem_cons_self, hop⟩
  · intro entry hmem
    rw [hcancel] at hmem
    exact (h.genuine entry hmem).later [m]

/-- Whatever happens to a call in flight, it goes on waiting or is resolved or given up. -/
theorem fate (h : Accounted past key true call) {policy : Policy} {tracking : Tracking}
    {operation : Operation} {left : Option Tracking} {call' : Call} {events : List CallEvent}
    (hf : Fate policy key tracking call operation left call' events) (hr : operation.Regular)
    {m : Moment} (hop : m.operation = operation) (hm : key ∈ m.before.table.keys) :
    Accounted (past ++ [m]) key left.isSome call' := by
  have htimeout : ∀ id, ∃ message,
      Response.timeout id = Response.failure id Response.timeoutCode message :=
    fun id => ⟨_, rfl⟩
  have hfailure : ∀ failure id, ∃ message,
      failureResponse failure id = Response.failure id Response.timeoutCode message :=
    fun _ id => ⟨_, rfl⟩
  cases hf with
  | spared _ => exact h.later [m]
  | answered _ hs =>
    have ha := h.answer hop hm
    rw [bne_iff_ne.mpr hs] at ha
    exact ha
  | completed _ hs =>
    have ha := h.answer hop hm
    rw [hs] at ha
    exact ha
  | early _ => exact h.later [m]
  | resent _ _ => exact h.later [m]
  | unsendable _ _ _ => exact h.failMissing m (hfailure _)
  | expired _ _ => exact h.failMissing m htimeout
  | disturbed _ => exact h.later [m]
  | severed _ => exact h.failMissing m (hfailure _)
  | closed => exact h.failMissing m htimeout
  | removed => exact absurd rfl (hr.kept _)
  | cancelled => exact h.cancel hop

theorem cancel_eq (h : Accounted past key false call) : call.cancel = call := by
  rw [Call.cancel, if_neg]
  intro hp
  rcases h.settled rfl with hs | hs <;> (rw [hp] at hs; cases hs)

end Accounted

/-! ## New calls -/

section Run
variable {σ : Type} (send : Bytes → σ → Except Failure Unit × σ)

theorem keys_calls_perform (t : Tracker) (s : σ) (operation : Operation) :
    (perform send t s operation).1.after.calls.keys = t.calls.keys ∨
      ∃ now call payload policy key, operation = .register now call payload policy ∧
        t.register now call payload policy =
          .ok (key, (perform send t s operation).1.after) := by
  cases operation with
  | register now call payload policy =>
    simp only [perform, registered]
    split
    · rename_i key after hr
      exact Or.inr ⟨now, call, payload, policy, key, rfl, hr⟩
    · exact Or.inl rfl
  | respond r => exact Or.inl (keys_calls_processResponse t r)
  | sweep now => exact Or.inl (keys_calls_sweep (recording send) t now (s, []))
  | linkLost failure => exact Or.inl (keys_calls_linkLost t failure)
  | failAll => exact Or.inl (keys_calls_failAll t)
  | setPolicy policy => exact Or.inl rfl
  | remove key => exact Or.inl (congrArg Assoc.keys (calls_remove t key))
  | cancel key =>
    refine Or.inl ?_
    simp only [perform, cancel, calls_remove, Assoc.keys_modify]

/-- A call that was not there before is the one that was just accepted. -/
theorem accepts_of_new {t : Tracker} {s : σ} {operation : Operation} {key : Nat} {call : Call}
    (hn : t.calls.get? key = none)
    (hc : (perform send t s operation).1.after.calls.get? key = some call) :
    (perform send t s operation).1.Accepts key call := by
  rcases keys_calls_perform send t s operation with hk | ⟨now, other, payload, policy, k, hop, hr⟩
  · have hmem := Assoc.mem_keys_of_get? hc
    rw [hk] at hmem
    exact absurd hmem (Assoc.get?_eq_none_iff.mp hn)
  · obtain ⟨_, hkey, hafter⟩ := register_eq_ok_iff.mp hr
    rw [hafter, Assoc.get?_append, hn, Option.none_or] at hc
    simp only [Assoc.get?, Option.ite_none_right_eq_some, Option.some.injEq] at hc
    obtain ⟨hk, hcall⟩ := hc
    refine ⟨now, payload, policy, ?_, ?_⟩
    · rw [operation_perform, hop, hcall]
    · rw [before_perform, ← hcall, ← hk]
      exact hr

theorem get?_of_accepts {m : Moment} (h : Correlated m.before) {key : Nat} {call : Call}
    (ha : m.Accepts key call) :
    m.after.calls.get? key = some call ∧ m.after.table.contains key = true := by
  obtain ⟨now, payload, policy, _, hr⟩ := ha
  obtain ⟨_, hkey, hafter⟩ := register_eq_ok_iff.mp hr
  have hcalls := Assoc.get?_eq_none_iff.mpr h.nextKey_not_mem
  rw [hafter, hkey]
  constructor
  · simp only [Assoc.get?_append, hcalls, Option.none_or, Assoc.get?, if_true]
  · rw [Assoc.contains_iff_mem_keys]
    simp [Assoc.keys]

/-! ## Whole runs -/

structure Ledger (past : List Moment) (t : Tracker) : Prop where
  correlated : Correlated t
  accounted : ∀ key call, t.calls.get? key = some call →
    Accounted past key (t.table.contains key) call
  kept : ∀ m ∈ past, ∀ key call, m.Accepts key call →
    ∃ call', t.calls.get? key = some call' ∧ call'.ids = call.ids

theorem ledger_new (policy : Policy) : Ledger [] (new policy) where
  correlated := correlated_new policy
  accounted := fun key call h => by cases h
  kept := fun m h => absurd h List.not_mem_nil

namespace Ledger
variable {past : List Moment} {t : Tracker}

/-- A call that was there before is accounted for afterwards, with the same ids. -/
theorem carry (h : Ledger past t) (s : σ) {operation : Operation} (hr : operation.Regular)
    {key : Nat} {call : Call} (hc : t.calls.get? key = some call) :
    ∃ call', (perform send t s operation).1.after.calls.get? key = some call' ∧
      call'.ids = call.ids ∧
      Accounted (past ++ [(perform send t s operation).1]) key
        ((perform send t s operation).1.after.table.contains key) call' := by
  have ha := h.accounted key call hc
  cases ht : t.table.get? key with
  | some tracking =>
    have hmem := Assoc.mem_keys_of_get? ht
    obtain ⟨call', hc', hf⟩ := perform_fate send h.correlated s operation ht hc
    rw [Assoc.contains_iff_mem_keys.mpr hmem] at ha
    exact ⟨call', hc', hf.ids_eq, ha.fate hf hr (operation_perform send t s operation)
      (by rw [before_perform]; exact hmem)⟩
  | none =>
    obtain ⟨ht', _, call', hc', hcall⟩ := perform_departed send h.correlated s operation ht hc
    have hout := Assoc.contains_eq_false_iff.mpr (Assoc.get?_eq_none_iff.mp ht)
    have hout' := Assoc.contains_eq_false_iff.mpr (Assoc.get?_eq_none_iff.mp ht')
    rw [hout] at ha
    -- a call that is done or was given up does not change when it is given up again
    have hsame : call' = call := by
      rcases hcall with rfl | ⟨_, rfl⟩
      · rfl
      · exact ha.cancel_eq
    rw [hsame] at hc'
    rw [hout']
    exact ⟨call, hc', rfl, ha.later _⟩

theorem perform (h : Ledger past t) (s : σ) {operation : Operation} (hr : operation.Regular) :
    Ledger (past ++ [(Tracker.perform send t s operation).1])
      (Tracker.perform send t s operation).1.after := by
  have hbefore : Correlated (Tracker.perform send t s operation).1.before := by
    rw [before_perform]
    exact h.correlated
  refine ⟨h.correlated.perform send s operation, ?_, ?_⟩
  · intro key call' hc'
    cases hc : t.calls.get? key with
    | some call =>
      obtain ⟨other, ho, _, ha⟩ := h.carry send s hr hc
      rw [hc'] at ho
      cases ho
      exact ha
    | none =>
      have hacc := accepts_of_new send hc hc'
      rw [(get?_of_accepts hbefore hacc).2]
      obtain ⟨now, payload, policy, hop, _⟩ := hacc
      rw [operation_perform] at hop
      subst hop
      obtain ⟨ids, rfl, hne, hd⟩ := hr.proper
      exact ⟨Call.sound_new hne hd, fun _ => rfl, fun hf => (by cases hf), fun hs => (by cases hs),
        fun entry hmem => absurd hmem List.not_mem_nil⟩
  · intro m hm key call hacc
    rcases List.mem_append.mp hm with hm | hm
    · obtain ⟨now, hnow, hids⟩ := h.kept m hm key call hacc
      obtain ⟨call', hc', hids', _⟩ := h.carry send s hr hnow
      exact ⟨call', hc', hids'.trans hids⟩
    · rw [List.mem_singleton.mp hm] at hacc
      exact ⟨call, (get?_of_accepts hbefore hacc).1, rfl⟩

end Ledger

theorem ledger_reached (policy : Policy) (s : σ) {operations : List Operation}
    (hr : ∀ operation ∈ operations, operation.Regular) :
    Ledger (history send (new policy) s operations) (reached send (new policy) s operations).1 :=
  history_preserves send (fun _ _ s _ hr h => h.perform send s hr) (ledger_new policy) s hr

/-- Nobody waits forever. A call in flight is pending. An accepted call that is not in flight any
more was given up by its owner or is done, with one response for each of its ids in their order, and
each of these arrived while the call was in flight or reports a failure in place of an answer. -/
theorem pending_or_resolved (policy : Policy) (s : σ) {operations : List Operation}
    (hr : ∀ operation ∈ operations, operation.Regular) :
    let t := (reached send (new policy) s operations).1
    let moments := history send (new policy) s operations
    (∀ key ∈ t.table.keys, ∃ call, t.calls.get? key = some call ∧ call.status = .pending) ∧
      ∀ m ∈ moments, ∀ key call, m.Accepts key call → key ∉ t.table.keys →
        ∃ call', t.calls.get? key = some call' ∧ call'.ids = call.ids ∧
          (call'.status = .cancelled ∧ (∃ m ∈ moments, m.operation = .cancel key) ∨
            call'.status = .done ∧
              call'.responses.map (fun r => Response.idKey r.id) = call.keys ∧
              ∀ r ∈ call'.responses, Genuine moments key r) := by
  intro t moments
  have h : Ledger moments t := ledger_reached send policy s hr
  constructor
  · intro key hmem
    obtain ⟨call, hc⟩ := Assoc.mem_keys_iff.mp (h.correlated.known key hmem)
    have ha := h.accounted key call hc
    exact ⟨call, hc, ha.waiting (Assoc.contains_iff_mem_keys.mpr hmem)⟩
  · intro m hm key call hacc hout
    obtain ⟨call', hc', hids⟩ := h.kept m hm key call hacc
    have ha := h.accounted key call' hc'
    refine ⟨call', hc', hids, ?_⟩
    rcases ha.settled (Assoc.contains_eq_false_iff.mpr hout) with hs | hs
    · refine Or.inr ⟨hs, ?_, ?_⟩
      · rw [ha.sound.responses_of_done hs, Call.keys, Call.keys, hids]
      · intro r hmem
        exact ha.genuine _ (ha.sound.mem_answers_of_mem_responses hmem)
    · exact Or.inl ⟨hs, ha.excused hs⟩

end Run

/-- One of two ids is answered before the only attempt runs out, so that the other one times out. -/
theorem pending_or_resolved_half_answered :
    let send : Bytes → Unit → Except Failure Unit × Unit := fun _ s => (.ok (), s)
    let policy : Policy := .withRetry (.ofSeconds 1) 1 ⟨0⟩
    let answer : Response := .success (.str "a") .null
    let operations : List Operation :=
      [.register 0 (.new [.int 1, .str "a"]) [65] policy, .respond answer,
        .register 0 (.new [.int 2]) [66] policy, .cancel 2, .sweep 1000000000]
    let t := (reached send (new policy) () operations).1
    (∀ operation ∈ operations, operation.Regular) ∧ t.table = [] ∧
      ∃ call, t.calls.get? 1 = some call ∧ call.status = .done ∧
        call.responses.map (fun r => Response.idKey r.id) =
          [Response.idKey (.int 1), Response.idKey (.str "a")] ∧
        call.responses = [.timeout (.int 1), answer] := by
  intro send policy answer operations t
  have hr : ∀ operation ∈ operations, operation.Regular := by
    intro operation hmem
    simp only [operations, List.mem_cons, List.not_mem_nil, or_false] at hmem
    rcases hmem with rfl | rfl | rfl | rfl | rfl
    · exact ⟨⟨_, rfl, by simp, by decide⟩, by simp⟩
    · exact ⟨trivial, by simp⟩
    · exact ⟨⟨_, rfl, by simp, by decide⟩, by simp⟩
    · exact ⟨trivial, by simp⟩
    · exact ⟨trivial, by simp⟩
  have hempty : t.table = [] := by decide
  have hout : 1 ∉ t.table.keys := by
    rw [hempty]
    exact List.not_mem_nil
  have hacc : (perform send (new policy) ()
      (.register 0 (.new [.int 1, .str "a"]) [65] policy)).1.Accepts 1
      (.new [.int 1, .str "a"]) := ⟨0, [65], policy, rfl, rfl⟩
  have hcalls : t.calls.get? 1 = some
      { ids := [.int 1, .str "a"], status := .done
        answers := [(Response.idKey (.str "a"), answer),
          (Response.idKey (.int 1), .timeout (.int 1))] } := by decide
  obtain ⟨_, hall⟩ := pending_or_resolved send policy () hr
  obtain ⟨call, hc, _, hend⟩ := hall _ List.mem_cons_self 1 _ hacc hout
  have he : call = _ := Option.some.inj (hc.symm.trans hcalls)
  subst he
  rcases hend with ⟨hs, _⟩ | ⟨hs, hkeys, _⟩
  · cases hs
  · exact ⟨hr, hempty, _, hc, hs, hkeys, by decide⟩

end BrokerRpc.Tracker
