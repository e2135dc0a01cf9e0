import BrokerRpc.Proofs.Inbound.Values
import BrokerRpc.Proofs.Tracker.Waiting
import Mathlib.Data.List.Forall2

/-! # What an inbound payload touches

Whoever writes to the response destination is not trusted. A payload gives a call an answer only
through a valid response to an id that the call still waits for, and publishes the objects whose
method is an event id, in their order. An array counts as its elements one by one, and whatever else
arrives leaves everything as it is.
-/
namespace BrokerRpc

/-! ## What responses do to calls -/

namespace Call

/-- What responses can do to a call: while it waits it records some of them, each under an id of its
own, and else it stays as it is. -/
structure Gains (responses : List Response) (c c' : Call) : Prop where
  ids_eq : c'.ids = c.ids
  pending : c'.status = .pending → c.status = .pending
  answers : ∃ new, c'.answers = c.answers ++ new ∧ (new = [] → c' = c) ∧
    ∀ entry ∈ new, c.status = .pending ∧ entry.1 ∈ c.keys ∧ entry.2 ∈ responses ∧
      entry.2.id.isNull = false ∧ Response.idKey entry.2.id = entry.1

theorem Gains.refl (responses : List Response) (c : Call) : Gains responses c c :=
  ⟨rfl, id, [], (List.append_nil _).symm, fun _ => rfl, fun _ h => absurd h List.not_mem_nil⟩

theorem Gains.trans {first rest : List Response} {c c' c'' : Call} (h : Gains first c c')
    (h' : Gains rest c' c'') : Gains (first ++ rest) c c'' := by
  obtain ⟨new, hnew, hkept, hentries⟩ := h.answers
  obtain ⟨more, hmore, hkept', hentries'⟩ := h'.answers
  refine ⟨h'.ids_eq.trans h.ids_eq, fun hp => h.pending (h'.pending hp), new ++ more, ?_, ?_, ?_⟩
  · rw [hmore, hnew, List.append_assoc]
  · intro hnone
    obtain ⟨hnew, hmore⟩ := List.append_eq_nil_iff.mp hnone
    exact (hkept' hmore).trans (hkept hnew)
  · intro entry hentry
    rcases List.mem_append.mp hentry with hentry | hentry
    · obtain ⟨hpending, hkey, hmem, hrest⟩ := hentries entry hentry
      exact ⟨hpending, hkey, List.mem_append_left _ hmem, hrest⟩
    · obtain ⟨hpending, hkey, hmem, hrest⟩ := hentries' entry hentry
      rw [keys, h.ids_eq] at hkey
      exact ⟨h.pending hpending, hkey, List.mem_append_right _ hmem, hrest⟩

theorem gains_answer (c : Call) {r : Response} (hr : r.id.isNull = false) :
    Gains [r] c (c.answer r).1 := by
  rcases c.answer_cases r with he | ⟨hpending, hexpects, he⟩
  · rw [he]
    exact .refl _ c
  · rw [he]
    refine ⟨rfl, fun _ => hpending, [(Response.idKey r.id, r)], rfl, by simp,
      fun entry hentry => ?_⟩
    rw [List.mem_singleton.mp hentry]
    exact ⟨hpending, (expects_iff.mp hexpects).1, List.mem_singleton.mpr rfl, hr, rfl⟩

end Call

namespace Tracker

/-- What responses can do to a tracker: calls in flight gain from them, and calls may leave the
table. -/
structure Gains (responses : List Response) (t t' : Tracker) : Prop where
  table_sub : ∀ key ∈ t'.table.keys, key ∈ t.table.keys
  calls : ∀ key call', t'.calls.get? key = some call' → ∃ call, t.calls.get? key = some call ∧
    call.Gains responses call' ∧ (call' = call ∨ key ∈ t.table.keys)

variable {t : Tracker}

theorem Gains.refl (responses : List Response) (t : Tracker) : Gains responses t t :=
  ⟨fun _ => id, fun _ call hcall => ⟨call, hcall, .refl _ call, Or.inl rfl⟩⟩

theorem Gains.trans {first rest : List Response} {t' t'' : Tracker} (h : Gains first t t')
    (h' : Gains rest t' t'') : Gains (first ++ rest) t t'' := by
  refine ⟨fun key hkey => h.table_sub key (h'.table_sub key hkey), fun key call'' hcall'' => ?_⟩
  obtain ⟨call', hcall', hlater, hmem'⟩ := h'.calls key call'' hcall''
  obtain ⟨call, hcall, hearlier, hmem⟩ := h.calls key call' hcall'
  refine ⟨call, hcall, hearlier.trans hlater, ?_⟩
  rcases hmem' with rfl | hmem'
  · exact hmem
  · exact Or.inr (h.table_sub key hmem')

theorem gains_processResponse (t : Tracker) (r : Response) :
    Gains [r] t (t.processResponse r).1 := by
  unfold processResponse
  split
  · exact .refl _ t
  rename_i hnull
  split
  · exact .refl _ t
  rename_i key _
  split
  · rename_i hkey
    have hmem := Assoc.contains_iff_mem_keys.mp hkey
    have htable : (t.change key (·.answer r)).1.table = t.table := by rw [change_eq]
    have hchange : Gains [r] t (t.change key (·.answer r)).1 := by
      refine ⟨fun other hother => htable ▸ hother, fun other call' hcall' => ?_⟩
      rw [get?_calls_change] at hcall'
      split at hcall'
      · rename_i he
        obtain ⟨call, hcall, rfl⟩ := Option.map_eq_some_iff.mp hcall'
        have hgains := call.gains_answer (Bool.eq_false_iff.mpr hnull)
        exact ⟨call, he ▸ hcall, hgains, Or.inr (he ▸ hmem)⟩
      · exact ⟨call', hcall', .refl _ call', Or.inl rfl⟩
    dsimp only
    split
    · refine ⟨fun other hother => ?_, fun other call' hcall' => ?_⟩
      · exact hchange.table_sub other (mem_keys_remove_iff.mp hother).2
      · exact hchange.calls other call' (calls_remove _ key ▸ hcall')
    · exact hchange
  · exact .refl _ t

/-! ## What a response that resolves nothing does -/

def Resolves (t : Tracker) (r : Response) : Prop :=
  r.id.isNull = false ∧ ∃ key call, key ∈ t.table.keys ∧ t.calls.get? key = some call ∧
    call.status = .pending ∧ call.expects r = true

def Leads (t : Tracker) (r : Response) : Prop :=
  r.id.isNull = false ∧ ∃ key ∈ t.table.keys, t.index.get? (Response.idKey r.id) = some key

theorem processResponse_of_not_leads {r : Response} (hr : ¬ t.Leads r) :
    t.processResponse r = (t, []) := by
  unfold processResponse
  split
  · rfl
  rename_i hnull
  split
  · rfl
  rename_i key hindex
  have hout : key ∉ t.table.keys := fun hmem => hr ⟨Bool.eq_false_iff.mpr hnull, key, hmem, hindex⟩
  rw [if_neg (by simpa using Assoc.contains_eq_false_iff.mpr hout)]

theorem Waiting.processResponse (h : Waiting t) {r : Response} (hr : ¬ t.Resolves r) :
    t.processResponse r = (t, []) := by
  unfold Tracker.processResponse
  split
  · rfl
  rename_i hnull
  split
  · rfl
  rename_i key hindex
  obtain ⟨hmem, hid⟩ := (h.correlated.index_iff _ _).mp hindex
  obtain ⟨call, hcall, hpending⟩ := h.pending key hmem
  rw [idsOf_eq hcall] at hid
  -- the call waits, so that it must have an answer to this id already
  have hsame : call.answer r = (call, []) := by
    rcases call.answer_cases r with he | ⟨_, hexpects, _⟩
    · exact he
    · exact absurd ⟨Bool.eq_false_iff.mpr hnull, key, call, hmem, hcall, hpending, hexpects⟩ hr
  have hchange : t.change key (·.answer r) = (t, []) := by
    rw [change_of_get? hcall, hsame, Assoc.put_of_get? hcall]
    rfl
  have hdone : t.isDone key = false := by simp [isDone, hcall, hpending]
  rw [if_pos (Assoc.contains_iff_mem_keys.mpr hmem)]
  simp only [hchange, hdone, Bool.false_eq_true, if_false]

end Tracker

/-! ## Whole payloads -/

namespace Desk

open Inbound

def dispatchEach (d : Desk) (now : Timestamp) : List Bytes → Desk × List CallNotice
  | [] => (d, [])
  | payload :: rest =>
    let (d, notices) := d.dispatch now payload
    let (d, more) := d.dispatchEach now rest
    (d, notices ++ more)

variable {d : Desk} {now : Timestamp}

def responsesIn (xs : List Inbound) : List Response :=
  xs.filterMap fun x =>
    match x with
    | .response r => some r
    | _ => none

theorem mem_responsesIn {xs : List Inbound} {r : Response} :
    r ∈ responsesIn xs ↔ .response r ∈ xs := by
  simp only [responsesIn, List.mem_filterMap]
  constructor
  · rintro ⟨x, hx, he⟩
    cases x <;> cases he
    exact hx
  · exact fun hr => ⟨_, hr, rfl⟩

/-- The events among inbound values, stamped with the time of their arrival. -/
def eventOf? (now : Timestamp) : Inbound → Option Event
  | .event id params => some ⟨id, params, now⟩
  | _ => none

theorem eventOf?_eq_some_iff {v : Json} {e : Event} :
    eventOf? now (ofJson v) = some e ↔ IsEvent v e.id e.params ∧ e.receivedAt = now := by
  obtain ⟨id, params, receivedAt⟩ := e
  rw [← ofJson_eq_event_iff]
  cases ofJson v <;> simp [eventOf?, eq_comm, and_assoc]

theorem gains_routeAll (d : Desk) (now : Timestamp) (xs : List Inbound) :
    Tracker.Gains (responsesIn xs) d.tracker (d.routeAll now xs).1.tracker := by
  induction xs generalizing d with
  | nil => exact .refl _ _
  | cons x xs ih =>
    have hrest := ih (d.route now x).1
    cases x with
    | event id params => exact hrest
    | response r => exact (d.tracker.gains_processResponse r).trans hrest
    | dropped => exact hrest

/-- Inbound values do to a tracker what their responses do one after the other. -/
theorem tracker_routeAll {σ : Type} (send : Bytes → σ → Except Failure Unit × σ) (s : σ) (d : Desk)
    (now : Timestamp) (xs : List Inbound) : (d.routeAll now xs).1.tracker =
      (Tracker.reached send d.tracker s ((responsesIn xs).map .respond)).1 := by
  induction xs generalizing d s with
  | nil => rfl
  | cons x xs ih =>
    have hrest := ih s (d.route now x).1
    cases x with
    | event id params => exact hrest
    | response r => exact hrest
    | dropped => exact hrest

theorem reachable_routeAll (h : d.tracker.Reachable) (now : Timestamp) (xs : List Inbound) :
    (d.routeAll now xs).1.tracker.Reachable := by
  obtain ⟨σ, send, policy, s, operations, hfresh, hd⟩ := h
  refine ⟨σ, send, policy, s, operations ++ (responsesIn xs).map .respond, ?_, ?_⟩
  · intro operation hmem
    rcases List.mem_append.mp hmem with hmem | hmem
    · exact hfresh operation hmem
    · obtain ⟨r, _, rfl⟩ := List.mem_map.mp hmem
      trivial
  · rw [Tracker.reached_append, hd, tracker_routeAll send _ d now xs]

theorem publisher_routeAll (d : Desk) (now : Timestamp) (xs : List Inbound) :
    (d.routeAll now xs).1.publisher =
      (xs.filterMap (eventOf? now)).foldl Publisher.publish d.publisher := by
  induction xs generalizing d with
  | nil => rfl
  | cons x xs ih =>
    have hrest := ih (d.route now x).1
    cases x with
    | event id params => exact hrest
    | response r => exact hrest
    | dropped => exact hrest

theorem routeAll_dropped (d : Desk) (now : Timestamp) (before after : List Inbound) :
    d.routeAll now (before ++ .dropped :: after) = d.routeAll now (before ++ after) := by
  induction before generalizing d with
  | nil => rfl
  | cons x before ih => simp only [List.cons_append, routeAll, ih]

theorem routeAll_idle {xs : List Inbound} (hidle : ∀ x ∈ xs, x = .dropped ∨
      ∃ r, x = .response r ∧ d.tracker.processResponse r = (d.tracker, [])) :
    d.routeAll now xs = (d, []) := by
  induction xs with
  | nil => rfl
  | cons x xs ih =>
    have hrest := ih fun other hmem => hidle other (List.mem_cons_of_mem _ hmem)
    rcases hidle x List.mem_cons_self with rfl | ⟨r, rfl, hr⟩
    · simp only [routeAll, route, hrest, List.append_nil]
    · simp only [routeAll, route, hr, hrest, List.append_nil]

/-- An array has the effect of its elements one by one. An array within it has none. -/
theorem dispatchEach_eq (d : Desk) (now : Timestamp) {items : List Json} {pieces : List Bytes}
    (h : List.Forall₂ (Json.parse · = .ok ·) pieces (items.filter fun v => !v.isArray)) :
    d.dispatchEach now pieces = d.routeAll now (items.map ofJson) := by
  induction items generalizing d pieces with
  | nil =>
    cases h
    rfl
  | cons v items ih =>
    cases hv : v.isArray with
    | true =>
      have hdropped : ofJson v = .dropped := by
        cases v with
        | arr items => rfl
        | _ => cases hv
      rw [List.filter_cons_of_neg (by simp [hv])] at h
      rw [List.map_cons, hdropped, ih d h]
      exact (d.routeAll_dropped now [] _).symm
    | false =>
      rw [List.filter_cons_of_pos (by simp [hv])] at h
      cases h with
      | cons hfirst hrest =>
        simp only [dispatchEach, dispatch, ofPayload, values_of_single hfirst hv, List.map_cons,
          List.map_nil, routeAll, List.append_nil, ih _ hrest]

/-- What an inbound payload does, in whatever state it finds a desk.

A call changes only by new answers. It gets one only while it is in flight and waits for the
answer's id, and only through a valid response with that id that is the payload or an element of it.
The values that are events are published in their order, and no others. An array does what its
elements do one by one, arrays within it aside, and an element that is neither an event nor a valid
response might as well be missing. A payload without events whose valid responses lead to no call in
flight changes nothing, and in a state that a client can come to, neither does one without events
whose valid responses resolve nothing. -/
theorem touches_only_addressed (d : Desk) (now : Timestamp) (payload : Bytes) :
    (∀ key call', (d.dispatch now payload).1.tracker.calls.get? key = some call' →
      ∃ call new, d.tracker.calls.get? key = some call ∧ call'.answers = call.answers ++ new ∧
        (new = [] → call' = call) ∧ ∀ entry ∈ new,
          call.status = .pending ∧ key ∈ d.tracker.table.keys ∧ entry.1 ∈ call.keys ∧
          ∃ v, Holds payload v ∧ IsResponse v entry.2 ∧ entry.2.id.isNull = false ∧
            Response.idKey entry.2.id = entry.1) ∧
    (∃ event? : Json → Option Event,
      (∀ v e, event? v = some e ↔ IsEvent v e.id e.params ∧ e.receivedAt = now) ∧
      (d.dispatch now payload).1.publisher =
        ((values payload).filterMap event?).foldl Publisher.publish d.publisher) ∧
    (∀ items pieces, Json.parse payload = .ok (.arr items) →
      List.Forall₂ (Json.parse · = .ok ·) pieces (items.filter fun v => !v.isArray) →
      d.dispatch now payload = d.dispatchEach now pieces) ∧
    (∀ before v after shorter, Json.parse payload = .ok (.arr (before ++ v :: after)) →
      Json.parse shorter = .ok (.arr (before ++ after)) → (∀ id params, ¬ IsEvent v id params) →
      (∀ r, ¬ IsResponse v r) → d.dispatch now payload = d.dispatch now shorter) ∧
    ((∀ v, Holds payload v → (∀ id params, ¬ IsEvent v id params) ∧
        ∀ r, IsResponse v r → ¬ d.tracker.Leads r) → d.dispatch now payload = (d, [])) ∧
    (d.tracker.Reachable → (d.dispatch now payload).1.tracker.Reachable ∧
      ((∀ v, Holds payload v → (∀ id params, ¬ IsEvent v id params) ∧
          ∀ r, IsResponse v r → ¬ d.tracker.Resolves r) → d.dispatch now payload = (d, []))) := by
  -- what a held value is decides what it is taken for
  have hidle (hquiet : ∀ v, Holds payload v → (∀ id params, ¬ IsEvent v id params) ∧
      ∀ r, IsResponse v r → d.tracker.processResponse r = (d.tracker, [])) :
      d.dispatch now payload = (d, []) := by
    refine routeAll_idle fun x hx => ?_
    obtain ⟨v, hv, rfl⟩ := List.mem_map.mp hx
    obtain ⟨hevent, hresponse⟩ := hquiet v (holds_of_mem_values hv)
    cases hkind : ofJson v with
    | event id params => exact absurd (ofJson_eq_event_iff.mp hkind) (hevent id params)
    | response r => exact Or.inr ⟨r, rfl, hresponse r (ofJson_eq_response_iff.mp hkind)⟩
    | dropped => exact Or.inl rfl
  refine ⟨fun key call' hcall' => ?_, ⟨fun v => eventOf? now (ofJson v), fun v e => ?_, ?_⟩,
    fun items pieces hitems hpieces => ?_,
    fun before v after shorter hlong hshort hevent hresponse => ?_, fun hquiet => ?_,
    fun hreachable => ⟨reachable_routeAll hreachable now _, fun hquiet => ?_⟩⟩
  · obtain ⟨call, hcall, hgains, hsame⟩ :=
      (d.gains_routeAll now (ofPayload payload)).calls key call' hcall'
    obtain ⟨new, hnew, hkept, hentries⟩ := hgains.answers
    refine ⟨call, new, hcall, hnew, hkept, fun entry hentry => ?_⟩
    obtain ⟨hpending, hkey, hmem, hnull, hid⟩ := hentries entry hentry
    obtain ⟨v, hv, hkind⟩ := List.mem_map.mp (mem_responsesIn.mp hmem)
    have hflight : key ∈ d.tracker.table.keys := by
      refine hsame.resolve_left fun he => ?_
      rw [he, List.self_eq_append_right] at hnew
      rw [hnew] at hentry
      cases hentry
    exact ⟨hpending, hflight, hkey, v, holds_of_mem_values hv, ofJson_eq_response_iff.mp hkind,
      hnull, hid⟩
  · exact eventOf?_eq_some_iff
  · rw [dispatch, publisher_routeAll, ofPayload, List.filterMap_map]
    rfl
  · rw [dispatchEach_eq d now hpieces, dispatch, ofPayload, values_of_array hitems]
  · rw [dispatch, dispatch, ofPayload, ofPayload, values_of_array hlong, values_of_array hshort,
      List.map_append, List.map_append, List.map_cons, ofJson_eq_dropped hevent hresponse,
      routeAll_dropped]
  · exact hidle fun v hv => ⟨(hquiet v hv).1, fun r hr =>
      Tracker.processResponse_of_not_leads ((hquiet v hv).2 r hr)⟩
  · exact hidle fun v hv => ⟨(hquiet v hv).1, fun r hr =>
      hreachable.waiting.processResponse ((hquiet v hv).2 r hr)⟩

/-- A response in an array, one of an old version, one with a result and an error, and one to no id;
then an event with an id, and a response to the id one. -/
def mixedItems : List Json :=
  let answer (id : Json) : Json := .obj [("id", id), ("jsonrpc", .str "2.0"), ("result", .int 7)]
  [.arr [answer (.int 2)],
    .obj [("id", .int 2), ("jsonrpc", .str "1.0"), ("result", .int 7)],
    .obj [("error", .null), ("id", .int 2), ("jsonrpc", .str "2.0"), ("result", .int 7)],
    answer .null,
    .obj [("id", .int 2), ("method", .str "a|b|c|d")],
    answer (.int 1)]

def twoCalls : Desk :=
  let policy : Policy := .withRetry (.ofSeconds 1) 1 ⟨0⟩
  { publisher := .new (.ofSeconds 60)
    tracker := ((Tracker.new policy).registered 0 (.new [.int 1]) [] policy).registered 0
      (.new [.int 2]) [] policy }

theorem touches_only_addressed_mixed :
    let payload := (Json.arr mixedItems).bytes
    let pieces := (mixedItems.filter fun v => !v.isArray).map Json.bytes
    let after := (twoCalls.dispatch 0 payload).1
    after = (twoCalls.dispatchEach 0 pieces).1 ∧ after.tracker.table.keys = [2] ∧
      after.publisher.unclaimed = [⟨⟨"a", "b", "c", "d"⟩, .null, 0⟩] := by
  intro payload pieces after
  have hpayload : Json.parse payload = .ok (.arr mixedItems) := by decide +kernel
  have hvalues : ∀ v ∈ mixedItems.filter fun v => !v.isArray, Json.parse v.bytes = .ok v := by
    decide +kernel
  have hpieces : List.Forall₂ (Json.parse · = .ok ·) pieces
      (mixedItems.filter fun v => !v.isArray) := by
    rw [List.forall₂_map_left_iff, List.forall₂_same]
    exact hvalues
  obtain ⟨_, _, harray, _⟩ := touches_only_addressed twoCalls 0 payload
  have hafter : after = (twoCalls.routeAll 0 (mixedItems.map ofJson)).1 := by
    rw [← dispatchEach_eq twoCalls 0 hpieces, ← harray mixedItems pieces hpayload hpieces]
  refine ⟨congrArg Prod.fst (harray mixedItems pieces hpayload hpieces), ?_, ?_⟩
  · rw [hafter]
    decide
  · rw [hafter]
    decide

end Desk
end BrokerRpc
