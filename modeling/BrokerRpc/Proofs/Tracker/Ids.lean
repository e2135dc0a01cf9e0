import BrokerRpc.Proofs.Json.RoundTrip
import BrokerRpc.Proofs.Tracker.Outcome

/-! # Ids that are told apart

A response finds its call by the text of its id. Exact ids have different texts, whatever they hold,
so the call and the place in it that a response reaches are those of an equal id. A response with
the id `null` reaches none, and no call waits for one.
-/
namespace BrokerRpc

theorem Response.idKey_eq_iff {a b : Json} (ha : a.Exact) (hb : b.Exact) :
    idKey a = idKey b ↔ a = b := ⟨Json.eq_of_text_eq ha hb, congrArg idKey⟩

theorem Json.obj_eq_iff {m n : Members} (hm : (obj m).Exact) (hn : (obj n).Exact) :
    obj m = obj n ↔ ∀ key, Assoc.get? m key = Assoc.get? n key := by
  constructor
  · intro h key
    rw [Json.obj.inj h]
  · intro h
    exact congrArg obj (Members.eq_of_get? (wellFormed_obj_iff.mp hm.wellFormed).1
      (wellFormed_obj_iff.mp hn.wellFormed).1 h)

namespace Call

def slot? (c : Call) (id : Json) : Option Response := c.answers.get? (Response.idKey id)

variable {c : Call} {r : Response}

theorem mem_keys_iff (hc : ∀ id ∈ c.ids, id.Exact) (hr : r.id.Exact) :
    Response.idKey r.id ∈ c.keys ↔ r.id ∈ c.ids := by
  constructor
  · intro h
    obtain ⟨id, hid, hkey⟩ := List.mem_map.mp h
    exact (Response.idKey_eq_iff (hc id hid) hr).mp hkey ▸ hid
  · exact List.mem_map_of_mem

theorem answer_of_not_mem (hc : ∀ id ∈ c.ids, id.Exact) (hr : r.id.Exact) (h : r.id ∉ c.ids) :
    c.answer r = (c, []) := by
  rw [answer, if_neg]
  rintro ⟨-, hexpects⟩
  exact h ((mem_keys_iff hc hr).mp (expects_iff.mp hexpects).1)

/-- A response fills the slot of its own id, once and while the call waits, and no other slot. -/
theorem slot?_answer (hc : ∀ id ∈ c.ids, id.Exact) (hr : r.id.Exact) {id : Json}
    (hid : id ∈ c.ids) :
    (c.answer r).1.slot? id =
      if id = r.id ∧ c.status = .pending ∧ c.slot? id = none then some r else c.slot? id := by
  have hkey : Response.idKey r.id = Response.idKey id ↔ id = r.id :=
    (Response.idKey_eq_iff hr (hc id hid)).trans eq_comm
  rcases c.answer_cases r with he | ⟨hp, hexpects, he⟩
  · rw [he]
    split
    · rename_i h
      obtain ⟨rfl, hp, hempty⟩ := h
      -- a waiting call without an answer to the id would have taken the response
      have hexpects : c.expects r = true :=
        expects_iff.mpr ⟨List.mem_map_of_mem hid, Assoc.get?_eq_none_iff.mp hempty⟩
      rw [answer_of_expects hp hexpects] at he
      cases (Prod.mk.inj he).2
    · rfl
  · have hempty := Assoc.get?_eq_none_iff.mpr (expects_iff.mp hexpects).2
    rw [he, slot?, record, Assoc.get?_append, Assoc.get?]
    by_cases h : id = r.id
    · subst h
      rw [if_pos rfl, if_pos ⟨rfl, hp, hempty⟩, hempty, Option.none_or]
    · rw [if_neg (mt hkey.mp h), if_neg fun h' => h h'.1]
      exact Option.or_none

end Call

namespace Tracker

/-- No call waits for a response with the id `null`. -/
def Asking (t : Tracker) : Prop :=
  ∀ key call, t.calls.get? key = some call → ∀ id ∈ call.ids, id.isNull = false

section Run
variable {σ : Type} (send : Bytes → σ → Except Failure Unit × σ)

theorem Asking.perform {t : Tracker} (h : Asking t) (ht : Correlated t) (s : σ)
    (operation : Operation) : Asking (Tracker.perform send t s operation).1.after := by
  intro key call' hcall'
  cases hcall : t.calls.get? key with
  | some call =>
    have hids : call'.ids = call.ids := by
      cases htable : t.table.get? key with
      | some tracking =>
        obtain ⟨found, hfound, hfate⟩ := perform_fate send ht s operation htable hcall
        obtain rfl := Option.some.inj (hcall'.symm.trans hfound)
        exact hfate.ids_eq
      | none =>
        obtain ⟨-, -, found, hfound, hfate⟩ := perform_departed send ht s operation htable hcall
        obtain rfl := Option.some.inj (hcall'.symm.trans hfound)
        rcases hfate with rfl | ⟨-, rfl⟩
        · rfl
        · exact call.ids_cancel
    rw [hids]
    exact h key call hcall
  | none =>
    obtain ⟨now, payload, policy, -, hr⟩ := accepts_of_new send hcall hcall'
    intro id hid
    exact ((register_eq_ok_iff.mp hr).1 id hid).1

theorem asking_reached (policy : Policy) (s : σ) (operations : List Operation) :
    Asking (reached send (new policy) s operations).1 :=
  (reached_preserves send (P := fun t => Correlated t ∧ Asking t)
    (fun _ s operation h => ⟨h.1.perform send s operation, h.2.perform send h.1 s operation⟩)
    ⟨correlated_new policy, fun _ _ h => by cases h⟩ s operations).2

end Run

/-- A response reaches a call exactly if the call is in flight and asks for an equal id. -/
theorem processResponse_reaches {t : Tracker} (ht : Correlated t) (ha : Asking t) {r : Response}
    (hr : r.id.Exact) {key : Nat} {call : Call} (hcall : t.calls.get? key = some call)
    (hids : ∀ id ∈ call.ids, id.Exact) :
    (t.processResponse r).1.calls.get? key =
        some (if key ∈ t.table.keys ∧ r.id ∈ call.ids then (call.answer r).1 else call) ∧
      eventsOf key (t.processResponse r).2 =
        if key ∈ t.table.keys ∧ r.id ∈ call.ids then (call.answer r).2 else [] := by
  by_cases h : key ∈ t.table.keys ∧ r.id ∈ call.ids
  · obtain ⟨hmem, hid⟩ := h
    obtain ⟨tracking, htracking⟩ := Assoc.mem_keys_iff.mp hmem
    obtain ⟨-, hcalls, hevents⟩ := processResponse_of_mem ht htracking hcall
      (ha key call hcall r.id hid) (List.mem_map_of_mem hid)
    rw [if_pos ⟨hmem, hid⟩, if_pos ⟨hmem, hid⟩]
    exact ⟨hcalls, hevents⟩
  · have hindex : t.index.get? (Response.idKey r.id) ≠ some key := by
      intro hi
      obtain ⟨hmem, hid⟩ := (ht.index_iff _ _).mp hi
      rw [idsOf_eq hcall] at hid
      exact h ⟨hmem, (Call.mem_keys_iff hids hr).mp hid⟩
    obtain ⟨-, hcalls, hevents⟩ := processResponse_of_index_ne hcall (Or.inr hindex)
    rw [if_neg h, if_neg h]
    exact ⟨hcalls, hevents⟩

/-- Exact ids have the same key only if they are the same, objects by what they hold under each key.
So a response fills the slot of its own id and no other, in the one call in flight that asks for
this id, and concerns no other call. -/
theorem response_reaches_equal_id {σ : Type} (send : Bytes → σ → Except Failure Unit × σ)
    (policy : Policy) (s : σ) (operations : List Operation) :
    let t := (reached send (new policy) s operations).1
    (∀ a b : Json, a.Exact → b.Exact → (Response.idKey a = Response.idKey b ↔ a = b)) ∧
      (∀ m n : Members, (Json.obj m).Exact → (Json.obj n).Exact →
        (Json.obj m = Json.obj n ↔ ∀ key, Assoc.get? m key = Assoc.get? n key)) ∧
      ∀ r : Response, r.id.Exact →
        (∀ call : Call, (∀ id ∈ call.ids, id.Exact) →
          (r.id ∉ call.ids → call.answer r = (call, [])) ∧
          ∀ id ∈ call.ids, (call.answer r).1.slot? id =
            if id = r.id ∧ call.status = .pending ∧ call.slot? id = none then some r
            else call.slot? id) ∧
        (∀ key call, t.calls.get? key = some call → (∀ id ∈ call.ids, id.Exact) →
          (t.processResponse r).1.calls.get? key =
              some (if key ∈ t.table.keys ∧ r.id ∈ call.ids then (call.answer r).1 else call) ∧
            eventsOf key (t.processResponse r).2 =
              if key ∈ t.table.keys ∧ r.id ∈ call.ids then (call.answer r).2 else []) ∧
        ∀ first ∈ t.table.keys, ∀ second ∈ t.table.keys, ∀ call other,
          t.calls.get? first = some call → t.calls.get? second = some other →
            r.id ∈ call.ids → r.id ∈ other.ids → first = second := by
  intro t
  have ht : Correlated t := correlated_reached send policy s operations
  have ha : Asking t := asking_reached send policy s operations
  refine ⟨fun a b => Response.idKey_eq_iff, fun m n => Json.obj_eq_iff, fun r hr => ⟨?_, ?_, ?_⟩⟩
  · intro call hids
    exact ⟨Call.answer_of_not_mem hids hr, fun id hid => Call.slot?_answer hids hr hid⟩
  · intro key call hcall hids
    exact processResponse_reaches ht ha hr hcall hids
  · intro first hfirst second hsecond call other hcall hother hid hid'
    have hmem : Response.idKey r.id ∈ call.keys := List.mem_map_of_mem hid
    have hmem' : Response.idKey r.id ∈ other.keys := List.mem_map_of_mem hid'
    rw [← idsOf_eq hcall] at hmem
    rw [← idsOf_eq hother] at hmem'
    exact ht.eq_of_mem_idsOf hfirst hsecond hmem hmem'

/-- The ids of the two calls show the same letters and digits. The response reaches the second call
alone and fills the slot of its id. -/
theorem response_reaches_equal_id_alike :
    let send : Bytes → Unit → Except Failure Unit × Unit := fun _ s => (.ok (), s)
    let quoted : Members := [("1\",\"2", .arr [.str "\\", .int (-9223372036854775808)])]
    let parted : Members := [("1", .str "2"), ("2", .arr [.int 18446744073709551615])]
    let r : Response := .success (.obj parted) .null
    let operations : List Operation :=
      [.register 0 (.new [.int 1, .obj quoted]) [65] .standard,
        .register 5 (.new [.str "1", .obj parted]) [66] .standard]
    let t := (reached send (new .standard) () operations).1
    let call := Call.new [.int 1, .obj quoted]
    let other := Call.new [.str "1", .obj parted]
    Response.idKey (.int 1) ≠ Response.idKey (.str "1") ∧
      (∃ key, Assoc.get? quoted key ≠ Assoc.get? parted key) ∧ call.answer r = (call, []) ∧
      (t.processResponse r).1.calls.get? 1 = some call ∧
      (t.processResponse r).1.calls.get? 2 = some (other.answer r).1 ∧
      eventsOf 2 (t.processResponse r).2 = [.resolved r] ∧
      (∀ key ∈ t.table.keys, ∀ c, t.calls.get? key = some c → r.id ∈ c.ids → key = 2) ∧
      (other.answer r).1.slot? (.obj parted) = some r ∧
      (other.answer r).1.slot? (.str "1") = none := by
  intro send quoted parted r operations t call other
  obtain ⟨hkeys, hmembers, hr⟩ := response_reaches_equal_id send .standard () operations
  obtain ⟨hslots, hcalls, hone⟩ := hr r (by decide)
  have hids : ∀ id ∈ call.ids, id.Exact := by decide
  have hids' : ∀ id ∈ other.ids, id.Exact := by decide
  obtain ⟨hcall, -⟩ := hcalls 1 call (by decide) hids
  obtain ⟨hother, hevents⟩ := hcalls 2 other (by decide) hids'
  have hnot : r.id ∉ call.ids := by decide
  have hreached : 2 ∈ t.table.keys ∧ r.id ∈ other.ids := by decide
  rw [if_neg fun h => hnot h.2] at hcall
  rw [if_pos hreached] at hother hevents
  refine ⟨?_, ?_, (hslots call hids).1 hnot, hcall, hother, hevents, ?_, ?_, ?_⟩
  · exact mt (hkeys _ _ (by decide) (by decide)).mp (by decide)
  · have hne := mt (hmembers quoted parted (by decide) (by decide)).mpr (by decide)
    exact Classical.not_forall.mp hne
  · intro key hkey c hc hid
    exact hone key hkey 2 hreached.1 c other hc (by decide) hid hreached.2
  · rw [(hslots other hids').2 _ (by decide)]
    exact if_pos (by decide)
  · rw [(hslots other hids').2 _ (by decide)]
    exact if_neg (by decide)

end Tracker
end BrokerRpc
