import BrokerRpc.Rpc.Inbound

/-! # What an inbound value is

A value is an event, a valid response, or nothing that counts. Which of them it is depends on the
members of the object alone: a method makes it an event or nothing, and a response has neither a
method nor both a result and an error.
-/
namespace BrokerRpc

/-! ## Event ids -/

namespace Text

theorem intercalate_splitAt (sep : Char) (cs : List Char) :
    [sep].intercalate (splitAt sep cs) = cs := by
  induction cs with
  | nil => rfl
  | cons c cs ih =>
    obtain ⟨first, others, hsplit⟩ := List.exists_cons_of_ne_nil (splitAt_ne_nil sep cs)
    rw [hsplit] at ih
    by_cases hc : c = sep
    · rw [splitAt, if_pos hc, hsplit, hc, ← ih]
      simp [List.intercalate]
    · simp only [splitAt, if_neg hc, hsplit]
      rw [← ih]
      cases others <;> simp [List.intercalate]

theorem not_mem_of_mem_splitAt {sep : Char} {cs part : List Char} (h : part ∈ splitAt sep cs) :
    sep ∉ part := by
  induction cs generalizing part with
  | nil =>
    rw [List.mem_singleton.mp h]
    exact List.not_mem_nil
  | cons c cs ih =>
    obtain ⟨first, others, hsplit⟩ := List.exists_cons_of_ne_nil (splitAt_ne_nil sep cs)
    by_cases hc : c = sep
    · rw [splitAt, if_pos hc, List.mem_cons] at h
      rcases h with rfl | h
      · exact List.not_mem_nil
      · exact ih h
    · simp only [splitAt, if_neg hc, hsplit, List.mem_cons] at h
      rcases h with rfl | h
      · have hfirst := ih (hsplit ▸ List.mem_cons_self)
        exact fun hmem => (List.mem_cons.mp hmem).elim (fun he => hc he.symm) hfirst
      · exact ih (hsplit ▸ List.mem_cons_of_mem _ h)

theorem splitAt_of_not_mem {sep : Char} {cs : List Char} (h : sep ∉ cs) :
    splitAt sep cs = [cs] := by
  induction cs with
  | nil => rfl
  | cons c rest ih =>
    rw [List.mem_cons, not_or] at h
    simp only [splitAt, if_neg (Ne.symm h.1), ih h.2]

theorem splitAt_append {sep : Char} {first : List Char} (h : sep ∉ first) (rest : List Char) :
    splitAt sep (first ++ sep :: rest) = first :: splitAt sep rest := by
  induction first with
  | nil => simp [splitAt]
  | cons c first ih =>
    rw [List.mem_cons, not_or] at h
    simp only [List.cons_append, splitAt, if_neg (Ne.symm h.1), ih h.2]

end Text

namespace EventId

theorem toList_text (id : EventId) : id.text.toList =
    id.receiver.toList ++ delimiter :: (id.component.toList ++ delimiter ::
      (id.operation.toList ++ delimiter :: id.unique.toList)) := by
  have htext : id.text = id.receiver ++ "|" ++ id.component ++ "|" ++ id.operation ++ "|" ++
      id.unique := rfl
  rw [htext]
  simp [String.toList_append, delimiter]

/-- A text is read as an id exactly if it is the text of that id and no segment has a delimiter in
it. -/
theorem parse_eq_ok_iff {s : String} {id : EventId} :
    parse s = .ok id ↔ s = id.text ∧ ∀ segment ∈ id.segments, delimiter ∉ segment.toList := by
  constructor
  · intro h
    unfold parse at h
    split at h
    · rename_i receiver component operation unique hsplit
      have hjoin := Text.intercalate_splitAt delimiter s.toList
      have hclean : ∀ part ∈ [receiver, component, operation, unique], delimiter ∉ part :=
        fun part hpart => Text.not_mem_of_mem_splitAt (hsplit ▸ hpart)
      rw [hsplit] at hjoin
      cases h
      refine ⟨String.toList_inj.mp ?_, ?_⟩
      · rw [toList_text, ← hjoin]
        simp [List.intercalate]
      · simpa [segments] using hclean
    · cases h
  · rintro ⟨rfl, hclean⟩
    simp only [segments, List.mem_cons, List.not_mem_nil, or_false, forall_eq_or_imp,
      forall_eq] at hclean
    obtain ⟨hreceiver, hcomponent, hoperation, hunique⟩ := hclean
    rw [parse, toList_text, Text.splitAt_append hreceiver, Text.splitAt_append hcomponent,
      Text.splitAt_append hoperation, Text.splitAt_of_not_mem hunique]
    simp

end EventId

/-! ## What a value is -/

def Json.isArray : Json → Bool
  | .arr _ => true
  | _ => false

namespace Inbound

def Holds (payload : Bytes) (v : Json) : Prop :=
  Json.parse payload = .ok v ∨ ∃ items, Json.parse payload = .ok (.arr items) ∧ v ∈ items

/-- Whether a value is a valid response: an object without a method, of the right version, with an
id, and without both a result and an error. -/
def IsResponse (v : Json) (r : Response) : Prop :=
  ∃ node, v = .obj node ∧ Assoc.get? node "method" = none ∧
    Assoc.get? node "jsonrpc" = some (.str "2.0") ∧ Assoc.get? node "id" = some r.id ∧
    Assoc.get? node "result" = r.result ∧ Assoc.get? node "error" = r.error ∧
    ¬ (r.result.isSome ∧ r.error.isSome)

/-- Whether a value is an event: an object whose method is a text of four segments. Parameters that
are missing are null. -/
def IsEvent (v : Json) (id : EventId) (params : Json) : Prop :=
  ∃ node, v = .obj node ∧ Assoc.get? node "method" = some (.str id.text) ∧
    (∀ segment ∈ id.segments, EventId.delimiter ∉ segment.toList) ∧
    params = (Assoc.get? node "params").getD .null

theorem responseOfJson_eq_ok_iff {node : Members} {r : Response} :
    Response.ofJson (.obj node) = .ok r ↔
      Assoc.get? node "jsonrpc" = some (.str "2.0") ∧ Assoc.get? node "id" = some r.id ∧
        Assoc.get? node "result" = r.result ∧ Assoc.get? node "error" = r.error ∧
        ¬ (r.result.isSome ∧ r.error.isSome) := by
  obtain ⟨result, error, id⟩ := r
  simp only [Response.ofJson, pure, Except.pure, bind, Except.bind, throw, throwThe,
    MonadExceptOf.throw]
  cases hversion : Assoc.get? node "jsonrpc" with
  | none => simp
  | some version =>
    by_cases hv : version = .str protocolVersion
    · cases hid : Assoc.get? node "id" with
      | none => simp [hv]
      | some other =>
        by_cases hboth : (Assoc.get? node "result").isSome = true ∧
            (Assoc.get? node "error").isSome = true
        · constructor
          · intro h
            simp [hv, hboth] at h
          · rintro ⟨_, _, rfl, rfl, hone⟩
            exact absurd hboth hone
        · simp only [hv, ne_eq, not_true_eq_false, if_false, Bool.and_eq_true, hboth,
            Except.ok.injEq, Response.mk.injEq, Option.some.injEq]
          constructor
          · rintro ⟨rfl, rfl, rfl⟩
            exact ⟨rfl, rfl, rfl, rfl, hboth⟩
          · rintro ⟨_, rfl, rfl, rfl, _⟩
            exact ⟨rfl, rfl, rfl⟩
    · have hother : version ≠ .str "2.0" := hv
      simp [hv, hother]

theorem ofJson_eq_response_iff {v : Json} {r : Response} :
    ofJson v = .response r ↔ IsResponse v r := by
  unfold ofJson IsResponse
  cases v with
  | obj node =>
    simp only [Json.obj.injEq, exists_eq_left', ← responseOfJson_eq_ok_iff]
    cases Assoc.get? node "method" with
    | none => cases Response.ofJson (.obj node) <;> simp
    | some method =>
      simp only [ofMethod, reduceCtorEq, false_and, iff_false]
      split
      · split <;> simp
      · simp
  | _ => simp

theorem ofJson_eq_event_iff {v : Json} {id : EventId} {params : Json} :
    ofJson v = .event id params ↔ IsEvent v id params := by
  unfold ofJson IsEvent
  cases v with
  | obj node =>
    simp only [Json.obj.injEq, exists_eq_left']
    cases Assoc.get? node "method" with
    | none => cases Response.ofJson (.obj node) <;> simp
    | some method =>
      cases method with
      | str s =>
        simp only [ofMethod, Option.some.injEq, Json.str.injEq, ← and_assoc,
          ← EventId.parse_eq_ok_iff]
        cases EventId.parse s <;> simp [eq_comm]
      | _ => simp [ofMethod]
  | _ => simp

theorem ofJson_eq_dropped {v : Json} (hevent : ∀ id params, ¬ IsEvent v id params)
    (hresponse : ∀ r, ¬ IsResponse v r) : ofJson v = .dropped := by
  cases h : ofJson v with
  | event id params => exact absurd (ofJson_eq_event_iff.mp h) (hevent id params)
  | response r => exact absurd (ofJson_eq_response_iff.mp h) (hresponse r)
  | dropped => rfl

theorem holds_of_mem_values {payload : Bytes} {v : Json} (h : v ∈ values payload) :
    Holds payload v := by
  unfold values at h
  split at h
  · rename_i items hparse
    exact Or.inr ⟨items, hparse, h⟩
  · rename_i hparse
    exact Or.inl (List.mem_singleton.mp h ▸ hparse)
  · cases h

theorem values_of_array {payload : Bytes} {items : List Json}
    (h : Json.parse payload = .ok (.arr items)) : values payload = items := by
  rw [values, h]

theorem values_of_single {payload : Bytes} {v : Json} (h : Json.parse payload = .ok v)
    (hv : v.isArray = false) : values payload = [v] := by
  rw [values, h]
  cases v with
  | arr items => cases hv
  | _ => rfl

end Inbound

end BrokerRpc
