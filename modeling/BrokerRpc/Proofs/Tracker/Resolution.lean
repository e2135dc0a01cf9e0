import BrokerRpc.Rpc.Call
import Mathlib.Data.List.Basic

/-! # How calls are resolved

A call records the first response to each of its ids and is done with the last of them. Failing what
is missing completes a waiting call at once, so that a call which is taken off the table and failed
never keeps its owner waiting.
-/
namespace BrokerRpc.Call

theorem ids_answer (c : Call) (r : Response) : (c.answer r).1.ids = c.ids := by
  unfold answer
  split <;> rfl

theorem ids_answerAll (c : Call) (rs : List Response) : (c.answerAll rs).1.ids = c.ids := by
  induction rs generalizing c with
  | nil => rfl
  | cons r rs ih => exact (ih _).trans (ids_answer c r)

theorem ids_failMissing (c : Call) (make : Json → Response) : (c.failMissing make).1.ids = c.ids :=
  ids_answerAll _ _

theorem ids_cancel (c : Call) : c.cancel.ids = c.ids := by
  unfold cancel
  split <;> rfl

theorem answers_cancel (c : Call) : c.cancel.answers = c.answers := by
  unfold cancel
  split <;> rfl

/-! ## Offering a response -/

theorem expects_iff {c : Call} {r : Response} :
    c.expects r = true ↔
      Response.idKey r.id ∈ c.keys ∧ Response.idKey r.id ∉ c.answers.keys := by
  rw [expects, Bool.and_eq_true, List.contains_iff_mem, Bool.not_eq_true',
    Assoc.contains_eq_false_iff]

theorem answer_of_expects {c : Call} {r : Response} (hp : c.status = .pending)
    (he : c.expects r = true) : c.answer r = (c.record r, [.resolved r]) := by
  rw [answer, if_pos ⟨hp, he⟩]

theorem answer_cases (c : Call) (r : Response) :
    c.answer r = (c, []) ∨
      c.status = .pending ∧ c.expects r = true ∧ c.answer r = (c.record r, [.resolved r]) := by
  by_cases h : c.status = .pending ∧ c.expects r = true
  · exact Or.inr ⟨h.1, h.2, answer_of_expects h.1 h.2⟩
  · exact Or.inl (by rw [answer, if_neg h])

theorem status_record (c : Call) (r : Response) : (c.record r).status =
    if c.answers.length + 1 = c.ids.length then .done else c.status := by
  simp only [record, List.length_append, List.length_singleton]

/-- A call gets a response if its owner is told of it or it is recorded. -/
def Gets (c : Call) (result : Call × List CallEvent) (r : Response) : Prop :=
  .resolved r ∈ result.2 ∨ r ∈ result.1.answers.values ∧ r ∉ c.answers.values

theorem not_gets {c c' : Call} {events : List CallEvent} {r : Response}
    (hanswers : c'.answers = c.answers) (htold : .resolved r ∉ events) :
    ¬ c.Gets (c', events) r := by
  rintro (hevent | ⟨hmem, hnew⟩)
  · exact htold hevent
  · exact hnew (hanswers ▸ hmem)

theorem eq_of_gets_answer {c : Call} {r r' : Response} (h : c.Gets (c.answer r) r') : r' = r := by
  rcases c.answer_cases r with he | ⟨_, _, he⟩
  · rw [he] at h
    exact absurd h (not_gets rfl List.not_mem_nil)
  · rw [he] at h
    rcases h with htold | ⟨hmem, hnew⟩
    · simpa using htold
    · have hrecorded : r' ∈ c.answers.values ∨ r' = r := by
        simpa [record, Assoc.values] using hmem
      exact hrecorded.resolve_left hnew

theorem mem_of_gets_answerAll {c : Call} {rs : List Response} {r : Response}
    (h : c.Gets (c.answerAll rs) r) : r ∈ rs := by
  induction rs generalizing c with
  | nil => exact absurd h (not_gets rfl List.not_mem_nil)
  | cons first rest ih =>
    by_cases hfirst : c.Gets (c.answer first) r
    · rw [eq_of_gets_answer hfirst]
      exact List.mem_cons_self
    · obtain ⟨htold, hold⟩ := not_or.mp hfirst
      refine List.mem_cons_of_mem _ (ih (c := (c.answer first).1) ?_)
      rcases h with hevent | ⟨hmem, hnew⟩
      · exact Or.inl ((List.mem_append.mp hevent).resolve_left htold)
      · exact Or.inr ⟨hmem, fun hearlier => hold ⟨hearlier, hnew⟩⟩

theorem exists_of_gets_failMissing {c : Call} {make : Json → Response} {r : Response}
    (h : c.Gets (c.failMissing make) r) : ∃ id, r = make id := by
  obtain ⟨id, _, rfl⟩ := List.mem_map.mp (mem_of_gets_answerAll h)
  exact ⟨id, rfl⟩

/-! ## Sound calls -/

/-- What holds of a call from its creation on: its answers are responses to different ids of it,
filed under their own ids, and it is done exactly if it waited for the last of them. -/
structure Sound (c : Call) : Prop where
  ids_distinct : c.keys.Nodup
  answers_distinct : c.answers.Distinct
  expected : ∀ id ∈ c.answers.keys, id ∈ c.keys
  filed : ∀ entry ∈ c.answers, entry.1 = Response.idKey entry.2.id
  unfinished : c.status = .pending → c.answers.length < c.ids.length
  finished : c.status = .done → c.answers.length = c.ids.length

theorem sound_new {ids : List Json} (hne : ids ≠ []) (hd : (ids.map Response.idKey).Nodup) :
    (new ids).Sound where
  ids_distinct := hd
  answers_distinct := List.nodup_nil
  expected := fun _ h => absurd h List.not_mem_nil
  filed := fun _ h => absurd h List.not_mem_nil
  unfinished := fun _ => List.length_pos_iff.mpr hne
  finished := fun h => by cases h

namespace Sound
variable {c : Call}

theorem record (h : c.Sound) {r : Response} (hp : c.status = .pending)
    (he : c.expects r = true) : (c.record r).Sound := by
  obtain ⟨hid, hnew⟩ := expects_iff.mp he
  have hlt := h.unfinished hp
  have hstatus := c.status_record r
  refine ⟨h.ids_distinct, ?_, ?_, ?_, ?_, ?_⟩
  · exact Assoc.distinct_append_iff.mpr ⟨h.answers_distinct, hnew⟩
  · intro id hmem
    simp only [Call.record, Assoc.keys, List.map_append, List.map_cons, List.map_nil,
      List.mem_append, List.mem_singleton] at hmem
    rcases hmem with hmem | rfl
    · exact h.expected id hmem
    · exact hid
  · intro entry hmem
    rcases List.mem_append.mp hmem with hmem | hmem
    · exact h.filed entry hmem
    · rw [List.mem_singleton.mp hmem]
  · intro hs
    rw [hstatus] at hs
    split at hs
    · cases hs
    · simp only [Call.record, List.length_append, List.length_singleton]
      omega
  · intro hs
    rw [hstatus] at hs
    split at hs
    · simpa only [Call.record, List.length_append, List.length_singleton]
    · rw [hp] at hs
      cases hs

theorem answer (h : c.Sound) (r : Response) : (c.answer r).1.Sound := by
  rcases c.answer_cases r with he | ⟨hp, hexp, he⟩
  · rw [he]
    exact h
  · rw [he]
    exact h.record hp hexp

theorem answerAll (h : c.Sound) (rs : List Response) : (c.answerAll rs).1.Sound := by
  induction rs generalizing c with
  | nil => exact h
  | cons r rs ih => exact ih (h.answer r)

theorem failMissing (h : c.Sound) (make : Json → Response) : (c.failMissing make).1.Sound :=
  h.answerAll _

theorem cancel (h : c.Sound) : c.cancel.Sound := by
  unfold Call.cancel
  split
  · exact ⟨h.ids_distinct, h.answers_distinct, h.expected, h.filed, fun hs => (by cases hs),
      fun hs => (by cases hs)⟩
  · exact h

theorem length_missing (h : c.Sound) : c.answers.length + c.missing.length = c.ids.length := by
  have hperm : ((c.ids.filter fun id => c.answers.contains (Response.idKey id)).map
      Response.idKey).Perm c.answers.keys := by
    refine (List.perm_ext_iff_of_nodup ?_ h.answers_distinct).mpr ?_
    · exact (List.filter_sublist.map _).nodup h.ids_distinct
    · intro key
      rw [List.mem_map]
      constructor
      · rintro ⟨id, hmem, rfl⟩
        exact Assoc.contains_iff_mem_keys.mp (List.mem_filter.mp hmem).2
      · intro hmem
        obtain ⟨id, hid, rfl⟩ := List.mem_map.mp (h.expected key hmem)
        exact ⟨id, List.mem_filter.mpr ⟨hid, Assoc.contains_iff_mem_keys.mpr hmem⟩, rfl⟩
  have hlen := hperm.length_eq
  rw [List.length_map, Assoc.keys, List.length_map] at hlen
  have hsplit := List.length_eq_countP_add_countP
    (fun id => c.answers.contains (Response.idKey id)) (l := c.ids)
  rw [List.countP_eq_length_filter, List.countP_eq_length_filter, hlen] at hsplit
  rw [hsplit, missing]
  simp

theorem missing_eq_nil (h : c.Sound) (hs : c.status = .done) : c.missing = [] := by
  have hlen := h.length_missing
  rw [h.finished hs] at hlen
  exact List.eq_nil_of_length_eq_zero (by omega)

theorem missing_ne_nil (h : c.Sound) (hs : c.status = .pending) : c.missing ≠ [] := by
  intro he
  have hlen := h.length_missing
  have hlt := h.unfinished hs
  rw [he, List.length_nil] at hlen
  omega

theorem map_filterMap_of_found {find : Json → Option Response} {ids : List Json}
    (h : ∀ id ∈ ids, (find id).map (fun r => Response.idKey r.id) = some (Response.idKey id)) :
    (ids.filterMap find).map (fun r => Response.idKey r.id) = ids.map Response.idKey := by
  induction ids with
  | nil => rfl
  | cons id rest ih =>
    obtain ⟨r, hr, hkey⟩ := Option.map_eq_some_iff.mp (h id List.mem_cons_self)
    rw [List.filterMap_cons_some hr, List.map_cons, List.map_cons, hkey,
      ih fun other hmem => h other (List.mem_cons_of_mem _ hmem)]

/-- A call that is done has one response for each of its ids, in their order. -/
theorem responses_of_done (h : c.Sound) (hs : c.status = .done) :
    c.responses.map (fun r => Response.idKey r.id) = c.keys := by
  refine map_filterMap_of_found fun id hid => ?_
  have hnot : id ∉ c.missing := by
    rw [h.missing_eq_nil hs]
    exact List.not_mem_nil
  have hmem : Response.idKey id ∈ c.answers.keys := by
    rw [← Assoc.contains_iff_mem_keys]
    simpa [missing, hid] using hnot
  obtain ⟨r, hr⟩ := Assoc.mem_keys_iff.mp hmem
  rw [hr, Option.map_some, ← h.filed _ ((Assoc.mem_iff_get? h.answers_distinct).mpr hr)]

theorem mem_answers_of_mem_responses (h : c.Sound) {r : Response} (hr : r ∈ c.responses) :
    (Response.idKey r.id, r) ∈ c.answers := by
  obtain ⟨id, _, hg⟩ := List.mem_filterMap.mp hr
  have hmem := (Assoc.mem_iff_get? h.answers_distinct).mpr hg
  have hfiled : Response.idKey id = Response.idKey r.id := h.filed _ hmem
  rwa [hfiled] at hmem

end Sound

/-! ## Failing what is missing -/

/-- Responses to all missing ids, one each, complete a waiting call. -/
theorem answerAll_missing {c : Call} {make : Json → Response} (hm : ∀ id, (make id).id = id)
    (hp : c.status = .pending) {ids : List Json} (hne : ids ≠ [])
    (hlen : c.answers.length + ids.length = c.ids.length)
    (hd : (ids.map Response.idKey).Nodup)
    (hids : ∀ id ∈ ids, Response.idKey id ∈ c.keys ∧ Response.idKey id ∉ c.answers.keys) :
    c.answerAll (ids.map make) =
      ({ c with
          answers := c.answers ++ ids.map fun id => (Response.idKey id, make id)
          status := .done },
        ids.map fun id => .resolved (make id)) := by
  induction ids generalizing c with
  | nil => exact absurd rfl hne
  | cons id rest ih =>
    obtain ⟨hnew, hrest⟩ := List.nodup_cons.mp hd
    have he : c.expects (make id) = true := by
      rw [expects_iff, hm]
      exact hids id List.mem_cons_self
    rw [List.length_cons] at hlen
    simp only [List.map_cons, answerAll, answer_of_expects hp he]
    have hstatus := c.status_record (make id)
    -- the last missing id completes the call, any other leaves it waiting
    by_cases hr : rest = []
    · subst hr
      rw [if_pos (by simpa using hlen)] at hstatus
      simp only [List.map_nil, answerAll, Prod.mk.injEq, and_true, List.append_nil]
      rw [← hstatus]
      simp only [record, hm]
    · have hpos := List.length_pos_iff.mpr hr
      rw [if_neg (by omega), hp] at hstatus
      have hlen' : (c.record (make id)).answers.length + rest.length = c.ids.length := by
        simp only [record, List.length_append, List.length_singleton]
        omega
      have hids' : ∀ other ∈ rest, Response.idKey other ∈ c.keys ∧
          Response.idKey other ∉ (c.record (make id)).answers.keys := by
        intro other hmem
        obtain ⟨hexp, hfree⟩ := hids other (List.mem_cons_of_mem _ hmem)
        refine ⟨hexp, ?_⟩
        simp only [record, hm, Assoc.keys, List.map_append, List.map_cons, List.map_nil,
          List.mem_append, List.mem_singleton, not_or]
        exact ⟨hfree, fun heq => hnew (heq ▸ List.mem_map_of_mem hmem)⟩
      rw [ih hstatus hr hlen' hrest hids']
      simp [record, hm]

theorem Sound.failMissing_eq {c : Call} (h : c.Sound) (hp : c.status = .pending)
    {make : Json → Response} (hm : ∀ id, (make id).id = id) :
    c.failMissing make =
      ({ c with
          answers := c.answers ++ c.missing.map fun id => (Response.idKey id, make id)
          status := .done },
        c.missing.map fun id => .resolved (make id)) := by
  refine answerAll_missing hm hp (h.missing_ne_nil hp) h.length_missing ?_ ?_
  · exact (List.filter_sublist.map _).nodup h.ids_distinct
  · intro id hmem
    obtain ⟨hid, hnot⟩ := List.mem_filter.mp hmem
    rw [Bool.not_eq_true', Assoc.contains_eq_false_iff] at hnot
    exact ⟨List.mem_map_of_mem hid, hnot⟩

/-! ## Completed calls -/

def completed (c : Call) (make : Json → Response) : Call :=
  { c with
    answers := c.answers ++ c.missing.map fun id => (Response.idKey id, make id)
    status := .done }

theorem mem_missing_iff {c : Call} {id : Json} :
    id ∈ c.missing ↔ id ∈ c.ids ∧ c.answers.get? (Response.idKey id) = none := by
  rw [missing, List.mem_filter, Bool.not_eq_true', Assoc.contains_eq_false_iff,
    Assoc.get?_eq_none_iff]

/-- In a completed call each id has the answer that it had, or else the response made for it. -/
theorem Sound.get?_completed {c : Call} (h : c.Sound) (make : Json → Response) {id : Json}
    (hid : id ∈ c.ids) : (c.completed make).answers.get? (Response.idKey id) =
      some ((c.answers.get? (Response.idKey id)).getD (make id)) := by
  rw [completed, Assoc.get?_append]
  cases hg : c.answers.get? (Response.idKey id) with
  | some r => rfl
  | none =>
    let made : Assoc String Response := c.missing.map fun id => (Response.idKey id, make id)
    have hkeys : made.keys = c.missing.map Response.idKey := by
      simp only [made, Assoc.keys, List.map_map]
      rfl
    have hdistinct : made.Distinct := by
      rw [Assoc.Distinct, hkeys]
      exact (List.filter_sublist.map _).nodup h.ids_distinct
    have hmem : (Response.idKey id, make id) ∈ made :=
      List.mem_map.mpr ⟨id, mem_missing_iff.mpr ⟨hid, hg⟩, rfl⟩
    exact (Assoc.mem_iff_get? hdistinct).mp hmem

theorem Sound.responses_completed {c : Call} (h : c.Sound) (make : Json → Response) :
    (c.completed make).responses =
      c.ids.map fun id => (c.answers.get? (Response.idKey id)).getD (make id) :=
  List.filterMap_eq_map_iff_forall_eq_some.mpr fun _ hid => h.get?_completed make hid

end BrokerRpc.Call
