import BrokerRpc.Proofs.Tracker.Resolution

/-! # What a call makes of what it is offered

Responses are offered to a call in any order: expected, unknown and repeated ones, and those made in
place of answers that are missing. Up to the moment at which its owner gives it up, the call is
determined by the offers alone: it has recorded the first offer to each of its ids, and is done once
there is one to every id. A call that is done or given up stays as it is.
-/
namespace BrokerRpc.Call

inductive Operation where
  | answer (r : Response)
  | failMissing (make : Json → Response)
  | cancel

/-- A call with all that its owner was told, and the results of giving it up. -/
structure Record where
  call : Call
  events : List CallEvent := []
  gaveUp : List Bool := []

def Record.perform (x : Record) : Operation → Record
  | .answer r =>
    let (call, events) := x.call.answer r
    { x with call, events := x.events ++ events }
  | .failMissing make =>
    let (call, events) := x.call.failMissing make
    { x with call, events := x.events ++ events }
  | .cancel =>
    let (call, waited) := x.call.giveUp
    { x with call, gaveUp := x.gaveUp ++ [waited] }

def run (ids : List Json) (operations : List Operation) : Record :=
  operations.foldl Record.perform { call := new ids }

/-! ## Offers -/

def answers? (key : String) (r : Response) : Bool := Response.idKey r.id = key

def Answered (ids : List Json) (offers : List Response) : Prop :=
  ∀ id ∈ ids, ∃ r ∈ offers, Response.idKey r.id = Response.idKey id

def unanswered (ids : List Json) (offers : List Response) : List Json :=
  ids.filter fun id => !offers.any (answers? (Response.idKey id))

def firsts (keys : List String) : List Response → List Response
  | [] => []
  | r :: rest =>
    if Response.idKey r.id ∈ keys then
      r :: firsts (keys.filter fun key => !decide (key = Response.idKey r.id)) rest
    else firsts keys rest

theorem firsts_append_singleton (keys : List String) (offers : List Response) (r : Response) :
    firsts keys (offers ++ [r]) =
      firsts keys offers ++
        if Response.idKey r.id ∈ keys ∧ ∀ o ∈ offers, Response.idKey o.id ≠ Response.idKey r.id
        then [r] else [] := by
  induction offers generalizing keys with
  | nil => simp [firsts]
  | cons o rest ih =>
    rw [List.cons_append, firsts, firsts]
    by_cases ho : Response.idKey o.id ∈ keys
    · rw [if_pos ho, if_pos ho, ih, List.cons_append]
      congr 2
      by_cases heq : Response.idKey r.id = Response.idKey o.id
      · simp [heq]
      · have hne : Response.idKey o.id ≠ Response.idKey r.id := fun e => heq e.symm
        simp [heq, hne]
    · rw [if_neg ho, if_neg ho, ih]
      congr 2
      by_cases heq : Response.idKey o.id = Response.idKey r.id
      · simp [← heq, ho]
      · simp [heq]

theorem find?_firsts {keys : List String} {key : String} (hk : key ∈ keys)
    (offers : List Response) : (firsts keys offers).find? (answers? key) =
      offers.find? (answers? key) := by
  induction offers generalizing keys with
  | nil => rfl
  | cons o rest ih =>
    rw [firsts]
    by_cases ho : Response.idKey o.id = key
    · have hfound : answers? key o = true := decide_eq_true ho
      rw [if_pos (ho ▸ hk), List.find?_cons_of_pos hfound, List.find?_cons_of_pos hfound]
    · have hother : ¬ answers? key o = true := by simpa [answers?] using ho
      rw [List.find?_cons_of_neg hother]
      by_cases hmem : Response.idKey o.id ∈ keys
      · have hk' : key ∈ keys.filter fun key => !decide (key = Response.idKey o.id) := by
          simpa [hk] using fun e : key = _ => ho e.symm
        rw [if_pos hmem, List.find?_cons_of_neg hother, ih hk']
      · rw [if_neg hmem, ih hk]

/-! ## Calls that nobody gave up -/

theorem status_answer_ne_cancelled {c : Call} (h : c.status ≠ .cancelled) (r : Response) :
    (c.answer r).1.status ≠ .cancelled := by
  rcases c.answer_cases r with he | ⟨hp, _, he⟩
  · rw [he]
    exact h
  · rw [he, status_record, hp]
    split <;> simp

theorem status_answerAll_ne_cancelled {c : Call} (h : c.status ≠ .cancelled)
    (rs : List Response) : (c.answerAll rs).1.status ≠ .cancelled := by
  induction rs generalizing c with
  | nil => exact h
  | cons r rest ih => exact ih (status_answer_ne_cancelled h r)

/-- What a call is after some offers, as long as nobody gave it up. -/
structure Reflects (c : Call) (offers : List Response) : Prop where
  sound : c.Sound
  recorded : c.answers.values = firsts c.keys offers
  kept : c.status ≠ .cancelled

namespace Reflects
variable {c : Call} {offers : List Response}

theorem get?_answers (h : Reflects c offers) {key : String} (hk : key ∈ c.keys) :
    c.answers.get? key = offers.find? (answers? key) := by
  rw [← find?_firsts hk, ← h.recorded]
  have hfiled := h.sound.filed
  revert hfiled
  induction c.answers with
  | nil => intro _; rfl
  | cons entry rest ih =>
    intro hfiled
    obtain ⟨first, r⟩ := entry
    have hfirst : first = Response.idKey r.id := hfiled _ List.mem_cons_self
    have hrest := ih fun other hmem => hfiled other (List.mem_cons_of_mem _ hmem)
    by_cases he : first = key
    · have hfound : answers? key r = true := decide_eq_true (hfirst ▸ he)
      simp [Assoc.get?, Assoc.values, he, hfound]
    · have hother : answers? key r = false := decide_eq_false (hfirst ▸ he)
      simpa [Assoc.get?, Assoc.values, he, hother] using hrest

theorem mem_keys_answers_iff (h : Reflects c offers) {key : String} (hk : key ∈ c.keys) :
    key ∈ c.answers.keys ↔ ∃ r ∈ offers, Response.idKey r.id = key := by
  rw [← Assoc.contains_iff_mem_keys, Assoc.contains, h.get?_answers hk, List.find?_isSome]
  simp [answers?]

theorem missing_eq (h : Reflects c offers) : c.missing = unanswered c.ids offers := by
  refine List.filter_congr fun id hid => ?_
  rw [Assoc.contains, h.get?_answers (List.mem_map_of_mem hid), List.isSome_find?]

theorem done_iff (h : Reflects c offers) : c.status = .done ↔ Answered c.ids offers := by
  have hnone : unanswered c.ids offers = [] ↔ Answered c.ids offers := by
    simp [unanswered, Answered, List.filter_eq_nil_iff, answers?]
  rw [← hnone, ← h.missing_eq]
  constructor
  · exact h.sound.missing_eq_nil
  · intro hm
    have hwaits : c.status ≠ .pending := fun hp => h.sound.missing_ne_nil hp hm
    cases hs : c.status with
    | pending => exact absurd hs hwaits
    | done => rfl
    | cancelled => exact absurd hs h.kept

/-- A response counts exactly if it is the first offer to an id of the call. -/
theorem counts_iff (h : Reflects c offers) (r : Response) :
    c.status = .pending ∧ c.expects r = true ↔
      Response.idKey r.id ∈ c.keys ∧ ∀ o ∈ offers, Response.idKey o.id ≠ Response.idKey r.id := by
  rw [expects_iff]
  constructor
  · rintro ⟨_, hk, hnew⟩
    rw [h.mem_keys_answers_iff hk] at hnew
    exact ⟨hk, fun o ho he => hnew ⟨o, ho, he⟩⟩
  · rintro ⟨hk, hnew⟩
    have hnot : ¬ Answered c.ids offers := by
      intro ha
      obtain ⟨id, hid, he⟩ := List.mem_map.mp hk
      obtain ⟨o, ho, heq⟩ := ha id hid
      exact hnew o ho (heq.trans he)
    rw [← h.done_iff] at hnot
    refine ⟨?_, hk, ?_⟩
    · cases hs : c.status with
      | pending => rfl
      | done => exact absurd hs hnot
      | cancelled => exact absurd hs h.kept
    · rw [h.mem_keys_answers_iff hk]
      rintro ⟨o, ho, he⟩
      exact hnew o ho he

theorem answer (h : Reflects c offers) (r : Response) :
    Reflects (c.answer r).1 (offers ++ [r]) := by
  refine ⟨h.sound.answer r, ?_, ?_⟩
  · have hkeys : (c.answer r).1.keys = c.keys := congrArg (List.map _) (ids_answer c r)
    rw [hkeys, firsts_append_singleton, ← h.recorded]
    unfold Call.answer
    by_cases hc : c.status = .pending ∧ c.expects r = true
    · rw [if_pos hc, if_pos ((h.counts_iff r).mp hc)]
      simp [record, Assoc.values]
    · rw [if_neg hc, if_neg fun hn => hc ((h.counts_iff r).mpr hn), List.append_nil]
  · exact status_answer_ne_cancelled h.kept r

theorem answerAll (h : Reflects c offers) (rs : List Response) :
    Reflects (c.answerAll rs).1 (offers ++ rs) := by
  induction rs generalizing c offers with
  | nil =>
    rw [List.append_nil]
    exact h
  | cons r rest ih =>
    have hrest := ih (h.answer r)
    rwa [List.append_assoc] at hrest

end Reflects

/-! ## What the owner is told -/

theorem events_answer (c : Call) (r : Response) :
    (c.answer r).1.answers.values.map CallEvent.resolved =
      c.answers.values.map CallEvent.resolved ++ (c.answer r).2 := by
  rcases c.answer_cases r with he | ⟨_, _, he⟩
  · rw [he, List.append_nil]
  · rw [he]
    simp [record, Assoc.values]

theorem events_answerAll (c : Call) (rs : List Response) :
    (c.answerAll rs).1.answers.values.map CallEvent.resolved =
      c.answers.values.map CallEvent.resolved ++ (c.answerAll rs).2 := by
  induction rs generalizing c with
  | nil => exact (List.append_nil _).symm
  | cons r rest ih =>
    have hrest := ih (c.answer r).1
    rw [events_answer, List.append_assoc] at hrest
    exact hrest

/-- What holds at any time: the owner was told of each recorded response once, in the order of their
arrival, and giving the call up succeeded once if it was given up. -/
structure Record.Faithful (x : Record) : Prop where
  told : x.events = x.call.answers.values.map .resolved
  gaveUp_count : x.gaveUp.count true = if x.call.status = .cancelled then 1 else 0

/-! ## Calls that ended -/

theorem answerAll_of_ended {c : Call} (h : c.status ≠ .pending) (rs : List Response) :
    c.answerAll rs = (c, []) := by
  induction rs with
  | nil => rfl
  | cons r rest ih =>
    have hr : c.answer r = (c, []) := if_neg fun hc => h hc.1
    simp only [answerAll, hr, ih, List.append_nil]

theorem cancel_of_ended {c : Call} (h : c.status ≠ .pending) : c.cancel = c := if_neg h

/-- After its end nothing is recorded or told any more, and nobody can give the call up. -/
theorem Record.perform_of_ended {x : Record} (h : x.call.status ≠ .pending)
    (operation : Operation) :
    (x.perform operation).call = x.call ∧ (x.perform operation).events = x.events ∧
      (x.perform operation).gaveUp.count true = x.gaveUp.count true := by
  cases operation with
  | answer r =>
    have hr : x.call.answer r = (x.call, []) := if_neg fun hc => h hc.1
    simp [perform, hr]
  | failMissing make =>
    have hf : x.call.failMissing make = (x.call, []) := answerAll_of_ended h _
    simp [perform, hf]
  | cancel => simp [perform, giveUp, cancel_of_ended h, h]

namespace Record
variable {x : Record}

theorem Faithful.perform (h : x.Faithful) (operation : Operation) :
    (x.perform operation).Faithful := by
  by_cases hp : x.call.status = .pending
  · have hcount : x.gaveUp.count true = 0 := by simp [h.gaveUp_count, hp]
    have hkept : x.call.status ≠ .cancelled := by simp [hp]
    cases operation with
    | answer r =>
      have hs := status_answer_ne_cancelled hkept r
      refine ⟨?_, ?_⟩
      · simp only [Record.perform, events_answer, h.told]
      · simp only [Record.perform, hcount, hs, if_false]
    | failMissing make =>
      have hs := status_answerAll_ne_cancelled hkept (x.call.missing.map make)
      refine ⟨?_, ?_⟩
      · simp only [Record.perform, failMissing, events_answerAll, h.told]
      · simp only [Record.perform, hcount, failMissing, hs, if_false]
    | cancel =>
      refine ⟨?_, ?_⟩
      · simp [Record.perform, giveUp, Call.cancel, hp, h.told]
      · simp [Record.perform, giveUp, Call.cancel, hp, List.count_append, hcount]
  · obtain ⟨hcall, hevents, hgave⟩ := perform_of_ended hp operation
    refine ⟨?_, ?_⟩
    · rw [hcall, hevents, h.told]
    · rw [hcall, hgave, h.gaveUp_count]

theorem Faithful.foldl (h : x.Faithful) (operations : List Operation) :
    (operations.foldl Record.perform x).Faithful := by
  induction operations generalizing x with
  | nil => exact h
  | cons operation rest ih => exact ih (h.perform operation)

end Record

/-- What a call is in the end, by its offers and by whether somebody tried to give it up. -/
structure Ends (c : Call) (offers : List Response) (gaveUp : Prop) : Prop where
  sound : c.Sound
  recorded : c.answers.values = firsts c.keys offers
  done_iff : c.status = .done ↔ Answered c.ids offers
  cancelled_iff : c.status = .cancelled ↔ gaveUp ∧ ¬ Answered c.ids offers

theorem Reflects.ends {c : Call} {offers : List Response} (h : Reflects c offers) :
    Ends c offers False := by
  refine ⟨h.sound, h.recorded, h.done_iff, ?_⟩
  simp [h.kept]

end BrokerRpc.Call
