import BrokerRpc.Proofs.Tracker.Fate

/-! # Attempts and requests

A sweep announces an attempt for each request that it sends, in the same order, and no other
operation announces or sends anything. So the attempts of one call can be told from the others,
together with what was sent for each of them.
-/
namespace BrokerRpc

def CallEvent.attempt? : CallEvent → Option Nat
  | retrying attempt => some attempt
  | linkLost _ | resolved _ => none

namespace Call

theorem attempt?_answer (c : Call) (r : Response) :
    ∀ event ∈ (c.answer r).2, event.attempt? = none := by
  rcases c.answer_cases r with he | ⟨_, _, he⟩
  · simp [he]
  · simp [he, CallEvent.attempt?]

theorem attempt?_answerAll (c : Call) (rs : List Response) :
    ∀ event ∈ (c.answerAll rs).2, event.attempt? = none := by
  induction rs generalizing c with
  | nil => simp [answerAll]
  | cons r rs ih =>
    intro event hmem
    rcases List.mem_append.mp hmem with hmem | hmem
    · exact c.attempt?_answer r event hmem
    · exact ih _ event hmem

end Call

namespace Tracker

def announced (notices : List CallNotice) : List (Nat × Nat) :=
  notices.filterMap fun notice => notice.2.attempt?.map fun attempt => (notice.1, attempt)

/-- The attempts of one call at a moment, each with what was sent for it. -/
def Moment.resends (m : Moment) (key : Nat) : List (Nat × Bytes) :=
  ((announced m.notices).zip m.sent).filterMap fun entry =>
    if entry.1.1 = key then some (entry.1.2, entry.2) else none

/-! ## Operations that announce nothing -/

theorem announced_append (first rest : List CallNotice) :
    announced (first ++ rest) = announced first ++ announced rest := List.filterMap_append

theorem announced_change (t : Tracker) (key : Nat) {f : Call → Call × List CallEvent}
    (hf : ∀ c, ∀ event ∈ (f c).2, event.attempt? = none) : announced (t.change key f).2 = [] := by
  unfold change
  split
  · rfl
  · rename_i call _
    rw [announced, List.filterMap_eq_nil_iff]
    intro notice hmem
    obtain ⟨event, he, rfl⟩ := List.mem_map.mp hmem
    rw [hf call event he]
    rfl

theorem announced_resolve (t : Tracker) (make : Json → Response) (key : Nat) :
    announced (t.resolve make key).2 = [] :=
  announced_change t key fun c => c.attempt?_answerAll _

theorem announced_lose (failure : Failure) (final : Bool) (t : Tracker) (key : Nat) :
    announced (lose failure final t key).2 = [] := by
  cases final with
  | true => exact announced_resolve t _ key
  | false => rfl

theorem announced_forEach {step : Tracker → Nat → Tracker × List CallNotice}
    (hs : ∀ t key, announced (step t key).2 = []) (t : Tracker) (keys : List Nat) :
    announced (forEach step t keys).2 = [] := by
  induction keys generalizing t with
  | nil => rfl
  | cons key keys ih =>
    simp only [forEach, announced_append, hs, ih, List.append_nil]

theorem announced_processResponse (t : Tracker) (r : Response) :
    announced (t.processResponse r).2 = [] := by
  unfold processResponse
  split
  · rfl
  split
  · rfl
  rename_i key _
  split
  · exact announced_change t key fun c => c.attempt?_answer r
  · rfl

theorem announced_linkLost (t : Tracker) (failure : Failure) :
    announced (t.linkLost failure).2 = [] := by
  unfold linkLost
  dsimp only
  split
  · exact announced_forEach (announced_lose failure false) _ _
  · exact announced_forEach (announced_lose failure true) _ _

theorem announced_failAll (t : Tracker) : announced t.failAll.2 = [] :=
  announced_forEach (fun t key => announced_resolve t _ key) _ _

section Sending
variable {σ : Type} (send : Bytes → σ → Except Failure Unit × σ)

/-- Whatever is not a sweep announces nothing and sends nothing. -/
theorem silent_of_not_sweep (t : Tracker) (s : σ) {operation : Operation}
    (hs : ∀ now, operation ≠ .sweep now) :
    announced (perform send t s operation).1.notices = [] ∧
      (perform send t s operation).1.sent = [] := by
  cases operation with
  | register now call payload policy => exact ⟨rfl, rfl⟩
  | respond r => exact ⟨announced_processResponse t r, rfl⟩
  | sweep now => exact absurd rfl (hs now)
  | linkLost failure => exact ⟨announced_linkLost t failure, rfl⟩
  | failAll => exact ⟨announced_failAll t, rfl⟩
  | setPolicy policy => exact ⟨rfl, rfl⟩
  | remove key => exact ⟨rfl, rfl⟩
  | cancel key => exact ⟨rfl, rfl⟩

/-! ## Sweeping -/

theorem state_resend (t : Tracker) (s : σ) (key : Nat) (tracking : Tracking) :
    (resend send t s key tracking).2.1 = (send tracking.payload s).2 := by
  unfold resend
  cases h : (send tracking.payload s).1 with
  | ok _ => simp only [h]
  | error failure =>
    cases hp : t.policy.isRetryable failure with
    | true => simp only [h, hp, if_true]
    | false => simp only [h, hp, Bool.false_eq_true, if_false]

theorem announced_resend (t : Tracker) (s : σ) (key : Nat) (tracking : Tracking) :
    announced (resend send t s key tracking).2.2 = [(key, tracking.attempt)] := by
  have hcons : ∀ notices, announced ((key, .retrying tracking.attempt) :: notices) =
      (key, tracking.attempt) :: announced notices := fun _ => rfl
  rcases resend_cases send t s key tracking with ⟨_, hn⟩ | ⟨failure, _, _, hn⟩
  · rw [hn]
    exact hcons []
  · rw [hn, hcons, announced_resolve]

theorem announced_resendAll (t : Tracker) (s : σ) (due : Assoc Nat Tracking) :
    announced (resendAll send t s due).2.2 = due.map fun entry => (entry.1, entry.2.attempt) := by
  induction due generalizing t s with
  | nil => rfl
  | cons entry rest ih =>
    obtain ⟨key, tracking⟩ := entry
    rw [resendAll_cons, announced_append, announced_resend, ih]
    rfl

theorem sent_resendAll (t : Tracker) (s : σ × List Bytes) (due : Assoc Nat Tracking) :
    (resendAll (recording send) t s due).2.1.2 =
      s.2 ++ due.map fun entry => entry.2.payload := by
  induction due generalizing t s with
  | nil => exact (List.append_nil _).symm
  | cons entry rest ih =>
    obtain ⟨key, tracking⟩ := entry
    rw [resendAll_cons]
    simp only [ih, state_resend, recording, List.append_assoc, List.map_cons]
    rfl

/-- To keep what is sent changes nothing else. -/
theorem resendAll_recording (t : Tracker) (s : σ) (sent : List Bytes) (due : Assoc Nat Tracking) :
    (resendAll (recording send) t (s, sent) due).1 = (resendAll send t s due).1 := by
  induction due generalizing t s sent with
  | nil => rfl
  | cons entry rest ih =>
    obtain ⟨key, tracking⟩ := entry
    have hfirst : (resend (recording send) t (s, sent) key tracking).1 =
        (resend send t s key tracking).1 := by
      unfold resend recording
      dsimp only
      split
      · rfl
      · split <;> rfl
    have hstate : (resend (recording send) t (s, sent) key tracking).2.1 =
        ((resend send t s key tracking).2.1, sent ++ [tracking.payload]) := by
      rw [state_resend, state_resend]
      rfl
    simp only [resendAll_cons, hfirst, hstate, ih]

theorem after_sweep (t : Tracker) (s : σ) (now : Instant) :
    (perform send t s (.sweep now)).1.after = (t.sweep send now s).1 := by
  simp only [perform, sweep_eq, resendAll_recording]

variable {t : Tracker} {now : Instant}

/-- A sweep announces and sends exactly the new attempts of the calls that are due. -/
theorem sweep_traffic (t : Tracker) (s : σ) (now : Instant) :
    announced (perform send t s (.sweep now)).1.notices =
        (t.renewedAt now).map (fun entry => (entry.1, entry.2.attempt)) ∧
      (perform send t s (.sweep now)).1.sent =
        (t.renewedAt now).map fun entry => entry.2.payload := by
  constructor
  · have hsettled : announced (t.settled now).2 = [] :=
      announced_forEach (fun t key => announced_resolve t _ key) _ _
    simp only [perform, sweep_eq, announced_append, hsettled, announced_resendAll, List.nil_append]
  · simp only [perform, sweep_eq, sent_resendAll, List.nil_append]

theorem length_announced (t : Tracker) (s : σ) (operation : Operation) :
    (announced (perform send t s operation).1.notices).length =
      (perform send t s operation).1.sent.length := by
  by_cases hs : ∃ now, operation = .sweep now
  · obtain ⟨now, rfl⟩ := hs
    obtain ⟨ha, hsent⟩ := sweep_traffic send t s now
    rw [ha, hsent, List.length_map, List.length_map]
  · obtain ⟨ha, hsent⟩ := silent_of_not_sweep send t s fun now he => hs ⟨now, he⟩
    rw [ha, hsent]
    rfl

theorem resends_of_not_sweep (s : σ) {operation : Operation}
    (hs : ∀ now, operation ≠ .sweep now) (key : Nat) :
    (perform send t s operation).1.resends key = [] := by
  rw [Moment.resends, (silent_of_not_sweep send t s hs).1]
  rfl

theorem get?_renewedAt (h : t.table.Distinct) (key : Nat) : (t.renewedAt now).get? key =
    (t.table.get? key).bind fun tracking =>
      if tracking.deadline ≤ now ∧ tracking.hasAttempt = true then some (tracking.renew now)
      else none := by
  cases hg : (t.renewedAt now).get? key with
  | some renewal =>
    have hm := (Assoc.mem_iff_get? (distinct_renewedAt h now)).mpr hg
    obtain ⟨tracking, ht, hd, ha, rfl⟩ := (mem_renewedAt_iff h).mp hm
    rw [ht, Option.bind_some, if_pos ⟨hd, ha⟩]
  | none =>
    cases ht : t.table.get? key with
    | none => rfl
    | some tracking =>
      have hnot : ¬ (tracking.deadline ≤ now ∧ tracking.hasAttempt = true) := by
        rintro ⟨hd, ha⟩
        have hmem := (mem_keys_renewedAt_iff h).mpr ⟨tracking, ht, hd, ha⟩
        exact Assoc.get?_eq_none_iff.mp hg hmem
      rw [Option.bind_some, if_neg hnot]

theorem resends_sweep_eq (h : t.table.Distinct) (s : σ) (now : Instant) (key : Nat) :
    (perform send t s (.sweep now)).1.resends key =
      (((t.renewedAt now).get? key).map fun tracking =>
        (tracking.attempt, tracking.payload)).toList := by
  obtain ⟨ha, hsent⟩ := sweep_traffic send t s now
  have hall := Assoc.filterMap_key (distinct_renewedAt h now)
    (fun tracking : Tracking => (tracking.attempt, tracking.payload)) key
  rw [Moment.resends, ha, hsent, List.zip_map', List.filterMap_map]
  exact hall

theorem resends_sweep (h : t.table.Distinct) (s : σ) (now : Instant) {key : Nat}
    {tracking : Tracking} (ht : t.table.get? key = some tracking) :
    (perform send t s (.sweep now)).1.resends key =
      if tracking.deadline ≤ now ∧ tracking.hasAttempt = true then
        [(tracking.attempt + 1, tracking.payload)]
      else [] := by
  rw [resends_sweep_eq send h, get?_renewedAt h, ht, Option.bind_some]
  split <;> rfl

theorem resends_of_not_mem (h : t.table.Distinct) (s : σ) (operation : Operation) {key : Nat}
    (ht : t.table.get? key = none) : (perform send t s operation).1.resends key = [] := by
  by_cases hs : ∃ now, operation = .sweep now
  · obtain ⟨now, rfl⟩ := hs
    rw [resends_sweep_eq send h, get?_renewedAt h, ht]
    rfl
  · exact resends_of_not_sweep send s (fun now he => hs ⟨now, he⟩) key

end Sending

end Tracker
end BrokerRpc
