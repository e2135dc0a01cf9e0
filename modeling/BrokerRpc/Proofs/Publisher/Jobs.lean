import BrokerRpc.Proofs.Publisher.Sections

/-! # One delivery job for each subscription

In whatever order sections come, the flag of a subscription is set exactly while a job works for it,
no second job is started beside it, and events that were asked for are not left lying: a job works for
them, or a schedule call is due that will start one.
-/
namespace BrokerRpc.Publisher

theorem length_of_keys_eq {p q : Publisher} (h : q.subscriptions.keys = p.subscriptions.keys) :
    q.subscriptions.length = p.subscriptions.length := by
  have hlength := congrArg List.length h
  simpa [Assoc.keys] using hlength

theorem get?_enrol {p : Publisher}
    (h : ∀ number ∈ p.subscriptions.keys, number < p.subscriptions.length) (id : EventId)
    (number : Nat) :
    (p.enrol id).2.subscriptions.get? number =
      if number = p.subscriptions.length then some { id, backlog := p.claimed id }
      else p.subscriptions.get? number := by
  have happend : (p.enrol id).2.subscriptions.get? number =
      (p.subscriptions.get? number).or (Assoc.get? [(p.subscriptions.length,
        { id, backlog := p.claimed id })] number) := Assoc.get?_append _ _ _
  rw [happend]
  split
  · rename_i hnew
    have hnone : p.subscriptions.get? number = none :=
      Assoc.get?_eq_none_iff.mpr fun hmem => absurd (h number hmem) (by omega)
    rw [hnone, hnew]
    simp [Assoc.get?]
  · rename_i hold
    have hne : ¬ p.subscriptions.length = number := fun e => hold e.symm
    simp [Assoc.get?, hne]

/-- What holds of a publisher in the midst of operations, where `due` are the subscriptions whose
schedule call is still to come: the flag of a subscription says whether a job works for it, there is
at most one, and a subscription with something to deliver has a job or will be scheduled. -/
structure Staffed (p : Publisher) (due : List Nat) : Prop where
  issued : ∀ number ∈ p.subscriptions.keys, number < p.subscriptions.length
  known : ∀ number ∈ p.jobs, number ∈ p.subscriptions.keys
  nodup : p.jobs.Nodup
  draining_iff : ∀ number s, p.subscriptions.get? number = some s →
    (s.draining = true ↔ number ∈ p.jobs)
  woken : ∀ number s, p.subscriptions.get? number = some s → s.ready = true → number ∉ due →
    s.draining = true

theorem staffed_new (retention : Duration) : Staffed (new retention) [] where
  issued := fun _ h => absurd h List.not_mem_nil
  known := fun _ h => absurd h List.not_mem_nil
  nodup := List.nodup_nil
  draining_iff := fun _ _ h => by cases h
  woken := fun _ _ h => by cases h

namespace Staffed

variable {p : Publisher} {due : List Nat}

theorem at_work (h : Staffed p due) {number : Nat} {s : Subscription}
    (hs : p.subscriptions.get? number = some s) (hdue : number ∉ due) (hlive : s.cancelled = false)
    (hdemand : s.demand ≠ 0) (hbacklog : s.backlog ≠ []) : number ∈ p.jobs := by
  have hready : s.ready = true := by simp [Subscription.ready, hlive, hdemand, hbacklog]
  exact (h.draining_iff number s hs).mp (h.woken number s hs hready hdue)

theorem of_eq (h : Staffed p due) {q : Publisher} (hs : q.subscriptions = p.subscriptions)
    (hjobs : q.jobs = p.jobs) : Staffed q due := by
  refine ⟨?_, ?_, ?_, ?_, ?_⟩
  · rw [hs]; exact h.issued
  · rw [hs, hjobs]; exact h.known
  · rw [hjobs]; exact h.nodup
  · rw [hs, hjobs]; exact h.draining_iff
  · rw [hs]; exact h.woken

theorem update (h : Staffed p due) {number : Nat} {f : Subscription → Subscription}
    {jobs later : List Nat} (hnodup : jobs.Nodup)
    (hknown : number ∈ jobs → number ∈ p.subscriptions.keys)
    (hjobs : ∀ other, other ≠ number → (other ∈ jobs ↔ other ∈ p.jobs))
    (hdue : ∀ other, other ≠ number → other ∈ due → other ∈ later)
    (hf : ∀ s, p.subscriptions.get? number = some s → ((f s).draining = true ↔ number ∈ jobs) ∧
      ((f s).ready = true → number ∉ later → (f s).draining = true)) :
    Staffed { p.change number f with jobs := jobs } later := by
  have hkeys : Assoc.keys (p.change number f).subscriptions = p.subscriptions.keys :=
    keys_change p number f
  refine ⟨?_, ?_, hnodup, ?_, ?_⟩
  · rw [hkeys, length_of_keys_eq hkeys]
    exact h.issued
  · intro other hmem
    rw [hkeys]
    by_cases heq : other = number
    · exact heq ▸ hknown (heq ▸ hmem)
    · exact h.known other ((hjobs other heq).mp hmem)
  · intro other s hs
    rw [get?_change] at hs
    split at hs
    · rename_i heq
      subst heq
      obtain ⟨found, hfound, rfl⟩ := Option.map_eq_some_iff.mp hs
      exact (hf found hfound).1
    · rename_i hne
      rw [h.draining_iff other s hs]
      exact (hjobs other hne).symm
  · intro other s hs hready hnot
    rw [get?_change] at hs
    split at hs
    · rename_i heq
      subst heq
      obtain ⟨found, hfound, rfl⟩ := Option.map_eq_some_iff.mp hs
      exact (hf found hfound).2 hready hnot
    · rename_i hne
      exact h.woken other s hs hready fun hmem => hnot (hdue other hne hmem)

theorem change (h : Staffed p due) {number : Nat} {f : Subscription → Subscription}
    {later : List Nat} (hdue : due ⊆ later)
    (hf : ∀ s, p.subscriptions.get? number = some s → (f s).draining = s.draining ∧
      ((f s).ready = true → s.ready = true ∨ number ∈ later)) :
    Staffed (p.change number f) later := by
  refine h.update h.nodup (h.known number) (fun _ _ => Iff.rfl) (fun _ _ hmem => hdue hmem) ?_
  intro s hs
  obtain ⟨hflag, hready⟩ := hf s hs
  rw [hflag]
  refine ⟨h.draining_iff number s hs, fun hr hnot => ?_⟩
  exact h.woken number s hs ((hready hr).resolve_right hnot) fun hmem => hnot (hdue hmem)

/-- A schedule call starts a job if one is needed, and none is due for the subscription then. -/
theorem schedule (h : Staffed p due) (number : Nat) :
    Staffed (p.schedule number) (due.erase number) := by
  have hdue : ∀ other, other ≠ number → other ∈ due → other ∈ due.erase number :=
    fun other hne hmem => (List.mem_erase_of_ne hne).mpr hmem
  -- where no job is started, the subscription has one or has nothing to deliver
  have hidle : (∀ s, p.subscriptions.get? number = some s → s.wantsJob = false) →
      Staffed p (due.erase number) := by
    refine fun hwants => ⟨h.issued, h.known, h.nodup, h.draining_iff, ?_⟩
    intro other s hs hready hnot
    by_cases heq : other = number
    · subst heq
      simpa [Subscription.wantsJob, hready] using hwants s hs
    · exact h.woken other s hs hready fun hmem => hnot (hdue other heq hmem)
  unfold Publisher.schedule
  cases hs : p.subscriptions.get? number with
  | none => exact hidle fun s hsome => by cases hs.symm.trans hsome
  | some s =>
    cases hwants : s.wantsJob with
    | false =>
      simp only [hwants, Bool.false_eq_true, if_false]
      exact hidle (forall_found hs hwants)
    | true =>
      simp only [hwants, if_true]
      have hnew : number ∉ p.jobs := by
        rw [← h.draining_iff number s hs]
        simp only [Subscription.wantsJob, Bool.and_eq_true, Bool.not_eq_true'] at hwants
        simp [hwants.1]
      refine h.update (List.nodup_append.mpr ⟨h.nodup, by simp, ?_⟩)
        (fun _ => Assoc.mem_keys_of_get? hs) (fun other hne => by simp [hne]) hdue
        (fun found _ => by simp)
      intro other hmem last hlast
      rw [List.mem_singleton.mp hlast]
      exact fun e => hnew (e ▸ hmem)

theorem ends (h : Staffed p due) {number : Nat} {s : Subscription}
    (hflag : s.draining = false) (hidle : s.ready = false) :
    Staffed { p.change number (fun _ => s) with jobs := p.jobs.erase number } due := by
  have hgone : number ∉ p.jobs.erase number := h.nodup.not_mem_erase
  refine h.update (h.nodup.erase number) (fun hmem => absurd hmem hgone)
    (fun other hne => List.mem_erase_of_ne hne) (fun _ _ => id) ?_
  simp [hflag, hidle, hgone]

theorem erase_unknown (h : Staffed p due) {number : Nat}
    (hs : p.subscriptions.get? number = none) :
    Staffed { p with jobs := p.jobs.erase number } due := by
  have hnone : number ∉ p.jobs := fun hmem =>
    absurd (h.known number hmem) (Assoc.get?_eq_none_iff.mp hs)
  rw [List.erase_of_not_mem hnone]
  exact h

theorem enrol (h : Staffed p due) (id : EventId) :
    Staffed (p.enrol id).2 (p.subscriptions.length :: due) := by
  have hget := get?_enrol h.issued id
  have hfresh : p.subscriptions.length ∉ p.jobs := fun hmem =>
    absurd (h.issued _ (h.known _ hmem)) (Nat.lt_irrefl _)
  refine ⟨?_, ?_, h.nodup, ?_, ?_⟩
  · have hlength : (p.enrol id).2.subscriptions.length = p.subscriptions.length + 1 := by
      simp [Publisher.enrol]
    intro number hmem
    rw [keys_enrol, List.mem_append, List.mem_singleton] at hmem
    rw [hlength]
    rcases hmem with hmem | rfl
    · exact Nat.lt_succ_of_lt (h.issued number hmem)
    · exact Nat.lt_succ_self _
  · intro number hmem
    rw [keys_enrol]
    exact List.mem_append_left _ (h.known number hmem)
  · intro number s hs
    rw [hget] at hs
    split at hs
    · rename_i heq
      obtain rfl := Option.some.inj hs
      simpa [heq, Publisher.enrol] using hfresh
    · exact h.draining_iff number s hs
  · intro number s hs hready hnot
    rw [hget] at hs
    split at hs
    · rename_i heq
      exact absurd (heq ▸ List.mem_cons_self) hnot
    · exact h.woken number s hs hready fun hmem => hnot (List.mem_cons_of_mem _ hmem)

theorem change_ended (h : Staffed p due) {number : Nat} {f : Subscription → Subscription}
    (hf : ∀ s, (f s).draining = s.draining ∧ (f s).cancelled = true) :
    Staffed (p.change number f) due := by
  refine h.change (List.Subset.refl _) fun s _ => ⟨(hf s).1, fun hready => ?_⟩
  simp [Subscription.ready, (hf s).2] at hready

theorem finish (h : Staffed p due) (number : Nat) : Staffed (p.finishAll [number]).1 due := by
  unfold finishAll
  cases hs : p.subscriptions.get? number with
  | none => exact h
  | some s =>
    refine h.change (List.Subset.refl _) (forall_found hs ⟨rfl, fun hready => ?_⟩)
    simp [Subscription.ready, Subscription.finish] at hready

theorem takeNext (h : Staffed p due) (number : Nat) : Staffed (p.takeNext number).1 due := by
  rcases takeNext_cases p number with ⟨hs, ht⟩ | ⟨s, hs, hidle, ht⟩ |
    ⟨s, event, rest, hs, hready, _, ht⟩
  all_goals rw [ht]
  · exact h.erase_unknown hs
  · exact h.ends rfl hidle
  · exact h.change (List.Subset.refl _) (forall_found hs ⟨rfl, fun _ => Or.inl hready⟩)

theorem failJob (h : Staffed p due) (number : Nat) (reason : String) :
    Staffed (p.failJob number reason).1 due := by
  rcases failJob_cases p number reason with ⟨hs, hf⟩ | ⟨s, _, hf⟩
  all_goals rw [hf]
  · exact h.erase_unknown hs
  · exact h.ends rfl (by simp [Subscription.fail, Subscription.ready])

end Staffed

/-! ## Sections and runs -/

namespace Busy

theorem staffed_carryOut {b : Busy} (h : Staffed b.publisher b.due) (next : Section) :
    Staffed (b.carryOut next).publisher (b.carryOut next).due := by
  cases next with
  | enrol id => exact h.enrol id
  | park event => exact h.of_eq rfl rfl
  | offer event number =>
    simp only [carryOut]
    split
    · rename_i hended
      refine h.change (List.Subset.refl _) fun s hs => ?_
      have hc : s.cancelled = true := by simpa [isCancelled, hs] using hended
      have hsame : s.offer event = s := by simp [Subscription.offer, hc]
      rw [hsame]
      exact ⟨rfl, Or.inl⟩
    · refine h.change (List.subset_cons_self _ _) fun s _ =>
        ⟨?_, fun _ => Or.inr List.mem_cons_self⟩
      unfold Subscription.offer
      split <;> rfl
  | grant number n =>
    exact h.change (List.subset_cons_self _ _) fun s _ =>
      ⟨rfl, fun _ => Or.inr List.mem_cons_self⟩
  | schedule number => exact h.schedule number
  | cancel number => exact h.change_ended fun _ => ⟨rfl, rfl⟩
  | unregister number => exact h.of_eq rfl rfl
  | shut => exact h.of_eq rfl rfl
  | finish number => exact h.finish number
  | forget now => exact h.of_eq rfl rfl
  | expire number cutoff =>
    -- what is left in a backlog was in it before
    refine h.change (List.Subset.refl _) fun s _ => ⟨rfl, fun hready => Or.inl ?_⟩
    simp only [Subscription.ready, Subscription.expire, Bool.and_eq_true, Bool.not_eq_true',
      List.isEmpty_eq_false_iff] at hready ⊢
    refine ⟨hready.1, fun hnil => hready.2 ?_⟩
    simp [hnil]
  | take number =>
    have htaken := h.takeNext number
    simp only [carryOut]
    split
    · split
      · rename_i ht
        simpa [ht] using htaken
      · rename_i ht
        simpa [ht] using htaken
    · exact h
  | resume number => exact h
  | fail number reason =>
    simp only [carryOut]
    split
    · exact h.failJob number reason
    · exact h

theorem staffed_run {b : Busy} (h : Staffed b.publisher b.due) (sections : List Section) :
    Staffed (b.run sections).publisher (b.run sections).due := by
  induction sections generalizing b with
  | nil => exact h
  | cons next rest ih => exact ih (staffed_carryOut h next)

theorem telling_carryOut {b : Busy}
    (h : ∀ number, b.telling.count number ≤ b.publisher.jobs.count number) (next : Section)
    (number : Nat) :
    (b.carryOut next).telling.count number ≤ (b.carryOut next).publisher.jobs.count number := by
  cases next with
  | schedule other =>
    have hjobs : b.publisher.jobs.Sublist (b.publisher.schedule other).jobs := by
      rcases schedule_cases b.publisher other with he | he <;> simp [he]
    exact Nat.le_trans (h number) (hjobs.count_le number)
  | finish other =>
    refine Nat.le_trans (h number) ?_
    simp only [carryOut, finishAll]
    split <;> exact Nat.le_refl _
  | take other =>
    simp only [carryOut]
    split
    · rename_i hfree
      rcases takeNext_cases b.publisher other with ⟨_, ht⟩ | ⟨_, _, _, ht⟩ | ⟨_, _, _, _, _, _, ht⟩
      all_goals
        simp only [ht]
        have hle := h number
        by_cases heq : other = number
        · subst heq
          simp [change] at hfree ⊢
          omega
        · simpa [change, List.count_erase, List.count_cons, heq] using hle
    · exact h number
  | resume other => exact Nat.le_trans (List.erase_sublist.count_le _) (h number)
  | fail other reason =>
    simp only [carryOut]
    split
    · have hle := h number
      have hjobs : (b.publisher.failJob other reason).1.jobs = b.publisher.jobs.erase other := by
        rcases failJob_cases b.publisher other reason with ⟨_, hf⟩ | ⟨s, _, hf⟩ <;> rw [hf]
      simp only [hjobs, List.count_erase]
      omega
    · exact h number
  | _ => exact h number

theorem telling_run {b : Busy}
    (h : ∀ number, b.telling.count number ≤ b.publisher.jobs.count number)
    (sections : List Section) (number : Nat) :
    (b.run sections).telling.count number ≤ (b.run sections).publisher.jobs.count number := by
  induction sections generalizing b with
  | nil => exact h number
  | cons next rest ih => exact ih (telling_carryOut h next)

end Busy

/-- An operation that nobody interrupts leaves no schedule call due. -/
theorem staffed_perform {p : Publisher} (h : Staffed p []) (operation : Operation) :
    Staffed (perform p operation).after [] := by
  obtain ⟨sections, hsections⟩ := exists_sections_perform p operation
  have hnext := Busy.staffed_run (b := ⟨p, [], []⟩) h sections
  rwa [hsections] at hnext

theorem staffed_reached (retention : Duration) (operations : List Operation) :
    Staffed (reached (new retention) operations) [] := by
  have hrun : ∀ p, Staffed p [] → Staffed (reached p operations) [] := by
    induction operations with
    | nil => exact fun p h => h
    | cons operation rest ih => exact fun p h => ih _ (staffed_perform h operation)
  exact hrun _ (staffed_new retention)

/-- Whatever order the sections of operations and jobs come in: no subscription has two jobs, its flag
says whether it has one, no subscriber is told of two events at once, and where no schedule call is
due for it, a subscription that goes on and has events and demand left has a job. -/
theorem one_job_each (retention : Duration) (sections : List Section) :
    let b := Busy.run ⟨new retention, [], []⟩ sections
    b.publisher.jobs.Nodup ∧
      ∀ number s, b.publisher.subscriptions.get? number = some s →
        (s.draining = true ↔ number ∈ b.publisher.jobs) ∧
        b.telling.count number ≤ b.publisher.jobs.count number ∧
        (number ∉ b.due → s.cancelled = false → s.demand ≠ 0 → s.backlog ≠ [] →
          number ∈ b.publisher.jobs) := by
  intro b
  have hstaffed : Staffed b.publisher b.due :=
    Busy.staffed_run (b := ⟨new retention, [], []⟩) (staffed_new retention) sections
  have htelling : ∀ number, b.telling.count number ≤ b.publisher.jobs.count number :=
    Busy.telling_run (b := ⟨new retention, [], []⟩) (fun _ => Nat.le_refl _) sections
  refine ⟨hstaffed.nodup, fun number s hs => ?_⟩
  exact ⟨hstaffed.draining_iff number s hs, htelling number, hstaffed.at_work hs⟩

/-- While the subscriber is busy with the first event a second one is offered, and the schedule calls
of the offers, of the request and of the subscription come in another order. -/
theorem one_job_each_busy :
    let event : Event := ⟨⟨"peer", "editor", "saved", "7"⟩, .null, 0⟩
    let b := Busy.run ⟨new ⟨20⟩, [], []⟩
      [.enrol EventId.all, .offer event 0, .grant 0 2, .schedule 0, .take 0, .offer event 0,
        .schedule 0, .schedule 0, .schedule 0]
    b.telling = [0] ∧ b.due = [] ∧
      ∃ s, b.publisher.subscriptions.get? 0 = some s ∧ s.backlog = [event] ∧
        b.publisher.jobs.count 0 = 1 ∧ s.draining = true := by
  intro event b
  have hall := one_job_each ⟨20⟩ [.enrol EventId.all, .offer event 0, .grant 0 2, .schedule 0,
    .take 0, .offer event 0, .schedule 0, .schedule 0, .schedule 0]
  obtain ⟨hnodup, hjob⟩ := hall
  have hfound : (b.publisher.subscriptions.get? 0).map
      (fun s => (s.cancelled, s.demand, s.backlog)) = some (false, 1, [event]) := by decide
  obtain ⟨s, hs, hfields⟩ := Option.map_eq_some_iff.mp hfound
  simp only [Prod.mk.injEq] at hfields
  obtain ⟨hlive, hdemand, hbacklog⟩ := hfields
  obtain ⟨hflag, _, hwoken⟩ := hjob 0 s hs
  have hmem := hwoken (by decide) hlive (by simp [hdemand]) (by simp [hbacklog])
  have hone : b.publisher.jobs.count 0 = 1 := by rw [hnodup.count, if_pos hmem]
  exact ⟨by decide, by decide, s, hs, hbacklog, hone, hflag.mpr hmem⟩

end BrokerRpc.Publisher
