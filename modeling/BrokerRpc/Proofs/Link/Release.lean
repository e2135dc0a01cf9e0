import BrokerRpc.Link.Listener

/-! # When a listener's socket is released

The first request to close a listener travels to whoever holds the socket, and its wait is over once
the socket is released. A later request does not travel: its wait is over at once. So it tells of the
release only if the socket had been released when it was made.
-/
namespace BrokerRpc.Listener

inductive Operation where
  | close
  | runTask
  | obey
  | vanish
  | accept
  | stopLoop

def perform (l : Listener) : Operation → Listener
  | .close => l.close.1
  | .runTask => l.runTask
  | .obey => l.obey
  | .vanish => l.vanish
  | .accept => l.accept.1
  | .stopLoop => l.stopLoop

def after (l : Listener) (operations : List Operation) : Listener := operations.foldl perform l

/-- The socket is gone for good, and no connection is accepted any more. -/
def Released (l : Listener) : Prop :=
  ∀ operations, (l.after operations).bound = false ∧
    (l.after operations).accepted.keys = l.accepted.keys

theorem wait_eq_ok_iff {l : Listener} {handle : CloseHandle} {bound : Duration} :
    l.wait handle bound = .ok () ↔ handle ∈ l.finished := by
  unfold wait
  split <;> simp_all

/-! ## What is never taken back -/

/-- Whoever was told stays told, who closed the listener has closed it, and without a socket no
connection is accepted. -/
structure Goes (l l' : Listener) : Prop where
  finished : l.finished ⊆ l'.finished
  asked : l.closable = false → l'.closable = false
  released : l.bound = false → l'.bound = false ∧ l'.accepted.keys = l.accepted.keys

namespace Goes

variable {l l' l'' : Listener}

theorem refl (l : Listener) : Goes l l := ⟨List.Subset.refl _, id, fun h => ⟨h, rfl⟩⟩

theorem trans (h : Goes l l') (h' : Goes l' l'') : Goes l l'' := by
  refine ⟨List.Subset.trans h.finished h'.finished, h'.asked ∘ h.asked, fun hbound => ?_⟩
  obtain ⟨hlater, hkeys⟩ := h.released hbound
  obtain ⟨hlast, hsame⟩ := h'.released hlater
  exact ⟨hlast, hsame.trans hkeys⟩

end Goes

theorem goes_close (l : Listener) : Goes l l.close.1 := by
  unfold close
  dsimp only
  split
  · exact ⟨List.Subset.refl _, fun _ => rfl, fun h => ⟨h, rfl⟩⟩
  · exact ⟨List.subset_append_left _ _, fun _ => rfl, fun h => ⟨h, rfl⟩⟩

theorem goes_runTask (l : Listener) : Goes l l.runTask := by
  unfold runTask
  split
  · exact .refl l
  split
  · exact ⟨List.Subset.refl _, id, fun h => ⟨h, rfl⟩⟩
  · exact ⟨List.subset_append_left _ _, id, fun h => ⟨h, rfl⟩⟩

theorem goes_obey (l : Listener) : Goes l l.obey := by
  unfold obey
  split
  · exact ⟨List.subset_append_left _ _, id, fun _ => ⟨rfl, rfl⟩⟩
  · exact .refl l

theorem accept_cases (l : Listener) :
    l.accept.1 = l ∨ l.bound = true ∧ ∃ accepted, l.accept.1 = { l with accepted } := by
  unfold accept
  dsimp only
  split
  · rename_i hbound
    exact Or.inr ⟨hbound, _, rfl⟩
  · exact Or.inl rfl

theorem goes_accept (l : Listener) : Goes l l.accept.1 := by
  rcases accept_cases l with hsame | ⟨hbound, accepted, hnew⟩
  · rw [hsame]
    exact .refl l
  · rw [hnew]
    exact ⟨List.Subset.refl _, id, fun h => absurd (h.symm.trans hbound) Bool.noConfusion⟩

theorem goes_perform (l : Listener) (o : Operation) : Goes l (l.perform o) := by
  cases o with
  | close => exact goes_close l
  | runTask => exact goes_runTask l
  | obey => exact goes_obey l
  | vanish => exact ⟨List.subset_append_left _ _, id, fun _ => ⟨rfl, rfl⟩⟩
  | accept => exact goes_accept l
  | stopLoop =>
    refine ⟨?_, id, fun _ => ⟨rfl, Assoc.keys_map _ _⟩⟩
    exact List.Subset.trans (List.subset_append_left _ _) (List.subset_append_left _ _)

theorem goes_after (l : Listener) (operations : List Operation) : Goes l (l.after operations) := by
  induction operations generalizing l with
  | nil => exact .refl l
  | cons o operations ih => exact (goes_perform l o).trans (ih (l.perform o))

theorem released_iff {l : Listener} : l.Released ↔ l.bound = false :=
  ⟨fun h => (h []).1, fun h operations => (goes_after l operations).released h⟩

/-! ## The request that travels -/

/-- How far the first request has come. -/
inductive Travels (l : Listener) : Prop
  | queued (htasks : l.tasks = [0]) (hsignal : l.signal = none) (hwaits : 0 ∉ l.finished)
  | passedOn (htasks : l.tasks = []) (hsignal : l.signal = some 0) (hwaits : 0 ∉ l.finished)
  | reached (htasks : l.tasks = []) (hsignal : l.signal = none) (hreleased : l.bound = false)
      (hdone : 0 ∈ l.finished)

namespace Travels

variable {l l' : Listener}

theorem congr (h : l.Travels) (htasks : l'.tasks = l.tasks) (hsignal : l'.signal = l.signal)
    (hbound : l'.bound = l.bound) (hsame : 0 ∈ l'.finished ↔ 0 ∈ l.finished) : l'.Travels := by
  cases h with
  | queued ht hs hw => exact .queued (htasks.trans ht) (hsignal.trans hs) (mt hsame.mp hw)
  | passedOn ht hs hw => exact .passedOn (htasks.trans ht) (hsignal.trans hs) (mt hsame.mp hw)
  | reached ht hs hr hd =>
    exact .reached (htasks.trans ht) (hsignal.trans hs) (hbound.trans hr) (hsame.mpr hd)

theorem tell (h : l.Travels) {handle : CloseHandle} (hne : handle ≠ 0)
    (htasks : l'.tasks = l.tasks) (hsignal : l'.signal = l.signal) (hbound : l'.bound = l.bound)
    (hfinished : l'.finished = l.finished ++ [handle]) : l'.Travels := by
  refine h.congr htasks hsignal hbound ?_
  rw [hfinished]
  simp [hne.symm]

theorem runTask (h : l.Travels) : l.runTask.Travels := by
  unfold Listener.runTask
  cases h with
  | queued htasks hsignal hwaits =>
    simp only [htasks]
    split
    · exact .passedOn rfl rfl hwaits
    · rename_i hbound
      exact .reached rfl hsignal (by simpa using hbound) (by simp)
  | passedOn htasks hsignal hwaits =>
    simp only [htasks]
    exact .passedOn htasks hsignal hwaits
  | reached htasks hsignal hreleased hdone =>
    simp only [htasks]
    exact .reached htasks hsignal hreleased hdone

theorem obey (h : l.Travels) : l.obey.Travels := by
  unfold Listener.obey
  cases h with
  | queued htasks hsignal hwaits =>
    simp only [hsignal]
    exact .queued htasks hsignal hwaits
  | passedOn htasks hsignal hwaits =>
    simp only [hsignal]
    exact .reached htasks rfl rfl (by simp)
  | reached htasks hsignal hreleased hdone =>
    simp only [hsignal]
    exact .reached htasks hsignal hreleased hdone

theorem vanish (h : l.Travels) : l.vanish.Travels := by
  cases h with
  | queued htasks hsignal hwaits =>
    exact .queued htasks rfl (by simp [Listener.vanish, hsignal, hwaits])
  | passedOn htasks hsignal hwaits =>
    exact .reached htasks rfl rfl (by simp [Listener.vanish, hsignal])
  | reached htasks hsignal hreleased hdone =>
    exact .reached htasks rfl rfl (List.mem_append_left _ hdone)

theorem accept (h : l.Travels) : l.accept.1.Travels := by
  rcases accept_cases l with hsame | ⟨-, accepted, hnew⟩
  · rwa [hsame]
  · rw [hnew]
    exact h.congr rfl rfl rfl Iff.rfl

theorem stopLoop (h : l.Travels) : l.stopLoop.Travels := by
  refine .reached rfl rfl rfl ?_
  cases h with
  | queued htasks hsignal hwaits => simp [Listener.stopLoop, htasks]
  | passedOn htasks hsignal hwaits => simp [Listener.stopLoop, hsignal]
  | reached htasks hsignal hreleased hdone => simp [Listener.stopLoop, hdone]

theorem bound_eq_false (h : l.Travels) (hdone : 0 ∈ l.finished) : l.bound = false := by
  cases h with
  | queued _ _ hwaits => exact absurd hdone hwaits
  | passedOn _ _ hwaits => exact absurd hdone hwaits
  | reached _ _ hreleased _ => exact hreleased

theorem tasks_runTask (h : l.Travels) : l.runTask.tasks = [] := by
  unfold Listener.runTask
  cases h with
  | queued htasks =>
    simp only [htasks]
    split <;> rfl
  | passedOn htasks => simp only [htasks]
  | reached htasks => simp only [htasks]

/-- Once the loop has run its tasks and whoever holds the socket has obeyed, the first caller is
told. -/
theorem told (h : l.Travels) : 0 ∈ l.runTask.obey.finished := by
  cases h.runTask with
  | queued htasks =>
    rw [h.tasks_runTask] at htasks
    cases htasks
  | passedOn _ hsignal => simp [Listener.obey, hsignal]
  | reached _ hsignal _ hdone => simpa [Listener.obey, hsignal] using hdone

end Travels

/-- Nobody has asked yet, or the first request travels; and a loop that has stopped holds no
socket. -/
structure Sound (l : Listener) : Prop where
  unasked : l.closable = true →
    l.nextHandle = 0 ∧ l.tasks = [] ∧ l.signal = none ∧ l.finished = []
  asked : l.closable = false → l.nextHandle ≠ 0 ∧ l.Travels
  stopped : l.running = false → l.bound = false

namespace Sound

variable {l : Listener}

theorem close (h : l.Sound) : l.close.1.Sound := by
  cases hclosable : l.closable with
  | true =>
    obtain ⟨hnext, htasks, hsignal, hfinished⟩ := h.unasked hclosable
    cases hrunning : l.running with
    | true =>
      have hclose : l.close.1 = { l with nextHandle := 1, closable := false, tasks := [0] } := by
        simp [Listener.close, hclosable, hrunning, hnext, htasks]
      rw [hclose]
      refine ⟨Bool.noConfusion, fun _ => ⟨Nat.one_ne_zero, .queued rfl hsignal ?_⟩, h.stopped⟩
      simp [hfinished]
    | false =>
      have hclose : l.close.1 = { l with nextHandle := 1, closable := false, finished := [0] } := by
        simp [Listener.close, hrunning, hnext, hfinished]
      rw [hclose]
      refine ⟨Bool.noConfusion, fun _ => ⟨Nat.one_ne_zero, ?_⟩, h.stopped⟩
      exact .reached htasks hsignal (h.stopped hrunning) (List.mem_singleton_self 0)
  | false =>
    obtain ⟨hnext, htravels⟩ := h.asked hclosable
    have hclose : l.close.1 = { l with
        nextHandle := l.nextHandle + 1, closable := false
        finished := l.finished ++ [l.nextHandle] } := by
      simp [Listener.close, hclosable]
    rw [hclose]
    exact ⟨Bool.noConfusion,
      fun _ => ⟨Nat.succ_ne_zero _, htravels.tell hnext rfl rfl rfl rfl⟩, h.stopped⟩

theorem of_kept (h : l.Sound) {l' : Listener} (hclosable : l'.closable = l.closable)
    (hnext : l'.nextHandle = l.nextHandle) (htravels : l.Travels → l'.Travels)
    (hidle : l.tasks = [] ∧ l.signal = none ∧ l.finished = [] →
      l'.tasks = [] ∧ l'.signal = none ∧ l'.finished = [])
    (hstopped : l'.running = false → l'.bound = false) : l'.Sound := by
  refine ⟨fun hopen => ?_, fun hasked => ?_, hstopped⟩
  · obtain ⟨hfirst, hrest⟩ := h.unasked (hclosable ▸ hopen)
    exact ⟨hnext.trans hfirst, hidle hrest⟩
  · obtain ⟨hlater, ht⟩ := h.asked (hclosable ▸ hasked)
    exact ⟨hnext ▸ hlater, htravels ht⟩

theorem runTask (h : l.Sound) : l.runTask.Sound := by
  have hkept : l.runTask.closable = l.closable ∧ l.runTask.nextHandle = l.nextHandle ∧
      l.runTask.running = l.running ∧ l.runTask.bound = l.bound := by
    unfold Listener.runTask
    split
    · exact ⟨rfl, rfl, rfl, rfl⟩
    · split <;> exact ⟨rfl, rfl, rfl, rfl⟩
  obtain ⟨hclosable, hnext, hrunning, hbound⟩ := hkept
  refine h.of_kept hclosable hnext Travels.runTask ?_ ?_
  · rintro ⟨htasks, hsignal, hfinished⟩
    simp [Listener.runTask, htasks, hsignal, hfinished]
  · rw [hrunning, hbound]
    exact h.stopped

theorem obey (h : l.Sound) : l.obey.Sound := by
  have hkept : l.obey.closable = l.closable ∧ l.obey.nextHandle = l.nextHandle := by
    unfold Listener.obey
    split <;> exact ⟨rfl, rfl⟩
  refine h.of_kept hkept.1 hkept.2 Travels.obey ?_ ?_
  · rintro ⟨htasks, hsignal, hfinished⟩
    simp [Listener.obey, htasks, hsignal, hfinished]
  · unfold Listener.obey
    split
    · exact fun _ => rfl
    · exact h.stopped

theorem vanish (h : l.Sound) : l.vanish.Sound := by
  refine h.of_kept rfl rfl Travels.vanish ?_ fun _ => rfl
  rintro ⟨htasks, hsignal, hfinished⟩
  simp [Listener.vanish, htasks, hsignal, hfinished]

theorem accept (h : l.Sound) : l.accept.1.Sound := by
  have haccept := @Travels.accept l
  rcases accept_cases l with hsame | ⟨-, accepted, hnew⟩
  · rwa [hsame]
  · rw [hnew] at haccept ⊢
    exact h.of_kept rfl rfl haccept id h.stopped

theorem stopLoop (h : l.Sound) : l.stopLoop.Sound := by
  refine h.of_kept rfl rfl Travels.stopLoop ?_ fun _ => rfl
  rintro ⟨htasks, hsignal, hfinished⟩
  simp [Listener.stopLoop, htasks, hsignal, hfinished]

theorem perform (h : l.Sound) (o : Operation) : (l.perform o).Sound := by
  cases o with
  | close => exact h.close
  | runTask => exact h.runTask
  | obey => exact h.obey
  | vanish => exact h.vanish
  | accept => exact h.accept
  | stopLoop => exact h.stopLoop

theorem after (h : l.Sound) (operations : List Operation) : (l.after operations).Sound := by
  induction operations generalizing l with
  | nil => exact h
  | cons o operations ih => exact ih (h.perform o)

end Sound

theorem sound_bound : ({} : Listener).Sound :=
  ⟨fun _ => ⟨rfl, rfl, rfl, rfl⟩, Bool.noConfusion, Bool.noConfusion⟩

/-! ## Waiting -/

theorem close_keeps (l : Listener) :
    l.close.1.closable = false ∧ l.close.1.bound = l.bound ∧ l.close.2 = l.nextHandle := by
  unfold close
  dsimp only
  split <;> exact ⟨rfl, rfl, rfl⟩

theorem told_of_asked_before {l : Listener} (h : l.closable = false) :
    l.close.2 ∈ l.close.1.finished := by
  simp [close, h]

/-- A caller that closes the listener is told only of the release exactly if nobody has closed it
before or the socket has been released before. Each caller is told once the loop has run its tasks
and whoever holds the socket has obeyed, and after the first one at once. -/
theorem told_of_release_iff (before : List Operation) (bound : Duration) :
    let l := ({} : Listener).after before
    let asked := l.close.1
    let handle := l.close.2
    ((∀ more, (asked.after more).wait handle bound = .ok () → (asked.after more).Released) ↔
      l.closable = true ∨ l.bound = false) ∧
    (∀ more, (asked.after more).runTask.obey.wait handle bound = .ok ()) ∧
    (l.closable = false → asked.wait handle bound = .ok ()) := by
  intro l asked handle
  simp only [wait_eq_ok_iff, released_iff]
  have hsound : l.Sound := sound_bound.after before
  obtain ⟨hasked, hbound, hhandle⟩ := close_keeps l
  have htravels (more : List Operation) : (asked.after more).Travels :=
    ((hsound.close.after more).asked ((goes_after asked more).asked hasked)).2
  have hfirst (hopen : l.closable = true) : handle = 0 := hhandle.trans (hsound.unasked hopen).1
  refine ⟨⟨fun h => ?_, fun h more hdone => ?_⟩, fun more => ?_, told_of_asked_before⟩
  · cases hclosable : l.closable with
    | true => exact Or.inl rfl
    | false => exact Or.inr (hbound ▸ h [] (told_of_asked_before hclosable))
  · rcases h with hopen | hgone
    · exact (htravels more).bound_eq_false (hfirst hopen ▸ hdone)
    · exact ((goes_after asked more).released (hbound.trans hgone)).1
  · cases hclosable : l.closable with
    | true => exact hfirst hclosable ▸ (htravels more).told
    | false =>
      have htold := (goes_after asked more).finished (told_of_asked_before hclosable)
      exact (goes_obey _).finished ((goes_runTask _).finished htold)

/-- Two callers close a listener before its loop runs. The second one is told at once, while the
first one still waits; the socket is there, and a connection is accepted on it. -/
theorem second_told_while_bound :
    let l := ({} : Listener).after [.close, .close]
    let bound := Duration.ofSeconds 5
    1 < l.nextHandle ∧ l.wait 1 bound = .ok () ∧ l.wait 0 bound = .error (.timeout bound) ∧
      l.bound = true ∧ ¬ l.Released ∧ (l.after [.accept]).accepted.keys = [0] := by
  intro l bound
  have hbound : l.bound = true := rfl
  refine ⟨by decide, rfl, rfl, hbound, ?_, rfl⟩
  rw [released_iff, hbound]
  exact Bool.noConfusion

end BrokerRpc.Listener
