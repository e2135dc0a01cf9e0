import BrokerRpc.Proofs.Publisher.Run

/-! # Delivery without loss, repetition or reordering

A subscription that goes on is handed what it found when it began and whatever was published since
that it wants, in the order of arrival, each once. What was not handed over yet still waits in that
order, but for what purges removed.
-/
namespace BrokerRpc.Publisher

/-- What a subscription is owed after some moments, in order: what it was owed before and what
arrived that it wants, less what purges found expired among what had not been handed over. The first
`handed` events had been handed over before. -/
def owed (number : Nat) (id : EventId) (handed : Nat) (due : List Event) : List Moment → List Event
  | [] => due
  | m :: rest =>
    let kept := due.take handed ++ (due.drop handed).filter m.spares
    owed number id (handed + (m.handed number).length) (kept ++ m.arrivals id) rest

def arrivedIn (moments : List Moment) (id : EventId) : List Event := moments.flatMap (·.arrivals id)

def handedIn (moments : List Moment) (number : Nat) : List Event :=
  moments.flatMap (·.handed number)

def droppedIn (moments : List Moment) (number : Nat) : List Event :=
  moments.flatMap (·.dropped number)

/-- A subscription that waited for `earlier` events before some moments and for `backlog` after them
has got what it is owed. -/
structure Balanced (number : Nat) (id : EventId) (earlier : List Event) (moments : List Moment)
    (backlog : List Event) : Prop where
  owed_eq : ∀ before : List Event, owed number id before.length (before ++ earlier) moments =
    before ++ handedIn moments number ++ backlog
  in_order : (handedIn moments number ++ backlog).Sublist (earlier ++ arrivedIn moments id)
  complete : (earlier ++ arrivedIn moments id).Perm
    (handedIn moments number ++ backlog ++ droppedIn moments number)

theorem balanced_nil (number : Nat) (id : EventId) (backlog : List Event) :
    Balanced number id backlog [] backlog := by
  refine ⟨?_, ?_, ?_⟩
  · intro before
    simp [owed, handedIn]
  · simp [handedIn, arrivedIn]
  · simp [handedIn, arrivedIn, droppedIn]

theorem Moment.Moves.perm {m : Moment} {number : Nat} {id : EventId} {earlier backlog : List Event}
    (h : m.Moves number id earlier backlog) :
    (earlier ++ m.arrivals id).Perm (m.handed number ++ backlog ++ m.dropped number) := by
  have hdropped : m.dropped number = earlier.filter fun event => !m.spares event := by
    simp only [dropped, h.found]
  have hsplit : (earlier.filter m.spares ++ m.dropped number).Perm earlier := by
    rw [hdropped]
    exact List.filter_append_perm m.spares earlier
  rw [h.balance]
  refine List.perm_iff_count.mpr fun event => ?_
  have hcount := hsplit.count_eq event
  simp only [List.count_append] at hcount ⊢
  omega

theorem Moment.Moves.balanced {m : Moment} {number : Nat} {id : EventId}
    {earlier middle backlog : List Event} {rest : List Moment}
    (h : m.Moves number id earlier middle) (hrest : Balanced number id middle rest backlog) :
    Balanced number id earlier (m :: rest) backlog := by
  have hhanded : handedIn (m :: rest) number = m.handed number ++ handedIn rest number :=
    List.flatMap_cons
  have harrived : arrivedIn (m :: rest) id = m.arrivals id ++ arrivedIn rest id :=
    List.flatMap_cons
  have hdropped : droppedIn (m :: rest) number = m.dropped number ++ droppedIn rest number :=
    List.flatMap_cons
  refine ⟨?_, ?_, ?_⟩
  · intro before
    have hnext := hrest.owed_eq (before ++ m.handed number)
    rw [List.length_append, List.append_assoc before, h.balance] at hnext
    simp only [owed, List.take_left, List.drop_left, hhanded, List.append_assoc] at hnext ⊢
    exact hnext
  · have hkept : (earlier.filter m.spares).Sublist earlier := List.filter_sublist
    have hfront : (m.handed number ++ (handedIn rest number ++ backlog)).Sublist
        (m.handed number ++ (middle ++ arrivedIn rest id)) := hrest.in_order.append_left _
    rw [hhanded, harrived, List.append_assoc, ← List.append_assoc earlier]
    refine hfront.trans ?_
    rw [← List.append_assoc, h.balance]
    exact (hkept.append_right _).append_right _
  · rw [hhanded, harrived, hdropped]
    refine List.perm_iff_count.mpr fun event => ?_
    have hfirst := h.perm.count_eq event
    have hnext := hrest.complete.count_eq event
    simp only [List.count_append] at hfirst hnext ⊢
    omega

/-- What holds after any operations, seen from a subscription that was there before them. -/
theorem balanced_reached {p : Publisher} (h : Orderly p) (operations : List Operation)
    {number : Nat} (hknown : number ∈ p.subscriptions.keys) :
    number ∈ (reached p operations).subscriptions.keys ∧
      ∀ id backlog, (reached p operations).queue? number = some (id, backlog) →
        ∃ earlier, p.queue? number = some (id, earlier) ∧
          Balanced number id earlier (history p operations) backlog := by
  induction operations generalizing p with
  | nil => exact ⟨hknown, fun id backlog hq => ⟨backlog, hq, balanced_nil number id backlog⟩⟩
  | cons operation rest ih =>
    have hsound := perform_sound h operation
    have hbefore : (perform p operation).before = p := before_perform p operation
    have hkept := hsound.kept number (hbefore.symm ▸ hknown)
    obtain ⟨hmem, hrest⟩ := ih hsound.orderly hkept
    refine ⟨hmem, ?_⟩
    intro id backlog hq
    obtain ⟨middle, hmiddle, hbalanced⟩ := hrest id backlog hq
    obtain ⟨earlier, hmoves⟩ := hsound.moves number id middle (hbefore.symm ▸ hknown) hmiddle
    exact ⟨earlier, hbefore ▸ hmoves.found, hmoves.balanced hbalanced⟩

theorem orderly_reached (retention : Duration) (operations : List Operation) :
    Orderly (reached (new retention) operations) := by
  have hrun : ∀ p, Orderly p → Orderly (reached p operations) := by
    induction operations with
    | nil => exact fun p h => h
    | cons operation rest ih => exact fun p h => ih _ (perform_sound h operation).orderly
  exact hrun _ (orderly_new retention)

theorem begins {p q : Publisher} (h : Orderly p) {text : String} {reactions : List Reaction}
    {number : Nat} {notices : List SignalNotice}
    (hs : p.subscribe text { onSubscribe := reactions } = .ok (number, q, notices))
    {id : EventId} (hid : EventId.parse text = .ok id) :
    let m := perform p (.subscribe text reactions)
    m.after = q ∧ number ∈ q.subscriptions.keys ∧ Orderly q ∧
      (∀ events : List Event, events.filter m.spares = events) ∧
      ∀ other backlog, q.queue? number = some (other, backlog) → other = id ∧
        m.handed number = [] ∧ m.dropped number = [] ∧ backlog = p.claimed id ++ m.arrivals id := by
  obtain ⟨found, hparse, rfl, rfl, hreceives⟩ := receives_subscribe h hs
  rw [hid, Except.ok.injEq] at hparse
  subst hparse
  have hm : perform p (.subscribe text reactions) =
      { before := p, operation := .subscribe text reactions, after := q
        notices := [(p.subscriptions.length, .subscribed)] } := by
    simp only [perform, hs]
  intro m
  simp only [m, hm]
  refine ⟨trivial, ?_, hreceives.orderly, Moment.filter_spares (by simp), ?_⟩
  · rw [hreceives.keys_eq, keys_enrol]
    simp
  · intro other backlog hq
    obtain ⟨earlier, hfound, hbacklog⟩ := hreceives.received _ other backlog hq
    rw [queue?_enrol h, if_pos rfl, Option.some.injEq, Prod.mk.injEq] at hfound
    obtain ⟨rfl, rfl⟩ := hfound
    have hnew : p.queue? p.subscriptions.length = none := by
      cases hp : p.queue? p.subscriptions.length with
      | none => rfl
      | some queue =>
        exact absurd (h.registered_issued _ (h.registered _ queue hp)) (Nat.lt_irrefl _)
    exact ⟨rfl, rfl, by simp [Moment.dropped, hnew], by
      simpa [Moment.arrivals, Moment.published] using hbacklog⟩

/-- A subscription that goes on has been handed, or still waits for, exactly the unclaimed events
that it wanted when it began and the events published since that it wants, in the order of their
arrival, each once, less those that purges removed from its backlog. Where none was removed these are
all of them. -/
theorem handed_append_backlog_eq (retention : Duration) (earlier later : List Operation)
    {text : String} {reactions : List Reaction} {number : Nat} {q : Publisher}
    {notices : List SignalNotice} {id : EventId}
    (hs : (reached (new retention) earlier).subscribe text { onSubscribe := reactions } =
      .ok (number, q, notices))
    (hid : EventId.parse text = .ok id) :
    let p := reached (new retention) earlier
    let operations := .subscribe text reactions :: later
    let moments := history p operations
    let handed := handedIn moments number
    let arrived := p.claimed id ++ arrivedIn moments id
    ∃ s, (reached p operations).subscriptions.get? number = some s ∧
      (s.cancelled = false → s.id = id ∧
        handed ++ s.backlog = owed number id 0 (p.claimed id) moments ∧
        (handed ++ s.backlog).Sublist arrived ∧
        arrived.Perm (handed ++ s.backlog ++ droppedIn moments number) ∧
        (droppedIn moments number = [] → handed ++ s.backlog = arrived)) := by
  intro p operations moments handed arrived
  have horderly : Orderly p := orderly_reached retention earlier
  obtain ⟨hafter, hnumber, hq, hspares, hbegins⟩ := begins horderly hs hid
  have hmoments : moments = perform p (.subscribe text reactions) :: history q later := by
    simp only [moments, operations, history, hafter]
  have hreached : reached p operations = reached q later := by
    simp only [operations, reached, List.foldl_cons, hafter]
  obtain ⟨hmem, hbalanced⟩ := balanced_reached hq later hnumber
  obtain ⟨s, hget⟩ := Assoc.mem_keys_iff.mp hmem
  refine ⟨s, hreached ▸ hget, ?_⟩
  intro hlive
  have hqueue : (reached q later).queue? number = some (s.id, s.backlog) :=
    queue?_eq_some_iff.mpr ⟨s, hget, hlive, rfl, rfl⟩
  obtain ⟨middle, hmiddle, hrest⟩ := hbalanced s.id s.backlog hqueue
  obtain ⟨heq, hhanded, hdropped, hstart⟩ := hbegins s.id middle hmiddle
  rw [heq] at hrest
  -- the first moment hands nothing over, so the account of the rest is that of the whole run
  generalize perform p (.subscribe text reactions) = m at hmoments hspares hhanded hdropped hstart
  have hhandedIn : handed = handedIn (history q later) number := by
    simp [handed, hmoments, handedIn, hhanded]
  have hdroppedIn : droppedIn moments number = droppedIn (history q later) number := by
    simp [hmoments, droppedIn, hdropped]
  have harrived : arrived = middle ++ arrivedIn (history q later) id := by
    simp [arrived, hmoments, arrivedIn, hstart]
  have howed : owed number id 0 (p.claimed id) moments =
      owed number id 0 middle (history q later) := by
    rw [hmoments, hstart]
    simp [owed, hhanded, hspares]
  have hsublist : (handed ++ s.backlog).Sublist arrived := by
    rw [hhandedIn, harrived]
    exact hrest.in_order
  have hperm : arrived.Perm (handed ++ s.backlog ++ droppedIn moments number) := by
    rw [hhandedIn, harrived, hdroppedIn]
    exact hrest.complete
  refine ⟨heq, ?_, hsublist, hperm, ?_⟩
  · rw [howed, hhandedIn]
    exact (hrest.owed_eq []).symm
  · intro hnone
    have hlength := hperm.length_eq
    rw [hnone, List.append_nil] at hlength
    exact hsublist.eq_of_length hlength.symm

/-- One event waits before the subscription, one is published by the subscriber while it is
subscribed and one while it is handed the first; the purge finds only the second one expired. -/
theorem handed_append_backlog_eq_reentrant :
    let address : EventId := ⟨"peer", "editor", "saved", "7"⟩
    let old : Event := ⟨address, .null, 90⟩
    let stale : Event := ⟨address, .null, 80⟩
    let fresh : Event := ⟨address, .null, 100⟩
    let operations : List Operation :=
      [.subscribe "peer|*|saved|7" [.request 1, .publish stale], .deliver 0 [.publish fresh],
        .purge 105, .publish { old with id := EventId.all }]
    let p := reached (new ⟨20⟩) [.publish old]
    let moments := history p operations
    handedIn moments 0 = [old] ∧ droppedIn moments 0 = [stale] ∧
      ∃ s, (reached p operations).subscriptions.get? 0 = some s ∧ s.cancelled = false ∧
        [old] ++ s.backlog = [old, fresh] := by
  intro address old stale fresh operations p moments
  let id : EventId := ⟨"peer", "*", "saved", "7"⟩
  have hid : EventId.parse "peer|*|saved|7" = .ok id := rfl
  have hhanded : handedIn moments 0 = [old] := by decide
  have hdropped : droppedIn moments 0 = [stale] := by decide
  have howed : owed 0 id 0 (p.claimed id) moments = [old, fresh] := by decide
  have hlive : (reached p operations).isCancelled 0 = false := by decide
  obtain ⟨q, notices, hs⟩ : ∃ q notices,
      p.subscribe "peer|*|saved|7" { onSubscribe := [.request 1, .publish stale] } =
        .ok (0, q, notices) := ⟨_, _, rfl⟩
  have hall := handed_append_backlog_eq ⟨20⟩ [.publish old]
    [.deliver 0 [.publish fresh], .purge 105, .publish { old with id := EventId.all }] hs hid
  have hmoments : history p operations = moments := rfl
  dsimp only at hall
  rw [hmoments, hhanded, howed] at hall
  generalize reached p operations = r at hall hlive ⊢
  clear_value moments p
  obtain ⟨s, hget, hrest⟩ := hall
  have hcancelled : s.cancelled = false := by
    simpa [isCancelled, hget] using hlive
  obtain ⟨_, hbalance, _⟩ := hrest hcancelled
  exact ⟨hhanded, hdropped, s, hget, hcancelled, hbalance⟩

end BrokerRpc.Publisher
