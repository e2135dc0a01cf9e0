import BrokerRpc.Proofs.Publisher.Expiry
import BrokerRpc.Proofs.Publisher.Registry

/-! # Subscriptions that want more

Ids are ordered by what they want: an id that wants another one wants every event that the other one
wants. In the id of an event a star is a text like any other, so that wanting an id as an event and
wanting all that it wants as a subscription are the same. A subscription under an id that wants more
gets all that it would get under the other.
-/
namespace BrokerRpc

namespace EventId

/-! ## Texts of ids -/

theorem exists_parse_iff {s : String} :
    (∃ id, parse s = .ok id) ↔ s.toList.count delimiter = 3 := by
  have hlength := Text.length_splitAt delimiter s.toList
  unfold parse
  split
  · rename_i hsplit
    rw [hsplit] at hlength
    simp only [List.length_cons, List.length_nil] at hlength
    exact iff_of_true ⟨_, rfl⟩ (by omega)
  · rename_i hother
    refine iff_of_false (by simp) fun hcount => ?_
    rw [hcount] at hlength
    obtain ⟨a, b, c, d, hsplit⟩ := List.length_eq_four.mp hlength
    exact hother a b c d hsplit

theorem parse_of_count_ne {s : String} (h : s.toList.count delimiter ≠ 3) :
    parse s = .error (.misuse (.segmentCount s)) := by
  have hnone := mt exists_parse_iff.mp h
  unfold parse at hnone ⊢
  split
  · rename_i hsplit
    simp [hsplit] at hnone
  · rfl

theorem text_of_parse {s : String} {id : EventId} (h : parse s = .ok id) : id.text = s :=
  (parse_eq_ok_iff.mp h).1.symm

/-! ## Segments -/

theorem admits_iff {ours theirs : String} :
    admits ours theirs = true ↔ ours = wildcard ∨ ours = theirs := by simp [admits]

theorem admits_trans {a b c : String} (h : admits a b = true) (h' : admits b c = true) :
    admits a c = true := by
  rw [admits_iff] at *
  rcases h with rfl | rfl
  · exact Or.inl rfl
  · exact h'

theorem admits_antisymm {a b : String} (h : admits a b = true) (h' : admits b a = true) : a = b := by
  rw [admits_iff] at h h'
  rcases h with rfl | rfl
  · exact (h'.elim id id).symm
  · rfl

/-! ## Ids -/

theorem wants_iff {id event : EventId} : id.wants event = true ↔
    admits id.receiver event.receiver = true ∧ admits id.component event.component = true ∧
      admits id.operation event.operation = true ∧ admits id.unique event.unique = true := by
  simp only [wants, Bool.and_eq_true, and_assoc]

theorem wants_trans {p q r : EventId} (h : p.wants q = true) (h' : q.wants r = true) :
    p.wants r = true := by
  obtain ⟨hreceiver, hcomponent, hoperation, hunique⟩ := wants_iff.mp h
  obtain ⟨hreceiver', hcomponent', hoperation', hunique'⟩ := wants_iff.mp h'
  exact wants_iff.mpr ⟨admits_trans hreceiver hreceiver', admits_trans hcomponent hcomponent',
    admits_trans hoperation hoperation', admits_trans hunique hunique'⟩

theorem wants_antisymm {p q : EventId} (h : p.wants q = true) (h' : q.wants p = true) : p = q := by
  obtain ⟨hreceiver, hcomponent, hoperation, hunique⟩ := wants_iff.mp h
  obtain ⟨hreceiver', hcomponent', hoperation', hunique'⟩ := wants_iff.mp h'
  obtain ⟨receiver, component, operation, unique⟩ := p
  rw [mk.injEq]
  exact ⟨admits_antisymm hreceiver hreceiver', admits_antisymm hcomponent hcomponent',
    admits_antisymm hoperation hoperation', admits_antisymm hunique hunique'⟩

/-- To want an id is to want all that it wants: it wants itself. -/
theorem wants_iff_forall {p q : EventId} :
    p.wants q = true ↔ ∀ event, q.wants event = true → p.wants event = true :=
  ⟨fun h _ h' => wants_trans h h', fun h => h q (wants_self q)⟩

end EventId

/-! ## Subscriptions -/

namespace Publisher

theorem backlog_of_queue? {p : Publisher} {number : Nat} {id : EventId} {backlog : List Event}
    (h : p.queue? number = some (id, backlog)) : p.backlog number = backlog := by
  obtain ⟨s, hs, -, -, rfl⟩ := queue?_eq_some_iff.mp h
  rw [Publisher.backlog, hs]

theorem queue?_publish {p : Publisher} (h : Orderly p) (event : Event) {number : Nat} {id : EventId}
    {backlog : List Event} (hq : p.queue? number = some (id, backlog)) :
    (p.publish event).queue? number =
      some (id, backlog ++ [event].filter fun e => id.wants e.id) := by
  have hiff := mem_targets_iff h event hq
  by_cases hnone : p.targets event = []
  · have hkept : (p.publish event).queue? number = p.queue? number := by
      simp only [publish, hnone]
      split <;> rfl
    have hunwanted : id.wants event.id = false := by simpa [hnone] using hiff
    simp [hkept, hq, hunwanted]
  · obtain ⟨-, -, hqueue⟩ := offers_spec p event (nodup_targets h event)
    rw [publish_eq_offers hnone, hqueue, hq]
    by_cases hwants : id.wants event.id = true
    · simp [hiff.mpr hwants, hwants]
    · simp [mt hiff.mp hwants, hwants]

theorem queue?_publishAll {p : Publisher} (h : Orderly p) (events : List Event) {number : Nat}
    {id : EventId} {backlog : List Event} (hq : p.queue? number = some (id, backlog)) :
    (events.foldl publish p).queue? number =
      some (id, backlog ++ events.filter fun e => id.wants e.id) := by
  induction events generalizing p backlog with
  | nil => simp [hq]
  | cons event events ih =>
    have hfirst := queue?_publish h event hq
    rw [List.foldl_cons, ih (receives_publish h event).orderly hfirst, List.append_assoc,
      ← List.filter_append, List.singleton_append]

/-- The events that wait for a subscriber who subscribes and asks for none, after the given events
were published. -/
def collected (p : Publisher) (text : String) (events : List Event) :
    Except Failure (List Event) := do
  let (number, q, _) ← p.subscribe text {}
  return (events.foldl publish q).backlog number

theorem collected_eq_ok_iff {p : Publisher} (h : Orderly p) {text : String}
    {events waiting : List Event} :
    p.collected text events = .ok waiting ↔ ∃ id, p.closed = false ∧ EventId.parse text = .ok id ∧
      p.registered.contains id.text = false ∧
      waiting = (p.unclaimed ++ events).filter fun e => id.wants e.id := by
  have hok : p.collected text events = .ok waiting ↔ ∃ number q notices,
      p.subscribe text {} = .ok (number, q, notices) ∧
      waiting = (events.foldl publish q).backlog number := by
    unfold collected
    cases p.subscribe text {} with
    | error failure => simp [bind, Except.bind]
    | ok result =>
      obtain ⟨number, q, notices⟩ := result
      simp [bind, Except.bind, pure, Except.pure, eq_comm]
  have hwaiting : ∀ id,
      (events.foldl publish ((p.enrol id).2.schedule p.subscriptions.length)).backlog
        p.subscriptions.length = (p.unclaimed ++ events).filter fun e => id.wants e.id := by
    intro id
    have henrolled := queue?_enrol h id p.subscriptions.length
    rw [if_pos rfl] at henrolled
    have hstart := receives_schedule (orderly_enrol h id) p.subscriptions.length
    rw [← queue?_schedule _ p.subscriptions.length] at henrolled
    rw [backlog_of_queue? (queue?_publishAll hstart.orderly events henrolled), claimed,
      List.filter_append]
  rw [hok]
  constructor
  · rintro ⟨number, q, notices, hs, rfl⟩
    obtain ⟨id, hopen, hparse, hnew, rfl, rfl, -⟩ := subscribe_eq_ok_iff.mp hs
    exact ⟨id, hopen, hparse, hnew, hwaiting id⟩
  · rintro ⟨id, hopen, hparse, hnew, rfl⟩
    exact ⟨_, _, _, subscribe_eq_ok_iff.mpr ⟨id, hopen, hparse, hnew, rfl, rfl, rfl⟩,
      (hwaiting id).symm⟩

/-- A subscription is under an id that wants another one exactly if it gets, whatever has happened
before and whichever events follow, all that it would get under the other. -/
theorem wants_iff_collected {s t : String} {p q : EventId} (hs : EventId.parse s = .ok p)
    (ht : EventId.parse t = .ok q) : p.wants q = true ↔
      ∀ retention operations events fewer more,
        (reached (new retention) operations).collected t events = .ok fewer →
        (reached (new retention) operations).collected s events = .ok more →
        fewer.Sublist more := by
  constructor
  · intro hwants retention operations events fewer more hfewer hmore
    have horderly := orderly_reached retention operations
    obtain ⟨id, -, hid, -, rfl⟩ := (collected_eq_ok_iff horderly).mp hfewer
    obtain ⟨id', -, hid', -, rfl⟩ := (collected_eq_ok_iff horderly).mp hmore
    cases ht.symm.trans hid
    cases hs.symm.trans hid'
    refine List.monotone_filter_right _ fun event => ?_
    exact EventId.wants_iff_forall.mp hwants event.id
  · intro hall
    -- one event that is addressed as the other id, to a publisher to which nothing has happened
    let event : Event := ⟨q, .null, 0⟩
    have horderly := orderly_reached ⟨0⟩ []
    have hevent : event ∈ [event].filter fun e => q.wants e.id :=
      List.mem_filter.mpr ⟨List.mem_singleton_self _, EventId.wants_self q⟩
    have hsub := hall ⟨0⟩ [] [event] _ _
      ((collected_eq_ok_iff horderly).mpr ⟨q, rfl, ht, rfl, rfl⟩)
      ((collected_eq_ok_iff horderly).mpr ⟨p, rfl, hs, rfl, rfl⟩)
    exact (List.mem_filter.mp (hsub.subset hevent)).2

end Publisher

namespace EventId

/-- A text is an id exactly if it has three delimiters, and any other text is refused as such. The text
of an id is the text that it was read from, which is its segments with delimiters between them, so
that ids are the same exactly if their texts are. To want is a partial order: each id wants itself,
wants what the ids that it wants want, and two ids that want each other are the same; four stars want
every id. An id wants another one exactly if it wants all events that the other one wants, and exactly
if subscribing to it instead of the other never loses an event. Here an event may have any id: empty
segments and stars are among them. -/
theorem wanting_orders_ids :
    ((∀ s, (∃ id, parse s = .ok id) ↔ s.toList.count '|' = 3) ∧
      (∀ s, s.toList.count '|' ≠ 3 → parse s = .error (.misuse (.segmentCount s))) ∧
      (∀ s id, parse s = .ok id → id.text = s ∧
        id.receiver ++ "|" ++ id.component ++ "|" ++ id.operation ++ "|" ++ id.unique = s) ∧
      (∀ s t p q, parse s = .ok p → parse t = .ok q → (p = q ↔ s = t))) ∧
    ((∀ p : EventId, p.wants p = true) ∧
      (∀ p q r : EventId, p.wants q = true → q.wants r = true → p.wants r = true) ∧
      (∀ p q : EventId, p.wants q = true → q.wants p = true → p = q) ∧
      parse "*|*|*|*" = .ok all ∧ ∀ event, all.wants event = true) ∧
    (∀ p q : EventId,
      p.wants q = true ↔ ∀ event, q.wants event = true → p.wants event = true) ∧
    ∀ s t p q, parse s = .ok p → parse t = .ok q →
      (p.wants q = true ↔ ∀ retention operations events fewer more,
        (Publisher.reached (.new retention) operations).collected t events = .ok fewer →
        (Publisher.reached (.new retention) operations).collected s events = .ok more →
        fewer.Sublist more) := by
  refine ⟨⟨fun s => exists_parse_iff, fun s => parse_of_count_ne, fun s id h => ?_,
    fun s t p q hs ht => ?_⟩, ⟨wants_self, fun _ _ _ => wants_trans, fun _ _ => wants_antisymm, ?_,
    wants_all⟩, fun _ _ => wants_iff_forall, fun s t p q => Publisher.wants_iff_collected⟩
  · have htext := text_of_parse h
    exact ⟨htext, htext⟩
  · constructor
    · rintro rfl
      exact (text_of_parse hs).symm.trans (text_of_parse ht)
    · rintro rfl
      exact Except.ok.inj (hs.symm.trans ht)
  · exact parse_eq_ok_iff.mpr ⟨rfl, by decide⟩

end EventId
end BrokerRpc
