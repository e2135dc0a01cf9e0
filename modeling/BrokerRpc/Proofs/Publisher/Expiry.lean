import BrokerRpc.Proofs.Publisher.Protocol
import Mathlib.Data.List.Basic

/-! # Expiry

An event expires when the retention of its publisher has passed since its arrival, wherever it waits.
A purge drops what has expired and nothing else, in whatever order the times of arrival are, and
forgets the subscriptions that have ended.
-/
namespace BrokerRpc.Publisher

/-! ## What stays over a run -/

def Numbered (p : Publisher) : Prop :=
  p.subscriptions.keys = List.range p.subscriptions.length

theorem Numbered.distinct {p : Publisher} (h : Numbered p) : p.subscriptions.Distinct := by
  rw [Assoc.Distinct, h]
  exact List.nodup_range

theorem Numbered.of_keys_eq {p q : Publisher} (h : Numbered p)
    (hkeys : q.subscriptions.keys = p.subscriptions.keys) : Numbered q := by
  rw [Numbered, hkeys, length_of_keys_eq hkeys]
  exact h

theorem Numbered.enrol {p : Publisher} (h : Numbered p) (id : EventId) :
    Numbered (p.enrol id).2 := by
  have hlength : (p.enrol id).2.subscriptions.length = p.subscriptions.length + 1 := by
    simp [Publisher.enrol]
  rw [Numbered, keys_enrol, hlength, List.range_succ, h]

structure Lasts (p q : Publisher) : Prop where
  retention_eq : q.retention = p.retention
  numbered : Numbered p → Numbered q

namespace Lasts

theorem refl (p : Publisher) : Lasts p p := ⟨rfl, id⟩

theorem trans {p q r : Publisher} (h : Lasts p q) (h' : Lasts q r) : Lasts p r :=
  ⟨h'.retention_eq.trans h.retention_eq, fun hp => h'.numbered (h.numbered hp)⟩

theorem of_keys_eq {p q : Publisher} (hretention : q.retention = p.retention)
    (hkeys : q.subscriptions.keys = p.subscriptions.keys) : Lasts p q :=
  ⟨hretention, fun h => h.of_keys_eq hkeys⟩

end Lasts

theorem lasts_schedule (p : Publisher) (number : Nat) : Lasts p (p.schedule number) := by
  refine .of_keys_eq ?_ (keys_schedule p number)
  rcases schedule_cases p number with he | he <;> rw [he]
  rfl

theorem lasts_finish (p : Publisher) (number : Nat) : Lasts p (p.finishAll [number]).1 := by
  refine .of_keys_eq ?_ (keys_finishAll p [number])
  simp only [finishAll]
  split <;> rfl

theorem lasts_takeNext (p : Publisher) (number : Nat) : Lasts p (p.takeNext number).1 := by
  rcases takeNext_cases p number with ⟨_, ht⟩ | ⟨s, _, _, ht⟩ | ⟨s, event, rest, _, _, _, ht⟩
  all_goals rw [ht]
  · exact .of_keys_eq rfl rfl
  · exact .of_keys_eq rfl (keys_change p number fun _ => { s with draining := false })
  · exact .of_keys_eq rfl (keys_change p number _)

theorem lasts_failJob (p : Publisher) (number : Nat) (reason : String) :
    Lasts p (p.failJob number reason).1 := by
  rcases failJob_cases p number reason with ⟨_, hf⟩ | ⟨s, _, hf⟩
  all_goals rw [hf]
  · exact .of_keys_eq rfl rfl
  · exact .of_keys_eq rfl (keys_change p number fun _ => (s.fail (.subscriberFailed reason)).1)

namespace Busy

theorem lasts_carryOut (b : Busy) (next : Section) :
    Lasts b.publisher (b.carryOut next).publisher := by
  cases next with
  | enrol id => exact ⟨rfl, fun h => h.enrol id⟩
  | offer event number => exact .of_keys_eq rfl (keys_change _ _ _)
  | grant number n => exact .of_keys_eq rfl (keys_change _ _ _)
  | schedule number => exact lasts_schedule b.publisher number
  | cancel number => exact .of_keys_eq rfl (keys_change _ _ _)
  | finish number => exact lasts_finish b.publisher number
  | expire number cutoff => exact .of_keys_eq rfl (keys_change _ _ _)
  | take number =>
    have htaken := lasts_takeNext b.publisher number
    simp only [carryOut]
    split
    · split <;>
      · rename_i ht
        rwa [ht] at htaken
    · exact .refl _
  | fail number reason =>
    simp only [carryOut]
    split
    · exact lasts_failJob b.publisher number reason
    · exact .refl _
  | park _ | unregister _ | shut | forget _ | resume _ => exact .of_keys_eq rfl rfl

theorem lasts_run (b : Busy) (sections : List Section) :
    Lasts b.publisher (b.run sections).publisher := by
  induction sections generalizing b with
  | nil => exact .refl _
  | cons next rest ih => exact (lasts_carryOut b next).trans (ih _)

end Busy

theorem lasts_perform (p : Publisher) (operation : Operation) :
    Lasts p (perform p operation).after := by
  obtain ⟨sections, hsections⟩ := exists_sections_perform p operation
  have hrun := Busy.lasts_run ⟨p, [], []⟩ sections
  rwa [hsections] at hrun

theorem lasts_proceed (p : Publisher) (occurrences : List Occurrence) :
    Lasts p (p.proceed occurrences).1 := by
  induction occurrences generalizing p with
  | nil => exact .refl p
  | cons first rest ih =>
    refine Lasts.trans ?_ (ih _)
    cases first with
    | operation operation => exact lasts_perform p operation
    | failure number reason =>
      change Lasts p (if number ∈ p.jobs then p.failJob number reason else (p, [])).1
      split
      · exact lasts_failJob p number reason
      · exact .refl p

/-! ## What a purge drops -/

/-- Whether an event has expired: it arrived before `now` less the retention, or where the calendar
does not reach back so far, before its earliest time. -/
def isExpired (p : Publisher) (now : Timestamp) (event : Event) : Bool :=
  let bound := now - p.retention.nanos
  event.receivedAt < if bound < earliest then earliest else bound

theorem cutoff_eq (p : Publisher) (now : Timestamp) : p.cutoff now =
    if now - p.retention.nanos < earliest then earliest else now - p.retention.nanos := by
  have hmax : ∀ a b : Int, max a b = if a < b then b else a := fun a b => by omega
  exact hmax _ _

theorem isExpired_eq (p : Publisher) (now : Timestamp) (event : Event) :
    p.isExpired now event = !decide (p.cutoff now ≤ event.receivedAt) := by
  rw [cutoff_eq, isExpired, ← decide_not, decide_eq_decide, Int.not_le]

theorem filter_cutoff (p : Publisher) (now : Timestamp) (events : List Event) :
    (events.filter fun event => p.cutoff now ≤ event.receivedAt) =
      events.filter fun event => !p.isExpired now event := by
  refine List.filter_congr fun event _ => ?_
  rw [isExpired_eq, Bool.not_not]

theorem isCancelled_of_some {p : Publisher} {number : Nat} {s : Subscription}
    (hs : p.subscriptions.get? number = some s) : p.isCancelled number = s.cancelled := by
  simp only [isCancelled, hs]

/-- The subscriptions that a purge does not forget are those that go on. -/
theorem mem_live_iff {p : Publisher} (h : Orderly p) (number : Nat) :
    number ∈ p.live.values ↔ p.isCancelled number = false := by
  constructor
  · intro hmem
    obtain ⟨entry, hentry, rfl⟩ := List.mem_map.mp hmem
    simpa using (List.mem_filter.mp hentry).2
  · intro hlive
    obtain ⟨queue, hq⟩ := isCancelled_eq_false_iff.mp hlive
    obtain ⟨entry, hentry, rfl⟩ := List.mem_map.mp (h.registered number queue hq)
    exact List.mem_map_of_mem (List.mem_filter.mpr ⟨hentry, by simp [hlive]⟩)

/-- A purge takes from each subscription that goes on what has expired, and nothing else. -/
theorem get?_purge_of_orderly {p : Publisher} (h : Orderly p) (now : Timestamp) (number : Nat) :
    (p.purge now).subscriptions.get? number = (p.subscriptions.get? number).map fun s =>
      if s.cancelled then s
      else { s with backlog := s.backlog.filter fun event => !p.isExpired now event } := by
  rw [get?_purge]
  cases hs : p.subscriptions.get? number with
  | none => rfl
  | some s =>
    have hlive := mem_live_iff h number
    rw [isCancelled_of_some hs] at hlive
    cases hc : s.cancelled with
    | true => simp [hlive, hc]
    | false => simp [hlive, hc, Subscription.expire, filter_cutoff]

theorem isCancelled_purge (p : Publisher) (now : Timestamp) (number : Nat) :
    (p.purge now).isCancelled number = p.isCancelled number := by
  unfold isCancelled
  rw [get?_purge]
  cases p.subscriptions.get? number with
  | none => rfl
  | some s =>
    simp only [Option.map_some]
    split <;> rfl

/-! ## How much a purge drops -/

def backlog (p : Publisher) (number : Nat) : List Event :=
  match p.subscriptions.get? number with
  | some s => s.backlog
  | none => []

def queued (p : Publisher) : List Event :=
  (p.subscriptions.filter fun entry => !entry.2.cancelled).flatMap fun entry => entry.2.backlog

theorem waiting_eq (p : Publisher) (numbers : List Nat) :
    p.waiting numbers = (p.unclaimed ++ numbers.flatMap p.backlog).length := by
  rw [List.length_append]
  rfl

theorem backlog_purge {p : Publisher} (h : Orderly p) (now : Timestamp) {number : Nat}
    (hlive : number ∈ p.live.values) :
    (p.purge now).backlog number =
      (p.backlog number).filter fun event => !p.isExpired now event := by
  unfold backlog
  rw [get?_purge_of_orderly h]
  cases hs : p.subscriptions.get? number with
  | none => rfl
  | some s =>
    have hgoes := (mem_live_iff h number).mp hlive
    rw [isCancelled_of_some hs] at hgoes
    simp [hgoes]

/-- Each subscription that goes on is registered once, so that its backlog is counted once. -/
theorem live_backlogs_perm {p : Publisher} (h : Orderly p) (hnumbered : Numbered p) :
    (p.live.values.flatMap p.backlog).Perm p.queued := by
  have hdistinct := hnumbered.distinct
  have hbacklogs : p.queued =
      (Assoc.keys (p.subscriptions.filter fun entry => !entry.2.cancelled)).flatMap p.backlog := by
    rw [queued, Assoc.keys, List.flatMap_map]
    refine List.flatMap_congr fun entry hentry => ?_
    have hfound : p.subscriptions.get? entry.1 = some entry.2 :=
      (Assoc.mem_iff_get? hdistinct).mp (List.mem_filter.mp hentry).1
    rw [backlog, hfound]
  rw [hbacklogs]
  -- neither list of numbers has repetitions, so that it is enough that they have the same members
  refine List.Perm.flatMap_right _ ((List.perm_ext_iff_of_nodup ?_ ?_).mpr fun number => ?_)
  · exact (List.filter_sublist.map _).nodup h.registered_nodup
  · exact (List.filter_sublist.map _).nodup hdistinct
  · rw [mem_live_iff h]
    constructor
    · intro hlive
      obtain ⟨⟨id, events⟩, hq⟩ := isCancelled_eq_false_iff.mp hlive
      obtain ⟨s, hs, hc, _, _⟩ := queue?_eq_some_iff.mp hq
      refine List.mem_map.mpr ⟨(number, s), List.mem_filter.mpr ⟨?_, by simp [hc]⟩, rfl⟩
      exact (Assoc.mem_iff_get? hdistinct).mpr hs
    · intro hmem
      obtain ⟨entry, hentry, rfl⟩ := List.mem_map.mp hmem
      obtain ⟨hstored, hc⟩ := List.mem_filter.mp hentry
      rw [isCancelled_of_some ((Assoc.mem_iff_get? hdistinct).mp hstored)]
      simpa using hc

theorem purgeCount_eq {p : Publisher} (h : Orderly p) (hnumbered : Numbered p) (now : Timestamp) :
    p.purgeCount now = ((p.unclaimed ++ p.queued).filter (p.isExpired now)).length := by
  -- the count is a difference of lengths, over the registered numbers rather than the subscriptions
  let all := p.unclaimed ++ p.live.values.flatMap p.backlog
  have hleft : (p.purge now).waiting p.live.values =
      (all.filter fun event => !p.isExpired now event).length := by
    rw [waiting_eq, List.filter_append, List.filter_flatMap]
    congr 2
    · exact filter_cutoff p now p.unclaimed
    · exact List.flatMap_congr fun number hmem => backlog_purge h now hmem
  have hsplit := List.length_eq_length_filter_add (l := all) (p.isExpired now)
  have hperm : (all.filter (p.isExpired now)).Perm
      ((p.unclaimed ++ p.queued).filter (p.isExpired now)) :=
    ((live_backlogs_perm h hnumbered).append_left p.unclaimed).filter _
  rw [purgeCount, waiting_eq, hleft, ← hperm.length_eq]
  change all.length - _ = _
  omega

/-! ## A second purge -/

theorem cutoff_sub_le (p : Publisher) (now : Timestamp) (back : Nat) :
    p.cutoff (now - back) ≤ p.cutoff now := by
  have hback : now - back - p.retention.nanos ≤ now - p.retention.nanos :=
    Int.sub_le_sub_right (Int.sub_le_self now (Int.natCast_nonneg back)) _
  exact Int.max_le.mpr ⟨Int.le_trans hback (Int.le_max_left _ _), Int.le_max_right _ _⟩

theorem filter_filter_of_le {cutoff earlier : Timestamp} (h : earlier ≤ cutoff)
    (events : List Event) :
    ((events.filter fun event => cutoff ≤ event.receivedAt).filter
      fun event => earlier ≤ event.receivedAt) =
        events.filter fun event => cutoff ≤ event.receivedAt := by
  refine List.filter_eq_self.mpr fun event hmem => ?_
  have hkept : cutoff ≤ event.receivedAt := by simpa using (List.mem_filter.mp hmem).2
  exact decide_eq_true (Int.le_trans h hkept)

/-- Nothing is left to a purge that comes after another one, not even with an earlier time. -/
theorem purge_purge (p : Publisher) (now : Timestamp) (back : Nat) :
    (p.purge now).purge (now - back) = p.purge now := by
  have hle := cutoff_sub_le p now back
  -- the subscriptions that the second purge expires are those that the first one expired
  have hlive : (p.purge now).live = p.live := by
    refine List.filter_eq_self.mpr fun entry hmem => ?_
    rw [isCancelled_purge]
    exact (List.mem_filter.mp hmem).2
  have hexpire : ∀ s : Subscription,
      (s.expire (p.cutoff now)).expire (p.cutoff (now - back)) = s.expire (p.cutoff now) := by
    intro s
    simp only [Subscription.expire, filter_filter_of_le hle]
  have hsubscriptions : ((p.purge now).subscriptions.map fun entry =>
      if entry.1 ∈ p.live.values then (entry.1, entry.2.expire (p.cutoff (now - back))) else entry) =
        (p.purge now).subscriptions := by
    rw [purge, List.map_map]
    refine List.map_congr_left fun entry _ => ?_
    by_cases hmem : entry.1 ∈ p.live.values <;> simp [hmem, hexpire]
  change ({ p.purge now with
    unclaimed := (p.purge now).unclaimed.filter fun event => p.cutoff (now - back) ≤ event.receivedAt
    registered := (p.purge now).live
    subscriptions := (p.purge now).subscriptions.map fun entry =>
      if entry.1 ∈ (p.purge now).live.values then
        (entry.1, entry.2.expire (p.cutoff (now - back)))
      else entry } : Publisher) = p.purge now
  rw [hlive, hsubscriptions]
  simp only [purge, filter_filter_of_le hle]

/-- In every state that a publisher can reach a purge drops exactly what has expired, from the
unclaimed events and from the backlog of each subscription that goes on, and tells how many events
that are. What is left stays in order, and nothing else about a subscription changes. Exactly the
subscriptions that have ended are forgotten. A second purge at the same time or an earlier one drops
nothing. -/
theorem purge_drops_expired (retention : Duration) (occurrences : List Occurrence)
    (now : Timestamp) :
    let p := ((new retention).proceed occurrences).1
    let q := p.purge now
    p.retention = (new retention).retention ∧
    q.unclaimed = (p.unclaimed.filter fun event => !p.isExpired now event) ∧
    (∀ number, q.subscriptions.get? number = (p.subscriptions.get? number).map fun s =>
      if s.cancelled then s
      else { s with backlog := s.backlog.filter fun event => !p.isExpired now event }) ∧
    p.purgeCount now = ((p.unclaimed ++ p.queued).filter (p.isExpired now)).length ∧
    q.registered = (p.registered.filter fun entry => !p.isCancelled entry.2) ∧
    (∀ number, number ∈ q.registered.values ↔
      ∃ s, p.subscriptions.get? number = some s ∧ s.cancelled = false) ∧
    (q.retention = p.retention ∧ q.jobs = p.jobs ∧ q.closed = p.closed) ∧
    ∀ back : Nat, q.purge (now - back) = q ∧ q.purgeCount (now - back) = 0 := by
  intro p q
  have horderly : Orderly p := ((consistent_new retention).proceed occurrences).orderly
  have hlasts := lasts_proceed (new retention) occurrences
  have hnumbered : Numbered p := hlasts.numbered rfl
  refine ⟨hlasts.retention_eq, filter_cutoff p now p.unclaimed, get?_purge_of_orderly horderly now,
    purgeCount_eq horderly hnumbered now, rfl, fun number => ?_, ⟨rfl, rfl, rfl⟩, fun back => ?_⟩
  · refine (mem_live_iff horderly number).trans ?_
    unfold isCancelled
    cases p.subscriptions.get? number <;> simp
  · have hsame : q.purge (now - back) = q := purge_purge p now back
    refine ⟨hsame, ?_⟩
    rw [purgeCount, hsame, Nat.sub_self]

/-- Events wait behind younger ones, and one of two subscriptions has ended. -/
example :
    let id : EventId := ⟨"peer", "editor", "saved", "*"⟩
    let event (receivedAt : Timestamp) : Event := ⟨⟨"peer", "editor", "saved", "7"⟩, .null, receivedAt⟩
    let p : Publisher :=
      { retention := ⟨10⟩, unclaimed := [event 7, event 2, event 5]
        subscriptions := [(0, { id, backlog := [event 9, event 4] }), (1, { id, cancelled := true })]
        registered := [("peer|editor|saved|*", 0), ("peer|*|saved|*", 1)] }
    p.purgeCount 15 = 2 ∧ (p.purge 15).unclaimed = [event 7, event 5] ∧
      (p.purge 15).backlog 0 = [event 9] ∧ (p.purge 15).registered.values = [0] := by decide

end BrokerRpc.Publisher
