import BrokerRpc.Proofs.Publisher.Expiry
import BrokerRpc.Proofs.Text.Numeral
import BrokerRpc.Settings.Sources
import BrokerRpc.Shared.Instances

/-! # How long events are kept

Settings give a retention in hours, a publisher takes it in nanoseconds, and a purge looks back from
its own time. Each of the three has a range: the seconds are a word, a retention that is too long for
the publisher becomes 36500 days, and a purge looks back to the earliest time at most. The last two
cut no promise short, but hours whose seconds are no word leave no retention at all.
-/
namespace BrokerRpc

/-! ## A publisher and its purges -/

namespace Publisher

/-- A publisher with the given retention, whatever has happened to it, purges no event that came less
than the given time before. No event comes before the earliest time. -/
def Spares (retention age : Duration) : Prop :=
  ∀ (occurrences : List Occurrence) (now : Timestamp) (event : Event),
    earliest ≤ event.receivedAt → now < event.receivedAt + age.nanos →
    let p := ((new retention).proceed occurrences).1
    (event ∈ p.unclaimed → event ∈ (p.purge now).unclaimed) ∧
    ∀ number, event ∈ p.backlog number → event ∈ (p.purge now).backlog number

theorem not_isExpired_of_young {p : Publisher} {now : Timestamp} {event : Event}
    (hearliest : earliest ≤ event.receivedAt)
    (hyoung : now ≤ event.receivedAt + p.retention.nanos) : p.isExpired now event = false := by
  have hcutoff : p.cutoff now ≤ event.receivedAt :=
    Int.max_le.mpr ⟨Int.sub_right_le_of_le_add hyoung, hearliest⟩
  rw [isExpired_eq, decide_eq_true hcutoff, Bool.not_true]

theorem mem_backlog_purge {p : Publisher} (h : Orderly p) {now : Timestamp} {event : Event}
    (hexpired : p.isExpired now event = false) {number : Nat} (hmem : event ∈ p.backlog number) :
    event ∈ (p.purge now).backlog number := by
  unfold backlog at hmem ⊢
  rw [get?_purge_of_orderly h]
  cases hs : p.subscriptions.get? number with
  | none => simp [hs] at hmem
  | some s =>
    have hwaits : event ∈ s.backlog := by simpa [hs] using hmem
    by_cases hc : s.cancelled <;> simp [hc, hwaits, hexpired]

theorem unclaimed_purge_lonely (retention : Duration) (event : Event) (hevent : event.receivedAt = 0)
    (now : Timestamp) (hlate : (new retention).retention.nanos < now) :
    (((new retention).proceed [.operation (.publish event)]).1.purge now).unclaimed = [] := by
  have hcutoff : 0 < (new retention).cutoff now :=
    Int.lt_of_lt_of_le (Int.sub_pos.mpr hlate) (Int.le_max_left _ _)
  have hkept : ([event].filter fun event => (new retention).cutoff now ≤ event.receivedAt) = [] := by
    simp [hevent, hcutoff]
  exact hkept

/-- The retention of a publisher is exactly how long it spares events. -/
theorem spares_iff (retention age : Duration) :
    Spares retention age ↔ age.nanos ≤ (new retention).retention.nanos + 1 := by
  constructor
  · intro hspares
    by_contra hlonger
    let event : Event := ⟨⟨"", "", "", ""⟩, .null, 0⟩
    let now : Timestamp := ((new retention).retention.nanos + 1 : Nat)
    have hyoung : now < event.receivedAt + age.nanos := by
      rw [show event.receivedAt = 0 from rfl, Int.zero_add]
      exact Int.ofNat_lt.mpr (Nat.lt_of_not_le hlonger)
    have hspared := (hspares [.operation (.publish event)] now event (by decide) hyoung).1
      (List.mem_singleton_self event)
    rw [unclaimed_purge_lonely retention event rfl now (Int.ofNat_lt.mpr (Nat.lt_succ_self _))]
      at hspared
    cases hspared
  · intro hle occurrences now event hearliest hyoung p
    have horderly : Orderly p := ((consistent_new retention).proceed occurrences).orderly
    have hexpired : p.isExpired now event = false := by
      refine not_isExpired_of_young hearliest (Int.le_of_lt_add_one (Int.lt_of_lt_of_le hyoung ?_))
      rw [(lasts_proceed (new retention) occurrences).retention_eq, Int.add_assoc]
      exact Int.add_le_add_left (Int.ofNat_le.mpr hle) _
    refine ⟨fun hmem => ?_, fun number hmem => mem_backlog_purge horderly hexpired hmem⟩
    change event ∈ p.unclaimed.filter fun event => p.cutoff now ≤ event.receivedAt
    rw [filter_cutoff]
    exact List.mem_filter.mpr ⟨hmem, by simp [hexpired]⟩

/-- Up to the retention that stands for a longer one, whole seconds are spared exactly if the
publisher is told to keep events for as many. -/
theorem spares_ofSeconds_iff (kept : Nat) {age : Nat} (hage : age ≤ 36500 * 24 * 60 * 60) :
    Spares (.ofSeconds kept) (.ofSeconds age) ↔ age ≤ kept := by
  have hretention : (new (.ofSeconds kept)).retention =
      if kept * 1000000000 ≤ longestRetention then .ofSeconds kept else cappedRetention := rfl
  rw [spares_iff, hretention]
  by_cases hfits : kept * 1000000000 ≤ longestRetention
  · rw [if_pos hfits]
    simp only [Duration.ofSeconds]
    omega
  · rw [if_neg hfits]
    simp only [Duration.ofSeconds, cappedRetention]
    rw [longestRetention] at hfits
    omega

end Publisher

/-! ## Settings and their publisher -/

namespace Settings

def hoursAlone (hours : Nat) : Environment := fun name =>
  if name = Setting.eventRetentionHours.variableName then some (Text.decimal hours) else none

theorem load_of_override {env : Environment} {s : Settings}
    (h : standard.overrideFrom env = (s, none)) : load none none env = .ok s := by
  simp only [load, pure_bind, h]
  rfl

theorem load_hoursAlone {hours : Nat} (h : hours < Text.wordBound) :
    load none none (hoursAlone hours) = .ok { standard with eventRetentionHours := hours } := by
  have hread : Setting.eventRetentionHours.content.read? (Text.decimal hours) = some hours :=
    Text.below?_trim_decimal h
  refine load_of_override ?_
  simp [overrideFrom, overrideEach, Setting.all, Setting.variableName, hoursAlone, hread, set]

theorem eventRetention_eq (s : Settings) : s.eventRetention =
    if s.eventRetentionHours * 3600 < Text.wordBound then
      .ok (.ofSeconds (s.eventRetentionHours * 3600))
    else .error .overflow := by
  unfold eventRetention eventRetentionSeconds wordProduct
  by_cases hminutes : s.eventRetentionHours * 60 < Text.wordBound
  · rw [if_pos hminutes]
    change Except.map _ (if s.eventRetentionHours * 60 * 60 < _ then _ else _) = _
    rw [Nat.mul_assoc]
    split <;> rfl
  · have hseconds : ¬ s.eventRetentionHours * 3600 < Text.wordBound := by omega
    rw [if_neg hminutes, if_neg hseconds]
    rfl

theorem eventRetention_eq_ok_iff {s : Settings} {retention : Duration} :
    s.eventRetention = .ok retention ↔
      s.eventRetentionHours * 3600 < Text.wordBound ∧
        retention = .ofSeconds (s.eventRetentionHours * 3600) := by
  rw [eventRetention_eq]
  split
  · rename_i hword
    simp [hword, eq_comm]
  · rename_i hword
    simp [hword]

/-- A client comes only from settings whose retention can be computed. -/
theorem exists_eventRetention_of_openClient {builds : Instances.Builds}
    {anchor : String → Except Failure Unit} {s : Settings} {token : String} {x : Instances}
    {client : OpenedClient} (h : (x.openClient builds anchor s token).2 = .ok (.ok client)) :
    ∃ retention, s.eventRetention = .ok retention := by
  unfold Instances.openClient Instances.openOn at h
  split at h
  · cases h
  split at h
  · cases h
  split at h
  · cases h
  · rename_i retention hretention
    exact ⟨retention, hretention⟩

/-- Each word of hours is accepted, but there is a retention exactly if their seconds are a word.
Then it is as long as was asked for, fewer hours give no longer one, and a publisher with it spares
what came within these hours, or within 36500 days where those are fewer. Otherwise the computation
breaks down, and no client is opened. -/
theorem retention_honoured_iff (s : Settings) :
    let asked := s.eventRetentionHours * 3600
    let promised := min asked (36500 * 24 * 60 * 60)
    (s.eventRetentionHours < Text.wordBound → load none none (hoursAlone s.eventRetentionHours) =
      .ok { standard with eventRetentionHours := s.eventRetentionHours }) ∧
    (s.eventRetention = .ok (.ofSeconds asked) ↔ asked < Text.wordBound) ∧
    (s.eventRetention = .error .overflow ↔ Text.wordBound ≤ asked) ∧
    (∀ retention, s.eventRetention = .ok retention →
      (∀ t : Settings, t.eventRetentionHours ≤ s.eventRetentionHours →
        ∃ shorter, t.eventRetention = .ok shorter ∧ shorter.nanos ≤ retention.nanos) ∧
      Publisher.Spares retention (.ofSeconds promised)) ∧
    ∀ (x : Instances) builds anchor token client,
      (x.openClient builds anchor s token).2 = .ok (.ok client) → asked < Text.wordBound := by
  intro asked promised
  refine ⟨load_hoursAlone, ?_, ?_, fun retention h => ?_, fun x builds anchor token client h => ?_⟩
  · rw [eventRetention_eq_ok_iff]
    exact and_iff_left rfl
  · rw [eventRetention_eq, ← Nat.not_lt]
    split
    · rename_i hword
      simp [asked, hword]
    · rename_i hword
      simp [asked, hword]
  · obtain ⟨hword, rfl⟩ := eventRetention_eq_ok_iff.mp h
    refine ⟨fun t hle => ?_, ?_⟩
    · have hseconds := Nat.mul_le_mul_right 3600 hle
      exact ⟨_, eventRetention_eq_ok_iff.mpr ⟨hseconds.trans_lt hword, rfl⟩,
        Nat.mul_le_mul_right _ hseconds⟩
    · exact (Publisher.spares_ofSeconds_iff _ (Nat.min_le_right _ _)).mpr (Nat.min_le_left _ _)
  · obtain ⟨retention, hretention⟩ := exists_eventRetention_of_openClient h
    exact (eventRetention_eq_ok_iff.mp hretention).1

/-- The hours are those of 2 ^ 64 seconds and a little more. They are accepted, and then there is
neither a retention nor a client. -/
theorem no_retention_of_many_hours :
    let s : Settings := { standard with eventRetentionHours := 5124095576030432 }
    load none none (hoursAlone 5124095576030432) = .ok s ∧
    s.eventRetention = .error .overflow ∧
    s.eventRetention ≠ .ok (.ofSeconds (5124095576030432 * 3600)) ∧
    standard.eventRetention = .ok (.ofSeconds (3 * 3600)) ∧
    (({} : Instances).openClient {} (fun _ => .ok ()) s "token").2 = .error .overflow := by
  intro s
  exact ⟨load_hoursAlone (by decide), by decide, by decide, by decide, by decide +kernel⟩

end Settings
end BrokerRpc
