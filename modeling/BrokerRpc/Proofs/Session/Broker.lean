import BrokerRpc.Session.Basic
import Mathlib.Data.List.Nodup

/-! # What a broker makes of frames

To a broker a connection is the frames that arrive on it. A subscription enters its table under a
token, and the end of a subscription takes that token out again.
-/
namespace BrokerRpc.Broker

/-- Destinations and the tokens under which they are subscribed, in the order of subscription. -/
abbrev Table := List (String × String)

def enter (table : Table) (m : Message) : Table :=
  match m.command, m.field? .destination, m.field? .id with
  | .subscribe, some destination, some token => table ++ [(destination, token)]
  | .unsubscribe, _, some token => table.filter fun entry => entry.2 ≠ token
  | _, _, _ => table

def replay (frames : List Message) : Table := frames.foldl enter []

def subscribes (token : String) (m : Message) : Bool :=
  m.command = .subscribe && m.field? .id = some token

/-- Each end of a subscription names a token that was subscribed before. -/
def Announced (frames : List Message) : Prop :=
  ∀ earlier m later, frames = earlier ++ m :: later → m.command = .unsubscribe →
    ∃ token, m.field? .id = some token ∧ earlier.any (subscribes token) = true

def Plain (m : Message) : Prop := m.command ≠ .subscribe ∧ m.command ≠ .unsubscribe

def tokens (channels : Assoc String Channel) : Table := channels.map fun e => (e.1, e.2.token)

/-- After the frames a broker knows exactly the channels, and each was subscribed once. -/
structure Knows (frames : List Message) (channels : Assoc String Channel) : Prop where
  replay_eq : replay frames = tokens channels
  once : ∀ e ∈ channels, frames.countP (subscribes e.2.token) = 1

/-! ## Frames of a session -/

theorem enter_of_plain {m : Message} (h : Plain m) (table : Table) : enter table m = table := by
  unfold enter
  split
  · rename_i hc _ _
    exact absurd hc h.1
  · rename_i hc _
    exact absurd hc h.2
  · rfl

theorem subscribes_of_plain {m : Message} (h : Plain m) (token : String) :
    subscribes token m = false := by
  simp [subscribes, h.1]

theorem fields_subscribeFrame (destination token : String) :
    (Session.subscribeFrame destination token).field? .destination = some destination ∧
      (Session.subscribeFrame destination token).field? .id = some token := by
  simp [Session.subscribeFrame, Message.field?, Message.header?, Message.withField,
    Message.withHeader, Assoc.get?_put, HeaderName.text]

theorem field_unsubscribeFrame (token : String) :
    (Session.unsubscribeFrame token).field? .id = some token := by
  simp [Session.unsubscribeFrame, Message.field?, Message.header?, Message.withField,
    Message.withHeader, Assoc.get?_put]

theorem enter_subscribeFrame (table : Table) (destination token : String) :
    enter table (Session.subscribeFrame destination token) = table ++ [(destination, token)] := by
  obtain ⟨hdestination, hid⟩ := fields_subscribeFrame destination token
  have hcommand : (Session.subscribeFrame destination token).command = .subscribe := rfl
  simp only [enter, hcommand, hdestination, hid]

theorem enter_unsubscribeFrame (table : Table) (token : String) :
    enter table (Session.unsubscribeFrame token) = table.filter fun entry => entry.2 ≠ token := by
  have hcommand : (Session.unsubscribeFrame token).command = .unsubscribe := rfl
  simp only [enter, hcommand, field_unsubscribeFrame]

theorem subscribes_subscribeFrame (destination token other : String) :
    subscribes other (Session.subscribeFrame destination token) = decide (token = other) := by
  have hcommand : (Session.subscribeFrame destination token).command = .subscribe := rfl
  simp [subscribes, hcommand, (fields_subscribeFrame destination token).2]

theorem subscribes_unsubscribeFrame (token other : String) :
    subscribes other (Session.unsubscribeFrame token) = false := rfl

/-! ## More frames -/

theorem replay_append (frames more : List Message) :
    replay (frames ++ more) = more.foldl enter (replay frames) := List.foldl_append

theorem foldl_enter_of_plain {frames : List Message} (h : ∀ m ∈ frames, Plain m) (table : Table) :
    frames.foldl enter table = table := by
  induction frames with
  | nil => rfl
  | cons m rest ih =>
    rw [List.foldl_cons, enter_of_plain (h m List.mem_cons_self)]
    exact ih fun m' hm' => h m' (List.mem_cons_of_mem _ hm')

theorem foldl_enter_subscribeFrames (channels : Assoc String Channel) (table : Table) :
    (channels.map fun e => Session.subscribeFrame e.1 e.2.token).foldl enter table =
      table ++ tokens channels := by
  induction channels generalizing table with
  | nil => exact (List.append_nil _).symm
  | cons e rest ih =>
    rw [List.map_cons, List.foldl_cons, enter_subscribeFrame, ih, List.append_assoc]
    rfl

theorem countP_of_plain {frames : List Message} (h : ∀ m ∈ frames, Plain m) (token : String) :
    frames.countP (subscribes token) = 0 :=
  List.countP_eq_zero.mpr fun m hm => by simp [subscribes_of_plain (h m hm)]

theorem countP_subscribeFrames (channels : Assoc String Channel) (token : String) :
    (channels.map fun e => Session.subscribeFrame e.1 e.2.token).countP (subscribes token) =
      (channels.map fun e => e.2.token).count token := by
  induction channels with
  | nil => rfl
  | cons e rest ih =>
    simp only [List.map_cons, List.countP_cons, List.count_cons, ih, subscribes_subscribeFrame,
      decide_eq_true_eq, beq_iff_eq]

theorem announced_nil : Announced [] := by
  intro earlier m later h
  cases earlier <;> cases h

theorem announced_append {frames more : List Message} (h : Announced frames)
    (hmore : ∀ m ∈ more, m.command ≠ .unsubscribe) : Announced (frames ++ more) := by
  intro earlier m later heq hcommand
  rcases List.append_eq_append_iff.mp heq with ⟨between, rfl, hrest⟩ | ⟨between, hframes, hrest⟩
  · have hmem : m ∈ more := by rw [hrest]; simp
    exact absurd hcommand (hmore m hmem)
  · cases between with
    | nil =>
      have hmem : m ∈ more := by rw [← List.nil_append more, ← hrest]; simp
      exact absurd hcommand (hmore m hmem)
    | cons first between =>
      obtain ⟨rfl, rfl⟩ := List.cons.inj hrest
      exact h earlier m between hframes hcommand

theorem announced_unsubscribeFrame {frames : List Message} (h : Announced frames) {token : String}
    (hany : frames.any (subscribes token) = true) :
    Announced (frames ++ [Session.unsubscribeFrame token]) := by
  intro earlier m later heq hcommand
  rcases List.eq_nil_or_concat later with rfl | ⟨rest, last, rfl⟩
  · obtain ⟨rfl, hlast⟩ := List.append_inj' heq rfl
    obtain rfl := List.singleton_inj.mp hlast
    exact ⟨token, field_unsubscribeFrame token, hany⟩
  · rw [List.concat_eq_append, ← List.cons_append, ← List.append_assoc] at heq
    exact h earlier m rest (List.append_inj' heq rfl).1 hcommand

namespace Knows

variable {frames : List Message} {channels : Assoc String Channel}

/-- A broker that knew nothing learns the channels from their subscriptions. -/
theorem of_plain (h : ∀ m ∈ frames, Plain m) (hnodup : (channels.map fun e => e.2.token).Nodup)
    {parked : List Message} (hparked : ∀ m ∈ parked, Plain m) :
    Knows (frames ++ ((channels.map fun e => Session.subscribeFrame e.1 e.2.token) ++ parked))
      channels := by
  constructor
  · have hnothing : replay frames = [] := foldl_enter_of_plain h []
    rw [replay_append, List.foldl_append, hnothing, foldl_enter_subscribeFrames,
      foldl_enter_of_plain hparked, List.nil_append]
  · intro e he
    have hmem : e.2.token ∈ channels.map fun e => e.2.token := List.mem_map.mpr ⟨e, he, rfl⟩
    rw [List.countP_append, List.countP_append, countP_of_plain h, countP_of_plain hparked,
      countP_subscribeFrames, hnodup.count, if_pos hmem]

theorem append_plain (h : Knows frames channels) {m : Message} (hm : Plain m) :
    Knows (frames ++ [m]) channels := by
  constructor
  · rw [replay_append, List.foldl_cons, List.foldl_nil, enter_of_plain hm, h.replay_eq]
  · intro e he
    simp [List.countP_append, h.once e he, subscribes_of_plain hm]

theorem append_subscribe (h : Knows frames channels) {destination : String} {channel : Channel}
    (hnew : frames.countP (subscribes channel.token) = 0)
    (hother : ∀ e ∈ channels, e.2.token ≠ channel.token) :
    Knows (frames ++ [Session.subscribeFrame destination channel.token])
      (channels ++ [(destination, channel)]) := by
  constructor
  · rw [replay_append, List.foldl_cons, List.foldl_nil, enter_subscribeFrame, h.replay_eq]
    simp [tokens]
  · intro e he
    rw [List.countP_append, List.countP_singleton, subscribes_subscribeFrame]
    rcases List.mem_append.mp he with he | he
    · have hne : channel.token ≠ e.2.token := fun e' => hother e he e'.symm
      simp [h.once e he, hne]
    · obtain rfl := List.mem_singleton.mp he
      simp [hnew]

theorem append_unsubscribe (h : Knows frames channels) (hdistinct : channels.Distinct)
    (hnodup : (channels.map fun e => e.2.token).Nodup) {destination : String} {channel : Channel}
    (hget : channels.get? destination = some channel) :
    Knows (frames ++ [Session.unsubscribeFrame channel.token]) (channels.erase destination) := by
  have hsame : ∀ e ∈ channels, (e.2.token = channel.token ↔ e.1 = destination) := by
    intro e he
    refine ⟨fun htoken => ?_, fun hdestination => ?_⟩
    · have hthere : (destination, channel) ∈ channels := (Assoc.mem_iff_get? hdistinct).mpr hget
      rw [List.inj_on_of_nodup_map hnodup he hthere htoken]
    · have hfound : channels.get? destination = some e.2 :=
        (Assoc.mem_iff_get? hdistinct).mp (hdestination ▸ he)
      rw [hget, Option.some.injEq] at hfound
      rw [hfound]
  constructor
  · rw [replay_append, List.foldl_cons, List.foldl_nil, enter_unsubscribeFrame, h.replay_eq,
      tokens, tokens, List.filter_map]
    refine congrArg (List.map _) (List.filter_congr fun e he => ?_)
    simp [hsame e he]
  · intro e he
    have hmem : e ∈ channels := (List.mem_filter.mp he).1
    simp [List.countP_append, h.once e hmem, subscribes_unsubscribeFrame]

end Knows
end BrokerRpc.Broker
