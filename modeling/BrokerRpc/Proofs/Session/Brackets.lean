import BrokerRpc.Session.Basic
import Mathlib.Data.List.Induction

/-! # Transactions as brackets

On a connection a transaction is open from the frame that begins it to the frame that commits it. The
frames are well bracketed if every frame inside a transaction finds it open, and no transaction begins
while one is open.
-/
namespace BrokerRpc.Broker

def begins (t : String) (m : Message) : Bool :=
  m.command = .begin && m.field? .transaction = some t

def commits (t : String) (m : Message) : Bool :=
  m.command = .commit && m.field? .transaction = some t

/-- Whether a frame is sent inside a transaction, or ends it. -/
def carries (t : String) (m : Message) : Bool :=
  (m.command = .send || m.command = .commit) && m.field? .transaction = some t

def Open (t : String) (frames : List Message) : Prop :=
  ∃ earlier m later, frames = earlier ++ m :: later ∧ begins t m = true ∧
    ∀ f ∈ later, commits t f = false

def Bracketed (frames : List Message) : Prop :=
  ∀ earlier m later, frames = earlier ++ m :: later →
    (∀ t, carries t m = true → Open t earlier) ∧ (m.command = .begin → ∀ t, ¬ Open t earlier)

/-- The frames are well bracketed, and the given transaction is the open one. -/
structure Tracks (frames : List Message) (transaction : Option String) : Prop where
  bracketed : Bracketed frames
  open_iff : ∀ t, Open t frames ↔ transaction = some t

def Outside (m : Message) : Prop :=
  m.command ≠ .begin ∧ m.command ≠ .commit ∧ ∀ t, carries t m = false

theorem not_open_nil (t : String) : ¬ Open t [] := by
  rintro ⟨earlier, m, later, heq, _⟩
  cases earlier <;> cases heq

theorem open_append_singleton {t : String} {frames : List Message} {m : Message} :
    Open t (frames ++ [m]) ↔ begins t m = true ∨ Open t frames ∧ commits t m = false := by
  constructor
  · rintro ⟨earlier, first, later, heq, hbegins, hlater⟩
    rcases List.eq_nil_or_concat later with rfl | ⟨rest, last, rfl⟩
    · obtain ⟨_, hlast⟩ := List.append_inj' heq rfl
      obtain rfl := List.singleton_inj.mp hlast
      exact Or.inl hbegins
    · rw [List.concat_eq_append, ← List.cons_append, ← List.append_assoc] at heq
      obtain ⟨hframes, hlast⟩ := List.append_inj' heq rfl
      obtain rfl := List.singleton_inj.mp hlast
      refine Or.inr ⟨⟨earlier, first, rest, hframes, hbegins, fun f hf => ?_⟩, ?_⟩
      · exact hlater f (by simp [hf])
      · exact hlater m (by simp)
  · rintro (hbegins | ⟨⟨earlier, first, later, rfl, hbegins, hlater⟩, hcommits⟩)
    · exact ⟨frames, m, [], rfl, hbegins, by simp⟩
    · refine ⟨earlier, first, later ++ [m], by simp, hbegins, fun f hf => ?_⟩
      rcases List.mem_append.mp hf with hf | hf
      · exact hlater f hf
      · exact List.mem_singleton.mp hf ▸ hcommits

theorem bracketed_nil : Bracketed [] := by
  intro earlier m later heq
  cases earlier <;> cases heq

theorem bracketed_append_singleton {frames : List Message} {m : Message} :
    Bracketed (frames ++ [m]) ↔ Bracketed frames ∧ (∀ t, carries t m = true → Open t frames) ∧
      (m.command = .begin → ∀ t, ¬ Open t frames) := by
  constructor
  · intro h
    refine ⟨fun earlier f later heq => ?_, h frames m [] rfl⟩
    exact h earlier f (later ++ [m]) (by simp [heq])
  · rintro ⟨hframes, hlast⟩ earlier f later heq
    rcases List.eq_nil_or_concat later with rfl | ⟨rest, last, rfl⟩
    · obtain ⟨rfl, hf⟩ := List.append_inj' heq rfl
      obtain rfl := List.singleton_inj.mp hf
      exact hlast
    · rw [List.concat_eq_append, ← List.cons_append, ← List.append_assoc] at heq
      exact hframes earlier f rest (List.append_inj' heq rfl).1

theorem Bracketed.of_append {frames more : List Message} (h : Bracketed (frames ++ more)) :
    Bracketed frames := by
  intro earlier m later heq
  exact h earlier m (later ++ more) (by simp [heq])

theorem Bracketed.open_unique {frames : List Message} (h : Bracketed frames) {t u : String}
    (ht : Open t frames) (hu : Open u frames) : t = u := by
  induction frames using List.reverseRecOn with
  | nil => exact absurd ht (not_open_nil t)
  | append_singleton frames m ih =>
    obtain ⟨hframes, _, hnone⟩ := bracketed_append_singleton.mp h
    have hfirst : ∀ {t}, begins t m = true → m.command = .begin ∧ m.field? .transaction = some t := by
      simp [begins]
    rcases open_append_singleton.mp ht with hbegins | ⟨ht, _⟩
    · rcases open_append_singleton.mp hu with hbegins' | ⟨hu, _⟩
      · have hsame := (hfirst hbegins).2.symm.trans (hfirst hbegins').2
        exact Option.some.inj hsame
      · exact absurd hu (hnone (hfirst hbegins).1 u)
    · rcases open_append_singleton.mp hu with hbegins | ⟨hu, _⟩
      · exact absurd ht (hnone (hfirst hbegins).1 t)
      · exact ih hframes ht hu

/-- Frames after which nothing is open do not matter to what follows. -/
theorem open_append_iff {frames : List Message} (h : ∀ t, ¬ Open t frames) (t : String)
    (more : List Message) : Open t (frames ++ more) ↔ Open t more := by
  induction more using List.reverseRecOn with
  | nil => rw [List.append_nil, iff_false_intro (h t), iff_false_intro (not_open_nil t)]
  | append_singleton more m ih =>
    rw [← List.append_assoc, open_append_singleton, open_append_singleton, ih]

theorem bracketed_append_iff {frames : List Message} (hb : Bracketed frames)
    (h : ∀ t, ¬ Open t frames) (more : List Message) :
    Bracketed (frames ++ more) ↔ Bracketed more := by
  induction more using List.reverseRecOn with
  | nil => rw [List.append_nil, iff_true_intro hb, iff_true_intro bracketed_nil]
  | append_singleton more m ih =>
    rw [← List.append_assoc, bracketed_append_singleton, bracketed_append_singleton, ih]
    simp only [open_append_iff h]

/-! ## Frames of a session -/

theorem field?_sendFrame (destination : String) (transaction : Option String) (payload : Bytes) :
    (Session.sendFrame destination transaction payload).field? .transaction = transaction := by
  cases transaction <;>
    simp [Session.sendFrame, Message.field?, Message.header?, Message.withField, Message.withHeader,
      Message.withContent, Message.new, Assoc.get?_put, HeaderName.text, Assoc.get?]

theorem command_sendFrame (destination : String) (transaction : Option String) (payload : Bytes) :
    (Session.sendFrame destination transaction payload).command = .send := by
  cases transaction <;> rfl

theorem field?_beginFrame (id : String) :
    (Session.beginFrame id).field? .transaction = some id := by
  simp [Session.beginFrame, Message.field?, Message.header?, Message.withField, Message.withHeader,
    Assoc.get?_put]

theorem field?_commitFrame (id : String) :
    (Session.commitFrame id).field? .transaction = some id := by
  simp [Session.commitFrame, Message.field?, Message.header?, Message.withField, Message.withHeader,
    Assoc.get?_put]

theorem outside_of_command {m : Message} (command : Command) (h : m.command = command)
    (hother : command ≠ .begin ∧ command ≠ .commit ∧ command ≠ .send) : Outside m := by
  obtain ⟨hbegin, hcommit, hsend⟩ := hother
  exact ⟨h ▸ hbegin, h ▸ hcommit, fun t => by simp [carries, h, hcommit, hsend]⟩

namespace Tracks

variable {frames : List Message} {transaction : Option String}

theorem nil : Tracks [] none :=
  ⟨bracketed_nil, fun t => ⟨fun h => absurd h (not_open_nil t), fun h => by cases h⟩⟩

theorem append_outside (h : Tracks frames transaction) {m : Message} (hm : Outside m) :
    Tracks (frames ++ [m]) transaction := by
  obtain ⟨hbegin, hcommit, hcarries⟩ := hm
  refine ⟨bracketed_append_singleton.mpr ⟨h.bracketed, ?_, ?_⟩, fun t => ?_⟩
  · intro t ht
    rw [hcarries t] at ht
    cases ht
  · exact fun hb => absurd hb hbegin
  · rw [open_append_singleton, ← h.open_iff]
    simp [begins, commits, hbegin, hcommit]

theorem of_outside (h : ∀ m ∈ frames, Outside m) : Tracks frames none := by
  induction frames using List.reverseRecOn with
  | nil => exact nil
  | append_singleton frames m ih =>
    exact (ih fun f hf => h f (List.mem_append_left _ hf)).append_outside (h m (by simp))

theorem append_iff (h : Tracks frames none) (more : List Message) :
    Tracks (frames ++ more) transaction ↔ Tracks more transaction := by
  have hnone : ∀ t, ¬ Open t frames := fun t ht => by cases (h.open_iff t).mp ht
  constructor
  · intro hall
    exact ⟨(bracketed_append_iff h.bracketed hnone more).mp hall.bracketed,
      fun t => (open_append_iff hnone t more).symm.trans (hall.open_iff t)⟩
  · intro hmore
    exact ⟨(bracketed_append_iff h.bracketed hnone more).mpr hmore.bracketed,
      fun t => (open_append_iff hnone t more).trans (hmore.open_iff t)⟩

theorem append_send (h : Tracks frames transaction) (destination : String) (payload : Bytes) :
    Tracks (frames ++ [Session.sendFrame destination transaction payload]) transaction := by
  refine ⟨bracketed_append_singleton.mpr ⟨h.bracketed, ?_, ?_⟩, fun t => ?_⟩
  · intro t ht
    simp only [carries, field?_sendFrame, Bool.and_eq_true, decide_eq_true_eq] at ht
    exact (h.open_iff t).mpr ht.2
  · intro hb
    rw [command_sendFrame] at hb
    cases hb
  · rw [open_append_singleton, h.open_iff]
    simp [begins, commits, command_sendFrame]

theorem append_begin (h : Tracks frames none) (id : String) :
    Tracks (frames ++ [Session.beginFrame id]) (some id) := by
  have hcommand : (Session.beginFrame id).command = .begin := rfl
  refine ⟨bracketed_append_singleton.mpr ⟨h.bracketed, ?_, ?_⟩, fun t => ?_⟩
  · intro t ht
    simp [carries, hcommand] at ht
  · intro _ t ht
    cases (h.open_iff t).mp ht
  · rw [open_append_singleton, h.open_iff]
    simp [begins, hcommand, field?_beginFrame]

theorem append_commit {id : String} (h : Tracks frames (some id)) :
    Tracks (frames ++ [Session.commitFrame id]) none := by
  have hcommand : (Session.commitFrame id).command = .commit := rfl
  refine ⟨bracketed_append_singleton.mpr ⟨h.bracketed, ?_, ?_⟩, fun t => ?_⟩
  · intro t ht
    simp only [carries, field?_commitFrame, Bool.and_eq_true, decide_eq_true_eq] at ht
    exact (h.open_iff t).mpr ht.2
  · intro hb
    cases hb
  · rw [open_append_singleton, h.open_iff]
    simp [begins, commits, hcommand, field?_commitFrame]

end Tracks

end BrokerRpc.Broker
