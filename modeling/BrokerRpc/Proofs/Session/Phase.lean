import BrokerRpc.Proofs.Session.Run

/-! # Session and link in step

A session and its link are two machines, and a dial under way is a third. Together they have four
phases only. A turn says once what an operation can do in a phase; everything about runs is derived
from it.
-/
namespace BrokerRpc.Client

/-- How far a client and its link are together. -/
inductive Phase where
  | closed
  | dialling
  | greeted (g : Nat)
  | confirmed (g : Nat)

namespace Phase

def connection? : Phase → Option Nat
  | .closed | .dialling => none
  | .greeted g | .confirmed g => some g

/-- What happens without a connection may change the phase, but opens none. -/
def Drifts (p q : Phase) : Prop := q = p ∨ p.connection? = none ∧ q.connection? = none

theorem Drifts.connection?_eq {p q : Phase} (h : p.Drifts q) : q.connection? = p.connection? := by
  rcases h with rfl | ⟨hp, hq⟩
  · rfl
  · rw [hp, hq]

end Phase

/-- What a phase means to the link, to the session and to the dials under way. -/
def Site.In (x : Site) : Phase → Prop
  | .closed => x.link.state = .closed ∧ x.session.handshake = .idle ∧ x.dials = 0
  | .dialling => (∃ waiters, x.link.state = .connecting [] waiters) ∧
      x.session.handshake = .idle ∧ x.dials = 1
  | .greeted g => x.link.state = .opened g ∧ x.session.handshake = .pending ∧ x.dials = 0
  | .confirmed g => x.link.state = .opened g ∧ x.session.handshake = .connected ∧ x.dials = 0

structure InStep (x : Site) (p : Phase) : Prop where
  inPhase : x.In p
  remote : x.link.remote.isSome = true
  running : x.link.running = true
  live_iff : ∀ g, x.link.isLive g = true ↔ p.connection? = some g
  current : ∀ g, p.connection? = some g → g = x.link.generation
  known : ∀ g ∈ x.link.wires.keys, g ≤ x.link.generation
  wires_distinct : x.link.wires.Distinct
  unclosed : x.link.Unclosed
  outbox_confirmed : ∀ g, p = .confirmed g → x.session.outbox = []
  outbox_le : x.session.outbox.length ≤ maxOutbox
  channels_distinct : x.session.channels.Distinct

theorem inStep_start (host : String) (port : Nat) (policy : Policy) (timeout : Duration) :
    InStep (.start host port policy timeout) .closed where
  inPhase := ⟨rfl, rfl, rfl⟩
  remote := rfl
  running := rfl
  live_iff := fun _ => by simp [Site.start, new, Link.new, Link.isLive, Assoc.get?, Phase.connection?]
  current := fun _ h => by cases h
  known := fun _ h => absurd h List.not_mem_nil
  wires_distinct := List.nodup_nil
  unclosed := fun _ _ h => by cases h
  outbox_confirmed := fun _ h => by cases h
  outbox_le := Nat.zero_le _
  channels_distinct := List.nodup_nil

variable {x : Site} {p q : Phase} {g : Nat}

theorem Site.In.of_eq {y : Site} (h : x.In p) (hstate : y.link.state = x.link.state)
    (hhandshake : y.session.handshake = x.session.handshake) (hdials : y.dials = x.dials) :
    y.In p := by
  cases p with
  | closed => exact ⟨hstate.trans h.1, hhandshake.trans h.2.1, hdials.trans h.2.2⟩
  | dialling =>
    obtain ⟨⟨waiters, hconnecting⟩, hidle, hone⟩ := h
    exact ⟨⟨waiters, hstate.trans hconnecting⟩, hhandshake.trans hidle, hdials.trans hone⟩
  | greeted i => exact ⟨hstate.trans h.1, hhandshake.trans h.2.1, hdials.trans h.2.2⟩
  | confirmed i => exact ⟨hstate.trans h.1, hhandshake.trans h.2.1, hdials.trans h.2.2⟩

theorem Phase.eq_of_connection? (h : p.connection? = some g) : p = .greeted g ∨ p = .confirmed g := by
  cases p with
  | closed => cases h
  | dialling => cases h
  | greeted i => exact Or.inl (congrArg _ (Option.some.inj h))
  | confirmed i => exact Or.inr (congrArg _ (Option.some.inj h))

theorem InStep.state_eq (h : InStep x p) (hp : p.connection? = some g) : x.link.state = .opened g := by
  have hphase := h.inPhase
  rcases Phase.eq_of_connection? hp with rfl | rfl
  · exact hphase.1
  · exact hphase.1

theorem InStep.isLive (h : InStep x p) (hp : p.connection? = some g) : x.link.isLive g = true :=
  (h.live_iff g).mpr hp

theorem InStep.isConnected_iff (h : InStep x p) :
    x.client.isConnected = true ↔ ∃ g, p = .confirmed g := by
  have hphase := h.inPhase
  unfold isConnected
  cases p with
  | closed => simp [hphase.2.1]
  | dialling => simp [hphase.2.1]
  | greeted i => simp [hphase.2.1]
  | confirmed i => simp [hphase.2.1]

theorem InStep.isConnected_eq (h : InStep x (.confirmed g)) : x.client.isConnected = true :=
  h.isConnected_iff.mpr ⟨g, rfl⟩

theorem InStep.isConnected_eq_false (h : InStep x p) (hdown : ∀ g, p ≠ .confirmed g) :
    x.client.isConnected = false := by
  rw [Bool.eq_false_iff]
  intro hup
  obtain ⟨g, hp⟩ := h.isConnected_iff.mp hup
  exact hdown g hp

theorem InStep.dials_eq (h : InStep x p) (hp : p ≠ .dialling) : x.dials = 0 := by
  have hphase := h.inPhase
  cases p with
  | closed => exact hphase.2.2
  | dialling => exact absurd rfl hp
  | greeted i => exact hphase.2.2
  | confirmed i => exact hphase.2.2

theorem InStep.eq_greeted (h : InStep x p) (hpending : x.session.handshake = .pending) :
    ∃ g, p = .greeted g := by
  have hphase := h.inPhase
  cases p with
  | closed => simp [Site.In, hpending] at hphase
  | dialling => simp [Site.In, hpending] at hphase
  | greeted g => exact ⟨g, rfl⟩
  | confirmed g => simp [Site.In, hpending] at hphase

theorem InStep.connection?_eq_none_iff (h : InStep x p) :
    p.connection? = none ↔ x.session.handshake = .idle := by
  have hphase := h.inPhase
  cases p with
  | closed => simp [Phase.connection?, hphase.2.1]
  | dialling => simp [Phase.connection?, hphase.2.1]
  | greeted i => simp [Phase.connection?, hphase.2.1]
  | confirmed i => simp [Phase.connection?, hphase.2.1]

theorem InStep.dialRefusal?_eq (h : InStep x p) : x.link.dialRefusal? = none := by
  have hremote : x.link.remote.isNone = false := by simp [← Option.not_isSome, h.remote]
  simp [Link.dialRefusal?, hremote, h.running]

structure Keeps (s t : Session) : Prop where
  channels_eq : t.channels = s.channels
  outbox_eq : t.outbox = s.outbox

def newest (frames : List Message) : List Message := frames.drop (frames.length - maxOutbox)

theorem newest_of_le {frames : List Message} (h : frames.length ≤ maxOutbox) :
    newest frames = frames := by
  rw [newest, Nat.sub_eq_zero_of_le h, List.drop_zero]

theorem length_newest_le (frames : List Message) : (newest frames).length ≤ maxOutbox := by
  rw [newest, List.length_drop]
  omega

/-- What an operation can do to a client that is in step with its link. -/
inductive Turn (m : Moment) : Phase → Phase → Prop where
  | rested {p q : Phase} {g : Nat} (hasked : submission? m.before.session m.operation = none)
      (hopens : ∀ i, m.opens i = false) (hconfirms : ∀ i, p = .greeted i → m.confirms i = false)
      (hkeeps : Keeps m.before.session m.after.session)
      (hgives : m.before.link.Gives g [] m.after.link) (hin : m.after.In q) (hdrifts : p.Drifts q) :
      Turn m p q
  /-- A frame is asked for without a session. -/
  | held {p q : Phase} {g : Nat} {frame : Message}
      (hasked : submission? m.before.session m.operation = some frame)
      (hdown : ∀ i, p ≠ .confirmed i)
      (hchannels : m.after.session.channels = channelsAfter m.before.session m.operation)
      (houtbox : m.after.session.outbox = newest
        (m.before.session.outbox ++ (parked? m.before.session m.operation).toList))
      (hgives : m.before.link.Gives g [] m.after.link) (hin : m.after.In q) (hdrifts : p.Drifts q) :
      Turn m p q
  /-- A frame is asked for in a session. -/
  | wrote {g : Nat} {frame : Message}
      (hasked : submission? m.before.session m.operation = some frame)
      (hchannels : m.after.session.channels = channelsAfter m.before.session m.operation)
      (houtbox : m.after.session.outbox = m.before.session.outbox)
      (hgives : m.before.link.Gives g [frame] m.after.link) (hin : m.after.In (.confirmed g)) :
      Turn m (.confirmed g) (.confirmed g)
  | opened (hopens : m.opens (m.before.link.generation + 1) = true)
      (hkeeps : Keeps m.before.session m.after.session)
      (hlink : m.before.link.Opens [m.greeting] m.after.link)
      (hin : m.after.In (.greeted (m.before.link.generation + 1))) :
      Turn m .dialling (.greeted (m.before.link.generation + 1))
  | confirmed {g : Nat} (hconfirms : m.confirms g = true)
      (hchannels : m.after.session.channels = m.before.session.channels)
      (houtbox : m.after.session.outbox = [])
      (hgives : m.before.link.Gives g m.before.session.flushFrames m.after.link)
      (hin : m.after.In (.confirmed g)) : Turn m (.greeted g) (.confirmed g)
  | lost {p : Phase} {g : Nat} (hasked : submission? m.before.session m.operation = none)
      (hopens : ∀ i, m.opens i = false) (hconfirms : ∀ i, m.confirms i = false)
      (hconnection : p.connection? = some g)
      (hkeeps : Keeps m.before.session m.after.session)
      (hloses : m.before.link.Loses g m.after.link) (hin : m.after.In .closed) : Turn m p .closed

/-! ## What every turn keeps -/

theorem channelsAfter_of_none {s : Session} {operation : Operation}
    (h : submission? s operation = none) : channelsAfter s operation = s.channels := by
  unfold channelsAfter
  split
  · rename_i destination token recipient
    cases hc : s.channels.contains destination with
    | true => rfl
    | false => simp [submission?, hc] at h
  · rename_i destination
    have hget : s.channels.get? destination = none := by simpa [submission?] using h
    rw [Assoc.get?_eq_none_iff] at hget
    refine List.filter_eq_self.mpr fun entry hmem => ?_
    have hne : entry.1 ≠ destination := fun he => hget (List.mem_map.mpr ⟨entry, hmem, he⟩)
    simpa using hne
  · rfl

theorem parked?_of_none {s : Session} {operation : Operation}
    (h : submission? s operation = none) : parked? s operation = none := by
  unfold parked?
  split
  · rfl
  · rfl
  · cases h
  · exact h

theorem submission?_of_opens {m : Moment} (h : m.opens g = true) (s : Session) :
    submission? s m.operation = none := by
  unfold Moment.opens at h
  split at h
  · rename_i hop
    rw [hop]
    rfl
  · cases h

theorem submission?_of_confirms {m : Moment} (h : m.confirms g = true) (s : Session) :
    submission? s m.operation = none := by
  unfold Moment.confirms at h
  split at h
  · rename_i hop
    rw [hop]
    rfl
  · cases h

theorem distinct_channelsAfter {s : Session} (h : s.channels.Distinct) (operation : Operation) :
    (channelsAfter s operation).Distinct := by
  unfold channelsAfter
  split
  · split
    · exact h
    · rename_i hnew
      rw [Bool.not_eq_true, Assoc.contains_eq_false_iff] at hnew
      exact Assoc.distinct_append_iff.mpr ⟨h, hnew⟩
  · exact Assoc.distinct_erase _ h
  · exact h

namespace Turn

variable {m : Moment}

theorem channels_eq (t : Turn m p q) :
    m.after.session.channels = channelsAfter m.before.session m.operation := by
  cases t with
  | rested hasked _ _ hkeeps => rw [hkeeps.channels_eq, channelsAfter_of_none hasked]
  | held _ _ hchannels => exact hchannels
  | wrote _ hchannels => exact hchannels
  | opened hopens hkeeps =>
    rw [hkeeps.channels_eq, channelsAfter_of_none (submission?_of_opens hopens _)]
  | confirmed hconfirms hchannels =>
    rw [hchannels, channelsAfter_of_none (submission?_of_confirms hconfirms _)]
  | lost hasked _ _ _ hkeeps => rw [hkeeps.channels_eq, channelsAfter_of_none hasked]

end Turn

theorem InStep.of_gives {y : Site} {frames : List Message} (h : InStep x p)
    (hgives : x.link.Gives g frames y.link) (hin : y.In q)
    (hconnection : q.connection? = p.connection?)
    (hconfirmed : ∀ i, q = .confirmed i → y.session.outbox = [])
    (houtbox : y.session.outbox.length ≤ maxOutbox) (hchannels : y.session.channels.Distinct) :
    InStep y q where
  inPhase := hin
  remote := hgives.remote_eq ▸ h.remote
  running := hgives.running_eq ▸ h.running
  live_iff := fun i => by rw [hgives.live_eq, hconnection, h.live_iff]
  current := fun i hi => by rw [hgives.generation_eq, h.current i (hconnection ▸ hi)]
  known := fun i hi => by
    rw [hgives.generation_eq]
    exact h.known i (hgives.keys_eq ▸ hi)
  wires_distinct := Assoc.distinct_of_keys_eq hgives.keys_eq h.wires_distinct
  unclosed := hgives.unclosed h.unclosed
  outbox_confirmed := hconfirmed
  outbox_le := houtbox
  channels_distinct := hchannels

theorem InStep.of_loses {y : Site} (h : InStep x p) (hloses : x.link.Loses g y.link)
    (hin : y.In .closed) (hconnection : p.connection? = some g)
    (hkeeps : Keeps x.session y.session) : InStep y .closed where
  inPhase := hin
  remote := hloses.remote_eq ▸ h.remote
  running := hloses.running_eq ▸ h.running
  live_iff := fun i => by
    rw [hloses.live_iff, h.live_iff, hconnection]
    simp [Phase.connection?, eq_comm]
  current := fun i hi => by cases hi
  known := fun i hi => by
    rw [hloses.generation_eq]
    exact h.known i (hloses.keys_eq ▸ hi)
  wires_distinct := Assoc.distinct_of_keys_eq hloses.keys_eq h.wires_distinct
  unclosed := hloses.unclosed h.unclosed
  outbox_confirmed := fun i hi => by cases hi
  outbox_le := hkeeps.outbox_eq ▸ h.outbox_le
  channels_distinct := hkeeps.channels_eq ▸ h.channels_distinct

theorem InStep.of_opens {y : Site} {first : List Message} (h : InStep x .dialling)
    (hopens : x.link.Opens first y.link) (hin : y.In (.greeted (x.link.generation + 1)))
    (hkeeps : Keeps x.session y.session) : InStep y (.greeted (x.link.generation + 1)) where
  inPhase := hin
  remote := hopens.remote_eq ▸ h.remote
  running := hopens.running_eq ▸ h.running
  live_iff := fun i => by
    rw [hopens.live_iff, h.live_iff]
    simp [Phase.connection?, eq_comm]
  current := fun i hi => by
    rw [hopens.generation_eq]
    exact (Option.some.inj hi).symm
  known := fun i hi => by
    rw [hopens.keys_eq, List.mem_append, List.mem_singleton] at hi
    rw [hopens.generation_eq]
    rcases hi with hi | rfl
    · exact Nat.le_succ_of_le (h.known i hi)
    · exact Nat.le_refl _
  wires_distinct := by
    rw [Assoc.Distinct, hopens.keys_eq, List.nodup_append]
    refine ⟨h.wires_distinct, by simp, ?_⟩
    intro i hi j hj
    rw [List.mem_singleton] at hj
    have hle := h.known i hi
    omega
  unclosed := hopens.unclosed h.unclosed
  outbox_confirmed := fun i hi => by cases hi
  outbox_le := hkeeps.outbox_eq ▸ h.outbox_le
  channels_distinct := hkeeps.channels_eq ▸ h.channels_distinct

theorem Turn.inStep {m : Moment} (t : Turn m p q) (h : InStep m.before p) : InStep m.after q := by
  have hchannels : m.after.session.channels.Distinct := by
    rw [t.channels_eq]
    exact distinct_channelsAfter h.channels_distinct _
  cases t with
  | rested _ _ _ hkeeps hgives hin hdrifts =>
    have houtbox : m.after.session.outbox.length ≤ maxOutbox := hkeeps.outbox_eq ▸ h.outbox_le
    refine h.of_gives hgives hin hdrifts.connection?_eq ?_ houtbox hchannels
    rintro i rfl
    rcases hdrifts with rfl | ⟨_, hnone⟩
    · rw [hkeeps.outbox_eq]
      exact h.outbox_confirmed i rfl
    · cases hnone
  | held _ hdown _ houtbox hgives hin hdrifts =>
    refine h.of_gives hgives hin hdrifts.connection?_eq ?_ ?_ hchannels
    · rintro i rfl
      rcases hdrifts with rfl | ⟨_, hnone⟩
      · exact absurd rfl (hdown i)
      · cases hnone
    · rw [houtbox]
      exact length_newest_le _
  | wrote _ _ houtbox hgives hin =>
    have hempty : m.after.session.outbox = [] := houtbox.trans (h.outbox_confirmed _ rfl)
    exact h.of_gives hgives hin rfl (fun _ _ => hempty) (by simp [hempty]) hchannels
  | opened _ hkeeps hlink hin => exact h.of_opens hlink hin hkeeps
  | confirmed _ _ houtbox hgives hin =>
    exact h.of_gives hgives hin rfl (fun _ _ => houtbox) (by simp [houtbox]) hchannels
  | lost _ _ _ hconnection hkeeps hloses hin => exact h.of_loses hloses hin hconnection hkeeps

end BrokerRpc.Client
