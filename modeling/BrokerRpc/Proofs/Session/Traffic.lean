import BrokerRpc.Proofs.Session.Step

/-! # What connections are given

From the events of a run alone one can say which frames each connection is to be given: the greeting
when it is opened, and no more until a confirmation arrives on it; at that moment the subscription
of each channel and then what is parked; from then on each frame that is asked for while the
connection is live.
-/
namespace BrokerRpc.Client

inductive Stage where
  | unopened
  | greeted
  | confirmed

namespace Moment

def stageAfter (m : Moment) (g : Nat) : Stage → Stage
  | .unopened => if m.opens g then .greeted else .unopened
  | .greeted => if m.confirms g then .confirmed else .greeted
  | .confirmed => .confirmed

/-- The frames that a connection is to be given at a moment, by its stage. -/
def due (m : Moment) (g : Nat) : Stage → List Message
  | .unopened => if m.opens g then [m.greeting] else []
  | .greeted =>
    if m.confirms g then
      (m.before.session.channels.map fun e => Session.subscribeFrame e.1 e.2.token) ++
        m.before.session.outbox
    else []
  | .confirmed =>
    if m.before.link.isLive g then (submission? m.before.session m.operation).toList else []

theorem eq_of_opens {m : Moment} {g : Nat} (h : m.opens g = true) :
    g = m.before.link.generation + 1 := by
  unfold opens at h
  split at h
  · simp only [ne_eq, Bool.and_eq_true, decide_eq_true_eq] at h
    exact h.2
  · cases h

theorem isLive_of_confirms {m : Moment} {g : Nat} (h : m.confirms g = true) :
    m.before.link.isLive g = true := by
  unfold confirms at h
  split at h
  · simp only [Bool.and_eq_true] at h
    exact h.2
  · cases h

theorem quiet_of_asked {m : Moment} {frame : Message}
    (h : submission? m.before.session m.operation = some frame) (g : Nat) :
    m.opens g = false ∧ m.confirms g = false := by
  constructor
  · rw [Bool.eq_false_iff]
    intro hopens
    rw [submission?_of_opens hopens] at h
    cases h
  · rw [Bool.eq_false_iff]
    intro hconfirms
    rw [submission?_of_confirms hconfirms] at h
    cases h

theorem confirms_of_opens {m : Moment} {g : Nat} (h : m.opens g = true) (i : Nat) :
    m.confirms i = false := by
  unfold opens at h
  split at h
  · rename_i hop
    unfold confirms
    rw [hop]
  · cases h

theorem opens_of_confirms {m : Moment} {g : Nat} (h : m.confirms g = true) (i : Nat) :
    m.opens i = false := by
  rw [Bool.eq_false_iff]
  intro hopens
  rw [confirms_of_opens hopens g] at h
  cases h

end Moment

def traffic (g : Nat) : Stage → List Moment → List Message
  | _, [] => []
  | stage, m :: rest => m.due g stage ++ traffic g (m.stageAfter g stage) rest

/-- What the stage of a connection means to a client. A connection that is lost keeps its stage. -/
def Fits (x : Site) (p : Phase) (g : Nat) : Stage → Prop
  | .unopened => g ∉ x.link.wires.keys
  | .greeted => g ∈ x.link.wires.keys ∧ (p.connection? = some g → p = .greeted g)
  | .confirmed => g ∈ x.link.wires.keys ∧ (p.connection? = some g → p = .confirmed g)

variable {m : Moment} {p q : Phase} {g : Nat} {stage : Stage}

theorem Fits.of_eq {x y : Site} (h : Fits x p g stage)
    (hkeys : y.link.wires.keys = x.link.wires.keys) (hphase : q.connection? = some g → q = p) :
    Fits y q g stage := by
  cases stage with
  | unopened =>
    rw [Fits, hkeys]
    exact h
  | greeted =>
    refine ⟨hkeys ▸ h.1, fun hq => ?_⟩
    obtain rfl := hphase hq
    exact h.2 hq
  | confirmed =>
    refine ⟨hkeys ▸ h.1, fun hq => ?_⟩
    obtain rfl := hphase hq
    exact h.2 hq

theorem Moment.due_eq_nil (hopens : m.opens g = false)
    (hconfirms : stage = .greeted → m.confirms g = false)
    (hasked : stage = .confirmed → m.before.link.isLive g = true →
      submission? m.before.session m.operation = none) :
    m.due g stage = [] ∧ m.stageAfter g stage = stage := by
  cases stage with
  | unopened => simp [due, stageAfter, hopens]
  | greeted => simp [due, stageAfter, hconfirms]
  | confirmed =>
    refine ⟨?_, rfl⟩
    simp only [due]
    split
    · rename_i hlive
      rw [hasked rfl hlive]
      rfl
    · rfl

structure Sees (m : Moment) (q : Phase) (g : Nat) (stage : Stage) : Prop where
  sent_eq : m.after.link.sent g = m.before.link.sent g ++ m.due g stage
  fits : Fits m.after q g (m.stageAfter g stage)

theorem sees_nothing (hfits : Fits m.before p g stage) (hopens : m.opens g = false)
    (hconfirms : stage = .greeted → m.confirms g = false)
    (hasked : stage = .confirmed → m.before.link.isLive g = true →
      submission? m.before.session m.operation = none)
    (hsent : m.after.link.sent g = m.before.link.sent g)
    (hkeys : m.after.link.wires.keys = m.before.link.wires.keys)
    (hphase : q.connection? = some g → q = p) : Sees m q g stage := by
  obtain ⟨hdue, hstage⟩ := Moment.due_eq_nil hopens hconfirms hasked
  refine ⟨by rw [hsent, hdue, List.append_nil], ?_⟩
  rw [hstage]
  exact hfits.of_eq hkeys hphase

theorem Phase.Drifts.eq_of_connection? (h : p.Drifts q) (hq : q.connection? = some g) : q = p := by
  rcases h with rfl | ⟨_, hnone⟩
  · rfl
  · rw [hnone] at hq
    cases hq

theorem sees_of_other {i : Nat} {frames : List Message} (h : InStep m.before p)
    (hfits : Fits m.before p g stage) (hopens : m.opens g = false) (hother : g ≠ i)
    (hconnection : p.connection? = some i) (hconnection' : q.connection? = some i)
    (hgives : m.before.link.Gives i frames m.after.link) : Sees m q g stage := by
  have hdead : ¬ m.before.link.isLive g = true := by
    rw [h.live_iff, hconnection, Option.some.injEq]
    exact fun he => hother he.symm
  refine sees_nothing hfits hopens ?_ ?_ ?_ hgives.keys_eq ?_
  · intro _
    rw [Bool.eq_false_iff]
    exact fun hc => hdead (Moment.isLive_of_confirms hc)
  · exact fun _ hlive => absurd hlive hdead
  · rw [hgives.sent_eq, if_neg hother, List.append_nil]
  · intro hq
    rw [hconnection', Option.some.injEq] at hq
    exact absurd hq.symm hother

theorem sees_wrote {i : Nat} {frame : Message} (h : InStep m.before (.confirmed i))
    (hfits : Fits m.before (.confirmed i) g stage)
    (hasked : submission? m.before.session m.operation = some frame)
    (hgives : m.before.link.Gives i [frame] m.after.link) : Sees m (.confirmed i) g stage := by
  have hopens := (Moment.quiet_of_asked hasked g).1
  by_cases hg : g = i
  · subst hg
    have hlive : m.before.link.isLive g = true := h.isLive rfl
    cases stage with
    | unopened => exact absurd (Link.mem_keys_of_isLive hlive) hfits
    | greeted => cases hfits.2 rfl
    | confirmed =>
      refine ⟨?_, Fits.of_eq hfits hgives.keys_eq fun _ => rfl⟩
      simp [hgives.sent_eq, Moment.due, hlive, hasked]
  · exact sees_of_other h hfits hopens hg rfl rfl hgives

theorem sees_confirmed {i : Nat} (h : InStep m.before (.greeted i))
    (hfits : Fits m.before (.greeted i) g stage) (hconfirms : m.confirms i = true)
    (hgives : m.before.link.Gives i m.before.session.flushFrames m.after.link) :
    Sees m (.confirmed i) g stage := by
  have hopens : m.opens g = false := Moment.opens_of_confirms hconfirms g
  by_cases hg : g = i
  · subst hg
    have hlive : m.before.link.isLive g = true := h.isLive rfl
    cases stage with
    | unopened => exact absurd (Link.mem_keys_of_isLive hlive) hfits
    | greeted =>
      refine ⟨?_, ?_⟩
      · simp [hgives.sent_eq, Moment.due, hconfirms, Session.flushFrames]
      · simp only [Moment.stageAfter, hconfirms, if_true]
        exact ⟨hgives.keys_eq ▸ hfits.1, fun _ => rfl⟩
    | confirmed => cases hfits.2 rfl
  · exact sees_of_other h hfits hopens hg rfl rfl hgives

/-- A new connection sees its greeting, and no other sees anything of it. -/
theorem sees_opened (h : InStep m.before .dialling) (hfits : Fits m.before .dialling g stage)
    (hopens : m.opens (m.before.link.generation + 1) = true)
    (hlink : m.before.link.Opens [m.greeting] m.after.link) :
    Sees m (.greeted (m.before.link.generation + 1)) g stage := by
  have hkeys : g ∈ m.after.link.wires.keys ↔
      g ∈ m.before.link.wires.keys ∨ g = m.before.link.generation + 1 := by
    rw [hlink.keys_eq, List.mem_append, List.mem_singleton]
  by_cases hg : g = m.before.link.generation + 1
  · have hnew : g ∉ m.before.link.wires.keys := fun hmem => by
      have hle := h.known g hmem
      omega
    subst hg
    cases stage with
    | unopened =>
      refine ⟨by simp [hlink.sent_eq, Moment.due, hopens], ?_⟩
      simp only [Moment.stageAfter, hopens, if_true]
      exact ⟨hkeys.mpr (Or.inr rfl), fun _ => rfl⟩
    | greeted => exact absurd hfits.1 hnew
    | confirmed => exact absurd hfits.1 hnew
  · have hnot : m.opens g = false := by
      rw [Bool.eq_false_iff]
      exact fun he => hg (Moment.eq_of_opens he)
    have hdead : ¬ m.before.link.isLive g = true := fun hlive => by cases (h.live_iff g).mp hlive
    have hother : (Phase.greeted (m.before.link.generation + 1)).connection? ≠ some g :=
      fun hq => hg (Option.some.inj hq).symm
    have hnothing : m.due g stage = [] ∧ m.stageAfter g stage = stage :=
      Moment.due_eq_nil hnot (fun _ => Moment.confirms_of_opens hopens g)
        (fun _ hlive => absurd hlive hdead)
    obtain ⟨hdue, hstage⟩ := hnothing
    refine ⟨by rw [hlink.sent_eq, if_neg hg, hdue], ?_⟩
    rw [hstage]
    cases stage with
    | unopened => exact fun hmem => (hkeys.mp hmem).elim hfits hg
    | greeted => exact ⟨hkeys.mpr (Or.inl hfits.1), fun hq => absurd hq hother⟩
    | confirmed => exact ⟨hkeys.mpr (Or.inl hfits.1), fun hq => absurd hq hother⟩

theorem Turn.sees (t : Turn m p q) (h : InStep m.before p) (hfits : Fits m.before p g stage) :
    Sees m q g stage := by
  cases t with
  | rested hasked hopens hconfirms _ hgives _ hdrifts =>
    refine sees_nothing hfits (hopens g) ?_ (fun _ _ => hasked) ?_ hgives.keys_eq
      hdrifts.eq_of_connection?
    -- a connection that still waits for a confirmation is in the phase that does
    · rintro rfl
      rw [Bool.eq_false_iff]
      intro hc
      have hp := hfits.2 ((h.live_iff g).mp (Moment.isLive_of_confirms hc))
      rw [hconfirms g hp] at hc
      cases hc
    · rw [hgives.sent_eq]
      simp
  | held hasked hdown _ _ hgives _ hdrifts =>
    obtain ⟨hopens, hconfirms⟩ := Moment.quiet_of_asked hasked g
    refine sees_nothing hfits hopens (fun _ => hconfirms) ?_ ?_ hgives.keys_eq
      hdrifts.eq_of_connection?
    · rintro rfl hlive
      exact absurd (hfits.2 ((h.live_iff g).mp hlive)) (hdown g)
    · rw [hgives.sent_eq]
      simp
  | wrote hasked _ _ hgives _ => exact sees_wrote h hfits hasked hgives
  | opened hopens _ hlink _ => exact sees_opened h hfits hopens hlink
  | confirmed hconfirms _ _ hgives _ => exact sees_confirmed h hfits hconfirms hgives
  | lost hasked hopens hconfirms _ _ hloses _ =>
    refine sees_nothing hfits (hopens g) (fun _ => hconfirms g) (fun _ _ => hasked)
      (hloses.sent_eq g) hloses.keys_eq ?_
    intro hq
    cases hq

/-- A confirmation of a greeted connection has everything written that waits. -/
theorem Turn.of_confirms (t : Turn m (.greeted g) q) (hconfirms : m.confirms g = true) :
    q = .confirmed g ∧
      m.after.link.sent g = m.before.link.sent g ++ m.before.session.flushFrames := by
  cases t with
  | rested _ _ hno =>
    rw [hno g rfl] at hconfirms
    cases hconfirms
  | held hasked =>
    rw [(Moment.quiet_of_asked hasked g).2] at hconfirms
    cases hconfirms
  | confirmed _ _ _ hgives _ => exact ⟨rfl, by simp [hgives.sent_eq]⟩
  | lost _ _ hno =>
    rw [hno g] at hconfirms
    cases hconfirms

theorem sent_reached {x : Site} (h : InStep x p) (hfits : Fits x p g stage)
    (operations : List Operation) :
    (reached x operations).link.sent g = x.link.sent g ++ traffic g stage (history x operations) := by
  induction operations generalizing x p stage with
  | nil => exact (List.append_nil _).symm
  | cons operation rest ih =>
    obtain ⟨q, t⟩ := perform_turn h operation
    have hsees := t.sees h hfits
    have hrest := ih (t.inStep h) hsees.fits
    have hsent : (x.perform operation).link.sent g =
        x.link.sent g ++ (⟨x, operation⟩ : Moment).due g stage := hsees.sent_eq
    change (reached (x.perform operation) rest).link.sent g = _
    rw [history, traffic, ← List.append_assoc, ← hsent]
    exact hrest

end BrokerRpc.Client
