import BrokerRpc.Proofs.Session.Callers

/-! # What operations do

Each operation takes a client that is in step with its link one turn on: a dial that ends, a frame
that arrives and a step of a wire, as well as what callers do.
-/
namespace BrokerRpc.Client

variable {x : Site} {p q : Phase} {g : Nat}

/-! ## What the loop does -/

theorem turn_dialEnded_none (h : InStep x p) (hdials : x.dials = 0) (result : Except Failure Unit) :
    Turn ⟨x, .dialEnded result⟩ p p := by
  refine turn_session (t := x.session) h rfl ?_ (fun _ _ => rfl) rfl ⟨rfl, rfl⟩ ?_
  · intro i
    cases result <;> simp [Moment.opens, hdials]
  · exact if_pos hdials

theorem turn_dialEnded_ok (h : InStep x .dialling) :
    ∃ q, Turn ⟨x, .dialEnded (.ok ())⟩ .dialling q := by
  obtain ⟨⟨waiters, hstate⟩, _, hdials⟩ := h.inPhase
  have hended : x.client.dialEnded (.ok ()) =
      ({ x.client with
          session := { x.session with handshake := .pending }
          link := { x.link with
            state := .opened (x.link.generation + 1)
            generation := x.link.generation + 1
            wires := x.link.wires ++ [(x.link.generation + 1,
              { orders := [.frame (Session.connectFrame x.client.host x.link.policy)] })] } },
        (Link.resolveAll waiters (.ok ())).map .linkSettled) := by
    simp [dialEnded, Link.dialSucceeded, hstate, host]
  have hafter : x.perform (.dialEnded (.ok ())) = ⟨(x.client.dialEnded (.ok ())).1, 0⟩ := by
    simp [Site.perform, act, hdials, hended]
  rw [hended] at hafter
  refine ⟨_, .opened ?_ ?_ ?_ ?_⟩
  · simp [Moment.opens, hdials]
  · rw [Moment.after, hafter]
    exact ⟨rfl, rfl⟩
  · rw [Moment.after, hafter]
    exact Link.opens_append h.known _ _
  · rw [Moment.after, hafter]
    exact ⟨rfl, rfl, rfl⟩

theorem turn_dialEnded_error (h : InStep x .dialling) (failure : Failure) :
    ∃ q, Turn ⟨x, .dialEnded (.error failure)⟩ .dialling q := by
  obtain ⟨⟨waiters, hstate⟩, _, hdials⟩ := h.inPhase
  have hafter : x.perform (.dialEnded (.error failure)) =
      ⟨{ x.client with link := { x.link with state := .closed }, session := x.session.lost }, 0⟩ := by
    have hlost := dialsIn_onLost { x.client with link := { x.link with state := .closed } } failure
    simp [Site.perform, act, hdials, dialEnded, Link.dialFailed, hstate, onLost?, hlost]
    rfl
  refine ⟨.closed, .rested (g := 0) rfl (fun _ => rfl) (fun _ _ => rfl) ?_ ?_ ?_ (Or.inr ⟨rfl, rfl⟩)⟩
  · rw [Moment.after, hafter]
    exact ⟨rfl, rfl⟩
  · rw [Moment.after, hafter]
    exact (Link.Gives.refl x.link 0).withState .closed x.link.nextWaiter
  · rw [Moment.after, hafter]
    exact ⟨rfl, rfl, rfl⟩

theorem turn_dialEnded (h : InStep x p) (result : Except Failure Unit) :
    ∃ q, Turn ⟨x, .dialEnded result⟩ p q := by
  by_cases hp : p = .dialling
  · subst hp
    cases result with
    | ok _ => exact turn_dialEnded_ok h
    | error failure => exact turn_dialEnded_error h failure
  · exact ⟨p, turn_dialEnded_none h (h.dials_eq hp) result⟩

/-- A confirmation in its phase: the intervals are settled, and all that waits is written. -/
theorem onConnected_greeted {c : Client} (hstate : c.link.state = .opened g)
    (hlive : c.link.isLive g = true) (hpending : c.session.handshake = .pending) (answer : Message) :
    ∃ link effects, c.onConnected answer =
        ({ c with link, session := c.session.confirmed }, effects) ∧ dialsIn effects = 0 ∧
      link.state = .opened g ∧ c.link.Gives g c.session.flushFrames link := by
  generalize hpair : settledHeartbeats c.link.policy answer = pair
  obtain ⟨outgoing, incoming⟩ := pair
  have hbeats := Link.gives_setHeartbeats hstate hlive outgoing incoming
  have hopen : (c.link.setHeartbeats outgoing incoming).state = .opened g := by
    simp [Link.setHeartbeats, hstate, Link.change]
  obtain ⟨link, hwrite, hend, hgives⟩ := writeEach_opened
    (c := { c with
      link := c.link.setHeartbeats outgoing incoming, session := c.session.confirmed })
    hopen ((hbeats.live_eq g).trans hlive) c.session.flushFrames
  refine ⟨link, settle c.session.waiters (.ok ()), ?_, dialsIn_settle _ _, hend,
    hbeats.trans hgives⟩
  simp only [onConnected, hpair, hpending, if_true, hwrite, List.nil_append]

theorem onConnected_rested {c : Client} (hpending : c.session.handshake ≠ .pending)
    (answer : Message) : ∃ outgoing incoming, c.onConnected answer =
      ({ c with link := c.link.setHeartbeats outgoing incoming }, []) := by
  generalize hpair : settledHeartbeats c.link.policy answer = pair
  obtain ⟨outgoing, incoming⟩ := pair
  refine ⟨outgoing, incoming, ?_⟩
  simp only [onConnected, hpair, hpending, if_false]

theorem onMessage_other (c : Client) {answer : Message} (hcommand : answer.command ≠ .connected) :
    ∃ receipt effects, c.onMessage answer = ({ c with session := { c.session with receipt } }, effects) ∧
      dialsIn effects = 0 ∧ ∀ w, sessionResult? w effects = none := by
  have hdeliver : ∀ (r : Option Recipient) (delivery : Delivery),
      let effects := (r.map fun r => Effect.deliver r delivery).toList
      dialsIn effects = 0 ∧ ∀ w, sessionResult? w effects = none := by
    intro r delivery
    cases r <;> exact ⟨rfl, fun _ => rfl⟩
  unfold onMessage
  split
  · rename_i hconnected
    exact absurd hconnected hcommand
  · exact ⟨_, _, rfl, hdeliver _ _⟩
  · exact ⟨_, _, rfl, hdeliver _ _⟩
  · unfold onReceipt
    split
    · split
      · exact ⟨_, _, rfl, rfl, fun _ => rfl⟩
      · exact ⟨_, _, rfl, rfl, fun _ => rfl⟩
    · exact ⟨_, _, rfl, rfl, fun _ => rfl⟩
  · exact ⟨_, _, rfl, rfl, fun _ => rfl⟩

theorem turn_frame (h : InStep x p) (i : Nat) (answer : Message) :
    ∃ q, Turn ⟨x, .frame i answer⟩ p q := by
  cases hlive : x.client.link.isLive i with
  | false =>
    refine ⟨p, turn_session (t := x.session) h rfl (fun _ => rfl) ?_ rfl ⟨rfl, rfl⟩ ?_⟩
    · intro g _
      by_cases hi : i = g
      · simp [Moment.confirms, ← hi, hlive]
      · simp [Moment.confirms, hi]
    · simp [Moment.after, Site.perform, act, hlive]
  | true =>
    have hconnection : p.connection? = some i := (h.live_iff i).mp hlive
    have hstate : x.client.link.state = .opened i := h.state_eq hconnection
    have hafter : (⟨x, .frame i answer⟩ : Moment).after =
        ⟨(x.client.onMessage answer).1, x.dials + dialsIn (x.client.onMessage answer).2⟩ := by
      simp only [Moment.after, Site.perform, act, hlive, if_true]
    by_cases hcommand : answer.command = .connected
    · have hmessage : x.client.onMessage answer = x.client.onConnected answer := by
        simp only [onMessage, hcommand]
      cases p with
      | closed => cases hconnection
      | dialling => cases hconnection
      | greeted g =>
        obtain rfl := Option.some.inj hconnection
        obtain ⟨link, effects, heq, hdials, hopen, hgives⟩ :=
          onConnected_greeted hstate hlive h.inPhase.2.1 answer
        rw [hmessage, heq, hdials] at hafter
        refine ⟨_, .confirmed ?_ ?_ ?_ ?_ ?_⟩
        · simp [Moment.confirms, hcommand, hlive]
        · rw [hafter]
          rfl
        · rw [hafter]
          rfl
        · rw [hafter]
          exact hgives
        · rw [hafter]
          exact ⟨hopen, rfl, h.inPhase.2.2⟩
      | confirmed g =>
        obtain rfl := Option.some.inj hconnection
        have hup : x.client.session.handshake = .connected := h.inPhase.2.1
        obtain ⟨outgoing, incoming, heq⟩ :=
          onConnected_rested (c := x.client) (by rw [hup]; simp) answer
        rw [hmessage, heq, dialsIn_nil] at hafter
        have hgives := Link.gives_setHeartbeats hstate hlive outgoing incoming
        have hopen : (x.client.link.setHeartbeats outgoing incoming).state = .opened g := by
          simp [Link.setHeartbeats, hstate, Link.change]
        refine ⟨_, .rested (g := g) rfl (fun _ => rfl) (fun _ hp => by cases hp) ?_ ?_ ?_ (Or.inl rfl)⟩
        · rw [hafter]
          exact ⟨rfl, rfl⟩
        · rw [hafter]
          exact hgives
        · rw [hafter]
          exact ⟨hopen, hup, h.inPhase.2.2⟩
    · obtain ⟨receipt, effects, heq, hdials, _⟩ := onMessage_other x.client hcommand
      rw [heq, hdials] at hafter
      refine ⟨p, turn_session (t := { x.session with receipt }) h rfl (fun _ => rfl) ?_ rfl
        ⟨rfl, rfl⟩ hafter⟩
      intro g _
      simp [Moment.confirms, hcommand]

/-! ## What wires do -/

/-- A step of a wire moves the wire's own work on, or the connection is lost by it. -/
theorem turn_wire {m : Moment} (h : InStep m.before p)
    (hasked : submission? m.before.session m.operation = none) (hopens : ∀ i, m.opens i = false)
    (hconfirms : ∀ i, m.confirms i = false) {step : Wire → Wire × Option WireEnd}
    (hworks : ∀ w, m.before.link.wires.get? g = some w → Wire.Works step w)
    (hafter : m.after =
      let taken := m.before.client.onWire (m.before.link.onWire g step)
      ⟨taken.1, m.before.dials + dialsIn taken.2⟩) : ∃ q, Turn m p q := by
  rcases Link.onWire_cases hworks with ⟨link, heq, hstate, hgives⟩ |
    ⟨link, failure, hlive, heq, hstate, hgives⟩
  · rw [heq] at hafter
    have hin : m.after.In p := by
      rw [hafter]
      exact h.inPhase.of_eq hstate rfl rfl
    refine ⟨p, .rested (g := g) hasked hopens (fun i _ => hconfirms i) ?_ ?_ hin (Or.inl rfl)⟩
    · rw [hafter]
      exact ⟨rfl, rfl⟩
    · rw [hafter]
      exact hgives
  · have hconnection : p.connection? = some g := (h.live_iff g).mp hlive
    have hopen : link.state = .opened g := hstate.trans (h.state_eq hconnection)
    have hclosed : (link.wireEnded g).state = .closed := by
      simp [Link.state_wireEnded, hopen, hgives.remote_eq, h.remote]
    rw [heq] at hafter
    have hdials : m.before.dials = 0 := h.dials_eq (by rintro rfl; cases hconnection)
    refine ⟨.closed, .lost hasked hopens hconfirms hconnection ?_ ?_ ?_⟩
    · rw [hafter]
      exact ⟨rfl, rfl⟩
    · rw [hafter]
      exact hgives.loses (Link.loses_wireEnded g)
    · rw [hafter]
      exact ⟨hclosed, rfl, by simp [onWire, onLost?, hdials]⟩

theorem turn_carryOut (h : InStep x p) (g : Nat) (now : Instant) :
    ∃ q, Turn ⟨x, .carryOut g now⟩ p q :=
  turn_wire (m := ⟨x, .carryOut g now⟩) h rfl (fun _ => rfl) (fun _ => rfl)
    (fun _ hw => Wire.works_carryOut (h.unclosed g _ hw) now) rfl

theorem turn_expire (h : InStep x p) (g : Nat) (now : Instant) :
    ∃ q, Turn ⟨x, .expire g now⟩ p q :=
  turn_wire (m := ⟨x, .expire g now⟩) h rfl (fun _ => rfl) (fun _ => rfl)
    (fun w _ => Wire.works_expire w x.link.policy now) rfl

theorem turn_fail (h : InStep x p) (g : Nat) (failure : Failure) :
    ∃ q, Turn ⟨x, .fail g failure⟩ p q :=
  turn_wire (m := ⟨x, .fail g failure⟩) h rfl (fun _ => rfl) (fun _ => rfl)
    (fun w _ => Wire.works_fail w failure) rfl

theorem onWire_kept (c : Client) (g : Nat) (step : Wire → Wire) :
    c.onWire (c.link.onWire g fun w => (step w, none)) =
      ({ c with link := (c.link.onWire g fun w => (step w, none)).1 }, []) := by
  have hnone : (c.link.onWire g fun w => (step w, none)).2 = none := by
    unfold Link.onWire
    split
    · split <;> rfl
    · rfl
  simp only [onWire, hnone, onLost?]

theorem turn_tick (h : InStep x p) (g : Nat) (now : Instant) :
    ∃ q, Turn ⟨x, .tick g now⟩ p q := by
  refine turn_wire (m := ⟨x, .tick g now⟩) (g := g) h rfl (fun _ => rfl) (fun _ => rfl)
    (fun w _ => Wire.works_tick w x.link.policy now) ?_
  rw [onWire_kept]
  rfl

theorem turn_piece (h : InStep x p) (g : Nat) (now : Instant) (bytes : Bytes) :
    ∃ q, Turn ⟨x, .piece g now bytes⟩ p q := by
  refine turn_wire (m := ⟨x, .piece g now bytes⟩) (g := g) h rfl (fun _ => rfl) (fun _ => rfl)
    (fun w _ => Wire.works_receive w now bytes) ?_
  rw [onWire_kept]
  simp only [Moment.after, Site.perform, act, Link.receive_fst]

/-- Every operation takes a client that is in step with its link one turn on. -/
theorem perform_turn (h : InStep x p) (operation : Operation) :
    ∃ q, Turn ⟨x, operation⟩ p q := by
  cases operation with
  | subscribe destination token recipient => exact turn_subscribe h destination token recipient
  | unsubscribe destination => exact turn_unsubscribe h destination
  | send destination payload => exact turn_send h destination payload
  | resend destination payload => exact turn_resend h destination payload
  | begin token => exact turn_begin h token
  | commit => exact turn_commit h
  | await => exact turn_await h
  | leave w => exact turn_leave h w
  | dial => exact turn_dial h
  | dialEnded result => exact turn_dialEnded h result
  | frame g answer => exact turn_frame h g answer
  | piece g now bytes => exact turn_piece h g now bytes
  | carryOut g now => exact turn_carryOut h g now
  | tick g now => exact turn_tick h g now
  | expire g now => exact turn_expire h g now
  | fail g failure => exact turn_fail h g failure

/-! ## Runs -/

/-- What every turn keeps holds where a run ends. -/
theorem reached_preserves {P : Site → Phase → Prop}
    (hturn : ∀ {m : Moment} {p q : Phase}, InStep m.before p → Turn m p q → P m.before p →
      P m.after q) (h : InStep x p) (hp : P x p) (operations : List Operation) :
    ∃ q, InStep (reached x operations) q ∧ P (reached x operations) q := by
  induction operations generalizing x p with
  | nil => exact ⟨p, h, hp⟩
  | cons operation rest ih =>
    obtain ⟨q, t⟩ := perform_turn h operation
    exact ih (t.inStep h) (hturn h t hp)

theorem inStep_reached (h : InStep x p) (operations : List Operation) :
    ∃ q, InStep (reached x operations) q := by
  obtain ⟨q, hq, _⟩ := reached_preserves (P := fun _ _ => True) (fun _ _ h => h) h trivial operations
  exact ⟨q, hq⟩

theorem Turn.generation_le {m : Moment} (t : Turn m p q) :
    m.before.link.generation ≤ m.after.link.generation := by
  cases t with
  | rested _ _ _ _ hgives => exact Nat.le_of_eq hgives.generation_eq.symm
  | held _ _ _ _ hgives => exact Nat.le_of_eq hgives.generation_eq.symm
  | wrote _ _ _ hgives => exact Nat.le_of_eq hgives.generation_eq.symm
  | opened _ _ hopens => exact Nat.le_of_lt (Nat.lt_of_succ_le (Nat.le_of_eq hopens.generation_eq.symm))
  | confirmed _ _ _ hgives => exact Nat.le_of_eq hgives.generation_eq.symm
  | lost _ _ _ _ _ hloses => exact Nat.le_of_eq hloses.generation_eq.symm

theorem Turn.not_isLive {m : Moment} (t : Turn m p q) (hknown : g ≤ m.before.link.generation)
    (hdead : m.before.link.isLive g = false) : m.after.link.isLive g = false := by
  cases t with
  | rested _ _ _ _ hgives => rw [hgives.live_eq, hdead]
  | held _ _ _ _ hgives => rw [hgives.live_eq, hdead]
  | wrote _ _ _ hgives => rw [hgives.live_eq, hdead]
  | opened _ _ hopens =>
    rw [Bool.eq_false_iff, ne_eq, hopens.live_iff, hdead]
    rintro (hno | rfl)
    · cases hno
    · omega
  | confirmed _ _ _ hgives => rw [hgives.live_eq, hdead]
  | lost _ _ _ _ _ hloses =>
    rw [Bool.eq_false_iff, ne_eq, hloses.live_iff, hdead]
    rintro ⟨hno, _⟩
    cases hno

theorem not_isLive_reached (h : InStep x p) (hknown : g ≤ x.link.generation)
    (hdead : x.link.isLive g = false) (operations : List Operation) :
    (reached x operations).link.isLive g = false := by
  obtain ⟨_, _, _, hend⟩ := reached_preserves
    (P := fun y _ => g ≤ y.link.generation ∧ y.link.isLive g = false)
    (fun _ t hg => ⟨Nat.le_trans hg.1 t.generation_le, t.not_isLive hg.1 hg.2⟩) h
    ⟨hknown, hdead⟩ operations
  exact hend

end BrokerRpc.Client
