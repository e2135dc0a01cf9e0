import BrokerRpc.Proofs.Session.Phase

/-! # What callers do to a client

A caller's frame is written in a session. Without one it is parked, and the link is opened; a change
of the channels is only kept.
-/
namespace BrokerRpc.Client

variable {x : Site} {p q : Phase} {g : Nat}

/-! ## Frames that are handed to the link -/

theorem write_opened {c : Client} (hstate : c.link.state = .opened g)
    (hlive : c.link.isLive g = true) (m : Message) :
    c.write m = ({ c with link := c.link.change g (·.order (.frame m)) }, [], .ok ()) := by
  simp [write, onLink, Link.send, hstate, hlive, dialEffects]

theorem writeEach_opened {c : Client} (hstate : c.link.state = .opened g)
    (hlive : c.link.isLive g = true) (frames : List Message) :
    ∃ link, c.writeEach frames = ({ c with link }, []) ∧ link.state = .opened g ∧
      c.link.Gives g frames link := by
  induction frames generalizing c with
  | nil => exact ⟨c.link, rfl, hstate, Link.Gives.refl _ _⟩
  | cons m rest ih =>
    have hfirst : c.link.Gives g [m] (c.link.change g (·.order (.frame m))) :=
      Link.gives_order hlive m
    obtain ⟨link, hrest, hend, hgives⟩ :=
      ih (c := { c with link := c.link.change g (·.order (.frame m)) }) hstate
        ((hfirst.live_eq g).trans hlive)
    refine ⟨link, ?_, hend, hfirst.trans hgives⟩
    rw [writeEach, write_opened hstate hlive]
    simp only [hrest, List.append_nil]

theorem outbox_park {s : Session} (h : s.outbox.length ≤ maxOutbox) (m : Message)
    (collapse : Bool) :
    (s.park m collapse).outbox = newest (s.outbox ++
      (if collapse = true ∧ m ∈ s.outbox then none else some m).toList) := by
  unfold Session.park
  split
  · simp only [Option.toList_none, List.append_nil, newest_of_le h]
  · simp only [Option.toList_some, newest, List.length_append, List.length_singleton]
    split
    · rename_i hfull
      have hlength : s.outbox.length = maxOutbox := Nat.le_antisymm h hfull
      have hone : maxOutbox + 1 - maxOutbox = 1 := by omega
      have hle : 1 ≤ s.outbox.length := by rw [hlength]; decide
      rw [hlength, hone, List.drop_append_of_le_length hle]
    · rename_i hroom
      have hzero : s.outbox.length + 1 - maxOutbox = 0 := by omega
      rw [hzero, List.drop_zero]

@[simp] theorem handshake_park (s : Session) (m : Message) (collapse : Bool) :
    (s.park m collapse).handshake = s.handshake := by
  unfold Session.park
  split <;> rfl

@[simp] theorem channels_park (s : Session) (m : Message) (collapse : Bool) :
    (s.park m collapse).channels = s.channels := by
  unfold Session.park
  split <;> rfl

/-- Without a session a closed link is dialled, and any other is left alone. -/
theorem reconnect_down (h : InStep x p) (hdown : ∀ i, p ≠ .confirmed i) :
    ∃ link dials q, x.link.reconnect = .ok (link, dials) ∧ p.Drifts q ∧ x.link.Gives 0 [] link ∧
      ∀ session : Session, session.handshake = x.session.handshake →
        Site.In ⟨{ x.client with link, session }, x.dials + dialsIn (dialEffects dials)⟩ q := by
  have hphase := h.inPhase
  unfold Link.reconnect
  cases p with
  | closed =>
    obtain ⟨hstate, hidle, hdials⟩ := hphase
    refine ⟨_, true, .dialling, by rw [hstate, h.dialRefusal?_eq], Or.inr ⟨rfl, rfl⟩,
      (Link.Gives.refl x.link 0).withState _ _, ?_⟩
    intro session hsession
    exact ⟨⟨[], rfl⟩, hsession.trans hidle, by simp [hdials, dialEffects, dialsIn]⟩
  | dialling =>
    obtain ⟨⟨waiters, hstate⟩, hidle, hdials⟩ := hphase
    refine ⟨x.link, false, .dialling, by rw [hstate], Or.inl rfl, Link.Gives.refl x.link 0, ?_⟩
    intro session hsession
    exact ⟨⟨waiters, hstate⟩, hsession.trans hidle, hdials⟩
  | greeted i =>
    obtain ⟨hstate, hpending, hdials⟩ := hphase
    refine ⟨x.link, false, .greeted i, by rw [hstate], Or.inl rfl, Link.Gives.refl x.link 0, ?_⟩
    intro session hsession
    exact ⟨hstate, hsession.trans hpending, hdials⟩
  | confirmed i => exact absurd rfl (hdown i)

/-! ## What callers do -/

/-- A frame that is submitted is written in a session and parked without one. -/
theorem turn_submit {m : Moment} (h : InStep m.before p) {frame : Message} (collapse : Bool)
    (hasked : submission? m.before.session m.operation = some frame)
    (hchannels : channelsAfter m.before.session m.operation = m.before.session.channels)
    (hparked : parked? m.before.session m.operation =
      if collapse = true ∧ frame ∈ m.before.session.outbox then none else some frame)
    {s : Session} (hs : s.handshake = m.before.session.handshake)
    (hkeeps : Keeps m.before.session s) :
    ∃ link session effects q,
      Client.submit { m.before.client with session := s } frame collapse =
        ({ m.before.client with link, session }, effects, .ok ()) ∧
      ∀ t : Session, t.handshake = session.handshake → Keeps session t →
        m.after = ⟨{ m.before.client with link, session := t }, m.before.dials + dialsIn effects⟩ →
          Turn m p q := by
  have hconnected : (s.handshake = .connected) ↔ ∃ g, p = .confirmed g := by
    rw [← h.isConnected_iff, hs]
    simp [isConnected]
  by_cases hup : s.handshake = .connected
  -- in a session the open wire gets the frame, and nothing is parked
  · obtain ⟨g, rfl⟩ := hconnected.mp hup
    have hstate : m.before.link.state = .opened g := h.state_eq rfl
    have hlive : m.before.link.isLive g = true := h.isLive rfl
    have hwrite := write_opened (c := { m.before.client with session := s }) hstate hlive frame
    refine ⟨m.before.link.change g (·.order (.frame frame)), s, [], .confirmed g, ?_, ?_⟩
    · rw [submit, isConnected]
      simpa only [hup, decide_true, if_true] using hwrite
    · intro t ht hkept hafter
      refine .wrote hasked ?_ ?_ ?_ ?_
      · rw [hafter, hchannels]
        exact hkept.channels_eq.trans hkeeps.channels_eq
      · rw [hafter]
        exact hkept.outbox_eq.trans hkeeps.outbox_eq
      · rw [hafter]
        exact Link.gives_order hlive frame
      · rw [hafter]
        exact ⟨hstate, ht.trans hup, h.dials_eq (by simp)⟩
  -- without one the link sees no frame: it is dialled at most
  · have hdown : ∀ i, p ≠ .confirmed i := fun i hp => hup (hconnected.mpr ⟨i, hp⟩)
    obtain ⟨link, dials, q, hreconnect, hdrifts, hgives, hin⟩ := reconnect_down h hdown
    refine ⟨link, s.park frame collapse, dialEffects dials, q, ?_, ?_⟩
    · have hreconnect' : Link.reconnect m.before.client.link = .ok (link, dials) := hreconnect
      simp only [submit, isConnected, hup, decide_false, Bool.false_eq_true, if_false, onLink,
        hreconnect']
    · intro t ht hkept hafter
      refine .held (g := 0) hasked hdown ?_ ?_ ?_ ?_ hdrifts
      · rw [hafter, hchannels]
        exact hkept.channels_eq.trans ((channels_park s frame collapse).trans hkeeps.channels_eq)
      · have hle : s.outbox.length ≤ maxOutbox := hkeeps.outbox_eq ▸ h.outbox_le
        rw [hafter, hparked, ← hkeeps.outbox_eq, ← outbox_park hle]
        exact hkept.outbox_eq
      · rw [hafter]
        exact hgives
      · rw [hafter]
        exact hin t (ht.trans ((handshake_park s frame collapse).trans hs))

theorem turn_session {m : Moment} (h : InStep m.before p)
    (hasked : submission? m.before.session m.operation = none) (hopens : ∀ i, m.opens i = false)
    (hconfirms : ∀ i, p = .greeted i → m.confirms i = false) {t : Session}
    (ht : t.handshake = m.before.session.handshake) (hkeeps : Keeps m.before.session t)
    (hafter : m.after = ⟨{ m.before.client with session := t }, m.before.dials⟩) : Turn m p p := by
  have hin : m.after.In p := by
    rw [hafter]
    exact h.inPhase.of_eq rfl ht rfl
  have hgives : m.before.link.Gives 0 [] m.after.link := by
    rw [hafter]
    exact Link.Gives.refl _ _
  exact .rested hasked hopens hconfirms (by rw [hafter]; exact hkeeps) hgives hin (Or.inl rfl)

/-- An operation that comes down to a frame that is submitted. -/
theorem turn_submitted {m : Moment} (h : InStep m.before p) {frame : Message} (collapse : Bool)
    (hasked : submission? m.before.session m.operation = some frame)
    (hchannels : channelsAfter m.before.session m.operation = m.before.session.channels)
    (hparked : parked? m.before.session m.operation =
      if collapse = true ∧ frame ∈ m.before.session.outbox then none else some frame)
    {s : Session} (hs : s.handshake = m.before.session.handshake)
    (hkeeps : Keeps m.before.session s)
    (hafter : let done := Client.submit { m.before.client with session := s } frame collapse
      m.after = ⟨done.1, m.before.dials + dialsIn done.2.1⟩) : ∃ q, Turn m p q := by
  obtain ⟨link, session, effects, q, hsubmit, hturn⟩ :=
    turn_submit h collapse hasked hchannels hparked hs hkeeps
  rw [hsubmit] at hafter
  exact ⟨q, hturn session rfl ⟨rfl, rfl⟩ hafter⟩

theorem turn_send (h : InStep x p) (destination : String) (payload : Bytes) :
    ∃ q, Turn ⟨x, .send destination payload⟩ p q :=
  turn_submitted (m := ⟨x, .send destination payload⟩) h false rfl rfl
    (by simp [parked?, submission?]) (s := x.session) rfl ⟨rfl, rfl⟩ rfl

theorem turn_resend (h : InStep x p) (destination : String) (payload : Bytes) :
    ∃ q, Turn ⟨x, .resend destination payload⟩ p q :=
  turn_submitted (m := ⟨x, .resend destination payload⟩) h true rfl rfl (by simp [parked?])
    (s := x.session) rfl ⟨rfl, rfl⟩ rfl

theorem turn_begin (h : InStep x p) (token : String) : ∃ q, Turn ⟨x, .begin token⟩ p q := by
  cases ht : x.session.transaction with
  | some id =>
    refine ⟨p, turn_session (t := x.session) h ?_ (fun _ => rfl) (fun _ _ => rfl) rfl ⟨rfl, rfl⟩ ?_⟩
    · simp [submission?, ht]
    · simp [Moment.after, Site.perform, act, begin, ht]
  | none =>
    have hasked : submission? x.session (.begin token) = some (Session.beginFrame token) := by
      simp [submission?, ht]
    obtain ⟨link, session, effects, q, hsubmit, hturn⟩ :=
      turn_submit (m := ⟨x, .begin token⟩) h false hasked rfl
        (by simpa [parked?] using hasked) (s := x.session) rfl ⟨rfl, rfl⟩
    have hbegin : x.client.submit (Session.beginFrame token) false =
        ({ x.client with link, session }, effects, .ok ()) := hsubmit
    refine ⟨q, hturn { session with transaction := some token } rfl ⟨rfl, rfl⟩ ?_⟩
    simp [Moment.after, Site.perform, act, begin, ht, hbegin]

theorem turn_commit (h : InStep x p) : ∃ q, Turn ⟨x, .commit⟩ p q := by
  cases ht : x.session.transaction with
  | none =>
    refine ⟨p, turn_session (t := x.session) h ?_ (fun _ => rfl) (fun _ _ => rfl) rfl ⟨rfl, rfl⟩ ?_⟩
    · simp [submission?, ht]
    · simp [Moment.after, Site.perform, act, commit, ht]
  | some id =>
    have hasked : submission? x.session .commit = some (Session.commitFrame id) := by
      simp [submission?, ht]
    refine turn_submitted (m := ⟨x, .commit⟩) h false hasked rfl (by simpa [parked?] using hasked)
      (s := { x.session with transaction := none }) rfl ⟨rfl, rfl⟩ ?_
    simp [Moment.after, Site.perform, act, commit, ht]

theorem turn_channels {m : Moment} (h : InStep m.before p) (frame : Message)
    (hasked : submission? m.before.session m.operation = some frame)
    (hparked : parked? m.before.session m.operation = none) {s : Session}
    (hs : s = { m.before.session with
      channels := channelsAfter m.before.session m.operation })
    {c : Client} (hc : c = { m.before.client with session := s })
    (hup : c.isConnected = true →
      m.after = ⟨(c.write frame).1, m.before.dials + dialsIn (c.write frame).2.1⟩)
    (hdown : c.isConnected = false → m.after = ⟨c, m.before.dials⟩) : Turn m p p := by
  have hsame : c.isConnected = m.before.client.isConnected := by
    rw [hc, hs]
    rfl
  subst hc
  by_cases hp : ∃ g, p = .confirmed g
  · obtain ⟨g, rfl⟩ := hp
    have hafter := hup (hsame.trans h.isConnected_eq)
    rw [write_opened (c := { m.before.client with session := s }) (h.state_eq rfl) (h.isLive rfl)]
      at hafter
    have hin : m.after.In (.confirmed g) := by
      rw [hafter, hs]
      exact h.inPhase.of_eq rfl rfl rfl
    refine .wrote hasked ?_ ?_ ?_ hin
    · rw [hafter, hs]
    · rw [hafter, hs]
    · rw [hafter]
      exact Link.gives_order (h.isLive rfl) frame
  · have hno : ∀ g, p ≠ .confirmed g := fun g hg => hp ⟨g, hg⟩
    have hafter := hdown (hsame.trans (h.isConnected_eq_false hno))
    have hin : m.after.In p := by
      rw [hafter, hs]
      exact h.inPhase.of_eq rfl rfl rfl
    refine .held (g := 0) hasked hno ?_ ?_ ?_ hin (Or.inl rfl)
    · rw [hafter, hs]
    · rw [hafter, hs, hparked, Option.toList_none, List.append_nil, newest_of_le h.outbox_le]
    · rw [hafter]
      exact Link.Gives.refl _ _

theorem turn_subscribe (h : InStep x p) (destination token : String) (recipient : Recipient) :
    ∃ q, Turn ⟨x, .subscribe destination token recipient⟩ p q := by
  cases hc : x.session.channels.contains destination with
  | true =>
    refine ⟨p, turn_session (t := x.session) h ?_ (fun _ => rfl) (fun _ _ => rfl) rfl ⟨rfl, rfl⟩ ?_⟩
    · simp [submission?, hc]
    · simp [Moment.after, Site.perform, act, subscribe, hc]
  | false =>
    let session : Session := { x.session with
      channels := x.session.channels ++ [(destination, ⟨token, recipient⟩)] }
    have hs : session = { x.session with
        channels := channelsAfter x.session (.subscribe destination token recipient) } := by
      simp [session, channelsAfter, hc]
    refine ⟨p, turn_channels h (Session.subscribeFrame destination token)
      (by simp [submission?, hc]) rfl hs (c := { x.client with session }) rfl ?_ ?_⟩
    all_goals
      intro hconnected
      simp only [Moment.after, Site.perform, act, subscribe, hc, Bool.false_eq_true, if_false]
    · rw [if_pos hconnected]
    · rw [if_neg (Bool.eq_false_iff.mp hconnected)]
      rfl

theorem turn_unsubscribe (h : InStep x p) (destination : String) :
    ∃ q, Turn ⟨x, .unsubscribe destination⟩ p q := by
  cases hc : x.session.channels.get? destination with
  | none =>
    refine ⟨p, turn_session (t := x.session) h ?_ (fun _ => rfl) (fun _ _ => rfl) rfl ⟨rfl, rfl⟩ ?_⟩
    · simp [submission?, hc]
    · simp [Moment.after, Site.perform, act, unsubscribe, hc]
  | some channel =>
    let session : Session := { x.session with
      channels := x.session.channels.erase destination }
    refine ⟨p, turn_channels h (Session.unsubscribeFrame channel.token) (s := session)
      (by simp [submission?, hc]) rfl rfl (c := { x.client with session }) rfl ?_ ?_⟩
    all_goals
      intro hconnected
      simp only [Moment.after, Site.perform, act, unsubscribe, hc]
    · rw [if_pos hconnected]
    · rw [if_neg (Bool.eq_false_iff.mp hconnected)]
      rfl

theorem turn_await (h : InStep x p) : ∃ q, Turn ⟨x, .await⟩ p q :=
  ⟨p, turn_session h rfl (fun _ => rfl) (fun _ _ => rfl)
    (t := { x.session with
      waiters := x.session.waiters ++ [x.session.nextWaiter], nextWaiter := x.session.nextWaiter + 1 })
    rfl ⟨rfl, rfl⟩ rfl⟩

theorem turn_leave (h : InStep x p) (w : Waiter) : ∃ q, Turn ⟨x, .leave w⟩ p q :=
  ⟨p, turn_session h rfl (fun _ => rfl) (fun _ _ => rfl) (t := x.session.dropWaiter w)
    rfl ⟨rfl, rfl⟩ rfl⟩

theorem connectOnce_opened (h : InStep x p) (hp : p.connection? = some g) :
    x.link.connectOnce = (x.link, .settled (.ok ())) := by
  simp only [Link.connectOnce, h.state_eq hp]

/-- Without a connection whoever wants one waits for a dial, and one is under way then. -/
theorem connectOnce_down (h : InStep x p) (hp : p.connection? = none) :
    ∃ waiters dials, x.link.connectOnce = x.link.awaiting [] waiters dials ∧
      x.dials + dialsIn (dialEffects dials) = 1 := by
  have hphase := h.inPhase
  cases p with
  | closed =>
    obtain ⟨hstate, _, hdials⟩ := hphase
    refine ⟨[], true, by simp only [Link.connectOnce, hstate, h.dialRefusal?_eq], ?_⟩
    rw [hdials]
    rfl
  | dialling =>
    obtain ⟨⟨waiters, hstate⟩, _, hdials⟩ := hphase
    exact ⟨waiters, false, by simp only [Link.connectOnce, hstate], hdials⟩
  | greeted i => cases hp
  | confirmed i => cases hp

theorem perform_dial_down {waiters : List Waiter} {dials : Bool}
    (hconnect : x.link.connectOnce = x.link.awaiting [] waiters dials)
    (hdials : x.dials + dialsIn (dialEffects dials) = 1) :
    x.perform .dial = ⟨{ x.client with link := (x.link.awaiting [] waiters dials).1 }, 1⟩ := by
  have hopen : x.client.openLink =
      ({ x.client with link := (x.link.awaiting [] waiters dials).1 }, dialEffects dials) := by
    simp only [openLink, hconnect, Link.awaiting]
  simp only [Site.perform, act, hopen, hdials]

theorem turn_dial (h : InStep x p) : ∃ q, Turn ⟨x, .dial⟩ p q := by
  cases hp : p.connection? with
  | some g =>
    have hafter : x.perform .dial = x := by
      simp only [Site.perform, act, openLink, connectOnce_opened h hp, dialsIn_nil, Nat.add_zero]
    refine ⟨p, turn_session (t := x.session) h rfl (fun _ => rfl) (fun _ _ => rfl) rfl ⟨rfl, rfl⟩ ?_⟩
    exact hafter
  | none =>
    obtain ⟨waiters, dials, hconnect, hdials⟩ := connectOnce_down h hp
    have hafter := perform_dial_down hconnect hdials
    refine ⟨.dialling, .rested (g := 0) rfl (fun _ => rfl) (fun _ _ => rfl) ?_ ?_ ?_
      (Or.inr ⟨hp, rfl⟩)⟩
    · rw [Moment.after, hafter]
      exact ⟨rfl, rfl⟩
    · rw [Moment.after, hafter]
      exact (Link.Gives.refl x.link 0).withState (.connecting [] (waiters ++ [x.link.nextWaiter]))
        (x.link.nextWaiter + 1)
    · rw [Moment.after, hafter]
      exact ⟨⟨_, rfl⟩, h.connection?_eq_none_iff.mp hp, rfl⟩

end BrokerRpc.Client
