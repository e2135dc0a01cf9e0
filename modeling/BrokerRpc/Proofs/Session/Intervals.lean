import BrokerRpc.Proofs.Link.Pace
import BrokerRpc.Proofs.Session.Routing

/-! # The intervals of a session

Every confirmation that arrives while the link is open hands it the intervals that it settles,
whether somebody waits for it or not, and nothing else ever hands it any. So a connection goes at
the pace of the last confirmation that arrived on the open link.
-/
namespace BrokerRpc.Client

/-- The intervals that a frame hands to a connection if it arrives now. -/
def handed? (c : Client) (g : Nat) (m : Message) : Option (Nat × Nat) :=
  if m.command = .connected ∧ c.link.state = .opened g then
    some (settledHeartbeats c.link.policy m)
  else none

def handedIn (c : Client) (events : List Event) (g : Nat) : List (Nat × Nat) :=
  (c.arrivalsIn events).filterMap fun x => x.1.handed? g x.2

/-- The pace of a connection that was handed some intervals in order. -/
def paceAfter (pace : Pace) (handed : List (Nat × Nat)) : Pace :=
  (handed.getLast?.map Wire.paceOf).getD pace

theorem paceAfter_append (pace : Pace) (first rest : List (Nat × Nat)) :
    paceAfter pace (first ++ rest) = paceAfter (paceAfter pace first) rest := by
  rw [paceAfter, paceAfter, paceAfter, List.getLast?_append]
  cases rest.getLast? <;> rfl

/-! ## Steps that hand over nothing -/

theorem keepsPace_onLink {c : Client} {result : Except Failure (Link × Bool)}
    (h : ∀ link dials, result = .ok (link, dials) → c.link.KeepsPace link) :
    c.link.KeepsPace (c.onLink result).1.link := by
  cases result with
  | ok opened => exact h opened.1 opened.2 rfl
  | error _ => exact .refl c.link

theorem keepsPace_write (c : Client) (session : Session) (m : Message) :
    c.link.KeepsPace ({ c with session }.write m).1.link :=
  keepsPace_onLink (c := { c with session }) fun _ _ h => Link.keepsPace_send h

theorem keepsPace_writeEach (c : Client) (frames : List Message) :
    c.link.KeepsPace (c.writeEach frames).1.link := by
  induction frames generalizing c with
  | nil => exact .refl c.link
  | cons m rest ih =>
    have hwrite := keepsPace_write c c.session m
    unfold writeEach
    split
    all_goals
      rename_i he
      rw [he] at hwrite
    · exact hwrite.trans (ih _)
    · exact hwrite

theorem keepsPace_submit (c : Client) (session : Session) (m : Message) (collapse : Bool) :
    c.link.KeepsPace ({ c with session }.submit m collapse).1.link := by
  unfold submit
  split
  · exact keepsPace_write c session m
  · exact keepsPace_onLink (c := { c with session := session.park m collapse })
      fun _ _ h => Link.keepsPace_reconnect h

theorem link_onLost? (c : Client) (failure : Option Failure) :
    (c.onLost? failure).1.link = c.link := by
  cases failure <;> rfl

theorem keepsPace_onWire {c : Client} {step : Link × Option Failure}
    (h : c.link.KeepsPace step.1) : c.link.KeepsPace (c.onWire step).1.link := by
  rw [onWire, link_onLost?]
  exact h

theorem keepsPace_dialEnded (c : Client) (result : Except Failure Unit) :
    c.link.KeepsPace (c.dialEnded result).1.link := by
  cases result with
  | ok _ => exact Link.keepsPace_dialSucceeded c.link _
  | error failure =>
    rw [dialEnded, link_onLost?]
    exact Link.keepsPace_dialFailed c.link failure

theorem keepsPace_sayGoodbye (c : Client) (token : String) :
    c.link.KeepsPace (c.sayGoodbye token).1.link := by
  have hwrite := keepsPace_write c { c.session with receipt := some token }
    (Session.disconnectFrame token)
  unfold sayGoodbye
  split
  · dsimp only
    split
    all_goals
      rename_i he
      rw [he] at hwrite
      exact hwrite
  · exact .refl c.link

theorem keepsPace_act (c : Client) {operation : Operation} (h : ∀ g m, operation ≠ .frame g m) :
    c.link.KeepsPace (c.act operation).1.link := by
  cases operation with
  | subscribe destination token recipient =>
    simp only [act, subscribe]
    split
    · exact .refl c.link
    · split
      · exact keepsPace_write c _ _
      · exact .refl c.link
  | unsubscribe destination =>
    simp only [act, unsubscribe]
    split
    · exact .refl c.link
    · split
      · exact keepsPace_write c _ _
      · exact .refl c.link
  | send destination payload => exact keepsPace_submit c c.session _ _
  | resend destination payload => exact keepsPace_submit c c.session _ _
  | begin token =>
    have hsubmit := keepsPace_submit c c.session (Session.beginFrame token) false
    simp only [act, begin]
    split
    · exact .refl c.link
    · split
      all_goals
        rename_i he
        rw [he] at hsubmit
        exact hsubmit
  | commit =>
    simp only [act, commit]
    split
    · exact .refl c.link
    · exact keepsPace_submit c _ _ _
  | await => exact .refl c.link
  | leave w => exact .refl c.link
  | dial =>
    have hopen := Link.keepsPace_connectOnce c.link
    simp only [act, openLink]
    split
    all_goals
      rename_i he
      rw [he] at hopen
      exact hopen
  | dialEnded result => exact keepsPace_dialEnded c result
  | frame g m => exact absurd rfl (h g m)
  | piece g now bytes => exact Link.keepsPace_receive c.link g now bytes
  | carryOut g now => exact keepsPace_onWire (Link.keepsPace_onWire fun w => w.pace_carryOut now)
  | tick g now => exact Link.keepsPace_onWire fun w => w.pace_tick c.link.policy now
  | expire g now =>
    exact keepsPace_onWire (Link.keepsPace_onWire fun w => w.pace_expire c.link.policy now)
  | fail g failure => exact keepsPace_onWire (Link.keepsPace_onWire fun _ => rfl)

/-! ## Steps and what they hand over -/

structure Hands (c : Client) (handed : Nat → List (Nat × Nat)) (c' : Client) : Prop where
  wired : c.link.Wired → c'.link.Wired
  pace_eq : c.link.Wired → ∀ g, c'.link.pace g = paceAfter (c.link.pace g) (handed g)

namespace Hands

theorem of_keepsPace {c c' : Client} (h : c.link.KeepsPace c'.link) : Hands c (fun _ => []) c' :=
  ⟨h.wired, fun _ => h.pace_eq⟩

theorem trans {c c' c'' : Client} {first rest : Nat → List (Nat × Nat)} (h : Hands c first c')
    (h' : Hands c' rest c'') : Hands c (fun g => first g ++ rest g) c'' :=
  ⟨fun hw => h'.wired (h.wired hw), fun hw g => by
    rw [h'.pace_eq (h.wired hw), h.pace_eq hw, paceAfter_append]⟩

theorem congr {c c' : Client} {handed other : Nat → List (Nat × Nat)} (h : Hands c handed c')
    (heq : ∀ g, other g = handed g) : Hands c other c' := by
  rwa [funext heq]

end Hands

/-- Handing over the intervals comes first, and what a confirmation does then changes none. -/
theorem keepsPace_onConnected (c : Client) (m : Message) :
    (c.link.setHeartbeats (settledHeartbeats c.link.policy m).1
      (settledHeartbeats c.link.policy m).2).KeepsPace (c.onConnected m).1.link := by
  simp only [onConnected]
  split
  · exact keepsPace_writeEach
      { c with link := c.link.setHeartbeats _ _, session := c.session.confirmed } _
  · exact .refl _

theorem hands_onMessage (c : Client) (m : Message) :
    Hands c (fun g => (c.handed? g m).toList) (c.onMessage m).1 := by
  by_cases hcommand : m.command = .connected
  · have hmessage : c.onMessage m = c.onConnected m := by simp only [onMessage, hcommand]
    have hkeeps := keepsPace_onConnected c m
    rw [hmessage]
    refine ⟨fun hw => hkeeps.wired (Link.wired_setHeartbeats hw _ _), fun hw g => ?_⟩
    rw [hkeeps.pace_eq, Link.pace_setHeartbeats hw, handed?]
    by_cases hopen : c.link.state = .opened g <;> simp [hcommand, hopen, paceAfter]
  · obtain ⟨receipt, effects, heq, _⟩ := onMessage_other c hcommand
    rw [heq]
    have hkeeps : Hands c (fun _ => []) { c with session := { c.session with receipt } } :=
      .of_keepsPace (.refl c.link)
    exact hkeeps.congr fun g => by simp [handed?, hcommand]

theorem hands_onMessages (c : Client) (ms : List Message) :
    Hands c (fun g => (c.finding ms).filterMap fun x => x.1.handed? g x.2) (c.onMessages ms).1 := by
  induction ms generalizing c with
  | nil => exact .of_keepsPace (.refl c.link)
  | cons m rest ih =>
    refine ((hands_onMessage c m).trans (ih (c.onMessage m).1)).congr fun g => ?_
    rw [finding, List.filterMap_cons]
    cases c.handed? g m <;> rfl

theorem hands_receive (c : Client) (g : Nat) (now : Instant) (bytes : Bytes) :
    Hands c (fun i => (c.arrivals (.receive g now bytes)).filterMap fun x => x.1.handed? i x.2)
      (c.receive g now bytes).1 := by
  let reading : Client := { c with link := (c.link.receive g now bytes).1 }
  let messages := (c.link.receive g now bytes).2.1
  have hreading : Hands c (fun _ => []) reading :=
    .of_keepsPace (Link.keepsPace_receive c.link g now bytes)
  have hread : Hands c (fun i => (reading.finding messages).filterMap fun x => x.1.handed? i x.2)
      (reading.onMessages messages).1 := hreading.trans (hands_onMessages reading messages)
  rw [receive]
  cases hended : (c.link.receive g now bytes).2.2 with
  | none =>
    simp only [hended]
    exact hread
  | some ended =>
    simp only [hended]
    -- the messages were handled before the wire ends
    refine (hread.trans (.of_keepsPace (keepsPace_onWire ?_))).congr fun _ =>
      (List.append_nil _).symm
    exact Link.keepsPace_wireEnded _ g

theorem hands_happen (c : Client) (event : Event) :
    Hands c (fun g => (c.arrivals event).filterMap fun x => x.1.handed? g x.2)
      (c.happen event).1 := by
  cases event with
  | act operation =>
    cases operation with
    | frame g m =>
      cases hlive : c.link.isLive g with
      | true =>
        simp only [happen, act, arrivals, hlive, if_true]
        refine (hands_onMessage c m).congr fun i => ?_
        cases hhanded : c.handed? i m <;> simp [hhanded]
      | false =>
        simp only [happen, act, arrivals, hlive, Bool.false_eq_true, if_false]
        exact .of_keepsPace (.refl c.link)
    | _ => exact .of_keepsPace (keepsPace_act c (by simp))
  | receive g now bytes => exact hands_receive c g now bytes
  | goodbye token => exact .of_keepsPace (keepsPace_sayGoodbye c token)
  | stop => exact .of_keepsPace (Link.keepsPace_close c.link)
  | setPolicy policy => exact .of_keepsPace (.of_wires_eq rfl fun _ => id)
  | stopLoop => exact .of_keepsPace (Link.keepsPace_stopLoop c.link)

theorem hands_after (c : Client) (events : List Event) :
    Hands c (c.handedIn events) (c.after events) := by
  induction events generalizing c with
  | nil => exact .of_keepsPace (.refl c.link)
  | cons event rest ih =>
    refine ((hands_happen c event).trans (ih (c.happen event).1)).congr fun g => ?_
    rw [handedIn, arrivalsIn, List.filterMap_append]
    rfl

/-! ## Confirmations that nobody waits for -/

/-- A frame is ignored: it has no effect, and neither the session nor what connections are given to
write nor the intervals of any of them change. -/
structure Ignores (c : Client) (m : Message) : Prop where
  silent : (c.onMessage m).2 = []
  session_eq : (c.onMessage m).1.session = c.session
  sent_eq : ∀ g, (c.onMessage m).1.link.sent g = c.link.sent g
  pace_eq : ∀ g, (c.onMessage m).1.link.pace g = c.link.pace g

theorem onMessage_unawaited {c : Client} {m : Message} (hcommand : m.command = .connected)
    (hhandshake : c.session.handshake ≠ .pending) :
    let intervals := settledHeartbeats c.link.policy m
    c.onMessage m = ({ c with link := c.link.setHeartbeats intervals.1 intervals.2 }, []) := by
  simp only [onMessage, hcommand, onConnected, hhandshake, if_false]

/-- At any time the pace of a connection is that of the intervals that it was handed last. A
confirmation that nobody waits for writes nothing, tells nobody and leaves the session as it is. But
it hands its intervals to the open link, so that it is ignored exactly if the link is not open, or
goes at the pace of these intervals anyway. -/
theorem unawaited_confirmation (host : String) (port : Nat) (policy : Policy) (timeout : Duration)
    (past : List Event) :
    let first := new (.new host port policy) timeout
    let c := first.after past
    (∀ g, c.link.pace g = paceAfter (none, none) (first.handedIn past g)) ∧
    ∀ m : Message, m.command = .connected → c.session.handshake ≠ .pending →
      let intervals := settledHeartbeats c.link.policy m
      c.onMessage m = ({ c with link := c.link.setHeartbeats intervals.1 intervals.2 }, []) ∧
      (∀ g, (c.onMessage m).1.link.sent g = c.link.sent g) ∧
      (∀ g, (c.onMessage m).1.link.pace g =
        if c.link.state = .opened g then Wire.paceOf intervals else c.link.pace g) ∧
      (c.Ignores m ↔ ∀ g, c.link.state = .opened g →
        paceAfter (none, none) (first.handedIn past g) = Wire.paceOf intervals) := by
  intro first c
  have hfirst : first.link.Wired := fun g hg => by cases hg
  have hands := hands_after first past
  have hpace : ∀ g, c.link.pace g = paceAfter (none, none) (first.handedIn past g) :=
    hands.pace_eq hfirst
  refine ⟨hpace, fun m hcommand hhandshake => ?_⟩
  intro intervals
  have hmessage := onMessage_unawaited hcommand hhandshake
  have hsent : ∀ g, (c.onMessage m).1.link.sent g = c.link.sent g := fun g => by
    rw [hmessage]
    exact Link.sent_setHeartbeats c.link _ _ g
  have hrepaced : ∀ g, (c.onMessage m).1.link.pace g =
      if c.link.state = .opened g then Wire.paceOf intervals else c.link.pace g := fun g => by
    rw [hmessage]
    exact Link.pace_setHeartbeats (hands.wired hfirst) _ _ g
  refine ⟨hmessage, hsent, hrepaced, fun hignored g hopen => ?_, fun hsame => ?_⟩
  · rw [← hpace, ← hignored.pace_eq, hrepaced, if_pos hopen]
  · refine ⟨congrArg Prod.snd hmessage, congrArg (·.1.session) hmessage, hsent, fun g => ?_⟩
    rw [hrepaced]
    split
    · rename_i hopen
      rw [hpace, hsame g hopen]
    · rfl

/-- The session is confirmed without heartbeats. A second confirmation has the client watch over the
silence of the broker, and drop a connection that it would have kept. -/
theorem dropped_after_unawaited_confirmation :
    let policy := Policy.new (.ofSeconds 10) 3 (.ofMillis 200) (.ofMillis 0) []
    let c := (new (.new "broker" 61613 policy) (.ofSeconds 10)).after
      [.act .dial, .act (.dialEnded (.ok ())), .act (.carryOut 1 0),
        .act (.frame 1 (.new .connected)), .act (.carryOut 1 0)]
    let m := (Message.new .connected).withField .heartBeat "200,0"
    let rest : List Event := [.act (.carryOut 1 0), .act (.expire 1 1000000000)]
    m.command = .connected ∧ c.session.handshake = .connected ∧ c.link.pace 1 = (none, none) ∧
      (c.onMessage m).1.link.pace 1 = (none, some (.ofMillis 300)) ∧ ¬ c.Ignores m ∧
      (c.after rest).link.isOpen = true ∧ ((c.onMessage m).1.after rest).link.isOpen = false := by
  intro policy c m rest
  have hbefore : c.link.pace 1 = (none, none) := by decide
  have hafter : (c.onMessage m).1.link.pace 1 = (none, some (.ofMillis 300)) := by decide
  refine ⟨by decide, by decide, hbefore, hafter, fun hignored => ?_, by decide, by decide⟩
  have hsame := hignored.pace_eq 1
  rw [hbefore, hafter] at hsame
  exact absurd hsame (by decide)

end BrokerRpc.Client
