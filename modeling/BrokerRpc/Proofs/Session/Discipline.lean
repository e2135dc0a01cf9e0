import BrokerRpc.Proofs.Session.Traffic

/-! # Discipline on the wire

A connection is given its greeting, then nothing until it is confirmed, then the subscriptions, what
was parked, and whatever is asked for after that. What is parked are the newest of the frames that
were to be parked since the last confirmation.
-/
namespace BrokerRpc.Client

namespace Moment

def parks? (m : Moment) : Option Message :=
  if m.before.client.isConnected then none else parked? m.before.session m.operation

def settles (m : Moment) : Bool := !m.before.client.isConnected && m.after.client.isConnected

end Moment

/-- The frames that were parked at some moments since the session began last; `parked` are those
from before. -/
def parkedIn (parked : List Message) : List Moment → List Message
  | [] => parked
  | m :: rest => parkedIn (if m.settles then [] else parked ++ m.parks?.toList) rest

theorem newest_newest_append (frames more : List Message) :
    newest (newest frames ++ more) = newest (frames ++ more) := by
  by_cases hle : frames.length ≤ maxOutbox
  · rw [newest_of_le hle]
  -- what was dropped from the front before is dropped with all that joins it
  · have hlength : (newest frames).length = maxOutbox := by
      rw [newest, List.length_drop]
      omega
    have hover : frames.length + more.length - maxOutbox =
        (frames.length - maxOutbox) + more.length := by omega
    have hsplit : (frames ++ more).drop (frames.length - maxOutbox) = newest frames ++ more :=
      List.drop_append_of_le_length (Nat.sub_le _ _)
    simp only [newest, List.length_append] at hlength hsplit ⊢
    rw [hover, ← List.drop_drop, hsplit, hlength, Nat.add_sub_cancel_left]

variable {m : Moment} {p q : Phase} {g : Nat}

theorem Moment.settles_iff (h : InStep m.before p) (h' : InStep m.after q) :
    m.settles = true ↔ (∀ g, p ≠ .confirmed g) ∧ ∃ g, q = .confirmed g := by
  simp only [settles, Bool.and_eq_true, Bool.not_eq_true', h'.isConnected_iff]
  refine and_congr_left fun _ => ⟨?_, h.isConnected_eq_false⟩
  rintro hdown g rfl
  rw [h.isConnected_eq] at hdown
  cases hdown

theorem Moment.settles_eq_false (h : InStep m.before p) (h' : InStep m.after q)
    (hkept : ∀ g, q = .confirmed g → p = .confirmed g) : m.settles = false := by
  rw [Bool.eq_false_iff, ne_eq, settles_iff h h']
  rintro ⟨hdown, g, hq⟩
  exact hdown g (hkept g hq)

theorem Phase.Drifts.eq_of_confirmed (h : p.Drifts q) (hq : q = .confirmed g) :
    p = .confirmed g := by
  have hopen : q.connection? = some g := by
    rw [hq]
    rfl
  exact (h.eq_of_connection? hopen).symm.trans hq

theorem Turn.outbox_eq (t : Turn m p q) (h : InStep m.before p) :
    m.after.session.outbox =
      if m.settles then [] else newest (m.before.session.outbox ++ m.parks?.toList) := by
  have h' := t.inStep h
  have hnewest : newest m.before.session.outbox = m.before.session.outbox :=
    newest_of_le h.outbox_le
  have hkept : m.settles = false → submission? m.before.session m.operation = none →
      m.after.session.outbox = m.before.session.outbox → m.after.session.outbox =
        if m.settles then [] else newest (m.before.session.outbox ++ m.parks?.toList) := by
    intro hno hasked hsame
    simp [hno, Moment.parks?, parked?_of_none hasked, hsame, hnewest]
  cases t with
  | rested hasked _ _ hkeeps _ _ hdrifts =>
    have hno := Moment.settles_eq_false h h' fun _ => hdrifts.eq_of_confirmed
    exact hkept hno hasked hkeeps.outbox_eq
  | held _ hdown _ houtbox _ _ hdrifts =>
    have hno := Moment.settles_eq_false h h' fun _ => hdrifts.eq_of_confirmed
    simp [houtbox, hno, Moment.parks?, h.isConnected_eq_false hdown]
  | wrote _ _ houtbox _ _ =>
    have hno := Moment.settles_eq_false h h' fun _ hq => hq
    simp [houtbox, hno, Moment.parks?, h.isConnected_eq, hnewest]
  | opened hopens hkeeps _ _ =>
    have hno := Moment.settles_eq_false h h' fun _ hq => by cases hq
    exact hkept hno (submission?_of_opens hopens _) hkeeps.outbox_eq
  | confirmed _ _ houtbox _ _ =>
    have hyes : m.settles = true :=
      (Moment.settles_iff h h').mpr ⟨fun _ hp => (by cases hp), _, rfl⟩
    simp [hyes, houtbox]
  | lost hasked _ _ _ hkeeps _ _ =>
    have hno := Moment.settles_eq_false h h' fun _ hq => by cases hq
    exact hkept hno hasked hkeeps.outbox_eq

/-- After any operations a client is in step with its link, and the newest of what was to be parked
is parked. -/
theorem outbox_reached {x : Site} (h : InStep x p) (parked : List Message)
    (hparked : x.session.outbox = newest parked) (operations : List Operation) :
    (∃ q, InStep (reached x operations) q) ∧
      (reached x operations).session.outbox = newest (parkedIn parked (history x operations)) := by
  induction operations generalizing x p parked with
  | nil => exact ⟨⟨p, h⟩, hparked⟩
  | cons operation rest ih =>
    obtain ⟨q, t⟩ := perform_turn h operation
    have houtbox := t.outbox_eq h
    have hnext : (x.perform operation).session.outbox =
        newest (if (⟨x, operation⟩ : Moment).settles then []
          else parked ++ (⟨x, operation⟩ : Moment).parks?.toList) := by
      change (x.perform operation).session.outbox = _ at houtbox
      rw [houtbox]
      split
      · rfl
      · change newest (x.session.outbox ++ _) = _
        rw [hparked, newest_newest_append]
    exact ih (t.inStep h) _ hnext

/-! ## The first frames of a connection -/

theorem traffic_greeted {moments : List Moment} (h : ∀ m ∈ moments, m.confirms g = false) :
    traffic g .greeted moments = [] := by
  induction moments with
  | nil => rfl
  | cons m rest ih =>
    have hm := h m List.mem_cons_self
    have hrest := ih fun m' hm' => h m' (List.mem_cons_of_mem _ hm')
    simp [traffic, Moment.due, Moment.stageAfter, hm, hrest]

theorem length_traffic_le {moments : List Moment} (h : ∀ m ∈ moments, m.confirms g = false) :
    (traffic g .unopened moments).length ≤ 1 := by
  induction moments with
  | nil => simp [traffic]
  | cons m rest ih =>
    have hrest : ∀ m' ∈ rest, m'.confirms g = false := fun m' hm' => h m' (List.mem_cons_of_mem _ hm')
    cases hopens : m.opens g with
    | true => simp [traffic, Moment.due, Moment.stageAfter, hopens, traffic_greeted hrest]
    | false => simpa [traffic, Moment.due, Moment.stageAfter, hopens] using ih hrest

theorem command_of_head?_traffic {moments : List Moment} {frame : Message}
    (h : (traffic g .unopened moments).head? = some frame) : frame.command = .connect := by
  induction moments with
  | nil => cases h
  | cons m rest ih =>
    cases hopens : m.opens g with
    | true =>
      simp only [traffic, Moment.due, hopens, if_true, List.cons_append, List.head?_cons,
        Option.some.injEq] at h
      exact h ▸ rfl
    | false =>
      simp only [traffic, Moment.due, Moment.stageAfter, hopens, Bool.false_eq_true, if_false,
        List.nil_append] at h
      exact ih h

theorem session_resend (c : Client) (hdown : c.isConnected = false) {destination : String}
    {payload : Bytes}
    (hmem : Session.sendFrame destination c.session.transaction payload ∈ c.session.outbox) :
    (c.resend destination payload).1.session = c.session := by
  have hpark : c.session.park (Session.sendFrame destination c.session.transaction payload) true =
      c.session := by
    simp [Session.park, hmem]
  simp only [resend, submit, hdown, Bool.false_eq_true, if_false, hpark]
  unfold onLink
  split <;> rfl

/-- After any operations each connection was given exactly the frames that it was due, and what is
written of them is a part from the front: first the greeting, and nothing more until a confirmation
arrives on it; then the subscription of each channel, what was parked, and what is asked for later.
What is parked are the newest of the frames to be parked since the last confirmation; in a session
nothing is parked, and a frame that is parked already absorbs one that is sent again. -/
theorem sent_eq_traffic_and_outbox_eq_newest (host : String) (port : Nat) (policy : Policy)
    (timeout : Duration) (operations : List Operation) :
    let x := Site.start host port policy timeout
    let moments := history x operations
    let y := reached x operations
    (∀ g, y.link.sent g = traffic g .unopened moments ∧
      (∀ w, y.link.wires.get? g = some w → w.frames <+: y.link.sent g) ∧
      (∀ frame, (y.link.sent g).head? = some frame → frame.command = .connect) ∧
      ((∀ m ∈ moments, m.confirms g = false) → (y.link.sent g).length ≤ 1)) ∧
    y.session.channels.Distinct ∧
    y.session.outbox = newest (parkedIn [] moments) ∧
    y.session.outbox.length ≤ maxOutbox ∧
    (y.client.isConnected = true → y.session.outbox = []) ∧
    ∀ destination payload,
      Session.sendFrame destination y.session.transaction payload ∈ y.session.outbox →
        (y.client.resend destination payload).1.session = y.session := by
  intro x moments y
  have hstart : InStep x .closed := inStep_start host port policy timeout
  obtain ⟨⟨q, hend⟩, houtbox⟩ := outbox_reached hstart [] rfl operations
  have hempty : y.client.isConnected = true → y.session.outbox = [] := by
    intro hup
    obtain ⟨g, rfl⟩ := hend.isConnected_iff.mp hup
    exact hend.outbox_confirmed g rfl
  refine ⟨?_, hend.channels_distinct, houtbox, hend.outbox_le, hempty, ?_⟩
  · intro g
    have hfits : Fits x .closed g .unopened := List.not_mem_nil
    have hsent : y.link.sent g = traffic g .unopened moments :=
      sent_reached hstart hfits operations
    refine ⟨hsent, ?_, ?_, ?_⟩
    · intro w hw
      have hwire : y.link.sent g = w.frames ++ w.queued := by
        simp only [Link.sent, hw, Wire.sent]
      exact ⟨w.queued, hwire.symm⟩
    · intro frame hhead
      exact command_of_head?_traffic (hsent ▸ hhead)
    · intro hquiet
      rw [hsent]
      exact length_traffic_le hquiet
  · intro destination payload hmem
    have hdown : y.client.isConnected = false := by
      rw [Bool.eq_false_iff]
      intro hup
      rw [hempty hup] at hmem
      cases hmem
    exact session_resend y.client hdown hmem

/-- Two frames are parked and one is sent again before the connection is confirmed. -/
example :
    let operations : List Operation :=
      [.send "a" [1], .resend "a" [1], .subscribe "r" "t" 0, .resend "b" [2], .dialEnded (.ok ()),
        .frame 1 (.new .connected), .unsubscribe "r"]
    let y := reached (.start "broker" 61613 (.withRetry ⟨0⟩ 1 ⟨0⟩) ⟨0⟩) operations
    (y.link.sent 1).map (·.command) = [.connect, .subscribe, .send, .send, .unsubscribe] := by
  decide

end BrokerRpc.Client
