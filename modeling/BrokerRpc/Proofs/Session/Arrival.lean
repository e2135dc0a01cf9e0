import BrokerRpc.Proofs.Session.Step

/-! # Bytes that arrive

What a client does with bytes is a run: the wire takes them in, the frames that they complete arrive
one by one, and the wire fails if an unfinished frame grew too large.
-/
namespace BrokerRpc.Client

variable {x : Site} {p : Phase} {g : Nat}

theorem change_self {l : Link} {w : Wire} (hd : l.wires.Distinct)
    (hw : l.wires.get? g = some w) : l.change g (fun _ => w) = l := by
  have hsame : ∀ entry ∈ l.wires, (if entry.1 = g then (entry.1, w) else entry) = entry := by
    intro entry hmem
    split
    · rename_i hkey
      have hfound : l.wires.get? g = some entry.2 := (Assoc.mem_iff_get? hd).mp (hkey ▸ hmem)
      rw [hw, Option.some.injEq] at hfound
      rw [hfound]
    · rfl
  have hwires : l.wires.modify g (fun _ => w) = l.wires :=
    (List.map_congr_left hsame).trans (List.map_id' _)
  rw [Link.change, hwires]

theorem fail_of_live {c : Client} (hd : c.link.wires.Distinct) (hlive : c.link.isLive g = true)
    (failure : Failure) : c.fail g failure = c.onWire (c.link.wireEnded g, some failure) := by
  obtain ⟨w, hw, hended⟩ := Link.isLive_iff.mp hlive
  simp only [fail, Link.fail, Link.onWire, hw, hended, Bool.false_eq_true, if_false, Link.take,
    change_self hd hw, Link.lost?]

theorem isLive_onMessage (h : InStep x p) (hlive : x.client.link.isLive g = true) (m : Message) :
    (x.client.onMessage m).1.link.isLive g = true := by
  have hconnection : p.connection? = some g := (h.live_iff g).mp hlive
  have hstate : x.client.link.state = .opened g := h.state_eq hconnection
  by_cases hcommand : m.command = .connected
  · have hmessage : x.client.onMessage m = x.client.onConnected m := by
      simp only [onMessage, hcommand]
    rw [hmessage]
    by_cases hpending : x.client.session.handshake = .pending
    · obtain ⟨link, effects, heq, _, _, hgives⟩ := onConnected_greeted hstate hlive hpending m
      rw [heq]
      exact (hgives.live_eq g).trans hlive
    · obtain ⟨outgoing, incoming, heq⟩ := onConnected_rested hpending m
      rw [heq]
      exact ((Link.gives_setHeartbeats hstate hlive outgoing incoming).live_eq g).trans hlive
  · obtain ⟨receipt, effects, heq, _⟩ := onMessage_other x.client hcommand
    rw [heq]
    exact hlive

theorem reached_frames (h : InStep x p) (hlive : x.link.isLive g = true) (messages : List Message) :
    reached x (messages.map (.frame g)) =
        ⟨(x.client.onMessages messages).1, x.dials + dialsIn (x.client.onMessages messages).2⟩ ∧
      (∃ q, InStep (reached x (messages.map (.frame g))) q) ∧
      (reached x (messages.map (.frame g))).link.isLive g = true := by
  induction messages generalizing x p with
  | nil => exact ⟨rfl, ⟨p, h⟩, hlive⟩
  | cons m rest ih =>
    have hfirst : x.perform (.frame g m) =
        ⟨(x.client.onMessage m).1, x.dials + dialsIn (x.client.onMessage m).2⟩ := by
      have hlive' : x.client.link.isLive g = true := hlive
      simp only [Site.perform, act, hlive', if_true]
    obtain ⟨q, t⟩ := perform_turn h (.frame g m)
    have hnext : InStep (x.perform (.frame g m)) q := t.inStep h
    have hlive' := isLive_onMessage h hlive m
    rw [List.map_cons]
    change reached (x.perform (.frame g m)) _ = _ ∧ (∃ q, InStep (reached (x.perform _) _) q) ∧
      (reached (x.perform _) _).link.isLive g = true
    rw [hfirst] at hnext ⊢
    obtain ⟨heq, hstep, hend⟩ := ih hnext hlive'
    refine ⟨?_, hstep, hend⟩
    rw [heq]
    simp only [onMessages, dialsIn_append, Nat.add_assoc]

theorem receive_of_dead {l : Link} (h : l.isLive g = false) (now : Instant) (bytes : Bytes) :
    l.receive g now bytes = (l, [], none) := by
  unfold Link.isLive at h
  unfold Link.receive
  cases hw : l.wires.get? g with
  | none => rfl
  | some w =>
    have hended : w.ended = true := by simpa [hw] using h
    simp only [hended, if_true]

theorem receive_of_live {l : Link} (h : l.isLive g = true) (now : Instant) (bytes : Bytes) :
    (l.receive g now bytes).1.isLive g = true ∧
      (l.receive g now bytes).2.2 ≠ some (.ok ()) := by
  obtain ⟨w, hw, hended⟩ := Link.isLive_iff.mp h
  simp only [Link.receive, hw, hended, Bool.false_eq_true, if_false]
  refine ⟨Link.isLive_iff.mpr ⟨(w.receive now bytes).1, ?_, hended⟩, ?_⟩
  · rw [Link.get?_change, if_pos rfl, hw]
    rfl
  · simp only [Wire.receive]
    split <;> simp

/-- Bytes that arrive at a client are a run of it. -/
theorem receive_eq_reached (h : InStep x p) (g : Nat) (now : Instant) (bytes : Bytes) :
    let taken := x.client.link.receive g now bytes
    let failures := match taken.2.2 with
      | some (.error failure) => [Operation.fail g failure]
      | _ => []
    let received := x.client.receive g now bytes
    reached x (.piece g now bytes :: (taken.2.1.map (.frame g) ++ failures)) =
      ⟨received.1, x.dials + dialsIn received.2⟩ := by
  obtain ⟨q, t⟩ := perform_turn h (.piece g now bytes)
  have hstep : InStep (x.perform (.piece g now bytes)) q := t.inStep h
  have hpiece : x.perform (.piece g now bytes) =
      ⟨{ x.client with link := (x.client.link.receive g now bytes).1 }, x.dials⟩ := rfl
  have hdead := fun hd : x.client.link.isLive g = false => receive_of_dead hd now bytes
  have hlive := fun hl : x.client.link.isLive g = true => receive_of_live hl now bytes
  change reached (x.perform _) _ = _
  rw [hpiece] at hstep ⊢
  simp only [receive]
  generalize x.client.link.receive g now bytes = taken at hstep hdead hlive ⊢
  obtain ⟨link, messages, ended⟩ := taken
  cases hl : x.client.link.isLive g with
  | false =>
    obtain ⟨rfl, rfl, rfl⟩ : link = x.client.link ∧ messages = [] ∧ ended = none := by
      simpa using hdead hl
    rfl
  | true =>
    obtain ⟨hopen, hfails⟩ := hlive hl
    obtain ⟨hframes, ⟨q', hend⟩, hlast⟩ := reached_frames hstep hopen messages
    rw [reached_append, hframes]
    rw [hframes] at hend hlast
    cases ended with
    | none => rfl
    | some ended =>
      cases ended with
      | ok _ => exact absurd rfl hfails
      | error failure =>
        have hfail := fail_of_live hend.wires_distinct hlast failure
        simp only [reached, List.foldl_cons, List.foldl_nil, Site.perform, act]
        simp only at hfail
        simp only [hfail, Link.lost?, dialsIn_append, Nat.add_assoc]

end BrokerRpc.Client
