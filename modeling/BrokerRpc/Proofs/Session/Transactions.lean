import BrokerRpc.Proofs.Session.Brackets
import BrokerRpc.Proofs.Session.Course
import BrokerRpc.Proofs.Session.Discipline

/-! # Transactions over connections

The session remembers the running transaction, a connection is given the frames of it. In a session
the two go together. Without one the frames are parked, and the two come apart if a frame is dropped
from what is parked, or if the transaction is given up while the frame that begins it stays parked.
-/
namespace BrokerRpc.Client

open Broker (Open Bracketed Tracks Outside)

namespace Moment

/-- A frame is parked at that moment, and the oldest one has to go for it. -/
def drops (m : Moment) : Bool := m.parks?.isSome && maxOutbox ≤ m.before.session.outbox.length

/-- Without a session the transaction is given up at that moment, not by who asked for it. -/
def forsakes (m : Moment) : Bool :=
  !m.before.client.isConnected &&
    m.after.session.transaction ≠ transactionAfter m.before.session m.operation

end Moment

/-! ## Frames that are asked for -/

/-- A frame that is asked for goes with the transaction, wherever it is put. -/
theorem tracks_asked {s : Session} {operation : Operation} {frame : Message} {frames : List Message}
    (hasked : submission? s operation = some frame) (h : Tracks frames s.transaction) :
    Tracks (frames ++ [frame]) (transactionAfter s operation) := by
  cases operation with
  | subscribe destination token recipient =>
    simp only [submission?] at hasked
    split at hasked
    · cases hasked
    · obtain rfl := Option.some.inj hasked
      exact h.append_outside (Broker.outside_of_command .subscribe rfl (by decide))
  | unsubscribe destination =>
    obtain ⟨channel, _, rfl⟩ := Option.map_eq_some_iff.mp hasked
    exact h.append_outside (Broker.outside_of_command .unsubscribe rfl (by decide))
  | send destination payload =>
    obtain rfl := Option.some.inj hasked
    exact h.append_send destination payload
  | resend destination payload =>
    obtain rfl := Option.some.inj hasked
    exact h.append_send destination payload
  | begin token =>
    simp only [submission?] at hasked
    cases ht : s.transaction with
    | some id => simp [ht] at hasked
    | none =>
      obtain rfl : Session.beginFrame token = frame := by simpa [ht] using hasked
      rw [ht] at h
      simpa [transactionAfter, ht] using h.append_begin token
  | commit =>
    obtain ⟨id, ht, rfl⟩ := Option.map_eq_some_iff.mp hasked
    rw [ht] at h
    exact h.append_commit
  | _ => cases hasked

theorem transactionAfter_of_none {s : Session} {operation : Operation}
    (hasked : submission? s operation = none) : transactionAfter s operation = s.transaction := by
  cases operation with
  | begin token =>
    cases ht : s.transaction with
    | some id => simp [transactionAfter, ht]
    | none => simp [submission?, ht] at hasked
  | commit =>
    have ht : s.transaction = none := by simpa [submission?] using hasked
    exact ht.symm
  | _ => rfl

/-- A frame that is parked is the one that is asked for; where none is, the transaction stays. -/
theorem parked?_cases (s : Session) (operation : Operation) :
    parked? s operation = submission? s operation ∨
      parked? s operation = none ∧ transactionAfter s operation = s.transaction := by
  unfold parked?
  split
  · exact Or.inr ⟨rfl, rfl⟩
  · exact Or.inr ⟨rfl, rfl⟩
  · dsimp only
    split
    · exact Or.inr ⟨rfl, rfl⟩
    · exact Or.inl rfl
  · exact Or.inl rfl

/-! ## Turns -/

variable {x : Site} {m : Moment} {p q : Phase} {g : Nat}

/-- What is parked goes with the transaction of the session. -/
def Whole (s : Session) : Prop := Tracks s.outbox s.transaction

theorem tracks_parked {s : Session} {operation : Operation} (h : Whole s)
    (hroom : (parked? s operation).isSome = true → s.outbox.length < maxOutbox)
    (hle : s.outbox.length ≤ maxOutbox) :
    Tracks (newest (s.outbox ++ (parked? s operation).toList)) (transactionAfter s operation) := by
  cases hparked : parked? s operation with
  | none =>
    have hkept : transactionAfter s operation = s.transaction := by
      rcases parked?_cases s operation with hsame | ⟨_, hkept⟩
      · exact transactionAfter_of_none (hsame ▸ hparked)
      · exact hkept
    rw [Option.toList_none, List.append_nil, newest_of_le hle, hkept]
    exact h
  | some frame =>
    have hasked : submission? s operation = some frame := by
      rcases parked?_cases s operation with hsame | ⟨hnone, _⟩
      · exact hsame ▸ hparked
      · rw [hnone] at hparked
        cases hparked
    have hlength := hroom (by rw [hparked]; rfl)
    rw [Option.toList_some, newest_of_le (by simpa [Nat.succ_le_iff] using hlength)]
    exact tracks_asked hasked h

theorem transaction_of_confirmed (h : InStep m.before p) (hin : m.after.In (.confirmed g)) :
    m.after.session.transaction = transactionAfter m.before.session m.operation := by
  cases course_perform h m.operation with
  | kept htransaction => exact htransaction
  | confirmed htransaction => exact htransaction
  | lost _ _ hidle =>
    have hup : m.after.session.handshake = .connected := hin.2.1
    rw [hup] at hidle
    cases hidle

theorem transaction_of_kept (h : InStep m.before p) (hdown : ∀ g, p ≠ .confirmed g)
    (hforsakes : m.forsakes = false) :
    m.after.session.transaction = transactionAfter m.before.session m.operation := by
  simpa [Moment.forsakes, h.isConnected_eq_false hdown] using hforsakes

theorem Turn.whole (t : Turn m p q) (h : InStep m.before p) (hdrops : m.drops = false)
    (hforsakes : m.forsakes = false)
    (hwhole : (∀ g, p ≠ .confirmed g) → Whole m.before.session) (hq : ∀ g, q ≠ .confirmed g) :
    Whole m.after.session := by
  have hkept : (∀ g, p ≠ .confirmed g) → submission? m.before.session m.operation = none →
      Keeps m.before.session m.after.session → Whole m.after.session := by
    intro hdown hasked hkeeps
    rw [Whole, hkeeps.outbox_eq, transaction_of_kept h hdown hforsakes,
      transactionAfter_of_none hasked]
    exact hwhole hdown
  cases t with
  | rested hasked _ _ hkeeps _ _ hdrifts =>
    refine hkept (fun g hp => hq g ?_) hasked hkeeps
    rcases hdrifts with rfl | ⟨hnone, _⟩
    · exact hp
    · rw [hp] at hnone
      cases hnone
  | held _ hdown _ houtbox _ _ _ =>
    rw [Whole, houtbox, transaction_of_kept h hdown hforsakes]
    refine tracks_parked (hwhole hdown) (fun hparked => ?_) h.outbox_le
    have hroom : ¬ maxOutbox ≤ m.before.session.outbox.length := by
      simpa [Moment.drops, Moment.parks?, h.isConnected_eq_false hdown, hparked] using hdrops
    exact Nat.lt_of_not_le hroom
  | wrote => exact absurd rfl (hq _)
  | opened hopens hkeeps _ _ =>
    exact hkept (fun g hp => by cases hp) (submission?_of_opens hopens _) hkeeps
  | confirmed => exact absurd rfl (hq _)
  | lost hasked _ _ _ hkeeps _ hin =>
    by_cases hp : ∃ g, p = .confirmed g
    -- what was parked was written when the session began, and its end ends the transaction
    · obtain ⟨g, rfl⟩ := hp
      have hnone : m.after.session.transaction = none := by
        have hup : m.before.session.handshake = .connected := h.inPhase.2.1
        cases course_perform h m.operation with
        | kept _ hhandshake =>
          rw [hup, hin.2.1] at hhandshake
          rcases hhandshake with hno | hno <;> cases hno
        | confirmed _ hpending =>
          rw [hpending] at hup
          cases hup
        | lost _ htransaction => exact htransaction
      rw [Whole, hkeeps.outbox_eq, h.outbox_confirmed g rfl, hnone]
      exact Tracks.nil
    · exact hkept (fun g hg => hp ⟨g, hg⟩) hasked hkeeps

/-- Before its confirmation a connection is given frames outside of transactions only. -/
theorem Turn.greeted_outside (t : Turn m p q) (h : InStep m.before p)
    (hgreeted : ∀ g, p = .greeted g → ∀ f ∈ m.before.link.sent g, Outside f) (g : Nat)
    (hq : q = .greeted g) : ∀ f ∈ m.after.link.sent g, Outside f := by
  have hkept : ∀ i, m.before.link.Gives i [] m.after.link → p.Drifts q →
      ∀ f ∈ m.after.link.sent g, Outside f := by
    intro i hgives hdrifts
    have hp : q = p := hdrifts.eq_of_connection? (g := g) (by rw [hq]; rfl)
    have hsent : m.after.link.sent g = m.before.link.sent g := by simp [hgives.sent_eq]
    rw [hsent]
    exact hgreeted g (hp ▸ hq)
  cases t with
  | rested _ _ _ _ hgives _ hdrifts => exact hkept _ hgives hdrifts
  | held _ _ _ _ hgives _ hdrifts => exact hkept _ hgives hdrifts
  | wrote => cases hq
  | opened _ _ hlink _ =>
    obtain rfl := Phase.greeted.inj hq
    have hnew : m.before.link.sent (m.before.link.generation + 1) = [] := by
      refine Link.sent_of_not_mem fun hmem => ?_
      have hle := h.known _ hmem
      omega
    intro f hf
    rw [hlink.sent_eq, hnew, if_pos rfl, List.nil_append, List.mem_singleton] at hf
    exact hf ▸ Broker.outside_of_command .connect rfl (by decide)
  | confirmed => cases hq
  | lost => cases hq

/-- What follows a confirmation goes with a transaction exactly if what is parked does. -/
theorem tracks_flushed {frames : List Message} (h : ∀ f ∈ frames, Outside f) (s : Session)
    (transaction : Option String) :
    Tracks (frames ++ s.flushFrames) transaction ↔ Tracks s.outbox transaction := by
  have hfront : Tracks (frames ++ s.channels.map fun e =>
      Session.subscribeFrame e.1 e.2.token) none := by
    refine Tracks.of_outside fun f hf => ?_
    rcases List.mem_append.mp hf with hf | hf
    · exact h f hf
    · obtain ⟨e, _, rfl⟩ := List.mem_map.mp hf
      exact Broker.outside_of_command .subscribe rfl (by decide)
  rw [Session.flushFrames, ← List.append_assoc, hfront.append_iff]

/-- The frames of a connection are well bracketed, and go with the transaction of its session. -/
structure Tracked (x : Site) (p : Phase) (g : Nat) : Prop where
  bracketed : Bracketed (x.link.sent g)
  current : p = .confirmed g → Tracks (x.link.sent g) x.session.transaction

theorem Turn.tracked (t : Turn m p q) (h : InStep m.before p)
    (hgreeted : p = .greeted g → ∀ f ∈ m.before.link.sent g, Outside f)
    (hwhole : p = .greeted g → q = .confirmed g → Whole m.before.session)
    (hg : Tracked m.before p g) : Tracked m.after q g := by
  have hsame : ∀ {i frames}, m.before.link.Gives i frames m.after.link → (g = i → frames = []) →
      (q = .confirmed g → p = .confirmed g ∧
        m.after.session.transaction = m.before.session.transaction) → Tracked m.after q g := by
    intro i frames hgives hnone hkept
    have hsent : m.after.link.sent g = m.before.link.sent g := by
      rw [hgives.sent_eq]
      split
      · rename_i hi
        rw [hnone hi, List.append_nil]
      · exact List.append_nil _
    refine ⟨hsent ▸ hg.bracketed, fun hq => ?_⟩
    obtain ⟨hp, htransaction⟩ := hkept hq
    rw [hsent, htransaction]
    exact hg.current hp
  cases t with
  | rested hasked _ _ _ hgives hin hdrifts =>
    refine hsame hgives (fun _ => rfl) fun hq => ⟨hdrifts.eq_of_confirmed hq, ?_⟩
    rw [transaction_of_confirmed (g := g) h (hq ▸ hin), transactionAfter_of_none hasked]
  | held _ hdown _ _ hgives _ hdrifts =>
    exact hsame hgives (fun _ => rfl) fun hq => absurd (hdrifts.eq_of_confirmed hq) (hdown g)
  | @wrote i frame hasked _ _ hgives hin =>
    by_cases hi : g = i
    · subst hi
      have hall := tracks_asked hasked (hg.current rfl)
      rw [← transaction_of_confirmed h hin] at hall
      have hsent : m.after.link.sent g = m.before.link.sent g ++ [frame] := by
        simp [hgives.sent_eq]
      exact ⟨hsent ▸ hall.bracketed, fun _ => hsent ▸ hall⟩
    · exact hsame hgives (fun he => absurd he hi) fun hq => absurd (Phase.confirmed.inj hq).symm hi
  | opened _ _ hlink _ =>
    refine ⟨?_, fun hq => by cases hq⟩
    by_cases hi : g = m.before.link.generation + 1
    · have hnew : m.before.link.sent g = [] := by
        refine Link.sent_of_not_mem fun hmem => ?_
        have hle := h.known _ hmem
        omega
      rw [hlink.sent_eq, hnew, if_pos hi, List.nil_append]
      refine (Tracks.of_outside fun f hf => ?_).bracketed
      exact List.mem_singleton.mp hf ▸ Broker.outside_of_command .connect rfl (by decide)
    · rw [hlink.sent_eq, if_neg hi, List.append_nil]
      exact hg.bracketed
  | @confirmed i hconfirms _ _ hgives hin =>
    by_cases hi : g = i
    · subst hi
      have hall := (tracks_flushed (hgreeted rfl) m.before.session _).mpr (hwhole rfl rfl)
      have hkept : m.after.session.transaction = m.before.session.transaction :=
        (transaction_of_confirmed h hin).trans
          (transactionAfter_of_none (submission?_of_confirms hconfirms _))
      have hsent : m.after.link.sent g =
          m.before.link.sent g ++ m.before.session.flushFrames := by simp [hgives.sent_eq]
      rw [← hsent, ← hkept] at hall
      exact ⟨hall.bracketed, fun _ => hall⟩
    · exact hsame hgives (fun he => absurd he hi) fun hq => absurd (Phase.confirmed.inj hq).symm hi
  | lost _ _ _ _ _ hloses _ =>
    exact ⟨hloses.sent_eq g ▸ hg.bracketed, fun hq => by cases hq⟩

/-! ## Runs -/

theorem bracketed_reached (h : InStep x p) (hfits : Fits x p g .confirmed) (hg : Tracked x p g)
    (operations : List Operation) : Bracketed ((reached x operations).link.sent g) := by
  induction operations generalizing x p with
  | nil => exact hg.bracketed
  | cons operation rest ih =>
    obtain ⟨q, t⟩ := perform_turn h operation
    have hother : p ≠ .greeted g := fun hp => by
      have hopen := hfits.2 (by rw [hp]; rfl)
      rw [hp] at hopen
      cases hopen
    have hnext := t.tracked h (fun hp => absurd hp hother) (fun hp _ => absurd hp hother) hg
    exact ih (t.inStep h) (t.sees h hfits).fits hnext

theorem sent_perform (h : InStep x (.confirmed g)) (operation : Operation) :
    (x.perform operation).link.sent g =
      x.link.sent g ++ (submission? x.session operation).toList := by
  obtain ⟨q, t⟩ := perform_turn h operation
  have hlive : x.link.isLive g = true := h.isLive rfl
  have hfits : Fits x (.confirmed g) g .confirmed := ⟨Link.mem_keys_of_isLive hlive, fun _ => rfl⟩
  have hsent := (t.sees h hfits).sent_eq
  simpa only [Moment.due, Moment.after, hlive, if_true] using hsent

/-- A connection stays well bracketed whatever follows exactly if its frames go with the transaction
of the session. -/
theorem bracketed_forever_iff (h : InStep x (.confirmed g)) :
    (∀ later, Bracketed ((reached x later).link.sent g)) ↔
      Tracks (x.link.sent g) x.session.transaction := by
  constructor
  · intro hforever
    have hnow : Bracketed (x.link.sent g) := hforever []
    have hnext : ∀ operation frame, submission? x.session operation = some frame →
        Bracketed (x.link.sent g ++ [frame]) := by
      intro operation frame hasked
      have hlater := hforever [operation]
      rw [reached, List.foldl_cons, List.foldl_nil, sent_perform h, hasked] at hlater
      exact hlater
    -- a payload that is sent next finds its transaction open
    have hopen : ∀ t, x.session.transaction = some t → Open t (x.link.sent g) := by
      intro t ht
      have hsend := hnext (.send "" []) _ rfl
      refine (Broker.bracketed_append_singleton.mp hsend).2.1 t ?_
      simp [Broker.carries, Broker.command_sendFrame, Broker.field?_sendFrame, ht]
    refine ⟨hnow, fun t => ⟨fun ht => ?_, hopen t⟩⟩
    cases hrunning : x.session.transaction with
    | some u => rw [hnow.open_unique ht (hopen u hrunning)]
    | none =>
      -- a transaction that is begun next finds none open
      have hbegin := hnext (.begin "") (Session.beginFrame "") (by simp [submission?, hrunning])
      exact absurd ht ((Broker.bracketed_append_singleton.mp hbegin).2.2 rfl t)
  · intro htracks later
    have hlive : x.link.isLive g = true := h.isLive rfl
    exact bracketed_reached h ⟨Link.mem_keys_of_isLive hlive, fun _ => rfl⟩
      ⟨htracks.bracketed, fun _ => htracks⟩ later

theorem greeted_reached (h : InStep x p)
    (hgreeted : ∀ g, p = .greeted g → ∀ f ∈ x.link.sent g, Outside f) (operations : List Operation) :
    ∃ q, InStep (reached x operations) q ∧
      ∀ g, q = .greeted g → ∀ f ∈ (reached x operations).link.sent g, Outside f :=
  reached_preserves (P := fun y q => ∀ g, q = .greeted g → ∀ f ∈ y.link.sent g, Outside f)
    (fun h t hbefore => t.greeted_outside h hbefore) h hgreeted operations

/-- Where no frame is dropped and no transaction is forsaken, every connection is well bracketed. -/
theorem bracketed_of_kept (h : InStep x p)
    (hgreeted : ∀ g, p = .greeted g → ∀ f ∈ x.link.sent g, Outside f)
    (hwhole : (∀ g, p ≠ .confirmed g) → Whole x.session) (hg : Tracked x p g)
    (operations : List Operation)
    (hkept : ∀ m ∈ history x operations, m.drops = false ∧ m.forsakes = false) :
    Bracketed ((reached x operations).link.sent g) := by
  induction operations generalizing x p with
  | nil => exact hg.bracketed
  | cons operation rest ih =>
    obtain ⟨q, t⟩ := perform_turn h operation
    obtain ⟨hdrops, hforsakes⟩ := hkept _ List.mem_cons_self
    refine ih (t.inStep h) (t.greeted_outside h hgreeted) (t.whole h hdrops hforsakes hwhole)
      (t.tracked h (hgreeted g) (fun hp _ => hwhole ?_) hg)
      fun m hm => hkept m (List.mem_cons_of_mem _ hm)
    rintro i rfl
    cases hp

/-- When transactions are well bracketed. Every connection is, frames given and frames written, as
long as no frame has to be dropped from what is parked and no transaction is forsaken while its frames
are parked. And a connection that the broker confirms is well bracketed whatever follows exactly if
what is parked then is, with the transaction of the session open at its end. -/
theorem bracketed_iff_whole (host : String) (port : Nat) (policy : Policy) (timeout : Duration)
    (operations : List Operation) :
    let start := Site.start host port policy timeout
    let x := reached start operations
    ((∀ m ∈ history start operations, m.drops = false ∧ m.forsakes = false) →
      ∀ g, Bracketed (x.link.sent g) ∧
        ∀ w, x.link.wires.get? g = some w → Bracketed w.frames) ∧
    ∀ g answer,
      let m : Moment := ⟨x, .frame g answer⟩
      m.confirms g = true → x.session.handshake = .pending →
        ((∀ later, Bracketed ((reached m.after later).link.sent g)) ↔ Whole x.session) := by
  intro start x
  have hstart : InStep start .closed := inStep_start host port policy timeout
  constructor
  · intro hkept g
    have hbracketed : Bracketed (x.link.sent g) :=
      bracketed_of_kept hstart (fun _ hp => by cases hp) (fun _ => Tracks.nil)
        ⟨Broker.bracketed_nil, fun hp => by cases hp⟩ operations hkept
    refine ⟨hbracketed, fun w hw => ?_⟩
    have hwire : x.link.sent g = w.frames ++ w.queued := by simp only [Link.sent, hw, Wire.sent]
    rw [hwire] at hbracketed
    exact hbracketed.of_append
  · intro g answer m hconfirms hpending
    obtain ⟨p, h, hgreeted⟩ := greeted_reached hstart (fun _ hp => by cases hp) operations
    have hconnection : p.connection? = some g :=
      (h.live_iff g).mp (Moment.isLive_of_confirms hconfirms)
    obtain ⟨i, rfl⟩ := h.eq_greeted hpending
    obtain rfl : g = i := (Option.some.inj hconnection).symm
    obtain ⟨q, t⟩ := perform_turn h (.frame g answer)
    obtain ⟨rfl, hsent⟩ := t.of_confirms hconfirms
    have hend : InStep m.after (.confirmed g) := t.inStep h
    have htransaction : m.after.session.transaction = x.session.transaction :=
      transaction_of_confirmed (m := m) h hend.inPhase
    rw [bracketed_forever_iff hend, htransaction, Whole, ← tracks_flushed (hgreeted g rfl) x.session,
      ← hsent]

/-- A transaction is begun while the link is down, and the dial that it starts is refused. The session
forgets the transaction and keeps the frame, so that another transaction can be begun; the next
connection is given both. -/
theorem two_begun_after_refused_dial :
    let policy : Policy := .withRetry ⟨0⟩ 1 ⟨0⟩
    let operations : List Operation :=
      [.begin "t", .dialEnded (.error (.connectionFailed ⟨.connectionRefused, "refused"⟩)),
        .begin "u", .dialEnded (.ok ()), .frame 1 (.new .connected)] ++
        List.replicate 4 (.carryOut 1 0)
    let x := reached (.start "broker" 61613 policy ⟨0⟩) operations
    ∃ w, x.link.wires.get? 1 = some w ∧
      w.frames = [Session.connectFrame "broker" policy, Session.beginFrame "t",
        Session.beginFrame "u"] ∧
      ¬ Bracketed w.frames := by
  intro policy operations x
  have hwritten : (x.link.wires.get? 1).map (·.frames) =
      some [Session.connectFrame "broker" policy, Session.beginFrame "t",
        Session.beginFrame "u"] := by decide
  obtain ⟨w, hw, hframes⟩ := Option.map_eq_some_iff.mp hwritten
  refine ⟨w, hw, hframes, ?_⟩
  rw [hframes]
  intro hbracketed
  refine (hbracketed [_, _] _ [] rfl).2 rfl "t" ⟨[_], _, [], rfl, by decide, ?_⟩
  exact fun f hf => absurd hf List.not_mem_nil

end BrokerRpc.Client
