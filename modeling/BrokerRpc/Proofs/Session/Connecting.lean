import BrokerRpc.Proofs.Session.Course
import BrokerRpc.Proofs.Session.Traffic

/-! # Callers that connect

A caller that connects waits for the session from the start on, and dials the link until a dial
succeeds. Meanwhile anything can happen to the client. A dial that fails tells all who wait for the
session, the caller too; its later dials change nothing about that.
-/
namespace BrokerRpc.Client

def effectsIn (x : Site) (operations : List Operation) : List Effect :=
  (history x operations).flatMap Moment.effects

/-- A client with a dial under way for it exactly if its link waits for one. -/
def site (c : Client) : Site := ⟨c, if c.link.isConnecting then 1 else 0⟩

structure Script where
  /-- How the dials end, one after the other. -/
  dials : Nat → Except Failure Unit
  /-- What happens after so many dials, before the next one. -/
  pauses : Nat → List Operation
  meanwhile : List Operation

/-- The dials of a caller: those that ended, and those that it started itself. -/
structure Tally where
  ended : Nat := 0
  started : Nat := 0

namespace Script

def around (s : Script) : Surroundings Tally where
  dial n := (s.dials n.ended, { n with ended := n.ended + 1 })
  pause c n := ((reached c.site (s.pauses n.ended)).client, effectsIn c.site (s.pauses n.ended), n)
  reply c n := ((reached c.site s.meanwhile).client, effectsIn c.site s.meanwhile, n)
  note effects n := { n with started := n.started + dialsIn effects }

def answer (s : Script) (n : Nat) : Except Failure Unit := (s.dials n).mapError Failure.duplicate

def Retries (s : Script) (policy : Policy) (n : Nat) : Prop :=
  ∃ failure, s.dials n = .error failure ∧ policy.isRetryable failure = true

end Script

variable {x : Site} {m : Moment} {p q : Phase} {g : Nat} {w : Waiter}

/-! ## Runs -/

theorem effectsIn_append (x : Site) (first rest : List Operation) :
    effectsIn x (first ++ rest) = effectsIn x first ++ effectsIn (reached x first) rest := by
  induction first generalizing x with
  | nil => rfl
  | cons operation first ih =>
    have hrest := ih (x.perform operation)
    simp only [effectsIn] at hrest
    simp only [effectsIn, List.cons_append, history, List.flatMap_cons, List.append_assoc, hrest]
    rfl

theorem site_eq (h : InStep x p) : x.client.site = x := by
  have hphase := h.inPhase
  have hdials : (if x.client.link.isConnecting then 1 else 0) = x.dials := by
    unfold Link.isConnecting
    cases p with
    | closed => rw [show x.client.link.state = _ from hphase.1, hphase.2.2]; rfl
    | dialling =>
      obtain ⟨⟨waiters, hstate⟩, _, hone⟩ := hphase
      rw [show x.client.link.state = _ from hstate, hone]; rfl
    | greeted i => rw [show x.client.link.state = _ from hphase.1, hphase.2.2]; rfl
    | confirmed i => rw [show x.client.link.state = _ from hphase.1, hphase.2.2]; rfl
  rw [site, hdials]

/-! ## One attempt -/

theorem linkResult?_settled {waiters : List Waiter} (hw : w ∈ waiters) (result : Except Failure Unit)
    (rest : List Effect) :
    linkResult? w ((Link.resolveAll waiters result).map .linkSettled ++ rest) = some result :=
  findSome?_resolveAll hw result (fun _ => rfl) rest

/-- A dial ends: those who wait for the link are told how, and those who wait for the session are told
of a failure only. -/
theorem dialEnded_connecting {c : Client} {backlog : List Message} {waiters : List Waiter}
    (hstate : c.link.state = .connecting backlog waiters) (result : Except Failure Unit) :
    ∃ told, (c.dialEnded result).2 =
        (Link.resolveAll waiters (result.mapError Failure.duplicate)).map .linkSettled ++ told ∧
      dialsIn told = 0 ∧
      match result with
      | .ok () => told = [] ∧
          (c.dialEnded result).1.session = { c.session with handshake := .pending }
      | .error failure => (∀ w ∈ c.session.waiters,
          sessionResult? w told = some (.error failure.duplicate)) ∧
          (c.dialEnded result).1.session = c.session.lost := by
  cases result with
  | ok _ =>
    refine ⟨[], ?_, rfl, rfl, rfl⟩
    simp only [dialEnded, Link.dialSucceeded, hstate, List.append_nil]
    rfl
  | error failure =>
    let closed : Client := { c with link := { c.link with state := .closed } }
    refine ⟨(closed.onLost failure).2, ?_, dialsIn_onLost _ _, fun w hw => ?_, ?_⟩
    · simp only [dialEnded, Link.dialFailed, hstate, onLost?, closed]
      rfl
    · simp [onLost, sessionResult?_append, closed, sessionResult?_settle hw]
    · simp [dialEnded, Link.dialFailed, hstate, onLost?, onLost]

def dialling (c : Client) (waiters : List Waiter) : Client :=
  { c with link := { c.link with
      state := .connecting [] (waiters ++ [c.link.nextWaiter]), nextWaiter := c.link.nextWaiter + 1 } }

theorem reached_dialled (h : InStep x p) (hp : p.connection? = none) (result : Except Failure Unit) :
    let operations : List Operation := [.dial, .dialEnded result]
    ∃ waiters dials, x.link.connectOnce = x.link.awaiting [] waiters dials ∧
      (reached x operations).client = ((x.client.dialling waiters).dialEnded result).1 ∧
      effectsIn x operations =
        dialEffects dials ++ ((x.client.dialling waiters).dialEnded result).2 := by
  obtain ⟨waiters, dials, hconnect, hdials⟩ := connectOnce_down h hp
  have hdial : x.perform .dial = ⟨x.client.dialling waiters, 1⟩ := perform_dial_down hconnect hdials
  have heffects : (⟨x, .dial⟩ : Moment).effects = dialEffects dials := by
    simp only [Moment.effects, act, openLink, hconnect, Link.awaiting]
  refine ⟨waiters, dials, hconnect, ?_, ?_⟩
  · change ((x.perform .dial).perform (.dialEnded result)).client = _
    rw [hdial]
    rfl
  · change (⟨x, .dial⟩ : Moment).effects ++
      ((⟨x.perform .dial, .dialEnded result⟩ : Moment).effects ++ []) = _
    rw [heffects, hdial, List.append_nil]
    rfl

theorem reached_opened (h : InStep x p) (hp : p.connection? = some g) (result : Except Failure Unit) :
    let operations : List Operation := [.dial, .dialEnded result]
    reached x operations = x ∧ effectsIn x operations = [] := by
  have hconnect : x.client.openLink = (x.client, []) := by
    simp only [openLink, connectOnce_opened h hp]
  have hdials : x.dials = 0 := h.dials_eq (by rintro rfl; cases hp)
  have hdial : x.perform .dial = x := by
    simp only [Site.perform, act, hconnect, dialsIn_nil, Nat.add_zero]
  have heffects : (⟨x, .dial⟩ : Moment).effects = [] := by simp only [Moment.effects, act, hconnect]
  constructor
  · change (x.perform .dial).perform (.dialEnded result) = x
    rw [hdial]
    exact if_pos hdials
  · change (⟨x, .dial⟩ : Moment).effects ++
      ((⟨x.perform .dial, .dialEnded result⟩ : Moment).effects ++ []) = []
    rw [heffects, hdial, List.append_nil]
    exact if_pos hdials

/-- An attempt has the link dialled and waits for the next dial that ends. With a connection it waits
for none. -/
theorem attempt_spec (s : Script) (h : InStep x p) (n : Tally) :
    let operations : List Operation := [.dial, .dialEnded (s.dials n.ended)]
    ∃ around result, attempt s.around x.client n =
        ⟨(reached x operations).client, effectsIn x operations, around, result⟩ ∧
      (p.connection? ≠ none ∧ around = n ∧ result = .ok () ∨
        p.connection? = none ∧ around.ended = n.ended + 1 ∧ around.started ≤ n.started + 1 ∧
          result = s.answer n.ended) := by
  intro operations
  cases hp : p.connection? with
  | some g =>
    obtain ⟨hreached, heffects⟩ := reached_opened h hp (s.dials n.ended)
    have hconnect : x.client.link.connectOnce = (x.client.link, .settled (.ok ())) :=
      connectOnce_opened h hp
    refine ⟨n, .ok (), ?_, Or.inl ⟨by simp, rfl, rfl⟩⟩
    rw [hreached, heffects]
    simp only [attempt, hconnect]
  | none =>
    obtain ⟨waiters, dials, hconnect, hclient, heffects⟩ := reached_dialled h hp (s.dials n.ended)
    obtain ⟨told, htold, hdials, _⟩ := dialEnded_connecting
      (c := x.client.dialling waiters) rfl (s.dials n.ended)
    have hconnect' : x.client.link.connectOnce = x.client.link.awaiting [] waiters dials := hconnect
    have hresult : (linkResult? x.client.link.nextWaiter
        ((x.client.dialling waiters).dialEnded (s.dials n.ended)).2).getD
          (.error (.timeout connectTimeout)) = s.answer n.ended := by
      rw [htold, linkResult?_settled (by simp)]
      rfl
    -- a dial that was under way is joined, so that one is started at most
    have hone : dialsIn (dialEffects dials ++
        ((x.client.dialling waiters).dialEnded (s.dials n.ended)).2) ≤ 1 := by
      have hlast : dialsIn (dialEffects dials) ≤ 1 := by cases dials <;> decide
      simpa [htold, hdials] using hlast
    refine ⟨⟨n.ended + 1, _⟩, s.answer n.ended, ?_,
      Or.inr ⟨rfl, rfl, Nat.add_le_add_left hone _, rfl⟩⟩
    rw [hclient, heffects]
    simp only [attempt, hconnect', Link.awaiting]
    rw [if_pos (show x.client.link.running = true from h.running)]
    exact congrArg (Blocked.mk _ _ _) hresult

theorem isLive_of_attempt (s : Script) (h : InStep x p) (n : Tally)
    (hok : p.connection? ≠ none ∨ s.dials n.ended = .ok ()) :
    ∃ g, (reached x [.dial, .dialEnded (s.dials n.ended)]).link.isLive g = true := by
  cases hp : p.connection? with
  | some g =>
    refine ⟨g, ?_⟩
    rw [(reached_opened h hp _).1]
    exact h.isLive hp
  | none =>
    have hdial : s.dials n.ended = .ok () := hok.resolve_left fun hno => hno hp
    rw [hdial]
    obtain ⟨waiters, _, _, hclient, _⟩ := reached_dialled h hp (.ok ())
    obtain ⟨_, _, _, _, hsession⟩ :=
      dialEnded_connecting (c := x.client.dialling waiters) rfl (.ok ())
    obtain ⟨q, hend⟩ := inStep_reached h [.dial, .dialEnded (.ok ())]
    have hpending : (reached x [.dial, .dialEnded (.ok ())]).session.handshake = .pending := by
      rw [Site.session, hclient, hsession]
    obtain ⟨g, rfl⟩ := hend.eq_greeted hpending
    exact ⟨g, hend.isLive rfl⟩

/-! ## Several attempts -/

/-- How the tally of a caller that dials at most so often goes with its result. -/
structure Counts (s : Script) (policy : Policy) (p : Phase) (n : Tally) (attempts : Nat)
    (around : Tally) (result : Except Failure Unit) : Prop where
  ended_eq : p.connection? ≠ none → around.ended = n.ended
  lt_ended : p.connection? = none → n.ended < around.ended
  ended_le : around.ended ≤ n.ended + attempts
  started_le : around.started + n.ended ≤ n.started + around.ended
  retried : ∀ i, n.ended ≤ i → i + 1 < around.ended → s.Retries policy i
  given_up : ∀ failure, result = .error failure → ∃ cause,
    n.ended < around.ended ∧ s.dials (around.ended - 1) = .error cause ∧ failure = cause.duplicate ∧
      (around.ended = n.ended + attempts ∨ policy.isRetryable cause = false)

variable {s : Script} {policy : Policy} {n around : Tally} {attempts : Nat}
  {result : Except Failure Unit}

theorem counts_opened (hp : p.connection? ≠ none) : Counts s policy p n attempts n (.ok ()) where
  ended_eq := fun _ => rfl
  lt_ended := fun hno => absurd hno hp
  ended_le := Nat.le_add_right _ _
  started_le := Nat.le_refl _
  retried := fun i _ hlt => by omega
  given_up := fun failure hfailed => by cases hfailed

theorem cause_of_answer {i : Nat} {failure : Failure} (h : s.answer i = .error failure) :
    ∃ cause, s.dials i = .error cause ∧ failure = cause.duplicate := by
  unfold Script.answer at h
  cases hdial : s.dials i with
  | ok _ =>
    rw [hdial] at h
    cases h
  | error cause =>
    rw [hdial] at h
    exact ⟨cause, rfl, (Except.error.inj h).symm⟩

theorem dial_of_answer {i : Nat} (h : s.answer i = .ok ()) : s.dials i = .ok () := by
  unfold Script.answer at h
  cases hdial : s.dials i with
  | ok _ => rfl
  | error cause =>
    rw [hdial] at h
    cases h

theorem counts_last (hp : p.connection? = none) (hended : around.ended = n.ended + 1)
    (hstarted : around.started ≤ n.started + 1)
    (hlast : ∀ cause, s.dials n.ended = .error cause →
      attempts = 0 ∨ policy.isRetryable cause = false) :
    Counts s policy p n (attempts + 1) around (s.answer n.ended) where
  ended_eq := fun hno => absurd hp hno
  lt_ended := fun _ => by omega
  ended_le := by omega
  started_le := by omega
  retried := fun i _ _ => by omega
  given_up := fun failure hfailed => by
    obtain ⟨cause, hdial, hcause⟩ := cause_of_answer hfailed
    refine ⟨cause, by omega, ?_, hcause, (hlast cause hdial).imp (fun hzero => by omega) id⟩
    rw [hended, Nat.add_sub_cancel]
    exact hdial

theorem Counts.after {n' : Tally} (h : Counts s policy q n' attempts around result)
    (hp : p.connection? = none) (hended : n'.ended = n.ended + 1)
    (hstarted : n'.started ≤ n.started + 1) (hretries : s.Retries policy n.ended) :
    Counts s policy p n (attempts + 1) around result where
  ended_eq := fun hno => absurd hp hno
  lt_ended := fun _ => by
    -- the attempts that follow may find a connection that somebody opened in the pause
    cases hq : q.connection? with
    | some g =>
      have heq := h.ended_eq (by simp [hq])
      omega
    | none =>
      have hlt := h.lt_ended hq
      omega
  ended_le := by
    have hle := h.ended_le
    omega
  started_le := by
    have hle := h.started_le
    omega
  retried := fun i hi hlt => by
    by_cases hfirst : i = n.ended
    · exact hfirst ▸ hretries
    · exact h.retried i (by omega) hlt
  given_up := fun failure hfailed => by
    obtain ⟨cause, hlt, hdial, hcause, hlast⟩ := h.given_up failure hfailed
    exact ⟨cause, by omega, hdial, hcause, hlast.imp (fun heq => by omega) id⟩

theorem tryLink_of_last {c : Client}
    (hlast : ∀ failure, (attempt s.around c n).result = .error failure →
      attempts = 0 ∨ policy.isRetryable failure = false) :
    tryLink s.around policy (attempts + 1) c n = attempt s.around c n := by
  unfold tryLink
  dsimp only
  split
  · rfl
  · rename_i failure hfailed
    rw [if_pos ((hlast failure hfailed).imp id fun hno => by simp [hno])]

theorem tryLink_of_retry {c : Client} {failure : Failure}
    (hfailed : (attempt s.around c n).result = .error failure)
    (hretryable : policy.isRetryable failure = true) (attempts : Nat) :
    let tried := attempt s.around c n
    let paused := s.around.pause tried.client tried.around
    let last := tryLink s.around policy (attempts + 1) paused.1 paused.2.2
    tryLink s.around policy (attempts + 2) c n =
      { last with effects := tried.effects ++ paused.2.1 ++ last.effects } := by
  intro tried paused last
  rw [tryLink]
  simp only [hfailed, hretryable]
  rfl

/-- A caller that dials at most so often leaves what its first dial makes of the client, and then what
the pauses and its later dials make of that. -/
def Tries (s : Script) (policy : Policy) (x : Site) (p : Phase) (n : Tally) (attempts : Nat) : Prop :=
  ∃ rest around result, let operations := [.dial, .dialEnded (s.dials n.ended)] ++ rest
    tryLink s.around policy attempts x.client n =
        ⟨(reached x operations).client, effectsIn x operations, around, result⟩ ∧
      (p.connection? ≠ none ∨ s.dials n.ended = .ok () → rest = []) ∧
      (result = .ok () → ∃ g, (reached x operations).link.isLive g = true) ∧
      Counts s policy p n attempts around result

theorem tries_of_last (h : InStep x p) (hlast : p.connection? = none →
      ∀ cause, s.dials n.ended = .error cause → attempts = 0 ∨ policy.isRetryable cause = false) :
    Tries s policy x p n (attempts + 1) := by
  obtain ⟨around, result, hattempt, ⟨hp, rfl, rfl⟩ | ⟨hp, hended, hstarted, rfl⟩⟩ :=
    attempt_spec s h n
  · refine ⟨[], around, .ok (), ?_, fun _ => rfl,
      fun _ => isLive_of_attempt s h around (Or.inl hp), counts_opened hp⟩
    refine (tryLink_of_last fun failure hfailed => ?_).trans hattempt
    rw [hattempt] at hfailed
    cases hfailed
  · refine ⟨[], around, s.answer n.ended, ?_, fun _ => rfl,
      fun hok => isLive_of_attempt s h n (Or.inr (dial_of_answer hok)),
      counts_last hp hended hstarted (hlast hp)⟩
    refine (tryLink_of_last fun failure hfailed => ?_).trans hattempt
    rw [hattempt] at hfailed
    obtain ⟨cause, hdial, rfl⟩ := cause_of_answer hfailed
    rw [policy.isRetryable_duplicate]
    exact hlast hp cause hdial

theorem tries_of_retry (h : InStep x p) (hp : p.connection? = none)
    (hretries : s.Retries policy n.ended)
    (hrest : ∀ {y : Site} {q : Phase} (n' : Tally), InStep y q →
      Tries s policy y q n' (attempts + 1)) :
    Tries s policy x p n (attempts + 2) := by
  obtain ⟨failure, hdial, hretryable⟩ := hretries
  obtain ⟨around, result, hattempt, ⟨hno, _⟩ | ⟨_, hended, hstarted, rfl⟩⟩ := attempt_spec s h n
  · exact absurd hp hno
  let first : List Operation := [.dial, .dialEnded (s.dials n.ended)]
  let between : List Operation := s.pauses around.ended
  obtain ⟨q, hfirst⟩ := inStep_reached h first
  obtain ⟨r, hpaused⟩ := inStep_reached hfirst between
  obtain ⟨rest, around', result, htry, _, hopened, hcounts⟩ := hrest around hpaused
  let later : List Operation := [.dial, .dialEnded (s.dials around.ended)] ++ rest
  have hfailed : (attempt s.around x.client n).result = .error failure.duplicate := by
    rw [hattempt, Script.answer, hdial]
    rfl
  -- the pause goes on from the site that the attempt left
  have hpause : s.around.pause (attempt s.around x.client n).client
      (attempt s.around x.client n).around = ((reached (reached x first) between).client,
        effectsIn (reached x first) between, around) := by
    rw [hattempt]
    simp only [Script.around, site_eq hfirst, first, between]
  refine ⟨between ++ later, around', result, ?_, ?_, ?_,
    hcounts.after hp hended hstarted ⟨failure, hdial, hretryable⟩⟩
  · have hagain := (policy.isRetryable_duplicate failure).trans hretryable
    rw [tryLink_of_retry hfailed hagain, hpause, htry, hattempt]
    simp only [reached_append, effectsIn_append, first, between, later, List.append_assoc]
  · rintro (hno | hok)
    · exact absurd hp hno
    · rw [hdial] at hok
      cases hok
  · simp only [reached_append, first, between, later] at hopened ⊢
    exact hopened

theorem Counts.ok_of_accepted (h : Counts s policy p n attempts around result) {i : Nat}
    (hle : n.ended ≤ i) (hlt : i < n.ended + attempts) (hdial : s.dials i = .ok ())
    (hbefore : ∀ j, n.ended ≤ j → j < i → s.Retries policy j) : result = .ok () := by
  cases result with
  | ok _ => rfl
  | error failure =>
    obtain ⟨cause, hended, hlast, _, hend⟩ := h.given_up failure rfl
    rcases Nat.lt_trichotomy i (around.ended - 1) with hi | hi | hi
    · obtain ⟨_, hfailed, _⟩ := h.retried i hle (by omega)
      rw [hdial] at hfailed
      cases hfailed
    · rw [hi, hlast] at hdial
      cases hdial
    -- the failure that ended the attempts would have allowed another one
    · obtain ⟨other, hfailed, hretryable⟩ := hbefore (around.ended - 1) (by omega) hi
      rw [hlast] at hfailed
      obtain rfl := Except.error.inj hfailed
      rw [hretryable] at hend
      rcases hend with hend | hend
      · omega
      · cases hend

/-- A caller that dials goes on as long as the dials fail, the policy allows another one, and the
attempts last. -/
theorem tries_tryLink (s : Script) (policy : Policy) (h : InStep x p) (n : Tally) (attempts : Nat) :
    Tries s policy x p n (attempts + 1) := by
  induction attempts generalizing x p n with
  | zero => exact tries_of_last h fun _ _ _ => Or.inl rfl
  | succ attempts ih =>
    by_cases hretries : p.connection? = none ∧ s.Retries policy n.ended
    · exact tries_of_retry h hretries.1 hretries.2 fun n' hy => ih hy n'
    · refine tries_of_last h fun hp cause hdial => Or.inr ?_
      rw [Bool.eq_false_iff]
      exact fun hretryable => hretries ⟨hp, cause, hdial, hretryable⟩

/-! ## What a caller is told -/

/-- A dial that succeeds tells those who wait for the session nothing, and one that fails tells them
of its failure. -/
theorem told_of_dialled (h : InStep x p) (hp : p.connection? = none) (hw : w ∈ x.session.waiters)
    (result : Except Failure Unit) :
    let operations : List Operation := [.dial, .dialEnded result]
    match result with
    | .ok () => sessionResult? w (effectsIn x operations) = none ∧
        (reached x operations).session = { x.session with handshake := .pending }
    | .error failure =>
        sessionResult? w (effectsIn x operations) = some (.error failure.duplicate) := by
  intro operations
  obtain ⟨waiters, dials, _, hclient, heffects⟩ := reached_dialled h hp result
  obtain ⟨told, htold, _, hresult⟩ := dialEnded_connecting (c := x.client.dialling waiters) rfl result
  have hsession : sessionResult? w (effectsIn x operations) = sessionResult? w told := by
    rw [heffects, htold]
    simp only [sessionResult?_append, sessionResult?_dialEffects, sessionResult?_linkSettled,
      Option.none_or]
  cases result with
  | ok _ =>
    obtain ⟨rfl, hafter⟩ := hresult
    refine ⟨hsession, ?_⟩
    change (reached x operations).client.session = _
    rw [hclient, hafter]
    rfl
  | error failure => exact hsession.trans (hresult.1 w hw)

theorem waits_perform (h : InStep x (.greeted g)) (hw : w ∈ x.session.waiters)
    {operation : Operation} (hstays : operation ≠ .leave w) :
    let m : Moment := ⟨x, operation⟩
    InStep m.after (.greeted g) ∧ w ∈ m.after.session.waiters ∧ sessionResult? w m.effects = none ∨
      sessionResult? w m.effects = some (.ok ()) ∨ m.after.link.isLive g = false := by
  intro m
  obtain ⟨q, t⟩ := perform_turn h operation
  have hend : InStep m.after q := t.inStep h
  have hmember : w ∈ waitersAfter x.session operation := by
    cases operation with
    | leave v =>
      have hne : w ≠ v := fun he => hstays (he ▸ rfl)
      simpa [waitersAfter, hne] using hw
    | _ => exact hw
  have hpending : x.session.handshake = .pending := h.inPhase.2.1
  cases hlive : m.after.link.isLive g with
  | false => exact Or.inr (Or.inr rfl)
  | true =>
    have hconnection : q.connection? = some g := (hend.live_iff g).mp hlive
    cases course_perform h operation with
    | kept _ hhandshake hwaiters hsilent =>
      rw [hpending, or_self] at hhandshake
      obtain ⟨i, rfl⟩ := hend.eq_greeted hhandshake
      obtain rfl := Option.some.inj hconnection
      exact Or.inl ⟨hend, hwaiters w hmember, hsilent w⟩
    | confirmed _ _ _ htold => exact Or.inr (Or.inl (htold w hmember))
    | lost _ _ hidle =>
      rw [hend.connection?_eq_none_iff.mpr hidle] at hconnection
      cases hconnection

theorem sessionResult?_cons (w : Waiter) (x : Site) (operation : Operation) (rest : List Operation) :
    sessionResult? w (effectsIn x (operation :: rest)) =
      (sessionResult? w (⟨x, operation⟩ : Moment).effects).or
        (sessionResult? w (effectsIn (x.perform operation) rest)) :=
  sessionResult?_append w _ _

theorem told_of_confirms (h : InStep x (.greeted g)) (hw : w ∈ x.session.waiters)
    {earlier : List Operation} (hstays : .leave w ∉ earlier) {answer : Message}
    (hconfirms : (⟨reached x earlier, .frame g answer⟩ : Moment).confirms g = true)
    (later : List Operation) :
    sessionResult? w (effectsIn x (earlier ++ .frame g answer :: later)) = some (.ok ()) := by
  induction earlier generalizing x with
  | nil =>
    obtain ⟨q, t⟩ := perform_turn h (.frame g answer)
    obtain ⟨rfl, _⟩ := t.of_confirms hconfirms
    have hend := t.inStep h
    have hother : Operation.frame g answer ≠ .leave w := fun he => by cases he
    rw [List.nil_append, sessionResult?_cons]
    rcases waits_perform h hw hother with ⟨hstill, _⟩ | htold | hdead
    · have hno := hstill.inPhase.2.1
      rw [show _ = Handshake.connected from hend.inPhase.2.1] at hno
      cases hno
    · rw [htold]
      rfl
    · rw [hend.isLive rfl] at hdead
      cases hdead
  | cons operation earlier ih =>
    have hother : operation ≠ .leave w := fun he => hstays (he ▸ List.mem_cons_self)
    rw [List.cons_append, sessionResult?_cons]
    rcases waits_perform h hw hother with ⟨hend, hmember, hsilent⟩ | htold | hdead
    · rw [hsilent, Option.none_or]
      exact ih hend hmember (fun hmem => hstays (List.mem_cons_of_mem _ hmem)) hconfirms
    · rw [htold]
      rfl
    -- a connection that is lost is not confirmed any more
    · obtain ⟨q, t⟩ := perform_turn h operation
      have hknown : g ≤ (x.perform operation).link.generation :=
        Nat.le_trans (Nat.le_of_eq (h.current g rfl)) t.generation_le
      have hstill : (reached x (operation :: earlier)).link.isLive g = false :=
        not_isLive_reached (t.inStep h) hknown hdead earlier
      rw [Moment.isLive_of_confirms hconfirms] at hstill
      cases hstill

/-! ## Callers that connect -/

theorem connect_of_error {c : Client} {failure : Failure} (hdown : c.isConnected = false)
    (h : (connectLink s.around false c.addWaiter n).result = .error failure) :
    (connect s.around false c n).around = (connectLink s.around false c.addWaiter n).around ∧
      (connect s.around false c n).result = .error failure := by
  simp only [connect, hdown, h]
  exact ⟨rfl, rfl⟩

/-- Once the link is open, a caller has the first result that who waits for the session is told. -/
theorem connect_of_ok {c : Client} (hdown : c.isConnected = false)
    (h : (connectLink s.around false c.addWaiter n).result = .ok ()) :
    let opened := connectLink s.around false c.addWaiter n
    let told := sessionResult? c.session.nextWaiter
      (opened.effects ++ effectsIn opened.client.site s.meanwhile)
    (connect s.around false c n).around = opened.around ∧
      ∀ result, told = some result → (connect s.around false c n).result = result := by
  intro opened told
  have hreply (c : Client) (n : Tally) : s.around.reply c n =
      ((reached c.site s.meanwhile).client, effectsIn c.site s.meanwhile, n) := rfl
  cases htold : told with
  | none =>
    simp only [told, opened] at htold
    refine ⟨?_, fun result hresult => by cases hresult⟩
    simp [connect, hdown, h, hreply, htold, opened]
  | some first =>
    simp only [told, opened] at htold
    refine ⟨?_, fun result hresult => ?_⟩
    · simp [connect, hdown, h, hreply, htold, opened]
    · simp [connect, hdown, h, hreply, htold, Option.some.inj hresult]

theorem around_connect {c : Client} (hdown : c.isConnected = false) :
    (connect s.around false c n).around = (connectLink s.around false c.addWaiter n).around := by
  cases hresult : (connectLink s.around false c.addWaiter n).result with
  | ok _ => exact (connect_of_ok hdown hresult).1
  | error failure => exact (connect_of_error hdown hresult).1

theorem connectLink_spec (s : Script) (h : InStep x p) :
    ∃ q rest around result, InStep (x.perform .await) q ∧
      let operations := [.dial, .dialEnded (s.dials 0)] ++ rest
      connectLink s.around false x.client.addWaiter {} =
          ⟨(reached (x.perform .await) operations).client, effectsIn (x.perform .await) operations,
            around, result⟩ ∧
        (q.connection? ≠ none ∨ s.dials 0 = .ok () → rest = []) ∧
        (result = .ok () → ∃ g, (reached (x.perform .await) operations).link.isLive g = true) ∧
        Counts s x.link.policy q {} (max x.link.policy.retryNumber 1) around result := by
  obtain ⟨q, t⟩ := perform_turn h .await
  have hawait : InStep (x.perform .await) q := t.inStep h
  obtain ⟨attempts, hbudget⟩ : ∃ attempts, max x.link.policy.retryNumber 1 = attempts + 1 :=
    ⟨max x.link.policy.retryNumber 1 - 1, by omega⟩
  obtain ⟨rest, around, result, htry, hrest, hopened, hcounts⟩ :=
    tries_tryLink s x.link.policy hawait {} attempts
  rw [← hbudget] at htry hcounts
  exact ⟨q, rest, around, result, hawait, htry, hrest, hopened, hcounts⟩

theorem told_of_pending (h : InStep x p) (hpending : x.session.handshake = .pending)
    (hw : w ∈ x.session.waiters) (hlive : x.link.isLive g = true) {earlier : List Operation}
    (hstays : .leave w ∉ earlier) {answer : Message}
    (hconfirms : (⟨reached x earlier, .frame g answer⟩ : Moment).confirms g = true)
    (later : List Operation) :
    sessionResult? w (effectsIn x (earlier ++ .frame g answer :: later)) = some (.ok ()) := by
  obtain ⟨i, rfl⟩ := h.eq_greeted hpending
  obtain rfl : g = i := (Option.some.inj ((h.live_iff g).mp hlive)).symm
  exact told_of_confirms h hw hstays hconfirms later

/-- Who waits is told how its first dial ended, if the connection is confirmed that it has then. -/
theorem told_of_first_dial (h : InStep x p) (hdown : ∀ i, p ≠ .confirmed i)
    (hw : w ∈ x.session.waiters) (dial : Except Failure Unit) {rest earlier : List Operation}
    {answer : Message} (later : List Operation) :
    let operations := [.dial, .dialEnded dial] ++ rest
    let y := reached x operations
    (p.connection? ≠ none ∨ dial = .ok () → rest = []) → y.link.isLive g = true →
      .leave w ∉ earlier → (⟨reached y earlier, .frame g answer⟩ : Moment).confirms g = true →
      sessionResult? w (effectsIn x operations ++ effectsIn y (earlier ++ .frame g answer :: later)) =
        some (if p.connection? = none then dial.mapError Failure.duplicate else .ok ()) := by
  intro operations y hrest hlive hstays hconfirms
  cases hp : p.connection? with
  | some i =>
    obtain rfl := hrest (Or.inl (by simp [hp]))
    obtain ⟨hreached, heffects⟩ := reached_opened h hp dial
    have hy : y = x := hreached
    have hnothing : effectsIn x operations = [] := heffects
    have hpending : x.session.handshake = .pending := by
      obtain rfl | rfl := Phase.eq_of_connection? hp
      · exact h.inPhase.2.1
      · exact absurd rfl (hdown i)
    -- with a connection no dial is waited for
    rw [hy] at hlive hconfirms
    rw [hnothing, hy]
    exact told_of_pending h hpending hw hlive hstays hconfirms later
  | none =>
    rw [if_pos rfl]
    have htold := told_of_dialled h hp hw dial
    cases dial with
    | ok _ =>
      obtain rfl := hrest (Or.inr rfl)
      obtain ⟨hsilent, hsession⟩ := htold
      have hnothing : sessionResult? w (effectsIn x operations) = none := hsilent
      have hafter : y.session = { x.session with handshake := .pending } := hsession
      obtain ⟨q, hy⟩ := inStep_reached h operations
      rw [sessionResult?_append, hnothing, Option.none_or]
      exact told_of_pending hy (by rw [hafter]) (by rw [hafter]; exact hw) hlive hstays hconfirms later
    -- who waits was told of the failure, and has no other result after that
    | error cause =>
      rw [effectsIn_append, List.append_assoc, sessionResult?_append, htold]
      rfl

theorem result_connect (h : InStep x p) (hdown : x.client.isConnected = false)
    {earlier later : List Operation} {answer : Message} :
    let opened := connectLink s.around false x.client.addWaiter {}
    opened.result = .ok () → opened.client.link.isLive g = true →
      s.meanwhile = earlier ++ .frame g answer :: later →
      .leave x.session.nextWaiter ∉ earlier →
      (⟨reached opened.client.site earlier, .frame g answer⟩ : Moment).confirms g = true →
        (connect s.around false x.client {}).result =
          if opened.around.ended = 0 then .ok () else s.answer 0 := by
  intro opened hok hlive hmeanwhile hstays hconfirms
  obtain ⟨q, rest, around, result, hawait, hopened, hrest, _, hcounts⟩ := connectLink_spec s h
  let operations : List Operation := [.dial, .dialEnded (s.dials 0)] ++ rest
  obtain ⟨r, hend⟩ := inStep_reached hawait operations
  have hsite : opened.client.site = reached (x.perform .await) operations := by
    rw [show opened.client = _ from congrArg Blocked.client hopened, site_eq hend]
  have heffects : opened.effects = effectsIn (x.perform .await) operations :=
    congrArg Blocked.effects hopened
  have hended : opened.around = around := congrArg Blocked.around hopened
  have hno : ∀ i, q ≠ .confirmed i := by
    rintro i rfl
    have hup : x.client.isConnected = true := hawait.isConnected_eq
    rw [hdown] at hup
    cases hup
  have hmember : x.session.nextWaiter ∈ (x.perform .await).session.waiters :=
    List.mem_append_right _ List.mem_cons_self
  have hlive' : (reached (x.perform .await) operations).link.isLive g = true := by
    rw [← hsite]
    exact hlive
  rw [hsite] at hconfirms
  have htold : sessionResult? x.session.nextWaiter
      (opened.effects ++ effectsIn opened.client.site s.meanwhile) =
        some (if q.connection? = none then s.answer 0 else .ok ()) := by
    rw [heffects, hsite, hmeanwhile]
    exact told_of_first_dial hawait hno hmember (s.dials 0) later hrest hlive' hstays hconfirms
  rw [(connect_of_ok hdown hok).2 _ htold, hended]
  cases hq : q.connection? with
  | some i =>
    have hzero : around.ended = 0 := hcounts.ended_eq (by simp [hq])
    rw [if_neg (by simp), if_pos hzero]
  | none =>
    have hpos : 0 < around.ended := hcounts.lt_ended hq
    rw [if_pos rfl, if_neg (by omega)]

/-- What a caller is told that connects without a session. It dials at most as often as the policy
says, until a dial succeeds or fails in a way that allows no other one. When the broker confirms the
connection that it opened, it is told how its first dial ended, and not its last one. -/
theorem connect_tells_first_dial (host : String) (port : Nat) (policy : Policy) (timeout : Duration)
    (operations : List Operation) (s : Script)
    (hdown : (reached (.start host port policy timeout) operations).client.isConnected = false) :
    let x := reached (.start host port policy timeout) operations
    let budget := max x.link.policy.retryNumber 1
    let opened := connectLink s.around false x.client.addWaiter {}
    let done := connect s.around false x.client {}
    (done.around.started ≤ done.around.ended ∧ done.around.ended ≤ budget ∧
      (∀ i, i + 1 < done.around.ended → s.Retries x.link.policy i) ∧
      (∀ i < budget, s.dials i = .ok () → (∀ j < i, s.Retries x.link.policy j) →
        opened.result = .ok ()) ∧
      (opened.result = .ok () → ∃ g, opened.client.link.isLive g = true)) ∧
    (∀ failure, opened.result = .error failure → done.result = .error failure ∧
      ∃ cause, 0 < done.around.ended ∧ s.dials (done.around.ended - 1) = .error cause ∧
        failure = cause.duplicate ∧
        (done.around.ended = budget ∨ x.link.policy.isRetryable cause = false)) ∧
    ∀ g answer earlier later, opened.result = .ok () → opened.client.link.isLive g = true →
      s.meanwhile = earlier ++ .frame g answer :: later →
      .leave x.session.nextWaiter ∉ earlier →
      (⟨reached opened.client.site earlier, .frame g answer⟩ : Moment).confirms g = true →
        done.result = if done.around.ended = 0 then .ok () else s.answer 0 := by
  intro x budget opened done
  obtain ⟨p, h⟩ := inStep_reached (inStep_start host port policy timeout) operations
  obtain ⟨q, rest, around, result, hawait, hopened, _, hlive, hcounts⟩ := connectLink_spec s h
  have htally : done.around = around := (around_connect hdown).trans (congrArg Blocked.around hopened)
  have hresult : opened.result = result := congrArg Blocked.result hopened
  refine ⟨⟨?_, ?_, ?_, ?_, ?_⟩, ?_, ?_⟩
  · rw [htally]
    exact Nat.le_trans hcounts.started_le (Nat.le_of_eq (Nat.zero_add _))
  · rw [htally]
    exact Nat.le_trans hcounts.ended_le (Nat.le_of_eq (Nat.zero_add _))
  · rw [htally]
    exact fun i hlt => hcounts.retried i (Nat.zero_le i) hlt
  · intro i hlt hdial hbefore
    rw [hresult]
    exact hcounts.ok_of_accepted (Nat.zero_le i) (Nat.lt_of_lt_of_eq hlt (Nat.zero_add _).symm) hdial
      fun j _ hj => hbefore j hj
  · intro hok
    rw [show opened.client = _ from congrArg Blocked.client hopened]
    exact hlive (hresult.symm.trans hok)
  · intro failure hfailed
    refine ⟨(connect_of_error hdown hfailed).2, ?_⟩
    rw [htally]
    obtain ⟨cause, hpos, hdial, hcause, hend⟩ :=
      hcounts.given_up failure (hresult.symm.trans hfailed)
    exact ⟨cause, hpos, hdial, hcause, hend.imp_left fun heq => heq.trans (Nat.zero_add _)⟩
  · intro g answer earlier later hok hlive hmeanwhile hstays hconfirms
    rw [show done.around = opened.around from around_connect hdown]
    exact result_connect h hdown hok hlive hmeanwhile hstays hconfirms

/-- A dial that succeeds at once: the caller is told that the broker confirms. -/
theorem connect_ok_at_once :
    let s : Script := ⟨fun _ => .ok (), fun _ => [], [.frame 1 (.new .connected)]⟩
    (connect s.around false (Site.start "broker" 61613 .standard ⟨0⟩).client {}).result = .ok () := by
  intro s
  have htold := (connect_tells_first_dial "broker" 61613 .standard ⟨0⟩ [] s rfl).2.2 1
    (.new .connected) [] [] rfl (by decide) rfl (by simp) (by decide)
  exact htold

/-- The first dial is refused, the second one succeeds, and the broker confirms. The client has a
session, and its caller is told that the dial was refused. -/
theorem refused_though_connected :
    let policy : Policy := .new ⟨0⟩ 2 ⟨0⟩ ⟨0⟩ [.io]
    let refused : Failure := .connectionFailed ⟨.connectionRefused, "refused"⟩
    let s : Script := ⟨fun i => if i = 0 then .error refused else .ok (), fun _ => [],
      [.frame 1 (.new .connected)]⟩
    let done := connect s.around false (Site.start "broker" 61613 policy ⟨0⟩).client {}
    done.around.ended = 2 ∧ done.client.isConnected = true ∧ done.result = .error refused :=
  ⟨by decide, by decide, rfl⟩

end BrokerRpc.Client
