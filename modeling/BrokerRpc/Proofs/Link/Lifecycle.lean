import BrokerRpc.Proofs.Link.Run

/-! # The life of a link

A link is dialled at most once at a time, has at most one open wire, answers each of its waiters
once, and never leaves the stopped state.
-/
namespace BrokerRpc.Link

namespace Site

/-- What the state of a link means to the dials under way and to its wires. A stopped link may have
one of each left: a dial that it started before, and a wire that still carries out its orders. -/
def Agrees (x : Site) : LinkState → Prop
  | .closed => x.dials = 0 ∧ ∀ g, x.link.isLive g = false
  | .connecting _ _ => x.dials = 1 ∧ ∀ g, x.link.isLive g = false
  | .opened g => x.dials = 0 ∧ ∀ i, x.link.isLive i = true ↔ i = g
  | .stopped => x.dials ≤ 1 ∧ ∀ i j, x.link.isLive i = true → x.link.isLive j = true → i = j

/-- The invariant of a link. Waiters are told in the order in which they came. -/
structure Sound (x : Site) : Prop where
  agrees : x.Agrees x.link.state
  known : ∀ g ∈ x.link.wires.keys, g ≤ x.link.generation
  told_eq : x.told.map (·.waiter) ++ x.link.waiting = List.range x.link.nextWaiter

variable {x y : Site}

theorem Agrees.congr {state : LinkState} (h : x.Agrees state)
    (hlive : ∀ g, y.link.isLive g = x.link.isLive g) (hdials : y.dials = x.dials) :
    y.Agrees state := by
  cases state with
  | closed => exact ⟨hdials.trans h.1, fun g => (hlive g).trans (h.2 g)⟩
  | connecting _ _ => exact ⟨hdials.trans h.1, fun g => (hlive g).trans (h.2 g)⟩
  | opened g => exact ⟨hdials.trans h.1, fun i => by rw [hlive, h.2]⟩
  | stopped => exact ⟨hdials ▸ h.1, fun i j hi hj => h.2 i j (hlive i ▸ hi) (hlive j ▸ hj)⟩

theorem Agrees.stopped {state : LinkState} (h : x.Agrees state) : x.Agrees .stopped := by
  cases state with
  | closed => exact ⟨h.1 ▸ Nat.zero_le 1, fun i _ hi => by rw [h.2 i] at hi; cases hi⟩
  | connecting _ _ => exact ⟨h.1 ▸ Nat.le_refl 1, fun i _ hi => by rw [h.2 i] at hi; cases hi⟩
  | opened g =>
    exact ⟨h.1 ▸ Nat.zero_le 1, fun i j hi hj => ((h.2 i).mp hi).trans ((h.2 j).mp hj).symm⟩
  | stopped => exact h

theorem Agrees.of_loses {state : LinkState} {g : Nat} (h : x.Agrees state)
    (hloses : x.link.Loses g y.link) (hdials : y.dials = x.dials) (hother : state ≠ .opened g) :
    y.Agrees state := by
  have hdown : ∀ i, x.link.isLive i = false → y.link.isLive i = false := by
    intro i hi
    rw [Bool.eq_false_iff, ne_eq, hloses.live_iff, hi]
    simp
  cases state with
  | closed => exact ⟨hdials.trans h.1, fun i => hdown i (h.2 i)⟩
  | connecting _ _ => exact ⟨hdials.trans h.1, fun i => hdown i (h.2 i)⟩
  | opened i =>
    refine ⟨hdials.trans h.1, fun j => ?_⟩
    rw [hloses.live_iff, h.2]
    constructor
    · exact And.left
    · rintro rfl
      exact ⟨rfl, fun hj => hother (hj ▸ rfl)⟩
  -- a stopped link has one wire at most, and may lose it
  | stopped =>
    exact ⟨hdials ▸ h.1, fun i j hi hj =>
      h.2 i j ((hloses.live_iff i).mp hi).1 ((hloses.live_iff j).mp hj).1⟩

theorem Agrees.closed {g : Nat} (h : x.Agrees (.opened g)) (hloses : x.link.Loses g y.link)
    (hdials : y.dials = x.dials) : y.Agrees .closed := by
  refine ⟨hdials.trans h.1, fun i => ?_⟩
  rw [Bool.eq_false_iff, ne_eq, hloses.live_iff, h.2]
  exact fun hi => hi.2 hi.1

theorem waiting_congr {l l' : Link} (h : l'.state = l.state) : l'.waiting = l.waiting := by
  simp only [waiting, h]

namespace Sound

theorem of_gives {g : Nat} {frames : List Message} (h : x.Sound)
    (hgives : x.link.Gives g frames y.link) (hstate : y.link.state = x.link.state)
    (hwaiter : y.link.nextWaiter = x.link.nextWaiter) (hdials : y.dials = x.dials)
    (htold : y.told = x.told) : y.Sound where
  agrees := hstate ▸ h.agrees.congr hgives.live_eq hdials
  known := fun i hi => hgives.generation_eq ▸ h.known i (hgives.keys_eq ▸ hi)
  told_eq := by rw [htold, waiting_congr hstate, hwaiter, h.told_eq]

theorem of_moves (h : x.Sound) (hmoves : x.link.Moves y.link) (hdials : y.dials = x.dials)
    (htold : y.told = x.told) : y.Sound := by
  cases hmoves with
  | worked hgives hstate hwaiter => exact h.of_gives hgives hstate hwaiter hdials htold
  | @ended g hloses hstate hwaiter =>
    have hknown : ∀ i ∈ y.link.wires.keys, i ≤ y.link.generation := fun i hi =>
      hloses.generation_eq ▸ h.known i (hloses.keys_eq ▸ hi)
    -- nobody waits for an open link, so that the end of its wire leaves nobody without an answer
    by_cases hopen : x.link.state = .opened g
    · rw [if_pos hopen] at hstate
      have hclosed : y.Agrees .closed := (hopen ▸ h.agrees).closed hloses hdials
      have hwaiting : x.link.waiting = y.link.waiting := by
        simp only [waiting, hopen, hstate]
        cases x.link.remote.isSome <;> rfl
      refine ⟨?_, hknown, by rw [htold, ← hwaiting, hwaiter, h.told_eq]⟩
      rw [hstate]
      split
      · exact hclosed
      · exact hclosed.stopped
    · rw [if_neg hopen] at hstate
      exact ⟨hstate ▸ h.agrees.of_loses hloses hdials hopen, hknown,
        by rw [htold, waiting_congr hstate, hwaiter, h.told_eq]⟩

/-! ### Callers -/

theorem dialling (h : x.Sound) (hstate : x.link.state = .closed) (backlog : List Message)
    {waiters : List Waiter} {nextWaiter : Waiter}
    (hwaiters : List.range x.link.nextWaiter ++ waiters = List.range nextWaiter) :
    Sound (x.take (.ok ({ x.link with state := .connecting backlog waiters, nextWaiter }, true)))
    where
  agrees := by
    have hagrees := h.agrees
    rw [hstate] at hagrees
    exact ⟨by simp [Site.take, hagrees.1], hagrees.2⟩
  known := h.known
  told_eq := by
    have htold := h.told_eq
    simp only [waiting, hstate, List.append_nil] at htold
    simp only [Site.take, waiting]
    rw [← hwaiters, ← htold]

theorem waits (h : x.Sound) {backlog : List Message} {waiters : List Waiter}
    (hstate : x.link.state = .connecting backlog waiters) (frames : List Message)
    {more : List Waiter} {nextWaiter : Waiter}
    (hwaiters : List.range x.link.nextWaiter ++ more = List.range nextWaiter) :
    Sound (x.take (.ok ({ x.link with
      state := .connecting (backlog ++ frames) (waiters ++ more), nextWaiter }, false))) where
  agrees := by
    have hagrees := h.agrees
    rw [hstate] at hagrees
    exact hagrees
  known := h.known
  told_eq := by
    have htold := h.told_eq
    simp only [waiting, hstate] at htold
    simp only [Site.take, waiting]
    rw [← hwaiters, ← htold, List.append_assoc]

theorem connectOnce (h : x.Sound) : (x.perform .connectOnce).Sound := by
  have hnext : List.range x.link.nextWaiter ++ [x.link.nextWaiter] =
      List.range (x.link.nextWaiter + 1) := List.range_succ.symm
  cases hstate : x.link.state with
  | closed =>
    cases hrefusal : x.link.dialRefusal? with
    | none =>
      simp only [Site.perform, Link.connectOnce, hstate, hrefusal, awaiting]
      exact h.dialling hstate [] hnext
    | some failure =>
      simp only [Site.perform, Link.connectOnce, hstate, hrefusal]
      exact h
  | connecting backlog waiters =>
    simp only [Site.perform, Link.connectOnce, hstate, awaiting]
    have hwaits := h.waits hstate [] hnext
    rw [List.append_nil] at hwaits
    exact hwaits
  | opened g =>
    simp only [Site.perform, Link.connectOnce, hstate]
    exact h
  | stopped =>
    simp only [Site.perform, Link.connectOnce, hstate]
    exact h

theorem reconnect (h : x.Sound) : (x.perform .reconnect).Sound := by
  simp only [Site.perform, Link.reconnect]
  cases hstate : x.link.state with
  | closed =>
    dsimp only
    split
    · exact h
    · exact h.dialling hstate [] (List.append_nil _)
  | stopped => exact h
  | connecting backlog waiters => exact h
  | opened g => exact h

theorem send (h : x.Sound) (m : Message) : (x.perform (.send m)).Sound := by
  simp only [Site.perform, Link.send]
  cases hstate : x.link.state with
  | closed =>
    dsimp only
    split
    · exact h
    · exact h.dialling hstate [m] (List.append_nil _)
  | connecting backlog waiters =>
    have hwaits := h.waits hstate [m] (List.append_nil _)
    rw [List.append_nil] at hwaits
    exact hwaits
  | opened g =>
    dsimp only
    split
    · rename_i hlive
      exact h.of_gives (gives_order hlive m) rfl rfl rfl rfl
    · exact h
  | stopped => exact h

theorem setHeartbeats (h : x.Sound) (outgoing incoming : Nat) :
    (x.perform (.setHeartbeats outgoing incoming)).Sound := by
  cases hstate : x.link.state with
  | opened g =>
    have hlive : x.link.isLive g = true := by
      have hagrees := h.agrees
      rw [hstate] at hagrees
      exact (hagrees.2 g).mpr rfl
    refine h.of_gives (gives_setHeartbeats hstate hlive outgoing incoming) ?_ ?_ rfl rfl
    all_goals simp [Site.perform, Link.setHeartbeats, hstate, change]
  | closed => simpa [Site.perform, Link.setHeartbeats, hstate] using h
  | connecting _ _ => simpa [Site.perform, Link.setHeartbeats, hstate] using h
  | stopped => simpa [Site.perform, Link.setHeartbeats, hstate] using h

theorem map_waiter_resolveAll (waiters : List Waiter) (result : Except Failure Unit) :
    (resolveAll waiters result).map (·.waiter) = waiters := by
  simp [resolveAll, Function.comp_def]

theorem answered (h : x.Sound) (result : Except Failure Unit) :
    (x.told ++ resolveAll x.link.waiting result).map (·.waiter) ++ [] =
      List.range x.link.nextWaiter := by
  rw [List.append_nil, List.map_append, map_waiter_resolveAll, h.told_eq]

theorem close (h : x.Sound) : (x.perform .close).Sound := by
  have hanswered := h.answered (.error .closed)
  have hagrees := h.agrees.stopped
  cases hstate : x.link.state with
  | closed =>
    simp only [Site.perform, Link.close, hstate, waiting, resolveAll, List.map_nil] at hanswered ⊢
    exact ⟨hagrees, h.known, hanswered⟩
  | connecting backlog waiters =>
    simp only [Site.perform, Link.close, hstate, waiting] at hanswered ⊢
    exact ⟨hagrees, h.known, hanswered⟩
  | opened g =>
    simp only [Site.perform, Link.close, hstate, waiting, resolveAll, List.map_nil] at hanswered ⊢
    refine ⟨hagrees.congr (isLive_change fun _ _ => rfl) rfl, ?_, hanswered⟩
    simp only [change, Assoc.keys_modify]
    exact h.known
  | stopped =>
    simp only [Site.perform, Link.close, hstate, waiting, resolveAll, List.map_nil] at hanswered ⊢
    exact ⟨hagrees, h.known, hanswered⟩

/-! ### Dials -/

theorem endDial_ok (h : x.Sound) (hdials : x.dials ≠ 0) (greeting : List Message) :
    (x.endDial (.ok greeting)).Sound := by
  have hagrees := h.agrees
  have hanswered := h.answered (.ok ())
  -- a dial ends for a link that is being dialled, or that was stopped meanwhile
  cases hstate : x.link.state with
  | closed => exact absurd (hstate ▸ hagrees).1 hdials
  | opened g => exact absurd (hstate ▸ hagrees).1 hdials
  | connecting backlog waiters =>
    rw [hstate] at hagrees
    have hopens := opens_append h.known (greeting ++ backlog) (.opened (x.link.generation + 1))
    simp only [endDial, dialSucceeded, hstate, waiting] at hanswered ⊢
    refine ⟨⟨by rw [hagrees.1], fun i => ?_⟩, fun i hi => ?_, hanswered⟩
    · rw [hopens.live_iff, hagrees.2]
      simp
    · rw [hopens.keys_eq, List.mem_append, List.mem_singleton] at hi
      rcases hi with hi | rfl
      · exact Nat.le_succ_of_le (h.known i hi)
      · exact Nat.le_refl _
  | stopped =>
    rw [hstate] at hagrees
    simp only [endDial, dialSucceeded, hstate, waiting, resolveAll, List.map_nil] at hanswered ⊢
    exact ⟨⟨Nat.le_trans (Nat.sub_le _ _) hagrees.1, hagrees.2⟩,
      fun i hi => Nat.le_succ_of_le (h.known i hi), hanswered⟩

theorem endDial_error (h : x.Sound) (hdials : x.dials ≠ 0) (failure : Failure) :
    (x.endDial (.error failure)).Sound := by
  have hagrees := h.agrees
  have hanswered := h.answered (.error failure.duplicate)
  cases hstate : x.link.state with
  | closed => exact absurd (hstate ▸ hagrees).1 hdials
  | opened g => exact absurd (hstate ▸ hagrees).1 hdials
  | connecting backlog waiters =>
    rw [hstate] at hagrees
    simp only [endDial, dialFailed, hstate, waiting] at hanswered ⊢
    exact ⟨⟨by rw [hagrees.1], hagrees.2⟩, h.known, hanswered⟩
  | stopped =>
    rw [hstate] at hagrees
    simp only [endDial, dialFailed, hstate, waiting, resolveAll, List.map_nil] at hanswered ⊢
    refine ⟨?_, h.known, ?_⟩
    · rw [hstate]
      exact ⟨Nat.le_trans (Nat.sub_le _ _) hagrees.1, hagrees.2⟩
    · simpa only [waiting, hstate] using hanswered

theorem dialEnded (h : x.Sound) (result : Except Failure (List Message)) :
    (x.perform (.dialEnded result)).Sound := by
  simp only [Site.perform]
  split
  · exact h
  · rename_i hdials
    cases result with
    | ok greeting => exact h.endDial_ok hdials greeting
    | error failure => exact h.endDial_error hdials failure

theorem perform (h : x.Sound) (operation : Operation) : (x.perform operation).Sound := by
  cases operation with
  | connectOnce => exact h.connectOnce
  | reconnect => exact h.reconnect
  | send m => exact h.send m
  | setHeartbeats outgoing incoming => exact h.setHeartbeats outgoing incoming
  | setPolicy policy => exact ⟨h.agrees.congr (fun _ => rfl) rfl, h.known, h.told_eq⟩
  | close => exact h.close
  | dialEnded result => exact h.dialEnded result
  | work g w => exact h.of_moves (moves_work x.link g w) rfl rfl

theorem reached (h : x.Sound) (operations : List Operation) : (Link.reached x operations).Sound := by
  induction operations generalizing x with
  | nil => exact h
  | cons operation rest ih => exact ih (h.perform operation)

end Sound

/-- A link stays stopped: its wires are given nothing, and none is opened. -/
structure Final (x y : Site) : Prop where
  stopped : y.link.state = .stopped
  sent_eq : ∀ g, y.link.sent g = x.link.sent g
  isLive_of : ∀ g, y.link.isLive g = true → x.link.isLive g = true

theorem final_perform (h : x.link.state = .stopped) (operation : Operation) :
    x.Final (x.perform operation) := by
  have hkept : x.Final x := ⟨h, fun _ => rfl, fun _ => id⟩
  cases operation with
  | connectOnce => simpa [Site.perform, Link.connectOnce, h] using hkept
  | reconnect => simpa [Site.perform, Link.reconnect, h, take] using hkept
  | send m => simpa [Site.perform, Link.send, h, take] using hkept
  | setHeartbeats outgoing incoming => simpa [Site.perform, Link.setHeartbeats, h] using hkept
  | setPolicy policy => exact ⟨h, fun _ => rfl, fun _ => id⟩
  | close =>
    simp only [Site.perform, Link.close, h]
    exact ⟨rfl, fun _ => rfl, fun _ => id⟩
  | dialEnded result =>
    simp only [Site.perform]
    split
    · exact hkept
    · cases result with
      | ok greeting =>
        simp only [endDial, dialSucceeded, h]
        exact ⟨rfl, fun _ => rfl, fun _ => id⟩
      | error failure =>
        simp only [endDial, dialFailed, h]
        exact ⟨h, fun _ => rfl, fun _ => id⟩
  | work g w =>
    cases moves_work x.link g w with
    | worked hgives hstate _ =>
      exact ⟨hstate.trans h, fun i => by simp [hgives.sent_eq, Site.perform],
        fun i hi => hgives.live_eq i ▸ hi⟩
    | ended hloses hstate _ =>
      rw [if_neg (by simp [h])] at hstate
      exact ⟨hstate.trans h, hloses.sent_eq, fun i hi => ((hloses.live_iff i).mp hi).1⟩

theorem final_reached (h : x.link.state = .stopped) (operations : List Operation) :
    x.Final (Link.reached x operations) := by
  induction operations generalizing x with
  | nil => exact ⟨h, fun _ => rfl, fun _ => id⟩
  | cons operation rest ih =>
    have hstep := final_perform h operation
    have hrest := ih hstep.stopped
    exact ⟨hrest.stopped, fun g => (hrest.sent_eq g).trans (hstep.sent_eq g),
      fun g hg => hstep.isLive_of g (hrest.isLive_of g hg)⟩

def Accepted (x : Site) : Prop :=
  x.link.remote = none ∧ x.dials = 0 ∧ (x.link.state = .opened 1 ∨ x.link.state = .stopped)

theorem Accepted.perform (h : x.Accepted) (operation : Operation) :
    (x.perform operation).Accepted := by
  have hkept := h
  obtain ⟨hremote, hdials, hstate⟩ := h
  cases operation with
  | connectOnce =>
    rcases hstate with hstate | hstate <;> simpa [Site.perform, Link.connectOnce, hstate] using hkept
  | reconnect =>
    rcases hstate with hstate | hstate <;>
      simpa [Site.perform, Link.reconnect, hstate, take, Accepted] using hkept
  | send m =>
    rcases hstate with hstate | hstate
    · simp only [Site.perform, Link.send, hstate]
      split
      · exact ⟨hremote, hdials, Or.inl hstate⟩
      · exact hkept
    · simpa [Site.perform, Link.send, hstate, take] using hkept
  | setHeartbeats outgoing incoming =>
    simp only [Site.perform, Link.setHeartbeats]
    split <;> exact ⟨hremote, hdials, hstate⟩
  | setPolicy policy => exact ⟨hremote, hdials, hstate⟩
  | close =>
    simp only [Site.perform, Link.close]
    split <;> exact ⟨hremote, hdials, Or.inr rfl⟩
  | dialEnded result =>
    simp only [Site.perform, hdials, if_true]
    exact hkept
  -- an accepted link has no remote side, and its wire ends in the stopped state
  | work g w =>
    cases moves_work x.link g w with
    | worked hgives hsame _ =>
      exact ⟨hgives.remote_eq.trans hremote, hdials, hsame.symm ▸ hstate⟩
    | ended hloses hsame _ =>
      refine ⟨hloses.remote_eq.trans hremote, hdials, ?_⟩
      simp only [Site.perform, hsame, hremote]
      split
      · exact Or.inr rfl
      · exact hstate

theorem Accepted.reached (h : x.Accepted) (operations : List Operation) :
    (Link.reached x operations).Accepted := by
  induction operations generalizing x with
  | nil => exact h
  | cons operation rest ih => exact ih (h.perform operation)

theorem told_endDial (x : Site) (result : Except Failure (List Message)) :
    (x.endDial result).told = x.told ++ resolveAll x.link.waiting
      (match result with
       | .ok _ => .ok ()
       | .error failure => .error failure.duplicate) := by
  cases result with
  | ok greeting =>
    cases hstate : x.link.state <;> simp [endDial, dialSucceeded, waiting, hstate, resolveAll]
  | error failure =>
    cases hstate : x.link.state <;> simp [endDial, dialFailed, waiting, hstate, resolveAll]

end Site

inductive Origin where
  | dialled (host : String) (port : Nat) (policy : Policy) (running : Bool)
  | accepted

def Origin.site : Origin → Site
  | .dialled host port policy running => { link := { Link.new host port policy with running } }
  | .accepted => { link := .accepted }

theorem sound_site (origin : Origin) : origin.site.Sound := by
  cases origin with
  | dialled host port policy running =>
    exact ⟨⟨rfl, fun _ => rfl⟩, fun _ hg => absurd hg List.not_mem_nil, rfl⟩
  | accepted =>
    refine ⟨⟨rfl, fun i => ?_⟩, ?_, rfl⟩
    · by_cases hi : i = 1 <;> simp [Origin.site, accepted, isLive, Assoc.get?, hi, eq_comm]
    · simp [Origin.site, accepted, Assoc.keys]

/-- The life of a link, for every run of it.

At most one dial is under way, and one is exactly while the link is being dialled, until it is
stopped. At most one wire is open, the one that the state names, until the link is stopped; the end
of another wire leaves the state alone. The end of a dial is told to everybody who waits for it, and
everybody who ever waited was told once or waits still. A link that is stopped refuses everything
from then on, gives its wires no frame and opens none. An accepted link is open or stopped, and never
dialled. -/
theorem lifecycle (origin : Origin) (operations : List Operation) :
    let x := reached origin.site operations
    x.dials ≤ 1 ∧
    (x.link.state ≠ .stopped → (x.link.isConnecting = true ↔ x.dials = 1)) ∧
    (∀ i j, x.link.isLive i = true → x.link.isLive j = true → i = j) ∧
    (x.link.state ≠ .stopped → ∀ g, x.link.isLive g = true ↔ x.link.state = .opened g) ∧
    (∀ g, x.link.state ≠ .opened g → (x.perform (.work g .ended)).link.state = x.link.state) ∧
    (x.dials ≠ 0 → ∀ failure, (x.perform (.dialEnded (.error failure))).told =
      x.told ++ resolveAll x.link.waiting (.error failure.duplicate) ∧
      ((∀ detail, failure ≠ .decomposition detail) → failure.duplicate = failure)) ∧
    (x.dials ≠ 0 → ∀ greeting, (x.perform (.dialEnded (.ok greeting))).told =
      x.told ++ resolveAll x.link.waiting (.ok ())) ∧
    x.told.map (·.waiter) ++ x.link.waiting = List.range x.link.nextWaiter ∧
    (x.link.state = .stopped → ∀ later,
      let y := reached x later
      y.link.connectOnce = (y.link, .settled (.error .closed)) ∧
      y.link.reconnect = .error .closed ∧ (∀ m, y.link.send m = .error .closed) ∧
      x.Final y) ∧
    (origin = .accepted → x.Accepted) := by
  intro x
  have hsound : x.Sound := (sound_site origin).reached operations
  have hagrees := hsound.agrees
  have hstopped := hagrees.stopped
  refine ⟨hstopped.1, ?_, hstopped.2, ?_, ?_, ?_, ?_, hsound.told_eq, ?_, ?_⟩
  · intro hrunning
    cases hstate : x.link.state with
    | closed => simp [isConnecting, hstate, (hstate ▸ hagrees).1]
    | connecting _ _ => simp [isConnecting, hstate, (hstate ▸ hagrees).1]
    | opened g => simp [isConnecting, hstate, (hstate ▸ hagrees).1]
    | stopped => exact absurd hstate hrunning
  · intro hrunning g
    cases hstate : x.link.state with
    | closed => simp [(hstate ▸ hagrees).2 g]
    | connecting _ _ => simp [(hstate ▸ hagrees).2 g]
    | opened i =>
      have hopen : x.Agrees (.opened i) := hstate ▸ hagrees
      rw [hopen.2, LinkState.opened.injEq, eq_comm]
    | stopped => exact absurd hstate hrunning
  · intro g hother
    exact (state_wireEnded x.link g).trans (if_neg hother)
  · intro hdials failure
    refine ⟨?_, fun hother => ?_⟩
    · simp only [Site.perform, if_neg hdials, Site.told_endDial]
    · cases failure with
      | decomposition detail => exact absurd rfl (hother detail)
      | _ => rfl
  · intro hdials greeting
    simp only [Site.perform, if_neg hdials, Site.told_endDial]
  · intro hstate later
    have hfinal := Site.final_reached hstate later
    refine ⟨?_, ?_, ?_, hfinal⟩
    · simp only [connectOnce, hfinal.stopped]
    · simp only [reconnect, hfinal.stopped]
    · intro m
      simp only [send, hfinal.stopped]
  · rintro rfl
    have haccepted : Origin.accepted.site.Accepted := ⟨rfl, rfl, Or.inl rfl⟩
    exact haccepted.reached operations

/-- A dial that ends after the link was stopped opens nothing; who waited for it was told before. -/
example :
    let x := reached (Origin.dialled "broker" 61613 (.withRetry ⟨0⟩ 1 ⟨0⟩) true).site
      [.connectOnce, .close, .dialEnded (.ok [])]
    x.link.state = .stopped ∧ x.link.wires = [] ∧ x.told.map (·.waiter) = [0] := by decide

end BrokerRpc.Link
