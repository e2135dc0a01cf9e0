import BrokerRpc.Proofs.Link.Lifecycle
import BrokerRpc.Proofs.Link.Passing

/-! # The journal of a link

A journal goes along with a run of a link. It keeps what the link forgets: the frames that were
accepted, each with what it was accepted for, how each connection came to be, and which connections
were closed by an order. One turn of a run, the end of the loop included, changes the link and the
journal in one of five ways.
-/
namespace BrokerRpc.Link

/-- What a frame was accepted for: a dial that was under way, by its number, or a connection that
was open. -/
inductive Target where
  | dial (number : Nat)
  | connection (g : Nat)
  deriving DecidableEq, Repr

/-- How a connection came to be: which dial it is from, and what it was greeted with. -/
structure Birth where
  dial : Nat
  greeting : List Message
  deriving DecidableEq, Repr

/-- A link with its past. `dialled` counts the dials that were started, `accepted` is in the order
of acceptance, and `closed` holds the connections that ended because they carried out an order to
close. -/
structure Journal where
  site : Site
  dialled : Nat := 0
  accepted : List (Target × Message) := []
  births : Assoc Nat Birth := []
  closed : List Nat := []

inductive Turn where
  | operation (o : Operation)
  | loopStopped

namespace Journal

/-- The frame that a link accepts; `dialled` counts a dial that is started for it. -/
def accepts (l : Link) (dialled : Nat) : Operation → List (Target × Message)
  | .send m =>
    match l.send m with
    | .error _ => []
    | .ok _ =>
      match l.state with
      | .opened g => [(.connection g, m)]
      | _ => [(.dial dialled, m)]
  | _ => []

def opens (x : Site) (dialled : Nat) : Operation → Assoc Nat Birth
  | .dialEnded (.ok greeting) =>
    if x.dials ≠ 0 ∧ x.link.isConnecting = true then
      [(x.link.generation + 1, { dial := dialled, greeting })]
    else []
  | _ => []

def closes (l : Link) : Operation → List Nat
  | .work g (.carryOut now) =>
    if l.isLive g = true ∧ (l.carryOut g now).1.isLive g = false then [g] else []
  | _ => []

def perform (j : Journal) : Turn → Journal
  | .operation o =>
    let site := j.site.perform o
    let dialled := j.dialled + (site.dials - j.site.dials)
    { site, dialled
      accepted := j.accepted ++ accepts j.site.link dialled o
      births := j.births ++ opens j.site dialled o
      closed := j.closed ++ closes j.site.link o }
  | .loopStopped => { j with site := { j.site with link := j.site.link.stopLoop, dials := 0 } }

def after (j : Journal) (turns : List Turn) : Journal := turns.foldl perform j

def acceptedFor (j : Journal) (target : Target) : List Message :=
  j.accepted.filterMap fun entry => if entry.1 = target then some entry.2 else none

/-- What a connection has to write: its greeting, then what was accepted while it was dialled, then
what was accepted while it was open. -/
def submitted (j : Journal) (g : Nat) : List Message :=
  match j.births.get? g with
  | some birth =>
    birth.greeting ++ j.acceptedFor (.dial birth.dial) ++ j.acceptedFor (.connection g)
  | none => []

end Journal

/-- The journal of a link that is new. An accepted one is open already, without a greeting. -/
def Origin.journal (origin : Origin) : Journal :=
  match origin with
  | .dialled _ _ _ _ => { site := origin.site }
  | .accepted => { site := origin.site, births := [(1, { dial := 0, greeting := [] })] }

/-! ## What a turn does -/

inductive Journal.Becomes (j j' : Journal) : Prop where
  /-- Wires work, or the link leaves a state; a wire that carried out an order to close is noted. -/
  | rests
      (hpasses : Passes (fun _ => []) j.site.link j'.site.link)
      (hstate : j'.site.link.state = j.site.link.state ∨
        j'.site.link.isConnecting = false ∧
          (j.site.link.state = .stopped → j'.site.link.state = .stopped))
      (hdialled : j'.dialled = j.dialled) (haccepted : j'.accepted = j.accepted)
      (hbirths : j'.births = j.births)
      (hclosed : ∀ i ∈ j'.closed, i ∈ j.closed ∨
        ∃ w w' rest, j.site.link.wires.get? i = some w ∧ w.orders = .close :: rest ∧
          j'.site.link.wires.get? i = some w' ∧ w'.orders = rest ∧ w'.ended = true)
  | dials {frames : List Message} {waiters : List Waiter}
      (hpasses : Passes (fun _ => []) j.site.link j'.site.link)
      (hbefore : j.site.link.state = .closed)
      (hafter : j'.site.link.state = .connecting frames waiters)
      (hdialled : j'.dialled = j.dialled + 1)
      (haccepted : j'.accepted = j.accepted ++ frames.map (.dial (j.dialled + 1), ·))
      (hbirths : j'.births = j.births) (hclosed : j'.closed = j.closed)
  | waits {backlog frames : List Message} {waiters waiters' : List Waiter}
      (hpasses : Passes (fun _ => []) j.site.link j'.site.link)
      (hbefore : j.site.link.state = .connecting backlog waiters)
      (hafter : j'.site.link.state = .connecting (backlog ++ frames) waiters')
      (hdialled : j'.dialled = j.dialled)
      (haccepted : j'.accepted = j.accepted ++ frames.map (.dial j.dialled, ·))
      (hbirths : j'.births = j.births) (hclosed : j'.closed = j.closed)
  | orders {g : Nat} {o : Order} (hg : g ∈ j.site.link.wires.keys)
      (hpasses : Passes (fun i => if i = g then [o] else []) j.site.link j'.site.link)
      (hbefore : j.site.link.state = .opened g)
      (hafter : j'.site.link.state = if o = .close then .stopped else .opened g)
      (hdialled : j'.dialled = j.dialled)
      (haccepted : j'.accepted = j.accepted ++ (Order.frames [o]).map (.connection g, ·))
      (hbirths : j'.births = j.births) (hclosed : j'.closed = j.closed)
  | opens {greeting backlog : List Message} {waiters : List Waiter}
      (hbefore : j.site.link.state = .connecting backlog waiters)
      (hlink : j'.site.link = { j.site.link with
        state := .opened (j.site.link.generation + 1)
        generation := j.site.link.generation + 1
        wires := j.site.link.wires ++
          [(j.site.link.generation + 1, { orders := (greeting ++ backlog).map .frame })] })
      (hdialled : j'.dialled = j.dialled) (haccepted : j'.accepted = j.accepted)
      (hbirths : j'.births =
        j.births ++ [(j.site.link.generation + 1, { dial := j.dialled, greeting })])
      (hclosed : j'.closed = j.closed)

namespace Journal

variable {j : Journal}

theorem acceptedFor_append {j' : Journal} {target : Target} {frames : List Message}
    (h : j'.accepted = j.accepted ++ frames.map (target, ·)) (other : Target) :
    j'.acceptedFor other = j.acceptedFor other ++ if target = other then frames else [] := by
  simp only [acceptedFor, h, List.filterMap_append, List.filterMap_map, Function.comp_def]
  by_cases ht : target = other <;> simp [ht]

/-- What an operation that opens and closes nothing makes of a journal. -/
theorem perform_eq {o : Operation} {site : Site} {dialled : Nat}
    {accepted : List (Target × Message)} (hsite : j.site.perform o = site)
    (hdialled : j.dialled + (site.dials - j.site.dials) = dialled)
    (haccepts : accepts j.site.link dialled o = accepted)
    (hopens : opens j.site dialled o = []) (hcloses : closes j.site.link o = []) :
    j.perform (.operation o) =
      { j with site, dialled, accepted := j.accepted ++ accepted } := by
  simp only [perform, hsite, hdialled, haccepts, hopens, hcloses, List.append_nil]

theorem becomes_rest {o : Operation} {link : Link} {told : List Resolution} {dials : Nat}
    (hsite : j.site.perform o = { link, dials, told }) (hdials : dials ≤ j.site.dials)
    (hpasses : Passes (fun _ => []) j.site.link link)
    (hstate : link.state = j.site.link.state ∨ link.isConnecting = false ∧
      (j.site.link.state = .stopped → link.state = .stopped))
    (haccepts : accepts j.site.link j.dialled o = []) (hopens : opens j.site j.dialled o = [])
    (hcloses : closes j.site.link o = []) : j.Becomes (j.perform (.operation o)) := by
  have hdialled : j.dialled + (dials - j.site.dials) = j.dialled := by omega
  rw [perform_eq hsite hdialled haccepts hopens hcloses]
  exact .rests hpasses hstate rfl (List.append_nil _) rfl fun i hi => Or.inl hi

theorem becomes_same {o : Operation} (hsite : j.site.perform o = j.site)
    (haccepts : accepts j.site.link j.dialled o = []) (hopens : opens j.site j.dialled o = [])
    (hcloses : closes j.site.link o = []) : j.Becomes (j.perform (.operation o)) :=
  becomes_rest hsite (Nat.le_refl _) (.refl _) (Or.inl rfl) haccepts hopens hcloses

theorem becomes_dial {o : Operation} (frames : List Message) (waiters : List Waiter)
    (nextWaiter : Waiter)
    (hsite : j.site.perform o = j.site.take
      (.ok ({ j.site.link with state := .connecting frames waiters, nextWaiter }, true)))
    (hbefore : j.site.link.state = .closed)
    (haccepts : accepts j.site.link (j.dialled + 1) o = frames.map (.dial (j.dialled + 1), ·))
    (hopens : opens j.site (j.dialled + 1) o = []) (hcloses : closes j.site.link o = []) :
    j.Becomes (j.perform (.operation o)) := by
  have hdialled : j.dialled + (j.site.dials + 1 - j.site.dials) = j.dialled + 1 := by omega
  rw [perform_eq hsite hdialled haccepts hopens hcloses]
  exact .dials (.of_wires rfl (Nat.le_refl _)) hbefore rfl rfl rfl rfl rfl

theorem becomes_wait {o : Operation} {backlog : List Message} {waiters : List Waiter}
    (frames : List Message) (waiters' : List Waiter) (nextWaiter : Waiter)
    (hsite : j.site.perform o = j.site.take
      (.ok ({ j.site.link with state := .connecting (backlog ++ frames) waiters', nextWaiter },
        false)))
    (hbefore : j.site.link.state = .connecting backlog waiters)
    (haccepts : accepts j.site.link j.dialled o = frames.map (.dial j.dialled, ·))
    (hopens : opens j.site j.dialled o = []) (hcloses : closes j.site.link o = []) :
    j.Becomes (j.perform (.operation o)) := by
  have hdialled : j.dialled + (j.site.dials - j.site.dials) = j.dialled := by omega
  rw [perform_eq hsite hdialled haccepts hopens hcloses]
  exact .waits (.of_wires rfl (Nat.le_refl _)) hbefore rfl rfl rfl rfl rfl

theorem becomes_order {o : Operation} {g : Nat} (order : Order) (state : LinkState)
    (told : List Resolution) (hg : g ∈ j.site.link.wires.keys)
    (hsite : j.site.perform o =
      { link := { j.site.link with state }.change g (·.order order), dials := j.site.dials, told })
    (hframe : ∀ m, order = .frame m → j.site.link.isLive g = true)
    (hbefore : j.site.link.state = .opened g)
    (hafter : state = if order = .close then .stopped else .opened g)
    (haccepts : accepts j.site.link j.dialled o =
      (Order.frames [order]).map (.connection g, ·))
    (hopens : opens j.site j.dialled o = []) (hcloses : closes j.site.link o = []) :
    j.Becomes (j.perform (.operation o)) := by
  have hdialled : j.dialled + (j.site.dials - j.site.dials) = j.dialled := by omega
  have horder := passes_order hg hframe
  rw [perform_eq hsite hdialled haccepts hopens hcloses]
  exact .orders hg ⟨horder.keys_eq, horder.generation_le, horder.passes⟩ hbefore hafter rfl rfl rfl
    rfl

theorem becomes_connectOnce : j.Becomes (j.perform (.operation .connectOnce)) := by
  cases hstate : j.site.link.state with
  | closed =>
    cases hrefusal : j.site.link.dialRefusal? with
    | none =>
      refine becomes_dial [] [j.site.link.nextWaiter] (j.site.link.nextWaiter + 1)
        ?_ hstate rfl rfl rfl
      simp [Site.perform, Link.connectOnce, hstate, hrefusal, awaiting]
    | some failure =>
      refine becomes_same ?_ rfl rfl rfl
      simp only [Site.perform, Link.connectOnce, hstate, hrefusal]
  | connecting backlog waiters =>
    refine becomes_wait [] (waiters ++ [j.site.link.nextWaiter]) (j.site.link.nextWaiter + 1)
      ?_ hstate rfl rfl rfl
    simp only [Site.perform, Link.connectOnce, hstate, awaiting, List.append_nil]
  | opened g =>
    refine becomes_same ?_ rfl rfl rfl
    simp only [Site.perform, Link.connectOnce, hstate]
  | stopped =>
    refine becomes_same ?_ rfl rfl rfl
    simp only [Site.perform, Link.connectOnce, hstate]

theorem becomes_reconnect : j.Becomes (j.perform (.operation .reconnect)) := by
  cases hstate : j.site.link.state with
  | closed =>
    cases hrefusal : j.site.link.dialRefusal? with
    | none =>
      refine becomes_dial [] [] j.site.link.nextWaiter ?_ hstate rfl rfl rfl
      simp only [Site.perform, Link.reconnect, hstate, hrefusal]
    | some failure =>
      refine becomes_same ?_ rfl rfl rfl
      simp only [Site.perform, Link.reconnect, hstate, hrefusal, Site.take]
  | connecting backlog waiters =>
    refine becomes_same ?_ rfl rfl rfl
    simp [Site.perform, Link.reconnect, hstate, Site.take]
  | opened g =>
    refine becomes_same ?_ rfl rfl rfl
    simp [Site.perform, Link.reconnect, hstate, Site.take]
  | stopped =>
    refine becomes_same ?_ rfl rfl rfl
    simp only [Site.perform, Link.reconnect, hstate, Site.take]

theorem becomes_send (m : Message) : j.Becomes (j.perform (.operation (.send m))) := by
  cases hstate : j.site.link.state with
  | closed =>
    cases hrefusal : j.site.link.dialRefusal? with
    | none =>
      refine becomes_dial [m] [] j.site.link.nextWaiter ?_ hstate ?_ rfl rfl
      · simp only [Site.perform, Link.send, hstate, hrefusal]
      · simp only [accepts, Link.send, hstate, hrefusal, List.map_cons, List.map_nil]
    | some failure =>
      refine becomes_same ?_ ?_ rfl rfl
      · simp only [Site.perform, Link.send, hstate, hrefusal, Site.take]
      · simp only [accepts, Link.send, hstate, hrefusal]
  | connecting backlog waiters =>
    refine becomes_wait [m] waiters j.site.link.nextWaiter ?_ hstate ?_ rfl rfl
    · simp only [Site.perform, Link.send, hstate]
    · simp only [accepts, Link.send, hstate, List.map_cons, List.map_nil]
  | opened g =>
    by_cases hlive : j.site.link.isLive g = true
    · refine becomes_order (.frame m) j.site.link.state j.site.told (mem_keys_of_isLive hlive) ?_
        (fun _ _ => hlive) hstate (hstate.trans (if_neg (by simp)).symm) ?_ rfl rfl
      · simp [Site.perform, Link.send, hstate, hlive, Site.take, change]
      · simp [accepts, Link.send, hstate, hlive, Order.frames]
    · refine becomes_same ?_ ?_ rfl rfl
      · simp only [Site.perform, Link.send, hstate, if_neg hlive, Site.take]
      · simp only [accepts, Link.send, hstate, if_neg hlive]
  | stopped =>
    refine becomes_same ?_ ?_ rfl rfl
    · simp only [Site.perform, Link.send, hstate, Site.take]
    · simp only [accepts, Link.send, hstate]

theorem becomes_setHeartbeats (outgoing incoming : Nat) :
    j.Becomes (j.perform (.operation (.setHeartbeats outgoing incoming))) := by
  cases hstate : j.site.link.state with
  | opened g =>
    by_cases hg : g ∈ j.site.link.wires.keys
    · refine becomes_order (.heartbeats outgoing incoming) j.site.link.state j.site.told hg ?_
        (fun _ h => by cases h) hstate (hstate.trans (if_neg (by simp)).symm) rfl rfl rfl
      simp [Site.perform, Link.setHeartbeats, hstate, change]
    · refine becomes_same ?_ rfl rfl rfl
      simp [Site.perform, Link.setHeartbeats, hstate, change_of_not_mem hg]
  | closed => exact becomes_same (by simp [Site.perform, Link.setHeartbeats, hstate]) rfl rfl rfl
  | connecting _ _ =>
    exact becomes_same (by simp [Site.perform, Link.setHeartbeats, hstate]) rfl rfl rfl
  | stopped => exact becomes_same (by simp [Site.perform, Link.setHeartbeats, hstate]) rfl rfl rfl

theorem becomes_close : j.Becomes (j.perform (.operation .close)) := by
  -- unless a wire is open, nothing but the state changes
  have hrest (hwires : j.site.link.close.1.wires = j.site.link.wires)
      (hgeneration : j.site.link.close.1.generation = j.site.link.generation)
      (hstopped : j.site.link.close.1.state = .stopped) :
      j.Becomes (j.perform (.operation .close)) := by
    have hsite : j.site.perform .close =
        { link := j.site.link.close.1, dials := j.site.dials,
          told := j.site.told ++ j.site.link.close.2 } := rfl
    have hpasses := Passes.of_wires hwires (Nat.le_of_eq hgeneration.symm)
    refine becomes_rest hsite (Nat.le_refl _) hpasses (Or.inr ?_) rfl rfl rfl
    exact ⟨by simp [isConnecting, hstopped], fun _ => hstopped⟩
  cases hstate : j.site.link.state with
  | opened g =>
    by_cases hg : g ∈ j.site.link.wires.keys
    · refine becomes_order .close .stopped j.site.told hg ?_ (fun _ h => by cases h) hstate
        rfl rfl rfl rfl
      simp [Site.perform, Link.close, hstate]
    · apply hrest
      all_goals
        simp [Link.close, hstate, @change_of_not_mem { j.site.link with state := .stopped } g hg]
  | closed => apply hrest <;> simp [Link.close, hstate]
  | connecting _ _ => apply hrest <;> simp [Link.close, hstate]
  | stopped => apply hrest <;> simp [Link.close, hstate]

theorem becomes_dialEnded (result : Except Failure (List Message)) :
    j.Becomes (j.perform (.operation (.dialEnded result))) := by
  by_cases hdials : j.site.dials = 0
  · refine becomes_same (by simp [Site.perform, hdials]) rfl ?_ rfl
    cases result <;> simp [opens, hdials]
  cases result with
  | error failure =>
    have hsite : j.site.perform (.dialEnded (.error failure)) =
        { link := (j.site.link.dialFailed failure).1, dials := j.site.dials - 1
          told := j.site.told ++ (j.site.link.dialFailed failure).2.1 } := by
      simp only [Site.perform, if_neg hdials, Site.endDial]
    refine becomes_rest hsite (Nat.sub_le _ _) ?_ ?_ rfl rfl rfl
    · unfold dialFailed
      split <;> exact .of_wires rfl (Nat.le_refl _)
    · cases hstate : j.site.link.state <;> simp [dialFailed, hstate, isConnecting]
  | ok greeting =>
    have hsite : j.site.perform (.dialEnded (.ok greeting)) =
        { link := (j.site.link.dialSucceeded greeting).1, dials := j.site.dials - 1
          told := j.site.told ++ (j.site.link.dialSucceeded greeting).2 } := by
      simp only [Site.perform, if_neg hdials, Site.endDial]
    cases hstate : j.site.link.state with
    | connecting backlog waiters =>
      have hborn : opens j.site j.dialled (.dialEnded (.ok greeting)) =
          [(j.site.link.generation + 1, { dial := j.dialled, greeting })] :=
        if_pos ⟨hdials, by simp [isConnecting, hstate]⟩
      have hdialled : j.dialled + (j.site.dials - 1 - j.site.dials) = j.dialled := by omega
      have hbirths : (j.perform (.operation (.dialEnded (.ok greeting)))).births =
          j.births ++ [(j.site.link.generation + 1, { dial := j.dialled, greeting })] := by
        simp only [perform, hsite, hdialled, hborn]
      refine .opens hstate ?_ ?_ ?_ hbirths ?_
      · simp only [perform, hsite, dialSucceeded, hstate]
      · simp only [perform, hsite, hdialled]
      · simp [perform, accepts]
      · simp [perform, closes]
    | _ =>
      have hnone : opens j.site j.dialled (.dialEnded (.ok greeting)) = [] :=
        if_neg (by simp [isConnecting, hstate])
      refine becomes_rest hsite (Nat.sub_le _ _) ?_ (Or.inr ?_) rfl hnone rfl
      · simp only [dialSucceeded, hstate]
        exact .of_wires rfl (Nat.le_succ _)
      · simp [dialSucceeded, hstate, isConnecting]

theorem becomes_work (g : Nat) (w : Work) : j.Becomes (j.perform (.operation (.work g w))) := by
  refine .rests (passes_work _ g w) (state_work _ g w) ?_ ?_ ?_ fun i hi => ?_
  · simp [perform, Site.perform]
  · simp [perform, accepts]
  · simp [perform, opens]
  · rcases List.mem_append.mp hi with hi | hi
    · exact Or.inl hi
    cases w with
    | carryOut now =>
      simp only [closes] at hi
      split at hi
      · rename_i hends
        obtain rfl := List.mem_singleton.mp hi
        exact Or.inr (carryOut_ends hends.1 hends.2)
      · cases hi
    | _ => cases hi

theorem becomes_perform (j : Journal) (turn : Turn) : j.Becomes (j.perform turn) := by
  cases turn with
  | loopStopped =>
    exact .rests (passes_stopLoop _) (Or.inl rfl) rfl rfl rfl fun _ hi => Or.inl hi
  | operation o =>
    cases o with
    | connectOnce => exact becomes_connectOnce
    | reconnect => exact becomes_reconnect
    | send m => exact becomes_send m
    | setHeartbeats outgoing incoming => exact becomes_setHeartbeats outgoing incoming
    | setPolicy policy =>
      have hpasses : Passes (fun _ => []) j.site.link (j.site.link.setPolicy policy) :=
        .of_wires rfl (Nat.le_refl _)
      exact becomes_rest rfl (Nat.le_refl _) hpasses (Or.inl rfl) rfl rfl rfl
    | close => exact becomes_close
    | dialEnded result => exact becomes_dialEnded result
    | work g w => exact becomes_work g w

end Journal
end BrokerRpc.Link
