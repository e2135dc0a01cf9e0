import BrokerRpc.Proofs.Link.Wires

/-! # Runs of a link

A run performs operations one after the other: what callers do, how dials end, and what the wires
do. A dial ends only if one is under way; the end of a wire is reported under any generation.
-/
namespace BrokerRpc.Link

inductive Work where
  | ended
  | carryOut (now : Instant)
  | tick (now : Instant)
  | expire (now : Instant)
  | fail (failure : Failure)
  | receive (now : Instant) (piece : Bytes)

def work (l : Link) (g : Nat) : Work → Link
  | .ended => l.wireEnded g
  | .carryOut now => (l.carryOut g now).1
  | .tick now => l.tick g now
  | .expire now => (l.expire g now).1
  | .fail failure => (l.fail g failure).1
  | .receive now piece => (l.receive g now piece).1

inductive Operation where
  | connectOnce
  | reconnect
  | send (m : Message)
  | setHeartbeats (outgoing incoming : Nat)
  | setPolicy (policy : Policy)
  | close
  /-- A dial ends; if it succeeds, the greeting is written first. -/
  | dialEnded (result : Except Failure (List Message))
  | work (g : Nat) (w : Work)

/-- A link, the count of dials under way for it, and what its waiters were told so far. -/
structure Site where
  link : Link
  dials : Nat := 0
  told : List Resolution := []

namespace Site

def take (x : Site) : Except Failure (Link × Bool) → Site
  | .ok (link, dials) => { x with link, dials := x.dials + dials.toNat }
  | .error _ => x

def endDial (x : Site) (result : Except Failure (List Message)) : Site :=
  match result with
  | .ok greeting =>
    let (link, resolutions) := x.link.dialSucceeded greeting
    { link, dials := x.dials - 1, told := x.told ++ resolutions }
  | .error failure =>
    let (link, resolutions, _) := x.link.dialFailed failure
    { link, dials := x.dials - 1, told := x.told ++ resolutions }

def perform (x : Site) : Operation → Site
  | .connectOnce =>
    match x.link.connectOnce with
    | (_, .settled _) => x
    | (link, .awaiting _ dials) => x.take (.ok (link, dials))
  | .reconnect => x.take x.link.reconnect
  | .send m => x.take (x.link.send m)
  | .setHeartbeats outgoing incoming => { x with link := x.link.setHeartbeats outgoing incoming }
  | .setPolicy policy => { x with link := x.link.setPolicy policy }
  | .close =>
    let (link, resolutions) := x.link.close
    { x with link, told := x.told ++ resolutions }
  | .dialEnded result => if x.dials = 0 then x else x.endDial result
  | .work g w => { x with link := x.link.work g w }

end Site

def reached (x : Site) (operations : List Operation) : Site := operations.foldl Site.perform x

def waiting (l : Link) : List Waiter :=
  match l.state with
  | .connecting _ waiters => waiters
  | _ => []

/-! ## What wires do to a link -/

/-- What the work of wires can do to a link: one wire moves its own work on, or ends. -/
inductive Moves (l l' : Link) : Prop where
  | worked {g : Nat} (hgives : l.Gives g [] l') (hstate : l'.state = l.state)
      (hwaiter : l'.nextWaiter = l.nextWaiter)
  | ended {g : Nat} (hloses : l.Loses g l')
      (hstate : l'.state =
        if l.state = .opened g then if l.remote.isSome then .closed else .stopped else l.state)
      (hwaiter : l'.nextWaiter = l.nextWaiter)

theorem nextWaiter_wireEnded (l : Link) (g : Nat) : (l.wireEnded g).nextWaiter = l.nextWaiter := by
  unfold wireEnded
  dsimp only
  split <;> rfl

theorem moves_wireEnded (l : Link) (g : Nat) : l.Moves (l.wireEnded g) :=
  .ended (loses_wireEnded g) (state_wireEnded l g) (nextWaiter_wireEnded l g)

theorem moves_onWire {l : Link} {g : Nat} {step : Wire → Wire × Option WireEnd}
    (hstep : ∀ w, Wire.Steady step w) : l.Moves (l.onWire g step).1 := by
  have hrefl : l.Moves l := .worked (Gives.refl l g) rfl rfl
  unfold onWire
  split
  · rename_i w hw
    split
    · exact hrefl
    · have hgives : l.Gives g [] (l.change g fun _ => (step w).1) := by
        refine gives_change hw ?_ (hstep w).ended_eq (hstep w).unclosed
        rw [(hstep w).sent_eq, List.append_nil]
      unfold take
      dsimp only
      split
      · exact .worked hgives rfl rfl
      · exact .ended (hgives.loses (loses_wireEnded g)) (state_wireEnded _ g)
          (nextWaiter_wireEnded _ g)
  · exact hrefl

theorem moves_work (l : Link) (g : Nat) (w : Work) : l.Moves (l.work g w) := by
  cases w with
  | ended => exact moves_wireEnded l g
  | carryOut now => exact moves_onWire fun w => w.steady_carryOut now
  | tick now => exact moves_onWire fun w => w.steady_tick l.policy now
  | expire now => exact moves_onWire fun w => w.steady_expire l.policy now
  | fail failure => exact moves_onWire fun w => w.steady_fail failure
  | receive now piece =>
    rw [work, receive_fst]
    exact moves_onWire fun w => w.steady_receive now piece

end BrokerRpc.Link
