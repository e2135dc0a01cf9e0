import BrokerRpc.Proofs.Link.Run
import BrokerRpc.Proofs.Session.Arrival

/-! # Clients whose link is stopped

A link that was closed for good stays stopped. Whatever is done with the client above it gives its
connections no frame and opens none. The last wire may still carry out what it was given; once no
wire is live, the wires stay as they are, and no channel is told anything.
-/
namespace BrokerRpc

/-! ## Links -/

namespace Link
variable {l l' l'' : Link} {g : Nat}

/-- What a link may still do once it is stopped: no connection is opened or given a frame, and the
wires do not change any more once none is live. -/
structure Rests (l l' : Link) : Prop where
  stopped : l'.state = .stopped
  keys_eq : l'.wires.keys = l.wires.keys
  sent_eq : ∀ g, l'.sent g = l.sent g
  isLive_of : ∀ g, l'.isLive g = true → l.isLive g = true
  still : (∀ g, l.isLive g = false) → ∀ g, l'.wires.get? g = l.wires.get? g

theorem Rests.of_wires_eq (hstopped : l'.state = .stopped) (hwires : l'.wires = l.wires) :
    l.Rests l' := by
  refine ⟨hstopped, by rw [hwires], fun g => ?_, fun g => ?_, fun _ g => by rw [hwires]⟩
  · rw [sent, sent, hwires]
  · rw [isLive, isLive, hwires]
    exact id

theorem Rests.refl (h : l.state = .stopped) : l.Rests l := .of_wires_eq h rfl

theorem Rests.trans (h : l.Rests l') (h' : l'.Rests l'') : l.Rests l'' := by
  refine ⟨h'.stopped, h'.keys_eq.trans h.keys_eq, fun g => (h'.sent_eq g).trans (h.sent_eq g),
    fun g hlive => h.isLive_of g (h'.isLive_of g hlive), fun hdead g => ?_⟩
  have hdead' : ∀ g, l'.isLive g = false := fun g =>
    Bool.eq_false_iff.mpr fun hlive => Bool.eq_false_iff.mp (hdead g) (h.isLive_of g hlive)
  exact (h'.still hdead' g).trans (h.still hdead g)

end Link

/-! ## Clients -/

namespace Client
variable {c c' c'' : Client}

def deliveriesIn (effects : List Effect) : List (Recipient × Delivery) :=
  effects.filterMap fun e =>
    match e with
    | .deliver recipient delivery => some (recipient, delivery)
    | _ => none

@[simp] theorem deliveriesIn_append (first rest : List Effect) :
    deliveriesIn (first ++ rest) = deliveriesIn first ++ deliveriesIn rest :=
  List.filterMap_append

structure Winds (c c' : Client) (effects : List Effect) : Prop where
  rests : c.link.Rests c'.link
  undialled : dialsIn effects = 0
  unheard : (∀ g, c.link.isLive g = false) → deliveriesIn effects = []

namespace Winds
variable {effects more : List Effect}

theorem of_link_eq (h : c.link.state = .stopped) (hlink : c'.link = c.link) : Winds c c' [] :=
  ⟨.of_wires_eq (hlink ▸ h) (congrArg Link.wires hlink), rfl, fun _ => rfl⟩

theorem refl (h : c.link.state = .stopped) : Winds c c [] := .of_link_eq h rfl

theorem stopped (h : Winds c c' effects) : c'.link.state = .stopped := h.rests.stopped

theorem dead (h : Winds c c' effects) (hdead : ∀ g, c.link.isLive g = false) (g : Nat) :
    c'.link.isLive g = false :=
  Bool.eq_false_iff.mpr fun hlive =>
    Bool.eq_false_iff.mp (hdead g) (h.rests.isLive_of g hlive)

theorem trans (h : Winds c c' effects) (h' : Winds c' c'' more) :
    Winds c c'' (effects ++ more) := by
  refine ⟨h.rests.trans h'.rests, ?_, fun hdead => ?_⟩
  · rw [dialsIn_append, h.undialled, h'.undialled]
  · rw [deliveriesIn_append, h.unheard hdead, h'.unheard (h.dead hdead)]
    rfl

end Winds

section Callers
variable (h : c.link.state = .stopped)
include h

end Callers

end Client
end BrokerRpc
