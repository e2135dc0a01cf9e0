import BrokerRpc.Link.Basic

/-! # Frames given to the wires of a link

What counts of a wire is whether it has ended and which frames it was given, written or not. The
work of a wire changes neither, unless the wire ends by it.
-/
namespace BrokerRpc

namespace Wire

def queued (w : Wire) : List Message :=
  w.orders.filterMap fun o =>
    match o with
    | .frame m => some m
    | _ => none

/-- The frames that the wire was given, in order: those that are written and those that wait. -/
def sent (w : Wire) : List Message := w.frames ++ w.queued

theorem sent_order (w : Wire) (m : Message) : (w.order (.frame m)).sent = w.sent ++ [m] := by
  simp [sent, order, queued, frames]

theorem sent_order_heartbeats (w : Wire) (outgoing incoming : Nat) :
    (w.order (.heartbeats outgoing incoming)).sent = w.sent := by
  simp [sent, order, queued, frames]

/-- A step of a wire gives it no frame and no order to close, takes no frame away, and leaves open
whether the wire ends. -/
structure Steady (step : Wire → Wire × Option WireEnd) (w : Wire) : Prop where
  sent_eq : (step w).1.sent = w.sent
  ended_eq : (step w).1.ended = w.ended
  unclosed : .close ∉ w.orders → .close ∉ (step w).1.orders

theorem steady_carryOut (w : Wire) (now : Instant) : Steady (·.carryOut now) w := by
  cases horders : w.orders with
  | nil =>
    have he : w.carryOut now = (w, none) := by simp [carryOut, horders]
    exact ⟨by rw [he], by rw [he], by simp [he]⟩
  | cons o rest =>
    have hrest : .close ∉ w.orders → .close ∉ rest := by
      rw [horders, List.mem_cons, not_or]
      exact And.right
    cases o with
    | frame m =>
      have he : w.carryOut now = ({ w with orders := rest }.write now m, none) := by
        simp [carryOut, horders]
      refine ⟨?_, by rw [he]; rfl, by rw [he]; exact hrest⟩
      simp [he, sent, queued, frames, write, horders]
    | heartbeats outgoing incoming =>
      have he : w.carryOut now =
          ({ w with orders := rest }.setHeartbeats now outgoing incoming, none) := by
        simp [carryOut, horders]
      refine ⟨?_, by rw [he]; rfl, by rw [he]; exact hrest⟩
      simp [he, sent, queued, frames, setHeartbeats, horders]
    | close =>
      have he : w.carryOut now = ({ w with orders := rest }, some (.ok ())) := by
        simp [carryOut, horders]
      refine ⟨?_, by rw [he], by rw [he]; exact hrest⟩
      simp [he, sent, queued, frames, horders]

theorem steady_tick (w : Wire) (policy : Policy) (now : Instant) :
    Steady (fun w => (w.tick policy now, none)) w := by
  constructor
  all_goals
    simp only [tick]
    split
    · split <;> simp [sent, queued, frames]
    · simp

theorem steady_expire (w : Wire) (policy : Policy) (now : Instant) :
    Steady (·.expire policy now) w := by
  constructor
  all_goals
    simp only [expire]
    split
    · split <;> simp [sent, queued, frames]
    · simp

theorem steady_fail (w : Wire) (failure : Failure) :
    Steady (fun w => (w, some (.error failure))) w := ⟨rfl, rfl, id⟩

theorem steady_receive (w : Wire) (now : Instant) (piece : Bytes) :
    Steady (fun w => ((w.receive now piece).1, none)) w := ⟨rfl, rfl, id⟩

structure Works (step : Wire → Wire × Option WireEnd) (w : Wire) : Prop extends Steady step w where
  not_ok : (step w).2 ≠ some (.ok ())

theorem works_carryOut {w : Wire} (h : .close ∉ w.orders) (now : Instant) :
    Works (·.carryOut now) w := by
  refine ⟨steady_carryOut w now, ?_⟩
  unfold carryOut
  split
  · simp
  · simp
  · simp
  · rename_i horders
    simp [horders] at h

theorem works_tick (w : Wire) (policy : Policy) (now : Instant) :
    Works (fun w => (w.tick policy now, none)) w := ⟨steady_tick w policy now, by simp⟩

theorem works_expire (w : Wire) (policy : Policy) (now : Instant) :
    Works (·.expire policy now) w := by
  refine ⟨steady_expire w policy now, ?_⟩
  simp only [expire]
  split
  · split <;> simp
  · simp

theorem works_fail (w : Wire) (failure : Failure) : Works (fun w => (w, some (.error failure))) w :=
  ⟨steady_fail w failure, by simp⟩

theorem works_receive (w : Wire) (now : Instant) (piece : Bytes) :
    Works (fun w => ((w.receive now piece).1, none)) w := ⟨steady_receive w now piece, by simp⟩

end Wire

namespace Link

def sent (l : Link) (g : Nat) : List Message :=
  match l.wires.get? g with
  | some w => w.sent
  | none => []

def Unclosed (l : Link) : Prop := ∀ g w, l.wires.get? g = some w → .close ∉ w.orders

/-- Between two states of a link one connection was given some frames, and no wire opened or
ended. -/
structure Gives (l : Link) (g : Nat) (frames : List Message) (l' : Link) : Prop where
  remote_eq : l'.remote = l.remote
  running_eq : l'.running = l.running
  generation_eq : l'.generation = l.generation
  keys_eq : l'.wires.keys = l.wires.keys
  live_eq : ∀ i, l'.isLive i = l.isLive i
  sent_eq : ∀ i, l'.sent i = l.sent i ++ if i = g then frames else []
  unclosed : l.Unclosed → l'.Unclosed

namespace Gives

theorem refl (l : Link) (g : Nat) : l.Gives g [] l :=
  ⟨rfl, rfl, rfl, rfl, fun _ => rfl, fun _ => by simp, id⟩

theorem withState {l l' : Link} {g : Nat} {frames : List Message} (h : l.Gives g frames l')
    (state : LinkState) (nextWaiter : Waiter) :
    l.Gives g frames { l' with state, nextWaiter } :=
  ⟨h.remote_eq, h.running_eq, h.generation_eq, h.keys_eq, h.live_eq, h.sent_eq, h.unclosed⟩

theorem trans {l l' l'' : Link} {g : Nat} {first rest : List Message} (h : l.Gives g first l')
    (h' : l'.Gives g rest l'') : l.Gives g (first ++ rest) l'' := by
  refine ⟨h'.remote_eq.trans h.remote_eq, h'.running_eq.trans h.running_eq,
    h'.generation_eq.trans h.generation_eq, h'.keys_eq.trans h.keys_eq,
    fun i => (h'.live_eq i).trans (h.live_eq i), ?_, fun hu => h'.unclosed (h.unclosed hu)⟩
  intro i
  rw [h'.sent_eq, h.sent_eq, List.append_assoc]
  split <;> rfl

end Gives

theorem isLive_iff {l : Link} {g : Nat} :
    l.isLive g = true ↔ ∃ w, l.wires.get? g = some w ∧ w.ended = false := by
  unfold isLive
  cases l.wires.get? g <;> simp

theorem mem_keys_of_isLive {l : Link} {g : Nat} (h : l.isLive g = true) : g ∈ l.wires.keys := by
  obtain ⟨w, hw, _⟩ := isLive_iff.mp h
  exact Assoc.mem_keys_iff.mpr ⟨w, hw⟩

theorem sent_of_not_mem {l : Link} {g : Nat} (h : g ∉ l.wires.keys) : l.sent g = [] := by
  rw [sent, Assoc.get?_eq_none_iff.mpr h]

theorem get?_change (l : Link) (g i : Nat) (f : Wire → Wire) :
    (l.change g f).wires.get? i = if i = g then (l.wires.get? i).map f else l.wires.get? i :=
  Assoc.get?_modify _ _ _ _

theorem isLive_change {l : Link} {g : Nat} {f : Wire → Wire}
    (h : ∀ w, l.wires.get? g = some w → (f w).ended = w.ended) (i : Nat) :
    (l.change g f).isLive i = l.isLive i := by
  unfold isLive
  rw [get?_change]
  by_cases hi : i = g
  · subst hi
    cases hw : l.wires.get? i with
    | none => simp
    | some w => simp [h w hw]
  · simp [hi]

theorem gives_change {l : Link} {g : Nat} {w : Wire} (hw : l.wires.get? g = some w)
    {f : Wire → Wire} {frames : List Message} (hsent : (f w).sent = w.sent ++ frames)
    (hended : (f w).ended = w.ended) (hclose : .close ∉ w.orders → .close ∉ (f w).orders) :
    l.Gives g frames (l.change g f) := by
  have hget : ∀ i, (l.change g f).wires.get? i = if i = g then some (f w) else l.wires.get? i := by
    intro i
    rw [get?_change]
    split
    · rename_i hi
      rw [hi, hw]
      rfl
    · rfl
  refine ⟨rfl, rfl, rfl, Assoc.keys_modify _ _ _, isLive_change ?_, ?_, ?_⟩
  · intro found hfound
    obtain rfl := Option.some.inj (hw.symm.trans hfound)
    exact hended
  · intro i
    unfold sent
    rw [hget]
    by_cases hi : i = g
    · simp [hi, hw, hsent]
    · simp [hi]
  · intro hu i found hfound
    rw [hget] at hfound
    split at hfound
    · obtain rfl := Option.some.inj hfound
      exact hclose (hu g w hw)
    · exact hu i found hfound

theorem gives_order {l : Link} {g : Nat} (hlive : l.isLive g = true) (m : Message) :
    l.Gives g [m] (l.change g (·.order (.frame m))) := by
  obtain ⟨w, hw, _⟩ := isLive_iff.mp hlive
  exact gives_change hw (w.sent_order m) rfl (by simp [Wire.order])

theorem gives_setHeartbeats {l : Link} {g : Nat} (hstate : l.state = .opened g)
    (hlive : l.isLive g = true) (outgoing incoming : Nat) :
    l.Gives g [] (l.setHeartbeats outgoing incoming) := by
  obtain ⟨w, hw, _⟩ := isLive_iff.mp hlive
  unfold setHeartbeats
  rw [hstate]
  refine gives_change hw ?_ rfl (by simp [Wire.order])
  simp [w.sent_order_heartbeats]

structure Loses (l : Link) (g : Nat) (l' : Link) : Prop where
  remote_eq : l'.remote = l.remote
  running_eq : l'.running = l.running
  generation_eq : l'.generation = l.generation
  keys_eq : l'.wires.keys = l.wires.keys
  live_iff : ∀ i, l'.isLive i = true ↔ l.isLive i = true ∧ i ≠ g
  sent_eq : ∀ i, l'.sent i = l.sent i
  unclosed : l.Unclosed → l'.Unclosed

theorem Gives.loses {l l' l'' : Link} {g : Nat} (h : l.Gives g [] l') (h' : l'.Loses g l'') :
    l.Loses g l'' := by
  refine ⟨h'.remote_eq.trans h.remote_eq, h'.running_eq.trans h.running_eq,
    h'.generation_eq.trans h.generation_eq, h'.keys_eq.trans h.keys_eq, ?_, ?_,
    fun hu => h'.unclosed (h.unclosed hu)⟩
  · intro i
    rw [h'.live_iff, h.live_eq]
  · intro i
    rw [h'.sent_eq, h.sent_eq]
    simp

theorem get?_wireEnded (l : Link) (g i : Nat) : (l.wireEnded g).wires.get? i =
    if i = g then (l.wires.get? i).map (fun w => { w with ended := true })
    else l.wires.get? i := by
  rw [← get?_change]
  unfold wireEnded
  dsimp only
  split <;> rfl

theorem loses_wireEnded {l : Link} (g : Nat) : l.Loses g (l.wireEnded g) := by
  -- the state of the link is no part of the statement
  have hchange : l.Loses g (l.change g fun w => { w with ended := true }) := by
    refine ⟨rfl, rfl, rfl, by simp only [change, Assoc.keys_modify], ?_, ?_, ?_⟩
    · intro i
      rw [isLive_iff, isLive_iff, get?_change]
      by_cases hi : i = g
      · cases l.wires.get? g <;> simp [hi]
      · simp [hi]
    · intro i
      unfold sent
      rw [get?_change]
      by_cases hi : i = g
      · cases hw : l.wires.get? g <;> simp [hi, hw, Wire.sent, Wire.frames, Wire.queued]
      · simp [hi]
    · intro hu i w hw
      rw [get?_change] at hw
      split at hw
      · obtain ⟨found, hfound, rfl⟩ := Option.map_eq_some_iff.mp hw
        exact hu i found hfound
      · exact hu i w hw
  unfold wireEnded
  dsimp only
  split
  · exact ⟨hchange.remote_eq, hchange.running_eq, hchange.generation_eq, hchange.keys_eq,
      hchange.live_iff, hchange.sent_eq, hchange.unclosed⟩
  · exact hchange

theorem state_wireEnded (l : Link) (g : Nat) : (l.wireEnded g).state =
    if l.state = .opened g then if l.remote.isSome then .closed else .stopped else l.state := by
  by_cases h : l.state = .opened g <;> simp [wireEnded, change, h]

theorem keys_wires_stopLoop (l : Link) : l.stopLoop.wires.keys = l.wires.keys :=
  Assoc.keys_map l.wires fun w => { w with ended := true }

theorem get?_wires_stopLoop (l : Link) (g : Nat) : l.stopLoop.wires.get? g =
    (l.wires.get? g).map fun w => { w with ended := true } :=
  Assoc.get?_map l.wires (fun w => { w with ended := true }) g

structure Opens (l : Link) (first : List Message) (l' : Link) : Prop where
  remote_eq : l'.remote = l.remote
  running_eq : l'.running = l.running
  generation_eq : l'.generation = l.generation + 1
  keys_eq : l'.wires.keys = l.wires.keys ++ [l.generation + 1]
  live_iff : ∀ i, l'.isLive i = true ↔ l.isLive i = true ∨ i = l.generation + 1
  sent_eq : ∀ i, l'.sent i = l.sent i ++ if i = l.generation + 1 then first else []
  unclosed : l.Unclosed → l'.Unclosed

theorem sent_new (frames : List Message) : Wire.sent { orders := frames.map .frame } = frames := by
  simp only [Wire.sent, Wire.queued, List.filterMap_map]
  exact List.filterMap_some

theorem opens_append {l : Link} (hknown : ∀ g ∈ l.wires.keys, g ≤ l.generation)
    (first : List Message) (state : LinkState) :
    l.Opens first
      { l with
        state
        generation := l.generation + 1
        wires := l.wires ++ [(l.generation + 1, { orders := first.map .frame })] } := by
  have hnew : l.wires.get? (l.generation + 1) = none := by
    rw [Assoc.get?_eq_none_iff]
    intro hmem
    have hle := hknown _ hmem
    omega
  have hget : ∀ i, Assoc.get?
      (l.wires ++ [(l.generation + 1, ({ orders := first.map .frame } : Wire))]) i =
        if i = l.generation + 1 then some { orders := first.map .frame } else l.wires.get? i := by
    intro i
    rw [Assoc.get?_append]
    by_cases hi : i = l.generation + 1
    · rw [hi, hnew]
      simp [Assoc.get?]
    · have hother : ¬ l.generation + 1 = i := fun e => hi e.symm
      simp [hi, hother, Assoc.get?]
  refine ⟨rfl, rfl, rfl, by simp [Assoc.keys], ?_, ?_, ?_⟩
  · intro i
    simp only [isLive, hget]
    by_cases hi : i = l.generation + 1 <;> simp [hi]
  · intro i
    simp only [sent, hget]
    by_cases hi : i = l.generation + 1
    · simp [hi, hnew, sent_new]
    · simp [hi]
  · intro hu i w hw
    rw [hget] at hw
    split at hw
    · obtain rfl := Option.some.inj hw
      simp
    · exact hu i w hw

theorem receive_fst (l : Link) (g : Nat) (now : Instant) (piece : Bytes) :
    (l.receive g now piece).1 = (l.onWire g fun w => ((w.receive now piece).1, none)).1 := by
  unfold receive onWire
  split
  · split <;> rfl
  · rfl

/-- A step of a wire leaves all as it was, or moves the wire's own work on, or ends the wire by a
failure. -/
theorem onWire_cases {l : Link} {g : Nat} {step : Wire → Wire × Option WireEnd}
    (hstep : ∀ w, l.wires.get? g = some w → Wire.Works step w) :
    (∃ l', l.onWire g step = (l', none) ∧ l'.state = l.state ∧ l.Gives g [] l') ∨
      ∃ l' failure, l.isLive g = true ∧ l.onWire g step = (l'.wireEnded g, some failure) ∧
        l'.state = l.state ∧ l.Gives g [] l' := by
  unfold onWire
  cases hw : l.wires.get? g with
  | none => exact Or.inl ⟨l, rfl, rfl, Gives.refl l g⟩
  | some w =>
    cases hended : w.ended with
    | true => exact Or.inl ⟨l, by simp [hended], rfl, Gives.refl l g⟩
    | false =>
      have hworks := hstep w hw
      have hgives : l.Gives g [] (l.change g fun _ => (step w).1) := by
        refine gives_change hw ?_ hworks.ended_eq hworks.unclosed
        rw [hworks.sent_eq, List.append_nil]
      simp only [hended, Bool.false_eq_true, if_false, take]
      cases hend : (step w).2 with
      | none => exact Or.inl ⟨_, rfl, rfl, hgives⟩
      | some ended =>
        cases ended with
        | ok _ => exact absurd hend hworks.not_ok
        | error failure =>
          exact Or.inr ⟨_, failure, isLive_iff.mpr ⟨w, hw, hended⟩, rfl, rfl, hgives⟩

end Link
end BrokerRpc
