import BrokerRpc.Proofs.Link.Wires

/-! # The pace of a wire

A wire sends ticks and bears silence at the intervals that it was handed last, once its orders are
carried out. A new wire has none, and nothing but a pair that is handed over changes them.
-/
namespace BrokerRpc

/-- How often a wire sends a tick, and how long it bears silence. -/
abbrev Pace := Option Duration × Option Duration

namespace Wire

def paceOf (intervals : Nat × Nat) : Pace :=
  (interval intervals.1 (Heartbeat.reduced intervals.1),
    interval intervals.2 (Heartbeat.extended intervals.2))

def repace (pace : Pace) : Order → Pace
  | .heartbeats outgoing incoming => paceOf (outgoing, incoming)
  | _ => pace

/-- The pace of a wire once its orders are carried out. -/
def pace (w : Wire) : Pace := w.orders.foldl repace (w.sendEvery, w.expectWithin)

theorem pace_order (w : Wire) (o : Order) : (w.order o).pace = repace w.pace o := by
  simp only [pace, order, List.foldl_append, List.foldl_cons, List.foldl_nil]

theorem pace_new (frames : List Message) :
    Wire.pace { orders := frames.map .frame } = (none, none) := by
  rw [pace]
  induction frames with
  | nil => rfl
  | cons m rest ih => exact ih

theorem pace_carryOut (w : Wire) (now : Instant) : (w.carryOut now).1.pace = w.pace := by
  cases horders : w.orders with
  | nil => simp only [carryOut, horders]
  | cons o rest =>
    cases o <;>
      simp only [carryOut, horders, pace, write, setHeartbeats, List.foldl_cons, repace, paceOf]

theorem pace_tick (w : Wire) (policy : Policy) (now : Instant) :
    (w.tick policy now).pace = w.pace := by
  simp only [tick]
  split
  · split <;> rfl
  · rfl

theorem pace_expire (w : Wire) (policy : Policy) (now : Instant) :
    (w.expire policy now).1.pace = w.pace := by
  simp only [expire]
  split
  · split <;> rfl
  · rfl

end Wire

namespace Link

/-- The pace of a connection; none before it is opened. -/
def pace (l : Link) (g : Nat) : Pace :=
  match l.wires.get? g with
  | some w => w.pace
  | none => (none, none)

def Wired (l : Link) : Prop := ∀ g, l.state = .opened g → g ∈ l.wires.keys

/-- Between two states of a link no connection was handed intervals. -/
structure KeepsPace (l l' : Link) : Prop where
  pace_eq : ∀ g, l'.pace g = l.pace g
  wired : l.Wired → l'.Wired

namespace KeepsPace

theorem refl (l : Link) : l.KeepsPace l := ⟨fun _ => rfl, id⟩

theorem trans {l l' l'' : Link} (h : l.KeepsPace l') (h' : l'.KeepsPace l'') : l.KeepsPace l'' :=
  ⟨fun g => (h'.pace_eq g).trans (h.pace_eq g), fun hw => h'.wired (h.wired hw)⟩

theorem of_wires_eq {l l' : Link} (hwires : l'.wires = l.wires)
    (hstate : ∀ g, l'.state = .opened g → l.state = .opened g) : l.KeepsPace l' := by
  refine ⟨fun g => ?_, fun hw g hg => ?_⟩
  · rw [pace, pace, hwires]
  · rw [hwires]
    exact hw g (hstate g hg)

theorem of_change (l : Link) (g : Nat) {f : Wire → Wire}
    (h : ∀ w, l.wires.get? g = some w → (f w).pace = w.pace) : l.KeepsPace (l.change g f) := by
  refine ⟨fun i => ?_, fun hw i hi => ?_⟩
  · rw [pace, pace, get?_change]
    by_cases hi : i = g
    · subst hi
      cases hfound : l.wires.get? i with
      | none => simp
      | some w => simp [h w hfound]
    · simp [hi]
  · simp only [change, Assoc.keys_modify]
    exact hw i hi

end KeepsPace

theorem keepsPace_send {l l' : Link} {m : Message} {dials : Bool} (h : l.send m = .ok (l', dials)) :
    l.KeepsPace l' := by
  unfold send at h
  split at h
  · split at h
    · cases h
      exact .of_change l _ fun w _ => w.pace_order (.frame m)
    · cases h
  · cases h
    exact .of_wires_eq rfl (by simp)
  · split at h
    · cases h
    · cases h
      exact .of_wires_eq rfl (by simp)
  · cases h

theorem keepsPace_reconnect {l l' : Link} {dials : Bool} (h : l.reconnect = .ok (l', dials)) :
    l.KeepsPace l' := by
  unfold reconnect at h
  split at h
  · split at h
    · cases h
    · cases h
      exact .of_wires_eq rfl (by simp)
  · cases h
  · cases h
    exact .refl l

theorem keepsPace_connectOnce (l : Link) : l.KeepsPace l.connectOnce.1 := by
  unfold connectOnce
  split
  · exact .refl l
  · exact .refl l
  · exact .of_wires_eq rfl (by simp [awaiting])
  · split
    · exact .refl l
    · exact .of_wires_eq rfl (by simp [awaiting])

theorem keepsPace_close (l : Link) : l.KeepsPace l.close.1 := by
  have hstopped : l.KeepsPace { l with state := .stopped } := .of_wires_eq rfl (by simp)
  unfold close
  split
  · exact hstopped.trans (.of_change _ _ fun w _ => w.pace_order .close)
  · exact hstopped
  · exact hstopped

theorem keepsPace_dialFailed (l : Link) (failure : Failure) :
    l.KeepsPace (l.dialFailed failure).1 := by
  unfold dialFailed
  split
  · exact .of_wires_eq rfl (by simp)
  · exact .refl l

theorem keepsPace_dialSucceeded (l : Link) (greeting : List Message) :
    l.KeepsPace (l.dialSucceeded greeting).1 := by
  unfold dialSucceeded
  split
  · rename_i backlog waiters _
    refine ⟨fun g => ?_, fun _ g hg => ?_⟩
    · -- a connection that has a wire already keeps it, whatever its number is
      simp only [pace, Assoc.get?_append]
      cases hw : l.wires.get? g with
      | some w => rfl
      | none =>
        by_cases hnew : l.generation + 1 = g
        · simpa [Assoc.get?, hnew] using Wire.pace_new (greeting ++ backlog)
        · simp [Assoc.get?, hnew]
    · cases hg
      simp [Assoc.keys]
  · exact .of_wires_eq rfl (by simp)

theorem keepsPace_stopLoop (l : Link) : l.KeepsPace l.stopLoop := by
  refine ⟨fun g => ?_, fun hw g hg => ?_⟩
  · rw [pace, pace, get?_wires_stopLoop]
    cases l.wires.get? g <;> rfl
  · rw [keys_wires_stopLoop]
    exact hw g hg

theorem keepsPace_wireEnded (l : Link) (g : Nat) : l.KeepsPace (l.wireEnded g) := by
  refine (KeepsPace.of_change l g (f := fun w => { w with ended := true }) fun _ _ => rfl).trans ?_
  unfold wireEnded
  dsimp only
  split
  · exact .of_wires_eq rfl (by split <;> simp)
  · exact .refl _

theorem keepsPace_onWire {l : Link} {g : Nat} {step : Wire → Wire × Option WireEnd}
    (hstep : ∀ w, (step w).1.pace = w.pace) : l.KeepsPace (l.onWire g step).1 := by
  unfold onWire
  cases hw : l.wires.get? g with
  | none => exact .refl l
  | some w =>
    dsimp only
    split
    · exact .refl l
    · have hchange : l.KeepsPace (l.change g fun _ => (step w).1) := by
        refine .of_change l g fun found hfound => ?_
        obtain rfl := Option.some.inj (hw.symm.trans hfound)
        exact hstep w
      unfold take
      dsimp only
      split
      · exact hchange
      · exact hchange.trans (keepsPace_wireEnded _ g)

theorem keepsPace_receive (l : Link) (g : Nat) (now : Instant) (piece : Bytes) :
    l.KeepsPace (l.receive g now piece).1 := by
  rw [receive_fst]
  exact keepsPace_onWire fun _ => rfl

/-! ## Intervals that are handed over -/

theorem wired_setHeartbeats {l : Link} (h : l.Wired) (outgoing incoming : Nat) :
    (l.setHeartbeats outgoing incoming).Wired := by
  unfold setHeartbeats
  split
  · intro g hg
    simp only [change, Assoc.keys_modify]
    exact h g hg
  · exact h

theorem pace_setHeartbeats {l : Link} (h : l.Wired) (outgoing incoming g : Nat) :
    (l.setHeartbeats outgoing incoming).pace g =
      if l.state = .opened g then Wire.paceOf (outgoing, incoming) else l.pace g := by
  unfold setHeartbeats
  split
  · rename_i i hstate
    obtain ⟨w, hw⟩ := Assoc.mem_keys_iff.mp (h i hstate)
    rw [pace, pace, get?_change, hstate]
    by_cases hg : g = i
    · subst hg
      simp [hw, Wire.pace_order, Wire.repace]
    · have hother : i ≠ g := fun e => hg e.symm
      simp [hg, hother]
  · rename_i hclosed
    rw [if_neg (hclosed g)]

theorem sent_setHeartbeats (l : Link) (outgoing incoming g : Nat) :
    (l.setHeartbeats outgoing incoming).sent g = l.sent g := by
  unfold setHeartbeats
  split
  · rename_i i _
    rw [sent, sent, get?_change]
    by_cases hg : g = i
    · cases l.wires.get? g <;> simp [hg, Wire.sent_order_heartbeats]
    · simp [hg]
  · rfl

end Link
end BrokerRpc
