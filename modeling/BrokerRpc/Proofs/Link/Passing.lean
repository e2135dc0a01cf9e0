import BrokerRpc.Proofs.Link.Run

/-! # What passes through a wire

Orders go into a wire at one end and leave it at the other. Between two states of a link each of
its wires was given some orders, carried out some from the front, and ticked in between; one that
has ended keeps what it has.
-/
namespace BrokerRpc

def Order.frames (orders : List Order) : List Message :=
  orders.filterMap fun o =>
    match o with
    | .frame m => some m
    | _ => none

namespace Wire

theorem queued_eq (w : Wire) : w.queued = Order.frames w.orders := rfl

/-- Between two states of a wire it was given some orders and worked. One that has ended does not
work, and is given no frame. -/
structure Passes (given : List Order) (w w' : Wire) : Prop where
  sent_eq : w'.sent = w.sent ++ Order.frames given
  suffix : w'.orders <:+ w.orders ++ given
  idle : w.ended = true → w'.ended = true ∧ w'.queued = w.queued

theorem passes_nil_iff {w w' : Wire} :
    Passes [] w w' ↔ w'.sent = w.sent ∧ w'.orders <:+ w.orders ∧
      (w.ended = true → w'.ended = true ∧ w'.queued = w.queued) := by
  constructor
  · rintro ⟨hsent, hsuffix, hidle⟩
    exact ⟨hsent.trans (List.append_nil _), List.append_nil w.orders ▸ hsuffix, hidle⟩
  · rintro ⟨hsent, hsuffix, hidle⟩
    exact ⟨hsent.trans (List.append_nil _).symm, (List.append_nil w.orders).symm ▸ hsuffix, hidle⟩

theorem Passes.refl (w : Wire) : Passes [] w w :=
  passes_nil_iff.mpr ⟨rfl, List.suffix_refl _, fun h => ⟨h, rfl⟩⟩

theorem Passes.trans {w w' w'' : Wire} (h : Passes [] w w') (h' : Passes [] w' w'') :
    Passes [] w w'' := by
  obtain ⟨hsent, hsuffix, hidle⟩ := passes_nil_iff.mp h
  obtain ⟨hsent', hsuffix', hidle'⟩ := passes_nil_iff.mp h'
  refine passes_nil_iff.mpr ⟨hsent'.trans hsent, hsuffix'.trans hsuffix, fun hended => ?_⟩
  obtain ⟨hstill, hqueued⟩ := hidle hended
  exact ⟨(hidle' hstill).1, (hidle' hstill).2.trans hqueued⟩

theorem passes_ended (w : Wire) : Passes [] w { w with ended := true } :=
  passes_nil_iff.mpr ⟨rfl, List.suffix_refl _, fun _ => ⟨rfl, rfl⟩⟩

theorem carryOut_suffix (w : Wire) (now : Instant) : (w.carryOut now).1.orders <:+ w.orders := by
  unfold carryOut
  split
  · exact List.suffix_refl _
  all_goals
    rename_i horders
    rw [horders]
    exact List.suffix_cons _ _

theorem tick_orders (w : Wire) (policy : Policy) (now : Instant) :
    (w.tick policy now).orders = w.orders := by
  simp only [tick]
  split
  · split <;> rfl
  · rfl

theorem expire_orders (w : Wire) (policy : Policy) (now : Instant) :
    (w.expire policy now).1.orders = w.orders := by
  simp only [expire]
  split
  · split <;> rfl
  · rfl

/-- Of the orders only the one to close ends a wire. -/
theorem carryOut_ends {w : Wire} {now : Instant} (h : (w.carryOut now).2 ≠ none) :
    ∃ rest, w.orders = .close :: rest ∧ (w.carryOut now).1 = { w with orders := rest } := by
  unfold carryOut at h ⊢
  split at h
  · exact absurd rfl h
  · exact absurd rfl h
  · exact absurd rfl h
  · rename_i rest horders
    exact ⟨rest, horders, rfl⟩

end Wire

namespace Link

/-- Between two states of a link no wire opened, and each was given some orders and worked. -/
structure Passes (given : Nat → List Order) (l l' : Link) : Prop where
  keys_eq : l'.wires.keys = l.wires.keys
  generation_le : l.generation ≤ l'.generation
  passes : ∀ g w, l.wires.get? g = some w →
    ∃ w', l'.wires.get? g = some w' ∧ Wire.Passes (given g) w w'

namespace Passes

variable {l l' l'' : Link} {given : Nat → List Order}

theorem of_wires (hwires : l'.wires = l.wires) (hgeneration : l.generation ≤ l'.generation) :
    Passes (fun _ => []) l l' :=
  ⟨by rw [hwires], hgeneration, fun _ w hw => ⟨w, hwires ▸ hw, .refl w⟩⟩

theorem refl (l : Link) : Passes (fun _ => []) l l := .of_wires rfl (Nat.le_refl _)

theorem trans (h : Passes (fun _ => []) l l') (h' : Passes (fun _ => []) l' l'') :
    Passes (fun _ => []) l l'' := by
  refine ⟨h'.keys_eq.trans h.keys_eq, Nat.le_trans h.generation_le h'.generation_le, ?_⟩
  intro g w hw
  obtain ⟨w', hw', hfirst⟩ := h.passes g w hw
  obtain ⟨w'', hw'', hsecond⟩ := h'.passes g w' hw'
  exact ⟨w'', hw'', hfirst.trans hsecond⟩

theorem of_change {g : Nat} {f : Wire → Wire} (hg : given g = [] ∨ g ∈ l.wires.keys)
    (hother : ∀ i, i ≠ g → given i = [])
    (hf : ∀ w, l.wires.get? g = some w → Wire.Passes (given g) w (f w)) :
    Passes given l (l.change g f) := by
  refine ⟨Assoc.keys_modify _ _ _, Nat.le_refl _, fun i w hw => ?_⟩
  rw [get?_change]
  by_cases hi : i = g
  · subst hi
    exact ⟨f w, by rw [if_pos rfl, hw]; rfl, hf w hw⟩
  · exact ⟨w, by rw [if_neg hi, hw], hother i hi ▸ .refl w⟩

theorem sent_eq (h : Passes given l l') {g : Nat} (hg : given g = [] ∨ g ∈ l.wires.keys) :
    l'.sent g = l.sent g ++ Order.frames (given g) := by
  cases hw : l.wires.get? g with
  | some w =>
    obtain ⟨w', hw', hpasses⟩ := h.passes g w hw
    simp only [sent, hw, hw', hpasses.sent_eq]
  | none =>
    have hmem : g ∉ l.wires.keys := Assoc.get?_eq_none_iff.mp hw
    have hnone : given g = [] := hg.resolve_right hmem
    rw [sent_of_not_mem hmem, sent_of_not_mem (h.keys_eq ▸ hmem), hnone]
    rfl

theorem origin (h : Passes given l l') {g : Nat} {w' : Wire} (hw' : l'.wires.get? g = some w') :
    ∃ w, l.wires.get? g = some w ∧ Wire.Passes (given g) w w' := by
  have hmem : g ∈ l.wires.keys := h.keys_eq ▸ Assoc.mem_keys_iff.mpr ⟨w', hw'⟩
  obtain ⟨w, hw⟩ := Assoc.mem_keys_iff.mp hmem
  obtain ⟨found, hfound, hpasses⟩ := h.passes g w hw
  obtain rfl := Option.some.inj (hw'.symm.trans hfound)
  exact ⟨w, hw, hpasses⟩

end Passes

variable {l : Link} {g : Nat}

theorem passes_wireEnded (l : Link) (g : Nat) : Passes (fun _ => []) l (l.wireEnded g) := by
  have hchange : Passes (fun _ => []) l (l.change g fun w => { w with ended := true }) :=
    .of_change (Or.inl rfl) (fun _ _ => rfl) fun w _ => w.passes_ended
  unfold wireEnded
  dsimp only
  split
  · exact ⟨hchange.keys_eq, hchange.generation_le, hchange.passes⟩
  · exact hchange

theorem passes_onWire {step : Wire → Wire × Option WireEnd}
    (hsteady : ∀ w, Wire.Steady step w) (hsuffix : ∀ w, (step w).1.orders <:+ w.orders) :
    Passes (fun _ => []) l (l.onWire g step).1 := by
  unfold onWire
  split
  · rename_i w hw
    split
    · exact .refl l
    · rename_i hlive
      have hchange : Passes (fun _ => []) l (l.change g fun _ => (step w).1) := by
        refine .of_change (Or.inl rfl) (fun _ _ => rfl) fun found hfound => ?_
        obtain rfl := Option.some.inj (hw.symm.trans hfound)
        exact Wire.passes_nil_iff.mpr
          ⟨(hsteady w).sent_eq, hsuffix w, fun hended => absurd hended hlive⟩
      unfold take
      dsimp only
      split
      · exact hchange
      · exact hchange.trans (passes_wireEnded _ g)
  · exact .refl l

theorem passes_work (l : Link) (g : Nat) (w : Work) : Passes (fun _ => []) l (l.work g w) := by
  cases w with
  | ended => exact passes_wireEnded l g
  | carryOut now =>
    exact passes_onWire (fun w => w.steady_carryOut now) fun w => w.carryOut_suffix now
  | tick now =>
    exact passes_onWire (fun w => w.steady_tick l.policy now) fun w =>
      w.tick_orders l.policy now ▸ List.suffix_refl _
  | expire now =>
    exact passes_onWire (fun w => w.steady_expire l.policy now) fun w =>
      w.expire_orders l.policy now ▸ List.suffix_refl _
  | fail failure => exact passes_onWire (fun w => w.steady_fail failure) fun w => List.suffix_refl _
  | receive now piece =>
    rw [work, receive_fst]
    exact passes_onWire (fun w => w.steady_receive now piece) fun w => List.suffix_refl _

theorem passes_stopLoop (l : Link) : Passes (fun _ => []) l l.stopLoop := by
  refine ⟨l.keys_wires_stopLoop, Nat.le_refl _, ?_⟩
  intro g w hw
  refine ⟨{ w with ended := true }, ?_, w.passes_ended⟩
  rw [get?_wires_stopLoop, hw, Option.map_some]

/-- A wire that ends while it carries out an order was ordered to close. -/
theorem carryOut_ends {now : Instant} (hlive : l.isLive g = true)
    (hended : (l.carryOut g now).1.isLive g = false) :
    ∃ w w' rest, l.wires.get? g = some w ∧ w.orders = .close :: rest ∧
      (l.carryOut g now).1.wires.get? g = some w' ∧ w'.orders = rest ∧ w'.ended = true := by
  obtain ⟨w, hw, hopen⟩ := isLive_iff.mp hlive
  have hworked := get?_change l g g fun _ => (w.carryOut now).1
  rw [if_pos rfl, hw, Option.map_some] at hworked
  simp only [carryOut, onWire, hw, hopen, Bool.false_eq_true, if_false, take] at hended ⊢
  cases hend : (w.carryOut now).2 with
  | none =>
    -- the wire goes on, and is as live as before
    simp only [hend, isLive, hworked, (w.steady_carryOut now).ended_eq, hopen] at hended
    cases hended
  | some ended =>
    obtain ⟨rest, horders, hstep⟩ := Wire.carryOut_ends (by rw [hend]; simp)
    rw [hstep] at hworked
    refine ⟨w, { w with orders := rest, ended := true }, rest, rfl, horders, ?_, rfl, rfl⟩
    simp only [get?_wireEnded, if_true, hstep, hworked, Option.map_some]

theorem passes_order {l : Link} {g : Nat} {o : Order} (hg : g ∈ l.wires.keys)
    (hframe : ∀ m, o = .frame m → l.isLive g = true) :
    Passes (fun i => if i = g then [o] else []) l (l.change g (·.order o)) := by
  refine .of_change (Or.inr hg) (fun i hi => if_neg hi) fun w hw => ?_
  rw [if_pos rfl]
  cases o with
  | frame m =>
    refine ⟨w.sent_order m, List.suffix_refl _, fun hended => ?_⟩
    obtain ⟨found, hfound, hopen⟩ := isLive_iff.mp (hframe m rfl)
    obtain rfl := Option.some.inj (hw.symm.trans hfound)
    rw [hended] at hopen
    cases hopen
  | heartbeats outgoing incoming =>
    refine ⟨?_, List.suffix_refl _, fun hended => ⟨hended, by simp [Wire.queued, Wire.order]⟩⟩
    exact (w.sent_order_heartbeats outgoing incoming).trans (List.append_nil _).symm
  | close =>
    refine ⟨?_, List.suffix_refl _, fun hended => ⟨hended, by simp [Wire.queued, Wire.order]⟩⟩
    simp [Wire.sent, Wire.queued, Wire.frames, Wire.order, Order.frames]

theorem change_of_not_mem {l : Link} {g : Nat} (hg : g ∉ l.wires.keys) (f : Wire → Wire) :
    l.change g f = l := by
  have hsame : l.wires.modify g f = l.wires := by
    refine (List.map_congr_left fun entry hentry => if_neg ?_).trans (List.map_id _)
    rintro rfl
    exact hg (List.mem_map_of_mem hentry)
  rw [change, hsame]

/-- The work of wires changes the state only of a link whose open wire ends. -/
theorem state_work (l : Link) (g : Nat) (w : Work) :
    (l.work g w).state = l.state ∨ (l.work g w).isConnecting = false ∧
      (l.state = .stopped → (l.work g w).state = .stopped) := by
  cases moves_work l g w with
  | worked _ hstate _ => exact Or.inl hstate
  | @ended i _ hstate _ =>
    by_cases hopen : l.state = .opened i
    · rw [if_pos hopen] at hstate
      refine Or.inr ⟨?_, fun hstopped => by rw [hopen] at hstopped; cases hstopped⟩
      simp only [isConnecting, hstate]
      cases l.remote.isSome <;> rfl
    · exact Or.inl (hstate.trans (if_neg hopen))

end Link
end BrokerRpc
