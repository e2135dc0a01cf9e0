import BrokerRpc.Proofs.Link.Journal

/-! # Frames are written in the order of submission

A connection writes its greeting, then what was accepted while it was dialled, then what was
accepted while it was open. Whatever it has written is the first part of that, and it is all of it
once the connection was closed by an order.
-/
namespace BrokerRpc.Link

/-! ## Bytes on their way -/

theorem bytes_tick : Written.tick.bytes = [Frame.lineFeed] := rfl

/-- However many bytes of what is written got through: whole items did, and of a frame perhaps a
part. A tick is a single byte, so that no tick is within a frame. -/
theorem whole_items {bytes : Bytes} {items : List Written}
    (h : bytes <+: items.flatMap Written.bytes) :
    ∃ whole part, bytes = whole.flatMap Written.bytes ++ part ∧ whole <+: items ∧
      (part = [] ∨ ∃ m, whole ++ [.frame m] <+: items ∧ part <+: Frame.encode m ∧
        part ≠ Frame.encode m) := by
  induction items generalizing bytes with
  | nil => exact ⟨[], [], by simpa using h, List.nil_prefix, Or.inl rfl⟩
  | cons item rest ih =>
    rw [List.flatMap_cons] at h
    by_cases hwhole : item.bytes <+: bytes
    · obtain ⟨bytes, rfl⟩ := hwhole
      obtain ⟨whole, part, rfl, hprefix, hpart⟩ := ih ((List.prefix_append_right_inj _).mp h)
      refine ⟨item :: whole, part, by simp, (List.prefix_cons_inj item).mpr hprefix, ?_⟩
      refine hpart.imp_right ?_
      rintro ⟨m, hm, hcut⟩
      exact ⟨m, (List.prefix_cons_inj item).mpr hm, hcut⟩
    · have hcut : bytes <+: item.bytes :=
        (List.prefix_or_prefix_of_prefix h (List.prefix_append _ _)).resolve_right hwhole
      have hne : bytes ≠ item.bytes := fun he => hwhole (he ▸ List.prefix_refl _)
      refine ⟨[], bytes, rfl, List.nil_prefix, ?_⟩
      cases item with
      | frame m =>
        exact Or.inr ⟨m, (List.prefix_cons_inj _).mpr List.nil_prefix, hcut, hne⟩
      | tick =>
        rw [bytes_tick] at hcut hne
        rcases List.prefix_cons_iff.mp hcut with hnil | ⟨rest, rfl, hrest⟩
        · exact Or.inl hnil
        · exact absurd (by rw [List.prefix_nil.mp hrest]) hne

/-! ## The last order is the one to close -/

theorem mem_dropLast_of_suffix {α : Type} {x : α} {xs ys : List α} (h : xs <:+ ys)
    (hx : x ∈ xs.dropLast) : x ∈ ys.dropLast := by
  obtain ⟨first, rfl⟩ := h
  have hne : xs ≠ [] := by
    rintro rfl
    cases hx
  rw [List.dropLast_append_of_ne_nil hne]
  exact List.mem_append_right _ hx

namespace Journal

/-- Nothing is ordered after an order to close, and none is given before the link is stopped. A
connection that was closed has nothing left to write. -/
structure Tidy (j : Journal) : Prop where
  unclosed : j.site.link.state ≠ .stopped → j.site.link.Unclosed
  last : ∀ g w, j.site.link.wires.get? g = some w → .close ∉ w.orders.dropLast
  flushed : ∀ g ∈ j.closed, ∃ w, j.site.link.wires.get? g = some w ∧ w.ended = true ∧ w.queued = []

variable {j j' : Journal}

theorem unclosed_last {l : Link} (h : l.Unclosed) {g : Nat} {w : Wire}
    (hw : l.wires.get? g = some w) : .close ∉ w.orders.dropLast :=
  fun hmem => h g w hw (List.dropLast_subset _ hmem)

namespace Tidy

theorem unclosed_of_passes {l l' : Link} (h : l.Unclosed) (hpasses : Passes (fun _ => []) l l') :
    l'.Unclosed := by
  intro g w' hw'
  obtain ⟨w, hw, hpass⟩ := hpasses.origin hw'
  obtain ⟨_, hsuffix, _⟩ := Wire.passes_nil_iff.mp hpass
  exact fun hmem => h g w hw (hsuffix.subset hmem)

theorem last_of_passes (h : j.Tidy) (hpasses : Passes (fun _ => []) j.site.link j'.site.link)
    (g : Nat) (w' : Wire) (hw' : j'.site.link.wires.get? g = some w') :
    .close ∉ w'.orders.dropLast := by
  obtain ⟨w, hw, hpass⟩ := hpasses.origin hw'
  obtain ⟨_, hsuffix, _⟩ := Wire.passes_nil_iff.mp hpass
  exact fun hmem => h.last g w hw (mem_dropLast_of_suffix hsuffix hmem)

theorem flushed_of_passes (h : j.Tidy) {given : Nat → List Order}
    (hpasses : Passes given j.site.link j'.site.link) (hclosed : j'.closed = j.closed) :
    ∀ g ∈ j'.closed, ∃ w, j'.site.link.wires.get? g = some w ∧ w.ended = true ∧ w.queued = [] := by
  intro g hg
  obtain ⟨w, hw, hended, hqueued⟩ := h.flushed g (hclosed ▸ hg)
  obtain ⟨w', hw', hpass⟩ := hpasses.passes g w hw
  obtain ⟨hstill, hkept⟩ := hpass.idle hended
  exact ⟨w', hw', hstill, hkept.trans hqueued⟩

theorem of_running (h : j.Tidy) (hrunning : j.site.link.state ≠ .stopped)
    (hpasses : Passes (fun _ => []) j.site.link j'.site.link) (hclosed : j'.closed = j.closed) :
    j'.Tidy := by
  have hunclosed := unclosed_of_passes (h.unclosed hrunning) hpasses
  exact ⟨fun _ => hunclosed, fun _ _ => unclosed_last hunclosed,
    h.flushed_of_passes hpasses hclosed⟩

theorem becomes (h : j.Tidy) (hturn : j.Becomes j') : j'.Tidy := by
  cases hturn with
  | rests hpasses hstate _ _ _ hclosed =>
    refine ⟨fun hrunning => ?_, h.last_of_passes hpasses, fun g hg => ?_⟩
    · refine unclosed_of_passes (h.unclosed fun hstopped => hrunning ?_) hpasses
      rcases hstate with hstate | ⟨_, hstate⟩
      · exact hstate.trans hstopped
      · exact hstate hstopped
    · rcases hclosed g hg with hold | ⟨w, w', rest, hw, horders, hw', hrest, hended⟩
      · obtain ⟨w, hw, hended, hqueued⟩ := h.flushed g hold
        obtain ⟨w', hw', hpass⟩ := hpasses.passes g w hw
        obtain ⟨hstill, hkept⟩ := hpass.idle hended
        exact ⟨w', hw', hstill, hkept.trans hqueued⟩
      -- the order to close was the last one, so that nothing waits behind it
      · have hlast := h.last g w hw
        rw [horders] at hlast
        have hnone : rest = [] := by
          cases rest with
          | nil => rfl
          | cons o rest => exact absurd List.mem_cons_self hlast
        exact ⟨w', hw', hended, by rw [Wire.queued_eq, hrest, hnone]; rfl⟩
  | dials hpasses hbefore _ _ _ _ hclosed =>
    exact h.of_running (by rw [hbefore]; simp) hpasses hclosed
  | waits hpasses hbefore _ _ _ _ hclosed =>
    exact h.of_running (by rw [hbefore]; simp) hpasses hclosed
  | @orders g o hg hpasses hbefore hafter _ _ _ hclosed =>
    have hunclosed := h.unclosed (by rw [hbefore]; simp)
    refine ⟨fun hrunning i w' hw' hmem => ?_, fun i w' hw' hmem => ?_,
      h.flushed_of_passes hpasses hclosed⟩
    · obtain ⟨w, hw, hpass⟩ := hpasses.origin hw'
      have hclose : o ≠ .close := fun ho => hrunning (hafter.trans (if_pos ho))
      rcases List.mem_append.mp (hpass.suffix.subset hmem) with hold | hnew
      · exact hunclosed i w hw hold
      · split at hnew
        · exact hclose (List.mem_singleton.mp hnew).symm
        · cases hnew
    · obtain ⟨w, hw, hpass⟩ := hpasses.origin hw'
      refine hunclosed i w hw ?_
      have hlast := mem_dropLast_of_suffix hpass.suffix hmem
      split at hlast
      · rwa [List.dropLast_concat] at hlast
      · rw [List.append_nil] at hlast
        exact List.dropLast_subset _ hlast
  | @opens greeting backlog waiters hbefore hlink _ _ _ hclosed =>
    have hunclosed := h.unclosed (by rw [hbefore]; simp)
    have hopened : j'.site.link.Unclosed := by
      intro g w hw
      rw [hlink, Assoc.get?_append, Option.or_eq_some_iff] at hw
      rcases hw with hw | ⟨_, hw⟩
      · exact hunclosed g w hw
      · simp only [Assoc.get?] at hw
        split at hw
        · obtain rfl := Option.some.inj hw
          simp
        · cases hw
    refine ⟨fun _ => hopened, fun _ _ => unclosed_last hopened, fun g hg => ?_⟩
    obtain ⟨w, hw, hdone⟩ := h.flushed g (hclosed ▸ hg)
    exact ⟨w, by rw [hlink, Assoc.get?_append, hw, Option.some_or], hdone⟩

theorem origin (o : Origin) : o.journal.Tidy := by
  cases o with
  | dialled host port policy running =>
    refine ⟨fun _ g w hw => ?_, fun g w hw => ?_, fun g hg => ?_⟩
    · cases hw
    · cases hw
    · cases hg
  | accepted =>
    have hunclosed : Link.accepted.Unclosed := by
      intro g w hw
      simp only [Link.accepted, Assoc.get?] at hw
      split at hw
      · obtain rfl := Option.some.inj hw
        simp
      · cases hw
    exact ⟨fun _ => hunclosed, fun _ _ => unclosed_last hunclosed, fun g hg => by cases hg⟩

end Tidy

/-! ## What was accepted is what was given -/

/-- Each wire was given what was submitted to it, and the link keeps for the dial under way what was
accepted for it; that dial has opened nothing yet. -/
structure Recorded (j : Journal) : Prop where
  known : ∀ g ∈ j.site.link.wires.keys, g ≤ j.site.link.generation
  births_keys : j.births.keys = j.site.link.wires.keys
  sent_eq : ∀ g, j.site.link.sent g = j.submitted g
  backlog_eq : ∀ backlog waiters, j.site.link.state = .connecting backlog waiters →
    backlog = j.acceptedFor (.dial j.dialled)
  dial_le : ∀ g birth, j.births.get? g = some birth → birth.dial ≤ j.dialled
  dial_lt : j.site.link.isConnecting = true →
    ∀ g birth, j.births.get? g = some birth → birth.dial < j.dialled
  number_le : ∀ number m, (.dial number, m) ∈ j.accepted → number ≤ j.dialled
  connection_mem : ∀ g m, (.connection g, m) ∈ j.accepted → g ∈ j.site.link.wires.keys

theorem acceptedFor_eq_nil {target : Target} (h : ∀ m, (target, m) ∉ j.accepted) :
    j.acceptedFor target = [] := by
  refine List.filterMap_eq_nil_iff.mpr fun entry hentry => if_neg ?_
  rintro rfl
  exact h entry.2 hentry

theorem mem_accepted {target other : Target} {frames : List Message} {m : Message}
    (haccepted : j'.accepted = j.accepted ++ frames.map (target, ·))
    (hm : (other, m) ∈ j'.accepted) : (other, m) ∈ j.accepted ∨ other = target := by
  rw [haccepted, List.mem_append] at hm
  refine hm.imp_right fun hnew => ?_
  obtain ⟨_, _, he⟩ := List.mem_map.mp hnew
  exact (congrArg Prod.fst he).symm

theorem submitted_congr {g : Nat} (hbirths : j'.births = j.births)
    (hdial : ∀ birth, j.births.get? g = some birth →
      j'.acceptedFor (.dial birth.dial) = j.acceptedFor (.dial birth.dial))
    (hconnection : j'.acceptedFor (.connection g) = j.acceptedFor (.connection g)) :
    j'.submitted g = j.submitted g := by
  unfold submitted
  rw [hbirths]
  cases hbirth : j.births.get? g with
  | none => rfl
  | some birth => simp only [hdial birth hbirth, hconnection]

namespace Recorded

theorem rests (h : j.Recorded) (hpasses : Passes (fun _ => []) j.site.link j'.site.link)
    (hstate : j'.site.link.state = j.site.link.state ∨ j'.site.link.isConnecting = false)
    (hdialled : j'.dialled = j.dialled) (haccepted : j'.accepted = j.accepted)
    (hbirths : j'.births = j.births) : j'.Recorded := by
  have hsame : ∀ target, j'.acceptedFor target = j.acceptedFor target := fun target => by
    simp only [acceptedFor, haccepted]
  refine ⟨fun g hg => ?_, ?_, fun g => ?_, fun backlog waiters hafter => ?_, ?_,
    fun hconnecting => ?_, ?_, ?_⟩
  · exact Nat.le_trans (h.known g (hpasses.keys_eq ▸ hg)) hpasses.generation_le
  · rw [hbirths, hpasses.keys_eq, h.births_keys]
  · rw [hpasses.sent_eq (Or.inl rfl), submitted_congr hbirths (fun _ _ => hsame _) (hsame _),
      h.sent_eq]
    exact List.append_nil _
  · rw [hsame, hdialled]
    rcases hstate with hstate | hstate
    · exact h.backlog_eq backlog waiters (hstate.symm.trans hafter)
    · simp [isConnecting, hafter] at hstate
  · rw [hbirths, hdialled]
    exact h.dial_le
  · rw [hbirths, hdialled]
    rcases hstate with hstate | hstate
    · exact h.dial_lt (by simpa only [isConnecting, hstate] using hconnecting)
    · rw [hstate] at hconnecting
      cases hconnecting
  · rw [haccepted, hdialled]
    exact h.number_le
  · rw [haccepted, hpasses.keys_eq]
    exact h.connection_mem

theorem awaits (h : j.Recorded) {number : Nat} {earlier frames : List Message}
    {waiters : List Waiter} (hpasses : Passes (fun _ => []) j.site.link j'.site.link)
    (hnumber : j.dialled ≤ number)
    (hfresh : ∀ g birth, j.births.get? g = some birth → birth.dial < number)
    (hearlier : earlier = j.acceptedFor (.dial number))
    (hafter : j'.site.link.state = .connecting (earlier ++ frames) waiters)
    (hdialled : j'.dialled = number)
    (haccepted : j'.accepted = j.accepted ++ frames.map (.dial number, ·))
    (hbirths : j'.births = j.births) : j'.Recorded := by
  refine ⟨fun g hg => ?_, ?_, fun g => ?_, fun backlog others hstate => ?_, ?_, fun _ => ?_, ?_, ?_⟩
  · exact Nat.le_trans (h.known g (hpasses.keys_eq ▸ hg)) hpasses.generation_le
  · rw [hbirths, hpasses.keys_eq, h.births_keys]
  · rw [hpasses.sent_eq (Or.inl rfl), h.sent_eq]
    refine (List.append_nil _).trans (submitted_congr hbirths (fun birth hbirth => ?_) ?_).symm
    · have hne : number ≠ birth.dial := (Nat.ne_of_lt (hfresh g birth hbirth)).symm
      rw [acceptedFor_append haccepted, if_neg (by simpa using hne), List.append_nil]
    · rw [acceptedFor_append haccepted, if_neg (by simp), List.append_nil]
  · rw [hafter, LinkState.connecting.injEq] at hstate
    rw [hdialled, acceptedFor_append haccepted, if_pos rfl, ← hearlier, hstate.1]
  · intro g birth hbirth
    rw [hdialled]
    exact Nat.le_of_lt (hfresh g birth (hbirths ▸ hbirth))
  · rw [hbirths, hdialled]
    exact hfresh
  · intro other m hm
    rw [hdialled]
    rcases mem_accepted haccepted hm with hold | hnew
    · exact Nat.le_trans (h.number_le other m hold) hnumber
    · cases hnew
      exact Nat.le_refl _
  · intro g m hm
    rcases mem_accepted haccepted hm with hold | hnew
    · exact hpasses.keys_eq ▸ h.connection_mem g m hold
    · cases hnew

theorem orders (h : j.Recorded) {g : Nat} {o : Order} (hg : g ∈ j.site.link.wires.keys)
    (hpasses : Passes (fun i => if i = g then [o] else []) j.site.link j'.site.link)
    (hafter : j'.site.link.isConnecting = false) (hdialled : j'.dialled = j.dialled)
    (haccepted : j'.accepted = j.accepted ++ (Order.frames [o]).map (.connection g, ·))
    (hbirths : j'.births = j.births) : j'.Recorded := by
  refine ⟨fun i hi => ?_, ?_, fun i => ?_, fun backlog waiters hstate => ?_, ?_, fun hstate => ?_,
    ?_, ?_⟩
  · exact Nat.le_trans (h.known i (hpasses.keys_eq ▸ hi)) hpasses.generation_le
  · rw [hbirths, hpasses.keys_eq, h.births_keys]
  · by_cases hi : i = g
    · subst hi
      have hborn : i ∈ j.births.keys := h.births_keys ▸ hg
      obtain ⟨birth, hbirth⟩ := Assoc.mem_keys_iff.mp hborn
      rw [hpasses.sent_eq (Or.inr hg), if_pos rfl, h.sent_eq]
      simp only [submitted, hbirths, hbirth, acceptedFor_append haccepted, reduceCtorEq, if_false,
        List.append_nil, if_true, List.append_assoc]
    · have hne : g ≠ i := fun e => hi e.symm
      rw [hpasses.sent_eq (Or.inl (if_neg hi)), if_neg hi, h.sent_eq]
      refine (List.append_nil _).trans (submitted_congr hbirths (fun birth hbirth => ?_) ?_).symm
      · rw [acceptedFor_append haccepted, if_neg (by simp), List.append_nil]
      · rw [acceptedFor_append haccepted, if_neg (by simpa using hne), List.append_nil]
  · simp [isConnecting, hstate] at hafter
  · rw [hbirths, hdialled]
    exact h.dial_le
  · rw [hafter] at hstate
    cases hstate
  · intro number m hm
    rw [hdialled]
    rcases mem_accepted haccepted hm with hold | hnew
    · exact h.number_le number m hold
    · cases hnew
  · intro i m hm
    rw [hpasses.keys_eq]
    rcases mem_accepted haccepted hm with hold | hnew
    · exact h.connection_mem i m hold
    · cases hnew
      exact hg

theorem opens (h : j.Recorded) {greeting backlog : List Message} {waiters : List Waiter}
    (hbefore : j.site.link.state = .connecting backlog waiters)
    (hlink : j'.site.link = { j.site.link with
      state := .opened (j.site.link.generation + 1)
      generation := j.site.link.generation + 1
      wires := j.site.link.wires ++
        [(j.site.link.generation + 1, { orders := (greeting ++ backlog).map .frame })] })
    (hdialled : j'.dialled = j.dialled) (haccepted : j'.accepted = j.accepted)
    (hbirths : j'.births =
      j.births ++ [(j.site.link.generation + 1, { dial := j.dialled, greeting })]) :
    j'.Recorded := by
  have hopens : j.site.link.Opens (greeting ++ backlog) j'.site.link :=
    hlink ▸ opens_append h.known _ _
  have hnew : j.site.link.generation + 1 ∉ j.site.link.wires.keys := fun hmem =>
    Nat.not_succ_le_self _ (h.known _ hmem)
  have hsame : ∀ target, j'.acceptedFor target = j.acceptedFor target := fun target => by
    simp only [acceptedFor, haccepted]
  have hget : ∀ i, j'.births.get? i = if i = j.site.link.generation + 1 then
      some { dial := j.dialled, greeting } else j.births.get? i := by
    intro i
    rw [hbirths, Assoc.get?_append]
    by_cases hi : i = j.site.link.generation + 1
    · rw [hi, Assoc.get?_eq_none_iff.mpr (h.births_keys ▸ hnew)]
      simp [Assoc.get?]
    · have hother : ¬ j.site.link.generation + 1 = i := fun e => hi e.symm
      simp [hi, hother, Assoc.get?]
  have hclosed : j'.site.link.isConnecting = false := by simp [hlink, isConnecting]
  refine ⟨fun i hi => ?_, ?_, fun i => ?_, fun _ _ hstate => ?_, fun i birth hbirth => ?_,
    fun hstate => ?_, ?_, ?_⟩
  · rw [hopens.keys_eq, List.mem_append, List.mem_singleton] at hi
    rw [hopens.generation_eq]
    rcases hi with hi | rfl
    · exact Nat.le_succ_of_le (h.known i hi)
    · exact Nat.le_refl _
  · rw [hopens.keys_eq, ← h.births_keys, hbirths]
    simp [Assoc.keys]
  · rw [hopens.sent_eq]
    by_cases hi : i = j.site.link.generation + 1
    · have hnone : j.acceptedFor (.connection i) = [] :=
        acceptedFor_eq_nil fun m hm => hnew (hi ▸ h.connection_mem i m hm)
      rw [sent_of_not_mem (hi ▸ hnew), if_pos hi]
      simp only [submitted, hget, if_pos hi, hsame, hnone, List.append_nil, List.nil_append]
      rw [h.backlog_eq backlog waiters hbefore]
    · rw [if_neg hi, List.append_nil, h.sent_eq]
      simp only [submitted, hget, if_neg hi, hsame]
  · simp [isConnecting, hstate] at hclosed
  · rw [hget] at hbirth
    rw [hdialled]
    split at hbirth
    · cases hbirth
      exact Nat.le_refl _
    · exact h.dial_le i birth hbirth
  · rw [hclosed] at hstate
    cases hstate
  · rw [haccepted, hdialled]
    exact h.number_le
  · intro i m hm
    rw [hopens.keys_eq]
    exact List.mem_append_left _ (h.connection_mem i m (haccepted ▸ hm))

theorem becomes (h : j.Recorded) (hturn : j.Becomes j') : j'.Recorded := by
  cases hturn with
  | rests hpasses hstate hdialled haccepted hbirths _ =>
    exact h.rests hpasses (hstate.imp_right And.left) hdialled haccepted hbirths
  | dials hpasses hbefore hafter hdialled haccepted hbirths _ =>
    have hnone : j.acceptedFor (.dial (j.dialled + 1)) = [] :=
      acceptedFor_eq_nil fun m hm => Nat.not_succ_le_self _ (h.number_le _ m hm)
    exact h.awaits hpasses (Nat.le_succ _)
      (fun g birth hbirth => Nat.lt_succ_of_le (h.dial_le g birth hbirth)) hnone.symm hafter
      hdialled haccepted hbirths
  | waits hpasses hbefore hafter hdialled haccepted hbirths _ =>
    exact h.awaits hpasses (Nat.le_refl _) (h.dial_lt (by simp [isConnecting, hbefore]))
      (h.backlog_eq _ _ hbefore) hafter hdialled haccepted hbirths
  | @orders g o hg hpasses hbefore hafter hdialled haccepted hbirths _ =>
    refine h.orders hg hpasses ?_ hdialled haccepted hbirths
    by_cases ho : o = .close <;> simp [isConnecting, hafter, ho]
  | opens hbefore hlink hdialled haccepted hbirths _ =>
    exact h.opens hbefore hlink hdialled haccepted hbirths

theorem origin (o : Origin) : o.journal.Recorded := by
  cases o with
  | dialled host port policy running =>
    constructor <;>
      simp [Origin.journal, Origin.site, Link.new, sent, submitted, acceptedFor, Assoc.keys,
        Assoc.get?]
  | accepted =>
    refine ⟨?_, rfl, fun g => ?_, (fun _ _ h => by cases h), ?_, (fun h => by cases h),
      (fun _ _ h => by cases h), (fun _ _ h => by cases h)⟩
    · simp [Origin.journal, Origin.site, Link.accepted, Assoc.keys]
    · by_cases hg : g = 1 <;>
        simp [Origin.journal, Origin.site, Link.accepted, sent, submitted, acceptedFor, Assoc.get?,
          Wire.sent, Wire.frames, Wire.queued, hg, eq_comm]
    · intro g birth hbirth
      simp only [Origin.journal, Assoc.get?] at hbirth
      split at hbirth
      · cases hbirth
        exact Nat.le_refl _
      · cases hbirth

end Recorded

theorem sound_after (h : j.Recorded ∧ j.Tidy) (turns : List Turn) :
    (j.after turns).Recorded ∧ (j.after turns).Tidy := by
  induction turns generalizing j with
  | nil => exact h
  | cons turn rest ih =>
    have hturn := becomes_perform j turn
    exact ih ⟨h.1.becomes hturn, h.2.becomes hturn⟩

theorem sound (origin : Origin) (turns : List Turn) :
    (origin.journal.after turns).Recorded ∧ (origin.journal.after turns).Tidy :=
  sound_after ⟨.origin origin, .origin origin⟩ turns

end Journal

/-- What is written on a connection, in every run of a link.

Every connection has a birth: a dial that it is from, and a greeting. Its frames are the first ones
of the greeting, then of those accepted while it was dialled, then of those accepted while it was
open, each group in the order of acceptance, and none is left out or written twice. However many
bytes of what it wrote got through, they are whole frames and ticks and at most a part of one frame,
so that a tick stands between whole frames. Once the connection ended by an order to close, every
frame accepted for it was written. -/
theorem written_in_order (origin : Origin) (turns : List Turn) {g : Nat} {w : Wire}
    (hw : (origin.journal.after turns).site.link.wires.get? g = some w) :
    let j := origin.journal.after turns
    ∃ birth, j.births.get? g = some birth ∧
      let submitted :=
        birth.greeting ++ j.acceptedFor (.dial birth.dial) ++ j.acceptedFor (.connection g)
      w.frames <+: submitted ∧
      (∀ bytes, bytes <+: w.written.flatMap Written.bytes →
        ∃ whole part, bytes = whole.flatMap Written.bytes ++ part ∧ whole <+: w.written ∧
          (part = [] ∨ ∃ m, whole ++ [.frame m] <+: w.written ∧ part <+: Frame.encode m ∧
            part ≠ Frame.encode m)) ∧
      (g ∈ j.closed → w.ended = true ∧ w.frames = submitted) := by
  intro j
  obtain ⟨hrecorded, htidy⟩ := Journal.sound origin turns
  have hborn : g ∈ j.births.keys := hrecorded.births_keys ▸ Assoc.mem_keys_iff.mpr ⟨w, hw⟩
  obtain ⟨birth, hbirth⟩ := Assoc.mem_keys_iff.mp hborn
  have hsent : w.frames ++ w.queued =
      birth.greeting ++ j.acceptedFor (.dial birth.dial) ++ j.acceptedFor (.connection g) := by
    have hsubmitted := hrecorded.sent_eq g
    simp only [sent, hw, Journal.submitted] at hsubmitted
    exact hsubmitted.trans (by rw [show j.births.get? g = some birth from hbirth])
  refine ⟨birth, hbirth, ⟨w.queued, hsent⟩, fun bytes => whole_items, fun hclosed => ?_⟩
  obtain ⟨found, hfound, hended, hqueued⟩ := htidy.flushed g hclosed
  obtain rfl := Option.some.inj (hw.symm.trans hfound)
  refine ⟨hended, ?_⟩
  rw [← hsent, hqueued, List.append_nil]

/-- A link that is closed before any of its frames is written: a greeting, one frame accepted while
it was dialled, and one accepted while it was open. A tick is due on the way. -/
def closedEarly : Journal :=
  (Origin.dialled "broker" 61613 (.new ⟨0⟩ 1 ⟨0⟩ (.ofSeconds 1) []) true).journal

def closedEarlyTurns : List Turn :=
  [.send (.new .send), .dialEnded (.ok [.new .connect]), .setHeartbeats 1000 0,
    .send (.new .disconnect), .close, .work 1 (.carryOut 0), .work 1 (.carryOut 0),
    .work 1 (.carryOut 0), .work 1 (.tick 500000000), .work 1 (.carryOut 600000000),
    .work 1 (.carryOut 600000000)].map .operation

def spentWire : Wire :=
  { written := [.frame (.new .connect), .frame (.new .send), .tick, .frame (.new .disconnect)]
    sendEvery := some ⟨500000000⟩
    nextTick := some 1100000000
    ended := true }

theorem written_in_order_closed_early :
    let j := closedEarly.after closedEarlyTurns
    j.site.link.wires.get? 1 = some spentWire ∧ 1 ∈ j.closed ∧
      ∃ birth, j.births.get? 1 = some birth ∧ spentWire.frames = birth.greeting ++
        j.acceptedFor (.dial birth.dial) ++ j.acceptedFor (.connection 1) := by
  have hwire : (closedEarly.after closedEarlyTurns).site.link.wires.get? 1 = some spentWire := by
    decide
  have hclosed : 1 ∈ (closedEarly.after closedEarlyTurns).closed := by decide
  obtain ⟨birth, hbirth, _, _, hall⟩ := written_in_order (.dialled ..) closedEarlyTurns hwire
  exact ⟨hwire, hclosed, birth, hbirth, (hall hclosed).2⟩

end BrokerRpc.Link
