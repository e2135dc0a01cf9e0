import BrokerRpc.Link.Wire
import BrokerRpc.Proofs.Heartbeat.Agreement

/-! # Timers of settled intervals

The grace of an interval is half of its rounded value. Rounding moves a number by at most half of
the spacing of the values around it, which is one up to 53 bits and less than the number beyond. So
the grace never exceeds the interval: ticks are sent at a period that is not zero, and silence is
borne for at least as long.
-/
namespace BrokerRpc.Heartbeat

/-! ## Rounding -/

/-- How far apart the values with 53 significant bits are around a number. -/
def spacing (n : Nat) : Nat := 1 <<< (n.log2 + 1 - 53)

theorem spacing_pos (n : Nat) : 0 < spacing n := by
  rw [spacing, Nat.one_shiftLeft]
  exact Nat.two_pow_pos _

theorem spacing_le {n : Nat} (h : n ≠ 0) : spacing n ≤ n := by
  rw [spacing, Nat.one_shiftLeft]
  have hexp : n.log2 + 1 - 53 ≤ n.log2 := by omega
  exact (Nat.pow_le_pow_right (by decide) hexp).trans (Nat.log2_self_le h)

theorem spacing_of_lt {n : Nat} (h : n < 0x20000000000000) : spacing n = 1 := by
  have hlog : n.log2 ≤ 52 := by
    by_cases hn : n = 0
    · subst hn
      decide
    · have hlt : n.log2 < 53 := (Nat.log2_lt hn).mpr h
      omega
  have hexp : n.log2 + 1 - 53 = 0 := by omega
  rw [spacing, hexp]
  rfl

theorem round53_eq (n : Nat) : round53 n =
    if n % spacing n * 2 < spacing n then n / spacing n * spacing n
    else if spacing n < n % spacing n * 2 then (n / spacing n + 1) * spacing n
    else if spacing n = 1 then n
    else (n / spacing n + n / spacing n % 2) * spacing n := rfl

/-- Rounding goes to one of the neighbours, no further than half of the way between them. -/
theorem round53_near (n : Nat) :
    n ≤ round53 n + spacing n / 2 ∧ round53 n ≤ n + spacing n / 2 := by
  have hsplit : n / spacing n * spacing n + n % spacing n = n := Nat.div_add_mod' n (spacing n)
  have hrest : n % spacing n < spacing n := Nat.mod_lt n (spacing_pos n)
  have hnext : (n / spacing n + 1) * spacing n = n / spacing n * spacing n + spacing n :=
    Nat.succ_mul _ _
  rw [round53_eq]
  split
  · omega
  split
  · omega
  split
  · omega
  -- a tie: the even one of the two neighbours is as far away as the other
  rcases Nat.mod_two_eq_zero_or_one (n / spacing n) with heven | hodd
  · rw [heven, Nat.add_zero]
    omega
  · rw [hodd]
    omega

theorem round53_of_lt {n : Nat} (h : n < 0x20000000000000) : round53 n = n := by
  have hnear := round53_near n
  rw [spacing_of_lt h] at hnear
  omega

theorem round53_le (n : Nat) : round53 n ≤ n + n / 2 := by
  by_cases hn : n = 0
  · subst hn
    decide
  · have hnear := (round53_near n).2
    have hspacing := spacing_le hn
    omega

/-! ## Periods and windows -/

theorem grace_of_lt {n : Nat} (h : n < 0x20000000000000) : grace n = n / 2 := by
  rw [grace, round53_of_lt h]

theorem grace_le (interval : Nat) : grace interval ≤ interval := by
  have h := round53_le interval
  unfold grace
  omega

theorem reduced_add_grace (interval : Nat) : reduced interval + grace interval = interval :=
  Nat.sub_add_cancel (grace_le interval)

theorem reduced_pos {interval : Nat} (h : interval ≠ 0) : 0 < reduced interval := by
  have hround := round53_le interval
  unfold reduced grace
  omega

theorem le_extended {interval : Nat} (h : interval < Text.wordBound) :
    interval ≤ extended interval := by
  have hword : interval ≤ Text.maxWord := Nat.le_of_lt_succ h
  exact Nat.le_min.mpr ⟨Nat.le_add_right _ _, hword⟩

/-- What an interval gives for the timers if half of it can be taken away and added exactly. -/
structure Timed (interval : Nat) : Prop where
  reduced_eq : reduced interval = interval - interval / 2
  reduced_pos : 1 ≤ reduced interval
  reduced_le : reduced interval ≤ interval
  extended_eq : extended interval = interval + interval / 2
  unsaturated : interval + interval / 2 ≤ Text.maxWord
  in_time : reduced interval ≤ extended interval

theorem timed {interval : Nat} (hne : interval ≠ 0) (hle : interval ≤ longest) :
    Timed interval := by
  have hlt : interval < 0x20000000000000 := Nat.lt_of_le_of_lt hle (by decide)
  have hsum : interval + interval / 2 ≤ Text.maxWord := by
    unfold Text.maxWord
    omega
  have hreduced : reduced interval = interval - interval / 2 := by
    rw [reduced, grace_of_lt hlt]
  have hextended : extended interval = interval + interval / 2 := by
    rw [extended, grace_of_lt hlt]
    exact Nat.min_eq_left hsum
  refine ⟨hreduced, reduced_pos hne, Nat.sub_le _ _, hextended, hsum, ?_⟩
  omega

theorem le_longest_of_negotiatePair {outgoing incoming there back : Nat} {header : String}
    (h : negotiatePair outgoing incoming header = some (there, back)) :
    there ≤ longest ∧ back ≤ longest := by
  rw [negotiatePair_eq, Option.map_eq_some_iff] at h
  obtain ⟨offer, -, hpair⟩ := h
  cases hpair
  exact ⟨negotiate_le _ _, negotiate_le _ _⟩

/-! ## Wires -/

/-- One wire takes up an interval to send and another one takes it up to expect. -/
theorem exists_period_window {interval : Nat} (h : Timed interval) (hne : interval ≠ 0)
    (ours theirs : Wire) (now later : Instant) (incoming outgoing : Nat) :
    ∃ period window : Duration,
      (ours.setHeartbeats now interval incoming).sendEvery = some period ∧
      (theirs.setHeartbeats later outgoing interval).expectWithin = some window ∧
      0 < period.nanos ∧ period.nanos ≤ window.nanos := by
  have hsome : ∀ millis, Wire.interval interval millis = some (.ofMillis millis) :=
    fun _ => if_neg hne
  refine ⟨_, _, hsome (reduced interval), hsome (extended interval), ?_, ?_⟩
  · exact Nat.mul_pos h.reduced_pos (by decide)
  · exact Nat.mul_le_mul_right _ h.in_time

/-- Whatever the other side offers, the timers of a settled interval are half of it off and half of
it on top, exactly, so that one wire sends at a period that is not zero and that another one bears.
For any interval of 64 bits, where the half may be rounded up or down, the grace can still be taken
away, and the interval lies between its two timers. -/
theorem settled_timers_sound :
    (∀ (outgoing incoming : Nat) (header : String) (there back : Nat),
      negotiatePair outgoing incoming header = some (there, back) →
      ∀ interval, interval = there ∨ interval = back → interval ≠ 0 → Timed interval ∧
        ∀ (ours theirs : Wire) (now later : Instant) (incoming outgoing : Nat),
          ∃ period window : Duration,
            (ours.setHeartbeats now interval incoming).sendEvery = some period ∧
            (theirs.setHeartbeats later outgoing interval).expectWithin = some window ∧
            0 < period.nanos ∧ period.nanos ≤ window.nanos) ∧
    ∀ interval < Text.wordBound, grace interval ≤ interval ∧
      reduced interval + grace interval = interval ∧ reduced interval ≤ interval ∧
      interval ≤ extended interval ∧ extended interval ≤ Text.maxWord := by
  constructor
  · intro outgoing incoming header there back hpair interval hmem hne
    obtain ⟨hthere, hback⟩ := le_longest_of_negotiatePair hpair
    have hle : interval ≤ longest := by
      rcases hmem with rfl | rfl
      · exact hthere
      · exact hback
    have ht := timed hne hle
    exact ⟨ht, exists_period_window ht hne⟩
  · intro interval hword
    exact ⟨grace_le interval, reduced_add_grace interval, Nat.sub_le _ _, le_extended hword,
      Nat.min_le_right _ _⟩

/-- Half of an odd interval is rounded down, and the grace of the largest one, half of a value that
was rounded up, can be taken away. -/
theorem settled_timers_sound_odd :
    negotiatePair 3 0 " 7 , 1" = some (3, 0) ∧ (3 ≠ 0 ∧ Timed 3) ∧
      0xffffffffffffffff < Text.wordBound ∧ grace 0xffffffffffffffff ≤ 0xffffffffffffffff := by
  have hpair : negotiatePair 3 0 " 7 , 1" = some (3, 0) := by decide +kernel
  have hword : 0xffffffffffffffff < Text.wordBound := by decide
  have hne : 3 ≠ 0 := by decide
  exact ⟨hpair, ⟨hne, (settled_timers_sound.1 _ _ _ _ _ hpair 3 (Or.inl rfl) hne).1⟩, hword,
    (settled_timers_sound.2 _ hword).1⟩

/-- The largest interval is rounded up, and its window is cut off. -/
example : reduced 0xffffffffffffffff = 0x7fffffffffffffff ∧
    extended 0xffffffffffffffff = Text.maxWord := by decide

end BrokerRpc.Heartbeat
