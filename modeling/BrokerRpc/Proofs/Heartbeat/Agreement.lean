import BrokerRpc.Heartbeat
import BrokerRpc.Proofs.Text.Numeral

/-! # Offers that meet

An offer is two numbers with one comma between them. Exchanging its halves exchanges the numbers, so
that both sides compare what one of them sends with what the other wants, and settle the same two
intervals.
-/
namespace BrokerRpc.Heartbeat

/-! ## The comma of an offer -/

theorem cutComma?_eq_some_iff {s front rest : String} : cutComma? s = some (front, rest) ↔
    s.toList = front.toList ++ ',' :: rest.toList ∧ ',' ∉ front.toList := by
  have hjoin := List.takeWhile_append_dropWhile (p := (· != ',')) (l := s.toList)
  unfold cutComma?
  constructor
  · intro h
    cases hd : s.toList.dropWhile (· != ',') with
    | nil => simp [hd] at h
    | cons c back =>
      have hc : c = ',' := by simpa [hd] using List.head?_dropWhile_not (· != ',') s.toList
      rw [hd] at h hjoin
      cases h
      rw [String.toList_ofList, String.toList_ofList]
      refine ⟨hc ▸ hjoin.symm, fun hmem => ?_⟩
      simpa using List.mem_takeWhile_imp hmem
  · rintro ⟨hs, hfront⟩
    have hall : ∀ c ∈ front.toList, (c != ',') = true := by
      intro c hc
      rw [bne_iff_ne]
      rintro rfl
      exact hfront hc
    rw [hs, List.dropWhile_append_of_pos hall, List.takeWhile_append_of_pos hall,
      List.dropWhile_cons_of_neg (by decide), List.takeWhile_cons_of_neg (by decide)]
    simp

theorem comma_not_mem_of_denotes {s : String} {n : Nat} (h : Text.Denotes s n) :
    ',' ∉ s.toList := by
  intro hc
  have hkind := h.char hc
  revert hkind
  decide

theorem comma_not_mem_trim {s : String} (h : ',' ∉ s.toList) : ',' ∉ (Text.trim s).toList := by
  obtain ⟨before, after, he, _, _⟩ := Text.eq_append_trimBlanks s.toList
  rw [he] at h
  rw [Text.trim, String.toList_ofList]
  intro hc
  exact h (List.mem_append_left _ (List.mem_append_right _ hc))

theorem eq_of_last_comma {front front' rest rest' : List Char} (h : ',' ∉ rest) (h' : ',' ∉ rest')
    (he : front ++ ',' :: rest = front' ++ ',' :: rest') : front = front' ∧ rest = rest' := by
  rcases List.append_eq_append_iff.mp he with ⟨more, rfl, hmore⟩ | ⟨more, rfl, hmore⟩
  · cases more with
    | nil => simpa using hmore
    | cons c more =>
      rw [List.cons_append, List.cons.injEq] at hmore
      exact absurd (hmore.2 ▸ List.mem_append_right _ List.mem_cons_self) h
  · cases more with
    | nil => simpa [eq_comm] using hmore
    | cons c more =>
      rw [List.cons_append, List.cons.injEq] at hmore
      exact absurd (hmore.2 ▸ List.mem_append_right _ List.mem_cons_self) h'

/-! ## Reading an offer -/

/-- An offer is read exactly if numbers stand on both sides of its comma. -/
theorem parse_eq_some_iff {s : String} {a b : Nat} : parse s = some (a, b) ↔
    ∃ own expected, cutComma? s = some (own, expected) ∧ Text.Denotes own a ∧
      Text.Denotes expected b := by
  simp only [← Text.below?_trim_eq_some_iff, parse, bind, Option.bind_eq_some_iff, Prod.exists,
    pure, Option.some.injEq, Prod.mk.injEq]
  constructor
  · rintro ⟨own, expected, hcut, a', ha, b', hb, rfl, rfl⟩
    exact ⟨own, expected, hcut, ha, hb⟩
  · rintro ⟨own, expected, hcut, ha, hb⟩
    exact ⟨own, expected, hcut, a, ha, b, hb, rfl, rfl⟩

theorem cutComma?_swap {s own expected : String} (hcut : cutComma? s = some (own, expected))
    (hexpected : ',' ∉ expected.toList) :
    cutComma? (swap s) = some (Text.trim expected, Text.trim own) := by
  rw [swap, hcut, cutComma?_eq_some_iff]
  refine ⟨?_, comma_not_mem_trim hexpected⟩
  simp [String.toList_append]

/-- Exchanging the halves of an offer exchanges its numbers, and no other text becomes an offer by
it. -/
theorem parse_swap_eq_some_iff {s : String} {a b : Nat} :
    parse (swap s) = some (b, a) ↔ parse s = some (a, b) := by
  constructor
  · intro h
    cases hcut : cutComma? s with
    | none =>
      rw [swap, hcut] at h
      obtain ⟨own, expected, hcut', _⟩ := parse_eq_some_iff.mp h
      rw [hcut] at hcut'
      cases hcut'
    | some parts =>
      obtain ⟨own, expected⟩ := parts
      obtain ⟨first, second, hswap, hfirst, hsecond⟩ := parse_eq_some_iff.mp h
      -- neither the trimmed half nor the second number has a comma, so that both cuts agree
      have hown := comma_not_mem_trim (cutComma?_eq_some_iff.mp hcut).2
      have hjoin : (swap s).toList =
          (Text.trim expected).toList ++ ',' :: (Text.trim own).toList := by
        rw [swap, hcut]
        simp [String.toList_append]
      rw [cutComma?_eq_some_iff, hjoin] at hswap
      obtain ⟨hb, ha⟩ := eq_of_last_comma hown (comma_not_mem_of_denotes hsecond) hswap.1
      rw [String.toList_inj] at hb ha
      rw [← hb, Text.denotes_trim_iff] at hfirst
      rw [← ha, Text.denotes_trim_iff] at hsecond
      exact parse_eq_some_iff.mpr ⟨own, expected, hcut, hsecond, hfirst⟩
  · intro h
    obtain ⟨own, expected, hcut, hown, hexpected⟩ := parse_eq_some_iff.mp h
    exact parse_eq_some_iff.mpr ⟨_, _, cutComma?_swap hcut (comma_not_mem_of_denotes hexpected),
      Text.denotes_trim_iff.mpr hexpected, Text.denotes_trim_iff.mpr hown⟩

theorem parse_swap (s : String) : parse (swap s) = (parse s).map Prod.swap := by
  cases h : parse s with
  | some numbers => exact parse_swap_eq_some_iff.mpr h
  | none =>
    cases hswap : parse (swap s) with
    | none => rfl
    | some numbers =>
      have hback : parse s = some (numbers.2, numbers.1) := parse_swap_eq_some_iff.mp hswap
      rw [h] at hback
      cases hback

theorem parse_format {own expected : Duration} (hown : own.millis < Text.wordBound)
    (hexpected : expected.millis < Text.wordBound) :
    parse (format own expected) = some (own.millis, expected.millis) := by
  refine parse_eq_some_iff.mpr ⟨_, _, cutComma?_eq_some_iff.mpr ⟨?_, ?_⟩,
    Text.denotes_decimal hown, Text.denotes_decimal hexpected⟩
  · simp [format, String.toList_append]
  · exact Text.not_mem_decimal (by decide) _

/-! ## Settling an interval -/

/-- What two offers for one direction may settle: nothing exactly if one of them is nothing, and
otherwise no less than either asks for, up to the longest interval. -/
structure Settles (ours theirs interval : Nat) : Prop where
  off_iff : interval = 0 ↔ ours = 0 ∨ theirs = 0
  covers_ours : interval ≠ 0 → min ours longest ≤ interval
  covers_theirs : interval ≠ 0 → min theirs longest ≤ interval
  le_longest : interval ≤ longest

theorem settles_negotiate (ours theirs : Nat) : Settles ours theirs (negotiate ours theirs) := by
  have hlongest : 0 < longest := by decide
  refine ⟨?_, ?_, ?_, negotiate_le ours theirs⟩
  all_goals
    unfold negotiate
    split <;> omega

theorem negotiatePair_eq (outgoing incoming : Nat) (header : String) :
    negotiatePair outgoing incoming header = (parse header).map fun offer =>
      (negotiate outgoing offer.2, negotiate incoming offer.1) := by
  rw [negotiatePair, parse_swap]
  cases parse header <;> rfl

/-- Both sides settle the same intervals from their own offer and the other's written one. What one
side sends is what the other expects, and each interval is one that the two offers for its direction
may settle. Any header is taken for what it offers, and refused exactly if it is no offer. -/
theorem settled_alike {out₁ in₁ out₂ in₂ : Nat} (hout₁ : out₁ < Text.wordBound)
    (hin₁ : in₁ < Text.wordBound) (hout₂ : out₂ < Text.wordBound) (hin₂ : in₂ < Text.wordBound) :
    (∃ there back : Nat,
      negotiatePair out₁ in₁ (format (.ofMillis out₂) (.ofMillis in₂)) = some (there, back) ∧
      negotiatePair out₂ in₂ (format (.ofMillis out₁) (.ofMillis in₁)) = some (back, there) ∧
      Settles out₁ in₂ there ∧ Settles out₂ in₁ back) ∧
    ∀ (outgoing incoming : Nat) (header : String),
      negotiatePair outgoing incoming header = (parse header).map fun offer =>
        (negotiate outgoing offer.2, negotiate incoming offer.1) := by
  have hread : ∀ {own expected : Nat}, own < Text.wordBound → expected < Text.wordBound →
      parse (format (.ofMillis own) (.ofMillis expected)) = some (own, expected) := by
    intro own expected hown hexpected
    have hparse := @parse_format (.ofMillis own) (.ofMillis expected)
    simp only [Duration.millis_ofMillis] at hparse
    exact hparse hown hexpected
  refine ⟨⟨negotiate out₁ in₂, negotiate out₂ in₁, ?_, ?_, settles_negotiate _ _,
    settles_negotiate _ _⟩, negotiatePair_eq⟩
  · rw [negotiatePair_eq, hread hout₂ hin₂, negotiate_comm out₂]
    rfl
  · rw [negotiatePair_eq, hread hout₁ hin₁, negotiate_comm out₁]
    rfl

/-- An offer beyond the longest interval meets a modest one, and a direction that only one side
wants stays off. -/
theorem settled_alike_one_way :
    let large := 0xffffffffffffffff
    (large < Text.wordBound ∧ 500 < Text.wordBound ∧ 0 < Text.wordBound ∧
      30000 < Text.wordBound) ∧
    negotiatePair large 500 (format (.ofMillis 0) (.ofMillis 30000)) = some (longest, 0) ∧
    negotiatePair 0 30000 (format (.ofMillis large) (.ofMillis 500)) = some (0, longest) := by
  intro large
  have hbounds : large < Text.wordBound ∧ 500 < Text.wordBound ∧ 0 < Text.wordBound ∧
      30000 < Text.wordBound := by decide
  obtain ⟨⟨there, back, hfirst, hsecond, hthere, hback⟩, _⟩ :=
    settled_alike hbounds.1 hbounds.2.1 hbounds.2.2.1 hbounds.2.2.2
  have hon : there ≠ 0 := fun h => absurd (hthere.off_iff.mp h) (by decide)
  have hlargest : min large longest = longest := by decide
  obtain rfl : there = longest :=
    Nat.le_antisymm hthere.le_longest (hlargest ▸ hthere.covers_ours hon)
  obtain rfl : back = 0 := hback.off_iff.mpr (Or.inl rfl)
  exact ⟨hbounds, hfirst, hsecond⟩

end BrokerRpc.Heartbeat
