import BrokerRpc.Text.Blank
import BrokerRpc.Text.Numeral
import Mathlib.Data.List.TakeWhile

/-! # Numbers as they are written

A numeral is a row of digits, perhaps after a plus sign. A text denotes a number if it holds one
numeral between blanks and the number fits into a word; trimming the text and reading what is left
finds exactly these numbers.
-/
namespace BrokerRpc.Text

/-- A row of digits with an optional plus sign. -/
def Numeral (cs : List Char) (n : Nat) : Prop :=
  ∃ sign digits : List Char, cs = sign ++ digits ∧ (sign = [] ∨ sign = ['+']) ∧ digits ≠ [] ∧
    (∀ c ∈ digits, c.isDigit) ∧ n = Nat.ofDigitChars 10 digits 0

/-- A text that shows a number: one numeral, with any blanks around it. -/
def Shows (s : String) (n : Nat) : Prop :=
  ∃ before written after : List Char, s.toList = before ++ written ++ after ∧
    (∀ c ∈ before, isBlank c) ∧ (∀ c ∈ after, isBlank c) ∧ Numeral written n

def Denotes (s : String) (n : Nat) : Prop :=
  n < wordBound ∧ ∃ before written after : List Char, s.toList = before ++ written ++ after ∧
    (∀ c ∈ before, isBlank c) ∧ (∀ c ∈ after, isBlank c) ∧ Numeral written n

/-! ## Digits -/

theorem digitsValue?_eq_some_iff {acc n : Nat} {cs : List Char} :
    digitsValue? acc cs = some n ↔ (∀ c ∈ cs, c.isDigit) ∧ n = Nat.ofDigitChars 10 cs acc := by
  induction cs generalizing acc with
  | nil =>
    simp only [digitsValue?, Option.some.injEq, List.not_mem_nil, false_implies, implies_true,
      true_and]
    exact eq_comm
  | cons c cs ih =>
    rw [digitsValue?, Nat.ofDigitChars_cons]
    by_cases hc : c.isDigit
    · simp only [hc, if_true, ih, List.mem_cons, forall_eq_or_imp, true_and, Nat.mul_comm acc 10]
    · simp [hc]

theorem natural?_eq_some_iff {cs : List Char} {n : Nat} : natural? cs = some n ↔ Numeral cs n := by
  have hread : ∀ digits : List Char,
      (if digits.isEmpty then none else digitsValue? 0 digits) = some n ↔
        digits ≠ [] ∧ (∀ c ∈ digits, c.isDigit) ∧ n = Nat.ofDigitChars 10 digits 0 := by
    intro digits
    cases digits with
    | nil => simp
    | cons c cs => simp [digitsValue?_eq_some_iff]
  have hplus : ¬ '+'.isDigit := by decide
  unfold natural?
  split
  · rename_i digits
    rw [hread]
    constructor
    · intro h
      exact ⟨['+'], digits, rfl, Or.inr rfl, h⟩
    · rintro ⟨sign, row, he, rfl | rfl, hne, hall, hn⟩
      · -- without a sign the plus would have to be a digit
        rw [List.nil_append] at he
        exact absurd (hall '+' (he ▸ List.mem_cons_self)) hplus
      · cases he
        exact ⟨hne, hall, hn⟩
  · rename_i hcs
    rw [hread]
    constructor
    · intro h
      exact ⟨[], cs, rfl, Or.inl rfl, h⟩
    · rintro ⟨sign, row, he, rfl | rfl, h⟩
      · rw [List.nil_append] at he
        exact he ▸ h
      · exact absurd he (hcs row)

/-! ## Blanks around a numeral -/

theorem isBlank_digit {c : Char} (h : c.isDigit) : isBlank c = false := by
  have hrange : 48 ≤ c.toNat ∧ c.toNat ≤ 57 := by
    simp only [Char.isDigit, Bool.and_eq_true, decide_eq_true_eq, UInt32.le_iff_toNat_le,
      ge_iff_le] at h
    exact h
  simp only [isBlank, blankCodes, List.contains_eq_mem, decide_eq_false_iff_not, List.mem_cons,
    List.not_mem_nil, or_false]
  omega

theorem not_blank_of_numeral {cs : List Char} {n : Nat} (h : Numeral cs n) :
    cs ≠ [] ∧ ∀ c ∈ cs, isBlank c = false := by
  obtain ⟨sign, digits, rfl, hsign, hne, hall, -⟩ := h
  refine ⟨by simp [hne], ?_⟩
  intro c hc
  rcases List.mem_append.mp hc with hc | hc
  · rcases hsign with rfl | rfl
    · cases hc
    · rw [List.mem_singleton] at hc
      subst hc
      decide
  · exact isBlank_digit (hall c hc)

theorem dropWhile_blanks_append {before cs : List Char} (hb : ∀ c ∈ before, isBlank c)
    (hne : cs ≠ []) (hcs : ∀ c ∈ cs, isBlank c = false) (after : List Char) :
    (before ++ cs ++ after).dropWhile isBlank = cs ++ after := by
  obtain ⟨c, rest, rfl⟩ := List.exists_cons_of_ne_nil hne
  have hc := hcs c List.mem_cons_self
  rw [List.append_assoc, List.dropWhile_append_of_pos hb, List.cons_append,
    List.dropWhile_cons_of_neg (by simp [hc])]

theorem trimBlanks_append {before cs after : List Char} (hb : ∀ c ∈ before, isBlank c)
    (ha : ∀ c ∈ after, isBlank c) (hne : cs ≠ []) (hcs : ∀ c ∈ cs, isBlank c = false) :
    trimBlanks (before ++ cs ++ after) = cs := by
  have hback : ∀ c ∈ after.reverse, isBlank c := fun c hc => ha c (List.mem_reverse.mp hc)
  have hrev : ∀ c ∈ cs.reverse, isBlank c = false := fun c hc => hcs c (List.mem_reverse.mp hc)
  have hend := dropWhile_blanks_append hback (by simpa using hne) hrev []
  rw [trimBlanks, dropWhile_blanks_append hb hne hcs, List.reverse_append]
  simp only [List.append_nil] at hend
  rw [hend, List.reverse_reverse]

theorem eq_append_trimBlanks (cs : List Char) : ∃ before after : List Char,
    cs = before ++ trimBlanks cs ++ after ∧
      (∀ c ∈ before, isBlank c) ∧ (∀ c ∈ after, isBlank c) := by
  have hfront : cs.takeWhile isBlank ++ cs.dropWhile isBlank = cs := List.takeWhile_append_dropWhile
  have hback := List.takeWhile_append_dropWhile (p := isBlank) (l := (cs.dropWhile isBlank).reverse)
  refine ⟨cs.takeWhile isBlank, ((cs.dropWhile isBlank).reverse.takeWhile isBlank).reverse, ?_,
    fun c hc => List.mem_takeWhile_imp hc, fun c hc => ?_⟩
  · rw [trimBlanks, List.append_assoc, ← List.reverse_append, hback, List.reverse_reverse, hfront]
  · exact List.mem_takeWhile_imp (List.mem_reverse.mp hc)

/-- Trimming and reading finds exactly the number that a text shows, unless it is too large. -/
theorem below?_trim_iff {bound : Nat} {s : String} {n : Nat} :
    below? bound (trim s) = some n ↔ n < bound ∧ Shows s n := by
  rw [below?, Option.filter_eq_some_iff, decide_eq_true_eq, natural?_eq_some_iff, trim,
    String.toList_ofList, and_comm]
  refine and_congr_right fun _ => ?_
  constructor
  · intro h
    obtain ⟨before, after, he, hb, ha⟩ := eq_append_trimBlanks s.toList
    exact ⟨before, _, after, he, hb, ha, h⟩
  · rintro ⟨before, written, after, he, hb, ha, h⟩
    obtain ⟨hne, hclean⟩ := not_blank_of_numeral h
    rw [he, trimBlanks_append hb ha hne hclean]
    exact h

theorem below?_trim_eq_some_iff {s : String} {n : Nat} :
    below? wordBound (trim s) = some n ↔ Denotes s n := below?_trim_iff

theorem denotes_trim_iff {s : String} {n : Nat} : Denotes (trim s) n ↔ Denotes s n := by
  constructor
  · rintro ⟨hn, before, written, after, he, hb, ha, hnum⟩
    obtain ⟨front, back, hs, hfront, hback⟩ := eq_append_trimBlanks s.toList
    rw [trim, String.toList_ofList] at he
    refine ⟨hn, front ++ before, written, after ++ back, ?_, ?_, ?_, hnum⟩
    · rw [hs, he]
      simp only [List.append_assoc]
    · intro c hc
      exact (List.mem_append.mp hc).elim (hfront c) (hb c)
    · intro c hc
      exact (List.mem_append.mp hc).elim (ha c) (hback c)
  · rintro ⟨hn, before, written, after, he, hb, ha, hnum⟩
    obtain ⟨hne, hclean⟩ := not_blank_of_numeral hnum
    refine ⟨hn, [], written, [], ?_, by simp, by simp, hnum⟩
    rw [trim, String.toList_ofList, he, trimBlanks_append hb ha hne hclean, List.nil_append,
      List.append_nil]

theorem Denotes.char {s : String} {n : Nat} (h : Denotes s n) {c : Char} (hc : c ∈ s.toList) :
    isBlank c ∨ c = '+' ∨ c.isDigit := by
  obtain ⟨_, before, written, after, he, hb, ha, sign, digits, rfl, hsign, _, hall, _⟩ := h
  rw [he] at hc
  simp only [List.mem_append] at hc
  rcases hc with (hc | hc | hc) | hc
  · exact Or.inl (hb c hc)
  · rcases hsign with rfl | rfl
    · cases hc
    · exact Or.inr (Or.inl (List.mem_singleton.mp hc))
  · exact Or.inr (Or.inr (hall c hc))
  · exact Or.inl (ha c hc)

/-! ## The numbers that the library writes -/

theorem numeral_decimal (n : Nat) : Numeral (decimal n).toList n := by
  rw [decimal, String.toList_ofList]
  exact ⟨[], Nat.toDigits 10 n, rfl, Or.inl rfl, Nat.toDigits_ne_nil,
    fun c hc => Nat.isDigit_of_mem_toDigits (by omega) (by omega) hc,
    (Nat.ofDigitChars_toDigits (by omega) (by omega)).symm⟩

theorem denotes_decimal {n : Nat} (h : n < wordBound) : Denotes (decimal n) n :=
  ⟨h, [], _, [], (List.append_nil _).symm, by simp, by simp, numeral_decimal n⟩

theorem below?_trim_decimal {n : Nat} (h : n < wordBound) :
    below? wordBound (trim (decimal n)) = some n :=
  below?_trim_eq_some_iff.mpr (denotes_decimal h)

theorem not_mem_decimal {c : Char} (hc : c.isDigit = false) (n : Nat) :
    c ∉ (decimal n).toList := by
  rw [decimal, String.toList_ofList]
  intro h
  rw [Nat.isDigit_of_mem_toDigits (by omega) (by omega) h] at hc
  cases hc

end BrokerRpc.Text
