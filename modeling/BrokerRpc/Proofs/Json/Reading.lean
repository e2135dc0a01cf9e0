import BrokerRpc.Json.Reader
import BrokerRpc.Proofs.Json.Values

/-! # Values that are read

Whatever bytes a reader takes, the value it makes of them is well formed: numbers beyond 64 bits
become fractions, and the members of an object are put in their places.
-/
namespace BrokerRpc.Json

theorem bind_eq_ok_iff {ε α β : Type} {x : Except ε α} {f : α → Except ε β} {b : β} :
    x >>= f = .ok b ↔ ∃ a, x = .ok a ∧ f a = .ok b := by
  cases x <;> simp [bind, Except.bind]

/-! ## Scalars -/

theorem takeDigits_le {n : Nat} (hn : n ≤ Text.maxWord) (ds : List Nat) :
    (Numeral.takeDigits n ds).1 ≤ Text.maxWord := by
  induction ds generalizing n with
  | nil => exact hn
  | cons d ds ih =>
    unfold Numeral.takeDigits
    split
    · rename_i h
      exact ih h
    · exact hn

theorem wellFormed_of_fraction {m : Numeral} {n : Nat} {e : Int} {v : Json}
    (h : m.fraction n e = .ok v) : v.WellFormed := by
  have hfraction : ∃ x, v = fraction x := by
    unfold Numeral.fraction at h
    grind
  obtain ⟨x, rfl⟩ := hfraction
  exact wellFormed_of_parts rfl trivial

theorem wellFormed_of_numeral {m : Numeral} {v : Json} (h : m.value = .ok v) : v.WellFormed := by
  have hle := takeDigits_le (n := 0) (Nat.zero_le _) m.whole
  unfold Numeral.value at h
  dsimp only at h
  split at h
  · split at h
    · cases h
      refine wellFormed_of_parts rfl ⟨?_, ?_⟩
      · rw [minInteger]
        omega
      · exact Int.ofNat_le.mpr hle
    split at h
    · rename_i hbound
      cases h
      refine wellFormed_of_parts rfl ⟨?_, ?_⟩
      · rw [minInteger]
        omega
      · rw [Text.maxWord]
        omega
    · exact wellFormed_of_fraction h
  · exact wellFormed_of_fraction h

theorem wellFormed_of_number {negative : Bool} {b rest : Bytes} {v : Json}
    (h : number negative b = .ok (v, rest)) : v.WellFormed := by
  obtain ⟨⟨numeral, left⟩, -, h⟩ := bind_eq_ok_iff.mp h
  obtain ⟨w, hw, h⟩ := bind_eq_ok_iff.mp h
  cases h
  exact wellFormed_of_numeral hw

/-! ## Arrays and objects -/

section Parts
variable {α : Type} {item : Reader α} {P : α → Prop}

theorem forall_of_items (hitem : ∀ b x rest, item b = .ok (x, rest) → P x) {fuel : Nat}
    {first : Bool} {acc xs : List α} {b rest : Bytes} (hacc : ∀ x ∈ acc, P x)
    (h : items item fuel first acc b = .ok (xs, rest)) : ∀ x ∈ xs, P x := by
  induction fuel generalizing first acc b with
  | zero =>
    unfold items at h
    cases hb : skipSpaces b <;> (rw [hb] at h; cases h)
  | succ fuel ih =>
    have hnext : ∀ {c : Bytes},
        (item c >>= fun read => items item fuel false (read.1 :: acc) read.2) = .ok (xs, rest) →
          ∀ x ∈ xs, P x := by
      intro c h
      obtain ⟨⟨x, left⟩, hx, h⟩ := bind_eq_ok_iff.mp h
      exact ih (List.forall_mem_cons.mpr ⟨hitem _ _ _ hx, hacc⟩) h
    unfold items at h
    cases hb : skipSpaces b with
    | nil =>
      rw [hb] at h
      cases h
    | cons c left =>
      rw [hb] at h
      dsimp only at h
      split at h
      · cases h
        exact fun x hx => hacc x (List.mem_reverse.mp hx)
      split at h
      · exact hnext h
      split at h
      · split at h
        · cases h
        split at h
        · cases h
        · exact hnext h
      · cases h

theorem forall_of_members (hitem : ∀ b x rest, item b = .ok (x, rest) → P x) {fuel : Nat}
    {first : Bool} {acc entries : List (String × α)} {b rest : Bytes}
    (hacc : ∀ entry ∈ acc, P entry.2)
    (h : members item fuel first acc b = .ok (entries, rest)) : ∀ entry ∈ entries, P entry.2 := by
  induction fuel generalizing first acc b with
  | zero => cases h
  | succ fuel ih =>
    obtain ⟨⟨more, left⟩, -, h⟩ := bind_eq_ok_iff.mp h
    cases more with
    | none =>
      cases h
      exact fun entry hentry => hacc entry (List.mem_reverse.mp hentry)
    | some _ =>
      obtain ⟨⟨key, left⟩, -, h⟩ := bind_eq_ok_iff.mp h
      obtain ⟨left, -, h⟩ := bind_eq_ok_iff.mp h
      obtain ⟨⟨x, left⟩, hx, h⟩ := bind_eq_ok_iff.mp h
      exact ih (List.forall_mem_cons.mpr ⟨hitem _ _ _ hx, hacc⟩) h

end Parts

theorem wellFormed_of_value {d : Nat} {b rest : Bytes} {v : Json}
    (h : value d b = .ok (v, rest)) : v.WellFormed := by
  induction d using Nat.strongRecOn generalizing v b rest with
  | _ d ih =>
    unfold value at h
    split at h
    · cases h
    have hliteral : ∀ {w : Json} {x : Except Fault Bytes}, w.parts = [w] → w.Proper →
        (do return (w, ← x)) = .ok (v, rest) → v.WellFormed := by
      intro w x hparts hproper h
      obtain ⟨left, -, h⟩ := bind_eq_ok_iff.mp h
      cases h
      exact wellFormed_of_parts hparts hproper
    split at h
    · exact hliteral (w := .null) rfl trivial h
    split at h
    · exact hliteral (w := (.bool true)) rfl trivial h
    split at h
    · exact hliteral (w := (.bool false)) rfl trivial h
    split at h
    · exact wellFormed_of_number h
    split at h
    · exact wellFormed_of_number h
    split at h
    · obtain ⟨⟨s, left⟩, -, h⟩ := bind_eq_ok_iff.mp h
      cases h
      exact wellFormed_of_parts rfl trivial
    split at h
    · cases d with
      | zero => cases h
      | succ d =>
        obtain ⟨⟨xs, left⟩, hitems, h⟩ := bind_eq_ok_iff.mp h
        cases h
        have hread : ∀ b x rest, value d b = .ok (x, rest) → x.WellFormed :=
          fun _ _ _ h => ih d (Nat.lt_succ_self d) h
        exact wellFormed_arr_iff.mpr (forall_of_items hread (by simp) hitems)
    split at h
    · cases d with
      | zero => cases h
      | succ d =>
        obtain ⟨⟨entries, left⟩, hmembers, h⟩ := bind_eq_ok_iff.mp h
        cases h
        have hread : ∀ b x rest, value d b = .ok (x, rest) → x.WellFormed :=
          fun _ _ _ h => ih d (Nat.lt_succ_self d) h
        have hall := forall_of_members hread (by simp) hmembers
        exact wellFormed_obj_iff.mpr ⟨Members.ascending_ofList entries,
          fun entry hentry => hall entry (Members.mem_ofList hentry)⟩
    · cases h

theorem wellFormed_of_parse {b : Bytes} {v : Json} (h : parse b = .ok v) : v.WellFormed := by
  obtain ⟨⟨v, rest⟩, hvalue, h⟩ := bind_eq_ok_iff.mp h
  obtain ⟨_, -, h⟩ := bind_eq_ok_iff.mp h
  cases h
  exact wellFormed_of_value hvalue

end BrokerRpc.Json
