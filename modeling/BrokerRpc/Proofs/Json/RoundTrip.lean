import BrokerRpc.Proofs.Json.Tokens
import BrokerRpc.Proofs.Json.Values

/-! # Values that are written and read

A plain value is read back from its text, whatever stands behind it, so the text of one value is
never the text of another.
-/
namespace BrokerRpc.Json

open Bytes

/-! ## The first byte -/

theorem skipSpaces_cons {c : UInt8} (h : isSpace c = false) (b : Bytes) :
    skipSpaces (c :: b) = c :: b := by
  rw [skipSpaces, List.dropWhile_cons_of_neg (by simp [h])]

theorem value_of_skipSpaces {d : Nat} {b t : Bytes} {c : UInt8} (hb : skipSpaces b = c :: t) :
    value d b = value d (c :: t) := by
  have hc : isSpace c = false := by
    have := List.head?_dropWhile_not isSpace b
    rw [← skipSpaces, hb] at this
    simpa using this
  unfold value
  rw [hb, skipSpaces_cons hc]

theorem skipSpaces_of_value {d : Nat} {b rest : Bytes} {v : Json} (h : value d b = .ok (v, rest)) :
    ∃ c t, skipSpaces b = c :: t ∧ c ≠ 93 ∧ value d (c :: t) = .ok (v, rest) := by
  cases hb : skipSpaces b with
  | nil =>
    unfold value at h
    rw [hb] at h
    cases h
  | cons c t =>
    refine ⟨c, t, rfl, ?_, value_of_skipSpaces hb ▸ h⟩
    rintro rfl
    unfold value at h
    rw [hb] at h
    cases h

/-! ## Scalars -/

theorem value_of_isDigit {c : UInt8} (hc : isDigit c = true) (d : Nat) (b : Bytes) :
    value d (c :: b) = number false (c :: b) := by
  have hne : ∀ other, isDigit other = false → c ≠ other := by
    rintro other hother rfl
    rw [hc] at hother
    cases hother
  have hspace : isSpace c = false := by
    simp [isSpace, hne 32 rfl, hne 10 rfl, hne 9 rfl, hne 13 rfl]
  unfold value
  rw [skipSpaces_cons hspace]
  simp [hne 110 rfl, hne 116 rfl, hne 102 rfl, hne 45 rfl, hc]

theorem value_int {n : Int} (hn : minInteger ≤ n ∧ n ≤ Text.maxWord) (d : Nat) {rest : Bytes}
    (hrest : Ends rest) : value d (ofChars (writeInt n) ++ rest) = .ok (.int n, rest) := by
  cases n with
  | ofNat n =>
    obtain ⟨c, cs, he, -⟩ := toDigits_eq_cons n
    have hc := isDigit_toDigits c (he ▸ List.mem_cons_self)
    have hread := number_toDigits (n := n) (by simpa using hn.2) hrest
    rw [he, ofChars_cons_of_isDigit hc] at hread
    rw [writeInt, he, ofChars_cons_of_isDigit hc, List.cons_append,
      value_of_isDigit (isDigit_of_isDigit hc)]
    exact hread
  | negSucc n =>
    have hread := number_neg_toDigits (n := n) (by simp only [minInteger] at hn; omega) hrest
    rw [writeInt, ofChars_cons]
    unfold value
    exact hread

theorem value_str (s : String) (d : Nat) (rest : Bytes) :
    value d (ofChars (writeText s) ++ rest) = .ok (.str s, rest) := by
  obtain ⟨b, hwritten, hread⟩ := string_writeText s rest
  rw [hwritten]
  unfold value
  show (string b >>= _) = _
  rw [hread]
  rfl

/-! ## Arrays and objects -/

/-- The reader takes what is written of one value for another one, usually for the same. -/
def ReadsAs (item : Reader Json) (v w : Json) : Prop :=
  ∀ rest, Ends rest → item (ofChars (write v) ++ rest) = .ok (w, rest)

theorem ofChars_writeItems_cons (x : Json) (xs : List Json) (rest : Bytes) :
    ofChars (writeItems (x :: xs)) ++ rest =
      44 :: (ofChars (write x) ++ (ofChars (writeItems xs) ++ rest)) := by
  rw [← List.append_assoc, ← ofChars_append, writeItems]
  rfl

theorem ofChars_write_arr (x : Json) (xs : List Json) (rest : Bytes) :
    ofChars (write (arr (x :: xs))) ++ rest =
      91 :: (ofChars (write x) ++ (ofChars (writeItems xs) ++ rest)) := by
  rw [← List.append_assoc, ← ofChars_append, write]
  rfl

theorem ends_writeItems (xs : List Json) (rest : Bytes) :
    Ends (ofChars (writeItems xs) ++ rest) := by
  cases xs with
  | nil => exact ends_cons (Or.inr (Or.inl rfl)) rest
  | cons x xs =>
    rw [ofChars_writeItems_cons]
    exact ends_cons (Or.inl rfl) _

theorem length_lt_writeItems (xs : List Json) (rest : Bytes) :
    xs.length < (ofChars (writeItems xs) ++ rest).length := by
  induction xs with
  | nil => exact Nat.succ_pos _
  | cons x xs ih =>
    rw [ofChars_writeItems_cons, List.length_cons, List.length_cons, List.length_append]
    omega

theorem ofChars_writeMembers_cons (key : String) (x : Json) (m : Members) (rest : Bytes) : ∃ b,
    ofChars (writeMembers ((key, x) :: m)) ++ rest = 44 :: 34 :: b ∧
      ofChars (write (obj ((key, x) :: m))) ++ rest = 123 :: 34 :: b ∧
      string b = .ok (key, 58 :: (ofChars (write x) ++ (ofChars (writeMembers m) ++ rest))) := by
  obtain ⟨b, hwritten, hread⟩ :=
    string_writeText key (58 :: (ofChars (write x) ++ (ofChars (writeMembers m) ++ rest)))
  have hjoin : ofChars (writeText key ++ ':' :: (write x ++ writeMembers m)) ++ rest = 34 :: b := by
    rw [← hwritten, ofChars_append, List.append_assoc, ← List.append_assoc (ofChars (write x)),
      ← ofChars_append]
    rfl
  refine ⟨b, ?_, ?_, hread⟩
  · rw [← hjoin, writeMembers]
    rfl
  · rw [← hjoin, write]
    rfl

theorem ends_writeMembers (m : Members) (rest : Bytes) :
    Ends (ofChars (writeMembers m) ++ rest) := by
  cases m with
  | nil => exact ends_cons (Or.inr (Or.inr rfl)) rest
  | cons entry m => exact ends_cons (Or.inl rfl) _

theorem length_lt_writeMembers (m : Members) (rest : Bytes) :
    m.length < (ofChars (writeMembers m) ++ rest).length := by
  induction m with
  | nil => exact Nat.succ_pos _
  | cons entry m ih =>
    rw [writeMembers, ofChars_cons, ofChars_append, ofChars_cons, ofChars_append]
    simp only [List.length_append, List.length_cons] at ih ⊢
    have hcomma : (String.utf8EncodeChar ',').length = 1 := rfl
    omega

section Steps
variable {d fuel : Nat} {x : Json} {rest : Bytes}

theorem items_first {b : Bytes} (hx : value d b = .ok (x, rest)) :
    items (value d) (fuel + 1) true [] b = items (value d) fuel false [x] rest := by
  obtain ⟨c, t, hskip, hne, hread⟩ := skipSpaces_of_value hx
  conv_lhs => rw [items.eq_def, hskip]
  show (if c = 93 then _ else _) = _
  rw [if_neg hne]
  show (value d (c :: t) >>= _) = _
  rw [hread]
  rfl

theorem items_next {acc : List Json} {b : Bytes} (hx : value d b = .ok (x, rest)) :
    items (value d) (fuel + 1) false acc (44 :: b) =
      items (value d) fuel false (x :: acc) rest := by
  obtain ⟨c, t, hskip, hne, hread⟩ := skipSpaces_of_value hx
  have hcomma : skipSpaces (44 :: b) = 44 :: b := rfl
  conv_lhs => rw [items.eq_def, hcomma]
  simp only [hskip]
  show (if c = 93 then _ else _) = _
  rw [if_neg hne]
  show (value d (c :: t) >>= _) = _
  rw [hread]
  rfl

theorem members_step {first : Bool} {acc : Members} {b t u : Bytes} {key : String}
    (hquote : keyQuote first b = .ok (some (), t)) (hkey : string t = .ok (key, 58 :: u))
    (hx : value d u = .ok (x, rest)) :
    members (value d) (fuel + 1) first acc b =
      members (value d) fuel false ((key, x) :: acc) rest := by
  rw [members]
  simp only [hquote, bind, Except.bind, hkey]
  show (value d u >>= _) = _
  rw [hx]
  rfl

end Steps

variable {d : Nat}

theorem items_writeItems {xs ys : List Json} (h : List.Forall₂ (ReadsAs (value d)) xs ys)
    {fuel : Nat} {acc : List Json} {rest : Bytes} (hfuel : xs.length < fuel) :
    items (value d) fuel false acc (ofChars (writeItems xs) ++ rest) =
      .ok (acc.reverse ++ ys, rest) := by
  induction h generalizing fuel acc with
  | nil =>
    obtain ⟨fuel, rfl⟩ : ∃ k, fuel = k + 1 := ⟨fuel - 1, by omega⟩
    rw [List.append_nil]
    rfl
  | @cons x y xs ys hx _ ih =>
    rw [List.length_cons] at hfuel
    obtain ⟨fuel, rfl⟩ : ∃ k, fuel = k + 1 := ⟨fuel - 1, by omega⟩
    rw [ofChars_writeItems_cons, items_next (hx _ (ends_writeItems xs rest)), ih (by omega),
      List.reverse_cons, List.append_assoc, List.singleton_append]

theorem members_writeMembers {m : Members} (hm : ∀ entry ∈ m, ReadsAs (value d) entry.2 entry.2)
    {fuel : Nat} {acc : Members} {rest : Bytes} (hfuel : m.length < fuel) :
    members (value d) fuel false acc (ofChars (writeMembers m) ++ rest) =
      .ok (acc.reverse ++ m, rest) := by
  induction m generalizing fuel acc with
  | nil =>
    obtain ⟨fuel, rfl⟩ : ∃ k, fuel = k + 1 := ⟨fuel - 1, by omega⟩
    rw [List.append_nil]
    rfl
  | cons entry m ih =>
    obtain ⟨key, x⟩ := entry
    rw [List.length_cons] at hfuel
    obtain ⟨fuel, rfl⟩ : ∃ k, fuel = k + 1 := ⟨fuel - 1, by omega⟩
    obtain ⟨b, hwritten, -, hkey⟩ := ofChars_writeMembers_cons key x m rest
    have hx := hm (key, x) List.mem_cons_self _ (ends_writeMembers m rest)
    rw [hwritten, members_step rfl hkey hx,
      ih (fun other hother => hm other (List.mem_cons_of_mem _ hother)) (by omega)]
    simp

theorem value_arr {xs ys : List Json} (h : List.Forall₂ (ReadsAs (value d)) xs ys) :
    ReadsAs (value (d + 1)) (arr xs) (arr ys) := by
  intro rest _
  cases h with
  | nil =>
    unfold value
    rfl
  | @cons x y xs ys hx hxs =>
    have hlength := length_lt_writeItems xs rest
    rw [ofChars_write_arr]
    unfold value
    show (items (value d) _ true [] _ >>= _) = _
    rw [items_first (hx _ (ends_writeItems xs rest)),
      items_writeItems hxs (by rw [List.length_append]; omega)]
    rfl

theorem value_obj {m : Members} (hm : ∀ entry ∈ m, ReadsAs (value d) entry.2 entry.2) :
    ReadsAs (value (d + 1)) (obj m) (obj (Members.ofList m)) := by
  intro rest _
  cases m with
  | nil =>
    unfold value
    rfl
  | cons entry m =>
    obtain ⟨key, x⟩ := entry
    obtain ⟨b, hnext, hfirst, hkey⟩ := ofChars_writeMembers_cons key x m rest
    have hx := hm (key, x) List.mem_cons_self _ (ends_writeMembers m rest)
    have hlength := length_lt_writeMembers ((key, x) :: m) rest
    simp only [hnext, List.length_cons] at hlength
    rw [hfirst]
    unfold value
    show (members (value d) _ true [] (34 :: b) >>= _) = _
    rw [members_step rfl hkey hx,
      members_writeMembers (fun other hother => hm other (List.mem_cons_of_mem _ hother))
        (by simp only [List.length_cons]; omega)]
    rfl

/-- A plain value is read back wherever as many levels may nest. -/
theorem value_write {d : Nat} {v : Json} (hv : Plain d v) : ReadsAs (value d) v v := by
  -- the induction is on the levels that may nest, since items and members have one less
  induction d using Nat.strongRecOn generalizing v with
  | _ d ih =>
    have hproper := hv.wellFormed
    have hwhole := hv.whole
    have hdepth := hv.depth_le
    cases v with
    | null =>
      intro rest _
      unfold value
      rfl
    | bool b =>
      intro rest _
      cases b <;> (unfold value; rfl)
    | int n =>
      intro rest hrest
      rw [write]
      exact value_int (hproper (int n) (by simp [parts])) d hrest
    | fraction x => exact absurd (hwhole (fraction x) (by simp [parts])) (by simp [isFraction])
    | str s =>
      intro rest _
      rw [write]
      exact value_str s d rest
    | arr xs =>
      obtain ⟨d, rfl⟩ : ∃ k, d = k + 1 := ⟨d - 1, by rw [depth] at hdepth; omega⟩
      exact value_arr (List.forall₂_same.mpr
        fun x hx => ih d (Nat.lt_succ_self d) (plain_arr_iff.mp hv x hx))
    | obj m =>
      obtain ⟨d, rfl⟩ : ∃ k, d = k + 1 := ⟨d - 1, by rw [depth] at hdepth; omega⟩
      obtain ⟨hascending, hm⟩ := plain_obj_iff.mp hv
      have hobj := value_obj fun entry he => ih d (Nat.lt_succ_self d) (hm entry he)
      rwa [Members.ofList_of_ascending hascending] at hobj

/-! ## Whole texts -/

theorem bytes_eq_ofChars (v : Json) : v.bytes = ofChars (write v) := by
  rw [bytes, text, ofText_ofList]

theorem bytes_arr (xs : List Json) :
    (arr xs).bytes = 91 :: ([44].intercalate (xs.map bytes) ++ [93]) := by
  have hitems : ∀ x xs, ofChars (write x) ++ ofChars (writeItems xs) =
      [44].intercalate ((x :: xs).map bytes) ++ [93] := by
    intro x xs
    induction xs generalizing x with
    | nil =>
      rw [List.map_singleton, List.intercalate_singleton, bytes_eq_ofChars]
      rfl
    | cons y ys ih =>
      have hnext := ofChars_writeItems_cons y ys []
      simp only [List.append_nil] at hnext
      simp only [List.map_cons] at ih ⊢
      rw [hnext, ih y, List.intercalate_cons_cons, bytes_eq_ofChars x]
      simp
  cases xs with
  | nil => rfl
  | cons x xs =>
    have hwritten := ofChars_write_arr x xs []
    simp only [List.append_nil] at hwritten
    rw [bytes_eq_ofChars, hwritten, hitems]

theorem parse_of_readsAs {v w : Json} (h : ReadsAs (value maxDepth) v w) :
    parse v.bytes = .ok w := by
  have hread := h [] ends_nil
  rw [List.append_nil] at hread
  unfold parse
  rw [bytes_eq_ofChars, hread]
  rfl

theorem parse_bytes {v : Json} (hv : Plain maxDepth v) : parse v.bytes = .ok v :=
  parse_of_readsAs (value_write hv)

theorem eq_of_text_eq {v w : Json} (hv : v.Exact) (hw : w.Exact) (h : v.text = w.text) : v = w := by
  let limit := max v.depth w.depth
  have hread : ∀ {u : Json}, u.Exact → u.depth ≤ limit →
      value limit (ofText u.text) = .ok (u, []) := by
    intro u hexact hdepth
    have := value_write ⟨hexact, hdepth⟩ [] ends_nil
    rwa [List.append_nil, ← ofText_ofList] at this
  have hv := hread hv (Nat.le_max_left _ _)
  rw [h, hread hw (Nat.le_max_right _ _)] at hv
  exact (Prod.mk.inj (Except.ok.inj hv)).1.symm

end BrokerRpc.Json
