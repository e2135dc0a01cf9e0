import BrokerRpc.Json.Reader
import BrokerRpc.Json.Writer
import BrokerRpc.Proofs.Text.Encoding
import BrokerRpc.Rpc.Request

/-! # Tokens that are written and read

A written number or string is read back, whatever follows it. A number needs what follows to be no
part of a longer one; a string ends with its own quote.
-/
namespace BrokerRpc.Json

open Bytes

/-- What may follow a value inside a text: nothing, a comma or a closing bracket. -/
def Ends (b : Bytes) : Prop := ∀ c ∈ b.head?, c = 44 ∨ c = 93 ∨ c = 125

theorem ends_nil : Ends [] := by simp [Ends]

theorem ends_cons {c : UInt8} (h : c = 44 ∨ c = 93 ∨ c = 125) (b : Bytes) : Ends (c :: b) := by
  simpa [Ends] using h

/-! ## Numbers -/

theorem toNat_of_isDigit {c : Char} (h : c.isDigit) : 48 ≤ c.toNat ∧ c.toNat ≤ 57 := by
  simp only [Char.isDigit, Bool.and_eq_true, decide_eq_true_eq, UInt32.le_iff_toNat_le,
    ge_iff_le] at h
  exact h

theorem toNat_ofNat_of_isDigit {c : Char} (h : c.isDigit) :
    (UInt8.ofNat c.toNat).toNat = c.toNat := by
  have hc := toNat_of_isDigit h
  rw [UInt8.toNat_ofNat']
  omega

theorem ofChars_cons_of_isDigit {c : Char} (h : c.isDigit) (cs : List Char) :
    ofChars (c :: cs) = UInt8.ofNat c.toNat :: ofChars cs := by
  have hc := toNat_of_isDigit h
  rw [ofChars_cons, utf8EncodeChar_of_ascii (by omega)]
  rfl

theorem digit?_of_isDigit {c : Char} (h : c.isDigit) :
    digit? (UInt8.ofNat c.toNat) = some (c.toNat - 48) := by
  have hn := toNat_ofNat_of_isDigit h
  have hrange : 48 ≤ UInt8.ofNat c.toNat ∧ UInt8.ofNat c.toNat ≤ 57 := by
    simp only [UInt8.le_iff_toNat_le, hn]
    exact toNat_of_isDigit h
  rw [digit?, if_pos hrange, hn]

theorem isDigit_of_isDigit {c : Char} (h : c.isDigit) : isDigit (UInt8.ofNat c.toNat) = true := by
  rw [isDigit, digit?_of_isDigit h, Option.isSome_some]

theorem isDigit_eq_false_of_ends {c : UInt8} {b : Bytes} (h : Ends (c :: b)) :
    isDigit c = false := by
  rcases h c rfl with rfl | rfl | rfl <;> decide

theorem digits_ofChars {cs : List Char} (hcs : ∀ c ∈ cs, c.isDigit) {rest : Bytes}
    (hrest : Ends rest) :
    digits (ofChars cs ++ rest) = (cs.map fun c => c.toNat - 48, rest) := by
  induction cs with
  | nil =>
    cases rest with
    | nil => rfl
    | cons c b => simp [digits, isDigit_eq_false_of_ends hrest]
  | cons c cs ih =>
    have hc := hcs c List.mem_cons_self
    have ih := ih fun d hd => hcs d (List.mem_cons_of_mem _ hd)
    simp only [digits, Prod.mk.injEq] at ih
    rw [ofChars_cons_of_isDigit hc]
    simp [digits, isDigit_of_isDigit hc, digit?_of_isDigit hc, ih]

theorem le_ofDigitChars (cs : List Char) (n : Nat) : n ≤ Nat.ofDigitChars 10 cs n := by
  induction cs generalizing n with
  | nil => exact Nat.le_refl n
  | cons c cs ih =>
    rw [Nat.ofDigitChars_cons]
    have := ih (10 * n + (c.toNat - '0'.toNat))
    omega

theorem takeDigits_ofDigitChars {cs : List Char} {n : Nat}
    (h : Nat.ofDigitChars 10 cs n ≤ Text.maxWord) :
    Numeral.takeDigits n (cs.map fun c => c.toNat - 48) = (Nat.ofDigitChars 10 cs n, []) := by
  induction cs generalizing n with
  | nil => rfl
  | cons c cs ih =>
    rw [Nat.ofDigitChars_cons, Nat.mul_comm] at h ⊢
    have hd : n * 10 + (c.toNat - 48) ≤ Text.maxWord := Nat.le_trans (le_ofDigitChars cs _) h
    rw [List.map_cons, Numeral.takeDigits, if_pos hd]
    exact ih h

theorem isDigit_toDigits {n : Nat} : ∀ c ∈ Nat.toDigits 10 n, c.isDigit := fun _ hc =>
  Nat.isDigit_of_mem_toDigits (by omega) (by omega) hc

theorem ofDigitChars_toDigits (n : Nat) : Nat.ofDigitChars 10 (Nat.toDigits 10 n) 0 = n :=
  Nat.ofDigitChars_toDigits (by omega) (by omega)

theorem toDigits_eq_cons (n : Nat) : ∃ c cs, Nat.toDigits 10 n = c :: cs ∧
    (c = '0' → cs = []) := by
  induction n using Nat.strongRecOn with
  | _ n ih =>
    by_cases hn : n < 10
    · exact ⟨_, [], Nat.toDigits_of_lt_base hn, fun _ => rfl⟩
    · obtain ⟨c, cs, he, hc⟩ := ih (n / 10) (by omega)
      have hsplit := Nat.toDigits_of_base_le (b := 10) (by omega) (Nat.le_of_not_lt hn)
      refine ⟨c, cs ++ [Nat.digitChar (n % 10)], by rw [hsplit, he]; rfl, fun h0 => ?_⟩
      -- a single zero in front would make all digits but the last one zero
      have hval := ofDigitChars_toDigits (n / 10)
      rw [he, h0, hc h0] at hval
      have : n / 10 = 0 := hval.symm
      omega

theorem placeDigits_of_ends {b : Bytes} (h : Ends b) : placeDigits b = .ok (none, b) := by
  cases b with
  | nil => rfl
  | cons c b => rcases h c rfl with rfl | rfl | rfl <;> rfl

theorem exponentDigits_of_ends {b : Bytes} (h : Ends b) : exponentDigits b = .ok (none, b) := by
  cases b with
  | nil => rfl
  | cons c b => rcases h c rfl with rfl | rfl | rfl <;> rfl

theorem wholeDigits_toDigits (n : Nat) {rest : Bytes} (hrest : Ends rest) :
    wholeDigits (ofChars (Nat.toDigits 10 n) ++ rest) =
      .ok ((Nat.toDigits 10 n).map fun c => c.toNat - 48, rest) := by
  obtain ⟨c, cs, he, hzero⟩ := toDigits_eq_cons n
  have hall := isDigit_toDigits (n := n)
  rw [he] at hall ⊢
  have hc := hall c List.mem_cons_self
  by_cases h0 : c = '0'
  · subst h0
    rw [hzero rfl]
    cases rest with
    | nil => rfl
    | cons d b =>
      show (if isDigit d then _ else _) = _
      rw [isDigit_eq_false_of_ends hrest]
      rfl
  · have hne : UInt8.ofNat c.toNat ≠ 48 := by
      intro h48
      apply h0
      rw [← Char.toNat_inj, ← toNat_ofNat_of_isDigit hc, h48]
      rfl
    rw [← digits_ofChars hall hrest, ofChars_cons_of_isDigit hc, List.cons_append]
    unfold wholeDigits
    split
    · rename_i he48
      exact absurd (List.cons.inj he48).1 hne
    · rw [someDigits, if_pos (isDigit_of_isDigit hc)]

theorem scanNumeral_toDigits (negative : Bool) (n : Nat) {rest : Bytes} (hrest : Ends rest) :
    scanNumeral negative (ofChars (Nat.toDigits 10 n) ++ rest) =
      .ok (⟨negative, (Nat.toDigits 10 n).map fun c => c.toNat - 48, none, none⟩, rest) := by
  unfold scanNumeral
  rw [wholeDigits_toDigits n hrest]
  show (placeDigits rest >>= _) = _
  rw [placeDigits_of_ends hrest]
  show (exponentDigits rest >>= _) = _
  rw [exponentDigits_of_ends hrest]
  rfl

theorem takeDigits_toDigits {n : Nat} (hn : n ≤ Text.maxWord) :
    Numeral.takeDigits 0 ((Nat.toDigits 10 n).map fun c => c.toNat - 48) = (n, []) := by
  have hread := ofDigitChars_toDigits n
  rw [takeDigits_ofDigitChars (by rwa [hread]), hread]

theorem number_toDigits {n : Nat} (hn : n ≤ Text.maxWord) {rest : Bytes} (hrest : Ends rest) :
    number false (ofChars (Nat.toDigits 10 n) ++ rest) = .ok (.int n, rest) := by
  unfold number
  rw [scanNumeral_toDigits false n hrest]
  show (Numeral.value _ >>= _) = _
  rw [Numeral.value, takeDigits_toDigits hn]
  rfl

theorem number_neg_toDigits {n : Nat} (hn : n < 0x8000000000000000) {rest : Bytes}
    (hrest : Ends rest) :
    number true (ofChars (Nat.toDigits 10 (n + 1)) ++ rest) = .ok (.int (.negSucc n), rest) := by
  have hword : n + 1 ≤ Text.maxWord := by
    rw [Text.maxWord]
    omega
  unfold number
  rw [scanNumeral_toDigits true (n + 1) hrest]
  have hbound : n + 1 ≠ 0 ∧ n + 1 ≤ 0x8000000000000000 := ⟨Nat.succ_ne_zero n, hn⟩
  show (Numeral.value _ >>= _) = _
  simp only [Numeral.value, takeDigits_toDigits hword, Bool.not_true, Bool.false_eq_true, if_false, if_pos hbound]
  rfl

/-! ## Strings -/

def Literal (c : UInt8) : Prop := ¬ c < 32 ∧ c ≠ 34 ∧ c ≠ 92

theorem stringBytes_cons (fuel : Nat) (acc : Bytes) (c : UInt8) (rest : Bytes) :
    stringBytes (fuel + 1) acc (c :: rest) =
      if c = 34 then .ok (acc.reverse, rest)
      else if c = 92 then
        match rest with
        | [] => .error .ended
        | d :: rest =>
          if d = 117 then do
            let (code, rest) ← codeEscape rest
            stringBytes fuel (code.reverse ++ acc) rest
          else
            match escapedByte? d with
            | some e => stringBytes fuel (e :: acc) rest
            | none => .error .malformed
      else if c < 32 then .error .malformed
      else stringBytes fuel (c :: acc) rest := rfl

theorem stringBytes_literals {bs : Bytes} (hbs : ∀ c ∈ bs, Literal c) (acc : Bytes) {fuel : Nat}
    {rest : Bytes} (hfuel : (bs ++ rest).length ≤ fuel) : ∃ left, rest.length ≤ left ∧
      stringBytes fuel acc (bs ++ rest) = stringBytes left (bs.reverse ++ acc) rest := by
  induction bs generalizing fuel acc with
  | nil => exact ⟨fuel, hfuel, rfl⟩
  | cons c bs ih =>
    obtain ⟨hlow, hquote, hslash⟩ := hbs c List.mem_cons_self
    rw [List.cons_append, List.length_cons] at hfuel
    obtain ⟨fuel, rfl⟩ : ∃ k, fuel = k + 1 := ⟨fuel - 1, by omega⟩
    have hlength : (bs ++ rest).length ≤ fuel := by omega
    obtain ⟨left, hleft, hstep⟩ :=
      ih (fun d hd => hbs d (List.mem_cons_of_mem _ hd)) (c :: acc) hlength
    refine ⟨left, hleft, ?_⟩
    rw [List.cons_append, stringBytes_cons, if_neg hquote, if_neg hslash, if_neg hlow, hstep,
      List.reverse_cons, List.append_assoc, List.singleton_append]

theorem stringBytes_letter {d e : UInt8} (hd : escapedByte? d = some e) (hu : d ≠ 117)
    (fuel : Nat) (acc rest : Bytes) :
    stringBytes (fuel + 1) acc (92 :: d :: rest) = stringBytes fuel (e :: acc) rest := by
  simp [stringBytes_cons, hd, hu]

theorem hexValue?_hexDigit {n : Nat} (h : n < 16) :
    ∃ b, ofChars [hexDigit n] = [b] ∧ hexValue? b = some n := by
  have hall : ∀ n : Fin 16, ofChars [hexDigit n] = [UInt8.ofNat (hexDigit n).toNat] ∧
      hexValue? (UInt8.ofNat (hexDigit n).toNat) = some n.val := by decide
  exact ⟨_, hall ⟨n, h⟩⟩

theorem ofChars_code {n : Nat} (hn : n < 32) : ∃ high low,
    ofChars ['\\', 'u', '0', '0', hexDigit (n / 16), hexDigit (n % 16)] =
      [92, 117, 48, 48, high, low] ∧
    hexValue? high = some (n / 16) ∧ hexValue? low = some (n % 16) := by
  obtain ⟨high, hhigh, hv⟩ := hexValue?_hexDigit (n := n / 16) (by omega)
  obtain ⟨low, hlow, hw⟩ := hexValue?_hexDigit (n := n % 16) (by omega)
  refine ⟨high, low, ?_, hv, hw⟩
  calc ofChars (['\\', 'u', '0', '0'] ++ ([hexDigit (n / 16)] ++ [hexDigit (n % 16)]))
      = ofChars ['\\', 'u', '0', '0'] ++
          (ofChars [hexDigit (n / 16)] ++ ofChars [hexDigit (n % 16)]) := by
        rw [ofChars_append, ofChars_append]
    _ = [92, 117, 48, 48, high, low] := by rw [hhigh, hlow]; rfl

theorem codeEscape_of_lt {n : Nat} (hn : n < 32) {high low : UInt8}
    (hhigh : hexValue? high = some (n / 16)) (hlow : hexValue? low = some (n % 16)) (rest : Bytes) :
    codeEscape (48 :: 48 :: high :: low :: rest) = .ok (codeBytes n, rest) := by
  have hfour : hexFour (48 :: 48 :: high :: low :: rest) = .ok (n, rest) := by
    have hzero : hexValue? 48 = some 0 := by decide
    have hsum : ((0 * 16 + 0) * 16 + n / 16) * 16 + n % 16 = n := by omega
    simp only [hexFour, hzero, hhigh, hlow, hsum]
  unfold codeEscape
  rw [hfour]
  show (if 0xDC00 ≤ n ∧ n ≤ 0xDFFF then _ else _) = _
  rw [if_neg (by omega)]
  show (if n < 0xD800 ∨ 0xDBFF < n then _ else _) = _
  rw [if_pos (by omega)]
  rfl

theorem stringBytes_code {n : Nat} (hn : n < 32) {high low : UInt8}
    (hhigh : hexValue? high = some (n / 16)) (hlow : hexValue? low = some (n % 16))
    (fuel : Nat) (acc rest : Bytes) :
    stringBytes (fuel + 1) acc (92 :: 117 :: 48 :: 48 :: high :: low :: rest) =
      stringBytes fuel ((codeBytes n).reverse ++ acc) rest := by
  rw [stringBytes_cons]
  show (codeEscape (48 :: 48 :: high :: low :: rest) >>= _) = _
  rw [codeEscape_of_lt hn hhigh hlow]
  rfl

theorem literal_of_mem_utf8EncodeChar {c : Char} (hquote : c ≠ '"') (hslash : c ≠ '\\')
    (hcontrol : ¬ c.toNat < 0x20) {b : UInt8} (hb : b ∈ String.utf8EncodeChar c) : Literal b := by
  -- a byte that is no literal would be the character itself
  have hself : b.toNat < 0x80 → c.toNat = b.toNat := fun h => (mem_utf8EncodeChar_iff h c).mp hb
  refine ⟨fun hlt => ?_, fun h => ?_, fun h => ?_⟩
  · have hlt : b.toNat < 32 := UInt8.lt_iff_toNat_lt.mp hlt
    have := hself (by omega)
    omega
  · subst h
    exact hquote (Char.toNat_inj.mp (hself (by decide)))
  · subst h
    exact hslash (Char.toNat_inj.mp (hself (by decide)))

theorem stringBytes_escapeChar (c : Char) (acc : Bytes) {fuel : Nat} {rest : Bytes}
    (hfuel : (ofChars (escapeChar c) ++ rest).length ≤ fuel) : ∃ left, rest.length ≤ left ∧
      stringBytes fuel acc (ofChars (escapeChar c) ++ rest) =
        stringBytes left ((String.utf8EncodeChar c).reverse ++ acc) rest := by
  have hletter : ∀ d e : UInt8, ofChars (escapeChar c) = [92, d] → escapedByte? d = some e →
      d ≠ 117 → String.utf8EncodeChar c = [e] → ∃ left, rest.length ≤ left ∧
        stringBytes fuel acc (ofChars (escapeChar c) ++ rest) =
          stringBytes left ((String.utf8EncodeChar c).reverse ++ acc) rest := by
    intro d e hbytes hd hu he
    rw [hbytes] at hfuel ⊢
    simp only [List.cons_append, List.nil_append, List.length_cons] at hfuel
    obtain ⟨fuel, rfl⟩ : ∃ k, fuel = k + 1 := ⟨fuel - 1, by omega⟩
    exact ⟨fuel, by omega, by rw [he]; exact stringBytes_letter hd hu fuel acc rest⟩
  by_cases h34 : c = '"'
  · subst h34
    exact hletter 34 34 rfl rfl (by decide) rfl
  by_cases h92 : c = '\\'
  · subst h92
    exact hletter 92 92 rfl rfl (by decide) rfl
  by_cases h8 : c = '\x08'
  · subst h8
    exact hletter 98 8 rfl rfl (by decide) rfl
  by_cases h9 : c = '\t'
  · subst h9
    exact hletter 116 9 rfl rfl (by decide) rfl
  by_cases h10 : c = '\n'
  · subst h10
    exact hletter 110 10 rfl rfl (by decide) rfl
  by_cases h12 : c = '\x0c'
  · subst h12
    exact hletter 102 12 rfl rfl (by decide) rfl
  by_cases h13 : c = '\r'
  · subst h13
    exact hletter 114 13 rfl rfl (by decide) rfl
  simp only [escapeChar, h34, h92, h8, h9, h10, h12, h13, if_false] at hfuel ⊢
  by_cases hcontrol : c.toNat < 0x20
  · rw [if_pos hcontrol] at hfuel ⊢
    obtain ⟨high, low, hbytes, hhigh, hlow⟩ := ofChars_code hcontrol
    rw [hbytes] at hfuel ⊢
    simp only [List.cons_append, List.nil_append, List.length_cons] at hfuel
    obtain ⟨fuel, rfl⟩ : ∃ k, fuel = k + 1 := ⟨fuel - 1, by omega⟩
    refine ⟨fuel, by omega, ?_⟩
    have hcode : codeBytes c.toNat = String.utf8EncodeChar c := by
      rw [codeBytes, Char.ofNat_toNat]
    rw [← hcode]
    exact stringBytes_code hcontrol hhigh hlow fuel acc rest
  · rw [if_neg hcontrol] at hfuel ⊢
    have hone : ofChars [c] = String.utf8EncodeChar c := by simp [ofChars]
    rw [hone] at hfuel ⊢
    exact stringBytes_literals
      (fun b hb => literal_of_mem_utf8EncodeChar h34 h92 hcontrol hb) acc hfuel

theorem stringBytes_escaped (cs : List Char) {fuel : Nat} {acc rest : Bytes}
    (hfuel : (ofChars (cs.flatMap escapeChar) ++ 34 :: rest).length ≤ fuel) :
    stringBytes fuel acc (ofChars (cs.flatMap escapeChar) ++ 34 :: rest) =
      .ok (acc.reverse ++ ofChars cs, rest) := by
  induction cs generalizing fuel acc with
  | nil =>
    obtain ⟨fuel, rfl⟩ : ∃ k, fuel = k + 1 := ⟨fuel - 1, by simp at hfuel; omega⟩
    simp [stringBytes_cons]
  | cons c cs ih =>
    rw [List.flatMap_cons, ofChars_append, List.append_assoc] at hfuel ⊢
    obtain ⟨left, hleft, hstep⟩ := stringBytes_escapeChar c acc hfuel
    rw [hstep, ih hleft, ofChars_cons]
    simp

/-- A written string is read back behind its opening quote. -/
theorem string_writeText (s : String) (rest : Bytes) : ∃ b,
    ofChars (writeText s) ++ rest = 34 :: b ∧ string b = .ok (s, rest) := by
  have hwritten : ofChars (writeText s) ++ rest =
      34 :: (ofChars (s.toList.flatMap escapeChar) ++ 34 :: rest) := by
    rw [writeText, ofChars_cons, ofChars_append]
    simp only [List.append_assoc]
    rfl
  have hcontent : Bytes.toText? (ofChars s.toList) = some s := by
    rw [Bytes.toText?_eq_some_iff, ofText_eq_flatMap, ofChars]
  refine ⟨_, hwritten, ?_⟩
  unfold string
  rw [stringBytes_escaped s.toList (Nat.le_refl _)]
  simp only [bind, Except.bind, List.reverse_nil, List.nil_append, hcontent]
  rfl

end BrokerRpc.Json
