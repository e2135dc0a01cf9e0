import BrokerRpc.Frame.Codec

/-! # The block of lines

The block of lines is cut line by line: each line feed either ends the block, because nothing but
perhaps a carriage return stands before it, or gives one more line. A block is found exactly where
such lines stand. Lines that hold no line break come back as they were written, and a terminator in
any of them breaks the block.
-/
namespace BrokerRpc.Frame

/-- A line of a block as it stands on the wire, without its line feed. -/
structure RawLine (raw : Bytes) : Prop where
  no_lineFeed : lineFeed ∉ raw
  no_terminator : terminator ∉ raw
  not_blank : dropReturn raw ≠ []

/-- What may stand before the line feed that ends a block. -/
def IsBlank (raw : Bytes) : Prop := raw = [] ∨ raw = [carriageReturn]

instance (raw : Bytes) : Decidable (RawLine raw) :=
  decidable_of_iff (lineFeed ∉ raw ∧ terminator ∉ raw ∧ dropReturn raw ≠ [])
    ⟨fun ⟨h₁, h₂, h₃⟩ => ⟨h₁, h₂, h₃⟩, fun ⟨h₁, h₂, h₃⟩ => ⟨h₁, h₂, h₃⟩⟩

instance (raw : Bytes) : Decidable (IsBlank raw) :=
  inferInstanceAs (Decidable (raw = [] ∨ raw = [carriageReturn]))

/-- A line that is read as it is written: not empty and without a line break. -/
structure PlainLine (line : Bytes) : Prop where
  ne_nil : line ≠ []
  no_lineFeed : lineFeed ∉ line
  no_return : carriageReturn ∉ line

def joined (lines : List Bytes) : Bytes := lines.flatMap (· ++ [lineFeed])

theorem joined_cons (line : Bytes) (lines : List Bytes) (rest : Bytes) :
    joined (line :: lines) ++ rest = line ++ lineFeed :: (joined lines ++ rest) := by
  simp [joined]

theorem dropReturn_of_not_mem {line : Bytes} (h : carriageReturn ∉ line) :
    dropReturn line = line := by
  have hl : line.getLast? ≠ some carriageReturn := fun he => h (List.mem_of_getLast? he)
  rw [dropReturn, if_neg hl]

theorem dropReturn_eq_nil_iff {raw : Bytes} : dropReturn raw = [] ↔ IsBlank raw := by
  unfold dropReturn IsBlank
  split
  · rename_i h
    obtain ⟨front, rfl⟩ := List.getLast?_eq_some_iff.mp h
    simp
  · rename_i h
    constructor
    · exact Or.inl
    · rintro (rfl | rfl)
      · rfl
      · exact absurd rfl h

theorem IsBlank.clean {raw : Bytes} (h : IsBlank raw) : lineFeed ∉ raw ∧ terminator ∉ raw := by
  rcases h with rfl | rfl <;> decide

theorem head_of_not_mem {b : Bytes} (h : lineFeed ∉ b) :
    head b = if terminator ∈ b then .broken b else .unfinished := by
  have hc := Bytes.cut?_eq_none_iff.mpr h
  rw [head]
  split
  · rfl
  · rename_i hs
    rw [hc] at hs
    cases hs

theorem head_append {raw : Bytes} (h : lineFeed ∉ raw) (rest : Bytes) :
    head (raw ++ lineFeed :: rest) =
      if terminator ∈ raw then .broken (raw ++ lineFeed :: rest)
      else if dropReturn raw = [] then .block [] rest
      else (head rest).cons (dropReturn raw) := by
  have hc := Bytes.cut?_append rest h
  rw [head]
  split
  · rename_i hs
    rw [hc] at hs
    cases hs
  · rename_i hs
    rw [hc] at hs
    cases hs
    rfl

theorem head_plainLine {line : Bytes} (hp : PlainLine line) (hn : terminator ∉ line)
    (rest : Bytes) : head (line ++ lineFeed :: rest) = (head rest).cons line := by
  rw [head_append hp.no_lineFeed, if_neg hn, dropReturn_of_not_mem hp.no_return,
    if_neg hp.ne_nil]

theorem head_blank {raw : Bytes} (hb : IsBlank raw) (rest : Bytes) :
    head (raw ++ lineFeed :: rest) = .block [] rest := by
  rw [head_append hb.clean.1, if_neg hb.clean.2, if_pos (dropReturn_eq_nil_iff.mpr hb)]

/-- The lines up to a blank one are read without their carriage returns. -/
theorem head_rawLines {raws : List Bytes} {blank : Bytes} (hr : ∀ raw ∈ raws, RawLine raw)
    (hb : IsBlank blank) (body : Bytes) :
    head (joined raws ++ (blank ++ lineFeed :: body)) = .block (raws.map dropReturn) body := by
  induction raws with
  | nil => exact head_blank hb body
  | cons raw raws ih =>
    have hraw := hr raw List.mem_cons_self
    have hrest := ih fun r hmem => hr r (List.mem_cons_of_mem _ hmem)
    rw [joined_cons, head_append hraw.no_lineFeed, if_neg hraw.no_terminator,
      if_neg hraw.not_blank, hrest]
    rfl

/-- A block is found only where its lines stand. -/
theorem exists_rawLines_of_head {b body : Bytes} {lines : List Bytes}
    (h : head b = .block lines body) : ∃ (raws : List Bytes) (blank : Bytes),
      (∀ raw ∈ raws, RawLine raw) ∧ IsBlank blank ∧ lines = raws.map dropReturn ∧
        b = joined raws ++ (blank ++ lineFeed :: body) := by
  fun_induction head b generalizing lines with
  | case1 => cases h
  | case2 => cases h
  | case3 => cases h
  | case4 b raw rest hcut _ hblank =>
    cases h
    exact ⟨[], raw, by simp, dropReturn_eq_nil_iff.mp hblank, rfl, (Bytes.eq_of_cut? hcut).1⟩
  | case5 b raw rest hcut hclean hne ih =>
    obtain ⟨hb, hfeed⟩ := Bytes.eq_of_cut? hcut
    cases hrest : head rest with
    | unfinished => simp [hrest, Head.cons] at h
    | broken bytes => simp [hrest, Head.cons] at h
    | block more rear =>
      rw [hrest] at h
      cases h
      obtain ⟨raws, blank, hraws, hblank, rfl, rfl⟩ := ih hrest
      refine ⟨raw :: raws, blank, ?_, hblank, rfl, ?_⟩
      · intro r hr
        rcases List.mem_cons.mp hr with rfl | hr
        · exact ⟨hfeed, hclean, hne⟩
        · exact hraws r hr
      · rw [hb, joined_cons]

theorem PlainLine.raw {line : Bytes} (hp : PlainLine line) (hn : terminator ∉ line) :
    RawLine line ∧ dropReturn line = line := by
  have he := dropReturn_of_not_mem hp.no_return
  exact ⟨⟨hp.no_lineFeed, hn, by rw [he]; exact hp.ne_nil⟩, he⟩

theorem head_joined {lines : List Bytes} (hp : ∀ line ∈ lines, PlainLine line)
    (hn : ∀ line ∈ lines, terminator ∉ line) (body : Bytes) :
    head (joined lines ++ lineFeed :: body) = .block lines body := by
  have hraw := fun line hl => (hp line hl).raw (hn line hl)
  have hsame : lines.map dropReturn = lines :=
    (List.map_congr_left fun line hl => (hraw line hl).2).trans (List.map_id' lines)
  have h := head_rawLines (fun line hl => (hraw line hl).1) (Or.inl rfl) body
  rwa [hsame] at h

theorem head_joined_broken {lines : List Bytes} (hp : ∀ line ∈ lines, PlainLine line)
    (hn : ∃ line ∈ lines, terminator ∈ line) (body : Bytes) :
    ∃ bytes, head (joined lines ++ body) = .broken bytes := by
  induction lines with
  | nil =>
    obtain ⟨line, hl, _⟩ := hn
    cases hl
  | cons line lines ih =>
    have hline := hp line List.mem_cons_self
    rw [joined_cons]
    by_cases ht : terminator ∈ line
    · exact ⟨_, by rw [head_append hline.no_lineFeed, if_pos ht]⟩
    · have hrest : ∃ l ∈ lines, terminator ∈ l := by
        obtain ⟨l, hl, hlt⟩ := hn
        rcases List.mem_cons.mp hl with rfl | hl
        · exact absurd hlt ht
        · exact ⟨l, hl, hlt⟩
      obtain ⟨bytes, hb⟩ := ih (fun l hl => hp l (List.mem_cons_of_mem _ hl)) hrest
      exact ⟨bytes, by rw [head_plainLine hline ht, hb]; rfl⟩

end BrokerRpc.Frame
