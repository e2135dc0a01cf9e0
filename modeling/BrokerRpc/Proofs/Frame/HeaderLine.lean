import BrokerRpc.Frame.Codec
import BrokerRpc.Proofs.Text.Encoding

/-! # Header lines survive the wire

A written header line holds neither a line feed nor a carriage return, and no terminator unless the
header's own text has one. The first colon of the line is the one between name and value, so that
reading the line gives the header back.
-/
namespace BrokerRpc

namespace HeaderText

theorem mem_escapeChar_iff {d : Char} (hd : d ≠ '\\' ∧ d ≠ 'n' ∧ d ≠ 'r' ∧ d ≠ 'c') (c : Char) :
    d ∈ escapeChar c ↔ d = c ∧ d ≠ '\n' ∧ d ≠ '\r' ∧ d ≠ ':' := by
  unfold escapeChar
  by_cases h₁ : c = '\\'
  · subst h₁; simp [hd]
  by_cases h₂ : c = '\n'
  · subst h₂; simp +contextual [hd]
  by_cases h₃ : c = '\r'
  · subst h₃; simp +contextual [hd]
  by_cases h₄ : c = ':'
  · subst h₄; simp +contextual [hd]
  · simp only [h₁, h₂, h₃, h₄, if_false, List.mem_singleton]
    constructor
    · rintro rfl
      exact ⟨rfl, h₂, h₃, h₄⟩
    · exact And.left

theorem mem_escape_iff {d : Char} (hd : d ≠ '\\' ∧ d ≠ 'n' ∧ d ≠ 'r' ∧ d ≠ 'c') (s : String) :
    d ∈ (escape s).toList ↔ d ∈ s.toList ∧ d ≠ '\n' ∧ d ≠ '\r' ∧ d ≠ ':' := by
  simp only [escape, String.toList_ofList, escapeChars, List.mem_flatMap, mem_escapeChar_iff hd]
  constructor
  · rintro ⟨c, hc, rfl, hne⟩
    exact ⟨hc, hne⟩
  · rintro ⟨hc, hne⟩
    exact ⟨d, hc, rfl, hne⟩

theorem not_mem_escape {d : Char} (hd : d = '\n' ∨ d = '\r' ∨ d = ':') (s : String) :
    d ∉ (escape s).toList := by
  have hl : d ≠ '\\' ∧ d ≠ 'n' ∧ d ≠ 'r' ∧ d ≠ 'c' := by
    rcases hd with rfl | rfl | rfl <;> decide
  rw [mem_escape_iff hl]
  rintro ⟨_, hn, hr, hc⟩
  rcases hd with h | h | h
  · exact hn h
  · exact hr h
  · exact hc h

end HeaderText

namespace Frame

def headerText (entry : String × String) : String :=
  HeaderText.escape entry.1 ++ ":" ++ HeaderText.escape entry.2

def headerBytes (entry : String × String) : Bytes := Bytes.ofText (headerText entry)

theorem headerLine_eq (entry : String × String) :
    headerLine entry = headerBytes entry ++ [lineFeed] := by
  have hc : Bytes.ofText ":" = [colon] := by
    rw [Bytes.ofText_eq_flatMap]
    rfl
  simp only [headerLine, headerBytes, headerText, Bytes.ofText_append, hc, List.append_assoc,
    List.cons_append, List.nil_append]

theorem toList_headerText (entry : String × String) : (headerText entry).toList =
    (HeaderText.escape entry.1).toList ++ ':' :: (HeaderText.escape entry.2).toList := by
  simp [headerText, String.toList_append]

theorem not_mem_headerText {d : Char} (hd : d = '\n' ∨ d = '\r') (entry : String × String) :
    d ∉ (headerText entry).toList := by
  have hne : d ≠ ':' := by rcases hd with rfl | rfl <;> decide
  have he := fun s => HeaderText.not_mem_escape (hd.imp_right Or.inl) s
  simp [toList_headerText, he, hne]

theorem nul_mem_headerText_iff (entry : String × String) :
    '\x00' ∈ (headerText entry).toList ↔ '\x00' ∈ entry.1.toList ∨ '\x00' ∈ entry.2.toList := by
  have hd : '\x00' ≠ '\\' ∧ '\x00' ≠ 'n' ∧ '\x00' ≠ 'r' ∧ '\x00' ≠ 'c' := by decide
  simp [toList_headerText, HeaderText.mem_escape_iff hd]

theorem lineFeed_not_mem_headerBytes (entry : String × String) : lineFeed ∉ headerBytes entry := by
  rw [headerBytes, Bytes.mem_ofText_iff (by decide)]
  exact not_mem_headerText (Or.inl rfl) entry

theorem carriageReturn_not_mem_headerBytes (entry : String × String) :
    carriageReturn ∉ headerBytes entry := by
  rw [headerBytes, Bytes.mem_ofText_iff (by decide)]
  exact not_mem_headerText (Or.inr rfl) entry

theorem terminator_mem_headerBytes_iff (entry : String × String) :
    terminator ∈ headerBytes entry ↔ '\x00' ∈ entry.1.toList ∨ '\x00' ∈ entry.2.toList := by
  rw [headerBytes, Bytes.mem_ofText_iff (by decide)]
  exact nul_mem_headerText_iff entry

theorem headerBytes_ne_nil (entry : String × String) : headerBytes entry ≠ [] := by
  intro h
  have hc : colon ∈ headerBytes entry := by
    rw [headerBytes, Bytes.mem_ofText_iff (by decide), toList_headerText]
    exact List.mem_append_right _ List.mem_cons_self
  rw [h] at hc
  exact List.not_mem_nil hc

/-- Reading a written header gives the header back, and refuses it only for an empty name. -/
theorem readHeader_headerBytes (entry : String × String) :
    readHeader (headerBytes entry) = if entry.1 = "" then .error .emptyName else .ok entry := by
  have hn : ∀ c ∈ (HeaderText.escape entry.1).toList, (c != ':') = true := by
    intro c hc
    rw [bne_iff_ne]
    rintro rfl
    exact HeaderText.not_mem_escape (Or.inr (Or.inr rfl)) _ hc
  have ht : ((HeaderText.escape entry.1).toList ++ ':' ::
      (HeaderText.escape entry.2).toList).takeWhile (· != ':') =
      (HeaderText.escape entry.1).toList := by
    rw [List.takeWhile_append_of_pos hn, List.takeWhile_cons_of_neg (by decide), List.append_nil]
  have hd : ((HeaderText.escape entry.1).toList ++ ':' ::
      (HeaderText.escape entry.2).toList).dropWhile (· != ':') =
      ':' :: (HeaderText.escape entry.2).toList := by
    rw [List.dropWhile_append_of_pos hn, List.dropWhile_cons_of_neg (by decide)]
  rw [readHeader, headerBytes, Bytes.toText?_ofText]
  simp only [toList_headerText, hd, ht, HeaderText.unescape_escape, bind, Except.bind, pure,
    Except.pure]
  split <;> rfl

end Frame
end BrokerRpc
