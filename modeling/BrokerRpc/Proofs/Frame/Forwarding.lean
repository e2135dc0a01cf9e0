import BrokerRpc.Proofs.Frame.Extension
import BrokerRpc.Proofs.Frame.RoundTrip

/-! # What is read can be written again

Reading accepts spellings that writing never produces: carriage returns before line feeds, the
second name of a command, escapes that were not needed, lengths with signs and blanks around them.
Whatever the spelling, the message that is read fits the wire, so that its own encoding is read as
the same message.
-/
namespace BrokerRpc

namespace HeaderText

theorem Escaped.clean {written text : List Char} (h : Escaped written text)
    (hw : '\x00' ∉ written) : '\x00' ∉ text := by
  induction h with
  | nil => exact hw
  | plain _ _ ih =>
    rw [List.mem_cons, not_or] at hw ⊢
    exact ⟨hw.1, ih hw.2⟩
  | backslash _ ih | lineFeed _ ih | carriageReturn _ ih | colon _ ih =>
    simp only [List.mem_cons, not_or] at hw ⊢
    exact ⟨by decide, ih hw.2.2⟩

end HeaderText

namespace Frame

theorem RawLine.clean {raw : Bytes} (h : RawLine raw) : terminator ∉ dropReturn raw := by
  unfold dropReturn
  split
  · exact fun hmem => h.no_terminator (List.dropLast_subset raw hmem)
  · exact h.no_terminator

theorem HeaderLine.fitsLine {line : Bytes} {entry : String × String} (h : HeaderLine line entry)
    (hclean : terminator ∉ line) : FitsLine entry := by
  obtain ⟨name, value, rfl, _, hname, hne, hvalue⟩ := h
  rw [Bytes.mem_ofText_iff (by decide), String.toList_ofList] at hclean
  have hnul : '\x00' ∉ name ++ ':' :: value := hclean
  rw [List.mem_append, List.mem_cons, not_or, not_or] at hnul
  exact ⟨hne, hname.clean hnul.1, hvalue.clean hnul.2.2⟩

theorem fitsLine_of_forall₂ {lines : List Bytes} {headers : Headers}
    (h : List.Forall₂ HeaderLine lines headers) (hclean : ∀ line ∈ lines, terminator ∉ line) :
    ∀ entry ∈ headers, FitsLine entry := by
  induction h with
  | nil => exact fun _ he => absurd he List.not_mem_nil
  | @cons line entry lines headers hline _ ih =>
    intro other hmem
    rcases List.mem_cons.mp hmem with rfl | hmem
    · exact hline.fitsLine (hclean line List.mem_cons_self)
    · exact ih (fun l hl => hclean l (List.mem_cons_of_mem _ hl)) other hmem

theorem Layout.Spells.encodable {l : Layout} {m : Message} (h : l.Spells m) (hl : l.WellFormed) :
    m.Encodable := by
  have hne : m.isHeartbeat = false := by simp [Message.isHeartbeat, h.ne_heartbeat]
  have hclean : ∀ line ∈ l.headers.map dropReturn, terminator ∉ line := by
    intro line hmem
    obtain ⟨raw, hraw, rfl⟩ := List.mem_map.mp hmem
    exact (hl.lines raw (List.mem_cons_of_mem _ hraw)).clean
  rw [Message.Encodable, hne, if_neg Bool.false_ne_true]
  refine ⟨fitsLine_of_forall₂ h.headers hclean, ?_⟩
  rw [delimits_iff_endsAt, h.content]
  exact (Layout.spells_iff.mp h).2.2.2

theorem heartbeat_or_spells_of_decode {b : Bytes} {m : Message} {n : Nat}
    (h : decode b = .ok (some (m, n))) :
    m = Message.heartbeat ∨ ∃ l : Layout, l.WellFormed ∧ l.Spells m := by
  rcases decode_cases b with hnone | ⟨raw, rest, hraw, rfl⟩ | hframe
  · rw [hnone] at h
    cases h
  · rw [decode_blank hraw] at h
    cases h
    exact Or.inl rfl
  · have hself := hframe []
    rw [List.append_nil, h, decodeFrame] at hself
    cases hhead : head b with
    | unfinished => simp [hhead] at hself
    | broken bytes => simp [hhead, reject] at hself
    | block lines body =>
      cases lines with
      | nil => simp [hhead, reject] at hself
      | cons first lines =>
        simp only [hhead] at hself
        obtain ⟨hcommand, hheaders, rest, _, hends, _⟩ := decodeBlock_eq_ok_iff.mp hself.symm
        obtain ⟨l, hl, rfl, rfl, hbody, _⟩ := exists_layout_of_head hhead m.content
        exact Or.inr ⟨l, hl, Layout.spells_iff.mpr
          ⟨hcommand, hheaders, hbody.symm, hbody.symm ▸ hends⟩⟩

/-- Whatever is read is read again, whatever follows it, from its own encoding. Its header names are
not empty and all different, a declared length is that of the content, and a content without one
holds no terminator. -/
theorem decode_encode_of_decode {b : Bytes} {m : Message} {n : Nat}
    (h : decode b = .ok (some (m, n))) :
    (∀ rest, decode (encode m ++ rest) = .ok (some (m, (encode m).length))) ∧
    (∀ entry ∈ m.headers, entry.1 ≠ "") ∧ m.headers.Distinct ∧
    (∀ value, m.field? .contentLength = some value → Text.Denotes value m.content.length) ∧
    (m.field? .contentLength = none → terminator ∉ m.content) := by
  rcases heartbeat_or_spells_of_decode h with rfl | ⟨l, hl, hs⟩
  · refine ⟨fun rest => decode_heartbeat rest, ?_, List.nodup_nil, ?_, fun _ => List.not_mem_nil⟩
    · exact fun entry he => absurd he List.not_mem_nil
    · exact fun value hv => by cases hv
  · have hencodable := hs.encodable hl
    rw [Message.Encodable, if_neg (by simp [Message.isHeartbeat, hs.ne_heartbeat])] at hencodable
    refine ⟨(decode_encode_frame_iff hs.ne_heartbeat hs.distinct · |>.mpr hencodable),
      fun entry he => (hencodable.1 entry he).named, hs.distinct, fun value hv => ?_, ?_⟩
    · rw [hs.content]
      exact (hs.declared value hv).1
    · rw [hs.content]
      exact hs.undeclared

/-- A frame in spellings that are never written: the second name of a command, carriage returns, a
signed and padded length, a raw colon and a raw carriage return in a value. -/
def looseFrame : Bytes :=
  Bytes.ofText "STOMP\r\ncontent-length: +03 \r\nx:a:b\rc\r\n\r\nab" ++ [0, 0, 10]

/-- What the frame spells. Its content ends in a terminator. -/
def looseMessage : Message :=
  ⟨.connect, [("content-length", " +03 "), ("x", "a:b\rc")], [97, 98, 0]⟩

/-- The encoding differs from what was read, and is read as the same message. -/
theorem decode_encode_of_decode_loose :
    decode looseFrame = .ok (some (looseMessage, 44)) ∧
      encode looseMessage ≠ looseFrame.take 44 ∧
      decode (encode looseMessage ++ [10]) =
        .ok (some (looseMessage, (encode looseMessage).length)) ∧
      Text.Denotes " +03 " looseMessage.content.length := by
  have hread : decode looseFrame = .ok (some (looseMessage, 44)) := by
    decide +kernel
  have hother : encode looseMessage ≠ looseFrame.take 44 := by decide +kernel
  have hvalue : looseMessage.field? .contentLength = some " +03 " := by decide
  obtain ⟨hagain, _, _, hdeclared, _⟩ := decode_encode_of_decode hread
  exact ⟨hread, hother, hagain [10], hdeclared " +03 " hvalue⟩

end Frame
end BrokerRpc
