import BrokerRpc.Proofs.Frame.Lines
import BrokerRpc.Proofs.Frame.Reading
import BrokerRpc.Proofs.Text.Numeral
import Mathlib.Data.List.Forall2

/-! # The grammar of frames

A frame is told by the parts that stand on the wire: a command line, header lines, a blank line and
a body in front of a terminator. Reading finds a message exactly where such a frame stands at the
front of the buffer, and the message is what the parts spell.
-/
namespace BrokerRpc

namespace HeaderText

/-- A text as it is written: an escape stands for one character, and any character but the
backslash stands for itself. -/
inductive Escaped : List Char → List Char → Prop
  | nil : Escaped [] []
  | plain {c : Char} {written text : List Char} (hc : c ≠ '\\') (h : Escaped written text) :
      Escaped (c :: written) (c :: text)
  | backslash {written text : List Char} (h : Escaped written text) :
      Escaped ('\\' :: '\\' :: written) ('\\' :: text)
  | lineFeed {written text : List Char} (h : Escaped written text) :
      Escaped ('\\' :: 'n' :: written) ('\n' :: text)
  | carriageReturn {written text : List Char} (h : Escaped written text) :
      Escaped ('\\' :: 'r' :: written) ('\r' :: text)
  | colon {written text : List Char} (h : Escaped written text) :
      Escaped ('\\' :: 'c' :: written) (':' :: text)

theorem unescapeLetter?_eq_some_iff {letter c : Char} : unescapeLetter? letter = some c ↔
    (letter = '\\' ∧ c = '\\') ∨ (letter = 'n' ∧ c = '\n') ∨ (letter = 'r' ∧ c = '\r') ∨
      (letter = 'c' ∧ c = ':') := by
  unfold unescapeLetter?
  by_cases h₁ : letter = '\\'
  · subst h₁; simp [eq_comm]
  by_cases h₂ : letter = 'n'
  · subst h₂; simp [eq_comm]
  by_cases h₃ : letter = 'r'
  · subst h₃; simp [eq_comm]
  by_cases h₄ : letter = 'c'
  · subst h₄; simp [eq_comm]
  · simp [h₁, h₂, h₃, h₄]

theorem map_cons_eq_ok_iff {r : Except Malformed (List Char)} {c : Char} {text : List Char} :
    r.map (c :: ·) = .ok text ↔ ∃ more, r = .ok more ∧ text = c :: more := by
  cases r <;> simp [Except.map, eq_comm]

theorem unescapeChars_eq_ok_iff {written text : List Char} :
    unescapeChars written = .ok text ↔ Escaped written text := by
  constructor
  · intro h
    fun_induction unescapeChars written generalizing text with
    | case1 =>
      cases h
      exact .nil
    | case2 => cases h
    | case3 letter rest c hletter ih =>
      obtain ⟨more, hmore, rfl⟩ := map_cons_eq_ok_iff.mp h
      have htail := ih hmore
      rcases unescapeLetter?_eq_some_iff.mp hletter with
        ⟨rfl, rfl⟩ | ⟨rfl, rfl⟩ | ⟨rfl, rfl⟩ | ⟨rfl, rfl⟩
      · exact .backslash htail
      · exact .lineFeed htail
      · exact .carriageReturn htail
      · exact .colon htail
    | case4 => cases h
    | case5 c rest hend hlone ih =>
      obtain ⟨more, hmore, rfl⟩ := map_cons_eq_ok_iff.mp h
      refine .plain ?_ (ih hmore)
      rintro rfl
      cases rest with
      | nil => exact hend rfl rfl
      | cons letter rest => exact hlone letter rest rfl rfl
  · intro h
    have hplain : ∀ {c : Char} (rest : List Char), c ≠ '\\' →
        unescapeChars (c :: rest) = (unescapeChars rest).map (c :: ·) := by
      intro c rest hc
      rw [unescapeChars]
      · intro he
        exact absurd he hc
      · intro _ _ he
        exact absurd he hc
    induction h with
    | nil => rfl
    | plain hc _ ih => rw [hplain _ hc, ih]; rfl
    | _ _ ih => simp [unescapeChars, unescapeLetter?, ih, Except.map]

theorem unescape_eq_ok_iff {written : List Char} {s : String} :
    unescape written = .ok s ↔ Escaped written s.toList := by
  rw [unescape, ← unescapeChars_eq_ok_iff]
  cases unescapeChars written with
  | error reason => simp [Except.map]
  | ok text => simp [Except.map, String.ext_iff]

end HeaderText

namespace Frame

/-! ## Header lines -/

/-- A line that spells a header: a text that its first colon parts into an escaped name, which is
not empty, and an escaped value. -/
def HeaderLine (line : Bytes) (entry : String × String) : Prop :=
  ∃ name value : List Char, line = Bytes.ofText (String.ofList (name ++ ':' :: value)) ∧
    ':' ∉ name ∧ HeaderText.Escaped name entry.1.toList ∧ entry.1 ≠ "" ∧
    HeaderText.Escaped value entry.2.toList

theorem readHeader_ofText {name value : List Char} (hn : ':' ∉ name) :
    readHeader (Bytes.ofText (String.ofList (name ++ ':' :: value))) = (do
      let key ← HeaderText.unescape name
      if key = "" then throw .emptyName
      let text ← HeaderText.unescape value
      return (key, text)) := by
  have hfront : ∀ c ∈ name, (c != ':') = true := by
    intro c hc
    rw [bne_iff_ne]
    rintro rfl
    exact hn hc
  have ht : (name ++ ':' :: value).takeWhile (· != ':') = name := by
    rw [List.takeWhile_append_of_pos hfront, List.takeWhile_cons_of_neg (by decide),
      List.append_nil]
  have hd : (name ++ ':' :: value).dropWhile (· != ':') = ':' :: value := by
    rw [List.dropWhile_append_of_pos hfront, List.dropWhile_cons_of_neg (by decide)]
  rw [readHeader, Bytes.toText?_ofText]
  simp only [String.toList_ofList, hd, ht]

theorem exists_colon_of_readHeader {line : Bytes} {entry : String × String}
    (h : readHeader line = .ok entry) : ∃ name value : List Char,
      line = Bytes.ofText (String.ofList (name ++ ':' :: value)) ∧ ':' ∉ name := by
  unfold readHeader at h
  cases ht : Bytes.toText? line with
  | none => simp [ht] at h
  | some text =>
    cases hd : text.toList.dropWhile (· != ':') with
    | nil => simp [ht, hd] at h
    | cons c value =>
      have hc : c = ':' := by
        have hhead := List.head?_dropWhile_not (· != ':') text.toList
        simpa [hd] using hhead
      have hjoin := List.takeWhile_append_dropWhile (p := (· != ':')) (l := text.toList)
      subst hc
      refine ⟨text.toList.takeWhile (· != ':'), value, ?_, ?_⟩
      · rw [← hd, hjoin, String.ofList_toList]
        exact Bytes.eq_ofText_of_toText? ht
      · intro hmem
        simpa using List.mem_takeWhile_imp hmem

theorem readHeader_eq_ok_iff {line : Bytes} {entry : String × String} :
    readHeader line = .ok entry ↔ HeaderLine line entry := by
  constructor
  · intro h
    obtain ⟨name, value, rfl, hn⟩ := exists_colon_of_readHeader h
    rw [readHeader_ofText hn] at h
    cases hkey : HeaderText.unescape name with
    | error reason => simp [hkey, bind, Except.bind] at h
    | ok key =>
      by_cases hne : key = ""
      · simp [hkey, hne, bind, Except.bind, throw, throwThe, MonadExceptOf.throw] at h
      · cases hval : HeaderText.unescape value with
        | error reason => simp [hkey, hne, hval, bind, Except.bind] at h
        | ok text =>
          simp only [hkey, hne, hval, bind, Except.bind, pure, Except.pure, if_false] at h
          cases h
          exact ⟨name, value, rfl, hn, HeaderText.unescape_eq_ok_iff.mp hkey, hne,
            HeaderText.unescape_eq_ok_iff.mp hval⟩
  · rintro ⟨name, value, rfl, hn, hkey, hne, hval⟩
    rw [readHeader_ofText hn, HeaderText.unescape_eq_ok_iff.mpr hkey,
      HeaderText.unescape_eq_ok_iff.mpr hval]
    simp only [bind, Except.bind, pure, Except.pure, if_neg hne]

theorem map_readHeader_eq_iff {lines : List Bytes} {headers : Headers} :
    lines.map readHeader = headers.map .ok ↔ List.Forall₂ HeaderLine lines headers := by
  induction lines generalizing headers with
  | nil => cases headers <;> simp
  | cons line lines ih =>
    cases headers with
    | nil => simp
    | cons entry headers => simp [ih, readHeader_eq_ok_iff]

/-! ## Whole frames -/

/-- The parts of a frame as they stand on the wire, each line without its line feed. -/
structure Layout where
  command : Bytes
  headers : List Bytes
  blank : Bytes
  body : Bytes

namespace Layout

def opening (l : Layout) : Bytes := joined (l.command :: l.headers) ++ (l.blank ++ [lineFeed])

def bytes (l : Layout) : Bytes := l.opening ++ (l.body ++ [terminator])

/-- The lines are lines of a block, and the blank line ends it. -/
structure WellFormed (l : Layout) : Prop where
  lines : ∀ raw ∈ l.command :: l.headers, RawLine raw
  blank : IsBlank l.blank

instance (l : Layout) : Decidable l.WellFormed :=
  decidable_of_iff ((∀ raw ∈ l.command :: l.headers, RawLine raw) ∧ IsBlank l.blank)
    ⟨fun ⟨h₁, h₂⟩ => ⟨h₁, h₂⟩, fun ⟨h₁, h₂⟩ => ⟨h₁, h₂⟩⟩

/-- The parts spell a message, and its headers tell where the body ends. -/
structure Spells (l : Layout) (m : Message) : Prop where
  command : dropReturn l.command = Bytes.ofText "STOMP" ∧ m.command = .connect ∨
    dropReturn l.command = Bytes.ofText m.command.wireName ∧ m.command ≠ .heartbeat
  headers : List.Forall₂ HeaderLine (l.headers.map dropReturn) m.headers
  distinct : m.headers.Distinct
  content : m.content = l.body
  declared : ∀ value, m.field? .contentLength = some value →
    Text.Denotes value l.body.length ∧ l.body.length ≤ maxFrameSize
  undeclared : m.field? .contentLength = none → terminator ∉ l.body

theorem opening_append (l : Layout) (rest : Bytes) :
    l.opening ++ rest = joined (l.command :: l.headers) ++ (l.blank ++ lineFeed :: rest) := by
  simp [opening]

theorem bytes_append (l : Layout) (rest : Bytes) :
    l.bytes ++ rest = l.opening ++ (l.body ++ terminator :: rest) := by
  simp [bytes]

end Layout

theorem ofWireName?_eq_some_iff {name : String} {c : Command} :
    Command.ofWireName? name = some c ↔
      name = "STOMP" ∧ c = .connect ∨ name = c.wireName ∧ c ≠ .heartbeat := by
  constructor
  · intro h
    unfold Command.ofWireName? at h
    split at h <;> cases h <;> simp [Command.wireName]
  · rintro (⟨rfl, rfl⟩ | ⟨rfl, hc⟩)
    · rfl
    · exact Command.ofWireName?_wireName hc

theorem endsAt_declaredLength_iff {headers : Headers} {content : Bytes} :
    EndsAt content (declaredLength headers) ↔
      (∀ value, headers.get? HeaderName.contentLength.text = some value →
        Text.Denotes value content.length ∧ content.length ≤ maxFrameSize) ∧
      (headers.get? HeaderName.contentLength.text = none → terminator ∉ content) := by
  unfold declaredLength
  cases hv : headers.get? HeaderName.contentLength.text with
  | none => simp [EndsAt]
  | some value =>
    simp only [Option.map_some, Option.some.injEq, forall_eq', reduceCtorEq, false_implies,
      and_true, ← Text.below?_trim_eq_some_iff]
    cases Text.below? Text.wordBound (Text.trim value) with
    | none => simp [EndsAt]
    | some length =>
      simp only [EndsAt, Option.some.injEq]
      constructor <;> rintro ⟨rfl, hmax⟩ <;> exact ⟨rfl, hmax⟩

theorem decode_of_head {b first body : Bytes} {lines : List Bytes}
    (h : head b = .block (first :: lines) body) : decode b = decodeBlock b first lines body := by
  have hframe : decodeFrame b = decodeBlock b first lines body := by rw [decodeFrame, h]
  have hblank : ∀ raw rest : Bytes, IsBlank raw → b ≠ raw ++ lineFeed :: rest := by
    rintro raw rest hb rfl
    rw [head_blank hb] at h
    cases h
  rw [← hframe]
  unfold decode
  split
  · rw [head_of_not_mem List.not_mem_nil] at h
    cases h
  · rename_i c rest
    split
    · rename_i hc
      exact absurd (by rw [hc]; rfl) (hblank [] rest (Or.inl rfl))
    · split
      · rename_i hc
        subst hc
        cases rest with
        | nil =>
          rw [head_of_not_mem (by decide)] at h
          cases h
        | cons d rest =>
          dsimp only
          split
          · rename_i hd
            exact absurd (by rw [hd]; rfl) (hblank [carriageReturn] rest (Or.inr rfl))
          · rfl
      · rfl

theorem Layout.WellFormed.head_opening {l : Layout} (h : l.WellFormed) (rest : Bytes) :
    Frame.head (l.opening ++ rest) =
      .block (dropReturn l.command :: l.headers.map dropReturn) rest := by
  rw [l.opening_append, head_rawLines h.lines h.blank]
  rfl

theorem exists_layout_of_head {b first body : Bytes} {lines : List Bytes}
    (h : head b = .block (first :: lines) body) (content : Bytes) :
    ∃ l : Layout, l.WellFormed ∧ first = dropReturn l.command ∧
      lines = l.headers.map dropReturn ∧ l.body = content ∧ b = l.opening ++ body := by
  obtain ⟨raws, blank, hraws, hblank, hlines, hb⟩ := exists_rawLines_of_head h
  cases raws with
  | nil => cases hlines
  | cons command headers =>
    rw [List.map_cons, List.cons.injEq] at hlines
    refine ⟨⟨command, headers, blank, content⟩, ⟨hraws, hblank⟩, hlines.1, hlines.2, rfl, ?_⟩
    rw [hb, Layout.opening_append]

theorem Layout.WellFormed.decode_bytes {l : Layout} (h : l.WellFormed) (rest : Bytes) :
    decode (l.bytes ++ rest) = decodeBlock (l.bytes ++ rest) (dropReturn l.command)
      (l.headers.map dropReturn) (l.body ++ terminator :: rest) := by
  refine decode_of_head ?_
  rw [l.bytes_append, h.head_opening]

theorem exists_head_of_decode {b : Bytes} {m : Message} {n : Nat}
    (h : decode b = .ok (some (m, n))) (hm : m.command ≠ .heartbeat) :
    ∃ first lines body, head b = .block (first :: lines) body := by
  have hframe : decodeFrame b = .ok (some (m, n)) := by
    unfold decode at h
    split at h
    · cases h
    · split at h
      · cases h
        exact absurd rfl hm
      · split at h
        · split at h
          · cases h
          · split at h
            · cases h
              exact absurd rfl hm
            · exact h
        · exact h
  unfold decodeFrame at hframe
  split at hframe
  · cases hframe
  · cases hframe
  · cases hframe
  · rename_i first lines body hhead
    exact ⟨first, lines, body, hhead⟩

theorem Layout.spells_iff {l : Layout} {m : Message} : l.Spells m ↔
    (∃ name, Bytes.toText? (dropReturn l.command) = some name ∧
      Command.ofWireName? name = some m.command) ∧
    readHeaders (l.headers.map dropReturn) = ⟨m.headers, none⟩ ∧
    m.content = l.body ∧ EndsAt l.body (declaredLength m.headers) := by
  have hcommand : (∃ name, Bytes.toText? (dropReturn l.command) = some name ∧
      Command.ofWireName? name = some m.command) ↔
      (dropReturn l.command = Bytes.ofText "STOMP" ∧ m.command = .connect ∨
        dropReturn l.command = Bytes.ofText m.command.wireName ∧ m.command ≠ .heartbeat) := by
    simp only [Bytes.toText?_eq_some_iff, ofWireName?_eq_some_iff]
    constructor
    · rintro ⟨name, hname, ⟨rfl, hc⟩ | ⟨rfl, hc⟩⟩
      · exact Or.inl ⟨hname, hc⟩
      · exact Or.inr ⟨hname, hc⟩
    · rintro (⟨hname, hc⟩ | ⟨hname, hc⟩)
      · exact ⟨_, hname, Or.inl ⟨rfl, hc⟩⟩
      · exact ⟨_, hname, Or.inr ⟨rfl, hc⟩⟩
  rw [hcommand, readHeaders_eq_iff, map_readHeader_eq_iff, endsAt_declaredLength_iff]
  constructor
  · intro h
    exact ⟨h.command, ⟨h.headers, h.distinct⟩, h.content, h.declared, h.undeclared⟩
  · rintro ⟨hc, ⟨hh, hd⟩, hcontent, hdeclared, hundeclared⟩
    exact ⟨hc, hh, hd, hcontent, hdeclared, hundeclared⟩

theorem Layout.Spells.ne_heartbeat {l : Layout} {m : Message} (h : l.Spells m) :
    m.command ≠ .heartbeat := by
  rcases h.command with ⟨_, hc⟩ | ⟨_, hc⟩
  · rw [hc]
    decide
  · exact hc

/-- A message that is no heartbeat is read, with a count of bytes, exactly if these first bytes of
the buffer are a frame that spells it. -/
theorem decode_eq_ok_iff_layout {b : Bytes} {m : Message} {n : Nat} :
    (decode b = .ok (some (m, n)) ∧ m.command ≠ .heartbeat) ↔
      n ≤ b.length ∧ ∃ l : Layout, l.WellFormed ∧ l.Spells m ∧ b.take n = l.bytes := by
  constructor
  · rintro ⟨h, hm⟩
    obtain ⟨first, lines, body, hhead⟩ := exists_head_of_decode h hm
    rw [decode_of_head hhead, decodeBlock_eq_ok_iff] at h
    obtain ⟨hcommand, hheaders, rest, rfl, hends, hn⟩ := h
    obtain ⟨l, hl, rfl, rfl, hbody, hb⟩ := exists_layout_of_head hhead m.content
    rw [← hbody, ← l.bytes_append] at hb
    subst hb
    have hlen : n = l.bytes.length := by
      rw [hn, List.length_append]
      omega
    refine ⟨by rw [List.length_append]; omega, l, hl, ?_, ?_⟩
    · exact Layout.spells_iff.mpr ⟨hcommand, hheaders, hbody.symm, hbody.symm ▸ hends⟩
    · rw [hlen, List.take_left]
  · rintro ⟨hle, l, hl, hs, htake⟩
    have hb : b = l.bytes ++ b.drop n := by rw [← htake, List.take_append_drop]
    have hn : n = l.bytes.length := by rw [← htake, List.length_take, Nat.min_eq_left hle]
    obtain ⟨hcommand, hheaders, hcontent, hends⟩ := Layout.spells_iff.mp hs
    refine ⟨?_, hs.ne_heartbeat⟩
    rw [hb, hl.decode_bytes, decodeBlock_eq_ok_iff]
    refine ⟨hcommand, hheaders, b.drop n, by rw [hcontent], hcontent.symm ▸ hends, ?_⟩
    rw [List.length_append]
    omega

end Frame
end BrokerRpc
