import BrokerRpc.Proofs.Frame.HeaderLine
import BrokerRpc.Proofs.Frame.Reading

/-! # What survives the wire

A heartbeat is one line feed, so that it carries neither headers nor content. Any other message is
read back if each of its headers fits on a line and its content is delimited: by a declared length,
or by the terminator. Exactly these messages are read back, whatever follows them in the buffer.
-/
namespace BrokerRpc

namespace Frame

/-- Whether a header fits on a line: it has a name, and neither part holds a terminator. -/
structure FitsLine (entry : String × String) : Prop where
  named : entry.1 ≠ ""
  name_clean : '\x00' ∉ entry.1.toList
  value_clean : '\x00' ∉ entry.2.toList

/-- Whether headers tell where the content ends: the declared length is the content's own and not
too large, or none is declared and the content holds no terminator. -/
def Delimits (headers : Headers) (content : Bytes) : Prop :=
  match headers.get? HeaderName.contentLength.text with
  | some value =>
    Text.below? Text.wordBound (Text.trim value) = some content.length ∧
      content.length ≤ maxFrameSize
  | none => terminator ∉ content

instance (entry : String × String) : Decidable (FitsLine entry) :=
  decidable_of_iff (entry.1 ≠ "" ∧ '\x00' ∉ entry.1.toList ∧ '\x00' ∉ entry.2.toList)
    ⟨fun ⟨h₁, h₂, h₃⟩ => ⟨h₁, h₂, h₃⟩, fun ⟨h₁, h₂, h₃⟩ => ⟨h₁, h₂, h₃⟩⟩

instance (headers : Headers) (content : Bytes) : Decidable (Delimits headers content) :=
  match h : headers.get? HeaderName.contentLength.text with
  | some value =>
    decidable_of_iff (Text.below? Text.wordBound (Text.trim value) = some content.length ∧
      content.length ≤ maxFrameSize) (by simp only [Delimits, h])
  | none => decidable_of_iff (terminator ∉ content) (by simp only [Delimits, h])

theorem delimits_iff_endsAt (headers : Headers) (content : Bytes) :
    Delimits headers content ↔ EndsAt content (declaredLength headers) := by
  unfold Delimits declaredLength
  cases headers.get? HeaderName.contentLength.text with
  | none => exact Iff.rfl
  | some value =>
    cases hl : Text.below? Text.wordBound (Text.trim value) with
    | none => simp [EndsAt, hl]
    | some length =>
      simp only [Option.map_some, hl, EndsAt, Option.some.injEq]
      constructor <;> rintro ⟨rfl, hmax⟩ <;> exact ⟨rfl, hmax⟩

end Frame

/-- Whether the wire form of a message says all that the message holds. -/
def Message.Encodable (m : Message) : Prop :=
  if m.isHeartbeat then m.headers = [] ∧ m.content = []
  else (∀ entry ∈ m.headers, Frame.FitsLine entry) ∧ Frame.Delimits m.headers m.content

instance (m : Message) : Decidable m.Encodable :=
  inferInstanceAs (Decidable (if m.isHeartbeat then m.headers = [] ∧ m.content = []
    else (∀ entry ∈ m.headers, Frame.FitsLine entry) ∧ Frame.Delimits m.headers m.content))

namespace Frame

/-! ## The lines of a message -/

theorem plainLine_wireName {c : Command} (hc : c ≠ .heartbeat) :
    PlainLine (Bytes.ofText c.wireName) ∧ terminator ∉ Bytes.ofText c.wireName := by
  have hm : ∀ b : UInt8, b.toNat < 0x80 → Char.ofNat b.toNat ∉ c.wireName.toList →
      b ∉ Bytes.ofText c.wireName := fun b hb h hmem => h ((Bytes.mem_ofText_iff hb _).mp hmem)
  have hne : c.wireName ≠ "" := by cases c <;> simp_all [Command.wireName]
  refine ⟨⟨?_, ?_, ?_⟩, ?_⟩
  · intro h
    exact hne (Bytes.ofText_injective (h.trans (Bytes.ofText_eq_flatMap "").symm))
  · exact hm lineFeed (by decide) (by cases c <;> simp [Command.wireName, lineFeed])
  · exact hm carriageReturn (by decide) (by cases c <;> simp [Command.wireName, carriageReturn])
  · exact hm terminator (by decide) (by cases c <;> simp [Command.wireName, terminator])

def linesOf (m : Message) : List Bytes :=
  Bytes.ofText m.command.wireName :: m.headers.map headerBytes

theorem encode_of_ne_heartbeat {m : Message} (hm : m.command ≠ .heartbeat) :
    encode m = joined (linesOf m) ++ lineFeed :: (m.content ++ [terminator]) := by
  have hh : m.isHeartbeat = false := by simp [Message.isHeartbeat, hm]
  have hl : m.headers.flatMap headerLine = joined (m.headers.map headerBytes) := by
    simp only [joined, List.flatMap_map, funext headerLine_eq]
  simp [encode, hh, hl, linesOf, joined_cons]

theorem plainLine_linesOf {m : Message} (hm : m.command ≠ .heartbeat) :
    ∀ line ∈ linesOf m, PlainLine line := by
  intro line hl
  rcases List.mem_cons.mp hl with rfl | hl
  · exact (plainLine_wireName hm).1
  · obtain ⟨entry, _, rfl⟩ := List.mem_map.mp hl
    exact ⟨headerBytes_ne_nil entry, lineFeed_not_mem_headerBytes entry,
      carriageReturn_not_mem_headerBytes entry⟩

theorem clean_linesOf_iff {m : Message} (hm : m.command ≠ .heartbeat) :
    (∀ line ∈ linesOf m, terminator ∉ line) ↔
      ∀ entry ∈ m.headers, '\x00' ∉ entry.1.toList ∧ '\x00' ∉ entry.2.toList := by
  have hc := (plainLine_wireName hm).2
  simp only [linesOf, List.mem_cons, List.mem_map, forall_eq_or_imp, forall_exists_index, and_imp,
    forall_apply_eq_imp_iff₂, terminator_mem_headerBytes_iff, not_or]
  exact ⟨And.right, fun h => ⟨hc, h⟩⟩

theorem map_readHeader_headerBytes_iff (headers : Headers) :
    (headers.map headerBytes).map readHeader = headers.map .ok ↔
      ∀ entry ∈ headers, entry.1 ≠ "" := by
  rw [List.map_map, List.map_inj_left]
  refine forall₂_congr fun entry _ => ?_
  rw [Function.comp_apply, readHeader_headerBytes]
  by_cases he : entry.1 = "" <;> simp [he]

/-! ## Reading a written message -/

theorem decode_plainLine {line : Bytes} (hp : PlainLine line) (rest : Bytes) :
    decode (line ++ rest) = decodeFrame (line ++ rest) := by
  obtain ⟨hne, hlf, hcr⟩ := hp
  cases line with
  | nil => exact absurd rfl hne
  | cons c line =>
    have h₁ : c ≠ lineFeed := fun h => hlf (h ▸ List.mem_cons_self)
    have h₂ : c ≠ carriageReturn := fun h => hcr (h ▸ List.mem_cons_self)
    simp only [List.cons_append, decode, if_neg h₁, if_neg h₂]

theorem decode_encode_eq_decodeFrame {m : Message} (hm : m.command ≠ .heartbeat) (rest : Bytes) :
    decode (encode m ++ rest) = decodeFrame (encode m ++ rest) := by
  rw [encode_of_ne_heartbeat hm, List.append_assoc, linesOf, joined_cons]
  exact decode_plainLine (plainLine_wireName hm).1 _

theorem decode_heartbeat (rest : Bytes) :
    decode (lineFeed :: rest) = .ok (some (Message.heartbeat, 1)) := by
  simp [decode]

theorem decode_encode_broken {m : Message} (hm : m.command ≠ .heartbeat)
    (hn : ∃ line ∈ linesOf m, terminator ∈ line) (rest : Bytes) :
    ∃ r, decode (encode m ++ rest) = .error r := by
  obtain ⟨bytes, hb⟩ := head_joined_broken (plainLine_linesOf hm) hn
    (lineFeed :: (m.content ++ [terminator]) ++ rest)
  rw [decode_encode_eq_decodeFrame hm, decodeFrame, encode_of_ne_heartbeat hm, List.append_assoc,
    hb]
  exact ⟨_, rfl⟩

/-- Without terminators in its headers, a written message is cut into its lines and what stands
after them. -/
theorem decode_encode_clean {m : Message} (hm : m.command ≠ .heartbeat)
    (hn : ∀ line ∈ linesOf m, terminator ∉ line) (rest : Bytes) :
    decode (encode m ++ rest) = decodeBlock (encode m ++ rest) (Bytes.ofText m.command.wireName)
      (m.headers.map headerBytes) (m.content ++ terminator :: rest) := by
  have hb : encode m ++ rest =
      joined (linesOf m) ++ lineFeed :: (m.content ++ terminator :: rest) := by
    simp [encode_of_ne_heartbeat hm]
  have hhead : head (encode m ++ rest) = .block (linesOf m) (m.content ++ terminator :: rest) := by
    rw [hb, head_joined (plainLine_linesOf hm) hn]
  rw [decode_encode_eq_decodeFrame hm, decodeFrame, hhead]
  rfl

theorem decode_encode_heartbeat_iff {m : Message} (hm : m.command = .heartbeat) (rest : Bytes) :
    decode (encode m ++ rest) = .ok (some (m, (encode m).length)) ↔
      m.headers = [] ∧ m.content = [] := by
  have he : encode m = [lineFeed] := by simp [encode, Message.isHeartbeat, hm]
  rw [he, List.singleton_append, decode_heartbeat]
  obtain ⟨command, headers, content⟩ := m
  simp only at hm
  subst hm
  simp [Message.heartbeat, Message.new, eq_comm]

theorem decode_encode_frame_iff {m : Message} (hm : m.command ≠ .heartbeat)
    (hd : m.headers.Distinct) (rest : Bytes) :
    decode (encode m ++ rest) = .ok (some (m, (encode m).length)) ↔
      (∀ entry ∈ m.headers, FitsLine entry) ∧ Delimits m.headers m.content := by
  by_cases hn : ∀ line ∈ linesOf m, terminator ∉ line
  · have hclean := (clean_linesOf_iff hm).mp hn
    have hlen : (encode m).length = (encode m ++ rest).length - rest.length := by simp
    rw [decode_encode_clean hm hn, decodeBlock_eq_ok_iff, Bytes.toText?_ofText,
      readHeaders_eq_iff, map_readHeader_headerBytes_iff, delimits_iff_endsAt]
    constructor
    · rintro ⟨_, ⟨hnamed, _⟩, _, _, hends, _⟩
      exact ⟨fun entry he => ⟨hnamed entry he, (hclean entry he).1, (hclean entry he).2⟩, hends⟩
    · rintro ⟨hfit, hends⟩
      exact ⟨⟨_, rfl, Command.ofWireName?_wireName hm⟩,
        ⟨fun entry he => (hfit entry he).named, hd⟩, rest, rfl, hends, hlen⟩
  · have hbroken : ∃ line ∈ linesOf m, terminator ∈ line := by
      simpa using hn
    obtain ⟨r, hr⟩ := decode_encode_broken hm hbroken rest
    rw [hr]
    constructor
    · intro h
      cases h
    · rintro ⟨hfit, _⟩
      exact absurd ((clean_linesOf_iff hm).mpr
        fun entry he => ⟨(hfit entry he).name_clean, (hfit entry he).value_clean⟩) hn

/-- A message whose header names are distinct is read back, whatever follows it, exactly if it is
encodable. -/
theorem decode_encode_append_iff {m : Message} (hd : m.headers.Distinct) (rest : Bytes) :
    decode (encode m ++ rest) = .ok (some (m, (encode m).length)) ↔ m.Encodable := by
  unfold Message.Encodable
  by_cases hm : m.command = .heartbeat
  · rw [if_pos (by simp [Message.isHeartbeat, hm])]
    exact decode_encode_heartbeat_iff hm rest
  · rw [if_neg (by simp [Message.isHeartbeat, hm])]
    exact decode_encode_frame_iff hm hd rest

/-- A padded length with a sign delimits a content that holds a terminator; without a declared
length the same content is cut short. -/
theorem decode_encode_append_iff_terminator_inside :
    let headers : Headers := [("content-length", " +3"), ("a:b", "x\ny\\")]
    let declared : Message := ⟨.send, headers, [97, 0, 98]⟩
    let bare : Message := ⟨.send, [("id", "7")], [97, 0, 98]⟩
    Assoc.Distinct headers ∧
      decode (encode declared ++ [10, 83]) = .ok (some (declared, (encode declared).length)) ∧
      bare.headers.Distinct ∧ decode (encode bare) ≠ .ok (some (bare, (encode bare).length)) := by
  intro headers declared bare
  have hd : Assoc.Distinct headers := by decide
  have hb : bare.headers.Distinct := by decide
  have he : declared.Encodable := by decide
  have hne : ¬ bare.Encodable := by decide
  refine ⟨hd, (decode_encode_append_iff (m := declared) hd _).mpr he, hb, ?_⟩
  have hiff := decode_encode_append_iff hb []
  rw [List.append_nil] at hiff
  exact fun h => hne (hiff.mp h)

end Frame
end BrokerRpc
