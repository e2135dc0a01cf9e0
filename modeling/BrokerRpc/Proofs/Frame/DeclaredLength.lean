import BrokerRpc.Proofs.Frame.Extension
import BrokerRpc.Proofs.Frame.RoundTrip

/-! # Frames that state the length of their content

A content within the limit is read back with its stated length. Where the content goes on instead of
its terminator the frame is rejected as soon as that byte is there, and the rejection takes what it
finds up to the next terminator.
-/
namespace BrokerRpc.Frame

/-- The lines of a frame that states a length and nothing else, with the blank line. -/
def stating (n : Nat) : Bytes :=
  joined (linesOf ⟨.send, [("content-length", Text.decimal n)], []⟩) ++ [lineFeed]

theorem encode_withContent (content : Bytes) :
    encode ((Message.new .send).withContent content) =
      stating content.length ++ (content ++ [terminator]) := by
  have hne : ((Message.new .send).withContent content).command ≠ .heartbeat := Command.noConfusion
  have hlines : linesOf ((Message.new .send).withContent content) =
      linesOf ⟨.send, [("content-length", Text.decimal content.length)], []⟩ := rfl
  rw [encode_of_ne_heartbeat hne, hlines, stating, List.append_assoc]
  rfl

theorem length_encode_withContent {content : Bytes} {n : Nat} (hn : content.length = n) :
    (encode ((Message.new .send).withContent content)).length = (stating n).length + n + 1 := by
  subst hn
  rw [encode_withContent, List.length_append, List.length_append, List.length_singleton]
  omega

theorem fitsLine_length (n : Nat) :
    ∀ entry ∈ [("content-length", Text.decimal n)], FitsLine entry := by
  intro entry he
  obtain rfl := List.mem_singleton.mp he
  have hname : "content-length" ≠ "" ∧ '\x00' ∉ "content-length".toList := by decide
  exact ⟨hname.1, hname.2, Text.not_mem_decimal (by decide) n⟩

theorem declaredLength_decimal {n : Nat} (h : n ≤ maxFrameSize) :
    declaredLength [("content-length", Text.decimal n)] = some (some n) := by
  have hbound : n < Text.wordBound := by
    unfold maxFrameSize at h
    unfold Text.wordBound
    omega
  have hget : Assoc.get? [("content-length", Text.decimal n)] HeaderName.contentLength.text =
      some (Text.decimal n) := rfl
  rw [declaredLength, hget, Option.map_some, Text.below?_trim_decimal hbound]

theorem decode_encode_withContent {content : Bytes} (h : content.length ≤ maxFrameSize) :
    let m := (Message.new .send).withContent content
    decode (encode m) = .ok (some (m, (encode m).length)) ∧
      m.field? .contentLength = some (Text.decimal content.length) := by
  intro m
  have hfit : ∀ entry ∈ m.headers, FitsLine entry := fitsLine_length content.length
  have hdelimits : Delimits m.headers m.content := by
    have hdeclared : declaredLength m.headers = some (some content.length) :=
      declaredLength_decimal h
    rw [delimits_iff_endsAt, hdeclared]
    exact ⟨rfl, h⟩
  have hne : m.command ≠ .heartbeat := Command.noConfusion
  have hdistinct : m.headers.Distinct := List.pairwise_singleton _ _
  have hread := (decode_encode_frame_iff hne hdistinct []).mpr ⟨hfit, hdelimits⟩
  rw [List.append_nil] at hread
  exact ⟨hread, rfl⟩

theorem extent_of_longer_body {n : Nat} (hn : n ≤ maxFrameSize) {body : Bytes} {c : UInt8}
    (hc : body[n]? = some c) (hne : c ≠ terminator) :
    extent (some (some n)) body = .bad (.lengthMismatch n) := by
  have hmax : ¬ maxFrameSize < n := by omega
  obtain ⟨hlt, rfl⟩ := List.getElem?_eq_some_iff.mp hc
  simp only [extent, if_neg hmax, List.drop_eq_getElem_cons hlt, if_neg hne]

theorem next?_of_longer_body {n : Nat} (hn : n ≤ maxFrameSize) {body : Bytes} {c : UInt8}
    (hc : body[n]? = some c) (hne : c ≠ terminator) :
    next? (stating n ++ body) = some (.error
      ⟨.lengthMismatch n, (stating n ++ body).length - (afterTerminator body).length⟩) := by
  let m : Message := ⟨.send, [("content-length", Text.decimal n)], []⟩
  have hm : m.command ≠ .heartbeat := Command.noConfusion
  have hfit : ∀ entry ∈ m.headers, FitsLine entry := fitsLine_length n
  have hclean := (clean_linesOf_iff hm).mpr
    fun entry he => ⟨(hfit entry he).name_clean, (hfit entry he).value_clean⟩
  have hhead : head (stating n ++ body) = .block (linesOf m) body := by
    rw [stating, List.append_assoc]
    exact head_joined (plainLine_linesOf hm) hclean body
  have hheaders : readHeaders (m.headers.map headerBytes) = ⟨m.headers, none⟩ :=
    readHeaders_eq_iff.mpr ⟨(map_readHeader_headerBytes_iff m.headers).mpr
      fun entry he => (hfit entry he).named, List.pairwise_singleton _ _⟩
  have hdeclared : declaredLength m.headers = some (some n) := declaredLength_decimal hn
  have hreject : decode (stating n ++ body) =
      reject (.lengthMismatch n) (stating n ++ body) (afterTerminator body) := by
    rw [decode_of_head hhead, decodeBlock, Bytes.toText?_ofText]
    simp only [hheaders, hdeclared, extent_of_longer_body hn hc hne]
  exact next?_of_reject hreject

end BrokerRpc.Frame
