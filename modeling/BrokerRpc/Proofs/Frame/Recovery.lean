import BrokerRpc.Proofs.Frame.Pieces
import BrokerRpc.Proofs.Frame.RoundTrip

/-! # Recovery after bad frames

A frame that is bad but says where it ends is rejected as a whole: its command is unknown, or one of
its header lines is no header or repeats a name. A stream of messages, heartbeats and such frames is
read item by item, wherever it is cut, and nothing is left of it.
-/
namespace BrokerRpc

namespace HeaderText

theorem not_seeks_of_unescape {written : List Char} {reason : Malformed}
    (h : unescape written = .error reason) : reason.seeks = false := by
  have hchars : unescapeChars written = .error reason := by
    rw [unescape] at h
    cases hc : unescapeChars written with
    | error other =>
      rw [hc] at h
      cases h
      rfl
    | ok text =>
      rw [hc] at h
      cases h
  clear h
  fun_induction unescapeChars written with
  | case1 => cases hchars
  | case2 =>
    cases hchars
    rfl
  | case3 letter rest c _ ih =>
    cases hr : unescapeChars rest with
    | error other =>
      rw [hr] at hchars ih
      cases hchars
      exact ih rfl
    | ok text =>
      rw [hr] at hchars
      cases hchars
  | case4 =>
    cases hchars
    rfl
  | case5 c rest _ _ ih =>
    cases hr : unescapeChars rest with
    | error other =>
      rw [hr] at hchars ih
      cases hchars
      exact ih rfl
    | ok text =>
      rw [hr] at hchars
      cases hchars

end HeaderText

namespace Frame

/-! ## Faults of header lines -/

/-- What is wrong with header lines: one is no header, or one repeats the name of one before it. -/
inductive LineFault (lines : List Bytes) : Malformed → Prop
  | unreadable {line : Bytes} {reason : Malformed} (hl : line ∈ lines)
      (h : readHeader line = .error reason) : LineFault lines reason
  | repeated {front back : List Bytes} {first second : Bytes} {name old new : String}
      (hl : lines = front ++ second :: back) (hf : first ∈ front)
      (h₁ : readHeader first = .ok (name, old)) (h₂ : readHeader second = .ok (name, new)) :
      LineFault lines (.duplicateHeader name)

theorem LineFault.append {lines : List Bytes} {reason : Malformed} (h : LineFault lines reason)
    (more : List Bytes) : LineFault (lines ++ more) reason := by
  cases h with
  | unreadable hl h => exact .unreadable (List.mem_append_left _ hl) h
  | repeated hl hf h₁ h₂ =>
    subst hl
    exact .repeated (by rw [List.append_assoc, List.cons_append]) hf h₁ h₂

theorem not_seeks_of_readHeader {line : Bytes} {reason : Malformed}
    (h : readHeader line = .error reason) : reason.seeks = false := by
  unfold readHeader at h
  cases ht : Bytes.toText? line with
  | none =>
    simp only [ht] at h
    cases h
    rfl
  | some text =>
    cases hd : text.toList.dropWhile (· != ':') with
    | nil =>
      simp only [ht, hd] at h
      cases h
      rfl
    | cons c value =>
      simp only [ht, hd] at h
      cases hkey : HeaderText.unescape (text.toList.takeWhile (· != ':')) with
      | error other =>
        rw [hkey] at h
        cases h
        exact HeaderText.not_seeks_of_unescape hkey
      | ok key =>
        by_cases hne : key = ""
        · simp [hkey, hne, bind, Except.bind, throw, throwThe, MonadExceptOf.throw] at h
          exact h ▸ rfl
        · cases hval : HeaderText.unescape value with
          | error other =>
            simp [hkey, hne, hval, bind, Except.bind] at h
            exact h ▸ HeaderText.not_seeks_of_unescape hval
          | ok text => simp [hkey, hne, hval, bind, Except.bind, pure, Except.pure] at h

theorem LineFault.not_seeks {lines : List Bytes} {reason : Malformed} (h : LineFault lines reason) :
    reason.seeks = false := by
  cases h with
  | unreadable _ h => exact not_seeks_of_readHeader h
  | repeated => rfl

theorem exists_line_of_mem_keys {lines : List Bytes} {name : String}
    (h : name ∈ (readHeaders lines).headers.keys) :
    ∃ line ∈ lines, ∃ value, readHeader line = .ok (name, value) := by
  induction lines using List.reverseRecOn with
  | nil => cases h
  | append_singleton lines line ih =>
    have hold : name ∈ (readHeaders lines).headers.keys →
        ∃ l ∈ lines ++ [line], ∃ value, readHeader l = .ok (name, value) := by
      intro hmem
      obtain ⟨l, hl, hv⟩ := ih hmem
      exact ⟨l, List.mem_append_left _ hl, hv⟩
    rw [readHeaders_concat, Block.add] at h
    cases hr : readHeader line with
    | error reason =>
      rw [hr] at h
      exact hold h
    | ok entry =>
      obtain ⟨key, value⟩ := entry
      rw [hr] at h
      dsimp only at h
      split at h
      · exact hold h
      · rw [Assoc.keys, List.map_append, List.mem_append] at h
        rcases h with h | h
        · exact hold h
        · rw [List.map_singleton, List.mem_singleton] at h
          subst h
          exact ⟨line, by simp, value, hr⟩

theorem lineFault_of_fault {lines : List Bytes} {reason : Malformed}
    (h : (readHeaders lines).fault = some reason) : LineFault lines reason := by
  induction lines using List.reverseRecOn with
  | nil => cases h
  | append_singleton lines line ih =>
    have hfail : ∀ other, LineFault (lines ++ [line]) other →
        ((readHeaders lines).fail other).fault = some reason →
        LineFault (lines ++ [line]) reason := by
      intro other hother hf
      rw [Block.fail] at hf
      rcases Option.or_eq_some_iff.mp hf with hf | ⟨_, hf⟩
      · exact (ih hf).append _
      · cases hf
        exact hother
    rw [readHeaders_concat, Block.add] at h
    cases hr : readHeader line with
    | error other =>
      rw [hr] at h
      exact hfail other (.unreadable (by simp) hr) h
    | ok entry =>
      obtain ⟨name, value⟩ := entry
      rw [hr] at h
      dsimp only at h
      split at h
      · rename_i hmem
        obtain ⟨first, hf, old, h₁⟩ := exists_line_of_mem_keys hmem
        have hsplit : lines ++ [line] = lines ++ line :: [] := rfl
        exact hfail _ (.repeated hsplit hf h₁ hr) h
      · exact (ih h).append _

theorem LineFault.fault_ne_none {lines : List Bytes} {reason : Malformed}
    (h : LineFault lines reason) : (readHeaders lines).fault ≠ none := by
  intro hn
  obtain ⟨hmap, hd⟩ := readHeaders_eq_iff.mp
    (show readHeaders lines = ⟨(readHeaders lines).headers, none⟩ by rw [← hn])
  cases h with
  | unreadable hl h =>
    have hmem := List.mem_map_of_mem (f := readHeader) hl
    rw [hmap, h, List.mem_map] at hmem
    obtain ⟨_, _, he⟩ := hmem
    cases he
  | repeated hl hf h₁ h₂ =>
    subst hl
    rw [List.map_append, List.map_cons, List.append_eq_map_iff] at hmap
    obtain ⟨front, back, he, hfront, hback⟩ := hmap
    rw [h₂] at hback
    obtain ⟨entry, more, rfl, hentry, -⟩ := List.map_eq_cons_iff.mp hback
    have hmem := List.mem_map_of_mem (f := readHeader) hf
    rw [hfront.symm, h₁, List.mem_map] at hmem
    obtain ⟨other, hother, hsame⟩ := hmem
    cases hentry
    cases hsame
    rw [he, Assoc.Distinct, Assoc.keys, List.map_append, List.nodup_append] at hd
    exact hd.2.2 _ (List.mem_map_of_mem hother) _ List.mem_cons_self rfl

/-! ## The first value of a name -/

def valueIn (name : String) (line : Bytes) : Option String :=
  match readHeader line with
  | .ok (key, value) => if key = name then some value else none
  | .error _ => none

/-- A name has the value that the first line gives to it. -/
theorem get?_readHeaders (lines : List Bytes) (name : String) :
    (readHeaders lines).headers.get? name = lines.findSome? (valueIn name) := by
  induction lines using List.reverseRecOn with
  | nil => rfl
  | append_singleton lines line ih =>
    rw [readHeaders_concat, List.findSome?_append, ← ih, List.findSome?_singleton, Block.add,
      valueIn]
    cases readHeader line with
    | error reason => simp [Block.fail]
    | ok entry =>
      obtain ⟨key, value⟩ := entry
      dsimp only
      split
      · rename_i hmem
        by_cases hk : key = name
        · subst hk
          obtain ⟨old, hold⟩ := Assoc.mem_keys_iff.mp hmem
          simp [Block.fail, hold]
        · simp [Block.fail, hk]
      · rw [Assoc.get?_append]
        rfl

/-! ## Bad frames that end where they say -/

namespace Layout

/-- The body ends where the first content length of the lines says, or at its first terminator. -/
structure Delimited (l : Layout) : Prop where
  declared : ∀ value,
    (l.headers.map dropReturn).findSome? (valueIn HeaderName.contentLength.text) = some value →
    Text.Denotes value l.body.length ∧ l.body.length ≤ maxFrameSize
  undeclared :
    (l.headers.map dropReturn).findSome? (valueIn HeaderName.contentLength.text) = none →
    terminator ∉ l.body

inductive Fault (l : Layout) : Malformed → Prop
  | command {name : String} (h : Bytes.toText? (dropReturn l.command) = some name)
      (hu : Command.ofWireName? name = none) : Fault l (.unknownCommand name)
  | header {reason : Malformed} (h : LineFault (l.headers.map dropReturn) reason) : Fault l reason

/-- A frame that spells no message but says where it ends. -/
structure Bad (l : Layout) : Prop where
  wellFormed : l.WellFormed
  text : ∃ name, Bytes.toText? (dropReturn l.command) = some name
  delimited : l.Delimited
  faulty : ∃ reason, l.Fault reason

theorem Fault.not_seeks {l : Layout} {reason : Malformed} (h : l.Fault reason) :
    reason.seeks = false := by
  cases h with
  | command => rfl
  | header h => exact h.not_seeks

theorem Bad.decode_eq {l : Layout} (h : l.Bad) :
    ∃ reason, l.Fault reason ∧ decode l.bytes = .error ⟨reason, l.bytes.length⟩ := by
  obtain ⟨name, hname⟩ := h.text
  have hext : extent (declaredLength (readHeaders (l.headers.map dropReturn)).headers)
      (l.body ++ [terminator]) = .found l.body [] := by
    refine extent_eq_found_iff.mpr ⟨rfl, endsAt_declaredLength_iff.mpr ?_⟩
    rw [get?_readHeaders]
    exact ⟨h.delimited.declared, h.delimited.undeclared⟩
  have hblock := h.wellFormed.decode_bytes []
  rw [List.append_nil, decodeBlock, hname] at hblock
  simp only [hext] at hblock
  cases hc : Command.ofWireName? name with
  | none =>
    rw [hc] at hblock
    exact ⟨_, .command hname hc, hblock⟩
  | some command =>
    cases hf : (readHeaders (l.headers.map dropReturn)).fault with
    | some reason =>
      rw [hc, hf] at hblock
      exact ⟨reason, .header (lineFault_of_fault hf), hblock⟩
    | none =>
      obtain ⟨reason, hfault⟩ := h.faulty
      cases hfault with
      | command hname' hu =>
        rw [hname] at hname'
        cases hname'
        rw [hc] at hu
        cases hu
      | header hfault => exact absurd hf hfault.fault_ne_none

end Layout

/-! ## Streams of items -/

/-- What a stream may hold: a message as it is written, a heartbeat with or without a carriage
return, or a bad frame. -/
inductive Item where
  | message (m : Message)
  | tick (returned : Bool)
  | bad (l : Layout)

namespace Item

def bytes : Item → Bytes
  | message m => encode m
  | tick returned => if returned then [carriageReturn, lineFeed] else [lineFeed]
  | bad l => l.bytes

def Sound : Item → Prop
  | message m => decode (encode m) = .ok (some (m, (encode m).length))
  | tick _ => True
  | bad l => l.Bad

/-- What an item is read as: itself, or a rejection for one of its faults, and in either case with
exactly its own bytes. -/
inductive Gives : Item → Reading → Prop
  | message (m : Message) : Gives (message m) (.ok (m, (encode m).length))
  | tick (returned : Bool) :
      Gives (tick returned) (.ok (Message.heartbeat, (tick returned).bytes.length))
  | bad {l : Layout} {reason : Malformed} (h : l.Fault reason) :
      Gives (bad l) (.error ⟨reason, l.bytes.length⟩)

theorem Gives.consumed_eq {item : Item} {reading : Reading} (h : item.Gives reading) :
    reading.consumed = item.bytes.length := by
  cases h <;> rfl

theorem Gives.not_seeks {item : Item} {r : Rejected} (h : item.Gives (.error r)) :
    ¬ r.reason.seeks := by
  cases h with
  | bad h => simp [h.not_seeks]

theorem exists_gives_of_mem {items : List Item} {read : List Reading} {reading : Reading}
    (h : List.Forall₂ Gives items read) (hr : reading ∈ read) : ∃ item, Gives item reading := by
  induction h with
  | nil => cases hr
  | cons hg _ ih =>
    rcases List.mem_cons.mp hr with rfl | hr
    · exact ⟨_, hg⟩
    · exact ih hr

theorem Sound.next?_eq {item : Item} (h : item.Sound) :
    ∃ reading, item.Gives reading ∧ next? item.bytes = some reading := by
  cases item with
  | message m => exact ⟨_, .message m, by rw [next?, bytes, show decode (encode m) = _ from h]⟩
  | tick returned =>
    refine ⟨_, .tick returned, ?_⟩
    cases returned <;> rfl
  | bad l =>
    obtain ⟨reason, hf, hd⟩ := Layout.Bad.decode_eq h
    exact ⟨_, .bad hf, by rw [next?, bytes, hd]⟩

theorem Sound.next?_append {item : Item} (h : item.Sound) :
    ∃ reading, item.Gives reading ∧ ∀ e, next? (item.bytes ++ e) = some reading := by
  obtain ⟨reading, hg, hnext⟩ := h.next?_eq
  refine ⟨reading, hg, ?_⟩
  have hv := verdict item.bytes
  rw [hnext] at hv
  cases hv with
  | settled _ _ _ _ _ _ hkeep => exact hkeep
  | unsettled hr => exact absurd hr hg.not_seeks

end Item

theorem drain_items {items : List Item} (h : ∀ item ∈ items, item.Sound) :
    ∃ read, List.Forall₂ Item.Gives items read ∧ drain (items.flatMap Item.bytes) = (read, []) := by
  induction items with
  | nil => exact ⟨[], .nil, drain_nil⟩
  | cons item items ih =>
    obtain ⟨reading, hg, hnext⟩ := (h item List.mem_cons_self).next?_append
    obtain ⟨read, hread, hdrain⟩ := ih fun i hi => h i (List.mem_cons_of_mem _ hi)
    refine ⟨reading :: read, .cons hg hread, ?_⟩
    rw [List.flatMap_cons, drain_of_front (hnext _) hg.consumed_eq, hdrain]

/-- Wherever a stream of items is cut, each item gives one reading with exactly its own bytes, in
order, and nothing is left. -/
theorem readings_items {items : List Item} (h : ∀ item ∈ items, item.Sound) {pieces : List Bytes}
    (hcut : pieces.flatten = items.flatMap Item.bytes) :
    List.Forall₂ Item.Gives items (readings [] pieces) ∧ unread [] pieces = [] := by
  obtain ⟨read, hread, hdrain⟩ := drain_items h
  rw [← hcut] at hdrain
  have hempty : next? [] = none := rfl
  have hseek : ∀ r : Rejected, .error r ∈ (drain ([] ++ pieces.flatten)).1 → ¬ r.reason.seeks := by
    intro r hr
    rw [List.nil_append, hdrain] at hr
    obtain ⟨item, hg⟩ := Item.exists_gives_of_mem hread hr
    exact hg.not_seeks
  have hall := readings_eq_of_not_seeks hempty hseek
  rw [List.nil_append, hdrain, Prod.mk.injEq] at hall
  rw [hall.1, hall.2]
  exact ⟨hread, rfl⟩

/-- A stream that arrives byte by byte, with a terminator in the body of a message and in that of
an unknown frame. -/
theorem readings_items_byte_by_byte :
    let m : Message := ⟨.send, [("content-length", "3"), ("a:b", "x\ny")], [97, 0, 98]⟩
    let unknown : Layout := ⟨Bytes.ofText "NACK\r", [Bytes.ofText "content-length: +2\r"],
      [carriageReturn], [0, 10]⟩
    let broken : Layout := ⟨Bytes.ofText "SEND", [Bytes.ofText "none"], [], [120]⟩
    let items : List Item := [.tick true, .message m, .bad unknown, .bad broken, .tick false]
    let pieces := (items.flatMap Item.bytes).map fun b => [b]
    (∀ item ∈ items, item.Sound) ∧ pieces.flatten = items.flatMap Item.bytes ∧
      List.Forall₂ Item.Gives items (readings [] pieces) ∧ unread [] pieces = [] := by
  intro m unknown broken items pieces
  have hm : decode (encode m) = .ok (some (m, (encode m).length)) := by
    have hread := (decode_encode_frame_iff (m := m) (by decide) (by decide) []).mpr
      ⟨by decide, by decide⟩
    rwa [List.append_nil] at hread
  have hunknown : unknown.Bad := by
    have hlines : unknown.headers.map dropReturn = [Bytes.ofText "content-length: +2"] := by decide
    have hlength : (unknown.headers.map dropReturn).findSome?
        (valueIn HeaderName.contentLength.text) = some " +2" := by
      rw [hlines, List.findSome?_singleton, valueIn, readHeader, Bytes.toText?_ofText]
      rfl
    have hname : Bytes.toText? (dropReturn unknown.command) = some "NACK" :=
      Bytes.toText?_eq_some_iff.mpr (by decide)
    refine ⟨by decide, ⟨_, hname⟩, ⟨fun value hv => ?_, fun hn => ?_⟩, ⟨_, .command hname rfl⟩⟩
    · rw [hlength] at hv
      cases hv
      exact ⟨Text.below?_trim_eq_some_iff.mp (by decide), by decide⟩
    · rw [hlength] at hn
      cases hn
  have hbroken : broken.Bad := by
    have hlines : broken.headers.map dropReturn = [Bytes.ofText "none"] := by decide
    have hline : readHeader (Bytes.ofText "none") = .error (.noColon "none") := by
      rw [readHeader, Bytes.toText?_ofText]
      rfl
    have hlength : (broken.headers.map dropReturn).findSome?
        (valueIn HeaderName.contentLength.text) = none := by
      rw [hlines, List.findSome?_singleton, valueIn, hline]
    refine ⟨by decide, ⟨"SEND", Bytes.toText?_eq_some_iff.mpr (by decide)⟩,
      ⟨fun value hv => ?_, fun _ => by decide⟩,
      ⟨_, .header (.unreadable (by rw [hlines]; exact List.mem_cons_self) hline)⟩⟩
    rw [hlength] at hv
    cases hv
  have hsound : ∀ item ∈ items, item.Sound := by
    intro item hi
    simp only [items, List.mem_cons, List.not_mem_nil, or_false] at hi
    rcases hi with rfl | rfl | rfl | rfl | rfl
    · trivial
    · exact hm
    · exact hunknown
    · exact hbroken
    · trivial
  have hcut : pieces.flatten = items.flatMap Item.bytes := by
    simp [pieces, ← List.flatMap_def]
  exact ⟨hsound, hcut, readings_items hsound hcut⟩

end Frame
end BrokerRpc
