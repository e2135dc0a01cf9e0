import BrokerRpc.Proofs.Frame.Extension
import BrokerRpc.Proofs.Text.Encoding

/-! # Reading by positions

A buffer is read in place: positions run through it, and slices are taken between them. Here every
slice and every byte has to lie in the buffer and every sum has to fit a word, and there is no result
where one does not. This gives what reading by parts gives, so that no position is ever out of range.

Each stage reads what follows a front of the buffer, from the position where the front ends, and its
lemma says which part of the buffer its positions stand for.
-/
namespace BrokerRpc

namespace Bytes

/-- The length of the longest byte string that memory can hold. -/
def maxLength : Nat := 0x7fffffffffffffff

theorem lt_wordBound {b : Bytes} (h : b.length ≤ maxLength) : b.length < Text.wordBound := by
  unfold maxLength at h
  unfold Text.wordBound
  omega

def sum? (m n : Nat) : Option Nat := if m + n < Text.wordBound then some (m + n) else none

/-- The bytes between two positions, if both are in range and in order. -/
def slice? (b : Bytes) (start stop : Nat) : Option Bytes :=
  if start ≤ stop ∧ stop ≤ b.length then some ((b.take stop).drop start) else none

theorem sum?_eq_some {m n : Nat} (h : m + n < Text.wordBound) : sum? m n = some (m + n) :=
  if_pos h

theorem eq_add_of_sum? {m n k : Nat} (h : sum? m n = some k) : k = m + n := by
  unfold sum? at h
  split at h <;> cases h
  rfl

theorem slice?_append (front mid back : Bytes) :
    slice? (front ++ (mid ++ back)) front.length (front.length + mid.length) = some mid := by
  rw [slice?, if_pos ⟨by omega, by simp⟩, ← List.append_assoc, ← List.length_append,
    List.take_left, List.drop_left]

theorem slice?_end (front rest : Bytes) :
    slice? (front ++ rest) front.length (front ++ rest).length = some rest := by
  have h := slice?_append front rest []
  rwa [List.append_nil, ← List.length_append] at h

theorem length_of_slice? {b part : Bytes} {start stop : Nat} (h : slice? b start stop = some part) :
    start ≤ b.length ∧ part.length = stop - start := by
  unfold slice? at h
  split at h <;> cases h
  rw [List.length_drop, List.length_take]
  omega

theorem idxOf?_append {sep : UInt8} {front : Bytes} (h : sep ∉ front) (rest : Bytes) :
    (front ++ sep :: rest).idxOf? sep = some front.length := by
  have hfront : front.findIdx? (· == sep) = none := List.idxOf?_eq_none_iff.mpr h
  rw [List.idxOf?, List.findIdx?_append, hfront, List.findIdx?_cons]
  simp

end Bytes

namespace Frame

open Bytes

abbrev Decoded := Except Rejected (Option (Message × Nat))

def rejectAt (reason : Malformed) (b : Bytes) (pos : Nat) : Option Decoded := do
  let rest ← slice? b pos b.length
  match rest.idxOf? terminator with
  | none => return .error ⟨reason, b.length⟩
  | some offset => return .error ⟨reason, ← sum? (← sum? pos offset) 1⟩

theorem rejectAt_append {front rest : Bytes} (h : (front ++ rest).length < Text.wordBound)
    (reason : Malformed) : rejectAt reason (front ++ rest) front.length =
      some (reject reason (front ++ rest) (afterTerminator rest)) := by
  rw [rejectAt, slice?_end]
  by_cases hmem : terminator ∈ rest
  · obtain ⟨skipped, more, rfl, hn⟩ := List.eq_append_cons_of_mem hmem
    simp only [List.length_append, List.length_cons] at h
    have hstop := sum?_eq_some (m := front.length) (n := skipped.length) (by omega)
    have hend := sum?_eq_some (m := front.length + skipped.length) (n := 1) (by omega)
    have hconsumed : (front ++ (skipped ++ terminator :: more)).length - more.length =
        front.length + skipped.length + 1 := by
      simp only [List.length_append, List.length_cons]
      omega
    rw [afterTerminator_append hn, reject, hconsumed]
    simp [idxOf?_append hn, hstop, hend]
  · rw [afterTerminator_of_not_mem hmem, reject, List.length_nil, Nat.sub_zero]
    simp [List.idxOf?_eq_none_iff.mpr hmem]

/-! ## The block of lines -/

/-- The line from a position on and the position after its line feed, or what is left without a line
feed. -/
def lineAt (b : Bytes) (pos : Nat) : Option (Bytes × Option Nat) := do
  let rest ← slice? b pos b.length
  match rest.idxOf? lineFeed with
  | none => return (rest, none)
  | some offset =>
    let line ← slice? b pos (← sum? pos offset)
    return (line, ← sum? pos (← sum? offset 1))

theorem lineAt_bounds {b line : Bytes} {pos next : Nat}
    (h : lineAt b pos = some (line, some next)) : pos < next ∧ next ≤ b.length := by
  unfold lineAt at h
  obtain ⟨rest, hrest, h⟩ := Option.bind_eq_some_iff.mp h
  cases hoffset : rest.idxOf? lineFeed with
  | none => simp [hoffset] at h
  | some offset =>
    rw [hoffset] at h
    obtain ⟨stop, -, h⟩ := Option.bind_eq_some_iff.mp h
    obtain ⟨part, -, h⟩ := Option.bind_eq_some_iff.mp h
    obtain ⟨step, hstep, h⟩ := Option.bind_eq_some_iff.mp h
    obtain ⟨after, hafter, h⟩ := Option.bind_eq_some_iff.mp h
    cases h
    have hlength := length_of_slice? hrest
    have hlt : offset < rest.length := (List.findIdx?_eq_some_iff_getElem.mp hoffset).1
    have hstep := eq_add_of_sum? hstep
    have hafter := eq_add_of_sum? hafter
    omega

theorem lineAt_append {front rest : Bytes} (h : (front ++ rest).length < Text.wordBound) :
    lineAt (front ++ rest) front.length = some (match cut? lineFeed rest with
      | none => (rest, none)
      | some (line, _) => (line, some (front ++ line ++ [lineFeed]).length)) := by
  rw [lineAt, slice?_end]
  cases hcut : cut? lineFeed rest with
  | none => simp [List.idxOf?_eq_none_iff.mpr (cut?_eq_none_iff.mp hcut)]
  | some parts =>
    obtain ⟨line, more⟩ := parts
    obtain ⟨rfl, hn⟩ := eq_of_cut? hcut
    simp only [List.length_append, List.length_cons] at h
    have hstop := sum?_eq_some (m := front.length) (n := line.length) (by omega)
    have hstep := sum?_eq_some (m := line.length) (n := 1) (by omega)
    have hnext := sum?_eq_some (m := front.length) (n := line.length + 1) (by omega)
    have hline := slice?_append front line (lineFeed :: more)
    simp [idxOf?_append hn, hstop, hstep, hnext, hline]

inductive HeadAt where
  | unfinished
  | broken (pos : Nat)
  | block (lines : List Bytes) (body : Nat)

def HeadAt.cons (line : Bytes) : HeadAt → HeadAt
  | block lines body => block (line :: lines) body
  | other => other

def headAt (b : Bytes) (pos : Nat) : Option HeadAt :=
  match _h : lineAt b pos with
  | none => none
  | some (line, next) =>
    if terminator ∈ line then some (.broken pos)
    else
      match next with
      | none => some .unfinished
      | some next =>
        if dropReturn line = [] then some (.block [] next)
        else (headAt b next).map (.cons (dropReturn line))
termination_by b.length - pos
decreasing_by
  have hbounds := lineAt_bounds _h
  omega

def Head.located (b : Bytes) : Head → HeadAt
  | unfinished => .unfinished
  | broken bytes => .broken (b.length - bytes.length)
  | block lines body => .block lines (b.length - body.length)

theorem Head.located_cons (b line : Bytes) (h : Head) :
    (h.cons line).located b = (h.located b).cons line := by
  cases h <;> rfl

theorem headAt_of_lineAt {b line : Bytes} {pos : Nat} {next : Option Nat}
    (h : lineAt b pos = some (line, next)) : headAt b pos =
      if terminator ∈ line then some (.broken pos)
      else
        match next with
        | none => some .unfinished
        | some next =>
          if dropReturn line = [] then some (.block [] next)
          else (headAt b next).map (.cons (dropReturn line)) := by
  rw [headAt]
  split
  · rename_i hs
    cases h.symm.trans hs
  · rename_i hs
    cases h.symm.trans hs
    cases next <;> rfl

/-- The positions of a block are those of the parts that it is cut into. -/
theorem headAt_append {front rest : Bytes} (h : (front ++ rest).length < Text.wordBound) :
    headAt (front ++ rest) front.length = some ((head rest).located (front ++ rest)) := by
  have hline := headAt_of_lineAt (lineAt_append h)
  -- along the lines of `rest`: each of them moves from the rest to the front
  fun_induction head rest generalizing front with
  | case1 b hcut ht => simp [hline, hcut, ht, Head.located]
  | case2 b hcut ht => simp [hline, hcut, ht, Head.located]
  | case3 b raw rest hcut ht => simp [hline, hcut, ht, Head.located]
  | case4 b raw rest hcut ht hblank =>
    obtain ⟨rfl, -⟩ := eq_of_cut? hcut
    have hat : (front ++ (raw ++ lineFeed :: rest)).length - rest.length =
        (front ++ raw ++ [lineFeed]).length := by
      simp only [List.length_append, List.length_cons, List.length_nil]
      omega
    simp only [hline, hcut, ht, hblank, if_false, if_true, Head.located, hat]
  | case5 b raw rest hcut ht hne ih =>
    obtain ⟨rfl, -⟩ := eq_of_cut? hcut
    have hsplit : front ++ (raw ++ lineFeed :: rest) = front ++ raw ++ [lineFeed] ++ rest := by simp
    have hnext := @ih (front ++ raw ++ [lineFeed]) (hsplit ▸ h)
      (headAt_of_lineAt (lineAt_append (hsplit ▸ h)))
    rw [← hsplit] at hnext
    simp only [hline, hcut, ht, hne, if_false, hnext, Option.map_some, Head.located_cons]

/-! ## Headers -/

/-- Reads one header line, whose texts have to be cut between characters. -/
def readHeaderAt (line : Bytes) : Option (Except Malformed (String × String)) :=
  match toText? line with
  | none => some (.error .headerNotText)
  | some text =>
    match line.idxOf? colon with
    | none => some (.error (.noColon text))
    | some pos => do
      -- what is cut off between the bytes of one character is no text
      let written ← toText? (← slice? line 0 pos)
      let rest ← toText? (← slice? line (← sum? pos 1) line.length)
      return do
        let name ← HeaderText.unescape written.toList
        if name = "" then throw .emptyName
        let value ← HeaderText.unescape rest.toList
        return (name, value)

def Block.take (block : Block) : Except Malformed (String × String) → Block
  | .error reason => block.fail reason
  | .ok (name, value) =>
    if name ∈ block.headers.keys then block.fail (.duplicateHeader name)
    else { block with headers := block.headers ++ [(name, value)] }

def readHeadersAt (block : Block) : List Bytes → Option Block
  | [] => some block
  | line :: lines => do readHeadersAt (block.take (← readHeaderAt line)) lines

theorem ofText_colon (name value : List Char) :
    ofText (String.ofList (name ++ ':' :: value)) =
      ofText (String.ofList name) ++ colon :: ofText (String.ofList value) := by
  have hcolon : String.utf8EncodeChar ':' = [colon] := utf8EncodeChar_of_ascii (by decide)
  rw [ofText_ofList, ofText_ofList, ofText_ofList, ofChars_append, ofChars_cons, hcolon,
    List.singleton_append]

theorem colon_mem_ofText_iff (text : String) : colon ∈ ofText text ↔ ':' ∈ text.toList :=
  mem_ofText_iff (by decide) text

theorem readHeaderAt_append {written rest : Bytes} {text name value : String}
    (h : (written ++ colon :: rest).length < Text.wordBound) (hn : colon ∉ written)
    (htext : toText? (written ++ colon :: rest) = some text) (hname : toText? written = some name)
    (hvalue : toText? rest = some value) :
    readHeaderAt (written ++ colon :: rest) = some (do
      let key ← HeaderText.unescape name.toList
      if key = "" then throw .emptyName
      let text ← HeaderText.unescape value.toList
      return (key, text)) := by
  rw [List.length_append, List.length_cons] at h
  have hnext := sum?_eq_some (m := written.length) (n := 1) (by omega)
  have hfront := slice?_append [] written (colon :: rest)
  rw [List.nil_append, List.length_nil, Nat.zero_add] at hfront
  have hback := slice?_end (written ++ [colon]) rest
  rw [List.append_assoc, List.singleton_append, List.length_append, List.length_singleton] at hback
  simp only [readHeaderAt, htext, idxOf?_append hn, hnext, hfront, hback, hname, hvalue, bind,
    pure, Option.bind]

/-- A colon is one byte, so that a text is cut there between characters. -/
theorem readHeaderAt_eq {line : Bytes} (h : line.length < Text.wordBound) :
    readHeaderAt line = some (readHeader line) := by
  cases htext : toText? line with
  | none => simp [readHeaderAt, readHeader, htext]
  | some text =>
    obtain rfl := eq_ofText_of_toText? htext
    by_cases hcolon : ':' ∈ text.toList
    · obtain ⟨name, value, hsplit, hn⟩ := List.eq_append_cons_of_mem hcolon
      obtain rfl : text = String.ofList (name ++ ':' :: value) := by
        rw [← hsplit, String.ofList_toList]
      have hbyte : colon ∉ ofText (String.ofList name) := by
        rwa [colon_mem_ofText_iff, String.toList_ofList]
      rw [readHeader_ofText hn]
      rw [ofText_colon] at htext h ⊢
      rw [readHeaderAt_append h hbyte htext (toText?_ofText _) (toText?_ofText _),
        String.toList_ofList, String.toList_ofList]
    · have hdrop : text.toList.dropWhile (· != ':') = [] := by
        rw [List.dropWhile_eq_nil_iff]
        intro c hc
        rw [bne_iff_ne]
        rintro rfl
        exact hcolon hc
      have hnone := List.idxOf?_eq_none_iff.mpr (mt (colon_mem_ofText_iff text).mp hcolon)
      simp [readHeaderAt, readHeader, htext, hdrop, hnone]

theorem readHeadersAt_eq {lines : List Bytes} (h : ∀ line ∈ lines, line.length < Text.wordBound)
    (block : Block) : readHeadersAt block lines = some (lines.foldl Block.add block) := by
  induction lines generalizing block with
  | nil => rfl
  | cons line lines ih =>
    rw [readHeadersAt, readHeaderAt_eq (h line List.mem_cons_self)]
    exact ih (fun more hmore => h more (List.mem_cons_of_mem _ hmore)) (block.add line)

/-! ## The body -/

inductive ExtentAt where
  | unfinished
  | bad (reason : Malformed)
  | found (content : Bytes) (stop : Nat)

def contentAt (b : Bytes) (pos stop : Nat) : Option ExtentAt := do
  return .found (← slice? b pos stop) (← sum? stop 1)

def extentAt (declared : Option (Option Nat)) (b : Bytes) (pos : Nat) : Option ExtentAt :=
  match declared with
  | some none => some (.bad .badLength)
  | some (some length) =>
    -- this one sum may fail: the length is what the other side says
    match sum? pos length with
    | none => some (.bad (.lengthTooLarge length))
    | some stop =>
      if maxFrameSize < length then some (.bad (.lengthTooLarge length))
      else if b.length ≤ stop then some .unfinished
      else do
        if (← b[stop]?) = terminator then contentAt b pos stop
        else return .bad (.lengthMismatch length)
  | none => do
    let rest ← slice? b pos b.length
    match rest.idxOf? terminator with
    | none => return .unfinished
    | some offset => contentAt b pos (← sum? pos offset)

def Extent.located (b : Bytes) : Extent → ExtentAt
  | unfinished => .unfinished
  | bad reason => .bad reason
  | found content rest => .found content (b.length - rest.length)

theorem contentAt_append {front content rest : Bytes}
    (h : (front ++ (content ++ terminator :: rest)).length < Text.wordBound) :
    contentAt (front ++ (content ++ terminator :: rest)) front.length
        (front.length + content.length) =
      some ((Extent.found content rest).located (front ++ (content ++ terminator :: rest))) := by
  simp only [List.length_append, List.length_cons] at h
  have hstop := sum?_eq_some (m := front.length + content.length) (n := 1) (by omega)
  have hat : (front ++ (content ++ terminator :: rest)).length - rest.length =
      front.length + content.length + 1 := by
    simp only [List.length_append, List.length_cons]
    omega
  rw [contentAt, slice?_append front content, hstop, Extent.located, hat]
  rfl

theorem extentAt_open {front body : Bytes} (h : (front ++ body).length < Text.wordBound) :
    extentAt none (front ++ body) front.length =
      some ((extent none body).located (front ++ body)) := by
  rw [extentAt, slice?_end, extent]
  cases hcut : cut? terminator body with
  | none => simp [List.idxOf?_eq_none_iff.mpr (cut?_eq_none_iff.mp hcut), Extent.located]
  | some parts =>
    obtain ⟨content, rest⟩ := parts
    obtain ⟨rfl, hn⟩ := eq_of_cut? hcut
    have hcontent := contentAt_append h
    simp only [List.length_append, List.length_cons] at h
    have hstop := sum?_eq_some (m := front.length) (n := content.length) (by omega)
    simp [idxOf?_append hn, hstop, hcontent]

theorem exists_append_of_lt {body : Bytes} {length : Nat} (h : length < body.length) :
    ∃ content last rest, body = content ++ last :: rest ∧ length = content.length := by
  refine ⟨body.take length, body[length], body.drop (length + 1), ?_, ?_⟩
  · rw [← List.drop_eq_getElem_cons, List.take_append_drop]
  · rw [List.length_take]
    omega

theorem extentAt_declared {front body : Bytes} {length : Nat}
    (h : (front ++ body).length < Text.wordBound)
    (hstop : length ≤ maxFrameSize → sum? front.length length = some (front.length + length)) :
    extentAt (some (some length)) (front ++ body) front.length =
      some ((extent (some (some length)) body).located (front ++ body)) := by
  by_cases hmax : maxFrameSize < length
  · -- whether the sum fits a word makes no difference
    rw [extentAt, extent, if_pos hmax]
    cases sum? front.length length with
    | none => rfl
    | some stop => exact if_pos hmax
  rw [extentAt, hstop (by omega), extent, if_neg hmax]
  by_cases hshort : body.length ≤ length
  · have hend : (front ++ body).length ≤ front.length + length := by
      rw [List.length_append]
      omega
    simp only [if_neg hmax, if_pos hend, List.drop_eq_nil_of_le hshort, Extent.located]
  · obtain ⟨content, last, rest, rfl, rfl⟩ := exists_append_of_lt (by omega : length < body.length)
    have hlong : ¬ (front ++ (content ++ last :: rest)).length ≤
        front.length + content.length := by
      simp only [List.length_append, List.length_cons]
      omega
    have hbyte : (front ++ (content ++ last :: rest))[front.length + content.length]? =
        some last := by simp
    simp only [if_neg hmax, if_neg hlong, hbyte, List.drop_left, List.take_left]
    by_cases hlast : last = terminator
    · subst hlast
      simp only [if_true, bind, Option.bind, contentAt_append h]
    · simp only [hlast, if_false, Extent.located, bind, pure, Option.bind]

theorem sum?_declared {b : Bytes} {pos length : Nat} (h : b.length ≤ maxLength)
    (hpos : pos ≤ b.length) (hmax : length ≤ maxFrameSize) :
    sum? pos length = some (pos + length) := by
  unfold maxLength at h
  unfold maxFrameSize at hmax
  exact sum?_eq_some (by unfold Text.wordBound; omega)

theorem extentAt_append {front body : Bytes} (h : (front ++ body).length ≤ maxLength)
    (declared : Option (Option Nat)) : extentAt declared (front ++ body) front.length =
      some ((extent declared body).located (front ++ body)) := by
  have hword := lt_wordBound h
  rcases declared with _ | _ | length
  · exact extentAt_open hword
  · rfl
  · exact extentAt_declared hword (sum?_declared h (by simp))

/-! ## Reading -/

def decodeBlockAt (b first : Bytes) (lines : List Bytes) (pos : Nat) : Option Decoded :=
  match toText? first with
  | none => rejectAt .commandNotText b pos
  | some name => do
    let block ← readHeadersAt {} lines
    match ← extentAt (declaredLength block.headers) b pos with
    | .unfinished => return .ok none
    | .bad reason => rejectAt reason b pos
    | .found content stop =>
      match Command.ofWireName? name, block.fault with
      | none, _ => return .error ⟨.unknownCommand name, stop⟩
      | some _, some reason => return .error ⟨reason, stop⟩
      | some command, none => return .ok (some (⟨command, block.headers, content⟩, stop))

def decodeFrameAt (b : Bytes) : Option Decoded := do
  match ← headAt b 0 with
  | .unfinished => return .ok none
  | .broken pos => rejectAt .terminatedInHead b pos
  | .block [] pos => rejectAt .missingCommand b pos
  | .block (first :: lines) pos => decodeBlockAt b first lines pos

/-- Reads one frame or heartbeat from the front of a buffer by positions; `none` if one of them is
out of range. -/
def decodeAt (b : Bytes) : Option Decoded :=
  -- heartbeats are told by the first bytes, for which no position is looked up
  if b = [] ∨ b = [carriageReturn] then some (.ok none)
  else if [lineFeed] <+: b then some (.ok (some (Message.heartbeat, 1)))
  else if [carriageReturn, lineFeed] <+: b then some (.ok (some (Message.heartbeat, 2)))
  else decodeFrameAt b

theorem length_le_of_mem_lines {b body : Bytes} {lines : List Bytes}
    (h : head b = .block lines body) : ∀ line ∈ lines, line.length ≤ b.length := by
  obtain ⟨raws, blank, -, -, rfl, rfl⟩ := exists_rawLines_of_head h
  intro line hline
  obtain ⟨raw, hraw, rfl⟩ := List.mem_map.mp hline
  have hdrop : (dropReturn raw).length ≤ raw.length := by
    unfold dropReturn
    split <;> simp
  have hjoined : raw.length ≤ (joined raws).length := by
    obtain ⟨before, after, rfl⟩ := List.append_of_mem hraw
    simp [joined]
    omega
  rw [List.length_append]
  omega

theorem decodeBlockAt_append {front body first : Bytes} {lines : List Bytes}
    (h : (front ++ body).length ≤ maxLength)
    (hlines : ∀ line ∈ lines, line.length < Text.wordBound) :
    decodeBlockAt (front ++ body) first lines front.length =
      some (decodeBlock (front ++ body) first lines body) := by
  have hreject := rejectAt_append (lt_wordBound h)
  have hheaders : readHeadersAt {} lines = some (readHeaders lines) := readHeadersAt_eq hlines {}
  unfold decodeBlockAt decodeBlock
  cases htext : toText? first with
  | none => simp only [hreject]
  | some name =>
    simp only [hheaders, extentAt_append h, bind, Option.bind]
    cases extent (declaredLength (readHeaders lines).headers) body with
    | unfinished => rfl
    | bad reason => exact hreject reason
    | found content rest =>
      simp only [Extent.located]
      rcases Command.ofWireName? name with _ | command
      · rfl
      · rcases (readHeaders lines).fault with _ | reason <;> rfl

theorem decodeFrameAt_eq {b : Bytes} (h : b.length ≤ maxLength) :
    decodeFrameAt b = some (decodeFrame b) := by
  have hword := lt_wordBound h
  have hhead : headAt b 0 = some ((head b).located b) := @headAt_append [] b hword
  unfold decodeFrameAt decodeFrame
  rw [hhead]
  cases hb : head b with
  | unfinished => rfl
  | broken bytes =>
    obtain ⟨-, front, rfl⟩ := terminator_mem_of_broken hb
    have hat : (front ++ bytes).length - bytes.length = front.length := by simp
    simp only [Head.located, hat, bind, Option.bind, rejectAt_append hword]
  | block lines body =>
    have hlines := length_le_of_mem_lines hb
    obtain ⟨front, rfl⟩ : ∃ front, b = front ++ body := by
      obtain ⟨raws, blank, -, -, -, rfl⟩ := exists_rawLines_of_head hb
      exact ⟨joined raws ++ blank ++ [lineFeed], by simp⟩
    have hat : (front ++ body).length - body.length = front.length := by simp
    simp only [Head.located, hat, bind, Option.bind]
    cases lines with
    | nil => exact rejectAt_append hword _
    | cons first lines =>
      refine decodeBlockAt_append h fun line hline => ?_
      exact lt_of_le_of_lt (hlines line (List.mem_cons_of_mem _ hline)) hword

/-- No position is out of range and no sum of positions is too large, however long a content is said
to be. -/
theorem decodeAt_eq {b : Bytes} (h : b.length ≤ maxLength) : decodeAt b = some (decode b) := by
  have hframe := decodeFrameAt_eq h
  unfold decodeAt decode
  cases b with
  | nil => rfl
  | cons c rest =>
    by_cases hl : c = lineFeed
    · subst hl
      simp [lineFeed, carriageReturn]
    by_cases hc : c = carriageReturn
    · subst hc
      cases rest with
      | nil => rfl
      | cons d rest =>
        by_cases hd : d = lineFeed
        · subst hd
          simp [lineFeed, carriageReturn]
        · simp [hl, Ne.symm hl, Ne.symm hd, hd, hframe]
    · simp [hl, hc, Ne.symm hl, Ne.symm hc, hframe]

end Frame
end BrokerRpc
