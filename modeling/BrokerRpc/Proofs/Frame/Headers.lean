import BrokerRpc.Frame.Codec
import BrokerRpc.Proofs.Text.Numeral
import Mathlib.Data.List.Induction

/-! # Messages as ordered maps

A message is put together by writes to its headers and its content, in any order. Its headers are
then a map: each name once, in the order of the first writes, with the value of the last one. To
attach a content is a write as well, so that the length that is stated is the length of the content
as long as nobody writes another one over it.
-/
namespace BrokerRpc

/-! ## Tables -/

namespace Assoc
variable {κ α : Type} [DecidableEq κ]

def ofWrites (writes : List (κ × α)) : Assoc κ α :=
  writes.foldl (fun t entry => t.put entry.1 entry.2) []

theorem ofWrites_concat (writes : List (κ × α)) (entry : κ × α) :
    ofWrites (writes ++ [entry]) = (ofWrites writes).put entry.1 entry.2 := by
  simp [ofWrites]

theorem distinct_ofWrites (writes : List (κ × α)) : (ofWrites writes).Distinct := by
  induction writes using List.reverseRecOn with
  | nil => exact List.nodup_nil
  | append_singleton writes entry ih =>
    rw [ofWrites_concat]
    exact distinct_put _ _ ih

/-- The keys stand in the order of their first writes. -/
theorem keys_ofWrites (writes : List (κ × α)) :
    (ofWrites writes).keys = (writes.map Prod.fst).eraseDups := by
  induction writes using List.reverseRecOn with
  | nil => rfl
  | append_singleton writes entry ih =>
    have hmem : entry.1 ∈ (ofWrites writes).keys ↔ entry.1 ∈ writes.map Prod.fst := by
      rw [ih, List.mem_eraseDups]
    rw [ofWrites_concat, keys_put, ih, List.map_append, List.eraseDups_append]
    by_cases h : entry.1 ∈ writes.map Prod.fst
    · rw [if_pos (ih ▸ hmem.mpr h)]
      simp [List.removeAll, h]
    · rw [if_neg fun hkeys => h (hmem.mp (ih ▸ hkeys))]
      simp [List.removeAll, h, List.eraseDups_cons]

theorem get?_ofWrites (writes : List (κ × α)) (key : κ) :
    (ofWrites writes).get? key = writes.reverse.lookup key := by
  induction writes using List.reverseRecOn with
  | nil => rfl
  | append_singleton writes entry ih =>
    rw [ofWrites_concat, get?_put, ih, List.reverse_concat, List.lookup_cons]
    by_cases hk : key = entry.1
    · simp [hk]
    · rw [if_neg hk, beq_eq_false_iff_ne.mpr hk]

/-- A key has the value of its last write. -/
theorem get?_ofWrites_eq_some_iff {writes : List (κ × α)} {key : κ} {value : α} :
    (ofWrites writes).get? key = some value ↔ ∃ before after,
      writes = before ++ (key, value) :: after ∧ key ∉ after.map Prod.fst := by
  rw [get?_ofWrites, List.lookup_eq_some_iff]
  constructor
  · rintro ⟨later, earlier, hsplit, hlater⟩
    refine ⟨earlier.reverse, later.reverse, by simp [List.reverse_eq_iff.mp hsplit], ?_⟩
    intro hmem
    obtain ⟨entry, hentry, rfl⟩ := List.mem_map.mp hmem
    simpa using hlater entry (List.mem_reverse.mp hentry)
  · rintro ⟨before, after, rfl, hafter⟩
    refine ⟨after.reverse, before.reverse, by simp, fun entry hentry => ?_⟩
    rw [bne_iff_ne]
    rintro rfl
    exact hafter (List.mem_map_of_mem (List.mem_reverse.mp hentry))

end Assoc

/-! ## Messages -/

namespace Message

inductive Edit where
  | header (name value : String)
  | content (bytes : Bytes)

def Edit.entry : Edit → String × String
  | header name value => (name, value)
  | content bytes => (HeaderName.contentLength.text, Text.decimal bytes.length)

def Edit.content? : Edit → Option Bytes
  | header _ _ => none
  | content bytes => some bytes

def edit (m : Message) : Edit → Message
  | .header name value => m.withHeader name value
  | .content bytes => m.withContent bytes

def edited (command : Command) (edits : List Edit) : Message := edits.foldl edit (new command)

theorem edited_concat (command : Command) (edits : List Edit) (e : Edit) :
    edited command (edits ++ [e]) = (edited command edits).edit e := by
  simp [edited]

theorem headers_edit (m : Message) (e : Edit) :
    (m.edit e).headers = m.headers.put e.entry.1 e.entry.2 := by
  cases e <;> rfl

theorem content_edit (m : Message) (e : Edit) : (m.edit e).content = e.content?.getD m.content := by
  cases e <;> rfl

theorem command_edited (command : Command) (edits : List Edit) :
    (edited command edits).command = command := by
  induction edits using List.reverseRecOn with
  | nil => rfl
  | append_singleton edits e ih =>
    rw [edited_concat]
    cases e <;> exact ih

theorem headers_edited (command : Command) (edits : List Edit) :
    (edited command edits).headers = Assoc.ofWrites (edits.map Edit.entry) := by
  induction edits using List.reverseRecOn with
  | nil => rfl
  | append_singleton edits e ih =>
    rw [edited_concat, headers_edit, ih, List.map_append, List.map_singleton, Assoc.ofWrites_concat]

theorem content_edited (command : Command) (edits : List Edit) :
    (edited command edits).content = (edits.filterMap Edit.content?).getLast?.getD [] := by
  induction edits using List.reverseRecOn with
  | nil => rfl
  | append_singleton edits e ih =>
    rw [edited_concat, content_edit, ih, List.filterMap_append]
    cases h : e.content? <;> simp [h]

/-- A content stays, and its length stays stated, until another one is attached or written. -/
theorem contentLength_edited (command : Command) (before : List Edit) (bytes : Bytes)
    {after : List Edit}
    (hheader : ∀ value, Edit.header HeaderName.contentLength.text value ∉ after)
    (hcontent : ∀ later, Edit.content later ∉ after) :
    let m := edited command (before ++ .content bytes :: after)
    m.content = bytes ∧ m.field? .contentLength = some (Text.decimal bytes.length) := by
  have hnone : after.filterMap Edit.content? = [] := by
    rw [List.filterMap_eq_nil_iff]
    intro e he
    cases e with
    | header name value => rfl
    | content later => exact absurd he (hcontent later)
  have hkept : HeaderName.contentLength.text ∉ (after.map Edit.entry).map Prod.fst := by
    rw [List.map_map, List.mem_map]
    rintro ⟨e, he, hname⟩
    cases e with
    | header name value =>
      obtain rfl : name = HeaderName.contentLength.text := hname
      exact hheader value he
    | content later => exact hcontent later he
  constructor
  · rw [content_edited, List.filterMap_append, List.filterMap_cons, hnone]
    simp [Edit.content?]
  · rw [field?, header?, headers_edited, Assoc.get?_ofWrites_eq_some_iff]
    exact ⟨before.map Edit.entry, after.map Edit.entry, by simp [Edit.entry], hkept⟩

/-- However a message is put together, its headers are an ordered map: each name once, in the order
of the first writes, with the value of the last one. It has the content that was attached last, and
unless somebody writes a length after that, the true one is stated, and read if it is a word. -/
theorem edited_as_map (command : Command) (edits : List Edit) :
    let m := edited command edits
    let writes := edits.map Edit.entry
    m.command = command ∧ m.headers.Distinct ∧
    m.headers.keys = (writes.map Prod.fst).eraseDups ∧
    (∀ name value, m.header? name = some value ↔ ∃ before after,
      writes = before ++ (name, value) :: after ∧ name ∉ after.map Prod.fst) ∧
    (∀ name, m.header? name = none ↔ name ∉ writes.map Prod.fst) ∧
    m.content = (edits.filterMap Edit.content?).getLast?.getD [] ∧
    ∀ before bytes after, edits = before ++ .content bytes :: after →
      (∀ value, Edit.header HeaderName.contentLength.text value ∉ after) →
      (∀ later, Edit.content later ∉ after) →
      m.field? .contentLength = some (Text.decimal m.content.length) ∧
      (m.content.length < Text.wordBound →
        Frame.declaredLength m.headers = some (some m.content.length)) := by
  intro m writes
  have hheaders : m.headers = Assoc.ofWrites writes := headers_edited command edits
  refine ⟨command_edited command edits, ?_, ?_, fun name value => ?_, fun name => ?_,
    content_edited command edits, ?_⟩
  · rw [hheaders]
    exact Assoc.distinct_ofWrites writes
  · rw [hheaders]
    exact Assoc.keys_ofWrites writes
  · rw [header?, hheaders]
    exact Assoc.get?_ofWrites_eq_some_iff
  · rw [header?, hheaders, Assoc.get?_eq_none_iff, Assoc.keys_ofWrites, List.mem_eraseDups]
  · rintro before bytes after rfl hheader hcontent
    obtain ⟨hbytes, hlength⟩ := contentLength_edited command before bytes hheader hcontent
    have hcontent' : m.content = bytes := hbytes
    have hget : m.headers.get? HeaderName.contentLength.text =
        some (Text.decimal bytes.length) := hlength
    rw [hcontent']
    refine ⟨hlength, fun hword => ?_⟩
    rw [Frame.declaredLength, hget, Option.map_some, Text.below?_trim_decimal hword]

/-- A header is written twice around a content, whose own length replaces one that was written by
hand. -/
theorem edited_as_map_rewritten :
    let edits : List Edit := [.header "id" "1", .header "content-length" "9", .content [97, 0],
      .header "id" "2", .header "receipt" ""]
    let m := edited .send edits
    m.header? "id" = some "2" ∧ m.headers.keys = ["id", "content-length", "receipt"] ∧
      m.field? .contentLength = some (Text.decimal m.content.length) := by
  intro edits m
  obtain ⟨-, -, hkeys, hlast, -, -, hlength⟩ := edited_as_map .send edits
  have hid : m.header? "id" = some "2" := (hlast "id" "2").mpr
    ⟨[("id", "1"), ("content-length", "9"), ("content-length", "2")], [("receipt", "")], rfl,
      by decide⟩
  refine ⟨hid, hkeys.trans (by decide), ?_⟩
  refine (hlength [.header "id" "1", .header "content-length" "9"] [97, 0]
    [.header "id" "2", .header "receipt" ""] rfl (fun value => ?_) fun later => ?_).1
  · simp [HeaderName.text]
  · simp

end Message
end BrokerRpc
