import BrokerRpc.Proofs.Frame.Lines
import Mathlib.Data.List.Induction

/-! # What a block and its body are read as

Each stage of reading is told by what it accepts: the header lines that give certain headers without
a fault, the body that holds a certain content, and with both the command line that gives a message.
-/
namespace BrokerRpc.Frame

/-! ## The headers -/

theorem add_eq_iff {block : Block} {line : Bytes} {headers : Headers} :
    block.add line = ⟨headers, none⟩ ↔ block.fault = none ∧ ∃ entry, readHeader line = .ok entry ∧
      entry.1 ∉ block.headers.keys ∧ headers = block.headers ++ [entry] := by
  have hf : ∀ reason, block.fail reason ≠ ⟨headers, none⟩ := by
    intro reason h
    have hr := congrArg Block.fault h
    cases hb : block.fault <;> simp [Block.fail, hb] at hr
  unfold Block.add
  cases hr : readHeader line with
  | error reason =>
    constructor
    · intro h
      exact absurd h (hf reason)
    · rintro ⟨_, _, he, _⟩
      cases he
  | ok entry =>
    obtain ⟨name, value⟩ := entry
    dsimp only
    split
    · rename_i hmem
      constructor
      · intro h
        exact absurd h (hf _)
      · rintro ⟨_, _, he, hnew, _⟩
        cases he
        exact absurd hmem hnew
    · rename_i hnew
      constructor
      · intro h
        have hh := congrArg Block.headers h
        have hn := congrArg Block.fault h
        exact ⟨hn, _, rfl, hnew, hh.symm⟩
      · rintro ⟨hn, _, he, _, rfl⟩
        cases he
        rw [hn]

theorem readHeaders_concat (lines : List Bytes) (line : Bytes) :
    readHeaders (lines ++ [line]) = (readHeaders lines).add line := by
  simp [readHeaders]

/-- Lines are read without a fault if each is a header and no name comes twice. -/
theorem readHeaders_eq_iff {lines : List Bytes} {headers : Headers} :
    readHeaders lines = ⟨headers, none⟩ ↔
      lines.map readHeader = headers.map .ok ∧ headers.Distinct := by
  -- the last line decides about the last header
  induction lines using List.reverseRecOn generalizing headers with
  | nil =>
    constructor
    · intro h
      cases h
      exact ⟨rfl, List.nodup_nil⟩
    · rintro ⟨h, _⟩
      rw [List.map_nil, eq_comm, List.map_eq_nil_iff] at h
      rw [h]
      rfl
  | append_singleton lines line ih =>
    rw [readHeaders_concat, add_eq_iff]
    constructor
    · rintro ⟨hn, entry, he, hnew, rfl⟩
      obtain ⟨hmap, hd⟩ := ih.mp (show readHeaders lines = ⟨_, none⟩ by rw [← hn])
      exact ⟨by simp [hmap, he], Assoc.distinct_append_iff.mpr ⟨hd, hnew⟩⟩
    · rintro ⟨hmap, hd⟩
      rw [List.map_append, List.map_singleton, List.append_eq_map_iff] at hmap
      obtain ⟨front, back, rfl, hfront, hback⟩ := hmap
      rw [List.map_eq_singleton_iff] at hback
      obtain ⟨entry, rfl, he⟩ := hback
      rw [Assoc.distinct_append_iff] at hd
      rw [ih.mpr ⟨hfront.symm, hd.1⟩]
      exact ⟨rfl, entry, he.symm, hd.2, rfl⟩

/-! ## The content -/

def EndsAt (content : Bytes) : Option (Option Nat) → Prop
  | none => terminator ∉ content
  | some none => False
  | some (some length) => length = content.length ∧ length ≤ maxFrameSize

theorem extent_eq_found_iff {declared : Option (Option Nat)} {body content rest : Bytes} :
    extent declared body = .found content rest ↔
      body = content ++ terminator :: rest ∧ EndsAt content declared := by
  constructor
  · intro h
    rcases declared with _ | _ | length
    · simp only [extent] at h
      cases hc : Bytes.cut? terminator body with
      | none => simp [hc] at h
      | some parts =>
        rw [hc] at h
        cases h
        exact Bytes.eq_of_cut? hc
    · cases h
    · simp only [extent] at h
      split at h
      · cases h
      · rename_i hmax
        split at h
        · cases h
        · rename_i last back hdrop
          split at h
          · rename_i hlast
            cases h
            have hlt : length < body.length := by
              by_cases hge : body.length ≤ length
              · rw [List.drop_eq_nil_of_le hge] at hdrop
                cases hdrop
              · omega
            refine ⟨?_, ?_, by omega⟩
            · rw [← hlast, ← hdrop, List.take_append_drop]
            · rw [List.length_take]
              omega
          · cases h
  · rintro ⟨rfl, hends⟩
    rcases declared with _ | _ | length
    · simp only [extent, Bytes.cut?_append rest hends]
    · exact absurd hends id
    · obtain ⟨rfl, hmax⟩ := hends
      have hle : ¬ maxFrameSize < content.length := by omega
      simp only [extent, if_neg hle, List.drop_left, List.take_left, if_pos]

/-! ## Command, headers and content -/

theorem decodeBlock_eq_ok_iff {b first body : Bytes} {lines : List Bytes} {m : Message} {n : Nat} :
    decodeBlock b first lines body = .ok (some (m, n)) ↔
      (∃ name, Bytes.toText? first = some name ∧ Command.ofWireName? name = some m.command) ∧
      readHeaders lines = ⟨m.headers, none⟩ ∧
      ∃ rest, body = m.content ++ terminator :: rest ∧
        EndsAt m.content (declaredLength m.headers) ∧ n = b.length - rest.length := by
  unfold decodeBlock
  cases hname : Bytes.toText? first with
  | none => simp [reject]
  | some name =>
    simp only [Option.some.injEq, exists_eq_left']
    constructor
    · intro h
      cases hext : extent (declaredLength (readHeaders lines).headers) body with
      | unfinished => simp [hext] at h
      | bad reason => simp [hext, reject] at h
      | found content rest =>
        simp only [hext] at h
        split at h
        · cases h
        · cases h
        · rename_i command hc hf
          cases h
          obtain ⟨hbody, hends⟩ := extent_eq_found_iff.mp hext
          refine ⟨hc, ?_, rest, hbody, hends, rfl⟩
          rw [← hf]
    · rintro ⟨hc, hheaders, rest, hbody, hends, rfl⟩
      have hext := extent_eq_found_iff.mpr ⟨hbody, hends⟩
      simp only [hheaders, hext, hc]

end BrokerRpc.Frame
