import BrokerRpc.Frame.Stream
import BrokerRpc.Proofs.Frame.Grammar

/-! # Reading when more bytes follow

A frame that was read stays the same frame whatever follows it. So does a rejection whose end has
arrived. A rejection that only looks for the next terminator keeps its reason; as long as no
terminator is there it drops the whole buffer, and it would drop more if more were there.
-/
namespace BrokerRpc

/-- Whether a rejection for this reason drops bytes up to the next terminator, because nothing else
tells where the frame ends. -/
def Malformed.seeks : Malformed → Bool
  | .missingCommand | .commandNotText | .badLength | .lengthTooLarge _ | .lengthMismatch _ => true
  | _ => false

namespace Frame

/-! ## The next terminator -/

theorem afterTerminator_of_not_mem {b : Bytes} (h : terminator ∉ b) : afterTerminator b = [] := by
  rw [afterTerminator, Bytes.cut?_eq_none_iff.mpr h]

theorem afterTerminator_append {front : Bytes} (h : terminator ∉ front) (rest : Bytes) :
    afterTerminator (front ++ terminator :: rest) = rest := by
  rw [afterTerminator, Bytes.cut?_append rest h]

theorem exists_append_afterTerminator {b : Bytes} (h : b ≠ []) :
    ∃ front, front ≠ [] ∧ b = front ++ afterTerminator b := by
  by_cases hmem : terminator ∈ b
  · obtain ⟨front, rest, rfl, hf⟩ := List.eq_append_cons_of_mem hmem
    exact ⟨front ++ [terminator], by simp, by simp [afterTerminator_append hf]⟩
  · exact ⟨b, h, by rw [afterTerminator_of_not_mem hmem, List.append_nil]⟩

theorem afterTerminator_of_append {b : Bytes} (h : terminator ∉ b) (e : Bytes) :
    afterTerminator (b ++ e) = afterTerminator e := by
  by_cases hmem : terminator ∈ e
  · obtain ⟨front, rest, rfl, hf⟩ := List.eq_append_cons_of_mem hmem
    have hn : terminator ∉ b ++ front := by simp [h, hf]
    rw [← List.append_assoc, afterTerminator_append hn, afterTerminator_append hf]
  · have hn : terminator ∉ b ++ e := by simp [h, hmem]
    rw [afterTerminator_of_not_mem hn, afterTerminator_of_not_mem hmem]

/-! ## The block of lines -/

def Head.append (e : Bytes) : Head → Head
  | unfinished => unfinished
  | broken bytes => broken (bytes ++ e)
  | block lines body => block lines (body ++ e)

theorem Head.append_cons (e line : Bytes) (h : Head) :
    (h.cons line).append e = (h.append e).cons line := by
  cases h <;> rfl

theorem head_of_terminator {raw : Bytes} (hl : lineFeed ∉ raw) (ht : terminator ∈ raw)
    (rest : Bytes) : head (raw ++ rest) = .broken (raw ++ rest) := by
  by_cases hr : lineFeed ∈ rest
  · obtain ⟨front, back, rfl, hf⟩ := List.eq_append_cons_of_mem hr
    have hn : lineFeed ∉ raw ++ front := by simp [hl, hf]
    rw [← List.append_assoc, head_append hn, if_pos (List.mem_append_left _ ht)]
  · have hn : lineFeed ∉ raw ++ rest := by simp [hl, hr]
    rw [head_of_not_mem hn, if_pos (List.mem_append_left _ ht)]

theorem head_append_of_ne {b : Bytes} (h : head b ≠ .unfinished) (e : Bytes) :
    head (b ++ e) = (head b).append e := by
  fun_induction head b with
  | case1 b hcut ht => exact head_of_terminator (Bytes.cut?_eq_none_iff.mp hcut) ht e
  | case2 => exact absurd rfl h
  | case3 b raw rest hcut ht =>
    obtain ⟨rfl, hl⟩ := Bytes.eq_of_cut? hcut
    rw [List.append_assoc, List.cons_append, head_append hl, if_pos ht]
    simp [Head.append]
  | case4 b raw rest hcut ht hblank =>
    obtain ⟨rfl, hl⟩ := Bytes.eq_of_cut? hcut
    rw [List.append_assoc, List.cons_append, head_append hl, if_neg ht, if_pos hblank]
    rfl
  | case5 b raw rest hcut ht hne ih =>
    obtain ⟨rfl, hl⟩ := Bytes.eq_of_cut? hcut
    have hrest : head rest ≠ .unfinished := by
      intro hu
      rw [hu] at h
      exact h rfl
    rw [List.append_assoc, List.cons_append, head_append hl, if_neg ht, if_neg hne, ih hrest,
      Head.append_cons]

theorem terminator_mem_of_broken {b bytes : Bytes} (h : head b = .broken bytes) :
    terminator ∈ bytes ∧ ∃ front, b = front ++ bytes := by
  fun_induction head b with
  | case1 b _ ht =>
    cases h
    exact ⟨ht, [], rfl⟩
  | case2 => cases h
  | case3 b raw rest hcut ht =>
    cases h
    rw [(Bytes.eq_of_cut? hcut).1]
    exact ⟨List.mem_append_left _ ht, [], rfl⟩
  | case4 => cases h
  | case5 b raw rest hcut _ _ ih =>
    cases hr : head rest with
    | unfinished => simp [hr, Head.cons] at h
    | block lines body => simp [hr, Head.cons] at h
    | broken more =>
      rw [hr] at h
      cases h
      obtain ⟨hmem, front, rfl⟩ := ih hr
      refine ⟨hmem, raw ++ lineFeed :: front, ?_⟩
      rw [(Bytes.eq_of_cut? hcut).1, List.append_assoc, List.cons_append]

/-! ## The body -/

theorem extent_append_of_found {declared : Option (Option Nat)} {body content rest : Bytes}
    (h : extent declared body = .found content rest) (e : Bytes) :
    extent declared (body ++ e) = .found content (rest ++ e) := by
  obtain ⟨rfl, hends⟩ := extent_eq_found_iff.mp h
  exact extent_eq_found_iff.mpr ⟨by simp, hends⟩

/-- A body that cannot be delimited stays so, and only a terminator can end it. -/
theorem extent_append_of_bad {declared : Option (Option Nat)} {body : Bytes} {reason : Malformed}
    (h : extent declared body = .bad reason) (e : Bytes) :
    extent declared (body ++ e) = .bad reason ∧ reason.seeks := by
  rcases declared with _ | _ | length
  · simp only [extent] at h
    cases hc : Bytes.cut? terminator body <;> simp [hc] at h
  · cases h
    exact ⟨rfl, rfl⟩
  · simp only [extent] at h ⊢
    split at h
    · rename_i hmax
      cases h
      rw [if_pos hmax]
      exact ⟨rfl, rfl⟩
    · rename_i hmax
      cases hd : body.drop length with
      | nil => simp [hd] at h
      | cons last rest =>
        have hlt : length < body.length := by
          by_cases hge : body.length ≤ length
          · rw [List.drop_eq_nil_of_le hge] at hd
            cases hd
          · omega
        have hmore : (body ++ e).drop length = last :: (rest ++ e) := by
          rw [List.drop_append_of_le_length (by omega), hd, List.cons_append]
        rw [hd] at h
        rw [if_neg hmax, hmore]
        by_cases hlast : last = terminator
        · simp [hlast] at h
        · simp only [hlast, if_false] at h ⊢
          cases h
          exact ⟨rfl, rfl⟩

/-! ## Whole frames -/

def conclude (b unread : Bytes) : Except Malformed Message →
    Except Rejected (Option (Message × Nat))
  | .error reason => reject reason b unread
  | .ok m => .ok (some (m, b.length - unread.length))

/-- A frame after its lines: it is unfinished, or a terminator ends it that has arrived, or it is
rejected and ends at the next terminator. -/
theorem decodeBlock_cases (first body : Bytes) (lines : List Bytes) :
    (∀ b, decodeBlock b first lines body = .ok none) ∨
    (∃ content rest result, body = content ++ terminator :: rest ∧
      ∀ b e, decodeBlock b first lines (body ++ e) = conclude b (rest ++ e) result) ∨
    (∃ reason : Malformed, reason.seeks ∧ ∀ b e,
      decodeBlock b first lines (body ++ e) = reject reason b (afterTerminator (body ++ e))) := by
  unfold decodeBlock
  cases Bytes.toText? first with
  | none => exact Or.inr (Or.inr ⟨.commandNotText, rfl, fun b e => rfl⟩)
  | some name =>
    cases hext : extent (declaredLength (readHeaders lines).headers) body with
    | unfinished => exact Or.inl fun b => by simp only [hext]
    | bad reason =>
      refine Or.inr (Or.inr ⟨reason, (extent_append_of_bad hext []).2, fun b e => ?_⟩)
      simp only [(extent_append_of_bad hext e).1]
    | found content rest =>
      refine Or.inr (Or.inl ⟨content, rest, ?_⟩)
      have hmore := extent_append_of_found hext
      simp only [hmore]
      cases Command.ofWireName? name with
      | none =>
        exact ⟨.error (.unknownCommand name), (extent_eq_found_iff.mp hext).1, fun b e => rfl⟩
      | some command =>
        cases (readHeaders lines).fault with
        | some reason =>
          exact ⟨.error reason, (extent_eq_found_iff.mp hext).1, fun b e => rfl⟩
        | none =>
          exact ⟨.ok ⟨command, (readHeaders lines).headers, content⟩,
            (extent_eq_found_iff.mp hext).1, fun b e => rfl⟩

inductive FrameEnd (b : Bytes) : Prop
  | unfinished (h : decodeFrame b = .ok none)
  | arrived (front rest : Bytes) (result : Except Malformed Message)
      (hb : b = front ++ terminator :: rest)
      (h : ∀ e, decodeFrame (b ++ e) = conclude (b ++ e) (rest ++ e) result)
  | awaited (front body : Bytes) (reason : Malformed) (hb : b = front ++ lineFeed :: body)
      (hr : reason.seeks) (hn : terminator ∉ body)
      (h : ∀ e, decodeFrame (b ++ e) = reject reason (b ++ e) (afterTerminator (body ++ e)))

theorem frameEnd_of_seeks {b front body : Bytes} {reason : Malformed}
    (hb : b = front ++ lineFeed :: body) (hr : reason.seeks)
    (h : ∀ e, decodeFrame (b ++ e) = reject reason (b ++ e) (afterTerminator (body ++ e))) :
    FrameEnd b := by
  by_cases hmem : terminator ∈ body
  · obtain ⟨skipped, rest, rfl, hn⟩ := List.eq_append_cons_of_mem hmem
    refine .arrived (front ++ lineFeed :: skipped) rest (.error reason) (by simp [hb]) fun e => ?_
    rw [h, List.append_assoc, List.cons_append, afterTerminator_append hn]
    rfl
  · exact .awaited front body reason hb hr hmem h

theorem frameEnd (b : Bytes) : FrameEnd b := by
  cases hh : head b with
  | unfinished => exact .unfinished (by rw [decodeFrame, hh])
  | broken bytes =>
    obtain ⟨hmem, front, hb⟩ := terminator_mem_of_broken hh
    obtain ⟨skipped, rest, rfl, hn⟩ := List.eq_append_cons_of_mem hmem
    refine .arrived (front ++ skipped) rest (.error .terminatedInHead) (by simp [hb]) fun e => ?_
    have hmore := head_append_of_ne (by rw [hh]; exact Head.noConfusion) e
    rw [decodeFrame, hmore, hh]
    simp only [Head.append, List.append_assoc, List.cons_append, afterTerminator_append hn]
    rfl
  | block lines body =>
    obtain ⟨raws, blank, -, -, -, hb⟩ := exists_rawLines_of_head hh
    have hsplit : b = (joined raws ++ blank) ++ lineFeed :: body := by simp [hb]
    have hmore : ∀ e, head (b ++ e) = .block lines (body ++ e) := by
      intro e
      rw [head_append_of_ne (by rw [hh]; exact Head.noConfusion), hh]
      rfl
    cases lines with
    | nil =>
      have hmissing : Malformed.missingCommand.seeks := rfl
      refine frameEnd_of_seeks hsplit hmissing fun e => ?_
      rw [decodeFrame, hmore]
    | cons first lines =>
      have hblock : ∀ e, decodeFrame (b ++ e) = decodeBlock (b ++ e) first lines (body ++ e) := by
        intro e
        rw [decodeFrame, hmore]
      rcases decodeBlock_cases first body lines with
        h | ⟨content, rest, result, rfl, h⟩ | ⟨reason, hr, h⟩
      · have hnone := hblock []
        rw [List.append_nil, List.append_nil, h] at hnone
        exact .unfinished hnone
      · refine .arrived (joined raws ++ blank ++ lineFeed :: content) rest result (by simp [hb])
          fun e => ?_
        rw [hblock, h]
      · exact frameEnd_of_seeks hsplit hr fun e => by rw [hblock, h]

theorem decode_blank {raw : Bytes} (h : IsBlank raw) (rest : Bytes) :
    decode (raw ++ lineFeed :: rest) = .ok (some (Message.heartbeat, raw.length + 1)) := by
  rcases h with rfl | rfl
  · simp [decode]
  · simp [decode, carriageReturn, lineFeed]

theorem decode_cases (b : Bytes) :
    decode b = .ok none ∨ (∃ raw rest, IsBlank raw ∧ b = raw ++ lineFeed :: rest) ∨
      ∀ e, decode (b ++ e) = decodeFrame (b ++ e) := by
  cases b with
  | nil => exact Or.inl rfl
  | cons c rest =>
    by_cases hl : c = lineFeed
    · subst hl
      exact Or.inr (Or.inl ⟨[], rest, Or.inl rfl, rfl⟩)
    by_cases hc : c = carriageReturn
    · subst hc
      cases rest with
      | nil => exact Or.inl rfl
      | cons d rest =>
        by_cases hd : d = lineFeed
        · subst hd
          exact Or.inr (Or.inl ⟨[carriageReturn], rest, Or.inr rfl, rfl⟩)
        · refine Or.inr (Or.inr fun e => ?_)
          simp [decode, hl, hd]
    · refine Or.inr (Or.inr fun e => ?_)
      simp [decode, hl, hc]

/-! ## Readings -/

/-- What the next reading of a buffer is and what becomes of it when more bytes follow. -/
inductive Verdict (b : Bytes) : Option Reading → Prop
  | wants : Verdict b none
  /-- The reading takes bytes that have arrived, a rejection takes them up to a terminator, and
  nothing that follows changes it. -/
  | settled {reading : Reading} (front rest : Bytes) (hb : b = front ++ rest)
      (hc : reading.consumed = front.length) (hpos : front ≠ [])
      (hend : ∀ r, reading = .error r → front.getLast? = some terminator)
      (hkeep : ∀ e, next? (b ++ e) = some reading) : Verdict b (some reading)
  /-- The rejection takes all there is, and takes more when more follows. -/
  | unsettled {reason : Malformed} (hr : reason.seeks) (hpos : b ≠ [])
      (hlast : b.getLast? ≠ some terminator)
      (hmore : ∀ e, e ≠ [] → ∃ k, b.length < k ∧ next? (b ++ e) = some (.error ⟨reason, k⟩)) :
      Verdict b (some (.error ⟨reason, b.length⟩))

theorem next?_of_reject {b unread : Bytes} {reason : Malformed}
    (h : decode b = reject reason b unread) :
    next? b = some (.error ⟨reason, b.length - unread.length⟩) := by
  rw [next?, h]
  rfl

theorem verdict_of_kept {b front rest : Bytes} {reading : Reading} (hb : b = front ++ rest)
    (hc : reading.consumed = front.length) (hpos : front ≠ [])
    (hend : ∀ r, reading = .error r → front.getLast? = some terminator)
    (hkeep : ∀ e, next? (b ++ e) = some reading) : Verdict b (next? b) := by
  have hnow := hkeep []
  rw [List.append_nil] at hnow
  rw [hnow]
  exact .settled front rest hb hc hpos hend hkeep

theorem verdict (b : Bytes) : Verdict b (next? b) := by
  rcases decode_cases b with h | ⟨raw, rest, hraw, rfl⟩ | hframe
  · have hnone : next? b = none := by rw [next?, h]
    rw [hnone]
    exact .wants
  · have hread : ∀ e, next? (raw ++ lineFeed :: rest ++ e) =
        some (.ok (Message.heartbeat, raw.length + 1)) := by
      intro e
      rw [next?, List.append_assoc, List.cons_append, decode_blank hraw]
    have hend : ∀ r : Rejected, Except.ok (Message.heartbeat, raw.length + 1) = .error r →
        (raw ++ [lineFeed]).getLast? = some terminator := fun r hr => by cases hr
    have hb : raw ++ lineFeed :: rest = raw ++ [lineFeed] ++ rest := by simp
    exact verdict_of_kept hb (by simp [Reading.consumed]) (by simp) hend hread
  have hself : decode b = decodeFrame b := by simpa using hframe []
  cases frameEnd b with
  | unfinished h =>
    have hnone : next? b = none := by rw [next?, hself, h]
    rw [hnone]
    exact .wants
  | arrived front rest result hb h =>
    have hlen : ∀ e, (b ++ e).length - (rest ++ e).length = (front ++ [terminator]).length := by
      intro e
      simp only [hb, List.length_append, List.length_cons, List.length_nil]
      omega
    obtain ⟨reading, hc, hread⟩ : ∃ reading : Reading,
        reading.consumed = (front ++ [terminator]).length ∧ ∀ e, next? (b ++ e) = some reading := by
      cases result with
      | error reason =>
        refine ⟨.error ⟨reason, (front ++ [terminator]).length⟩, rfl, fun e => ?_⟩
        rw [next?_of_reject ((hframe e).trans (h e)), hlen]
      | ok m =>
        refine ⟨.ok (m, (front ++ [terminator]).length), rfl, fun e => ?_⟩
        rw [next?, hframe, h, conclude, hlen]
    have hsplit : b = front ++ [terminator] ++ rest := by simp [hb]
    exact verdict_of_kept hsplit hc (by simp) (fun _ _ => by simp) hread
  | awaited front body reason hb hr hn h =>
    have hread : ∀ e, next? (b ++ e) =
        some (.error ⟨reason, (b ++ e).length - (afterTerminator (body ++ e)).length⟩) :=
      fun e => next?_of_reject ((hframe e).trans (h e))
    have hnow := hread []
    rw [List.append_nil, List.append_nil, afterTerminator_of_not_mem hn, List.length_nil,
      Nat.sub_zero] at hnow
    rw [hnow]
    have hlast : b.getLast? ≠ some terminator := by
      rw [hb]
      intro hl
      have hmem : terminator ∈ lineFeed :: body := by
        rw [List.getLast?_append_of_ne_nil _ (by simp)] at hl
        exact List.mem_of_getLast? hl
      rcases List.mem_cons.mp hmem with he | hmem
      · exact absurd he (by decide)
      · exact hn hmem
    refine .unsettled hr (by simp [hb]) hlast fun e he => ⟨_, ?_, hread e⟩
    obtain ⟨front, hpos, hsplit⟩ := exists_append_afterTerminator he
    have hlen := congrArg List.length hsplit
    have hfront := List.length_pos_iff.mpr hpos
    rw [afterTerminator_of_append hn, List.length_append]
    rw [List.length_append] at hlen
    omega

end Frame
end BrokerRpc
