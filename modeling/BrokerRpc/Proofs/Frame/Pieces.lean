import BrokerRpc.Proofs.Frame.DeclaredLength

/-! # Streams that arrive in pieces

Where a stream is cut decides nothing about the frames that are read from it, as long as each
rejection finds the terminator that it looks for. A rejection that is made before its terminator has
arrived drops what there is, and reading resumes in the middle of the rejected frame. So the
readings are those of the uncut stream exactly if no rejection is made too early.
-/
namespace BrokerRpc.Frame

def readings (buffer : Bytes) (pieces : List Bytes) : List Reading :=
  (feedAll buffer pieces).flatMap Prod.fst

def unread (buffer : Bytes) (pieces : List Bytes) : Bytes :=
  ((feedAll buffer pieces).getLast?.map Prod.snd).getD buffer

def decoded (readings : List Reading) : List Message :=
  readings.filterMap fun reading =>
    match reading with
    | .ok (m, _) => some m
    | .error _ => none

/-- Each rejection takes the bytes of the stream up to a terminator, or all that are left. -/
def Aligned : Bytes → List Reading → Prop
  | _, [] => True
  | stream, reading :: more =>
    (∀ r, reading = .error r →
      (stream.take r.consumed).getLast? = some terminator ∨ stream.length ≤ r.consumed) ∧
      Aligned (stream.drop reading.consumed) more

/-! ## One buffer -/

theorem drain_of_none {b : Bytes} (h : next? b = none) : drain b = ([], b) := by
  rw [drain]
  split
  · rfl
  · rename_i hs
    rw [h] at hs
    cases hs

theorem consumes_of_next? {b : Bytes} {reading : Reading} (h : next? b = some reading) :
    b ≠ [] ∧ 0 < reading.consumed := by
  have hv := verdict b
  rw [h] at hv
  cases hv with
  | settled front rest hb hc hpos =>
    rw [hc, hb]
    exact ⟨by simp [hpos], List.length_pos_iff.mpr hpos⟩
  | unsettled _ hpos => exact ⟨hpos, List.length_pos_iff.mpr hpos⟩

theorem drain_of_some {b : Bytes} {reading : Reading} (h : next? b = some reading) :
    drain b = (reading :: (drain (b.drop reading.consumed)).1,
      (drain (b.drop reading.consumed)).2) := by
  rw [drain]
  split
  · rename_i hs
    rw [h] at hs
    cases hs
  · rename_i other hs
    rw [h] at hs
    cases hs
    rw [dif_pos (consumes_of_next? h)]

theorem drain_nil : drain [] = ([], []) := drain_of_none rfl

theorem drain_of_front {front rest : Bytes} {reading : Reading}
    (h : next? (front ++ rest) = some reading) (hc : reading.consumed = front.length) :
    drain (front ++ rest) = (reading :: (drain rest).1, (drain rest).2) := by
  rw [drain_of_some h, hc, List.drop_left]

theorem drain_of_all {b : Bytes} {reading : Reading} (h : next? b = some reading)
    (hc : reading.consumed = b.length) : drain b = ([reading], []) := by
  rw [drain_of_some h, hc, List.drop_length, drain_nil]

theorem next?_drain (b : Bytes) : next? (drain b).2 = none := by
  induction hlen : b.length using Nat.strong_induction_on generalizing b with
  | _ n ih =>
    cases hnext : next? b with
    | none => rw [drain_of_none hnext, hnext]
    | some reading =>
      have hpos := consumes_of_next? hnext
      have hb := List.length_pos_iff.mpr hpos.1
      rw [drain_of_some hnext]
      exact ih _ (by rw [List.length_drop]; omega) _ rfl

/-! ## More bytes after a buffer -/

/-- Reading a buffer and then the bytes that follow is reading both at once. -/
structure Resumes (b e : Bytes) : Prop where
  drain_eq : drain (b ++ e) =
    ((drain b).1 ++ (drain ((drain b).2 ++ e)).1, (drain ((drain b).2 ++ e)).2)
  aligned_iff : ∀ more, Aligned (b ++ e) ((drain b).1 ++ more) ↔ Aligned ((drain b).2 ++ e) more

/-- Reading a buffer ends with a rejection that was made too early. -/
structure Strays (b e : Bytes) : Prop where
  seeks : ∃ r : Rejected, .error r ∈ (drain (b ++ e)).1 ∧ r.reason.seeks
  readings_ne : ∀ more, (drain b).1 ++ more ≠ (drain (b ++ e)).1
  not_aligned : ∀ more, ¬ Aligned (b ++ e) ((drain b).1 ++ more)

theorem resumes_of_next? {b e : Bytes} (h : next? b = none) : Resumes b e := by
  have hd := drain_of_none h
  exact ⟨by simp [hd], by simp [hd]⟩

theorem strays_of_unsettled {b e : Bytes} {reason : Malformed}
    (hnext : next? b = some (.error ⟨reason, b.length⟩)) (hr : reason.seeks)
    (hlast : b.getLast? ≠ some terminator) (he : e ≠ [])
    (hmore : ∃ k, b.length < k ∧ next? (b ++ e) = some (.error ⟨reason, k⟩)) : Strays b e := by
  obtain ⟨k, hk, hlater⟩ := hmore
  have hnow := congrArg Prod.fst (drain_of_all hnext rfl)
  have hthen := congrArg Prod.fst (drain_of_some hlater)
  refine ⟨⟨⟨reason, k⟩, by simp [hthen], hr⟩, fun more heq => ?_, fun more hal => ?_⟩
  · rw [hnow, hthen, List.singleton_append, List.cons.injEq] at heq
    have hsame : b.length = k := by simpa using heq.1
    omega
  · rw [hnow] at hal
    have hlen := List.length_pos_iff.mpr he
    rcases hal.1 _ rfl with hend | hall
    · rw [List.take_left] at hend
      exact hlast hend
    · rw [List.length_append] at hall
      simp only at hall
      omega

/-! ## A reading that what follows does not change -/

section Kept

variable {front rest : Bytes} {reading : Reading}

theorem aligned_cons_iff (hc : reading.consumed = front.length)
    (hend : ∀ r, reading = .error r → front.getLast? = some terminator) (more : List Reading) :
    Aligned (front ++ rest) (reading :: more) ↔ Aligned rest more := by
  simp only [Aligned, hc, List.drop_left, and_iff_right_iff_imp]
  rintro - r rfl
  have hfront : r.consumed = front.length := hc
  rw [hfront, List.take_left]
  exact Or.inl (hend r rfl)

variable {e : Bytes} (hc : reading.consumed = front.length)
  (hend : ∀ r, reading = .error r → front.getLast? = some terminator)
  (hkeep : ∀ e, next? (front ++ rest ++ e) = some reading)

include hc hkeep in
theorem drain_of_kept : drain (front ++ rest) = (reading :: (drain rest).1, (drain rest).2) ∧
    drain (front ++ rest ++ e) = (reading :: (drain (rest ++ e)).1, (drain (rest ++ e)).2) := by
  have hnow := hkeep []
  have hthen := hkeep e
  rw [List.append_nil] at hnow
  rw [List.append_assoc] at hthen ⊢
  exact ⟨drain_of_front hnow hc, drain_of_front hthen hc⟩

include hc hend hkeep

theorem Resumes.of_kept (h : Resumes rest e) : Resumes (front ++ rest) e := by
  obtain ⟨hnow, hthen⟩ := drain_of_kept hc hkeep (e := e)
  refine ⟨?_, fun more => ?_⟩
  · rw [hthen, hnow, h.drain_eq, List.cons_append]
  · rw [hnow, List.cons_append, List.append_assoc, aligned_cons_iff hc hend, h.aligned_iff]

theorem Strays.of_kept (h : Strays rest e) : Strays (front ++ rest) e := by
  obtain ⟨hnow, hthen⟩ := drain_of_kept hc hkeep (e := e)
  obtain ⟨r, hmem, hr⟩ := h.seeks
  refine ⟨⟨r, ?_, hr⟩, fun more heq => ?_, fun more hal => ?_⟩
  · rw [hthen]
    exact List.mem_cons_of_mem _ hmem
  · rw [hnow, hthen, List.cons_append, List.cons.injEq] at heq
    exact h.readings_ne more heq.2
  · rw [hnow, List.cons_append, List.append_assoc, aligned_cons_iff hc hend] at hal
    exact h.not_aligned more hal

end Kept

theorem resumes_or_strays (b e : Bytes) : Resumes b e ∨ Strays b e := by
  induction hlen : b.length using Nat.strong_induction_on generalizing b with
  | _ n ih =>
    have hv := verdict b
    generalize hnext : next? b = next at hv
    cases hv with
    | wants => exact Or.inl (resumes_of_next? hnext)
    | settled front rest hb hc hpos hend hkeep =>
      subst hb
      have hshort : rest.length < n := by
        have hfront := List.length_pos_iff.mpr hpos
        rw [← hlen, List.length_append]
        omega
      rcases ih _ hshort rest rfl with h | h
      · exact Or.inl (h.of_kept hc hend hkeep)
      · exact Or.inr (h.of_kept hc hend hkeep)
    | unsettled hr hpos hlast hmore =>
      by_cases he : e = []
      · subst he
        have hall := drain_of_all hnext rfl
        refine Or.inl ⟨?_, fun more => ?_⟩
        · rw [List.append_nil, hall]
          simp only [List.append_nil, drain_nil]
        · simp [hall, Aligned, Reading.consumed]
      · exact Or.inr (strays_of_unsettled hnext hr hlast he (hmore e he))

/-! ## Whole streams -/

theorem readings_cons (buffer piece : Bytes) (pieces : List Bytes) :
    readings buffer (piece :: pieces) =
      (drain (buffer ++ piece)).1 ++ readings (drain (buffer ++ piece)).2 pieces := by
  simp [readings, feedAll, feed]

theorem unread_cons (buffer piece : Bytes) (pieces : List Bytes) :
    unread buffer (piece :: pieces) = unread (drain (buffer ++ piece)).2 pieces := by
  cases pieces <;> simp [unread, feedAll, feed, List.getLast?_cons]

theorem readings_eq_iff_aligned {buffer : Bytes} (h : next? buffer = none) (pieces : List Bytes) :
    readings buffer pieces = (drain (buffer ++ pieces.flatten)).1 ↔
      Aligned (buffer ++ pieces.flatten) (readings buffer pieces) := by
  induction pieces generalizing buffer with
  | nil => simp [readings, feedAll, Aligned, drain_of_none h]
  | cons piece pieces ih =>
    have hleft := ih (next?_drain (buffer ++ piece))
    rw [readings_cons, List.flatten_cons, ← List.append_assoc]
    rcases resumes_or_strays (buffer ++ piece) pieces.flatten with hr | hs
    · rw [hr.drain_eq, hr.aligned_iff, List.append_cancel_left_eq, hleft]
    · exact iff_of_false (hs.readings_ne _) (hs.not_aligned _)

/-- Cuts do not matter where no rejection has to look for its terminator. -/
theorem readings_eq_of_not_seeks {buffer : Bytes} (h : next? buffer = none) {pieces : List Bytes}
    (hs : ∀ r : Rejected, .error r ∈ (drain (buffer ++ pieces.flatten)).1 → ¬ r.reason.seeks) :
    (readings buffer pieces, unread buffer pieces) = drain (buffer ++ pieces.flatten) := by
  induction pieces generalizing buffer with
  | nil => simp [readings, unread, feedAll, drain_of_none h]
  | cons piece pieces ih =>
    rw [List.flatten_cons, ← List.append_assoc] at hs ⊢
    rcases resumes_or_strays (buffer ++ piece) pieces.flatten with hr | hstray
    · have hrest := ih (next?_drain (buffer ++ piece)) fun r hmem => hs r (by
        rw [hr.drain_eq]
        exact List.mem_append_right _ hmem)
      rw [hr.drain_eq, readings_cons, unread_cons, ← hrest]
    · obtain ⟨r, hmem, hseeks⟩ := hstray.seeks
      exact absurd hseeks (hs r hmem)

theorem readings_singleton (b : Bytes) : readings [] [b] = (drain b).1 := by
  simp [readings, feedAll, feed]

/-- A stream that is cut gives the readings of the uncut stream exactly if each rejection takes its
bytes up to a terminator or to the end of the stream, and then the messages are the same. -/
theorem readings_eq_uncut_iff (pieces : List Bytes) :
    (readings [] pieces = readings [] [pieces.flatten] ↔
      Aligned pieces.flatten (readings [] pieces)) ∧
    (Aligned pieces.flatten (readings [] pieces) →
      decoded (readings [] pieces) = decoded (readings [] [pieces.flatten])) := by
  have hempty : next? [] = none := rfl
  have hiff := readings_eq_iff_aligned hempty pieces
  rw [List.nil_append, ← readings_singleton] at hiff
  exact ⟨hiff, fun h => congrArg decoded (hiff.mpr h)⟩

/-! ## A rejection that is made too early -/

theorem readings_pair (b e : Bytes) : readings [] [b, e] =
    (drain b).1 ++ (drain ((drain b).2 ++ e)).1 := by
  simp [readings, feedAll, feed]

/-- A frame is rejected before its terminator has arrived: what follows is read from its start, and
not from behind the terminator. -/
theorem readings_of_longer_body {n : Nat} (hn : n ≤ maxFrameSize) {body rest : Bytes} {c : UInt8}
    (hc : body[n]? = some c) (hbody : terminator ∉ body) (hrest : rest ≠ []) :
    (∃ r : Rejected, readings [] [stating n ++ body, rest] = .error r :: (drain rest).1) ∧
    ∃ r : Rejected, readings [] [stating n ++ body ++ rest] =
      .error r :: (drain (afterTerminator rest)).1 := by
  have hne : c ≠ terminator := fun he => hbody (he ▸ List.mem_of_getElem? hc)
  constructor
  · have hnext := next?_of_longer_body hn hc hne
    rw [afterTerminator_of_not_mem hbody, List.length_nil, Nat.sub_zero] at hnext
    refine ⟨⟨.lengthMismatch n, (stating n ++ body).length⟩, ?_⟩
    rw [readings_pair, drain_of_all hnext rfl, List.nil_append]
    rfl
  · have hlt := (List.getElem?_eq_some_iff.mp hc).1
    have hlater : (body ++ rest)[n]? = some c := by rw [List.getElem?_append_left hlt, hc]
    have hnext := next?_of_longer_body hn hlater hne
    obtain ⟨front, -, hsplit⟩ := exists_append_afterTerminator hrest
    have hall : stating n ++ (body ++ rest) =
        stating n ++ body ++ front ++ afterTerminator rest := by
      rw [List.append_assoc, List.append_assoc, ← hsplit]
    rw [afterTerminator_of_append hbody, hall, List.length_append, Nat.add_sub_cancel] at hnext
    refine ⟨⟨.lengthMismatch n, (stating n ++ body ++ front).length⟩, ?_⟩
    rw [readings_singleton, List.append_assoc, hall, drain_of_front hnext rfl]

/-- The rest of a rejected frame is read as a frame of its own, because the frame was rejected
before its terminator had arrived. -/
theorem decoded_of_early_rejection :
    let pieces := [Bytes.ofText "SEND\ncontent-length:1\n\nab", Bytes.ofText "SEND\n\n\x00"]
    decoded (readings [] pieces) = [Message.new .send] ∧
      decoded (readings [] [pieces.flatten]) = [] := by
  intro pieces
  let m := Message.new .send
  have hlong : Bytes.ofText "SEND\ncontent-length:1\n\nab" = stating 1 ++ [97, 98] := by decide
  have hshort : Bytes.ofText "SEND\n\n\x00" = encode m := by decide
  have hne : m.command ≠ .heartbeat := Command.noConfusion
  have hread := (decode_encode_frame_iff hne List.nodup_nil []).mpr ⟨by decide, by decide⟩
  rw [List.append_nil] at hread
  have hnext : next? (encode m) = some (.ok (m, (encode m).length)) := by rw [next?, hread]
  have hdrain : (drain (encode m)).1 = [.ok (m, (encode m).length)] := by
    rw [drain_of_all hnext rfl]
  have hafter : (drain (afterTerminator (encode m))).1 = [] := by
    have hnone : afterTerminator (encode m) = [] := by decide
    rw [hnone, drain_nil]
  have hmax : 1 ≤ maxFrameSize := by decide
  have hnext' : ([97, 98] : Bytes)[1]? = some 98 := rfl
  have hbody : terminator ∉ ([97, 98] : Bytes) := by decide
  have hrest : encode m ≠ [] := by decide
  obtain ⟨⟨r, hcut⟩, r', huncut⟩ := readings_of_longer_body hmax hnext' hbody hrest
  have hpieces : pieces = [stating 1 ++ [97, 98], encode m] := by rw [← hlong, ← hshort]
  have hflat : pieces.flatten = stating 1 ++ [97, 98] ++ encode m := by rw [hpieces]; rfl
  rw [hflat, hpieces, hcut, huncut, hdrain, hafter]
  exact ⟨rfl, rfl⟩

end BrokerRpc.Frame
