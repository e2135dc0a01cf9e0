import BrokerRpc.Proofs.Frame.Offsets
import BrokerRpc.Proofs.Frame.Recovery

/-! # How far reading goes

Each reading takes bytes that are there, and at least one of them. So reading until more bytes are
wanted comes to an end by itself, after at most one reading for each byte, and what it has taken and
what it has left are at each moment all the bytes that have arrived.
-/
namespace BrokerRpc.Frame

/-! ## One reading -/

theorem next?_of_decode_ok {b : Bytes} {m : Message} {n : Nat} (h : decode b = .ok (some (m, n))) :
    next? b = some (.ok (m, n)) := by
  rw [next?, h]

theorem next?_of_decode_error {b : Bytes} {r : Rejected} (h : decode b = .error r) :
    next? b = some (.error r) := by
  rw [next?, h]

theorem consumed_bounds {b : Bytes} {reading : Reading} (h : next? b = some reading) :
    0 < reading.consumed ∧ reading.consumed ≤ b.length := by
  refine ⟨(consumes_of_next? h).2, ?_⟩
  have hv := verdict b
  rw [h] at hv
  cases hv with
  | settled front rest hb hc _ => rw [hc, hb, List.length_append]; omega
  | unsettled _ _ => exact le_refl b.length

theorem extent_ne_missingCommand (declared : Option (Option Nat)) (body : Bytes) :
    extent declared body ≠ .bad .missingCommand := by
  unfold extent
  grind

theorem fault_ne_missingCommand (lines : List Bytes) :
    (readHeaders lines).fault ≠ some .missingCommand := fun h =>
  absurd (lineFault_of_fault h).not_seeks (by decide)

theorem decodeBlock_ne_missingCommand (b first body : Bytes) (lines : List Bytes) (n : Nat) :
    decodeBlock b first lines body ≠ .error ⟨.missingCommand, n⟩ := by
  have hfault := fault_ne_missingCommand lines
  have hextent := extent_ne_missingCommand (declaredLength (readHeaders lines).headers) body
  unfold decodeBlock
  cases Bytes.toText? first with
  | none => simp [reject]
  | some name =>
    simp only
    cases hext : extent (declaredLength (readHeaders lines).headers) body with
    | unfinished => simp
    | bad reason => grind [reject]
    | found content rest => grind [reject]

theorem decode_ne_missingCommand (b : Bytes) (n : Nat) :
    decode b ≠ .error ⟨.missingCommand, n⟩ := by
  intro h
  rcases decode_cases b with hnone | ⟨raw, rest, hblank, rfl⟩ | hframe
  · cases hnone.symm.trans h
  · cases (decode_blank hblank rest).symm.trans h
  · have hself : decode b = decodeFrame b := by simpa using hframe []
    rw [hself, decodeFrame] at h
    cases hhead : head b with
    | unfinished =>
      rw [hhead] at h
      cases h
    | broken bytes =>
      rw [hhead] at h
      cases h
    | block lines body =>
      cases lines with
      | nil =>
        -- the first line is the blank one, and that alone is a heartbeat
        obtain ⟨raws, blank, -, hblank, hnil, hb⟩ := exists_rawLines_of_head hhead
        obtain rfl := List.map_eq_nil_iff.mp hnil.symm
        rw [← decodeFrame, ← hself, hb] at h
        cases (decode_blank hblank body).symm.trans h
      | cons first lines =>
        rw [hhead] at h
        exact decodeBlock_ne_missingCommand b first body lines n h

/-! ## Reading until more bytes are wanted -/

def taken : List Reading → Nat
  | [] => 0
  | reading :: more => reading.consumed + taken more

theorem taken_append (readings more : List Reading) :
    taken (readings ++ more) = taken readings + taken more := by
  induction readings with
  | nil => exact (Nat.zero_add _).symm
  | cons reading readings ih =>
    rw [List.cons_append, taken, taken, ih]
    omega

/-- Reading a buffer until more bytes are wanted, with the readings in order and the bytes left. Only
bytes that are there can be taken, and nothing else ends it. -/
inductive Reads : Bytes → List Reading → Bytes → Prop
  | wants {b : Bytes} (h : next? b = none) : Reads b [] b
  | takes {b left : Bytes} {reading : Reading} {more : List Reading} (h : next? b = some reading)
      (hle : reading.consumed ≤ b.length) (hmore : Reads (b.drop reading.consumed) more left) :
      Reads b (reading :: more) left

theorem reads_drain (b : Bytes) : Reads b (drain b).1 (drain b).2 := by
  -- each reading leaves fewer bytes
  induction hlen : b.length using Nat.strong_induction_on generalizing b with
  | _ n ih =>
    cases hnext : next? b with
    | none =>
      rw [drain_of_none hnext]
      exact .wants hnext
    | some reading =>
      obtain ⟨hpos, hle⟩ := consumed_bounds hnext
      rw [drain_of_some hnext]
      exact .takes hnext hle (ih _ (by rw [List.length_drop]; omega) _ rfl)

theorem Reads.drain_eq {b left : Bytes} {readings : List Reading} (h : Reads b readings left) :
    drain b = (readings, left) := by
  induction h with
  | wants h => exact drain_of_none h
  | takes h _ _ ih => rw [drain_of_some h, ih]

/-- There is one way to read a buffer, and it ends. -/
theorem reads_iff {b left : Bytes} {readings : List Reading} :
    Reads b readings left ↔ drain b = (readings, left) := by
  refine ⟨Reads.drain_eq, fun h => ?_⟩
  have hread := reads_drain b
  rwa [h] at hread

theorem Reads.after {b left : Bytes} {before after : List Reading}
    (h : Reads b (before ++ after) left) :
    ∃ front rest, b = front ++ rest ∧ front.length = taken before ∧ Reads rest after left := by
  induction before generalizing b with
  | nil => exact ⟨[], b, rfl, rfl, h⟩
  | cons reading before ih =>
    cases h with
    | takes hnext hle hmore =>
      obtain ⟨front, rest, hsplit, hlen, hrest⟩ := ih hmore
      refine ⟨b.take reading.consumed ++ front, rest, ?_, ?_, hrest⟩
      · rw [List.append_assoc, ← hsplit, List.take_append_drop]
      · rw [List.length_append, List.length_take, hlen, taken]
        omega

theorem Reads.length_le_taken {b left : Bytes} {readings : List Reading}
    (h : Reads b readings left) : readings.length ≤ taken readings := by
  induction h with
  | wants => exact le_refl 0
  | takes h _ _ ih =>
    have hpos := (consumed_bounds h).1
    rw [List.length_cons, taken]
    omega

theorem Reads.eq_append {b left : Bytes} {readings : List Reading} (h : Reads b readings left) :
    ∃ front, b = front ++ left ∧ front.length = taken readings := by
  rw [← List.append_nil readings] at h
  obtain ⟨front, rest, hsplit, hlen, hrest⟩ := h.after
  cases hrest with
  | wants => exact ⟨front, hsplit, hlen⟩

theorem length_drain_le (b : Bytes) : (drain b).1.length ≤ b.length := by
  obtain ⟨front, hb, hlen⟩ := (reads_drain b).eq_append
  have htaken := (reads_drain b).length_le_taken
  have hlength := congrArg List.length hb
  rw [List.length_append] at hlength
  omega

/-! ## Streams that arrive in pieces -/

theorem arrived_eq_append (buffer : Bytes) (pieces : List Bytes) :
    ∃ front, buffer ++ pieces.flatten = front ++ unread buffer pieces ∧
      front.length = taken (readings buffer pieces) := by
  induction pieces generalizing buffer with
  | nil => exact ⟨[], by simp [unread, feedAll], rfl⟩
  | cons piece pieces ih =>
    obtain ⟨front, hfront, hlen⟩ := (reads_drain (buffer ++ piece)).eq_append
    obtain ⟨more, hmore, hmoreLen⟩ := ih (drain (buffer ++ piece)).2
    refine ⟨front ++ more, ?_, ?_⟩
    · rw [unread_cons, List.flatten_cons, ← List.append_assoc, List.append_assoc front, ← hmore,
        ← List.append_assoc, ← hfront]
    · rw [readings_cons, taken_append, List.length_append, hlen, hmoreLen]

/-- A message or a rejection takes at least one byte and no more than there are, and no frame is
rejected because it is without a command. In a buffer that memory can hold each slice and each byte
that reading looks at is in range, and a content length within the limit leads to a position that
fits a word. So reading until more bytes are wanted has an end, and only one, after at most one
reading for each byte. After each of these readings the bytes that were taken, from this piece and
from those before it, and the bytes still to be read are together the bytes that have arrived. -/
theorem decode_progresses :
    (∀ b m n, decode b = .ok (some (m, n)) → 1 ≤ n ∧ n ≤ b.length) ∧
    (∀ b r, decode b = .error r →
      1 ≤ r.consumed ∧ r.consumed ≤ b.length ∧ r.reason ≠ .missingCommand) ∧
    (∀ b : Bytes, b.length ≤ Bytes.maxLength → decodeAt b = some (decode b) ∧
      ∀ pos length, pos ≤ b.length → length ≤ maxFrameSize →
        Bytes.sum? pos length = some (pos + length)) ∧
    (∀ b readings left, Reads b readings left ↔ drain b = (readings, left)) ∧
    (∀ b, (drain b).1.length ≤ b.length) ∧
    ∀ pieces piece before after left,
      Reads (unread [] pieces ++ piece) (before ++ after) left →
      ∃ gone held, pieces.flatten ++ piece = gone ++ held ∧
        gone.length = taken (readings [] pieces ++ before) ∧ Reads held after left := by
  refine ⟨fun b m n h => consumed_bounds (next?_of_decode_ok h), fun b r h => ?_,
    fun b h => ⟨decodeAt_eq h, fun pos length => sum?_declared h⟩, fun _ _ _ => reads_iff,
    length_drain_le, fun pieces piece before after left h => ?_⟩
  · obtain ⟨hpos, hle⟩ := consumed_bounds (next?_of_decode_error h)
    refine ⟨hpos, hle, fun hreason => ?_⟩
    obtain ⟨reason, n⟩ := r
    obtain rfl : reason = .missingCommand := hreason
    exact decode_ne_missingCommand b n h
  · obtain ⟨earlier, hearlier, hlen⟩ := arrived_eq_append [] pieces
    obtain ⟨front, held, hsplit, hfront, hrest⟩ := h.after
    refine ⟨earlier ++ front, held, ?_, ?_, hrest⟩
    · rw [List.nil_append] at hearlier
      rw [hearlier, List.append_assoc, hsplit, List.append_assoc]
    · rw [List.length_append, taken_append, hlen, hfront]

end BrokerRpc.Frame
