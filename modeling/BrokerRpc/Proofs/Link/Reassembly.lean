import BrokerRpc.Link.Wire
import BrokerRpc.Proofs.Frame.Pieces

/-! # Frames put together from pieces

A wire holds the front of a frame until the rest arrives, and ends if what it holds is longer than
the largest frame. The limit counts all that has arrived, lines and body, while a declared length
counts the content alone. So a frame is delivered exactly if no piece leaves too much of it unread,
and it is delivered wherever it is cut exactly if all but its terminator stays within the limit.
-/
open BrokerRpc.Frame

namespace BrokerRpc.Wire

/-- Pieces arrive one by one until the wire ends: the messages that are complete, and how the wire
ends, if it does. -/
def receiveAll (w : Wire) : List (Instant × Bytes) → Wire × List Message × Option WireEnd
  | [] => (w, [], none)
  | (now, piece) :: rest =>
    match w.receive now piece with
    | (w, messages, some ended) => (w, messages, some ended)
    | (w, messages, none) =>
      let (w, more, ended) := receiveAll w rest
      (w, messages ++ more, ended)

def arrived (arrivals : List (Instant × Bytes)) : Bytes := arrivals.flatMap Prod.snd

theorem arrived_cons (now : Instant) (piece : Bytes) (rest : List (Instant × Bytes)) :
    arrived ((now, piece) :: rest) = piece ++ arrived rest := by
  simp [arrived]

/-- As long as some of a frame is missing, what has arrived stays within the limit. -/
def Fits (held : Bytes) (arrivals : List (Instant × Bytes)) (whole : Nat) : Prop :=
  ∀ i, (held ++ arrived (arrivals.take i)).length < whole →
    (held ++ arrived (arrivals.take i)).length ≤ maxFrameSize

theorem fits_cons {held piece : Bytes} {now : Instant} {rest : List (Instant × Bytes)}
    {whole : Nat} (hh : held.length ≤ maxFrameSize) :
    Fits held ((now, piece) :: rest) whole ↔ Fits (held ++ piece) rest whole := by
  have htake : ∀ i, held ++ arrived (((now, piece) :: rest).take (i + 1)) =
      held ++ piece ++ arrived (rest.take i) := by
    intro i
    simp [arrived]
  constructor
  · intro h i
    have hi := h (i + 1)
    rwa [htake] at hi
  · intro h i
    cases i with
    | zero => simpa [arrived] using fun _ => hh
    | succ i =>
      rw [htake]
      exact h i

theorem next?_front {b e : Bytes} {m : Message} (he : e ≠ [])
    (h : next? (b ++ e) = some (.ok (m, (b ++ e).length))) : next? b = none := by
  have hv := verdict b
  have hlen := List.length_pos_iff.mpr he
  generalize hn : next? b = next at hv ⊢
  cases hv with
  | wants => rfl
  | settled front rest hb hc _ _ hkeep =>
    rw [hkeep e, Option.some.injEq] at h
    subst h
    have hfront : (b ++ e).length = front.length := hc
    rw [hb] at hfront
    simp only [List.length_append] at hfront
    omega
  | unsettled _ _ _ hmore =>
    obtain ⟨k, _, hk⟩ := hmore e he
    rw [h] at hk
    cases hk

theorem receive_front {w : Wire} {piece : Bytes} (h : next? (w.unread ++ piece) = none)
    (now : Instant) : ∃ w' : Wire, w'.unread = w.unread ++ piece ∧ w.receive now piece = (w', [],
      if maxFrameSize < (w.unread ++ piece).length then some (.error frameTooLarge) else none) := by
  refine ⟨{ w with unread := w.unread ++ piece, deadline := after now w.expectWithin }, rfl, ?_⟩
  simp only [receive, feed, drain_of_none h]
  rfl

theorem receive_last {w : Wire} {piece : Bytes} {m : Message} (hm : m.command ≠ .heartbeat)
    (h : next? (w.unread ++ piece) = some (.ok (m, (w.unread ++ piece).length))) (now : Instant) :
    ∃ w' : Wire, w'.unread = [] ∧ w.receive now piece = (w', [m], none) := by
  have hdrain := drain_of_all h rfl
  have hh : m.isHeartbeat = false := by simp [Message.isHeartbeat, hm]
  refine ⟨{ w with unread := [], deadline := after now w.expectWithin }, rfl, ?_⟩
  simp [receive, feed, hdrain, messages, hh]

theorem receiveAll_cons {w w' : Wire} {now : Instant} {piece : Bytes} {messages : List Message}
    (h : w.receive now piece = (w', messages, none)) (rest : List (Instant × Bytes)) :
    (w.receiveAll ((now, piece) :: rest)).2 =
      (messages ++ (w'.receiveAll rest).2.1, (w'.receiveAll rest).2.2) := by
  simp only [receiveAll, h]

theorem receiveAll_cons_ended {w w' : Wire} {now : Instant} {piece : Bytes}
    {messages : List Message} {ended : WireEnd}
    (h : w.receive now piece = (w', messages, some ended)) (rest : List (Instant × Bytes)) :
    (w.receiveAll ((now, piece) :: rest)).2 = (messages, some ended) := by
  simp only [receiveAll, h]

theorem receiveAll_of_empty {w : Wire} {arrivals : List (Instant × Bytes)} (hw : w.unread = [])
    (h : arrived arrivals = []) : (w.receiveAll arrivals).2 = ([], none) := by
  induction arrivals generalizing w with
  | nil => rfl
  | cons arrival rest ih =>
    obtain ⟨now, piece⟩ := arrival
    obtain ⟨rfl, hrest⟩ := List.append_eq_nil_iff.mp ((arrived_cons now piece rest).symm.trans h)
    have hnil : w.unread ++ [] = [] := by rw [hw]; rfl
    have hnone : next? (w.unread ++ []) = none := by rw [hnil]; rfl
    obtain ⟨w', hw', hstep⟩ := receive_front hnone now
    rw [hnil] at hw' hstep
    rw [receiveAll_cons hstep, ih hw' hrest]
    rfl

/-- A frame that arrives in pieces is delivered when its last byte arrives, unless too much of it
was held before. -/
theorem receiveAll_of_cut {m : Message} {frame : Bytes} (hm : m.command ≠ .heartbeat)
    (hframe : next? frame = some (.ok (m, frame.length))) {w : Wire}
    {arrivals : List (Instant × Bytes)} (hcut : w.unread ++ arrived arrivals = frame)
    (hfront : w.unread ≠ frame) (hheld : w.unread.length ≤ maxFrameSize) :
    (Fits w.unread arrivals frame.length → (w.receiveAll arrivals).2 = ([m], none)) ∧
    (¬ Fits w.unread arrivals frame.length →
      (w.receiveAll arrivals).2 = ([], some (.error frameTooLarge))) := by
  induction arrivals generalizing w with
  | nil =>
    rw [arrived, List.flatMap_nil, List.append_nil] at hcut
    exact absurd hcut hfront
  | cons arrival rest ih =>
    obtain ⟨now, piece⟩ := arrival
    rw [arrived_cons, ← List.append_assoc] at hcut
    rw [fits_cons hheld]
    by_cases hrest : arrived rest = []
    · -- this piece completes the frame
      rw [hrest, List.append_nil] at hcut
      obtain ⟨w', hw', hstep⟩ := receive_last hm (by rw [hcut]; exact hframe) now
      have hfits : Fits (w.unread ++ piece) rest frame.length := by
        intro i hi
        rw [hcut, List.length_append] at hi
        omega
      refine ⟨fun _ => ?_, fun h => absurd hfits h⟩
      rw [receiveAll_cons hstep, receiveAll_of_empty hw' hrest]
      rfl
    · have hlt : (w.unread ++ piece).length < frame.length := by
        have hpos := List.length_pos_iff.mpr hrest
        have hwhole := congrArg List.length hcut
        simp only [List.length_append] at hwhole ⊢
        omega
      have hnone : next? (w.unread ++ piece) = none := by
        refine next?_front (m := m) hrest ?_
        rw [hcut]
        exact hframe
      obtain ⟨w', hw', hstep⟩ := receive_front hnone now
      by_cases hmax : maxFrameSize < (w.unread ++ piece).length
      · have hover : ¬ Fits (w.unread ++ piece) rest frame.length := by
          intro h
          have hnow := h 0
          rw [List.take_zero, arrived, List.flatMap_nil, List.append_nil] at hnow
          exact absurd (hnow hlt) (by omega)
        rw [if_pos hmax] at hstep
        exact ⟨fun h => absurd h hover, fun _ => receiveAll_cons_ended hstep rest⟩
      · rw [if_neg hmax] at hstep
        rw [← hw'] at hcut hlt hmax ⊢
        have hgo := ih hcut (fun he => absurd (congrArg List.length he) (by omega)) (by omega)
        rw [receiveAll_cons hstep, List.nil_append]
        exact hgo

/-! ## Which frames are delivered wherever they are cut -/

theorem fits_of_length_le {arrivals : List (Instant × Bytes)} {whole : Nat}
    (h : whole ≤ maxFrameSize + 1) : Fits [] arrivals whole := by
  intro i hi
  omega

def lastAlone (frame : Bytes) : List (Instant × Bytes) :=
  [(0, frame.dropLast), (0, frame.getLast?.toList)]

theorem arrived_lastAlone (frame : Bytes) : arrived (lastAlone frame) = frame := by
  cases h : frame.getLast? with
  | none =>
    rw [List.getLast?_eq_none_iff] at h
    subst h
    rfl
  | some last =>
    obtain ⟨front, rfl⟩ := List.getLast?_eq_some_iff.mp h
    simp [arrived, lastAlone]

theorem not_fits_lastAlone {frame : Bytes} (h : maxFrameSize + 1 < frame.length) :
    ¬ Fits [] (lastAlone frame) frame.length := by
  intro hf
  have hnow := hf 1
  simp only [lastAlone, List.take_succ_cons, List.take_zero, arrived, List.flatMap_cons,
    List.flatMap_nil, List.nil_append, List.append_nil, List.length_dropLast] at hnow
  omega

theorem ne_heartbeat_of_field {m : Message} {name : HeaderName}
    (hround : decode (encode m) = .ok (some (m, (encode m).length)))
    (hfield : m.field? name ≠ none) : m.command ≠ .heartbeat := by
  intro hm
  have hround' : decode (encode m ++ []) = .ok (some (m, (encode m).length)) := by
    rwa [List.append_nil]
  have hempty := ((decode_encode_heartbeat_iff hm []).mp hround').1
  rw [Message.field?, Message.header?, hempty] at hfield
  exact hfield rfl

/-- What becomes of the pieces of one message on a wire that holds nothing. -/
theorem receiveAll_of_encode {m : Message} {w : Wire} (hw : w.unread = [])
    (hround : decode (encode m) = .ok (some (m, (encode m).length)))
    (hlength : m.field? .contentLength ≠ none) {arrivals : List (Instant × Bytes)}
    (hcut : arrived arrivals = encode m) :
    (Fits [] arrivals (encode m).length → (w.receiveAll arrivals).2 = ([m], none)) ∧
    (¬ Fits [] arrivals (encode m).length →
      (w.receiveAll arrivals).2 = ([], some (.error frameTooLarge))) := by
  have hm := ne_heartbeat_of_field hround hlength
  have hframe : next? (encode m) = some (.ok (m, (encode m).length)) := by rw [next?, hround]
  have hne : [] ≠ encode m := by
    intro he
    rw [← he] at hframe
    cases hframe
  rw [← hw]
  exact receiveAll_of_cut hm hframe (by rw [hw]; exact hcut) (by rw [hw]; exact hne)
    (by rw [hw]; exact Nat.zero_le _)

/-- A message with a declared length is delivered once if no piece leaves more than the limit of it
unread, and otherwise the wire ends without it. It is delivered wherever it is cut exactly if its
frame without the terminator stays within the limit. -/
theorem delivered_of_every_cut_iff {m : Message} {w : Wire} (hw : w.unread = [])
    (hround : decode (encode m) = .ok (some (m, (encode m).length)))
    (hlength : m.field? .contentLength ≠ none) :
    (∀ arrivals, arrived arrivals = encode m →
      (Fits [] arrivals (encode m).length → (w.receiveAll arrivals).2 = ([m], none)) ∧
      (¬ Fits [] arrivals (encode m).length →
        (w.receiveAll arrivals).2 = ([], some (.error frameTooLarge)))) ∧
    ((∀ arrivals, arrived arrivals = encode m → (w.receiveAll arrivals).2 = ([m], none)) ↔
      (encode m).length ≤ maxFrameSize + 1) := by
  have hcut := fun arrivals h => @receiveAll_of_encode m w hw hround hlength arrivals h
  refine ⟨hcut, fun hall => ?_, fun hle arrivals h => (hcut arrivals h).1 (fits_of_length_le hle)⟩
  by_contra hlong
  have hover : ¬ Fits [] (lastAlone (encode m)) (encode m).length :=
    not_fits_lastAlone (by omega)
  have hlost := (hcut _ (arrived_lastAlone _)).2 hover
  rw [hall _ (arrived_lastAlone _)] at hlost
  cases hlost

/-! ## The largest contents -/

/-- Thirty bytes of lines leave so much of the limit; the terminator is not counted. -/
theorem delivered_of_every_cut_largest :
    let m := (Message.new .send).withContent (List.replicate (maxFrameSize - 30) 120)
    let w : Wire := {}
    decode (encode m) = .ok (some (m, (encode m).length)) ∧ m.field? .contentLength ≠ none ∧
      ∀ arrivals, arrived arrivals = encode m → (w.receiveAll arrivals).2 = ([m], none) := by
  intro m w
  have hn : (List.replicate (maxFrameSize - 30) (120 : UInt8)).length = 16777186 :=
    List.length_replicate
  obtain ⟨hround, hfield⟩ := decode_encode_withContent (hn.trans_le (by decide))
  have hlines : (stating 16777186).length = 30 := by rfl
  have hlength : (encode m).length ≤ maxFrameSize + 1 := by
    rw [length_encode_withContent hn, hlines]
    decide
  have hset : m.field? .contentLength ≠ none := by
    rw [hfield]
    exact Option.some_ne_none _
  exact ⟨hround, hset, (delivered_of_every_cut_iff rfl hround hset).2.mpr hlength⟩

/-- The largest content that is read back is lost if the last byte of its frame comes alone. -/
theorem lost_of_last_byte_alone :
    let m := (Message.new .send).withContent (List.replicate maxFrameSize 120)
    let w : Wire := {}
    decode (encode m) = .ok (some (m, (encode m).length)) ∧ m.field? .contentLength ≠ none ∧
      encode m = stating maxFrameSize ++ (m.content ++ [terminator]) ∧
      (stating maxFrameSize).length ≤ 64 * 1024 ∧ arrived (lastAlone (encode m)) = encode m ∧
      (w.receiveAll (lastAlone (encode m))).2 = ([], some (.error frameTooLarge)) := by
  intro m w
  have hn : (List.replicate maxFrameSize (120 : UInt8)).length = maxFrameSize :=
    List.length_replicate
  obtain ⟨hround, hfield⟩ := decode_encode_withContent hn.le
  have hlines : (stating maxFrameSize).length = 30 := by rfl
  have hset : m.field? .contentLength ≠ none := by
    rw [hfield]
    exact Option.some_ne_none _
  have hsplit : encode m = stating maxFrameSize ++ (m.content ++ [terminator]) := by
    rw [encode_withContent, hn]
    rfl
  have hover : ¬ Fits [] (lastAlone (encode m)) (encode m).length := by
    refine not_fits_lastAlone ?_
    rw [length_encode_withContent hn, hlines]
    omega
  have hsmall : (stating maxFrameSize).length ≤ 64 * 1024 := by
    rw [hlines]
    decide
  exact ⟨hround, hset, hsplit, hsmall, arrived_lastAlone _,
    (receiveAll_of_encode rfl hround hset (arrived_lastAlone _)).2 hover⟩

end BrokerRpc.Wire
