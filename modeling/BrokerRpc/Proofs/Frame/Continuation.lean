import BrokerRpc.Proofs.Frame.Progress

/-! # What more bytes can change

More bytes can complete a frame, and a rejection that has not found its terminator drops more of
them. Nothing else changes: what was read as a frame stays that frame, and what was rejected stays
rejected for the same reason.
-/
namespace BrokerRpc.Frame

theorem next?_append_of_message {b : Bytes} {found : Message × Nat}
    (h : next? b = some (.ok found)) (e : Bytes) : next? (b ++ e) = some (.ok found) := by
  have hv := verdict b
  rw [h] at hv
  cases hv with
  | settled _ _ _ _ _ _ hkeep => exact hkeep e

/-- A rejection keeps its reason, and its length exactly if that is settled. -/
theorem next?_append_of_rejected {b : Bytes} {r : Rejected} (h : next? b = some (.error r))
    (e : Bytes) : ∃ k, next? (b ++ e) = some (.error ⟨r.reason, k⟩) ∧ r.consumed ≤ k ∧
      (k = r.consumed ↔ e = [] ∨ r.consumed < b.length ∨ b.getLast? = some terminator) := by
  have hv := verdict b
  rw [h] at hv
  cases hv with
  | settled front rest hb hc hpos hend hkeep =>
    refine ⟨r.consumed, hkeep e, le_refl _, fun _ => Or.inr ?_, fun _ => rfl⟩
    have hlast := hend r rfl
    have hlen : r.consumed = front.length := hc
    cases rest with
    | nil => exact Or.inr (by rw [hb, List.append_nil, hlast])
    | cons c rest =>
      refine Or.inl ?_
      rw [hlen, hb, List.length_append, List.length_cons]
      omega
  | unsettled hr hpos hlast hmore =>
    by_cases he : e = []
    · refine ⟨b.length, ?_, le_refl _, fun _ => Or.inl he, fun _ => rfl⟩
      rw [he, List.append_nil, h]
    · obtain ⟨k, hk, hnext⟩ := hmore e he
      have hne : ¬ (e = [] ∨ b.length < b.length ∨ b.getLast? = some terminator) := by
        simp [he, hlast]
      refine ⟨k, hnext, Nat.le_of_lt hk, fun hsame => ?_, fun hsettled => absurd hsettled hne⟩
      exact absurd hsame (Nat.ne_of_gt hk)

theorem next?_of_append_wants {b e : Bytes} (h : next? (b ++ e) = none) : next? b = none := by
  cases hnext : next? b with
  | none => rfl
  | some reading =>
    cases reading with
    | ok found => cases h.symm.trans (next?_append_of_message hnext e)
    | error r =>
      obtain ⟨k, hk, -, -⟩ := next?_append_of_rejected hnext e
      cases h.symm.trans hk

/-! ## Readings as they are reported -/

def reported : Option Reading → Except Rejected (Option (Message × Nat))
  | none => .ok none
  | some (.ok found) => .ok (some found)
  | some (.error r) => .error r

theorem decode_eq_reported (b : Bytes) : decode b = reported (next? b) := by
  unfold next?
  cases decode b with
  | error r => rfl
  | ok found => cases found <;> rfl

theorem next?_of_wants {b : Bytes} (h : decode b = .ok none) : next? b = none := by
  rw [next?, h]

/-- Whatever follows, a frame that was read is the same frame, and a rejection has the same reason.
It takes no fewer bytes then, and the same ones exactly if nothing follows, or it left some, or it
ends at a terminator. A buffer that wants more bytes has no front that is a frame or is rejected. -/
theorem decode_append (b e : Bytes) :
    (∀ m n, decode b = .ok (some (m, n)) → decode (b ++ e) = .ok (some (m, n))) ∧
    (∀ reason k, decode b = .error ⟨reason, k⟩ →
      ∃ k', decode (b ++ e) = .error ⟨reason, k'⟩ ∧ k ≤ k' ∧
        (k' = k ↔ e = [] ∨ k < b.length ∨ b.getLast? = some terminator)) ∧
    (decode (b ++ e) = .ok none → decode b = .ok none) := by
  refine ⟨fun m n h => ?_, fun reason k h => ?_, fun h => ?_⟩
  · rw [decode_eq_reported, next?_append_of_message (next?_of_decode_ok h)]
    rfl
  · obtain ⟨k', hnext, hk'⟩ := next?_append_of_rejected (next?_of_decode_error h) e
    refine ⟨k', ?_, hk'⟩
    rw [decode_eq_reported, hnext]
    rfl
  · rw [decode_eq_reported, next?_of_append_wants (next?_of_wants h)]
    rfl

/-- A frame whose body goes on where its terminator should be. -/
def overlong : Bytes := Bytes.ofText "SEND\ncontent-length:1\n\nab"

theorem decode_overlong : decode overlong = .error ⟨.lengthMismatch 1, 25⟩ := by decide +kernel

/-- It is rejected before its terminator has arrived, and takes more bytes once it has. -/
theorem decode_append_overlong :
    decode overlong = .error ⟨.lengthMismatch 1, 25⟩ ∧
      ∃ k, decode (overlong ++ [99, terminator]) = .error ⟨.lengthMismatch 1, k⟩ ∧ 25 < k := by
  have hopen : ¬ ([99, terminator] = [] ∨ 25 < overlong.length ∨
      overlong.getLast? = some terminator) := by decide
  obtain ⟨k, hk, hle, hiff⟩ := (decode_append overlong [99, terminator]).2.1 _ _ decode_overlong
  exact ⟨decode_overlong, k, hk, Nat.lt_of_le_of_ne hle fun he => hopen (hiff.mp he.symm)⟩

end BrokerRpc.Frame
