/-! # Byte strings

Wire data is a list of bytes, and text crosses the wire as UTF-8. Reading gives back exactly the
text that was written, and accepts nothing else.
-/
namespace BrokerRpc

abbrev Bytes := List UInt8

namespace Bytes

def ofText (s : String) : Bytes := s.toByteArray.data.toList

def toText? (b : Bytes) : Option String := String.fromUTF8? b.toByteArray

theorem toByteArray_ofText (s : String) : (ofText s).toByteArray = s.toByteArray := by
  apply ByteArray.ext
  simp [ofText, List.data_toByteArray]

theorem toText?_ofText (s : String) : toText? (ofText s) = some s := by
  rw [toText?, toByteArray_ofText, String.fromUTF8?, dif_pos s.isValidUTF8]
  rfl

theorem eq_ofText_of_toText? {b : Bytes} {s : String} (h : toText? b = some s) : b = ofText s := by
  unfold toText? String.fromUTF8? at h
  split at h
  · rw [Option.some.injEq] at h
    subst h
    simp [ofText, String.fromUTF8]
  · contradiction

theorem toText?_eq_some_iff {b : Bytes} {s : String} : toText? b = some s ↔ b = ofText s :=
  ⟨eq_ofText_of_toText?, fun h => h ▸ toText?_ofText s⟩

theorem ofText_injective {s t : String} (h : ofText s = ofText t) : s = t := by
  have := toText?_ofText s
  rw [h, toText?_ofText] at this
  exact (Option.some.inj this).symm

/-- Cuts at the first occurrence of a byte: what stands before it and what stands after it. -/
def cut? (sep : UInt8) (b : Bytes) : Option (Bytes × Bytes) :=
  match b.dropWhile (· != sep) with
  | [] => none
  | _ :: rest => some (b.takeWhile (· != sep), rest)

theorem cut?_eq_none_iff {sep : UInt8} {b : Bytes} : cut? sep b = none ↔ sep ∉ b := by
  induction b with
  | nil => simp [cut?]
  | cons c r ih =>
    by_cases h : c = sep
    · subst h; simp [cut?]
    · have h' : sep ≠ c := fun e => h e.symm
      simp only [cut?, List.dropWhile_cons, List.takeWhile_cons, bne_iff_ne, ne_eq, h,
        not_false_eq_true, if_true, List.mem_cons, h', false_or] at ih ⊢
      rw [← ih]
      split <;> simp

theorem eq_of_cut? {sep : UInt8} {b front rest : Bytes} (h : cut? sep b = some (front, rest)) :
    b = front ++ sep :: rest ∧ sep ∉ front := by
  induction b generalizing front with
  | nil => simp [cut?] at h
  | cons c r ih =>
    by_cases hc : c = sep
    · subst hc
      simp [cut?] at h
      obtain ⟨rfl, rfl⟩ := h
      simp
    · have hc' : sep ≠ c := fun e => hc e.symm
      have hr : ∃ front', front = c :: front' ∧ cut? sep r = some (front', rest) := by
        simp only [cut?, List.dropWhile_cons, List.takeWhile_cons, bne_iff_ne, ne_eq, hc,
          not_false_eq_true, if_true] at h ⊢
        split at h
        · simp at h
        · simp only [Option.some.injEq, Prod.mk.injEq] at h
          obtain ⟨rfl, rfl⟩ := h
          exact ⟨_, rfl, by simp⟩
      obtain ⟨front', rfl, hr⟩ := hr
      obtain ⟨h₁, h₂⟩ := ih hr
      exact ⟨by rw [h₁]; rfl, by simp [hc', h₂]⟩

theorem length_lt_of_cut? {sep : UInt8} {b front rest : Bytes}
    (h : cut? sep b = some (front, rest)) : rest.length < b.length := by
  rw [(eq_of_cut? h).1]
  simp only [List.length_append, List.length_cons]
  omega

theorem cut?_append {sep : UInt8} {front : Bytes} (rest : Bytes) (h : sep ∉ front) :
    cut? sep (front ++ sep :: rest) = some (front, rest) := by
  induction front with
  | nil => simp [cut?]
  | cons c r ih =>
    have hc : c ≠ sep := fun e => h (by simp [e])
    have hr : sep ∉ r := fun e => h (by simp [e])
    have := ih hr
    simp only [cut?, List.cons_append, List.dropWhile_cons, List.takeWhile_cons, bne_iff_ne, ne_eq,
      hc, not_false_eq_true, if_true] at this ⊢
    split at this <;> simp_all

end Bytes
end BrokerRpc
