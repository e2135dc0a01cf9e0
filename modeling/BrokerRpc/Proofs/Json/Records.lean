import BrokerRpc.Json.Record
import BrokerRpc.Proofs.Json.RoundTrip

/-! # Records that are written and read

A record is found again in the text of an object whose members are known, different, of their
shapes and complete, in whatever order they are written.
-/
namespace BrokerRpc.Json

open Bytes

theorem shaped_text (d : Nat) (s : String) : ReadsAs (shaped d .text) (.str s) (.str s) := by
  intro rest _
  obtain ⟨b, hwritten, hread⟩ := string_writeText s rest
  rw [write, hwritten]
  show (string b >>= _) = _
  rw [hread]
  rfl

/-- An option is read as any value is, since `null` is a value. -/
theorem shaped_optional_any (d : Nat) : shaped d (.optional .any) = value d := by
  funext b
  simp only [shaped]
  cases hskip : skipSpaces b with
  | nil =>
    unfold value
    rw [hskip]
  | cons c rest =>
    dsimp only
    split
    · rename_i hc
      unfold value
      rw [hskip]
      exact (if_pos hc).symm
    · exact (value_of_skipSpaces hskip).symm

namespace Record

variable {fields : List Field} {d : Nat}

def Fits (fields : List Field) (d : Nat) (entry : String × Json) : Prop :=
  ∃ field, fields.find? (·.name = entry.1) = some field ∧
    ReadsAs (shaped d field.shape) entry.2 entry.2

theorem ofMembers_step {field : Field} {first : Bool} {r : Record} {b t u rest : Bytes}
    {key : String} {x : Json} {fuel : Nat} (hquote : keyQuote first b = .ok (some (), t))
    (hkey : string t = .ok (key, 58 :: u)) (hfield : fields.find? (·.name = key) = some field)
    (hnew : r.get? key = none) (hx : shaped d field.shape u = .ok (x, rest)) :
    ofMembers fields d (fuel + 1) first r b =
      ofMembers fields d fuel false (r ++ [(key, x)]) rest := by
  have hcolon : colon (58 :: u) = .ok u := rfl
  rw [ofMembers]
  simp [hquote, bind, Except.bind, hkey, hfield, hnew, hcolon, hx]

theorem ofMembers_writeMembers {m : Members} {r : Record} (hm : ∀ entry ∈ m, Fits fields d entry)
    (hdistinct : Assoc.Distinct (r ++ m)) (hcomplete : complete fields (r ++ m) = true)
    {fuel : Nat} {rest : Bytes} (hfuel : m.length < fuel) :
    ofMembers fields d fuel false r (ofChars (writeMembers m) ++ rest) = .ok (r ++ m, rest) := by
  induction m generalizing r fuel with
  | nil =>
    obtain ⟨fuel, rfl⟩ : ∃ k, fuel = k + 1 := ⟨fuel - 1, by omega⟩
    rw [List.append_nil] at hcomplete ⊢
    show (if complete fields r then _ else _) = _
    rw [if_pos hcomplete]
    rfl
  | cons entry m ih =>
    obtain ⟨key, x⟩ := entry
    rw [List.length_cons] at hfuel
    obtain ⟨fuel, rfl⟩ : ∃ k, fuel = k + 1 := ⟨fuel - 1, by omega⟩
    obtain ⟨b, hwritten, -, hkey⟩ := ofChars_writeMembers_cons key x m rest
    obtain ⟨field, hfield, hreads⟩ := hm (key, x) List.mem_cons_self
    have hsplit : r ++ (key, x) :: m = r ++ [(key, x)] ++ m := by simp
    have hnew : r.get? key = none := by
      rw [Assoc.Distinct, Assoc.keys, List.map_append, List.nodup_append] at hdistinct
      exact Assoc.get?_eq_none_iff.mpr fun h => hdistinct.2.2 key h key List.mem_cons_self rfl
    rw [hsplit] at hdistinct hcomplete ⊢
    rw [hwritten, ofMembers_step rfl hkey hfield hnew (hreads _ (ends_writeMembers m rest)),
      ih (fun other hother => hm other (List.mem_cons_of_mem _ hother)) hdistinct hcomplete
        (by omega)]

theorem parse_bytes {m : Members} (hm : ∀ entry ∈ m, Fits fields (maxDepth - 1) entry)
    (hdistinct : Assoc.Distinct m) (hcomplete : complete fields m = true) :
    parse fields (obj m).bytes = .ok m := by
  rw [bytes_eq_ofChars]
  cases m with
  | nil =>
    show ((if complete fields [] then _ else _) >>= _) = _
    rw [if_pos hcomplete]
    rfl
  | cons entry m =>
    obtain ⟨key, x⟩ := entry
    obtain ⟨b, hnext, hfirst, hkey⟩ := ofChars_writeMembers_cons key x m []
    obtain ⟨field, hfield, hreads⟩ := hm (key, x) List.mem_cons_self
    have hlength := length_lt_writeMembers ((key, x) :: m) []
    simp only [hnext, List.length_cons] at hlength
    rw [← List.append_nil (ofChars _), hfirst]
    show (ofMembers fields (maxDepth - 1) _ true [] (34 :: b) >>= _) = _
    rw [ofMembers_step rfl hkey hfield rfl (hreads _ (ends_writeMembers m [])),
      ofMembers_writeMembers (fun other hother => hm other (List.mem_cons_of_mem _ hother))
        hdistinct hcomplete (by simp only [List.length_cons]; omega)]
    rfl

end Record
end BrokerRpc.Json
