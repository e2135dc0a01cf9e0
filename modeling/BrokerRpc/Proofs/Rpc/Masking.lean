import BrokerRpc.Proofs.Json.Values
import BrokerRpc.Rpc.Response

/-! # Passwords in responses

A response is shown with its result, and of an object every member is shown in the order of the keys.
Of the member `password` only the key is seen: results that differ in its value alone look the same.
Every other member has its own part of the text, and nothing else of the text depends on it.
-/
namespace BrokerRpc

theorem Members.exists_put_eq (m : Members) (key : String) :
    ∃ front back : Members, ∀ value, put m key value = front ++ (key, value) :: back := by
  induction m with
  | nil => exact ⟨[], [], fun _ => rfl⟩
  | cons entry rest ih =>
    obtain ⟨other, old⟩ := entry
    -- a new key goes in front of the first greater one, a known one stays where it is
    by_cases hlt : key < other
    · refine ⟨[], (other, old) :: rest, fun value => ?_⟩
      rw [put, if_pos hlt, List.nil_append]
    by_cases heq : other = key
    · refine ⟨[], rest, fun value => ?_⟩
      rw [put, if_neg hlt, if_pos heq, List.nil_append]
    obtain ⟨front, back, hput⟩ := ih
    refine ⟨(other, old) :: front, back, fun value => ?_⟩
    rw [put, if_neg hlt, if_neg heq, hput, List.cons_append]

theorem Text.exists_intercalate_eq (sep : String) (before after : List String) :
    ∃ front back : String, ∀ part,
      sep.intercalate (before ++ part :: after) = front ++ part ++ back := by
  have hback : ∃ back, ∀ part, sep.intercalate (part :: after) = part ++ back := by
    by_cases ha : after = []
    · exact ⟨"", fun part => by rw [ha, String.intercalate_singleton, String.append_empty]⟩
    · refine ⟨sep ++ sep.intercalate after, fun part => ?_⟩
      rw [String.intercalate_cons_of_ne_nil ha, String.append_assoc]
  obtain ⟨back, hback⟩ := hback
  by_cases hb : before = []
  · exact ⟨"", back, fun part => by rw [hb, List.nil_append, hback, String.empty_append]⟩
  · refine ⟨sep.intercalate before ++ sep, back, fun part => ?_⟩
    rw [String.intercalate_append_of_ne_nil hb (List.cons_ne_nil _ _), hback, ← String.append_assoc]

namespace Response

/-- What is shown of a value that is not hidden: a text as it is, anything else as JSON. -/
def plainText : Json → String
  | .str s => s
  | other => other.text

theorem shownMember_eq (entry : String × Json) : shownMember entry =
    entry.1 ++ ": " ++ if entry.1 = "password" then "*****" else plainText entry.2 := by
  obtain ⟨key, value⟩ := entry
  cases value <;> rfl

theorem text_success (id result : Json) : (success id result).text =
    "<JsonRpcResponse id: " ++ id.text ++ " result: " ++ shownResult result ++ ">" := by
  unfold text success
  rw [← String.append_assoc, ← String.append_assoc]

theorem text_error (id error : Json) : (⟨none, some error, id⟩ : Response).text =
    "<JsonRpcResponse id: " ++ id.text ++ " error: " ++ error.text ++ ">" := by
  unfold text
  rw [← String.append_assoc, ← String.append_assoc]

theorem shownResult_obj (m : Members) :
    shownResult (.obj m) = "\x7b" ++ ", ".intercalate (m.map shownMember) ++ "\x7d" := rfl

/-- Each member of a result has its own place in the text of the response. -/
theorem exists_text_put_eq (id : Json) (m : Members) (key : String) :
    ∃ front back : String, ∀ value, (success id (.obj (Members.put m key value))).text =
      front ++ (if key = "password" then "*****" else plainText value) ++ back := by
  obtain ⟨before, after, hput⟩ := m.exists_put_eq key
  obtain ⟨front, back, hparts⟩ :=
    Text.exists_intercalate_eq ", " (before.map shownMember) (after.map shownMember)
  refine ⟨"<JsonRpcResponse id: " ++ id.text ++ " result: " ++ "\x7b" ++ front ++ (key ++ ": "),
    back ++ "\x7d" ++ ">", fun value => ?_⟩
  rw [text_success, shownResult_obj, hput, List.map_append, List.map_cons, hparts, shownMember_eq]
  simp only [String.append_assoc]

/-- What a reader may know of a result: the value of the password is left out. -/
def openPart (m : Members) : Members := Assoc.modify m "password" fun _ => .null

theorem map_shownMember_openPart (m : Members) :
    (openPart m).map shownMember = m.map shownMember := by
  rw [openPart, Assoc.modify, List.map_map]
  refine List.map_congr_left fun entry _ => ?_
  by_cases hkey : entry.1 = "password" <;> simp [hkey, shownMember_eq]

theorem openPart_eq {m n : Members} (hm : m.Ascending) (hn : n.Ascending)
    (hopen : ∀ key, key ≠ "password" → Assoc.get? m key = Assoc.get? n key)
    (hhas : Assoc.contains m "password" = Assoc.contains n "password") :
    openPart m = openPart n := by
  have hascending : ∀ {m : Members}, m.Ascending → (openPart m).Ascending := by
    intro m hm
    rw [Members.ascending_iff_keys, openPart, Assoc.keys_modify]
    exact Members.ascending_iff_keys.mp hm
  refine Members.eq_of_get? (hascending hm) (hascending hn) fun key => ?_
  rw [openPart, openPart, Assoc.get?_modify, Assoc.get?_modify]
  split
  · rename_i hkey
    subst hkey
    simp only [Assoc.contains] at hhas
    cases hget : Assoc.get? m "password" <;> cases hget' : Assoc.get? n "password" <;>
      simp_all
  · rename_i hkey
    exact hopen key hkey

/-- A response with any id shows the same text for two objects that differ in the value of the password
alone, whatever the two values are and however the objects came to hold them. An object is shown with
all its members in the ascending order of their keys, texts as they are and other values as JSON, so
that a change of one value changes its own part of the text and no other. A result that is no object,
and an error, are shown as JSON. -/
theorem text_hides_password (id : Json) :
    (∀ (m : Members) (v w : Json), (success id (.obj (Members.put m "password" v))).text =
      (success id (.obj (Members.put m "password" w))).text) ∧
    (∀ m n : Members, m.Ascending → n.Ascending →
      (∀ key, key ≠ "password" → Assoc.get? m key = Assoc.get? n key) →
      Assoc.contains m "password" = Assoc.contains n "password" →
      (success id (.obj m)).text = (success id (.obj n)).text) ∧
    (∀ entries, let m := Members.ofList entries
      (Assoc.keys m).Pairwise (· < ·) ∧
      (success id (.obj m)).text = "<JsonRpcResponse id: " ++ id.text ++ " result: " ++
        ("\x7b" ++ ", ".intercalate (m.map fun entry =>
          entry.1 ++ ": " ++ if entry.1 = "password" then "*****" else plainText entry.2) ++
        "\x7d") ++ ">") ∧
    (∀ (m : Members) (key : String), key ≠ "password" → ∃ front back, ∀ v,
      (success id (.obj (Members.put m key v))).text = front ++ plainText v ++ back) ∧
    (∀ v : Json, (∀ m, v ≠ .obj m) →
      (success id v).text = "<JsonRpcResponse id: " ++ id.text ++ " result: " ++ v.text ++ ">") ∧
    ∀ e : Json, (⟨none, some e, id⟩ : Response).text =
      "<JsonRpcResponse id: " ++ id.text ++ " error: " ++ e.text ++ ">" := by
  refine ⟨fun m v w => ?_, fun m n hm hn hopen hhas => ?_, fun entries => ⟨?_, ?_⟩,
    fun m key hkey => ?_, fun v hv => ?_, text_error id⟩
  · obtain ⟨front, back, hput⟩ := exists_text_put_eq id m "password"
    rw [hput, hput, if_pos rfl, if_pos rfl]
  · rw [text_success, text_success, shownResult_obj, shownResult_obj,
      ← map_shownMember_openPart m, openPart_eq hm hn hopen hhas, map_shownMember_openPart]
  · exact Members.ascending_iff_keys.mp (Members.ascending_ofList entries)
  · rw [text_success, shownResult_obj, List.map_congr_left fun entry _ => shownMember_eq entry]
  · obtain ⟨front, back, hput⟩ := exists_text_put_eq id m key
    exact ⟨front, back, fun v => by rw [hput, if_neg hkey]⟩
  · have hshown : shownResult v = v.text := by
      cases v with
      | obj m => exact absurd rfl (hv m)
      | _ => rfl
    rw [text_success, hshown]

end Response
end BrokerRpc
