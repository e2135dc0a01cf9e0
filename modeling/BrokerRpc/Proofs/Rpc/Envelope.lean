import BrokerRpc.Proofs.Inbound.Values
import BrokerRpc.Proofs.Json.Reading
import BrokerRpc.Proofs.Json.RoundTrip

/-! # Responses that are written and read

A response that was made or read carries well-formed values and not both a result and an error.
Writing it loses none of this, so that it is read back with all its members, and with no other.
-/
namespace BrokerRpc.Response

/-- How a response comes to be: it is made of values, or read. -/
inductive Built : Response → Prop where
  | success {id result : Json} (hid : id.WellFormed) (hresult : result.WellFormed) :
    Built (success id result)
  | failure {id : Json} (hid : id.WellFormed) {code : Int}
    (hcode : minInteger ≤ code ∧ code ≤ maxInteger) (message : String) :
    Built (failure id code message)
  | timeout {id : Json} (hid : id.WellFormed) : Built (timeout id)
  | ofJson {v : Json} {r : Response} (hv : v.WellFormed) (h : Response.ofJson v = .ok r) : Built r
  | parse {b : Bytes} {r : Response} (h : Response.parse b = .ok r) : Built r

def values (r : Response) : List Json := r.id :: (r.result.toList ++ r.error.toList)

/-- The values hold no fraction, and leave a level of nesting to the response itself. -/
def Portable (r : Response) : Prop := ∀ v ∈ r.values, v.Whole ∧ v.depth ≤ 126

instance (r : Response) : Decidable r.Portable :=
  inferInstanceAs (Decidable (∀ v ∈ r.values, v.Whole ∧ v.depth ≤ 126))

structure Sound (r : Response) : Prop where
  wellFormed : ∀ v ∈ r.values, v.WellFormed
  one : ¬ (r.result.isSome ∧ r.error.isSome)

theorem sound_failure {id : Json} (hid : id.WellFormed) {code : Int}
    (hcode : minInteger ≤ code ∧ code ≤ maxInteger) (message : String) :
    Sound (.failure id code message) := by
  have hmax : maxInteger ≤ Text.maxWord := by decide
  have herror : (Json.obj [("code", .int code), ("message", .str message)]).WellFormed := by
    have hkeys : ["code", "message"].Pairwise (· < ·) := by decide
    rw [Json.wellFormed_obj_iff]
    refine ⟨Members.ascending_iff_keys.mpr hkeys, ?_⟩
    simp only [List.forall_mem_cons, List.not_mem_nil, false_implies, implies_true, and_true]
    exact ⟨Json.wellFormed_of_parts rfl ⟨hcode.1, Int.le_trans hcode.2 hmax⟩,
      Json.wellFormed_of_parts rfl trivial⟩
  refine ⟨?_, by simp [failure]⟩
  simpa [values, failure] using ⟨hid, herror⟩

theorem sound_ofJson {v : Json} {r : Response} (hv : v.WellFormed) (h : ofJson v = .ok r) :
    Sound r := by
  obtain ⟨node, rfl⟩ : ∃ node, v = .obj node := by
    cases v with
    | obj node => exact ⟨node, rfl⟩
    | _ => cases h
  obtain ⟨hascending, hmembers⟩ := Json.wellFormed_obj_iff.mp hv
  obtain ⟨-, hid, hresult, herror, hone⟩ := Inbound.responseOfJson_eq_ok_iff.mp h
  have hfound : ∀ {key : String} {w : Json}, Assoc.get? node key = some w → w.WellFormed :=
    fun hget => hmembers _ ((Assoc.mem_iff_get? hascending.distinct).mpr hget)
  refine ⟨?_, hone⟩
  intro w hw
  simp only [values, List.mem_cons, List.mem_append, Option.mem_toList] at hw
  rcases hw with rfl | hw | hw
  · exact hfound hid
  · exact hfound (hresult.trans hw)
  · exact hfound (herror.trans hw)

theorem Built.sound {r : Response} (h : r.Built) : Sound r := by
  cases h with
  | success hid hresult =>
    refine ⟨?_, by simp [Response.success]⟩
    simpa [values, Response.success] using ⟨hid, hresult⟩
  | failure hid hcode message => exact sound_failure hid hcode message
  | timeout hid => exact sound_failure hid (by decide) timeoutMessage
  | ofJson hv h => exact sound_ofJson hv h
  | @parse b _ h =>
    unfold Response.parse at h
    split at h
    · rename_i v hparse
      exact sound_ofJson (Json.wellFormed_of_parse hparse) h
    · cases h

theorem ofJson_toJson {r : Response} (h : ¬ (r.result.isSome ∧ r.error.isSome)) :
    ofJson r.toJson = .ok r := by
  rw [toJson, Inbound.responseOfJson_eq_ok_iff]
  obtain ⟨result, error, id⟩ := r
  cases result <;> cases error <;> simp_all [members, Assoc.get?, protocolVersion]

theorem ascending_members (r : Response) : Members.Ascending r.members := by
  have hall : ["error", "id", "jsonrpc", "result"].Pairwise (· < ·) := by decide
  have hkeys : (Assoc.keys r.members).Sublist ["error", "id", "jsonrpc", "result"] := by
    obtain ⟨result, error, id⟩ := r
    cases result <;> cases error <;> simp [members, Assoc.keys]
  exact Members.ascending_iff_keys.mpr (hall.sublist hkeys)

theorem mem_members {r : Response} {entry : String × Json} (h : entry ∈ r.members) :
    entry.2 ∈ r.values ∨ entry.2 = .str protocolVersion := by
  obtain ⟨result, error, id⟩ := r
  cases result <;> cases error <;> simp [members, values] at h ⊢ <;> grind

theorem plain_toJson {r : Response} {limit : Nat} (h : ∀ v ∈ r.values, Json.Plain limit v) :
    Json.Plain (limit + 1) r.toJson := by
  refine Json.plain_obj_iff.mpr ⟨r.ascending_members, fun entry hentry => ?_⟩
  rcases mem_members hentry with hv | hv
  · exact h _ hv
  · rw [hv]
    exact Json.plain_str limit protocolVersion

theorem parse_bytes {r : Response} (h : r.Sound) (hp : r.Portable) : parse r.bytes = .ok r := by
  have hplain : Json.Plain Json.maxDepth r.toJson :=
    plain_toJson fun v hv => ⟨⟨h.wellFormed v hv, (hp v hv).1⟩, (hp v hv).2⟩
  rw [parse, bytes, Json.parse_bytes hplain]
  exact ofJson_toJson h.one

/-- A response that was made or read is found again in its value and, if it can be carried, in its
bytes. An explicit `null` result is never taken for a missing one. -/
theorem read_back {r : Response} (hr : r.Built) :
    ofJson r.toJson = .ok r ∧ (r.Portable → parse r.bytes = .ok r) ∧
      ∀ s : Response, s.Built → r.result = some .null → s.result = none →
        r.toJson ≠ s.toJson ∧ (r.Portable → s.Portable → r.bytes ≠ s.bytes) := by
  refine ⟨ofJson_toJson hr.sound.one, parse_bytes hr.sound, ?_⟩
  intro s hs hnull hnone
  have hne : r ≠ s := by
    intro he
    rw [he, hnone] at hnull
    cases hnull
  refine ⟨fun he => hne ?_, fun hpr hps he => hne ?_⟩
  · have hread := ofJson_toJson hr.sound.one
    rw [he, ofJson_toJson hs.sound.one] at hread
    exact (Except.ok.inj hread).symm
  · have hread := parse_bytes hr.sound hpr
    rw [he, parse_bytes hs.sound hps] at hread
    exact (Except.ok.inj hread).symm

/-- The text has blanks, its members stand in another order, and one of them is given twice. -/
theorem read_back_rearranged :
    let b := Bytes.ofText
      " \x7b \"jsonrpc\": \"2.0\", \"id\": 1, \"result\": null, \"id\": [\"\\u0022\\n\", -7] \x7d"
    let id : Json := .arr [.str "\"\n", .int (-7)]
    let bare : Response := ⟨none, none, id⟩
    parse b = .ok (success id .null) ∧ ofJson (success id .null).toJson = .ok (success id .null) ∧
      parse (success id .null).bytes = .ok (success id .null) ∧ parse bare.bytes = .ok bare ∧
      (success id .null).bytes ≠ bare.bytes := by
  intro b id bare
  have hparse : parse b = .ok (success id .null) := by decide
  have hbare : bare.Built :=
    .ofJson (v := .obj [("id", id), ("jsonrpc", .str "2.0")]) (by decide) rfl
  obtain ⟨hvalue, hbytes, hnull⟩ := read_back (.parse hparse)
  obtain ⟨-, hbytes', -⟩ := read_back hbare
  exact ⟨hparse, hvalue, hbytes (by decide), hbytes' (by decide),
    (hnull bare hbare rfl rfl).2 (by decide) (by decide)⟩

end BrokerRpc.Response
