import BrokerRpc.Proofs.Json.Records
import BrokerRpc.Rpc.Request

/-! # Requests that are written and read

A request is read back from its bytes, up to the id `null`, which is left out. A batch is an array
of requests in their order, whether its text is taken apart or its value.
-/
namespace BrokerRpc

theorem Assoc.get?_of_perm {κ α : Type} [DecidableEq κ] {t u : Assoc κ α} (h : t.Perm u)
    (hu : u.Distinct) (key : κ) : t.get? key = u.get? key := by
  have ht : t.Distinct := (h.map Prod.fst).nodup_iff.mpr hu
  apply Option.ext
  intro value
  rw [← Assoc.mem_iff_get? ht, ← Assoc.mem_iff_get? hu, h.mem_iff]

namespace Request

def values (q : Request) : List Json := q.params :: q.id.toList

def members (q : Request) : Members :=
  [("jsonrpc", .str q.version), ("method", .str q.method), ("params", q.params)] ++
    (q.id.map fun id => ("id", id)).toList

theorem distinct_members (q : Request) : Assoc.Distinct q.members := by
  obtain ⟨version, method, params, _ | id⟩ := q <;> simp [members, Assoc.Distinct, Assoc.keys]

theorem complete_members (q : Request) : Json.Record.complete fields q.members = true := by
  simp [Json.Record.complete, fields, members, Assoc.get?]

theorem ofRecord_members (q : Request) : ofRecord q.members = q.normalized := by
  obtain ⟨version, method, params, _ | id⟩ := q <;>
    simp [ofRecord, members, normalized, Assoc.get?, textOf]

theorem forall_members {q : Request} {P : String × Json → Prop}
    (hversion : P ("jsonrpc", .str q.version)) (hmethod : P ("method", .str q.method))
    (hparams : P ("params", q.params))
    (hid : ∀ id, q.id = some id → P ("id", id)) : ∀ entry ∈ q.members, P entry := by
  intro entry hentry
  simp only [members, List.mem_append, List.mem_cons, List.not_mem_nil, or_false,
    Option.mem_toList, Option.map_eq_some_iff] at hentry
  rcases hentry with (rfl | rfl | rfl) | ⟨id, h, rfl⟩
  · exact hversion
  · exact hmethod
  · exact hparams
  · exact hid id h

theorem fits_members {q : Request} (hq : ∀ v ∈ q.values, Json.Plain 126 v) :
    ∀ entry ∈ q.members, Json.Record.Fits fields 126 entry := by
  refine forall_members ⟨_, rfl, Json.shaped_text 126 q.version⟩
    ⟨_, rfl, Json.shaped_text 126 q.method⟩
    ⟨_, rfl, Json.value_write (hq q.params List.mem_cons_self)⟩ fun id hid => ?_
  have hplain := hq id (List.mem_cons_of_mem _ (Option.mem_toList.mpr hid))
  refine ⟨⟨"id", .optional .any, false⟩, rfl, ?_⟩
  rw [Json.shaped_optional_any]
  exact Json.value_write hplain

theorem parse_members {q : Request} (hq : ∀ v ∈ q.values, Json.Plain 126 v) {m : Members}
    (hm : m.Perm q.members) : parse (Json.obj m).bytes = .ok q.normalized := by
  have hfits : ∀ entry ∈ m, Json.Record.Fits fields (Json.maxDepth - 1) entry :=
    fun entry hentry => fits_members hq entry (hm.mem_iff.mp hentry)
  have hdistinct : Assoc.Distinct m := (hm.map Prod.fst).nodup_iff.mpr q.distinct_members
  have hget : ∀ key, Assoc.get? m key = Assoc.get? q.members key :=
    Assoc.get?_of_perm hm q.distinct_members
  have hcomplete : Json.Record.complete fields m = true := by
    rw [← q.complete_members]
    simp only [Json.Record.complete, hget]
  have hrecord : ofRecord m = ofRecord q.members := by
    simp only [ofRecord, hget]
  rw [parse, Json.Record.parse_bytes hfits hdistinct hcomplete]
  show Except.ok (ofRecord m) = _
  rw [hrecord, ofRecord_members]

theorem plain_members {q : Request} {limit : Nat} (hq : ∀ v ∈ q.values, Json.Plain limit v) :
    ∀ entry ∈ q.members, Json.Plain limit entry.2 :=
  forall_members (Json.plain_str limit q.version) (Json.plain_str limit q.method)
    (hq q.params List.mem_cons_self)
    fun id hid => hq id (List.mem_cons_of_mem _ (Option.mem_toList.mpr hid))

theorem value_toJson {q : Request} (hq : ∀ v ∈ q.values, Json.Plain 125 v) :
    Json.ReadsAs (Json.value 126) q.toJson (.obj (Members.ofList q.members)) :=
  Json.value_obj fun entry hentry => Json.value_write (plain_members hq entry hentry)

/-- A request with plain values is read back from its bytes, up to the id `null`, which is left out,
so that a notification stays one. A batch is an array in whose text and in whose value each request
stands at its own place. -/
theorem written_read_back :
    (∀ q : Request, (∀ v ∈ q.values, Json.Plain 126 v) →
      parse q.bytes = .ok q.normalized ∧ q.normalized.isNotification = q.isNotification) ∧
    ∀ rs : List Request, (∀ q ∈ rs, ∀ v ∈ q.values, Json.Plain 125 v) →
      batchBytes rs = 91 :: ([44].intercalate (rs.map bytes) ++ [93]) ∧
        ∃ vs, Json.parse (batchBytes rs) = .ok (.arr vs) ∧ vs.length = rs.length ∧
          ∀ (i : Nat) (v : Json) (q : Request), vs[i]? = some v → rs[i]? = some q →
            parse v.bytes = .ok q.normalized ∧ parse q.bytes = .ok q.normalized := by
  have hself : ∀ q : Request, (∀ v ∈ q.values, Json.Plain 126 v) →
      parse q.bytes = .ok q.normalized := fun q hq => parse_members hq (List.Perm.refl _)
  refine ⟨fun q hq => ⟨hself q hq, q.isNotification_normalized⟩, fun rs hrs => ⟨?_, ?_⟩⟩
  · rw [batchBytes, Json.bytes_arr, List.map_map]
    rfl
  · refine ⟨rs.map fun q => .obj (Members.ofList q.members), ?_, List.length_map _, ?_⟩
    · refine Json.parse_of_readsAs (Json.value_arr ?_)
      rw [List.forall₂_map_left_iff, List.forall₂_map_right_iff, List.forall₂_same]
      exact fun q hq => value_toJson (hrs q hq)
    · intro i v q hv hq
      rw [List.getElem?_map, hq, Option.map_some, Option.some.injEq] at hv
      have hplain : ∀ v ∈ q.values, Json.Plain 126 v :=
        fun v hv => (hrs q (List.mem_of_getElem? hq) v hv).mono (by omega)
      subst hv
      exact ⟨parse_members hplain (Members.perm_ofList q.distinct_members), hself q hplain⟩

/-- The first request has the id `null` and comes back as the notification that it is. -/
theorem written_read_back_null_id :
    let params : Json :=
      .arr [.obj [("a\"", .int (-9223372036854775808)), ("b", .str "\\\n")], .null]
    let q : Request := { method := "jobs", params, id := some .null }
    let p := call "jobs" .null (.int 18446744073709551615)
    parse q.bytes = .ok (notification "jobs" params) ∧ parse p.bytes = .ok p ∧
      p.normalized.isNotification = p.isNotification ∧
      ∃ vs, Json.parse (batchBytes [q, p]) = .ok (.arr vs) ∧ vs.length = 2 ∧
        (∀ v, vs[0]? = some v → parse v.bytes = .ok (notification "jobs" params)) ∧
        ∀ v, vs[1]? = some v → parse v.bytes = .ok p := by
  intro params q p
  obtain ⟨hone, hbatch⟩ := written_read_back
  obtain ⟨hp, hsame⟩ := hone p (by decide)
  obtain ⟨-, vs, hparse, hlength, hvs⟩ := hbatch [q, p] (by decide)
  exact ⟨(hone q (by decide)).1, hp, hsame, vs, hparse, hlength,
    fun v hv => (hvs 0 v q hv rfl).1, fun v hv => (hvs 1 v p hv rfl).1⟩

end Request
end BrokerRpc
