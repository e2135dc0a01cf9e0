import BrokerRpc.Json.Value
import BrokerRpc.Rpc.Request
import Mathlib.Data.List.Nodup

/-! # Values that can be read back

The members of an object ascend, and its numbers fit into 64 bits. A value of which this holds
throughout is well formed; every value that is read is. If it holds no fraction either, its text
tells it apart from every other such value.
-/
namespace BrokerRpc

/-! ## Members -/

namespace Members

def Ascending (m : Members) : Prop := m.Pairwise fun a b => a.1 < b.1

instance (m : Members) : Decidable m.Ascending := inferInstanceAs (Decidable (List.Pairwise _ _))

theorem ascending_cons_iff {m : Members} {entry : String × Json} :
    Ascending (entry :: m) ↔ (∀ other ∈ m, entry.1 < other.1) ∧ Ascending m := List.pairwise_cons

theorem ascending_iff_keys {m : Members} : Ascending m ↔ (Assoc.keys m).Pairwise (· < ·) :=
  List.pairwise_map.symm

theorem Ascending.distinct {m : Members} (h : Ascending m) : Assoc.Distinct m := by
  rw [Assoc.Distinct, List.nodup_iff_pairwise_ne]
  apply (ascending_iff_keys.mp h).imp
  intro a b hlt he
  exact String.lt_irrefl b (he ▸ hlt)

/-- Ascending members are what is found under each key, and nothing else. -/
theorem eq_of_get? {m n : Members} (hm : Ascending m) (hn : Ascending n)
    (h : ∀ key, Assoc.get? m key = Assoc.get? n key) : m = n := by
  have hmem : ∀ entry, entry ∈ m ↔ entry ∈ n := by
    rintro ⟨key, value⟩
    rw [Assoc.mem_iff_get? hm.distinct, Assoc.mem_iff_get? hn.distinct, h key]
  have hperm : List.Perm m n :=
    (List.perm_ext_iff_of_nodup (List.Nodup.of_map _ hm.distinct)
      (List.Nodup.of_map _ hn.distinct)).mpr hmem
  exact hperm.eq_of_pairwise (fun a b _ _ hab hba => absurd hba (String.lt_asymm hab)) hm hn

theorem mem_put {m : Members} {name : String} {value : Json} {entry : String × Json}
    (h : entry ∈ put m name value) : entry = (name, value) ∨ entry ∈ m := by
  induction m with
  | nil => exact Or.inl (List.mem_singleton.mp h)
  | cons first rest ih =>
    obtain ⟨key, old⟩ := first
    unfold put at h
    split at h
    · exact List.mem_cons.mp h
    split at h
    · exact (List.mem_cons.mp h).imp_right (List.mem_cons_of_mem _)
    · rcases List.mem_cons.mp h with rfl | h
      · exact Or.inr List.mem_cons_self
      · exact (ih h).imp_right (List.mem_cons_of_mem _)

theorem ascending_put {m : Members} (h : Ascending m) (name : String) (value : Json) :
    Ascending (put m name value) := by
  induction m with
  | nil => exact List.pairwise_singleton _ _
  | cons first rest ih =>
    obtain ⟨key, old⟩ := first
    obtain ⟨hfirst, hrest⟩ := ascending_cons_iff.mp h
    unfold put
    split
    · rename_i hlt
      refine ascending_cons_iff.mpr ⟨fun other hmem => ?_, h⟩
      rcases List.mem_cons.mp hmem with rfl | hmem
      · exact hlt
      · exact String.lt_trans hlt (hfirst other hmem)
    split
    · rename_i heq
      subst heq
      exact ascending_cons_iff.mpr ⟨hfirst, hrest⟩
    · rename_i hge hne
      have hlt : key < name := by
        by_contra hno
        exact hne (String.le_antisymm (String.not_lt.mp hge) (String.not_lt.mp hno))
      refine ascending_cons_iff.mpr ⟨fun other hmem => ?_, ih hrest⟩
      rcases mem_put hmem with rfl | hmem
      · exact hlt
      · exact hfirst other hmem

theorem ascending_ofList (entries : List (String × Json)) : Ascending (ofList entries) := by
  have hfold : ∀ m : Members, Ascending m →
      Ascending (entries.foldl (fun m entry => put m entry.1 entry.2) m) := by
    induction entries with
    | nil => exact fun m hm => hm
    | cons entry rest ih => exact fun m hm => ih _ (ascending_put hm entry.1 entry.2)
  exact hfold [] List.Pairwise.nil

theorem mem_ofList {entries : List (String × Json)} {entry : String × Json}
    (h : entry ∈ ofList entries) : entry ∈ entries := by
  have hfold : ∀ m : Members, entry ∈ entries.foldl (fun m e => put m e.1 e.2) m →
      entry ∈ m ∨ entry ∈ entries := by
    clear h
    induction entries with
    | nil => exact fun m h => Or.inl h
    | cons first rest ih =>
      intro m h
      rcases ih _ h with h | h
      · rcases mem_put h with rfl | h
        · exact Or.inr List.mem_cons_self
        · exact Or.inl h
      · exact Or.inr (List.mem_cons_of_mem _ h)
  exact (hfold [] h).resolve_left List.not_mem_nil

theorem put_of_lt {m : Members} {name : String} (h : ∀ entry ∈ m, entry.1 < name) (value : Json) :
    put m name value = m ++ [(name, value)] := by
  induction m with
  | nil => rfl
  | cons first rest ih =>
    obtain ⟨key, old⟩ := first
    have hlt : key < name := h _ List.mem_cons_self
    have hne : key ≠ name := fun he => String.lt_irrefl name (he ▸ hlt)
    rw [put, if_neg (String.lt_asymm hlt), if_neg hne,
      ih fun other hmem => h other (List.mem_cons_of_mem _ hmem)]
    rfl

theorem ofList_of_ascending {m : Members} (h : Ascending m) : ofList m = m := by
  have hfold : ∀ front : Members, Ascending (front ++ m) →
      m.foldl (fun m e => put m e.1 e.2) front = front ++ m := by
    clear h
    induction m with
    | nil => exact fun front _ => (List.append_nil front).symm
    | cons entry rest ih =>
      intro front hfront
      have hbehind : ∀ other ∈ front, other.1 < entry.1 := fun other hmem =>
        (List.pairwise_append.mp hfront).2.2 other hmem entry List.mem_cons_self
      rw [List.foldl_cons, put_of_lt hbehind, ih, List.append_assoc, List.singleton_append]
      rwa [List.append_assoc, List.singleton_append]
  exact hfold [] h

theorem perm_put {m : Members} {name : String} (h : name ∉ Assoc.keys m) (value : Json) :
    (put m name value).Perm ((name, value) :: m) := by
  induction m with
  | nil => exact List.Perm.refl _
  | cons first rest ih =>
    obtain ⟨key, old⟩ := first
    obtain ⟨hne, hrest⟩ := not_or.mp (mt List.mem_cons.mpr h)
    unfold put
    split
    · exact List.Perm.refl _
    rw [if_neg (Ne.symm hne)]
    exact ((ih hrest).cons _).trans (List.Perm.swap _ _ _)

theorem perm_ofList {entries : List (String × Json)} (h : Assoc.Distinct entries) :
    (ofList entries).Perm entries := by
  have hfold : ∀ m : Members, Assoc.Distinct (m ++ entries) →
      (entries.foldl (fun m entry => put m entry.1 entry.2) m).Perm (m ++ entries) := by
    clear h
    induction entries with
    | nil => exact fun m _ => by rw [List.append_nil]; exact List.Perm.refl m
    | cons entry rest ih =>
      intro m hm
      have hnew : entry.1 ∉ Assoc.keys m := by
        rw [Assoc.Distinct, Assoc.keys, List.map_append, List.nodup_append] at hm
        exact fun hmem => hm.2.2 entry.1 hmem entry.1 List.mem_cons_self rfl
      have hput := (perm_put hnew entry.2).append_right rest
      have hmove : (m ++ entry :: rest).Perm (entry :: m ++ rest) := List.perm_middle
      have hdistinct : Assoc.Distinct (put m entry.1 entry.2 ++ rest) :=
        ((hput.trans hmove.symm).map Prod.fst).nodup_iff.mpr hm
      exact (ih _ hdistinct).trans (hput.trans hmove.symm)
  exact hfold [] h

end Members

namespace Json

/-! ## What a value holds -/

mutual

def parts : Json → List Json
  | arr xs => arr xs :: partsOfItems xs
  | obj m => obj m :: partsOfMembers m
  | v => [v]

def partsOfItems : List Json → List Json
  | [] => []
  | x :: xs => parts x ++ partsOfItems xs

def partsOfMembers : List (String × Json) → List Json
  | [] => []
  | (_, x) :: m => parts x ++ partsOfMembers m

end

mutual

def depth : Json → Nat
  | arr xs => depthOfItems xs + 1
  | obj m => depthOfMembers m + 1
  | _ => 0

def depthOfItems : List Json → Nat
  | [] => 0
  | x :: xs => max (depth x) (depthOfItems xs)

def depthOfMembers : List (String × Json) → Nat
  | [] => 0
  | (_, x) :: m => max (depth x) (depthOfMembers m)

end

theorem mem_partsOfItems {w : Json} {xs : List Json} :
    w ∈ partsOfItems xs ↔ ∃ x ∈ xs, w ∈ parts x := by
  induction xs with
  | nil => simp [partsOfItems]
  | cons x xs ih => simp [partsOfItems, ih]

theorem mem_partsOfMembers {w : Json} {m : List (String × Json)} :
    w ∈ partsOfMembers m ↔ ∃ entry ∈ m, w ∈ parts entry.2 := by
  induction m with
  | nil => simp [partsOfMembers]
  | cons entry m ih => simp [partsOfMembers, ih]

theorem depth_arr_le_iff {xs : List Json} {d : Nat} :
    depth (arr xs) ≤ d + 1 ↔ ∀ x ∈ xs, depth x ≤ d := by
  rw [depth, Nat.add_le_add_iff_right]
  induction xs with
  | nil => simp [depthOfItems]
  | cons x xs ih => rw [depthOfItems, Nat.max_le, ih, List.forall_mem_cons]

theorem depth_obj_le_iff {m : Members} {d : Nat} :
    depth (obj m) ≤ d + 1 ↔ ∀ entry ∈ m, depth entry.2 ≤ d := by
  rw [depth, Nat.add_le_add_iff_right]
  induction m with
  | nil => simp [depthOfMembers]
  | cons entry m ih => rw [depthOfMembers, Nat.max_le, ih, List.forall_mem_cons]

/-! ## Well-formed values -/

/-- What a value has to satisfy, the values in it left aside: a whole number fits into 64 bits, and
the members of an object ascend. -/
def Proper : Json → Prop
  | int n => minInteger ≤ n ∧ n ≤ Text.maxWord
  | obj m => Members.Ascending m
  | _ => True

def isFraction : Json → Bool
  | fraction _ => true
  | _ => false

instance : (v : Json) → Decidable v.Proper
  | int n => inferInstanceAs (Decidable (minInteger ≤ n ∧ n ≤ Text.maxWord))
  | obj m => inferInstanceAs (Decidable (Members.Ascending m))
  | null | bool _ | fraction _ | str _ | arr _ => isTrue trivial

/-- The value and all values in it are as a reader makes them. -/
def WellFormed (v : Json) : Prop := ∀ w ∈ v.parts, w.Proper

def Whole (v : Json) : Prop := ∀ w ∈ v.parts, w.isFraction = false

instance (v : Json) : Decidable v.WellFormed :=
  inferInstanceAs (Decidable (∀ w ∈ v.parts, w.Proper))

instance (v : Json) : Decidable v.Whole :=
  inferInstanceAs (Decidable (∀ w ∈ v.parts, w.isFraction = false))

theorem wellFormed_of_parts {v : Json} (hparts : v.parts = [v]) (h : v.Proper) : v.WellFormed := by
  intro w hw
  rw [hparts, List.mem_singleton] at hw
  exact hw ▸ h

theorem forall_parts_arr_iff {P : Json → Prop} {xs : List Json} :
    (∀ w ∈ (arr xs).parts, P w) ↔ P (arr xs) ∧ ∀ x ∈ xs, ∀ w ∈ x.parts, P w := by
  simp only [parts, List.forall_mem_cons, mem_partsOfItems]
  exact and_congr_right fun _ =>
    ⟨fun h x hx w hw => h w ⟨x, hx, hw⟩, fun h w ⟨x, hx, hw⟩ => h x hx w hw⟩

theorem forall_parts_obj_iff {P : Json → Prop} {m : Members} :
    (∀ w ∈ (obj m).parts, P w) ↔ P (obj m) ∧ ∀ entry ∈ m, ∀ w ∈ entry.2.parts, P w := by
  simp only [parts, List.forall_mem_cons, mem_partsOfMembers]
  exact and_congr_right fun _ =>
    ⟨fun h x hx w hw => h w ⟨x, hx, hw⟩, fun h w ⟨x, hx, hw⟩ => h x hx w hw⟩

theorem wellFormed_arr_iff {xs : List Json} : WellFormed (arr xs) ↔ ∀ x ∈ xs, WellFormed x :=
  forall_parts_arr_iff.trans (and_iff_right trivial)

theorem wellFormed_obj_iff {m : Members} :
    WellFormed (obj m) ↔ Members.Ascending m ∧ ∀ entry ∈ m, WellFormed entry.2 :=
  forall_parts_obj_iff

theorem whole_arr_iff {xs : List Json} : Whole (arr xs) ↔ ∀ x ∈ xs, Whole x :=
  forall_parts_arr_iff.trans (and_iff_right rfl)

theorem whole_obj_iff {m : Members} : Whole (obj m) ↔ ∀ entry ∈ m, Whole entry.2 :=
  forall_parts_obj_iff.trans (and_iff_right rfl)

/-- A value that its text tells apart from every other one. -/
structure Exact (v : Json) : Prop where
  wellFormed : v.WellFormed
  whole : v.Whole

/-- A value that is read back wherever `limit` levels may nest. -/
structure Plain (limit : Nat) (v : Json) : Prop extends Exact v where
  depth_le : v.depth ≤ limit

instance (v : Json) : Decidable v.Exact :=
  decidable_of_iff (v.WellFormed ∧ v.Whole) ⟨fun h => ⟨h.1, h.2⟩, fun h => ⟨h.wellFormed, h.whole⟩⟩

instance (limit : Nat) (v : Json) : Decidable (Plain limit v) :=
  decidable_of_iff (v.Exact ∧ v.depth ≤ limit)
    ⟨fun h => ⟨h.1, h.2⟩, fun h => ⟨h.toExact, h.depth_le⟩⟩

theorem Plain.mono {limit bound : Nat} {v : Json} (h : Plain limit v) (hle : limit ≤ bound) :
    Plain bound v := ⟨h.toExact, Nat.le_trans h.depth_le hle⟩

theorem plain_str (limit : Nat) (s : String) : Plain limit (str s) :=
  ⟨⟨wellFormed_of_parts rfl trivial, fun w hw => by simp_all [parts, isFraction]⟩, Nat.zero_le _⟩

theorem plain_arr_iff {limit : Nat} {xs : List Json} :
    Plain (limit + 1) (arr xs) ↔ ∀ x ∈ xs, Plain limit x := by
  constructor
  · rintro ⟨⟨hform, hwhole⟩, hdepth⟩ x hx
    exact ⟨⟨wellFormed_arr_iff.mp hform x hx, whole_arr_iff.mp hwhole x hx⟩,
      depth_arr_le_iff.mp hdepth x hx⟩
  · intro h
    exact ⟨⟨wellFormed_arr_iff.mpr fun x hx => (h x hx).wellFormed,
      whole_arr_iff.mpr fun x hx => (h x hx).whole⟩,
      depth_arr_le_iff.mpr fun x hx => (h x hx).depth_le⟩

theorem plain_obj_iff {limit : Nat} {m : Members} :
    Plain (limit + 1) (obj m) ↔ Members.Ascending m ∧ ∀ entry ∈ m, Plain limit entry.2 := by
  constructor
  · rintro ⟨⟨hform, hwhole⟩, hdepth⟩
    obtain ⟨hascending, hform⟩ := wellFormed_obj_iff.mp hform
    exact ⟨hascending, fun entry he => ⟨⟨hform entry he, whole_obj_iff.mp hwhole entry he⟩,
      depth_obj_le_iff.mp hdepth entry he⟩⟩
  · rintro ⟨hascending, h⟩
    exact ⟨⟨wellFormed_obj_iff.mpr ⟨hascending, fun entry he => (h entry he).wellFormed⟩,
      whole_obj_iff.mpr fun entry he => (h entry he).whole⟩,
      depth_obj_le_iff.mpr fun entry he => (h entry he).depth_le⟩

end Json
end BrokerRpc
