/-! # Ordered tables

A table is a list of keys with values. A key that is written again keeps its place, so that the
keys stay distinct and in the order of their first writes.
-/
namespace BrokerRpc

abbrev Assoc (κ α : Type) := List (κ × α)

namespace Assoc

variable {κ α : Type}

def keys (t : Assoc κ α) : List κ := t.map Prod.fst

def values (t : Assoc κ α) : List α := t.map Prod.snd

def Distinct (t : Assoc κ α) : Prop := t.keys.Nodup

theorem keys_map (t : Assoc κ α) (f : α → α) :
    Assoc.keys (t.map fun entry => (entry.1, f entry.2)) = t.keys := by
  simp [keys, List.map_map]

theorem distinct_append_iff {t : Assoc κ α} {entry : κ × α} :
    Assoc.Distinct (t ++ [entry]) ↔ t.Distinct ∧ entry.1 ∉ t.keys := by
  simp only [Distinct, keys, List.map_append, List.map_cons, List.map_nil]
  rw [List.nodup_append]
  constructor
  · rintro ⟨hd, _, hne⟩
    exact ⟨hd, fun hmem => hne _ hmem _ List.mem_cons_self rfl⟩
  · rintro ⟨hd, hnew⟩
    refine ⟨hd, by simp, ?_⟩
    rintro a ha b hb rfl
    rw [List.mem_singleton] at hb
    exact hnew (hb ▸ ha)

theorem distinct_of_keys_eq {β : Type} {t : Assoc κ α} {u : Assoc κ β} (hk : u.keys = t.keys)
    (h : t.Distinct) : u.Distinct := by
  rw [Distinct, hk]
  exact h

variable [DecidableEq κ]

instance (t : Assoc κ α) : Decidable t.Distinct := inferInstanceAs (Decidable t.keys.Nodup)

def get? : Assoc κ α → κ → Option α
  | [], _ => none
  | (key, value) :: rest, wanted => if key = wanted then some value else get? rest wanted

def contains (t : Assoc κ α) (key : κ) : Bool := (t.get? key).isSome

/-- Replaces the value of a key in place, or appends a new key. -/
def put : Assoc κ α → κ → α → Assoc κ α
  | [], key, value => [(key, value)]
  | (first, old) :: rest, key, value =>
    if first = key then (first, value) :: rest else (first, old) :: put rest key value

def erase (t : Assoc κ α) (key : κ) : Assoc κ α := t.filter fun entry => !decide (entry.1 = key)

def modify (t : Assoc κ α) (key : κ) (f : α → α) : Assoc κ α :=
  t.map fun entry => if entry.1 = key then (entry.1, f entry.2) else entry

theorem get?_put (t : Assoc κ α) (key other : κ) (value : α) :
    (t.put key value).get? other = if other = key then some value else t.get? other := by
  induction t with
  | nil => simp [put, get?, eq_comm]
  | cons entry rest ih =>
    obtain ⟨first, old⟩ := entry
    by_cases hk : first = key
    · subst hk
      by_cases ho : first = other
      · subst ho; simp [put, get?]
      · have ho' : other ≠ first := fun e => ho e.symm
        simp [put, get?, ho, ho']
    · by_cases ho : first = other
      · subst ho; simp [put, get?, hk]
      · simp [put, get?, hk, ho, ih]

theorem keys_put (t : Assoc κ α) (key : κ) (value : α) :
    (t.put key value).keys = if key ∈ t.keys then t.keys else t.keys ++ [key] := by
  induction t with
  | nil => simp [put, keys]
  | cons entry rest ih =>
    obtain ⟨first, old⟩ := entry
    by_cases hk : first = key
    · subst hk; simp [put, keys]
    · have hk' : key ≠ first := fun e => hk e.symm
      simp only [keys] at ih
      simp only [put, hk, if_false, keys, List.map_cons, ih, List.mem_cons, hk', false_or]
      split <;> simp_all

theorem distinct_put {t : Assoc κ α} (key : κ) (value : α) (h : t.Distinct) :
    (t.put key value).Distinct := by
  unfold Distinct at *
  rw [keys_put]
  split
  · exact h
  · rename_i hn
    exact List.nodup_append.2 ⟨h, by simp, by
      intro a ha b hb hab
      simp only [List.mem_singleton] at hb
      exact hn (hb ▸ hab ▸ ha)⟩

theorem get?_erase (t : Assoc κ α) (key other : κ) :
    (t.erase key).get? other = if other = key then none else t.get? other := by
  induction t with
  | nil => simp [erase, get?]
  | cons entry rest ih =>
    obtain ⟨first, value⟩ := entry
    simp only [erase] at ih
    by_cases hk : first = key
    · subst hk
      by_cases ho : other = first
      · subst ho; simpa [erase, get?] using ih
      · have ho' : first ≠ other := fun e => ho e.symm
        simp [erase, get?, ho, ho', ih]
    · by_cases ho : first = other
      · subst ho; simp [erase, get?, hk]
      · simp [erase, get?, hk, ho, ih]

theorem keys_erase (t : Assoc κ α) (key : κ) : 
    (t.erase key).keys = t.keys.filter fun k => !decide (k = key) := by
  simp only [keys, erase, List.filter_map]
  rfl

theorem distinct_erase {t : Assoc κ α} (key : κ) (h : t.Distinct) : (t.erase key).Distinct := by
  unfold Distinct at *
  rw [keys_erase]
  exact h.filter _

theorem get?_modify (t : Assoc κ α) (key other : κ) (f : α → α) :
    (t.modify key f).get? other = if other = key then (t.get? other).map f else t.get? other := by
  induction t with
  | nil => simp [modify, get?]
  | cons entry rest ih =>
    obtain ⟨first, value⟩ := entry
    simp only [modify] at ih
    by_cases hk : first = key
    · subst hk
      by_cases ho : other = first
      · subst ho; simp [modify, get?]
      · have ho' : first ≠ other := fun e => ho e.symm
        simp [modify, get?, ho, ho', ih]
    · by_cases ho : first = other
      · subst ho; simp [modify, get?, hk]
      · simp [modify, get?, hk, ho, ih]

theorem keys_modify (t : Assoc κ α) (key : κ) (f : α → α) : (t.modify key f).keys = t.keys := by
  simp only [keys, modify, List.map_map]
  apply List.map_congr_left
  intro entry _
  simp only [Function.comp]
  split <;> rfl

theorem get?_eq_none_iff {t : Assoc κ α} {key : κ} : t.get? key = none ↔ key ∉ t.keys := by
  induction t with
  | nil => simp [get?, keys]
  | cons entry rest ih =>
    obtain ⟨first, value⟩ := entry
    simp only [keys] at ih
    by_cases hk : first = key
    · subst hk; simp [get?, keys]
    · have hk' : key ≠ first := fun e => hk e.symm
      simp only [get?, hk, if_false, keys, List.map_cons, List.mem_cons, hk', false_or, ih]

theorem eq_nil_of_get? {t : Assoc κ α} (h : ∀ key, t.get? key = none) : t = [] := by
  cases t with
  | nil => rfl
  | cons entry rest => exact absurd (h entry.1) (by simp [get?])

theorem contains_iff_mem_keys {t : Assoc κ α} {key : κ} : t.contains key = true ↔ key ∈ t.keys := by
  rw [contains, Option.isSome_iff_ne_none, ne_eq, get?_eq_none_iff, Decidable.not_not]

theorem contains_eq_false_iff {t : Assoc κ α} {key : κ} :
    t.contains key = false ↔ key ∉ t.keys := by
  rw [← Bool.not_eq_true, contains_iff_mem_keys]

theorem mem_keys_iff {t : Assoc κ α} {key : κ} :
    key ∈ t.keys ↔ ∃ value, t.get? key = some value := by
  rw [← contains_iff_mem_keys, contains, Option.isSome_iff_exists]

theorem mem_keys_of_get? {t : Assoc κ α} {key : κ} {value : α} (h : t.get? key = some value) :
    key ∈ t.keys := mem_keys_iff.mpr ⟨value, h⟩

theorem get?_append (t u : Assoc κ α) (key : κ) :
    Assoc.get? (t ++ u) key = (t.get? key).or (u.get? key) := by
  induction t with
  | nil => simp [get?]
  | cons entry rest ih =>
    obtain ⟨first, value⟩ := entry
    by_cases hk : first = key
    · simp [get?, hk]
    · simp [get?, hk, ih]

theorem mem_iff_get? {t : Assoc κ α} (h : t.Distinct) {key : κ} {value : α} :
    (key, value) ∈ t ↔ t.get? key = some value := by
  induction t with
  | nil => simp [get?]
  | cons entry rest ih =>
    obtain ⟨first, old⟩ := entry
    obtain ⟨hnew, hrest⟩ := List.nodup_cons.mp h
    by_cases hk : first = key
    · subst hk
      have hnot : (first, value) ∉ rest := fun hmem => hnew (List.mem_map.mpr ⟨_, hmem, rfl⟩)
      simp [get?, hnot, eq_comm]
    · have hk' : key ≠ first := fun e => hk e.symm
      simp [get?, hk, hk', ih hrest]

theorem filterMap_key {t : Assoc κ α} (h : t.Distinct) {β : Type} (f : α → β) (key : κ) :
    (t.filterMap fun entry => if entry.1 = key then some (f entry.2) else none) =
      ((t.get? key).map f).toList := by
  induction t with
  | nil => rfl
  | cons entry rest ih =>
    obtain ⟨first, value⟩ := entry
    obtain ⟨hnew, hrest⟩ := List.nodup_cons.mp h
    rw [List.filterMap_cons, ih hrest]
    by_cases hk : first = key
    · subst hk
      have hnone : Assoc.get? rest first = none := get?_eq_none_iff.mpr hnew
      simp [get?, hnone]
    · simp [get?, hk]

theorem get?_map (t : Assoc κ α) (f : α → α) (key : κ) :
    Assoc.get? (t.map fun entry => (entry.1, f entry.2)) key = (t.get? key).map f := by
  induction t with
  | nil => simp [get?]
  | cons entry rest ih =>
    obtain ⟨first, value⟩ := entry
    by_cases hk : first = key
    · simp [get?, hk]
    · simp [get?, hk, ih]

theorem put_of_get? {t : Assoc κ α} {key : κ} {value : α} (h : t.get? key = some value) :
    t.put key value = t := by
  induction t with
  | nil => simp [get?] at h
  | cons entry rest ih =>
    obtain ⟨first, old⟩ := entry
    by_cases hk : first = key
    · subst hk
      simp only [get?, if_true, Option.some.injEq] at h
      simp [put, h]
    · simp only [get?, hk, if_false] at h
      simp [put, hk, ih h]

/-- A fold over keys leaves under one key what its step for that key leaves there. -/
theorem foldl_of_step {σ β : Type} (see : σ → β) {step : σ → κ → σ} {key : κ} {seen : β}
    (hstep : ∀ s other, see (step s other) = if key = other then seen else see s) (s : σ)
    (keys : List κ) : see (keys.foldl step s) = if key ∈ keys then seen else see s := by
  induction keys generalizing s with
  | nil => simp
  | cons first rest ih =>
    simp only [List.foldl_cons, ih, hstep, List.mem_cons]
    by_cases hk : key = first <;> by_cases hr : key ∈ rest <;> simp [hk, hr]

theorem get?_foldl_erase (t : Assoc κ α) (keys : List κ) (key : κ) :
    (keys.foldl erase t).get? key = if key ∈ keys then none else t.get? key :=
  foldl_of_step (get? · key) (fun t other => t.get?_erase other key) t keys

theorem get?_foldl_put (t : Assoc κ α) (keys : List κ) (value : α) (key : κ) :
    (keys.foldl (fun t key => t.put key value) t).get? key =
      if key ∈ keys then some value else t.get? key :=
  foldl_of_step (get? · key) (fun t other => t.get?_put other key value) t keys

end Assoc
end BrokerRpc
