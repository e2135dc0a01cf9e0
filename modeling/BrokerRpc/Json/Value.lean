import BrokerRpc.Assoc
import BrokerRpc.Json.Shortest
import BrokerRpc.Text.Numeral

/-! # JSON values

Whole numbers between the smallest signed and the largest unsigned 64-bit number keep their exact
value; every other number is a binary fraction. The members of an object are kept in ascending
order of their keys, each key once.
-/
namespace BrokerRpc

inductive Json where
  | null
  | bool (b : Bool)
  | int (n : Int)
  | fraction (x : Binary64)
  | str (s : String)
  | arr (items : List Json)
  | obj (members : List (String × Json))
  deriving Repr, Inhabited

abbrev Members := Assoc String Json

namespace Json

mutual

def same : Json → Json → Bool
  | null, null => true
  | bool a, bool b => a == b
  | int a, int b => a == b
  | fraction a, fraction b => a == b
  | str a, str b => a == b
  | arr a, arr b => sameItems a b
  | obj a, obj b => sameMembers a b
  | _, _ => false

def sameItems : List Json → List Json → Bool
  | [], [] => true
  | a :: as, b :: bs => same a b && sameItems as bs
  | _, _ => false

def sameMembers : List (String × Json) → List (String × Json) → Bool
  | [], [] => true
  | (k, a) :: as, (l, b) :: bs => k == l && same a b && sameMembers as bs
  | _, _ => false

end

mutual

theorem eq_of_same : ∀ {a b : Json}, same a b = true → a = b
  | null, b, h => by cases b <;> simp_all [same]
  | bool _, b, h => by cases b <;> simp_all [same]
  | int _, b, h => by cases b <;> simp_all [same]
  | fraction _, b, h => by cases b <;> simp_all [same]
  | str _, b, h => by cases b <;> simp_all [same]
  | arr x, b, h => by
    cases b <;> simp_all [same]
    exact eq_of_sameItems h
  | obj x, b, h => by
    cases b <;> simp_all [same]
    exact eq_of_sameMembers h

theorem eq_of_sameItems : ∀ {a b : List Json}, sameItems a b = true → a = b
  | [], b, h => by cases b <;> simp_all [sameItems]
  | x :: xs, b, h => by
    cases b with
    | nil => simp [sameItems] at h
    | cons y ys =>
      simp only [sameItems, Bool.and_eq_true] at h
      rw [eq_of_same h.1, eq_of_sameItems h.2]

theorem eq_of_sameMembers : ∀ {a b : List (String × Json)}, sameMembers a b = true → a = b
  | [], b, h => by cases b <;> simp_all [sameMembers]
  | (k, x) :: xs, b, h => by
    cases b with
    | nil => simp [sameMembers] at h
    | cons y ys =>
      obtain ⟨l, y⟩ := y
      simp only [sameMembers, Bool.and_eq_true, beq_iff_eq] at h
      rw [h.1.1, eq_of_same h.1.2, eq_of_sameMembers h.2]

end

mutual

theorem same_refl : ∀ a : Json, same a a = true
  | null => rfl
  | bool _ => by simp [same]
  | int _ => by simp [same]
  | fraction _ => by simp [same]
  | str _ => by simp [same]
  | arr x => by rw [same]; exact sameItems_refl x
  | obj x => by rw [same]; exact sameMembers_refl x

theorem sameItems_refl : ∀ a : List Json, sameItems a a = true
  | [] => rfl
  | x :: xs => by rw [sameItems, same_refl x, sameItems_refl xs]; rfl

theorem sameMembers_refl : ∀ a : List (String × Json), sameMembers a a = true
  | [] => rfl
  | (k, x) :: xs => by rw [sameMembers, same_refl x, sameMembers_refl xs]; simp

end

instance : DecidableEq Json := fun a b =>
  if h : same a b = true then isTrue (eq_of_same h)
  else isFalse fun e => h (e ▸ same_refl a)

def isNull : Json → Bool
  | null => true
  | _ => false

end Json

namespace Members

def put : Members → String → Json → Members
  | [], name, value => [(name, value)]
  | (key, old) :: rest, name, value =>
    if name < key then (name, value) :: (key, old) :: rest
    else if key = name then (name, value) :: rest
    else (key, old) :: put rest name value

/-- The members written in order, so that the last value of a key remains. -/
def ofList (entries : List (String × Json)) : Members :=
  entries.foldl (fun members entry => put members entry.1 entry.2) []

end Members
end BrokerRpc
