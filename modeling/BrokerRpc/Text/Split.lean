/-! # Splitting texts

A text is cut at every occurrence of one character. There is always one part more than there are
occurrences.
-/
namespace BrokerRpc.Text

def splitAt (sep : Char) : List Char → List (List Char)
  | [] => [[]]
  | c :: rest =>
    if c = sep then [] :: splitAt sep rest
    else
      match splitAt sep rest with
      | [] => [[c]]
      | first :: others => (c :: first) :: others

theorem splitAt_ne_nil (sep : Char) (cs : List Char) : splitAt sep cs ≠ [] := by
  cases cs with
  | nil => simp [splitAt]
  | cons c rest =>
    simp only [splitAt]
    split
    · simp
    · split <;> simp

theorem length_splitAt (sep : Char) (cs : List Char) :
    (splitAt sep cs).length = cs.count sep + 1 := by
  induction cs with
  | nil => rfl
  | cons c rest ih =>
    by_cases h : c = sep
    · subst h
      simp [splitAt, ih]
    · cases hr : splitAt sep rest with
      | nil => exact absurd hr (splitAt_ne_nil sep rest)
      | cons first others =>
        rw [hr] at ih
        simp [splitAt, h, hr, List.count_cons_of_ne, ← ih]

end BrokerRpc.Text
