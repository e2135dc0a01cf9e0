import BrokerRpc.Json.Writer

/-! # Indented JSON

For a reader, each item and each member stands on a line of its own, two blanks deeper than what
holds it. An empty array and an empty object stay on one line.
-/
namespace BrokerRpc.Json

def newLine (depth : Nat) : List Char := '\n' :: List.replicate (2 * depth) ' '

mutual

def layOut (depth : Nat) : Json → List Char
  | arr (item :: items) =>
    '[' :: (newLine (depth + 1) ++ (layOut (depth + 1) item ++ layOutItems depth items))
  | obj ((key, value) :: members) =>
    '\x7b' :: (newLine (depth + 1) ++ (writeText key ++ ':' :: ' ' ::
      (layOut (depth + 1) value ++ layOutMembers depth members)))
  | v => write v

def layOutItems (depth : Nat) : List Json → List Char
  | [] => newLine depth ++ [']']
  | item :: items =>
    ',' :: (newLine (depth + 1) ++ (layOut (depth + 1) item ++ layOutItems depth items))

def layOutMembers (depth : Nat) : List (String × Json) → List Char
  | [] => newLine depth ++ ['\x7d']
  | (key, value) :: members =>
    ',' :: (newLine (depth + 1) ++ (writeText key ++ ':' :: ' ' ::
      (layOut (depth + 1) value ++ layOutMembers depth members)))

end

def pretty (v : Json) : String := String.ofList (layOut 0 v)

end BrokerRpc.Json
