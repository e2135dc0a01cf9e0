import BrokerRpc.Frame.Message

/-! # Header text

Backslash, line feed, carriage return and colon are written as escapes inside header names and
values, so that any text fits on one line beside one colon.
-/
namespace BrokerRpc

inductive Malformed where
  | terminatedInHead
  | missingCommand
  | commandNotText
  | headerNotText
  | noColon (line : String)
  | emptyName
  | badEscape (c : Char)
  | danglingEscape
  | duplicateHeader (name : String)
  | badLength
  | lengthTooLarge (length : Nat)
  | lengthMismatch (length : Nat)
  | unknownCommand (name : String)
  deriving DecidableEq, Repr

namespace HeaderText

def escapeChar (c : Char) : List Char :=
  if c = '\\' then ['\\', '\\']
  else if c = '\n' then ['\\', 'n']
  else if c = '\r' then ['\\', 'r']
  else if c = ':' then ['\\', 'c']
  else [c]

def escapeChars (cs : List Char) : List Char := cs.flatMap escapeChar

def unescapeLetter? (c : Char) : Option Char :=
  if c = '\\' then some '\\'
  else if c = 'n' then some '\n'
  else if c = 'r' then some '\r'
  else if c = 'c' then some ':'
  else none

/-- Reads a written form, up to the first escape that stands for nothing. -/
def unescapeChars : List Char → Except Malformed (List Char)
  | [] => .ok []
  | ['\\'] => .error .danglingEscape
  | '\\' :: letter :: rest =>
    match unescapeLetter? letter with
    | some c => (unescapeChars rest).map (c :: ·)
    | none => .error (.badEscape letter)
  | c :: rest => (unescapeChars rest).map (c :: ·)

def escape (s : String) : String := String.ofList (escapeChars s.toList)

def unescape (cs : List Char) : Except Malformed String :=
  (unescapeChars cs).map String.ofList

theorem unescapeChars_escapeChars (cs : List Char) : unescapeChars (escapeChars cs) = .ok cs := by
  induction cs with
  | nil => rfl
  | cons c r ih =>
    have step : escapeChars (c :: r) = escapeChar c ++ escapeChars r := rfl
    rw [step, escapeChar]
    split
    · subst_vars; simp [unescapeChars, unescapeLetter?, ih, Except.map]
    split
    · subst_vars; simp [unescapeChars, unescapeLetter?, ih, Except.map]
    split
    · subst_vars; simp [unescapeChars, unescapeLetter?, ih, Except.map]
    split
    · subst_vars; simp [unescapeChars, unescapeLetter?, ih, Except.map]
    · rename_i hb _ _ _
      simp only [List.singleton_append]
      rw [unescapeChars, ih]
      · rfl
      · intro h; exact absurd h hb
      · intro _ _ h; exact absurd h hb

theorem unescape_escape (s : String) : unescape (escape s).toList = .ok s := by
  simp [unescape, escape, unescapeChars_escapeChars, Except.map]

end HeaderText
end BrokerRpc
