import BrokerRpc.Text.GraphemeExtend

/-! # Quoted text

A value shown inside a message stands in double quotes. Characters that would be unreadable there
are written as escapes, so that the reader sees what the value holds.
-/
namespace BrokerRpc.Text

def hex (n : Nat) : String := String.ofList (Nat.toDigits 16 n)

def quoteChar (c : Char) : String :=
  if c = '"' then "\\\""
  else if c = '\\' then "\\\\"
  else if c = '\n' then "\\n"
  else if c = '\r' then "\\r"
  else if c = '\t' then "\\t"
  else if c = '\x00' then "\\0"
  else if extendsGrapheme c || !isPrintable c then "\\u\x7b" ++ hex c.toNat ++ "\x7d"
  else c.toString

/-- The text in double quotes, with escapes for what has no readable form. -/
def quoted (s : String) : String := "\"" ++ String.join (s.toList.map quoteChar) ++ "\""

end BrokerRpc.Text
