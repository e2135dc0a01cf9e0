import BrokerRpc.Endpoint.DomainName.Mapping
import BrokerRpc.Text.Composition
import BrokerRpc.Text.Direction
import BrokerRpc.Text.Joining
import BrokerRpc.Text.Punycode

/-! # Domain names

A domain name is a row of labels with dots between them. It may be written in any script and any of
the equivalent spellings; a label beyond ASCII may also be spelled in ASCII behind `xn--`. A name
that would not read the same for everybody is refused.
-/
namespace BrokerRpc

structure DomainName where
  labels : List (List Char)
  deriving DecidableEq, Repr

namespace DomainName

def text (n : DomainName) : String := String.ofList (['.'].intercalate n.labels)

def isAscii (c : Char) : Bool := c.toNat < 0x80

def isDenied (c : Char) : Bool :=
  c.toNat ≤ 0x20 || c.toNat = 0x7F ||
    ['%', '#', '/', ':', '<', '>', '?', '@', '[', '\\', ']', '^', '|'].contains c

/-! ## Labels -/

/-- The most characters of a spelled label, behind `xn--`. -/
def longestSpelling : Nat := 2000

def longestLabel : Nat := 1000

/-- Whether the characters are a part of a name as it stands: each stands for itself, and the marks
are joined and in order. -/
def isPlain (label : List Char) : Bool :=
  label.all (fun c => standsFor? c == some [c]) && Text.composed label == label

/-- The label that is spelled in ASCII. A spelling of an ASCII label is refused. -/
def spelled? (spelling : List Char) : Option (List Char) := do
  guard (spelling.length ≤ longestSpelling)
  let label ← Text.Punycode.decode? spelling
  guard (!label.all isAscii && isPlain label && !label.contains '.')
  return label

def label? (label : List Char) : Option (List Char) :=
  match label with
  | 'x' :: 'n' :: '-' :: '-' :: spelling => spelled? spelling
  | _ => some label

/-- Whether a joiner may stand between the characters before it, nearest first, and behind it: it
follows a mark that joins consonants, or it keeps two letters apart that would join. -/
def mayJoin (joiner : Char) (before behind : List Char) : Bool :=
  let joins (side : Char → Bool) (cs : List Char) : Bool :=
    (cs.dropWhile Text.isTransparent).head?.any side
  before.head?.any Text.isVirama ||
    (joiner = '\u200c' && joins Text.joinsForward before && joins Text.joinsBackward behind)

def joinersFit (before : List Char) : List Char → Bool
  | [] => true
  | c :: rest => (!isJoiner c || mayJoin c before rest) && joinersFit (c :: before) rest

def isLabel (label : List Char) : Bool :=
  !label.any isDenied && !label.head?.any Text.isMark && joinersFit [] label &&
    (label.all isAscii || label.length ≤ longestLabel)

/-! ## Directions -/

/-- Whether a label reads in one direction. It starts with a letter of that direction and ends, but
for marks, with one or with a number, and no letter within it has the other direction; from right to
left it does not mix the two kinds of numbers. -/
def isOneWay (label : List Char) : Bool :=
  match label.map Text.direction with
  | [] => true
  | first :: others =>
    let ends (allowed : List Text.Direction) : Bool :=
      (others.reverse.dropWhile (· = .nonspacing)).head?.all allowed.contains
    match first with
    | .left =>
      ends [.left, .europeanNumber] && !others.contains .right && !others.contains .arabicNumber
    | .right =>
      ends [.right, .europeanNumber, .arabicNumber] && !others.contains .left &&
        !(others.contains .europeanNumber && others.contains .arabicNumber)
    | _ => false

def runsBack (label : List Char) : Bool :=
  label.any fun c => [.right, .arabicNumber].contains (Text.direction c)

/-! ## Names -/

def ofText? (cs : List Char) : Option DomainName := do
  let written ← cs.mapM standsFor?
  let labels ← (Text.splitAt '.' (Text.composed written.flatten)).mapM label?
  guard (labels.all isLabel && (!labels.any runsBack || labels.all isOneWay))
  return { labels }

end DomainName
end BrokerRpc
