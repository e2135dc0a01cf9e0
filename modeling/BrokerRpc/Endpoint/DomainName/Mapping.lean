import BrokerRpc.Endpoint.DomainName.Forms
import BrokerRpc.Endpoint.DomainName.Ideographs
import BrokerRpc.Endpoint.DomainName.Letters
import BrokerRpc.Endpoint.DomainName.Planes
import BrokerRpc.Endpoint.DomainName.Symbols
import BrokerRpc.Text.CodeTable
import BrokerRpc.Text.Printable

/-! # What characters stand for in names

In a domain name a character stands for itself, for others such as its small letter, or for none;
some characters are refused.
-/
namespace BrokerRpc.DomainName

def mapping : List Text.CodeEntry :=
  Text.CodeEntry.readAll (letterLines ++ symbolLines ++ ideographLines ++ formLines ++ planeLines)

/-- Closed ranges of the code points that are skipped. -/
def skippedRanges : List (Nat × Nat) :=
  [(0xad, 0xad), (0x34f, 0x34f), (0x115f, 0x1160), (0x17b4, 0x17b5), (0x180b, 0x180f),
   (0x200b, 0x200b), (0x2060, 0x2064), (0x206a, 0x206f), (0x3164, 0x3164), (0xfe00, 0xfe0f),
   (0xfeff, 0xfeff), (0xffa0, 0xffa0), (0x1bca0, 0x1bca3), (0x1d173, 0x1d17a), (0xe0100, 0xe01ef)]

/-- Closed ranges of the printable code points that are refused: those that spell a dot among other
characters, those that describe ideographs, and those that stand for what is missing. -/
def refusedRanges : List (Nat × Nat) :=
  [(0x2024, 0x2026), (0x2488, 0x249b), (0x2ff0, 0x2fff), (0x31ef, 0x31ef), (0x33c2, 0x33c2),
   (0x33c7, 0x33c7), (0x33d8, 0x33d8), (0xfe12, 0xfe12), (0xfe19, 0xfe19), (0xfe30, 0xfe30),
   (0xfe52, 0xfe52), (0xfffc, 0xfffd), (0x1f100, 0x1f100)]

def isJoiner (c : Char) : Bool := c = '\u200c' || c = '\u200d'

def isRefused (c : Char) : Bool :=
  Text.inRanges refusedRanges c.toNat || (!Text.isPrintable c && !isJoiner c)

/-- What the character stands for; `none` if it is refused. Of ASCII only the capital letters stand
for others, and labels deny some of the rest later. -/
def standsFor? (c : Char) : Option (List Char) :=
  if c.toNat < 0x80 then some [c.toLower]
  else
    match mapping.findSome? (·.image? c.toNat) with
    | some codes => some (codes.map Char.ofNat)
    | none =>
      if Text.inRanges skippedRanges c.toNat then some []
      else if isRefused c then none
      else some [c]

end BrokerRpc.DomainName
