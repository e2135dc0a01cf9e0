import BrokerRpc.Text.CombiningClass
import BrokerRpc.Text.Composite

/-! # Composition

A text can be spelled with composites or with the marks behind their bases, and marks of different
classes in any order. The composed form is the same for all these spellings: the marks stand in the
order of their classes, and each base is joined with the marks behind it where a composite exists.
-/
namespace BrokerRpc.Text

/-! ## Syllables of the Hangul script -/

/-- The syllable without its last letter, or its consonant, and the letter behind that. -/
def syllableParts? (code : Nat) : Option (Nat × Nat) :=
  if 0xAC00 ≤ code ∧ code < 0xD7A4 then
    let index := code - 0xAC00
    if index % 28 = 0 then some (0x1100 + index / 588, 0x1161 + index % 588 / 28)
    else some (code - index % 28, 0x11A7 + index % 28)
  else none

/-- The syllable of a consonant and a vowel, or of a syllable that ends in a vowel and a letter. -/
def syllable? (base letter : Nat) : Option Nat :=
  if 0x1100 ≤ base ∧ base < 0x1113 ∧ 0x1161 ≤ letter ∧ letter < 0x1176 then
    some (0xAC00 + ((base - 0x1100) * 21 + (letter - 0x1161)) * 28)
  else if 0xAC00 ≤ base ∧ base < 0xD7A4 ∧ (base - 0xAC00) % 28 = 0 ∧ 0x11A7 < letter ∧
      letter < 0x11C3 then
    some (base + (letter - 0x11A7))
  else none

/-! ## Bases and marks -/

def parts? (c : Char) : Option (Char × Char) :=
  if c.toNat < 0x80 then none
  else
    let found := (syllableParts? c.toNat).or
      ((composites.find? (·.whole = c.toNat)).map fun e => (e.base, e.mark))
    found.map fun (base, mark) => (Char.ofNat base, Char.ofNat mark)

def whole? (base mark : Char) : Option Char :=
  if mark.toNat < 0x80 then none
  else
    let found := (syllable? base.toNat mark.toNat).or
      ((composites.find? fun e => e.base = base.toNat && e.mark = mark.toNat).map Composite.whole)
    found.map Char.ofNat

/-- The last base of a character and the marks behind it, taken apart `depth` times at most. -/
def takeApart : Nat → Char → List Char
  | 0, c => [c]
  | depth + 1, c =>
    match parts? c with
    | some (base, mark) => takeApart depth base ++ [mark]
    | none => [c]

/-- Puts a character in front of a text, behind the marks there whose class is lower. -/
def insertByClass (c : Char) : List Char → List Char
  | [] => [c]
  | d :: rest =>
    if combiningClass d ≠ 0 ∧ combiningClass d < combiningClass c then d :: insertByClass c rest
    else c :: d :: rest

/-- The text with every character taken apart and the marks in the order of their classes. No
character is taken apart more than four times. -/
def decomposed (cs : List Char) : List Char :=
  (cs.flatMap (takeApart 4)).foldr insertByClass []

/-- Joins a base with the marks behind it. `kept` holds, last first, the marks that could not be
joined; a mark is kept from the base by one of its own class or a higher one. -/
def join (base : Char) (kept : List Char) : List Char → List Char
  | [] => base :: kept.reverse
  | c :: rest =>
    let free :=
      match kept with
      | [] => true
      | mark :: _ => combiningClass mark < combiningClass c
    match if free then whole? base c else none with
    | some whole => join whole kept rest
    | none =>
      if combiningClass c = 0 then base :: kept.reverse ++ join c [] rest
      else join base (c :: kept) rest

def composed (cs : List Char) : List Char :=
  let apart := decomposed cs
  let isMark (c : Char) : Bool := combiningClass c ≠ 0
  apart.takeWhile isMark ++
    match apart.dropWhile isMark with
    | [] => []
    | base :: rest => join base [] rest

end BrokerRpc.Text
