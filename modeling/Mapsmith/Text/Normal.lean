import Mapsmith.Text.Normal.Table
import Mapsmith.Text.Part

/-!
# Normal forms

One spelling for names that count as one: every character is taken for what it stands for, a letter with
marks is taken apart, the marks are put in their order, and what can be one character is put together
again. A name in ASCII is in its normal form.
-/

namespace Mapsmith.Text

/-! ### Taking apart -/

/-- What a character stands for. -/
def imageOf (c : Char) : List Char :=
  match imageRuns.find? fun run => run.first ≤ c.toNat && c.toNat ≤ run.last with
  | some run => (((parts ' ' run.images)[c.toNat - run.first]?).map (·.toList)).getD [c]
  | none => [c]

/-- Is the character the letter with the mark, in a list of letters before their marked forms? -/
def letterOf? (c : Char) : List Char → Option Char
  | letter :: form :: cs => if form = c then some letter else letterOf? c cs
  | _ => none

/-- The letter with the mark, in a list of letters before their marked forms. -/
def formOf? (letter : Char) : List Char → Option Char
  | l :: form :: cs => if l = letter then some form else formOf? letter cs
  | _ => none

/-- A syllable of Hangul: the parts at its beginning, in its middle and at its end, by number. The first part of
the end is no part. -/
structure Syllable where
  /-- The part at its beginning. -/
  lead : Nat
  /-- The part in its middle. -/
  vowel : Nat
  /-- The part at its end. -/
  tail : Nat

namespace Syllable

/-- The number of parts that stand in the middle. -/
def vowels : Nat := 21

/-- The number of parts that stand at the end, no part included. -/
def tails : Nat := 28

/-- The syllable that a character is. -/
def ofChar? (c : Char) : Option Syllable :=
  if 0xAC00 ≤ c.toNat && c.toNat ≤ 0xD7A3 then
    let n := c.toNat - 0xAC00
    some ⟨n / (vowels * tails), n / tails % vowels, n % tails⟩
  else none

/-- The character that a syllable is. -/
def toChar (s : Syllable) : Char :=
  Char.ofNat (0xAC00 + (s.lead * vowels + s.vowel) * tails + s.tail)

/-- The characters of its parts. -/
def parts (s : Syllable) : List Char :=
  [Char.ofNat (0x1100 + s.lead), Char.ofNat (0x1161 + s.vowel)]
    ++ if s.tail = 0 then [] else [Char.ofNat (0x11A7 + s.tail)]

/-- The syllable that two characters are together: a beginning with a middle, or these with an end. -/
def joined? (a b : Char) : Option Char :=
  if 0x1100 ≤ a.toNat && a.toNat < 0x1113 && 0x1161 ≤ b.toNat && b.toNat < 0x1161 + vowels then
    some (toChar ⟨a.toNat - 0x1100, b.toNat - 0x1161, 0⟩)
  else match ofChar? a with
    | some s =>
      if s.tail = 0 && 0x11A7 < b.toNat && b.toNat < 0x11A7 + tails then
        some (toChar { s with tail := b.toNat - 0x11A7 })
      else none
    | none => none

end Syllable

/-- The letter and the mark that a character is. -/
def parted? (c : Char) : Option (Char × Char) :=
  markedForms.findSome? fun (mark, forms) =>
    (letterOf? c forms.toList).map (·, Char.ofNat mark)

/-- The letter and the marks that a character is, with so many marks at most. -/
def partsWithin : Nat → Char → List Char
  | 0, c => [c]
  | marks + 1, c => match Syllable.ofChar? c, parted? c with
    | some s, _ => s.parts
    | none, some (letter, mark) => partsWithin marks letter ++ partsWithin marks mark
    | none, none => [c]

/-- The most marks that one character has. -/
def maxMarks : Nat := 4

/-- A text taken apart. -/
def apart (cs : List Char) : List Char :=
  (cs.flatMap imageOf).flatMap (partsWithin maxMarks)

/-! ### The order of marks -/

/-- The place of a mark behind a letter; what is no mark has none. -/
def markPlace (c : Char) : Nat :=
  ((markRuns.find? fun run => run.first ≤ c.toNat && c.toNat ≤ run.last).map (·.place)).getD 0

/-- Puts a character in front of a text, a mark behind those whose place is before its own. -/
def insertMark (c : Char) : List Char → List Char
  | [] => [c]
  | d :: ds =>
    if markPlace d ≠ 0 && markPlace d < markPlace c then d :: insertMark c ds else c :: d :: ds

/-- A text with its marks in order. -/
def inMarkOrder (cs : List Char) : List Char :=
  cs.foldr insertMark []

/-! ### Putting together -/

/-- The one character that two characters are together. -/
def joined? (a b : Char) : Option Char :=
  (Syllable.joined? a b).or
    (markedForms.findSome? fun (mark, forms) =>
      if mark = b.toNat then formOf? a forms.toList else none)

/-- Puts a text together that follows a letter with marks on it, the last one first. A mark joins the letter
unless another one stands in between that does not come before it. -/
def togetherAfter (letter : Char) (marks : List Char) : List Char → List Char
  | [] => letter :: marks.reverse
  | c :: cs =>
    let isFree := marks.head?.all fun m => markPlace m < markPlace c
    match if isFree then joined? letter c else none with
    | some form => togetherAfter form marks cs
    | none =>
      if markPlace c = 0 then (letter :: marks.reverse) ++ togetherAfter c [] cs
      else togetherAfter letter (c :: marks) cs

/-- A text put together. Marks that follow nothing stay. -/
def together : List Char → List Char
  | [] => []
  | c :: cs => if markPlace c = 0 then togetherAfter c [] cs else c :: together cs

/-! ### The normal form -/

/-- The normal form of a text. -/
def normalized (s : String) : String :=
  if s.toList.all (·.toNat < 0x80) then s
  else String.ofList (together (inMarkOrder (apart s.toList)))

end Mapsmith.Text
