/-!
# Parts of texts

A text is part of another one if it stands somewhere in it, character for character. The places
where it does are counted from zero, and of places that overlap the first one counts where a text is
taken apart or its parts are replaced. The same goes for rows of anything else that can be compared.
-/

namespace Mapsmith.Text

variable {α : Type} [BEq α]

/-- Does a text stand somewhere in another one? -/
def isWithin (s t : List α) : Bool :=
  s.isPrefixOf t || match t with
    | [] => false
    | _ :: t => isWithin s t

/-- The places from one on where a text stands in another one. -/
def placesFrom (s : List α) (place : Nat) : List α → List Nat
  | [] => if s.isEmpty then [place] else []
  | c :: cs =>
    (if s.isPrefixOf (c :: cs) then [place] else []) ++ placesFrom s (place + 1) cs

/-- The places where a text stands in another one. -/
def places (s t : List α) : List Nat :=
  placesFrom s 0 t

/-- Places that lie so far apart that texts of a length at them do not overlap, from the first one
on. -/
def disjoint (length next : Nat) : List Nat → List Nat
  | [] => []
  | place :: rest =>
    if place < next then disjoint length next rest
    else place :: disjoint length (place + max length 1) rest

/-- The places where a text stands in another one without overlaps. -/
def occurrences (s t : List α) : List Nat :=
  disjoint s.length 0 (places s t)

/-- The same, from the end on: the last place first. -/
def lastOccurrences (s t : List α) : List Nat :=
  (occurrences s.reverse t.reverse).map fun place => t.length - place - s.length

/-- The parts of a text between parts of a length at places in order, of which the first is given. -/
def between (length : Nat) (t : List α) (start : Nat) : List Nat → List (List α)
  | [] => [t.drop start]
  | place :: rest =>
    (t.take place).drop start :: between length t (place + length) rest

/-- The parts of a text around another one, of which so many occurrences count. -/
def splitAt (s : List α) (most : Option Nat) (t : List α) : List (List α) :=
  let all := occurrences s t
  between s.length t 0 (all.take (most.getD all.length))

/-- The same, with the last occurrences counting. -/
def splitAtLast (s : List α) (most : Option Nat) (t : List α) : List (List α) :=
  let all := lastOccurrences s t
  between s.length t 0 (all.take (most.getD all.length)).reverse

/-- The parts of a text around a character. -/
def parts (c : Char) (s : String) : List String :=
  (s.toList.splitOn c).map String.ofList

/-- A text with another one in the place of some, of which so many occurrences count. -/
def replaced (s by_ : List α) (most : Option Nat) (t : List α) : List α :=
  by_.intercalate (splitAt s most t)

/-- The words of a text, divided by characters with a property, of which so many are cut off; the
rest is one word. -/
def wordsBy (p : α → Bool) : Nat → List α → List (List α)
  | fuel, cs =>
    match fuel, cs.dropWhile p with
    | _, [] => []
    | 0, cs => [cs]
    | fuel + 1, cs => cs.takeWhile (!p ·) :: wordsBy p fuel (cs.dropWhile (!p ·))

/-- The lines of a text, with what ends them or without. -/
def lines (keepsEnds : Bool) : List Char → List Char → List (List Char)
  | line, [] => if line.isEmpty then [] else [line.reverse]
  | line, '\r' :: '\n' :: cs =>
    (if keepsEnds then ('\n' :: '\r' :: line).reverse else line.reverse) :: lines keepsEnds [] cs
  | line, c :: cs =>
    if c.toNat ∈ [0x0A, 0x0B, 0x0C, 0x0D, 0x1C, 0x1D, 0x1E, 0x85, 0x2028, 0x2029] then
      (if keepsEnds then (c :: line).reverse else line.reverse) :: lines keepsEnds [] cs
    else lines keepsEnds (c :: line) cs

/-- A text with blanks up to the next column that is a multiple of a width in the place of tabs. -/
def expanded (width : Nat) : Nat → List Char → List Char
  | _, [] => []
  | column, '\t' :: cs =>
    let count := if width = 0 then 0 else width - column % width
    List.replicate count ' ' ++ expanded width (column + count) cs
  | column, c :: cs =>
    c :: expanded width (if c = '\n' || c = '\r' then 0 else column + 1) cs

example : splitAt "ab".toList none "xabyab".toList = ["x".toList, "y".toList, []] := by decide +kernel

example : occurrences "aa".toList "aaaaa".toList = [0, 2] := by decide +kernel

end Mapsmith.Text
