import Mapsmith.Calendar

/-!
# Layouts of times

A time on a day laid out as a text says: a letter after a percent sign stands for a part of it. Between them may
stand how the part is filled up and to which width, and whether it is in capital letters. What stands for nothing
stays as it is.
-/

namespace Mapsmith

namespace Calendar

/-- The names of the days of the week. -/
def dayNames : List String :=
  ["Monday", "Tuesday", "Wednesday", "Thursday", "Friday", "Saturday", "Sunday"]

/-- The names of the months. -/
def monthNames : List String :=
  ["January", "February", "March", "April", "May", "June", "July", "August", "September", "October",
    "November", "December"]

/-- The first three letters of a name of a list. -/
def shortName (names : List String) (i : Nat) : String :=
  String.ofList (((names[i]?).getD "").toList.take 3)

/-- A number with blanks in front of it up to a width. -/
def blankPadded (width n : Nat) : String :=
  let digits := Nat.toDigits 10 n
  String.ofList (List.replicate (width - digits.length) ' ' ++ digits)

/-- A time on a day in words and numbers. -/
def longText (d : Date) (t : TimeOfDay) : String :=
  " ".intercalate [shortName dayNames d.weekday, shortName monthNames (d.month - 1),
    blankPadded 2 d.day, t.clock, toString d.year]

/-- The number of the week in the year, weeks beginning with a day of the week, counted from zero. -/
def weekFrom (first : Nat) (d : Date) : Nat :=
  (d.dayOfYear + 6 - (d.weekday + 7 - first) % 7) / 7

/-- A piece of a layout, by the letter at its end. -/
inductive Piece
  /-- A number, with its width and with what it is filled up unless that is told. -/
  | number (n width : Nat) (fill : Char)
  /-- A text. -/
  | text (s : String)
  deriving Repr

/-- What a letter stands for in a layout of a time on a day. -/
def piece? (d : Date) (t : TimeOfDay) (letter : Char) : Option Piece :=
  let hour := if t.hour % 12 = 0 then 12 else t.hour % 12
  let (weekYear, week, day) := d.week
  let two (n : Nat) : Option Piece := some (.number n 2 '0')
  let short := "/".intercalate [padded 2 d.month, padded 2 d.day, padded 2 (d.year % 100)]
  let clock := t.clock
  match letter with
  | 'a' => some (.text (shortName dayNames d.weekday))
  | 'A' => (dayNames[d.weekday]?).map .text
  | 'b' | 'h' => some (.text (shortName monthNames (d.month - 1)))
  | 'B' => (monthNames[d.month - 1]?).map .text
  | 'c' => some (.text (longText d t))
  | 'C' => some (.number (d.year / 100) 1 '0')
  | 'd' => two d.day
  | 'D' | 'x' => some (.text short)
  | 'e' => some (.number d.day 2 ' ')
  | 'F' => some (.text ("-".intercalate [toString d.year, padded 2 d.month, padded 2 d.day]))
  | 'g' => two (weekYear % 100)
  | 'G' => some (.number weekYear 1 '0')
  | 'H' => two t.hour
  | 'I' => two hour
  | 'j' => some (.number d.dayOfYear 3 '0')
  | 'k' => some (.number t.hour 2 ' ')
  | 'l' => some (.number hour 2 ' ')
  | 'm' => two d.month
  | 'M' => two t.minute
  | 'n' => some (.text "\n")
  | 'p' => some (.text (if t.hour < 12 then "AM" else "PM"))
  | 'P' => some (.text (if t.hour < 12 then "am" else "pm"))
  | 'r' => some (.text (":".intercalate [padded 2 hour, padded 2 t.minute, padded 2 t.second]
      ++ if t.hour < 12 then " AM" else " PM"))
  | 'R' => some (.text (String.ofList (clock.toList.take 5)))
  | 's' =>
    let seconds := (Int.ofNat d.ordinal - 719163) * 86400 + Int.ofNat (t.microseconds / 1000000)
    some (.text (toString seconds))
  | 'S' => two t.second
  | 't' => some (.text "\t")
  | 'T' | 'X' => some (.text clock)
  | 'u' => some (.number day 1 '0')
  | 'U' => two (weekFrom 6 d)
  | 'V' => two week
  | 'w' => some (.number (day % 7) 1 '0')
  | 'W' => two (weekFrom 0 d)
  | 'y' => two (d.year % 100)
  | 'Y' => some (.number d.year 1 '0')
  | 'z' | 'Z' => some (.text "")
  | '%' => some (.text "%")
  | _ => none

/-- Can a letter have a mark in front of it that asks for another way of counting or of writing? -/
def takesMark (mark letter : Char) : Bool :=
  if letter ∈ ['a', 'A', 'D', 'F', '%'] then false
  else if letter ∈ ['c', 'C', 'x', 'X', 'Y'] then mark = 'E'
  else if letter ∈ "bBhdeHIkljMmSUVgGWw".toList then mark = 'O'
  else true

/-- What stands between a percent sign and a letter: how a part is filled up, whether its letters are changed, and
the width. -/
structure PieceLayout where
  /-- What it is filled up with, a dash for nothing. -/
  fill : Option Char := none
  /-- Are its letters capital ones? -/
  isCapital : Bool := false
  /-- Are its letters of the other kind? -/
  isSwapped : Bool := false
  /-- The width. -/
  width : Nat := 0
  /-- What asks for another way of counting or of writing. -/
  mark : Option Char := none

/-- The letters of a part as they are laid out. -/
def PieceLayout.lettered (l : PieceLayout) (letter : Char) (s : String) : String :=
  if letter = 'P' then s
  else if l.isSwapped && letter = 'p' then s.toLower
  else if l.isCapital || (l.isSwapped && letter ∈ ['a', 'A', 'b', 'B', 'h']) then s.toUpper else s

/-- A part of a time as it is laid out. -/
def PieceLayout.shown (l : PieceLayout) (letter : Char) (p : Piece) : String :=
  match p with
  | .number n width usual =>
    let fill := l.fill.getD usual
    let fill := if fill = '_' then ' ' else fill
    let digits := Nat.toDigits 10 n
    let width := max width l.width
    if fill = '-' then String.ofList (List.replicate (l.width - digits.length) ' ' ++ digits)
    else String.ofList (List.replicate (width - digits.length) fill ++ digits)
  | .text s =>
    let fill := if l.fill = some '0' then '0' else ' '
    l.lettered letter (String.ofList (List.replicate (l.width - s.length) fill ++ s.toList))

/-- What follows a percent sign up to a letter, the letter, and the rest. -/
def pieceLayout? (cs : List Char) : Option (PieceLayout × Char × List Char) :=
  let isFlag (c : Char) : Bool := c ∈ ['_', '-', '0', '^', '#']
  let flags := cs.takeWhile isFlag
  let cs := cs.dropWhile isFlag
  let digits := cs.takeWhile Char.isDigit
  let width := digits.foldl (fun n c => 10 * n + (c.toNat - '0'.toNat)) 0
  let cs := cs.dropWhile Char.isDigit
  let (mark, cs) : Option Char × List Char := match cs with
    | c :: rest => if (c = 'E' || c = 'O') && !rest.isEmpty then (some c, rest) else (none, cs)
    | [] => (none, [])
  let l : PieceLayout := {
    mark
    fill := (flags.filter (· ∈ ['_', '-', '0'])).getLast?
    isCapital := '^' ∈ flags, isSwapped := '#' ∈ flags, width }
  match cs with
  | letter :: rest => some (l, letter, rest)
  | [] => none

/-- A time on a day in a layout, within so many characters. -/
def laidOutWithin (d : Date) (t : TimeOfDay) : Nat → List Char → String
  | 0, _ => ""
  | _ + 1, [] => ""
  | fuel + 1, '%' :: cs => match pieceLayout? cs with
    | some (l, letter, rest) =>
      match (piece? d t letter).filter fun _ => l.mark.all (takesMark · letter) with
      | some p => l.shown letter p ++ laidOutWithin d t fuel rest
      | none =>
        let raw := '%' :: cs.take (cs.length - rest.length)
        l.shown ' ' (.text (String.ofList raw)) ++ laidOutWithin d t fuel rest
    | none =>
      let width := (cs.filter Char.isDigit).foldl (fun n c => 10 * n + (c.toNat - '0'.toNat)) 0
      String.ofList (List.replicate (width - (cs.length + 1)) ' ' ++ '%' :: cs)
  | fuel + 1, c :: cs => String.singleton c ++ laidOutWithin d t fuel cs

/-- A layout with what it asks of microseconds and of the zone put in its place. -/
def withZone (t : TimeOfDay) : List Char → List Char
  | '%' :: 'z' :: cs => ((t.zone.map fun z => TimeZone.offsetText "" z.offset).getD "").toList ++ withZone t cs
  | '%' :: 'Z' :: cs =>
    (((t.zone.map TimeZone.shown).getD "").toList.flatMap fun c => if c = '%' then ['%', '%'] else [c])
      ++ withZone t cs
  | '%' :: 'f' :: cs => (padded 6 t.microsecond).toList ++ withZone t cs
  | '%' :: c :: cs => '%' :: c :: withZone t cs
  | c :: cs => c :: withZone t cs
  | [] => []

/-- A time on a day in a layout. -/
def laidOut (d : Date) (t : TimeOfDay) (layout : List Char) : String :=
  let layout := withZone t layout
  laidOutWithin d t (layout.length + 1) layout

end Calendar

end Mapsmith
