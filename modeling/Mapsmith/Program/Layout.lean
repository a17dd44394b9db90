import Mapsmith.Number.Decimal.Rounding
import Mapsmith.Number.Arithmetic
import Mapsmith.Text.Numeral

/-!
# Layouts

How values are laid out as texts: filled up to a width, aligned, with a sign, digits in groups, and in one of
several notations. A layout is a text itself; one that does not go with a kind of value is refused. Zeros that
fill up the width of a number stand behind its sign and are put in groups with its digits.
-/

namespace Mapsmith.Program

/-- How a value is laid out. -/
structure Layout where
  /-- What fills up the width. -/
  fill : Char := ' '
  /-- Where the value stands. -/
  align : Option Char := none
  /-- The sign in front of numbers that are not negative. -/
  sign : Option Char := none
  /-- Is a zero never negative? -/
  isZeroPlain : Bool := false
  /-- Is the notation told in the text? -/
  isAlternate : Bool := false
  /-- Do zeros fill up the width? -/
  isZeroed : Bool := false
  /-- The width. -/
  width : Nat := 0
  /-- What stands between groups of digits. -/
  grouping : Option Char := none
  /-- The number of places. -/
  precision : Option Nat := none
  /-- The letter of the notation. -/
  letter : Option Char := none
  deriving Inhabited

namespace Layout

/-! ### Reading -/

/-- The number at the beginning of a text. -/
def number? (cs : List Char) : Option Nat × List Char :=
  let ds := cs.takeWhile Char.isDigit
  let n := ds.foldl (fun n c => 10 * n + (c.toNat - '0'.toNat)) 0
  (if ds.isEmpty then none else some n, cs.drop ds.length)

/-- A character of some at the beginning of a text. -/
def oneOf? (choice : List Char) : List Char → Option Char × List Char
  | c :: cs => if c ∈ choice then (some c, cs) else (none, c :: cs)
  | [] => (none, [])

/-- The layout that a text tells. -/
def ofText? (s : String) : Option Layout :=
  let aligns := ['<', '>', '=', '^']
  let (fill, align, cs) : Option Char × Option Char × List Char := match s.toList with
    | f :: a :: cs =>
      if a ∈ aligns then (some f, some a, cs)
      else if f ∈ aligns then (none, some f, a :: cs)
      else (none, none, f :: a :: cs)
    | [a] => if a ∈ aligns then (none, some a, []) else (none, none, [a])
    | [] => (none, none, [])
  let (sign, cs) := oneOf? ['+', '-', ' '] cs
  let (plain, cs) := oneOf? ['z'] cs
  let (alternate, cs) := oneOf? ['#'] cs
  let (zero, cs) := if fill.isNone then oneOf? ['0'] cs else (none, cs)
  let (width, cs) := number? cs
  let (comma, cs) := oneOf? [','] cs
  let (line, cs) := oneOf? ['_'] cs
  let (precision, cs, isGood) : Option Nat × List Char × Bool := match cs with
    | '.' :: cs => let (p, cs) := number? cs; (p, cs, p.isSome)
    | cs => (none, cs, true)
  let layout : Layout := {
    fill := fill.getD (if zero.isSome then '0' else ' ')
    align, sign, isZeroPlain := plain.isSome, isAlternate := alternate.isSome, isZeroed := zero.isSome
    width := width.getD 0, grouping := comma.or line, precision }
  let letters := ['d', 'e', 'f', 'g', 'E', 'G', '%', 'F']
  let groupsGo (c : Char) : Bool := layout.grouping.isNone || c ∈ letters
    || (layout.grouping = some '_' && c ∈ ['b', 'o', 'x', 'X'])
  if !isGood || (comma.isSome && line.isSome) then none
  else match cs with
    | [] => some layout
    | [c] => if groupsGo c then some { layout with letter := some c } else none
    | _ => none

variable (l : Layout)

/-! ### Laying out -/

/-- A text filled up to the width, with a part in front that stays in front if the value is aligned so. -/
def filled (usual : Char) (front body : List Char) : String :=
  let missing := l.width - (front.length + body.length)
  let fill (n : Nat) : List Char := List.replicate n l.fill
  let align := l.align.getD usual
  String.ofList <|
    if align = '<' then front ++ body ++ fill missing
    else if align = '=' then front ++ fill missing ++ body
    else if align = '^' then fill (missing / 2) ++ front ++ body ++ fill (missing - missing / 2)
    else fill missing ++ front ++ body

/-- Digits in groups of a size from the last one on, with zeros in front of them up to a width. -/
def groupsFrom (mark : Char) (size : Nat) : Nat → List Char → Int → List Char
  | 0, _, _ => []
  | fuel + 1, reversed, width =>
    let count := min size (max (max reversed.length width.toNat) 1)
    let ds := reversed.take count
    let group := ds ++ List.replicate (count - ds.length) '0'
    let rest := reversed.drop count
    let width := width - Int.ofNat count
    if rest.isEmpty && width ≤ 0 then group else group ++ mark :: groupsFrom mark size fuel rest (width - 1)

/-- Digits in groups of a size, with zeros in front of them up to a width. -/
def grouped (size width : Nat) (ds : List Char) : List Char :=
  match l.grouping with
  | some mark => (groupsFrom mark size (ds.length + width + 1) ds.reverse (Int.ofNat width)).reverse
  | none => List.replicate (width - ds.length) '0' ++ ds

/-- A number of digits and what follows them, with a part in front of it: its digits are put in groups. -/
def numbered (size : Nat) (front ds rest : List Char) : String :=
  let align := l.align.getD (if l.isZeroed then '=' else '>')
  let width := if l.fill = '0' && align = '=' then l.width - (front.length + rest.length) else 0
  let ds := if ds.isEmpty then ds else l.grouped size width ds
  { l with align := some align }.filled '>' front (ds ++ rest)

/-- The sign of a number. -/
def signOf (isNegative : Bool) : List Char :=
  if isNegative then ['-'] else (l.sign.filter (· ≠ '-')).toList

/-- Digits in capital letters. -/
def capital (cs : List Char) : List Char :=
  cs.map Char.toUpper

/-! ### Kinds of values -/

/-- A text that is laid out. -/
def ofString (s : String) : Option String :=
  if l.letter.any (· ≠ 's') || l.sign.isSome || l.isAlternate || l.grouping.isSome || l.isZeroPlain
      || l.align = some '=' then none
  else some (l.filled '<' [] (s.toList.take (l.precision.getD s.length)))

/-- A finite number in a notation, without its sign. -/
def notation? (x : Binary64) : Option (List Char) :=
  let places := l.precision.getD 6
  let pointed (cs : List Char) : List Char :=
    if l.isAlternate && !cs.contains '.' then
      cs.takeWhile Char.isDigit ++ '.' :: cs.dropWhile Char.isDigit
    else cs
  match l.letter with
  | none => match l.precision with
    | none => some (pointed (x.text.toList.filter (· ≠ '-')))
    | some p => some (x.general 'e' p l.isAlternate true)
  | some 'e' => some (pointed (x.scientific 'e' places))
  | some 'E' => some (pointed (x.scientific 'E' places))
  | some 'f' | some 'F' => some (pointed (x.fixed places))
  | some 'g' | some 'n' => some (x.general 'e' places l.isAlternate false)
  | some 'G' => some (x.general 'E' places l.isAlternate false)
  | some '%' => some (pointed ((Binary64.mul x (.nearest 100 1)).fixed places) ++ ['%'])
  | _ => none

/-- Is a number that is written a zero? -/
def isZero (cs : List Char) : Bool :=
  (cs.takeWhile fun c => c ≠ 'e' && c ≠ 'E').all fun c => !c.isDigit || c = '0'

/-- A number of a notation, without its sign, and whether it has one. -/
def parted? (x : Binary64) : Option (Bool × List Char) :=
  let isCapital := l.letter.any (· ∈ ['E', 'F', 'G'])
  let word (s : String) : List Char :=
    (if isCapital then capital s.toList else s.toList) ++ if l.letter = some '%' then ['%'] else []
  if l.letter.any (· ∉ ['e', 'E', 'f', 'F', 'g', 'G', 'n', '%']) then none
  else match x with
    | .notANumber => some (false, word "nan")
    | .infinite negative => some (negative, word "inf")
    | x => match x with
      | .finite .. =>
        let scaled := if l.letter = some '%' then x.mul (.nearest 100 1) else x
        match scaled with
        | .finite .. => (l.notation? x).map fun body =>
          (x.isNegative && !(l.isZeroPlain && isZero body), body)
        | _ => some (x.isNegative, word "inf")
      | _ => none

/-- A number that is laid out in a notation for numbers that need not be whole. -/
def ofFloat (x : Binary64) : Option String :=
  (l.parted? x).map fun (negative, body) =>
    l.numbered 3 (l.signOf negative) (body.takeWhile Char.isDigit) (body.dropWhile Char.isDigit)

/-- A complex number that is laid out: each part in the notation, the second one with its sign. -/
def ofComplex (re im : Binary64) : Option String :=
  if l.align = some '=' || l.fill = '0' then none
  else
    let part := { l with width := 0, align := none, fill := ' ' }
    let isShort := l.letter.isNone
    let hidesReal := isShort && re = .finite false 0 (-1074)
    let short (cs : List Char) : List Char :=
      if isShort && l.precision.isNone && cs.reverse.take 2 = ['0', '.'] then cs.take (cs.length - 2) else cs
    let noted := if isShort && l.precision.isSome then { part with letter := some 'g' } else part
    match noted.parted? re, noted.parted? im with
    | some (a, re), some (b, im) =>
      let first := if hidesReal then [] else l.signOf a ++ l.grouped 3 0 (short re |>.takeWhile Char.isDigit)
        ++ (short re).dropWhile Char.isDigit
      let second := (if b then ['-'] else if hidesReal then l.signOf false else ['+'])
        ++ l.grouped 3 0 ((short im).takeWhile Char.isDigit) ++ (short im).dropWhile Char.isDigit ++ ['j']
      let body := if isShort && !hidesReal then '(' :: first ++ second ++ [')'] else first ++ second
      some (l.filled '>' [] body)
    | _, _ => none

/-- An integer that is laid out. -/
def ofInt (n : Int) : Option String :=
  let digits (base : Nat) : List Char := Nat.toDigits base n.natAbs
  let based (mark : Char) (ds : List Char) : Option String :=
    if l.precision.isSome || l.isZeroPlain then none
    else some (l.numbered 4 (l.signOf (n < 0) ++ if l.isAlternate then ['0', mark] else []) ds [])
  match l.letter with
  | none | some 'd' | some 'n' =>
    if l.precision.isSome || l.isZeroPlain then none
    else some (l.numbered 3 (l.signOf (n < 0)) (digits 10) [])
  | some 'b' => based 'b' (digits 2)
  | some 'o' => based 'o' (digits 8)
  | some 'x' => based 'x' (digits 16)
  | some 'X' => based 'X' (capital (digits 16))
  | some 'c' =>
    if l.sign.isSome || l.isAlternate || l.precision.isSome || l.isZeroPlain then none
    else
      let align := l.align.getD (if l.isZeroed then '=' else '>')
      some ({ l with align := some align }.filled '>' [] [Char.ofNat n.toNat])
  | _ => l.ofFloat (.nearest n 1)

/-! ### Decimals -/

/-- The layout that a text tells for a decimal number. -/
def ofDecimalText? (s : String) : Option Layout :=
  match ofText? s with
  | some l =>
    let letters := ['e', 'E', 'f', 'F', 'g', 'G', 'n', '%']
    if l.letter.any (· ∉ letters) || l.grouping = some '_' || (l.isZeroed && l.align.isSome) then none
    else some l
  | none => none

/-- A finite decimal number with a place before it that its point has in the notation. -/
def decimalBody (letter : Char) (dot : Int) (digits : List Char) (exponent : Int) :
    List Char × List Char :=
  let whole := if dot ≤ 0 then ['0']
    else if dot > Int.ofNat digits.length then digits ++ List.replicate (dot.toNat - digits.length) '0'
    else digits.take dot.toNat
  let fraction := if dot < 0 then List.replicate (-dot).toNat '0' ++ digits
    else if dot > Int.ofNat digits.length then [] else digits.drop dot.toNat
  let power := exponent + Int.ofNat digits.length - dot
  let mark := if letter ∈ ['E', 'G'] then 'E' else 'e'
  let powered := if power ≠ 0 || letter ∈ ['e', 'E'] then
      mark :: (if power < 0 then '-' else '+') :: Nat.toDigits 10 power.natAbs
    else []
  (whole, (if fraction.isEmpty then [] else '.' :: fraction) ++ powered)

/-- A decimal number that is laid out. -/
def ofDecimal (d : Decimal) : String :=
  let align := if l.isZeroed then '=' else l.align.getD '>'
  let fill := if l.isZeroed then '0' else l.fill
  let l := { l with align := some align, fill }
  match d with
  | .finite negative digits exponent =>
    let letter := match l.letter with
      | some 'n' => 'g'
      | some c => c
      | none => 'G'
    let isPlaced := letter ∈ ['f', 'F', '%']
    let exponent := if letter = '%' then exponent + 2 else exponent
    let precision := l.precision.map fun p => if letter ∈ ['g', 'G'] then max p 1 else p
    let (digits, exponent) := match precision with
      | some p =>
        if letter ∈ ['e', 'E'] then Decimal.toCount (p + 1) digits exponent
        else if isPlaced then Decimal.toPlace (-Int.ofNat p) digits exponent
        else Decimal.toCount p digits exponent
      | none => (digits, exponent)
    let (digits, exponent) := if digits = 0 && exponent > 0 && isPlaced then (0, 0) else (digits, exponent)
    let ds := Decimal.digitsOf digits
    let left := exponent + Int.ofNat ds.length
    let dot : Int := if letter ∈ ['e', 'E'] then
        (if digits = 0 && precision.isSome then 1 - Int.ofNat (precision.getD 0) else 1)
      else if isPlaced then left
      else if exponent ≤ 0 && left > -6 then left else 1
    let (whole, rest) := decimalBody letter dot ds exponent
    let rest := if l.isAlternate && !rest.contains '.' then '.' :: rest else rest
    let rest := if letter = '%' then rest ++ ['%'] else rest
    let sign := l.signOf (negative && !(l.isZeroPlain && digits = 0))
    l.numbered 3 sign whole rest
  | d =>
    let body := (d.text.toList.filter (· ≠ '-')) ++ if l.letter = some '%' then ['%'] else []
    l.filled '>' (l.signOf (d.text.startsWith "-")) body

end Layout

end Mapsmith.Program
