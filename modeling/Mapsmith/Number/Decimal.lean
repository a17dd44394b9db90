import Mapsmith.Number.Binary64
import Mapsmith.Text.Numeral

/-!
# Decimal numbers

Decimal numbers that keep the places they were given: `± digits · 10 ^ exponent`, where numbers with more
zeros at the end are written differently but are equal. What is no number may tell by a number of its own why it
is none, and may signal, so that whatever is done with it is refused.

Numbers of all kinds that have an order stand on one line. Two of them are compared by where they stand, so it
does not matter of which kind they are, and nothing is rounded.
-/

namespace Mapsmith

/-- A decimal number. -/
inductive Decimal
  /-- `± digits · 10 ^ exponent`. -/
  | finite (negative : Bool) (digits : Nat) (exponent : Int)
  /-- A number too large to be finite. -/
  | infinite (negative : Bool)
  /-- What is no number: it may have a sign, signal, and carry a number. -/
  | notANumber (negative signals : Bool) (payload : Nat)
  deriving DecidableEq, Repr

namespace Decimal

/-! ### Texts -/

/-- The digits of a number. -/
def digitsOf (n : Nat) : List Char :=
  Nat.toDigits 10 n

/-- The number of digits of a number. -/
def digitCount (n : Nat) : Nat :=
  let estimate := n.log2 * 1233 / 4096
  if n < Nat.pow 10 estimate then max estimate 1
  else if n < Nat.pow 10 (estimate + 1) then estimate + 1
  else if n < Nat.pow 10 (estimate + 2) then estimate + 2
  else (digitsOf n).length

/-- How a number with an exponent is written, with so many digits in front of the point. -/
def withExponent (ds : List Char) (whole : Nat) (power : Int) : List Char :=
  let ds := ds ++ List.replicate (whole - ds.length) '0'
  let fraction := ds.drop whole
  ds.take whole ++ (if fraction.isEmpty then [] else '.' :: fraction) ++
    if power = 0 then [] else 'E' :: (if power < 0 then '-' else '+') :: digitsOf power.natAbs

/-- Digits with a point after so many of them. -/
def positional (ds : List Char) (point : Int) : List Char :=
  if point ≤ 0 then '0' :: '.' :: List.replicate (-point).toNat '0' ++ ds
  else if Int.ofNat ds.length ≤ point then ds
  else ds.take point.toNat ++ '.' :: ds.drop point.toNat

/-- How a decimal number is written: positional if its last place is not to the left of the point and its
leading digit is worth at least a millionth, with an exponent otherwise. An exponent may have to be a multiple of
three. -/
def textBy (isByThrees : Bool) : Decimal → String
  | notANumber negative signals payload =>
    (if negative then "-" else "") ++ (if signals then "sNaN" else "NaN")
      ++ if payload = 0 then "" else toString payload
  | infinite negative => if negative then "-Infinity" else "Infinity"
  | finite negative digits exponent =>
    let ds := digitsOf digits
    let point := exponent + Int.ofNat ds.length
    let adjusted := point - 1
    let body : List Char :=
      if exponent ≤ 0 && -6 ≤ adjusted then positional ds point
      else if !isByThrees then withExponent ds 1 adjusted
      else if digits = 0 then
        let power := 3 * ((exponent + 2) / 3)
        let zeros := (power - exponent).toNat
        withExponent ('0' :: List.replicate zeros '0') 1 power
      else
        let power := 3 * (adjusted / 3)
        withExponent ds (adjusted - power + 1).toNat power
    String.ofList (if negative then '-' :: body else body)

/-- How a decimal number is written. -/
def text (d : Decimal) : String :=
  textBy false d

/-- Digits of any script as digits of one, if they are digits. -/
def plainDigits? (cs : List Char) : Option (List Char) :=
  cs.mapM fun c => (Text.digit? c).map fun d => Char.ofNat ('0'.toNat + d)

/-- The digits that may come after what is no number. -/
def payload? (cs : List Char) : Option Nat :=
  (plainDigits? cs).map fun ds => ds.foldl (fun n c => 10 * n + (c.toNat - '0'.toNat)) 0

/-- The largest exponent that a text can spell, and the smallest one, of a leading digit. -/
def bounds : Int × Int := (999999999999999999, -1999999999999999997)

/-- The number that a text without a sign spells. -/
def unsigned? (negative : Bool) (cs : List Char) : Option Decimal := do
  let word := (String.ofList cs).toLower
  if word = "inf" || word = "infinity" then return infinite negative
  if word.startsWith "nan" then return notANumber negative false (← payload? (cs.drop 3))
  if word.startsWith "snan" then return notANumber negative true (← payload? (cs.drop 4))
  let isMark (c : Char) : Bool := c = 'e' || c = 'E'
  let number := cs.takeWhile (!isMark ·)
  let exponent ← match cs.dropWhile (!isMark ·) with
    | [] => some 0
    | _ :: rest => if rest.any Text.isBlank then none else Text.integer? (String.ofList rest)
  let whole ← plainDigits? (number.takeWhile (· ≠ '.'))
  let fraction ← plainDigits? ((number.dropWhile (· ≠ '.')).drop 1)
  let ds := whole ++ fraction
  if ds.isEmpty then none
  let digits := ds.foldl (fun n c => 10 * n + (c.toNat - '0'.toNat)) 0
  let exponent := exponent - Int.ofNat fraction.length
  if exponent + Int.ofNat (digitCount digits) - 1 > bounds.1 || exponent < bounds.2 then none
  return finite negative digits exponent

/-- The number that a text spells. Blanks around it do not count, nor do underscores in it. -/
def ofText? (s : String) : Option Decimal :=
  match (Text.trim s).toList.filter (· ≠ '_') with
  | '-' :: cs => unsigned? true cs
  | '+' :: cs => unsigned? false cs
  | cs => unsigned? false cs

/-! ### Numbers -/

/-- An integer. -/
def ofInt (n : Int) : Decimal :=
  finite (n < 0) n.natAbs 0

/-- The power of two that a denominator is. -/
def powerOfTwo (den : Nat) : Nat :=
  Nat.log2 den

/-- A binary number, to its last digit. -/
def ofBinary : Binary64 → Decimal
  | .notANumber => notANumber false false 0
  | .infinite negative => infinite negative
  | .finite negative mantissa exponent =>
    let (num, den) := Binary64.scaled 2 mantissa 1 exponent
    let divisor := Nat.gcd num den
    let (num, den) := if divisor = 0 then (num, den) else (num / divisor, den / divisor)
    let places := powerOfTwo den
    finite negative (num * Nat.pow 5 places) (-Int.ofNat places)

/-- A finite number as a fraction. -/
def fraction? : Decimal → Option (Int × Nat)
  | finite negative digits exponent =>
    let (num, den) := Binary64.scaled 10 digits 1 exponent
    some (if negative then -Int.ofNat num else Int.ofNat num, den)
  | _ => none

/-- Is the number different from zero? -/
def isNonzero : Decimal → Bool
  | finite _ digits _ => digits ≠ 0
  | _ => true

/-- The place of the leading digit of a finite number. -/
def adjusted (digits : Nat) (exponent : Int) : Int :=
  exponent + Int.ofNat (digitCount digits) - 1

/-- Is the value no number? -/
def isUndefined : Decimal → Bool
  | notANumber .. => true
  | _ => false

/-- Does the number have a minus in front of it? -/
def isNegative : Decimal → Bool
  | finite negative .. | infinite negative | notANumber negative .. => negative

/-- The number with a sign. -/
def withSign (negative : Bool) : Decimal → Decimal
  | finite _ digits exponent => finite negative digits exponent
  | infinite _ => infinite negative
  | notANumber _ signals payload => notANumber negative signals payload

example : (ofText? "1.50").map text = some "1.50" := by decide +kernel

example : text (.finite false 15 20) = "1.5E+21" := by decide +kernel

end Decimal

/-! ### Where numbers stand -/

/-- Where a number stands on the line: at a fraction, before or after all of these, or nowhere. -/
inductive Standing
  /-- At a fraction. -/
  | at (num : Int) (den : Nat)
  /-- Before all fractions. -/
  | first
  /-- After all fractions. -/
  | last
  /-- Nowhere. -/
  | nowhere
  deriving Repr

namespace Standing

/-- Where a binary number stands. -/
def ofReal : Binary64 → Standing
  | .infinite negative => if negative then first else last
  | .notANumber => nowhere
  | x => match x.fraction? with
    | some (num, den) => .at num den
    | none => nowhere

/-- Where a decimal number stands. -/
def ofDecimal : Decimal → Standing
  | .infinite negative => if negative then first else last
  | .notANumber .. => nowhere
  | d => match d.fraction? with
    | some (num, den) => .at num den
    | none => nowhere

/-- The order of two numbers by where they stand, if both are somewhere. -/
def compare? : Standing → Standing → Option Ordering
  | nowhere, _ | _, nowhere => none
  | .at m k, .at n l => some (compare (m * Int.ofNat l) (n * Int.ofNat k))
  | first, first | last, last => some .eq
  | first, _ | _, last => some .lt
  | last, _ | _, first => some .gt

end Standing

end Mapsmith
