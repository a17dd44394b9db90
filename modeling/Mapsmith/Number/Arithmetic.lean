import Mapsmith.Number.Binary64

/-!
# Arithmetic of binary numbers

Sums, products, quotients, remainders and powers of numbers of 64-bit binary floating point. A result is
worked out exactly and rounded once. Signed zeros, infinities and what is no number follow the usual rules;
a quotient by zero is left to whoever asks for it.
-/

namespace Mapsmith.Binary64

/-! ### Numbers to so many places

Binary numbers written with a number of places that is asked for, and rounded to one. A number is rounded
from its exact value to the nearest one with so many places, a tie to the even one. -/

/-- The numerator and the denominator of a finite number without its sign. -/
def magnitude : Binary64 → Nat × Nat
  | .finite _ mantissa exponent => scaled 2 mantissa 1 exponent
  | _ => (0, 1)

/-- Does the number have a minus in front of it? -/
def isNegative : Binary64 → Bool
  | .finite negative .. | .infinite negative => negative
  | .notANumber => false

/-- How many units in a place a number is, without its sign. -/
def unitsIn (x : Binary64) (places : Int) : Nat :=
  let (num, den) := x.magnitude
  let (num, den) := scaled 10 num den places
  roundQuotient num den

/-- A number of units with so many places after the point. -/
def pointed (units places : Nat) : List Char :=
  let ds := Nat.toDigits 10 units
  let ds := List.replicate (places + 1 - ds.length) '0' ++ ds
  let whole := ds.take (ds.length - places)
  if places = 0 then whole else whole ++ '.' :: ds.drop (ds.length - places)

/-- A number with so many places after the point, without its sign. -/
def fixed (x : Binary64) (places : Nat) : List Char :=
  pointed (x.unitsIn places) places

/-- The digits of a number, so many of them, and the power of ten that the first one counts. -/
def leading (x : Binary64) (count : Nat) : List Char × Int :=
  let (num, den) := x.magnitude
  if num = 0 then (List.replicate count '0', 0)
  else
    let power := decimalPoint num den - 1
    let units := x.unitsIn (Int.ofNat count - 1 - power)
    let ds := Nat.toDigits 10 units
    if ds.length > count then (ds.take count, power + 1) else (ds, power)

/-- A power of ten after its mark. -/
def powerText (mark : Char) (power : Int) : List Char :=
  let ds := Nat.toDigits 10 power.natAbs
  mark :: (if power < 0 then '-' else '+') :: List.replicate (2 - ds.length) '0' ++ ds

/-- A number with one digit before the point and so many after it, without its sign. -/
def scientific (x : Binary64) (mark : Char) (places : Nat) : List Char :=
  let (ds, power) := x.leading (places + 1)
  ds.take 1 ++ (if places = 0 then [] else '.' :: ds.drop 1) ++ powerText mark power

/-- Digits around a point without the zeros at their end, nor a point at their end. -/
def withoutZeros (cs : List Char) : List Char :=
  if cs.contains '.' then
    ((cs.reverse.dropWhile (· = '0')).dropWhile (· = '.')).reverse
  else cs

/-- Digits with a point behind them if there is none among them. -/
def withPoint (cs : List Char) : List Char :=
  if cs.contains '.' then cs else cs ++ ['.']

/-- A number with so many digits, in the shorter one of both notations, without its sign. It may have to keep the
zeros at its end and the point, or to have a place behind the point wherever it has no exponent. -/
def general (x : Binary64) (mark : Char) (count : Nat) (keepsZeros hasPlace : Bool) : List Char :=
  let count := max count 1
  let (ds, power) := x.leading count
  let strip (cs : List Char) : List Char := if keepsZeros then withPoint cs else withoutZeros cs
  if -4 ≤ power && power < Int.ofNat count - (if hasPlace then 1 else 0) then
    let cs := strip (x.fixed (Int.ofNat count - 1 - power).toNat)
    if hasPlace && !cs.contains '.' then cs ++ ['.', '0'] else cs
  else
    strip (ds.take 1 ++ if ds.length > 1 then '.' :: ds.drop 1 else []) ++ powerText mark power

/-- The nearest number with so many places. -/
def roundedTo (x : Binary64) (places : Int) : Binary64 :=
  match x with
  | .finite negative .. => .ofDecimal negative (x.unitsIn places) (-places)
  | x => x

/-- The nearest integer, a tie to the even one. -/
def nearestInt (x : Binary64) : Int :=
  let n := Int.ofNat (x.unitsIn 0)
  if x.isNegative then -n else n

/-! ### Operations -/

/-- Zero with a sign. -/
def zero (negative : Bool) : Binary64 :=
  .finite negative 0 (-1074)

/-- An integer as the nearest number. -/
def ofInt (n : Int) : Binary64 :=
  nearest n 1

/-- Is the number finite? -/
def isFinite : Binary64 → Bool
  | .finite .. => true
  | _ => false

/-- The number with the other sign. -/
def neg : Binary64 → Binary64
  | .finite negative mantissa exponent => .finite (!negative) mantissa exponent
  | .infinite negative => .infinite !negative
  | .notANumber => .notANumber

/-- The number without its sign. -/
def abs : Binary64 → Binary64
  | .finite _ mantissa exponent => .finite false mantissa exponent
  | .infinite _ => .infinite false
  | .notANumber => .notANumber

/-- The number nearest to a fraction, or a zero with a sign. -/
def rounded (negative : Bool) (num : Int) (den : Nat) : Binary64 :=
  if num = 0 then zero negative else nearest num den

/-- The sum of two numbers. -/
def add (x y : Binary64) : Binary64 :=
  match x, y with
  | .infinite s, .infinite t => if s = t then .infinite s else .notANumber
  | .infinite s, .finite .. | .finite .., .infinite s => .infinite s
  | x, y => match x.fraction?, y.fraction? with
    | some (m, k), some (n, l) =>
      rounded (x.isNegative && y.isNegative) (m * Int.ofNat l + n * Int.ofNat k) (k * l)
    | _, _ => .notANumber

/-- The difference of two numbers. -/
def sub (x y : Binary64) : Binary64 :=
  x.add y.neg

/-- The product of two numbers. -/
def mul (x y : Binary64) : Binary64 :=
  let negative := xor x.isNegative y.isNegative
  match x.fraction?, y.fraction? with
  | some (m, k), some (n, l) => rounded negative (m * n) (k * l)
  | _, _ =>
    if x = .notANumber || y = .notANumber || !x.isNonzero || !y.isNonzero then .notANumber
    else .infinite negative

/-- The quotient of two numbers, the second of them not zero. -/
def div (x y : Binary64) : Binary64 :=
  let negative := xor x.isNegative y.isNegative
  match x, y with
  | .infinite _, .finite .. => .infinite negative
  | .finite .., .infinite _ => zero negative
  | x, y => match x.fraction?, y.fraction? with
    | some (m, k), some (n, l) => rounded negative (if n < 0 then -m * Int.ofNat l else m * Int.ofNat l)
        (k * n.natAbs)
    | _, _ => .notANumber

/-- The greatest integer that is at most the quotient of two finite numbers, the second of them not
zero. -/
def wholeQuotient (m : Int) (k : Nat) (n : Int) (l : Nat) : Int :=
  Int.fdiv (m * Int.ofNat l) (n * Int.ofNat k)

/-- The quotient of two numbers, rounded down, the second of them not zero. -/
def floorDiv (x y : Binary64) : Binary64 :=
  match x.fraction?, y.fraction? with
  | some (m, k), some (n, l) =>
    rounded (xor x.isNegative y.isNegative) (wholeQuotient m k n l) 1
  | some (m, _), none =>
    if y = .notANumber then .notANumber
    else if m = 0 then zero (xor x.isNegative y.isNegative)
    else if x.isNegative = y.isNegative then zero false else ofInt (-1)
  | none, _ => .notANumber

/-- What the quotient rounded down leaves of the first number. It has the sign of the second, which is not
zero. -/
def modulo (x y : Binary64) : Binary64 :=
  match x.fraction?, y.fraction? with
  | some (m, k), some (n, l) =>
    rounded y.isNegative (m * Int.ofNat l - wholeQuotient m k n l * (n * Int.ofNat k)) (k * l)
  | some (m, _), none =>
    if y = .notANumber then .notANumber
    else if m = 0 then zero y.isNegative
    else if x.isNegative = y.isNegative then x else y
  | none, _ => .notANumber

/-- A finite number to the power of an integer. It is not zero if the integer is negative. -/
def power (x : Binary64) (n : Int) : Binary64 :=
  let negative := x.isNegative && n % 2 ≠ 0
  match x with
  | .finite _ mantissa exponent =>
    let (num, den) := scaled 2 mantissa 1 exponent
    let (a, b) := (Nat.pow num n.natAbs, Nat.pow den n.natAbs)
    if n = 0 then ofInt 1
    else if mantissa = 0 then zero negative
    else if 0 ≤ n then ofFraction negative a b else ofFraction negative b a
  | .infinite _ => if n = 0 then ofInt 1 else if 0 ≤ n then .infinite negative else zero negative
  | .notANumber => if n = 0 then ofInt 1 else .notANumber

/-- The greatest integer whose square is at most a number, between two bounds. -/
def rootBetween (n : Nat) : Nat → Nat → Nat → Nat
  | 0, low, _ => low
  | fuel + 1, low, high =>
    let middle := (low + high + 1) / 2
    if middle * middle ≤ n then rootBetween n fuel middle high else rootBetween n fuel low (middle - 1)

/-- The number nearest to the square root of a positive finite number. Beyond its sixty binary digits the
root counts as halfway between two numbers exactly if it is. -/
def squareRoot (mantissa : Nat) (exponent : Int) : Binary64 :=
  let even := exponent - exponent % 2 - 140
  let n := mantissa * Nat.pow 2 (exponent - even).toNat
  let root := rootBetween n (n.log2 + 2) 0 (Nat.pow 2 (n.log2 / 2 + 1))
  let sticky := if root * root = n then 2 * root else 2 * root + 1
  let (num, den) := scaled 2 sticky 1 (even / 2 - 1)
  ofFraction false num den

/-- The number nearest to the distance of a point of the plane from its origin. -/
def distance (x y : Binary64) : Binary64 :=
  match x, y with
  | .infinite _, _ | _, .infinite _ => .infinite false
  | .finite _ m e, .finite _ n f =>
    let low := min e f
    let a := m * Nat.pow 2 (e - low).toNat
    let b := n * Nat.pow 2 (f - low).toNat
    if a = 0 && b = 0 then zero false else squareRoot (a * a + b * b) (2 * low)
  | _, _ => .notANumber

end Mapsmith.Binary64
