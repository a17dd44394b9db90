/-!
# Binary floating-point numbers

The numbers of 64-bit binary floating point, kept exactly: a finite number is
`± mantissa · 2 ^ exponent`. Reading a decimal rounds to the nearest such number, a tie to the even
mantissa; writing takes the fewest decimal digits that read back, and of those the nearest.
-/

namespace Mapsmith

/-- A number of 64-bit binary floating point. -/
inductive Binary64
  /-- `± mantissa · 2 ^ exponent`, with a mantissa below `2 ^ 53` and an exponent from `-1074`. -/
  | finite (negative : Bool) (mantissa : Nat) (exponent : Int)
  /-- A number too large to be finite. -/
  | infinite (negative : Bool)
  /-- The value that is no number. -/
  | notANumber
  deriving DecidableEq, Repr

namespace Binary64

/-! ### From decimals -/

/-- The quotient rounded to the nearest integer, a tie to the even one. -/
def roundQuotient (num den : Nat) : Nat :=
  let q := num / den
  let twice := 2 * (num % den)
  if twice > den || (twice == den && q % 2 == 1) then q + 1 else q

/-- A fraction `num / den` times a power of a base, again as a fraction. -/
def scaled (base num den : Nat) (exponent : Int) : Nat × Nat :=
  if 0 ≤ exponent then (num * base.pow exponent.toNat, den)
  else (num, den * base.pow (-exponent).toNat)

/-- The number nearest to a positive fraction. -/
def ofFraction (negative : Bool) (num den : Nat) : Binary64 :=
  let estimate : Int := Int.ofNat (Nat.log2 num) - Int.ofNat (Nat.log2 den) - 53
  let at_ (e : Int) : Nat × Nat := scaled 2 num den (-e)
  let fine := max estimate (-1074)
  let (n, d) := at_ fine
  let exponent := if n / d < Nat.pow 2 53 then fine else fine + 1
  let (n, d) := at_ exponent
  let mantissa := roundQuotient n d
  let (mantissa, exponent) :=
    if mantissa = Nat.pow 2 53 then (Nat.pow 2 52, exponent + 1) else (mantissa, exponent)
  if exponent > 971 then .infinite negative else .finite negative mantissa exponent

/-- The number nearest to `± digits · 10 ^ exponent`. Exponents far outside the range are settled
without computing the power. -/
def ofDecimal (negative : Bool) (digits : Nat) (exponent : Int) : Binary64 :=
  let magnitude := exponent + Int.ofNat (Nat.toDigits 10 digits).length
  if digits = 0 || magnitude < -400 then .finite negative 0 (-1074)
  else if magnitude > 400 then .infinite negative
  else
    let (num, den) := scaled 10 digits 1 exponent
    ofFraction negative num den

/-! ### To decimals -/

/-- The power of ten just above a positive fraction below one, counted down from zero. -/
def leadingZeros (num den : Nat) : Nat → Nat
  | 0 => 0
  | fuel + 1 => if num * 10 < den then leadingZeros (num * 10) den fuel + 1 else 0

/-- The `p` with `10 ^ (p - 1) ≤ num / den < 10 ^ p`. -/
def decimalPoint (num den : Nat) : Int :=
  if den ≤ num then Int.ofNat (Nat.toDigits 10 (num / den)).length
  else -Int.ofNat (leadingZeros num den 400)

/-- The digits and the decimal exponent of the shortest decimal with at most `17` digits that reads
back, tried from `17 - fuel` digits on. -/
def shortestFrom (mantissa : Nat) (exponent : Int) (num den : Nat) (point : Int) :
    Nat → Nat × Int
  | 0 => (roundQuotient (scaled 10 num den (17 - point)).1 (scaled 10 num den (17 - point)).2,
      point - 17)
  | fuel + 1 =>
    let places := point - Int.ofNat (17 - fuel)
    let (n, d) := scaled 10 num den (-places)
    let low := n / d
    let readsBack (digits : Nat) : Bool :=
      ofDecimal false digits places == .finite false mantissa exponent
    let nearest := roundQuotient n d
    if readsBack nearest then (nearest, places)
    else if readsBack low then (low, places)
    else if readsBack (low + 1) then (low + 1, places)
    else shortestFrom mantissa exponent num den point fuel

/-- The shortest decimal `digits · 10 ^ exponent` that reads back as a positive finite number. -/
def shortest (mantissa : Nat) (exponent : Int) : Nat × Int :=
  let (num, den) := scaled 2 mantissa 1 exponent
  shortestFrom mantissa exponent num den (decimalPoint num den) 17

/-- Digits without the zeros at their end. -/
def dropZeros (digits : List Char) : List Char :=
  (digits.reverse.dropWhile (· == '0')).reverse

/-- Lays out a decimal whose point stands after `point` of its digits: positional when the leading
digit is worth at least `10 ^ -4` and less than `10 ^ 16`, with an exponent of two or more digits
otherwise. -/
def layOut (digits : List Char) (point : Int) : List Char :=
  if -3 ≤ point && point ≤ 16 then
    if point ≤ 0 then '0' :: '.' :: List.replicate (-point).toNat '0' ++ digits
    else
      let whole := digits.take point.toNat
      let fraction := digits.drop point.toNat
      whole ++ List.replicate (point.toNat - whole.length) '0' ++
        '.' :: (if fraction.isEmpty then ['0'] else fraction)
  else
    let power := point - 1
    let powerDigits := Nat.toDigits 10 power.natAbs
    let fraction := digits.drop 1
    digits.take 1 ++ (if fraction.isEmpty then [] else '.' :: fraction) ++
      'e' :: (if power < 0 then '-' else '+') ::
      (List.replicate (2 - powerDigits.length) '0' ++ powerDigits)

/-- The text of a number: the shortest decimal that reads back. -/
def text : Binary64 → String
  | .notANumber => "nan"
  | .infinite negative => if negative then "-inf" else "inf"
  | .finite negative mantissa exponent =>
    let sign := if negative then ['-'] else []
    if mantissa = 0 then String.ofList (sign ++ ['0', '.', '0'])
    else
      let (digits, places) := shortest mantissa exponent
      let all := Nat.toDigits 10 digits
      String.ofList (sign ++ layOut (dropZeros all) (places + Int.ofNat all.length))

/-! ### Integers among them -/

/-- The integer a finite number is, if it has no fractional part. -/
def toInt? : Binary64 → Option Int
  | .finite negative mantissa exponent =>
    let (num, den) := scaled 2 mantissa 1 exponent
    if num % den = 0 then
      some (if negative then -Int.ofNat (num / den) else Int.ofNat (num / den))
    else none
  | _ => none

/-- The integer that is left of a finite number without its fractional part. -/
def truncated? : Binary64 → Option Int
  | .finite negative mantissa exponent =>
    let (num, den) := scaled 2 mantissa 1 exponent
    some (if negative then -Int.ofNat (num / den) else Int.ofNat (num / den))
  | _ => none

/-- A finite number as a fraction. -/
def fraction? : Binary64 → Option (Int × Nat)
  | .finite negative mantissa exponent =>
    let (num, den) := scaled 2 mantissa 1 exponent
    some (if negative then -Int.ofNat num else Int.ofNat num, den)
  | _ => none

/-- The number nearest to a fraction. -/
def nearest (num : Int) (den : Nat) : Binary64 :=
  if num = 0 then .finite false 0 (-1074) else ofFraction (num < 0) num.natAbs den

/-- Is a number equal to another one? The zeros are, and what is no number is not even to itself. -/
def isSame (x y : Binary64) : Bool :=
  match x, y with
  | .finite .., .finite .. => match x.fraction?, y.fraction? with
    | some (m, k), some (n, l) => m * Int.ofNat l = n * Int.ofNat k
    | _, _ => false
  | .infinite s, .infinite t => s = t
  | _, _ => false

/-- Is the number different from zero? -/
def isNonzero : Binary64 → Bool
  | .finite _ mantissa _ => mantissa ≠ 0
  | _ => true

end Binary64

end Mapsmith
