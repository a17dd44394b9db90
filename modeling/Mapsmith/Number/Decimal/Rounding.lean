import Mapsmith.Number.Decimal

/-!
# Rounding of decimal numbers

What an operation on decimal numbers yields has 28 digits at most, and an exponent between two bounds. What has
more digits is rounded, as a rule to the nearest number and a tie to the even one; what is too large is refused,
and what is too small loses its last places.
-/

namespace Mapsmith

/-- A way to round. -/
inductive Rounding
  /-- Away from zero. -/
  | up
  /-- Toward zero. -/
  | down
  /-- To the greater number. -/
  | ceiling
  /-- To the smaller number. -/
  | floor
  /-- To the nearest number, a tie away from zero. -/
  | halfUp
  /-- To the nearest number, a tie toward zero. -/
  | halfDown
  /-- To the nearest number, a tie to the even one. -/
  | halfEven
  /-- Away from zero if the last digit would be a zero or a five, and toward zero otherwise. -/
  | zeroFiveUp
  deriving DecidableEq, Repr

namespace Rounding

/-- The ways to round by their names. -/
def names : List (String × Rounding) :=
  [("ROUND_UP", up), ("ROUND_DOWN", down), ("ROUND_CEILING", ceiling), ("ROUND_FLOOR", floor),
    ("ROUND_HALF_UP", halfUp), ("ROUND_HALF_DOWN", halfDown), ("ROUND_HALF_EVEN", halfEven),
    ("ROUND_05UP", zeroFiveUp)]

/-- A quotient of sizes, rounded; the sign belongs to it. -/
def quotient (r : Rounding) (negative : Bool) (num den : Nat) : Nat :=
  let q := num / den
  let rest := num % den
  let isUp := rest ≠ 0 && match r with
    | up => true
    | down => false
    | ceiling => !negative
    | floor => negative
    | halfUp => den ≤ 2 * rest
    | halfDown => den < 2 * rest
    | halfEven => den < 2 * rest || (2 * rest = den && q % 2 = 1)
    | zeroFiveUp => q % 5 = 0
  if isUp then q + 1 else q

/-- Digits whose last place is another one, without its sign. Digits that are all far behind the place count as a
hundredth of one in it. -/
def toPlace (r : Rounding) (negative : Bool) (digits : Nat) (exponent place : Int) : Nat :=
  if place ≤ exponent then digits * Nat.pow 10 (exponent - place).toNat
  else if digits = 0 then 0
  else if Decimal.adjusted digits exponent + 2 < place then r.quotient negative 1 100
  else r.quotient negative digits (Nat.pow 10 (place - exponent).toNat)

end Rounding

namespace Decimal

/-- Why an operation is refused. -/
inductive Failure
  /-- It has no result. -/
  | invalid
  /-- It divides by zero. -/
  | division
  /-- Its result is too large. -/
  | overflow
  deriving DecidableEq, Repr

/-- The name of a failure. -/
def Failure.name : Failure → String
  | invalid => "InvalidOperation"
  | division => "DivisionByZero"
  | overflow => "Overflow"

/-- What comes of an operation. -/
abbrev Result := Except Failure Decimal

/-- The most digits that come of an operation. -/
def precision : Nat := 28

/-- The largest place of a leading digit. -/
def largest : Int := 999999

/-- The smallest place of the leading digit of a number with all its digits. -/
def smallest : Int := -999999

/-- The smallest place of a last digit. -/
def tiniest : Int := smallest - Int.ofNat precision + 1

/-- Digits rounded to so many of them, if there are more, a tie to the even number; without a sign. -/
def toCount (count digits : Nat) (exponent : Int) : Nat × Int :=
  let excess := digitCount digits - count
  if excess = 0 then (digits, exponent)
  else
    let rounded := Binary64.roundQuotient digits (Nat.pow 10 excess)
    let exponent := exponent + Int.ofNat excess
    if digitCount rounded > count then (rounded / 10, exponent + 1) else (rounded, exponent)

/-- Digits whose last place is another one, rounded to it, a tie to the even number; without a sign. -/
def toPlace (place : Int) (digits : Nat) (exponent : Int) : Nat × Int :=
  (Rounding.halfEven.toPlace false digits exponent place, place)

/-- A finite number with so many digits at most and an exponent between the bounds. -/
def finishTo (count : Nat) (r : Rounding) (negative : Bool) (digits : Nat) (exponent : Int) : Result :=
  let tiniest := smallest - Int.ofNat count + 1
  if digits = 0 then .ok (finite negative 0 (max tiniest (min exponent largest)))
  else if adjusted digits exponent > largest then .error .overflow
  else
    let fine := exponent + Int.ofNat (digitCount digits) - Int.ofNat count
    let place := max exponent (max fine tiniest)
    let rounded := r.toPlace negative digits exponent place
    let (rounded, place) :=
      if digitCount rounded > count then (rounded / 10, place + 1) else (rounded, place)
    if rounded ≠ 0 && adjusted rounded place > largest then .error .overflow
    else .ok (finite negative rounded place)

/-- A finite number as an operation can yield it. -/
def finish (r : Rounding) (negative : Bool) (digits : Nat) (exponent : Int) : Result :=
  finishTo precision r negative digits exponent

/-- A number as an operation can yield it, a tie going to the even one. -/
def settled : Decimal → Result
  | finite negative digits exponent => finish .halfEven negative digits exponent
  | infinite negative => .ok (infinite negative)
  | notANumber negative signals payload =>
    if signals then .error .invalid else .ok (notANumber negative false payload)

/-- What comes of an operation on things that are no numbers: one that signals is refused, and the first other one
is the result. -/
def undefined? (ds : List Decimal) : Option Result :=
  if ds.any fun d => d matches .notANumber _ true _ then some (.error .invalid)
  else (ds.find? isUndefined).map .ok

end Decimal

end Mapsmith
