import Mapsmith.Number.Binary64

/-!
# Elementary functions

Exponentials, logarithms, arcs and angles to as many binary digits as are asked for. A number is kept as its
integer number of units `2 ^ -places`; each function is the sum of a series whose argument has been made small
before, so what it yields is off by a few units at most.
-/

namespace Mapsmith.Elementary

/-- One, in units. -/
def one (places : Nat) : Int :=
  Int.ofNat (Nat.pow 2 places)

/-- A fraction in units. -/
def ofFraction (places : Nat) (num : Int) (den : Nat) : Int :=
  Int.fdiv (num * one places) (Int.ofNat den)

/-- The product of two numbers in units. -/
def mul (places : Nat) (x y : Int) : Int :=
  Int.fdiv (x * y) (one places)

/-- The quotient of two numbers in units, the second of them not zero. -/
def div (places : Nat) (x y : Int) : Int :=
  Int.fdiv (x * one places) y

/-- The greatest integer whose square is at most a number, from an estimate that is too large, by means. -/
def rootFrom (n : Nat) : Nat → Nat → Nat
  | 0, x => x
  | fuel + 1, x =>
    let y := (x + n / x) / 2
    if y < x then rootFrom n fuel y else x

/-- The greatest integer whose square is at most a number. -/
def root (n : Nat) : Nat :=
  if n = 0 then 0 else rootFrom n (n.log2 + 10) (Nat.pow 2 (n.log2 / 2 + 1))

/-- The square root of a number in units that is not negative. -/
def squareRoot (places : Nat) (x : Int) : Int :=
  Int.ofNat (root (x.toNat * Nat.pow 2 places))

/-! ### Exponentials and logarithms -/

/-- The sum of `x ^ k / k!` from a term on, as long as the terms are not nothing. -/
def exponentialFrom (places : Nat) (x : Int) : Nat → Nat → Int → Int → Int
  | 0, _, _, sum => sum
  | fuel + 1, k, term, sum =>
    let term := Int.tdiv (x * term) (one places * Int.ofNat (k + 1))
    if term = 0 then sum else exponentialFrom places x fuel (k + 1) term (sum + term)

/-- The sum of `z ^ (2 k + 1) / (2 k + 1)` with a sign between the terms, from a power on. -/
def arcFrom (places : Nat) (square : Int) (sign : Int) : Nat → Nat → Int → Int → Int
  | 0, _, _, sum => sum
  | fuel + 1, k, power, sum =>
    let power := Int.tdiv (power * square) (one places) * sign
    if power = 0 then sum
    else arcFrom places square sign fuel (k + 2) power (sum + Int.tdiv power (Int.ofNat (k + 2)))

/-- The arc whose hyperbolic tangent is a small number in units. -/
def hyperbolicArc (places : Nat) (z : Int) : Int :=
  arcFrom places (mul places z z) 1 places 1 z z

/-- The logarithm of two. -/
def logTwo (places : Nat) : Int :=
  2 * hyperbolicArc places (ofFraction places 1 3)

/-- The logarithm of a positive fraction. -/
def log (places : Nat) (num den : Nat) : Int :=
  let e : Int := Int.ofNat num.log2 - Int.ofNat den.log2
  let (n, d) := Binary64.scaled 2 num den (-e)
  let (n, d, e) := if 3 * d < 2 * n then (n, 2 * d, e + 1) else (n, d, e)
  2 * hyperbolicArc places (ofFraction places (Int.ofNat n - Int.ofNat d) (n + d)) + e * logTwo places

/-- An exponential as a number in units between one half and two, with the power of two that it is to be
multiplied by. -/
def exp (places : Nat) (x : Int) : Int × Int :=
  let two := logTwo places
  let power := Int.fdiv (2 * x + two) (2 * two)
  (exponentialFrom places (x - power * two) (places + 10) 0 (one places) (one places), power)

/-! ### Arcs and angles -/

/-- The arc whose tangent is a number in units between zero and one. The argument is halved twice before. -/
def smallArc (places : Nat) (t : Int) : Int :=
  let halved (t : Int) : Int :=
    div places t (one places + squareRoot places (one places + mul places t t))
  let t := halved (halved t)
  4 * arcFrom places (mul places t t) (-1) places 1 t t

/-- Half of the circumference of a circle by its radius. -/
def pi (places : Nat) : Int :=
  let arc (n : Nat) : Int :=
    let t := ofFraction places 1 n
    arcFrom places (mul places t t) (-1) places 1 t t
  16 * arc 5 - 4 * arc 239

/-- The arc from the first axis to a point that is not the origin, given by the sizes of its coordinates and
whether they are negative. -/
def arc (places : Nat) (y x : Nat) (isBelow isLeft : Bool) : Int :=
  let first :=
    if y ≤ x then smallArc places (ofFraction places y x)
    else Int.fdiv (pi places) 2 - smallArc places (ofFraction places x y)
  let above := if isLeft then pi places - first else first
  if isBelow then -above else above

/-- The sum of `x ^ k / k!` over every other `k` with a sign between the terms, from a term on. -/
def waveFrom (places : Nat) (square : Int) : Nat → Nat → Int → Int → Int
  | 0, _, _, sum => sum
  | fuel + 1, k, term, sum =>
    let term := -Int.tdiv (term * square) (one places * Int.ofNat ((k + 1) * (k + 2)))
    if term = 0 then sum else waveFrom places square fuel (k + 2) term (sum + term)

/-- The sine and the cosine of an angle in units. -/
def sineAndCosine (places : Nat) (x : Int) : Int × Int :=
  let quarter := Int.fdiv (pi places) 2
  let turns := Int.fdiv (2 * x + quarter) (2 * quarter)
  let x := x - turns * quarter
  let square := mul places x x
  let s := waveFrom places square places 1 x x
  let c := waveFrom places square places 0 (one places) (one places)
  match (turns % 4).toNat with
  | 0 => (s, c)
  | 1 => (c, -s)
  | 2 => (-s, -c)
  | _ => (-c, s)

end Mapsmith.Elementary
