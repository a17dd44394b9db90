import Mapsmith.Number.Arithmetic
import Mapsmith.Number.Elementary

/-!
# Powers of binary numbers

Exponentials, logarithms, arcs and powers of numbers of 64-bit binary floating point, and powers of complex
numbers. Each real function is worked out to many more digits than it is rounded to.
-/

namespace Mapsmith.Binary64

/-- The binary digits behind the point that a function is worked out to. -/
def guardPlaces : Nat := 220

/-- A number of units times a power of two as the nearest number. -/
def ofUnits (places : Nat) (units power : Int) : Binary64 :=
  let exponent := power - Int.ofNat places
  let size := Int.ofNat units.natAbs.log2 + exponent
  if units = 0 || size < -1200 then zero (units < 0)
  else if size > 1100 then .infinite (units < 0)
  else
    let (num, den) := scaled 2 units.natAbs 1 exponent
    ofFraction (units < 0) num den

/-- The exponential of a number. -/
def exp (x : Binary64) : Binary64 :=
  match x, x.fraction? with
  | .infinite negative, _ => if negative then zero false else x
  | _, none => .notANumber
  | x, some (num, den) =>
    if num.natAbs / den > 2000 then if x.isNegative then zero false else .infinite false
    else
      let (units, power) := Elementary.exp guardPlaces (Elementary.ofFraction guardPlaces num den)
      ofUnits guardPlaces units power

/-- The logarithm of a positive number. -/
def log (x : Binary64) : Binary64 :=
  match x, x.fraction? with
  | .infinite false, _ => x
  | _, some (num, den) => ofUnits guardPlaces (Elementary.log guardPlaces num.toNat den) 0
  | _, none => .notANumber

/-- The arc from the first axis to a point of the plane. -/
def arc (y x : Binary64) : Binary64 :=
  let places := guardPlaces + 1200
  let turn (num : Int) (den : Nat) : Binary64 :=
    let n := num * Elementary.pi guardPlaces
    let r := ofUnits guardPlaces (Int.fdiv n (Int.ofNat den)) 0
    if y.isNegative then r.neg else r
  match x, y with
  | .notANumber, _ | _, .notANumber => .notANumber
  | .infinite left, .infinite _ => if left then turn 3 4 else turn 1 4
  | .infinite left, _ => if left then turn 1 1 else zero y.isNegative
  | _, .infinite _ => turn 1 2
  | x, y => match x.fraction?, y.fraction? with
    | some (m, k), some (n, l) =>
      let (a, b) := (n.natAbs * k, m.natAbs * l)
      if a = 0 then if x.isNegative then turn 1 1 else zero y.isNegative
      else if b = 0 then turn 1 2
      else ofUnits places (Elementary.arc places a b y.isNegative x.isNegative) 0
    | _, _ => .notANumber

/-- The sine and the cosine of a number. -/
def sineAndCosine (x : Binary64) : Binary64 × Binary64 :=
  match x.fraction? with
  | some (num, den) =>
    if num = 0 then (x, ofInt 1)
    else
      let places := guardPlaces + (num.natAbs / den).log2 + (den.log2 - num.natAbs.log2)
      let (s, c) := Elementary.sineAndCosine places (Elementary.ofFraction places num den)
      (ofUnits places s 0, ofUnits places c 0)
  | none => (.notANumber, .notANumber)

/-- Is the number an odd integer? -/
def isOdd (x : Binary64) : Bool :=
  match x.toInt? with
  | some n => n % 2 ≠ 0
  | none => false

/-- A positive finite number to the power of a finite one. Small whole powers are worked out exactly. -/
def positivePower (x y : Binary64) : Binary64 :=
  match y.toInt?, x.fraction?, y.fraction? with
  | some n, some (num, den), _ =>
    if n.natAbs ≤ 64 then x.power n else byLogarithm num den (n, 1)
  | none, some (num, den), some y => byLogarithm num den y
  | _, _, _ => .notANumber
where
  /-- The power by the exponential of the product with the logarithm. -/
  byLogarithm (num : Int) (den : Nat) (y : Int × Nat) : Binary64 :=
    let places := guardPlaces + (y.1.natAbs / y.2).log2
    let product := Int.fdiv (Elementary.log places num.toNat den * y.1) (Int.ofNat y.2)
    let isUp := product > 0
    if product.natAbs > (Elementary.one places).toNat * 2000 then
      if isUp then .infinite false else zero false
    else
      let (units, power) := Elementary.exp places product
      ofUnits places units power

/-- What comes of a power. -/
inductive PowerResult
  /-- A number. -/
  | real (x : Binary64)
  /-- A complex number. -/
  | complex
  /-- A division by zero. -/
  | undefined
  /-- A number too large. -/
  | tooLarge
  deriving DecidableEq, Repr

/-- A number to the power of another one. One to any power is one, and so is anything to the power of zero; a
negative number to a power that is not whole is complex. -/
def realPower (x y : Binary64) : PowerResult :=
  let size := x.abs
  let isOne := size = ofInt 1
  if !y.isNonzero then .real (ofInt 1)
  else match x, y with
    | .notANumber, _ => .real x
    | x, .notANumber => .real (if x = ofInt 1 then x else y)
    | _, .infinite negative =>
      let isSmall := match size.fraction? with
        | some (num, den) => num < Int.ofNat den
        | none => false
      if isOne then .real (ofInt 1)
      else if negative = isSmall then .real (.infinite false) else .real (zero false)
    | .infinite negative, y =>
      if y.isNegative then .real (zero (negative && y.isOdd))
      else .real (.infinite (negative && y.isOdd))
    | .finite negative mantissa _, y =>
      if mantissa = 0 then
        if y.isNegative then .undefined else .real (if y.isOdd then x else zero false)
      else if negative && y.toInt?.isNone then .complex
      else
        let r := positivePower size y
        let r := if negative && y.isOdd then r.neg else r
        if r.isFinite then .real r else .tooLarge

/-! ### Complex numbers -/

/-- The product of two complex numbers. -/
def complexProduct (x y : Binary64 × Binary64) : Binary64 × Binary64 :=
  let ((a, b), (c, d)) := (x, y)
  ((a.mul c).sub (b.mul d), (a.mul d).add (b.mul c))

/-- The quotient of two complex numbers, the second of them not zero: both are divided by its larger part
first. -/
def complexQuotient (x y : Binary64 × Binary64) : Binary64 × Binary64 :=
  let ((a, b), (c, d)) := (x, y)
  let size (x : Binary64) : Int × Nat := (x.abs.fraction?).getD (Int.ofNat (Nat.pow 10 400), 1)
  if c = .notANumber || d = .notANumber then (.notANumber, .notANumber)
  else if (size d).1 * Int.ofNat (size c).2 ≤ (size c).1 * Int.ofNat (size d).2 then
    let ratio := d.div c
    let den := c.add (d.mul ratio)
    ((a.add (b.mul ratio)).div den, (b.sub (a.mul ratio)).div den)
  else
    let ratio := c.div d
    let den := (c.mul ratio).add d
    (((a.mul ratio).add b).div den, ((b.mul ratio).sub a).div den)

/-- A complex number so many times as a factor, by squares. -/
def complexSquares (r p : Binary64 × Binary64) : Nat → Nat → Binary64 × Binary64
  | 0, _ => r
  | fuel + 1, n =>
    if n = 0 then r
    else
      let r := if n % 2 = 1 then complexProduct r p else r
      complexSquares r (complexProduct p p) fuel (n / 2)

/-- What comes of a power of complex numbers. -/
inductive ComplexResult
  /-- A number. -/
  | value (z : Binary64 × Binary64)
  /-- A division by zero. -/
  | undefined
  /-- A number too large. -/
  | tooLarge
  deriving DecidableEq, Repr

/-- A complex number to the power of another one: by squares if the power is a small integer, by its distance from
the origin and its arc otherwise. -/
def complexPower (x y : Binary64 × Binary64) : ComplexResult :=
  let ((a, b), (c, d)) := (x, y)
  let settled (z : Binary64 × Binary64) : ComplexResult :=
    match z with
    | (.infinite _, _) | (_, .infinite _) => .tooLarge
    | z => .value z
  let one : Binary64 × Binary64 := (ofInt 1, zero false)
  let small := match c.toInt? with
    | some n => if !d.isNonzero && n.natAbs ≤ 100 then some n else none
    | none => none
  match small with
  | some n =>
    let r := complexSquares one x 10 n.natAbs
    if n > 0 then settled r
    else if !r.1.isNonzero && !r.2.isNonzero then .undefined
    else settled (complexQuotient one r)
  | none =>
    if !a.isNonzero && !b.isNonzero then
      if d.isNonzero || c.isNegative then .undefined else .value (zero false, zero false)
    else
      let size := distance a b
      let length := match realPower size c with
        | .real r => r
        | .tooLarge => .infinite false
        | _ => .notANumber
      let turn := arc b a
      let phase := turn.mul c
      let (length, phase) :=
        if d.isNonzero then
          let e := exp (turn.mul d)
          (if e.isNonzero then length.div e else .infinite false, phase.add (d.mul (log size)))
        else (length, phase)
      let (s, c) := sineAndCosine phase
      settled (length.mul c, length.mul s)

end Mapsmith.Binary64
