import Mapsmith.Number.Decimal.Rounding
import Mapsmith.Number.Elementary

/-!
# Operations on decimal numbers

Sums, products, quotients, remainders and whole powers of decimal numbers, their order, and what takes their digits
apart. What is no number makes the result none, and refuses the operation if it signals. Exponentials, logarithms
and other powers are worked out to more digits than a result has, and rounded once.
-/

namespace Mapsmith.Decimal

/-- A finite number as it is, far away from another one, is a unit in a place before which nothing of the other one
is. -/
def nearTo (lowest : Int) (digits : Nat) (exponent : Int) : Nat × Int :=
  if adjusted digits exponent < lowest - 2 then
    (if digits = 0 then 0 else 1, max (min exponent (lowest - 3)) (lowest - 3))
  else (digits, exponent)

/-- A signed number of units in a place. -/
def units (negative : Bool) (digits : Nat) (exponent place : Int) : Int :=
  let n := Int.ofNat (digits * Nat.pow 10 (exponent - place).toNat)
  if negative then -n else n

/-- The place before which nothing of a finite number is that can count in a sum. -/
def lowestPlace (digits : Nat) (exponent : Int) : Int :=
  min exponent (adjusted digits exponent - 35)

/-- The sum of two numbers, rounded in a way. -/
def addBy (r : Rounding) (x y : Decimal) : Result :=
  match undefined? [x, y], x, y with
  | some result, _, _ => result
  | none, .finite s a e, .finite t b f =>
    let (a, e) := if b = 0 then (a, e) else nearTo (lowestPlace b f) a e
    let (b, f) := if a = 0 then (b, f) else nearTo (lowestPlace a e) b f
    if a = 0 && b = 0 then finish r (if s = t then s else r = .floor) 0 (min e f)
    else if a = 0 && f - e > 100 then
      finish r t (b * Nat.pow 10 60) (f - 60)
    else if b = 0 && e - f > 100 then
      finish r s (a * Nat.pow 10 60) (e - 60)
    else
      let place := min e f
      let sum := units s a e place + units t b f place
      if sum = 0 then finish r (if s = t then s else r = .floor) 0 place
      else finish r (sum < 0) sum.natAbs place
  | none, .infinite s, .infinite t => if s = t then .ok x else .error .invalid
  | none, .infinite _, _ => .ok x
  | none, _, _ => .ok y

/-- The sum of two numbers. -/
def add (x y : Decimal) : Result :=
  addBy .halfEven x y

/-- The number with the other sign, as it is. -/
def opposite (d : Decimal) : Decimal :=
  d.withSign (!d.isNegative)

/-- The difference of two numbers. -/
def sub (x y : Decimal) : Result :=
  if y.isUndefined then add x y else add x y.opposite

/-- The number as an operation yields it. A zero has no sign. -/
def plus : Decimal → Result
  | finite s a e => finish .halfEven (s && a ≠ 0) a e
  | d => settled d

/-- The number with the other sign. A zero has no sign, and what is no number keeps its own. -/
def neg : Decimal → Result
  | finite s a e => finish .halfEven (!s && a ≠ 0) a e
  | infinite s => .ok (infinite !s)
  | d => settled d

/-- The number without its sign. -/
def abs : Decimal → Result
  | finite _ a e => finish .halfEven false a e
  | infinite _ => .ok (infinite false)
  | d => settled d

/-- The product of two numbers with so many digits at most. -/
def mulTo (count : Nat) (x y : Decimal) : Result :=
  match undefined? [x, y], x, y with
  | some result, _, _ => result
  | none, .finite s a e, .finite t b f => finishTo count .halfEven (xor s t) (a * b) (e + f)
  | none, .infinite s, .finite t b _ | none, .finite t b _, .infinite s =>
    if b = 0 then .error .invalid else .ok (infinite (xor s t))
  | none, x, y => .ok (infinite (xor x.isNegative y.isNegative))

/-- The product of two numbers. -/
def mul (x y : Decimal) : Result :=
  mulTo precision x y

/-- A number with fewer zeros at its end, as long as its last place is below one that it need not go
beyond. -/
def stripped (place : Int) : Nat → Nat × Int → Nat × Int
  | 0, d => d
  | fuel + 1, (digits, exponent) =>
    if exponent < place && digits % 10 = 0 && digits ≠ 0 then
      stripped place fuel (digits / 10, exponent + 1)
    else (digits, exponent)

/-- The quotient of two numbers with so many digits at most. -/
def divTo (count : Nat) (x y : Decimal) : Result :=
  match undefined? [x, y], x, y with
  | some result, _, _ => result
  | none, .finite s a e, .finite t b f =>
    let negative := xor s t
    if b = 0 then .error (if a = 0 then .invalid else .division)
    else if a = 0 then finishTo count .halfEven negative 0 (e - f)
    else
      let shift := digitCount b + count + 1 - digitCount a
      let num := a * Nat.pow 10 shift
      let exponent := e - f - Int.ofNat shift
      if num % b = 0 then
        let (digits, exponent) := stripped (e - f) (num / b + 1).log2 (num / b, exponent)
        finishTo count .halfEven negative digits exponent
      else
        let q := num / b
        finishTo count .halfEven negative (if q % 5 = 0 then q + 1 else q) exponent
  | none, .infinite s, .finite t .. => .ok (infinite (xor s t))
  | none, .finite s .., .infinite t =>
    finishTo count .halfEven (xor s t) 0 (smallest - Int.ofNat count + 1)
  | none, _, _ => .error .invalid

/-- The quotient of two numbers. -/
def div (x y : Decimal) : Result :=
  divTo precision x y

/-- The whole quotient of the sizes of two finite numbers, the second of them not zero, and what is left of the
first one with its place; nothing if the quotient has too many digits. -/
def wholeQuotient? (a : Nat) (e : Int) (b : Nat) (f : Int) : Option (Nat × Nat × Int) :=
  if a = 0 then some (0, 0, min e f)
  else
    let ahead := adjusted a e - adjusted b f
    if ahead > Int.ofNat precision then none
    else if ahead < -1 then
      let place := min e f
      some (0, a * Nat.pow 10 (e - place).toNat, place)
    else
      let place := min e f
      let m := a * Nat.pow 10 (e - place).toNat
      let n := b * Nat.pow 10 (f - place).toNat
      if digitCount (m / n) > precision then none else some (m / n, m % n, place)

/-- The whole quotient of two numbers. -/
def wholeDiv (x y : Decimal) : Result :=
  match undefined? [x, y], x, y with
  | some result, _, _ => result
  | none, .finite s a e, .finite t b f =>
    if b = 0 then .error (if a = 0 then .invalid else .division)
    else match wholeQuotient? a e b f with
      | some (q, _, _) => .ok (finite (xor s t) q 0)
      | none => .error .invalid
  | none, .infinite s, .finite t .. => .ok (infinite (xor s t))
  | none, .finite s .., .infinite t => .ok (finite (xor s t) 0 0)
  | none, _, _ => .error .invalid

/-- What the whole quotient leaves of the first number. -/
def remainder (x y : Decimal) : Result :=
  match undefined? [x, y], x, y with
  | some result, _, _ => result
  | none, .finite s a e, .finite _ b f =>
    if b = 0 then .error .invalid
    else match wholeQuotient? a e b f with
      | some (_, rest, place) => finish .halfEven s rest place
      | none => .error .invalid
  | none, .finite s a e, .infinite _ => finish .halfEven s a e
  | none, _, _ => .error .invalid

/-- What the nearest integer to the quotient, a tie being the even one, leaves of the first number. -/
def nearRemainder (x y : Decimal) : Result :=
  match undefined? [x, y], x, y with
  | some result, _, _ => result
  | none, .finite s a e, .finite _ b f =>
    if b = 0 then .error .invalid
    else match wholeQuotient? a e b f with
      | some (q, rest, place) =>
        let (n, place) := if place ≤ f then (b * Nat.pow 10 (f - place).toNat, place) else (0, place)
        if n = 0 then
          -- the second number is far larger, or has places of its own
          let low := min place f
          let rest := rest * Nat.pow 10 (place - low).toNat
          let n := b * Nat.pow 10 (f - low).toNat
          if 2 * rest > n || (2 * rest = n && q % 2 = 1) then finish .halfEven (!s) (n - rest) low
          else finish .halfEven s rest low
        else if 2 * rest > n || (2 * rest = n && q % 2 = 1) then
          if digitCount (q + 1) > precision then .error .invalid
          else finish .halfEven (!s) (n - rest) place
        else finish .halfEven s rest place
      | none => .error .invalid
  | none, .finite s a e, .infinite _ => finish .halfEven s a e
  | none, _, _ => .error .invalid

/-- The first number times the second one, and the third one added. -/
def mulAdd (x y z : Decimal) : Result :=
  match undefined? [x, y], x, y with
  | some result, _, _ => match undefined? [x, y, z] with
    | some (.error e) => .error e
    | _ => result
  | none, .finite s a e, .finite t b f => add (.finite (xor s t) (a * b) (e + f)) z
  | none, x, y => do
    let product ← mul x y
    add product z

/-! ### Whole powers -/

/-- Is the number an integer? -/
def isWhole : Decimal → Bool
  | finite _ a e =>
    a = 0 || 0 ≤ e || (Int.ofNat (digitCount a) > -e && a % Nat.pow 10 (-e).toNat = 0)
  | _ => false

/-- The size of a number that is an integer. -/
def wholeSize : Decimal → Nat
  | finite _ a e => if 0 ≤ e then a * Nat.pow 10 e.toNat else a / Nat.pow 10 (-e).toNat
  | _ => 0

/-- A number to the power that binary digits tell, the first of them being done. -/
def powerFrom (count : Nat) (base : Decimal) : List Bool → Decimal → Result
  | [], d => .ok d
  | bit :: bits, d => do
    let d ← mulTo count d d
    let d ← if bit then mulTo count d base else .ok d
    powerFrom count base bits d

/-- The binary digits of a number, the first one at the end. -/
def bitsOf : Nat → Nat → List Bool
  | 0, _ => []
  | fuel + 1, n => if n = 0 then [] else (n % 2 = 1) :: bitsOf fuel (n / 2)

/-- A number that is neither zero nor infinite to the power of a whole number. -/
def wholePower (x y : Decimal) : Result :=
  let isNegative := x.isNegative && (y.wholeSize % 2 = 1)
  match y with
  | .finite isDown digits exponent => do
    let count := precision + (Int.ofNat (digitCount digits) + exponent + 2).toNat + if isDown then 1 else 0
    let base ← if isDown then divTo count (ofInt 1) x else .ok x
    let base := base.withSign false
    match (bitsOf (y.wholeSize.log2 + 1) y.wholeSize).reverse with
    | _ :: bits =>
      match ← powerFrom count base bits base with
      | .finite _ a e => finish .halfEven isNegative a e
      | d => .ok d
    | [] => .ok (ofInt 1)
  | _ => .error .invalid

/-! ### Order -/

/-- The order of the sizes of two finite numbers. -/
def compareSizes (a : Nat) (e : Int) (b : Nat) (f : Int) : Ordering :=
  if a = 0 || b = 0 then compare a b |>.then .eq
  else match compare (adjusted a e) (adjusted b f) with
    | .eq =>
      let place := min e f
      compare (a * Nat.pow 10 (e - place).toNat) (b * Nat.pow 10 (f - place).toNat)
    | order => order

/-- The order of two values that are numbers. -/
def order (x y : Decimal) : Ordering :=
  match x, y with
  | .infinite s, .infinite t => if s = t then .eq else if s then .lt else .gt
  | .infinite s, _ => if s then .lt else .gt
  | _, .infinite t => if t then .gt else .lt
  | .finite s a e, .finite t b f =>
    if a = 0 && b = 0 then .eq
    else if a = 0 then if t then .gt else .lt
    else if b = 0 then if s then .lt else .gt
    else if s ≠ t then if s then .lt else .gt
    else if s then (compareSizes a e b f).swap else compareSizes a e b f
  | _, _ => .eq

/-- An order as a number. -/
def ofOrder : Ordering → Decimal
  | .lt => ofInt (-1)
  | .eq => ofInt 0
  | .gt => ofInt 1

/-- How two numbers compare, as a number. -/
def compareTo (x y : Decimal) : Result :=
  (undefined? [x, y]).getD (.ok (ofOrder (order x y)))

/-- How two numbers compare if both are numbers. -/
def compareSignal (x y : Decimal) : Result :=
  if x.isUndefined || y.isUndefined then .error .invalid else .ok (ofOrder (order x y))

/-- The order of sizes in which no two different values are the same: those that are no numbers come last, those
that signal before the others, and of two equal numbers the one with the smaller exponent. -/
def totalSize (x y : Decimal) : Ordering :=
  match x, y with
  | .notANumber _ s p, .notANumber _ t q =>
    if s = t then compare p q else if s then .lt else .gt
  | .notANumber .., _ => .gt
  | _, .notANumber .. => .lt
  | .finite _ a e, .finite _ b f =>
    (order (.finite false a e) (.finite false b f)).then (compare e f)
  | x, y => order (x.withSign false) (y.withSign false)

/-- The order in which no two different values are the same. -/
def total (x y : Decimal) : Ordering :=
  if x.isNegative ≠ y.isNegative then if x.isNegative then .lt else .gt
  else if x.isNegative then (totalSize x y).swap else totalSize x y

/-- The one of two numbers that comes first in an order, or last; a number wins against what is none. -/
def selected (byOrder : Decimal → Decimal → Ordering) (isLast : Bool) (x y : Decimal) : Result :=
  let isQuiet (d : Decimal) : Bool := d matches .notANumber _ false _
  if isQuiet x && !y.isUndefined then settled y
  else if isQuiet y && !x.isUndefined then settled x
  else match undefined? [x, y] with
    | some result => result
    | none =>
      let order := (byOrder x y).then (total x y)
      settled (if (order = .lt) = isLast then y else x)

/-- The order of two numbers without their signs. -/
def sizeOrder (x y : Decimal) : Ordering :=
  order (x.withSign false) (y.withSign false)

/-! ### Places and digits -/

/-- A finite number rounded to a place; no number of its digits is too large. -/
def atPlace (r : Rounding) (place : Int) : Decimal → Decimal
  | finite s a e => if place ≤ e then finite s a e else finite s (r.toPlace s a e place) place
  | d => d

/-- The integer nearest to a number in a way. -/
def toWhole (r : Rounding) (d : Decimal) : Result :=
  (undefined? [d]).getD (.ok (atPlace r 0 d))

/-- The number with the exponent of another one. -/
def quantized (r : Rounding) (x y : Decimal) : Result :=
  match undefined? [x, y], x, y with
  | some result, _, _ => result
  | none, .finite s a e, .finite _ _ f =>
    if f > largest || f < tiniest then .error .invalid
    else if a ≠ 0 && adjusted a e - f > Int.ofNat precision then .error .invalid
    else
      let digits := r.toPlace s a e f
      if digitCount digits > precision || (digits ≠ 0 && adjusted digits f > largest) then .error .invalid
      else .ok (finite s digits f)
  | none, .infinite _, .infinite _ => .ok x
  | none, _, _ => .error .invalid

/-- The number without zeros at its end. -/
def normalized (d : Decimal) : Result := do
  match ← settled d with
  | .finite s a e =>
    if a = 0 then .ok (finite s 0 0)
    else
      let (a, e) := stripped largest (digitCount a) (a, e)
      .ok (finite s a e)
  | d => .ok d

/-- The square root of a number. -/
def squareRoot (d : Decimal) : Result :=
  match undefined? [d], d with
  | some result, _ => result
  | none, .finite s a e =>
    if a = 0 then finish .halfEven s 0 (Int.fdiv e 2)
    else if s then .error .invalid
    else
      let ideal := Int.fdiv e 2
      let (a, e) := if e % 2 = 0 then (a, e) else (a * 10, e - 1)
      let more := (2 * precision + 4 - digitCount a + 1) / 2
      let n := a * Nat.pow 100 more
      let low := Elementary.root n
      let exponent := e / 2 - Int.ofNat more
      if low * low = n then
        let (digits, exponent) := stripped ideal (digitCount low) (low, exponent)
        finish .halfEven false digits exponent
      else finish .halfEven false (if low % 5 = 0 then low + 1 else low) exponent
  | none, .infinite s => if s then .error .invalid else .ok d
  | none, d => .ok d

/-- The next greater number, or the next smaller one. -/
def next (isUp : Bool) (d : Decimal) : Result :=
  let r : Rounding := if isUp then .ceiling else .floor
  match undefined? [d], d with
  | some result, _ => result
  | none, .infinite s =>
    if s = isUp then .ok (finite s (Nat.pow 10 precision - 1) (largest - Int.ofNat precision + 1)) else .ok d
  | none, .finite s a e =>
    let away (x : Result) : Result := match x with
      | .error .overflow => .ok (if s = isUp
          then finite s (Nat.pow 10 precision - 1) (largest - Int.ofNat precision + 1) else infinite s)
      | x => x
    away do
      let rounded ← finish r s a e
      if order rounded d = .eq then addBy r rounded (finite (!isUp) 1 (tiniest - 1)) else .ok rounded
  | none, d => .ok d

/-- The next number in the direction of another one. -/
def nextToward (x y : Decimal) : Result :=
  match undefined? [x, y] with
  | some result => result
  | none => match order x y with
    | .lt => next true x
    | .gt => next false x
    | .eq => .ok (x.withSign y.isNegative)

/-- The place of the leading digit. -/
def logPlace (d : Decimal) : Result :=
  match undefined? [d], d with
  | some result, _ => result
  | none, .finite _ a e => if a = 0 then .error .division else .ok (ofInt (adjusted a e))
  | none, _ => .ok (infinite false)

/-- The integer that a number is, if its last place is that of units. -/
def count? : Decimal → Option Int
  | finite s a 0 => some (if s then -Int.ofNat a else Int.ofNat a)
  | _ => none

/-- The number with its exponent made greater. -/
def scaled (x y : Decimal) : Result :=
  match undefined? [x, y], x, y.count? with
  | some result, _, _ => result
  | none, x, some n =>
    if n.natAbs > 2 * (largest.natAbs + precision) then .error .invalid
    else match x with
      | .finite s a e => finish .halfEven s a (e + n)
      | x => .ok x
  | none, _, none => .error .invalid

/-- The digits of a number moved by places, those that come out of the precision being lost or coming in again on
the other side. -/
def moved (isAround : Bool) (x y : Decimal) : Result :=
  match undefined? [x, y], x, y.count? with
  | some result, _, _ => result
  | none, x, some n =>
    if n.natAbs > precision then .error .invalid
    else match x with
      | .finite s a e =>
        let all := Nat.pow 10 precision
        let a := a % all
        let up := Nat.pow 10 n.natAbs
        let back := Nat.pow 10 (precision - n.natAbs)
        let digits :=
          if 0 ≤ n then (a * up) % all + if isAround then a / back else 0
          else a / up + if isAround then (a % up) * back else 0
        .ok (finite s digits e)
      | x => .ok x
  | none, _, none => .error .invalid

/-- The digits of a number that is made of zeros and ones, the last one first. -/
def bits? : Decimal → Option (List Bool)
  | finite false a 0 =>
    let ds := (digitsOf a).reverse
    if ds.length ≤ precision && ds.all fun c => c = '0' || c = '1' then some (ds.map (· = '1')) else none
  | _ => none

/-- A number that is made of zeros and ones, the last one first. -/
def ofBits (bits : List Bool) : Decimal :=
  finite false (bits.foldr (fun b n => 10 * n + if b then 1 else 0) 0) 0

/-- An operation between the digits of two numbers that are made of zeros and ones. -/
def bitwise (f : Bool → Bool → Bool) (x y : Decimal) : Result :=
  match x.bits?, y.bits? with
  | some xs, some ys =>
    .ok (ofBits ((List.range precision).map fun i => f (xs.getD i false) (ys.getD i false)))
  | _, _ => .error .invalid

/-- Do two numbers have the same exponent, or are they of one other kind? -/
def sameQuantum (x y : Decimal) : Bool :=
  match x, y with
  | .finite _ _ e, .finite _ _ f => e = f
  | .infinite _, .infinite _ | .notANumber .., .notANumber .. => true
  | _, _ => false

/-- Has a number all its digits? -/
def isNormal : Decimal → Bool
  | finite _ a e => a ≠ 0 && smallest ≤ adjusted a e
  | _ => false

/-- The kind of a number in words. -/
def kind (d : Decimal) : String :=
  match d with
  | .notANumber _ signals _ => if signals then "sNaN" else "NaN"
  | d => (if d.isNegative then "-" else "+") ++ match d with
    | .finite _ a _ => if a = 0 then "Zero" else if d.isNormal then "Normal" else "Subnormal"
    | _ => "Infinity"

/-! ### Exponentials, logarithms and other powers -/

/-- A positive fraction times a power of ten, with as many digits as a result has. -/
def ofRatio (num den : Nat) (power : Int) : Result :=
  let place := Int.ofNat (digitCount num) - Int.ofNat (digitCount den) - 33
  let (n, d) := Binary64.scaled 10 num den (-place)
  let q := n / d
  let q := if n % d = 0 then 10 * q else 10 * q + 1
  finish .halfEven false q (place - 1 + power)

/-- The binary digits behind the point that a function of a number is worked out to. -/
def placesFor (digits : Nat) : Nat :=
  300 + 4 * digitCount digits

/-- The logarithm of a positive number, in units. -/
def logUnits (places : Nat) (digits : Nat) (exponent : Int) : Int :=
  Elementary.log places digits 1 + exponent * Elementary.log places 10 1

/-- A signed number of units as a number. -/
def ofUnits (places : Nat) (units : Int) : Result := do
  let size ← ofRatio units.natAbs (Nat.pow 2 places) 0
  return size.withSign (units < 0)

/-- The exponential of a number of units. -/
def expUnits (places : Nat) (x : Int) : Result :=
  let ten := Elementary.log places 10 1
  let power := Int.fdiv x ten
  if power > largest + 10 then .error .overflow
  else if power < tiniest - 10 then .ok (finite false 0 tiniest)
  else
    let (units, two) := Elementary.exp places (x - power * ten)
    let (num, den) := Binary64.scaled 2 units.toNat (Nat.pow 2 places) two
    ofRatio num den power

/-- The exponential of a number. -/
def exp (d : Decimal) : Result :=
  match undefined? [d], d with
  | some result, _ => result
  | none, .infinite s => .ok (if s then ofInt 0 else d)
  | none, .finite s a e =>
    if a = 0 then .ok (ofInt 1)
    else if adjusted a e > 8 then if s then .ok (finite false 0 tiniest) else .error .overflow
    else if adjusted a e < -40 then ofRatio 1 1 0
    else
      let places := placesFor a
      let (num, den) := Binary64.scaled 10 a 1 e
      expUnits places (Elementary.ofFraction places (if s then -Int.ofNat num else Int.ofNat num) den)
  | none, d => .ok d

/-- The logarithm of a number in a way, given the logarithm of its positive size. -/
def logBy (f : Nat → Int → Result) (d : Decimal) : Result :=
  match undefined? [d], d with
  | some result, _ => result
  | none, .infinite s => if s then .error .invalid else .ok d
  | none, .finite s a e =>
    if a = 0 then .ok (infinite true)
    else if s then .error .invalid
    else if order d (ofInt 1) = .eq then .ok (ofInt 0)
    else f a e
  | none, d => .ok d

/-- The natural logarithm of a number. -/
def ln : Decimal → Result :=
  logBy fun a e => ofUnits (placesFor a) (logUnits (placesFor a) a e)

/-- The logarithm of a number to the base of ten. That of a power of ten is an integer. -/
def log10 : Decimal → Result :=
  logBy fun a e =>
    if a = Nat.pow 10 (digitCount a - 1) then .ok (ofInt (adjusted a e))
    else
      let places := placesFor a
      ofUnits places (Elementary.div places (logUnits places a e) (Elementary.log places 10 1))

/-- One with so many places, but no more than a result has. -/
def oneWith (places : Nat) : Decimal :=
  let n := min places (precision - 1)
  finite false (Nat.pow 10 n) (-Int.ofNat n)

/-- The power of a number that is one in size. -/
def powerOfOne (isNegative : Bool) (exponent : Int) (y : Decimal) : Decimal :=
  (if y.isWhole then
    if y.isNegative then ofInt 1
    else match y with
      | .finite _ digits places =>
        if exponent ≥ 0 then ofInt 1
        else if digits ≠ 0 && adjusted digits places > 30 then oneWith 100
        else oneWith (y.wholeSize * exponent.natAbs)
      | _ => oneWith 100
  else oneWith 100).withSign isNegative

/-- The power of a number that is neither one in size nor infinite nor zero, to an infinite number. -/
def powerToInfinite (x : Decimal) (isDown : Bool) : Decimal :=
  if (sizeOrder x (ofInt 1) = .gt) = isDown then ofInt 0 else infinite false

/-- A number to the power of another one. -/
def power (x y : Decimal) : Result :=
  match undefined? [x, y] with
  | some result => result
  | none =>
    let isWhole := y.isWhole
    let isZero (d : Decimal) : Bool := !d.isNonzero
    let isOdd := isWhole && match y with
      | .finite _ _ e => e ≤ 0 && y.wholeSize % 2 = 1
      | _ => false
    let isNegative := x.isNegative && isOdd
    let isDown := y.isNegative
    if isZero x then
      if isZero y then .error .invalid
      else if isDown then .ok (infinite isNegative) else .ok (finite isNegative 0 0)
    else if x.isNegative && !isWhole then .error .invalid
    else match x, y with
      | x, .infinite s =>
        if sizeOrder x (ofInt 1) = .eq then .ok (oneWith 100)
        else .ok (powerToInfinite x s)
      | .infinite _, y =>
        if isZero y then .ok (ofInt 1)
        else if isDown then .ok (finite isNegative 0 0) else .ok (infinite isNegative)
      | .finite _ a e, .finite t b f =>
        if b = 0 then .ok (ofInt 1)
        else if sizeOrder x (ofInt 1) = .eq then .ok (powerOfOne isNegative e y)
        else if adjusted b f > 32 then
          if (sizeOrder x (ofInt 1) = .gt) = t then .ok (finite isNegative 0 tiniest) else .error .overflow
        else if isWhole then wholePower x y
        else
          let places := placesFor a + placesFor b
          let (num, den) := Binary64.scaled 10 b 1 f
          let product := Int.fdiv (logUnits places a e * Int.ofNat num) (Int.ofNat den)
          expUnits places (if t then -product else product)
      | _, _ => .error .invalid

end Mapsmith.Decimal
