import Mapsmith.Number.Decimal.Operation
import Mapsmith.Number.Power
import Mapsmith.Program.Evaluator

/-!
# Arithmetic

What operators between numbers yield. There are integers, binary numbers, complex ones, fractions and decimals;
two numbers of different kinds are worked with in the wider kind, but decimals go with integers alone. A
number that is not whole is worked with exactly and rounded at the end. What does not go together is
refused, and so is a division by zero.
-/

namespace Mapsmith.Program

/-- What comes of an operator between two things. -/
inductive Outcome
  /-- An object. -/
  | value (o : Object)
  /-- A fault. -/
  | failed (e : Fault)
  /-- The things do not go together. -/
  | unsupported
  deriving Inhabited

/-- A number of one of the kinds. -/
inductive Number
  /-- An integer. -/
  | int (n : Int)
  /-- A binary number. -/
  | real (x : Binary64)
  /-- A complex number. -/
  | complex (re im : Binary64)
  /-- A fraction. -/
  | fraction (num : Int) (den : Nat)
  /-- A decimal number. -/
  | decimal (d : Decimal)
  deriving Repr, Inhabited

namespace Outcome

/-- An integer. -/
def int (n : Int) : Outcome :=
  value (.constant (.int n))

/-- A binary number. -/
def real (x : Binary64) : Outcome :=
  value (.constant (.float x))

/-- A value of a class of the library. -/
def datum (d : Datum) : Outcome :=
  value (.datum d)

/-- A division by zero. -/
def undefined : Outcome :=
  failed .divisionByZero

/-- A number too large. -/
def overflow : Outcome :=
  failed (.failure "OverflowError")

/-- What comes of a decimal operation. -/
def decimal (r : Decimal.Result) : Outcome :=
  match r with
  | .ok d => datum (.decimal d)
  | .error f => failed (.raised ⟨"decimal", f.name⟩)

/-- A complex number, if it can be told. -/
def ofComplexPower (r : Binary64.ComplexResult) : Outcome :=
  match r with
  | .value (re, im) => datum (.complex re im)
  | .undefined => undefined
  | .tooLarge => overflow

/-- The most binary digits that a power or a shift may have. -/
def maxBits : Nat := 100000

/-- A binary number that finite ones have led to. -/
def finite (x : Binary64) : Outcome :=
  if x.isFinite then real x else overflow

end Outcome

namespace Number

/-- The number that an object is, if it is one. -/
def of? : Object → Option Number
  | .constant (.bool b) => some (int (if b then 1 else 0))
  | .constant (.int n) => some (int n)
  | .constant (.float x) => some (real x)
  | .datum (.complex re im) => some (complex re im)
  | .datum (.fraction num den) => some (fraction num den)
  | .datum (.decimal d) => some (decimal d)
  | _ => none

/-- A number as a binary one. -/
def real? : Number → Option Binary64
  | int n => some (.ofInt n)
  | real x => some x
  | fraction num den => some (.nearest num den)
  | complex .. | decimal _ => none

/-- A number as a complex one. -/
def complex? : Number → Option (Binary64 × Binary64)
  | complex re im => some (re, im)
  | n => n.real?.map (·, .zero false)

/-- A number as a fraction, unless it is a binary or a complex one. -/
def asFraction? : Number → Option (Int × Nat)
  | int n => some (n, 1)
  | fraction num den => some (num, den)
  | _ => none

/-- A number as a decimal one. -/
def decimal? : Number → Option Decimal
  | int n => some (.ofInt n)
  | decimal d => some d
  | _ => none

/-! ### Integers -/

/-- What has a binary digit where a condition on those of two integers holds. -/
def bitwise (f : Bool → Bool → Bool) (a b : Int) : Int :=
  let width := Nat.log2 a.natAbs + Nat.log2 b.natAbs + 2
  let digit (n : Int) (i : Nat) : Bool := Int.fmod (Int.fdiv n (Int.ofNat (Nat.pow 2 i))) 2 = 1
  let low := (List.range width).foldl
    (fun n i => if f (digit a i) (digit b i) then n + Nat.pow 2 i else n) 0
  if f (a < 0) (b < 0) then Int.ofNat low - Int.ofNat (Nat.pow 2 width) else Int.ofNat low

/-- An integer to the power of another one. -/
def power (a b : Int) : Outcome :=
  if (Nat.log2 a.natAbs + 1) * b.natAbs > Outcome.maxBits && a.natAbs > 1 then .unsupported
  else if 0 ≤ b then .int (if a.natAbs ≤ 1 then (if b % 2 = 0 then a * a else a) else Int.pow a b.toNat)
  else if a = 0 then .undefined
  else .real ((Binary64.ofInt a).power b)

/-- An operator between two integers. -/
def ofIntegers (operator : String) (a b : Int) : Outcome :=
  if operator = "+" then .int (a + b)
  else if operator = "-" then .int (a - b)
  else if operator = "*" then .int (a * b)
  else if operator = "//" then if b = 0 then .undefined else .int (Int.fdiv a b)
  else if operator = "%" then if b = 0 then .undefined else .int (Int.fmod a b)
  else if operator = "/" then
    if b = 0 then .undefined else .finite (.nearest (if b < 0 then -a else a) b.natAbs)
  else if operator = "**" then
    if b = 0 then .int 1 else power a b
  else if operator = "<<" then
    if b < 0 then .failed .badValue
    else if b.toNat > Outcome.maxBits then .unsupported
    else .int (a * Int.ofNat (Nat.pow 2 b.toNat))
  else if operator = ">>" then
    if b < 0 then .failed .badValue
    else if b.toNat > Outcome.maxBits then .int (if a < 0 then -1 else 0)
    else .int (Int.fdiv a (Int.ofNat (Nat.pow 2 b.toNat)))
  else if operator = "&" then .int (bitwise (· && ·) a b)
  else if operator = "|" then .int (bitwise (· || ·) a b)
  else if operator = "^" then .int (bitwise xor a b)
  else .unsupported

/-- An operator between two truth values: those on binary digits yield a truth value. -/
def ofTruths (operator : String) (a b : Bool) : Outcome :=
  let truth (b : Bool) : Outcome := .value (.constant (.bool b))
  if operator = "&" then truth (a && b)
  else if operator = "|" then truth (a || b)
  else if operator = "^" then truth (xor a b)
  else ofIntegers operator (if a then 1 else 0) (if b then 1 else 0)

/-! ### Binary numbers -/

/-- A binary number to the power of another one. -/
def realPower (x y : Binary64) : Outcome :=
  match x.realPower y with
  | .real r => .real r
  | .complex => .ofComplexPower (Binary64.complexPower (x, .zero false) (y, .zero false))
  | .undefined => .undefined
  | .tooLarge => .overflow

/-- An operator between two binary numbers. -/
def ofReals (operator : String) (x y : Binary64) : Outcome :=
  let nonzero (z : Binary64) : Outcome := if y.isNonzero then .real z else .undefined
  if operator = "+" then .real (x.add y)
  else if operator = "-" then .real (x.sub y)
  else if operator = "*" then .real (x.mul y)
  else if operator = "/" then nonzero (x.div y)
  else if operator = "//" then nonzero (x.floorDiv y)
  else if operator = "%" then nonzero (x.modulo y)
  else if operator = "**" then realPower x y
  else .unsupported

/-- An operator between two complex numbers. -/
def ofComplex (operator : String) (x y : Binary64 × Binary64) : Outcome :=
  let ((a, b), (c, d)) := (x, y)
  let result (z : Binary64 × Binary64) : Outcome := .datum (.complex z.1 z.2)
  if operator = "+" then result (a.add c, b.add d)
  else if operator = "-" then result (a.sub c, b.sub d)
  else if operator = "*" then result (Binary64.complexProduct x y)
  else if operator = "/" then
    if c.isNonzero || d.isNonzero then result (Binary64.complexQuotient x y) else .undefined
  else if operator = "**" then .ofComplexPower (Binary64.complexPower x y)
  else .unsupported

/-! ### Fractions and decimals -/

/-- A fraction with a sign in either part. -/
def quotient (num den : Int) : Outcome :=
  if den = 0 then .undefined
  else .datum (.ofFraction (if den < 0 then -num else num) den.natAbs)

/-- An operator between two fractions. -/
def ofFractions (operator : String) (a b : Int × Nat) : Outcome :=
  let ((m, k), (n, l)) := (a, b)
  let whole := Int.fdiv (m * Int.ofNat l) (n * Int.ofNat k)
  let result (num : Int) (den : Nat) : Outcome := .datum (.ofFraction num den)
  if operator = "+" then result (m * Int.ofNat l + n * Int.ofNat k) (k * l)
  else if operator = "-" then result (m * Int.ofNat l - n * Int.ofNat k) (k * l)
  else if operator = "*" then result (m * n) (k * l)
  else if operator = "/" then quotient (m * Int.ofNat l) (n * Int.ofNat k)
  else if operator = "//" then if n = 0 then .undefined else .int whole
  else if operator = "%" then
    if n = 0 then .undefined
    else result (m * Int.ofNat l - whole * (n * Int.ofNat k)) (k * l)
  else if operator = "**" then
    if l ≠ 1 then realPower (.nearest m k) (.nearest n l)
    else if n.natAbs > Outcome.maxBits then .unsupported
    else if 0 ≤ n then result (Int.pow m n.toNat) (Nat.pow k n.toNat)
    else quotient (Int.ofNat (Nat.pow k n.natAbs)) (Int.pow m n.natAbs)
  else .unsupported

/-- An operator between two decimals. -/
def ofDecimals (operator : String) (x y : Decimal) : Outcome :=
  match operator with
  | "+" => .decimal (x.add y)
  | "-" => .decimal (x.sub y)
  | "*" => .decimal (x.mul y)
  | "/" => .decimal (x.div y)
  | "//" => .decimal (x.wholeDiv y)
  | "%" => .decimal (x.remainder y)
  | "**" => .decimal (x.power y)
  | _ => .unsupported

/-! ### All kinds -/

/-- Is the number an integer too large for a binary number? -/
def isTooLarge : Number → Bool
  | int n => !(Binary64.ofInt n).isFinite
  | fraction num den => !(Binary64.nearest num den).isFinite
  | _ => false

/-- An operator between two numbers. -/
def operated (operator : String) (a b : Number) : Outcome :=
  match a, b with
  | .int m, .int n => ofIntegers operator m n
  | .int m, .fraction n 1 =>
    if operator = "**" && 0 ≤ n then ofIntegers operator m n else ofFractions operator (m, 1) (n, 1)
  | .decimal _, _ | _, .decimal _ => match a.decimal?, b.decimal? with
    | some x, some y => ofDecimals operator x y
    | _, _ => .unsupported
  | .complex .., _ | _, .complex .. => match a.complex?, b.complex? with
    | some x, some y => if a.isTooLarge || b.isTooLarge then .overflow else ofComplex operator x y
    | _, _ => .unsupported
  | a, b => match a.asFraction?, b.asFraction? with
    | some x, some y => ofFractions operator x y
    | _, _ => match a.real?, b.real? with
      | some x, some y => if a.isTooLarge || b.isTooLarge then .overflow else ofReals operator x y
      | _, _ => .unsupported

/-! ### Order -/

/-- Where a number stands, if it can stand on the line. -/
def standing? : Number → Option Standing
  | int n => some (.at n 1)
  | real x => some (.ofReal x)
  | complex .. => none
  | fraction num den => some (.at num den)
  | decimal d => some (.ofDecimal d)

end Number

end Mapsmith.Program
