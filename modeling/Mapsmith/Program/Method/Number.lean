import Mapsmith.Program.Method.Collection

/-!
# What can be called on numbers

The methods of integers, binary numbers, complex ones, fractions and decimals: their digits, their parts, the
fractions that they are, and numbers near them.
-/

namespace Mapsmith.Program

namespace Run

/-- A row of two integers without a common divisor. -/
def ratio (num : Int) (den : Nat) : Object :=
  let divisor := max 1 (Nat.gcd num.natAbs den)
  .row [intOf (Int.tdiv num divisor), intOf (Int.ofNat (den / divisor))]

/-! ### Numbers near others -/

/-- A binary number with so many digits behind the point. -/
def roundedReal (x : Binary64) (places : Int) : Run Object := do
  match x.fraction? with
  | none => return floatOf x
  | some (num, den) =>
    let negative := match x with
      | .finite negative .. => negative
      | _ => false
    if places > 323 then return floatOf x
    if places < -308 then return floatOf (.zero negative)
    let unit := Nat.pow 10 places.natAbs
    let (num, den) := if places ≥ 0 then (num * Int.ofNat unit, den) else (num, den * unit)
    let n := Outcome.nearestInt num den
    if n = 0 then return floatOf (.zero negative)
    let y := if places ≥ 0 then Binary64.nearest n unit else .nearest (n * Int.ofNat unit) 1
    if y.isFinite then return floatOf y else fail "OverflowError"

/-- A number near another one, with so many digits behind the point, or else the integer near it. -/
def roundedNumber (o : Object) (places : Option Object) : Run Object := do
  let m ← get
  let count ← (places.filter (!·.same .none)).mapM integer
  let unit (k : Int) : Nat := Nat.pow 10 k.natAbs
  match m.plain o, count with
  | .constant (.float x), count => match x.fraction?, count with
    | some (num, den), none => return intOf (Outcome.nearestInt num den)
    | none, none => return intOf (← integerOf o)
    | _, some k => roundedReal x k
  | .datum (.fraction num den), none => return intOf (Outcome.nearestInt num den)
  | .datum (.fraction num den), some k =>
    if k ≥ 0 then fractionOf (Outcome.nearestInt (num * Int.ofNat (unit k)) den) (Int.ofNat (unit k))
    else fractionOf (Outcome.nearestInt num (den * unit k) * Int.ofNat (unit k)) 1
  | .datum (.decimal d), none => match d.fraction? with
    | some (num, den) => return intOf (Outcome.nearestInt num den)
    | none => return intOf (← integerOf o)
  | .datum (.decimal d), some k =>
    return decimalObject (← decimalResult (Decimal.quantized .halfEven d (.finite false 1 (-k))))
  | p, count => match Outcome.count? p, count with
    | some n, none => return intOf n
    | some n, some k =>
      if k ≥ 0 then return intOf n
      if -k > 40000 then return intOf 0
      return intOf (Outcome.nearestInt n (unit k) * Int.ofNat (unit k))
    | none, _ => refuse (.other ("type " ++ m.typeName o ++ " doesn't define __round__ method"))

/-- What an object says of itself when it is asked for what is near it, or the number near it. -/
def rounded (ev : Evaluator) (o : Object) (places : Option Object) : Run Object := do
  match ← said? ev o "__round__" places.toList with
  | some answer => return answer
  | none => roundedNumber o places

/-- The greatest integer that is not above a number. -/
def floorOf (o : Object) : Run Object := do
  match (Number.of? ((← get).plain o)).bind fun x => match x with
    | .real x => x.fraction?
    | .decimal d => d.fraction?
    | x => x.asFraction? with
  | some (num, den) => return intOf (Int.fdiv num den)
  | none => return intOf (← integerOf o)

/-- The smallest integer that is not below a number. -/
def ceilingOf (o : Object) : Run Object := do
  match (Number.of? ((← get).plain o)).bind fun x => match x with
    | .real x => x.fraction?
    | .decimal d => d.fraction?
    | x => x.asFraction? with
  | some (num, den) => return intOf (-Int.fdiv (-num) den)
  | none => return intOf (← integerOf o)

/-! ### Integers -/

/-- The bytes of an integer, the most important one first. -/
def bytesOfInt (n : Int) (count : Nat) (isSigned : Bool) : Run (List Nat) := do
  let limit := Int.ofNat (Nat.pow 256 count)
  let isGood := if isSigned then -limit ≤ 2 * n && 2 * n < limit else 0 ≤ n && n < limit
  if !isGood then fail "OverflowError"
  let n := (if n < 0 then n + limit else n).toNat
  return (List.range count).map fun i => n / Nat.pow 256 (count - 1 - i) % 256

/-- The integer of bytes, the most important one first. -/
def intOfBytes (values : List Nat) (isSigned : Bool) : Int :=
  let n := Int.ofNat (values.foldl (fun n v => 256 * n + v) 0)
  let limit := Int.ofNat (Nat.pow 256 values.length)
  if isSigned && 2 * n ≥ limit then n - limit else n

/-- Does the least important byte come first? -/
def isLittle (name : String) (o : Option Object) : Run Bool := do
  match o with
  | none => return false
  | some o => match ← textual (name ++ "() argument 'byteorder'") o with
    | "big" => return false
    | "little" => return true
    | _ => throw .badValue

/-- The bytes that an integer is made of. -/
def bytesForInt (ev : Evaluator) (o : Object) : Run (List Nat) := do
  let m ← get
  match ← bytes? o with
  | some values => return values
  | none =>
    let refused {α : Type} : Run α :=
      refuse (.other ("cannot convert " ++ Text.quote (m.typeName o) ++ " object to bytes"))
    if (m.plain o).text?.isSome then refused
    let items ← tryCatch (parts ev o) fun e => match e with
      | .misuse (.other wording) => if wording.endsWith "is not iterable" then refused else throw e
      | e => throw e
    items.mapM byteOf

/-- The number of binary digits of an integer that are ones. -/
def onesOf (n : Nat) : Nat :=
  ((Nat.toDigits 2 n).filter (· = '1')).length

/-- What a method of integers yields. -/
def integerMethod (ev : Evaluator) (n : Int) (name : String) (args : List (Option Object)) : Run Object := do
  match name with
  | "bit_length" => return intOf (if n = 0 then 0 else Int.ofNat (n.natAbs.log2 + 1))
  | "bit_count" => return intOf (Int.ofNat (onesOf n.natAbs))
  | "conjugate" | "__int__" | "__index__" | "__trunc__" | "__floor__" | "__ceil__" => return intOf n
  | "__round__" => roundedNumber (intOf n) (argAt args 0)
  | "as_integer_ratio" => return ratio n 1
  | "to_bytes" =>
    let little ← isLittle name (argAt args 1)
    let count ← match argAt args 0 with
      | some o => integer o
      | none => pure 1
    let isSigned ← match argAt args 2 with
      | some o => isTrue ev o
      | none => pure false
    if count < 0 then throw .badValue
    if count > 100000 then fail "MemoryError"
    let values ← bytesOfInt n count.toNat isSigned
    return .datum (.bytes (if little then values.reverse else values))
  | "from_bytes" =>
    let little ← isLittle name (argAt args 1)
    let values ← bytesForInt ev (argOr args 0)
    let isSigned ← match argAt args 2 with
      | some o => isTrue ev o
      | none => pure false
    return intOf (intOfBytes (if little then values.reverse else values) isSigned)
  | "__getnewargs__" => return .row [intOf n]
  | "__sizeof__" => return intOf (24 + 4 * Int.ofNat (n.natAbs.log2 / 30 + 1))
  | _ => fail "NotImplementedError"

/-! ### Binary numbers -/

/-- A binary number in hexadecimal digits. -/
def hexText (x : Binary64) : String :=
  match x with
  | .finite negative mantissa exponent =>
    let sign := if negative then "-" else ""
    if mantissa = 0 then sign ++ "0x0.0p+0"
    else
      let shift := 52 - mantissa.log2
      let power := exponent + 52 - Int.ofNat shift
      let (bits, first, power) := if power < -1022 then
          (mantissa * Nat.pow 2 (exponent + 1074).toNat, "0", (-1022 : Int))
        else (mantissa * Nat.pow 2 shift - Nat.pow 2 52, "1", power)
      let digits := String.ofList (Text.hexPadded 13 bits)
      sign ++ "0x" ++ first ++ "." ++ digits ++ "p" ++ (if power < 0 then "" else "+") ++ toString power
  | x => x.text

/-- Digits of the base of sixteen at the beginning of a text. -/
def hexDigits (cs : List Char) : List Char × List Char :=
  let isHex (c : Char) : Bool := c.isDigit || ('a' ≤ c && c ≤ 'f')
  (cs.takeWhile isHex, cs.dropWhile isHex)

/-- The binary number that digits of the base of sixteen spell, without its sign; nothing if they spell none. -/
def unsignedHex? (negative : Bool) (cs : List Char) : Option Binary64 := do
  let word := String.ofList cs
  if word = "inf" || word = "infinity" then return .infinite negative
  if word = "nan" then return .notANumber
  let cs := match cs with
    | '0' :: 'x' :: rest => rest
    | cs => cs
  let (whole, rest) := hexDigits cs
  let (behind, rest) := match rest with
    | '.' :: rest => hexDigits rest
    | rest => ([], rest)
  if whole.isEmpty && behind.isEmpty then none
  let power ← match rest with
    | [] => some 0
    | 'p' :: rest =>
      let (isDown, ds) := match rest with
        | '-' :: ds => (true, ds)
        | '+' :: ds => (false, ds)
        | ds => (false, ds)
      if ds.isEmpty || !ds.all (·.isDigit) then none
      else some (let n := Int.ofNat ((String.ofList ds).toNat?.getD 0); if isDown then -n else n)
    | _ => none
  let digits := ((Text.integerIn? 16 (String.ofList ('0' :: whole ++ behind))).getD 0).toNat
  let exponent := power - 4 * Int.ofNat behind.length
  if digits = 0 then return .zero negative
  let top := exponent + Int.ofNat digits.log2
  if top > 1100 then return .infinite negative
  if top < -1200 then return .zero negative
  let (num, den) := Binary64.scaled 2 digits 1 exponent
  return .ofFraction negative num den

/-- The binary number that digits of the base of sixteen spell. -/
def realFromHex (s : String) : Run Object := do
  let cs := (strippedBy isBlankByte true true (s.toList.map Char.toNat)).map fun n => (Char.ofNat n).toLower
  let (negative, cs) := match cs with
    | '-' :: cs => (true, cs)
    | '+' :: cs => (false, cs)
    | cs => (false, cs)
  match unsignedHex? negative cs with
  | some x =>
    if !x.isFinite && !(cs.head?).any (fun c => c = 'i' || c = 'n') then fail "OverflowError"
    return floatOf x
  | none => throw .badValue

/-- What a method of binary numbers yields. -/
def floatMethod (x : Binary64) (name : String) (args : List (Option Object)) : Run Object := do
  match name with
  | "is_integer" => return truth x.toInt?.isSome
  | "conjugate" | "__float__" => return floatOf x
  | "hex" => return .text (hexText x)
  | "fromhex" => match ← text? (argOr args 0) with
    | some s => realFromHex s
    | none => refuse (.other "bad argument type for built-in operation")
  | "as_integer_ratio" => match x.fraction? with
    | some (num, den) => return ratio num den
    | none => throw (if x = .notANumber then .badValue else .failure "OverflowError")
  | "__int__" | "__trunc__" => return intOf (← integerOf (floatOf x))
  | "__floor__" => floorOf (floatOf x)
  | "__ceil__" => ceilingOf (floatOf x)
  | "__round__" => roundedNumber (floatOf x) (argAt args 0)
  | "__getnewargs__" => return .row [floatOf x]
  | "__getformat__" => match ← textual "__getformat__() argument" (argOr args 0) with
    | "double" | "float" => return .text "IEEE, little-endian"
    | _ => throw .badValue
  | _ => fail "NotImplementedError"

/-- What a method of complex numbers yields. -/
def complexMethod (re im : Binary64) (name : String) : Run Object := do
  match name with
  | "conjugate" => return .datum (.complex re im.neg)
  | "__complex__" => return .datum (.complex re im)
  | "__getnewargs__" => return .row [floatOf re, floatOf im]
  | _ => fail "NotImplementedError"

/-! ### Fractions -/

/-- The fraction nearest to another one, with a denominator that is at most a limit, from two fractions
around it. -/
def limitedWithin (num : Int) (den limit : Nat) :
    Nat → Int × Int → Int × Int → Int × Int → (Int × Int) × (Int × Int) × (Int × Int)
  | 0, p, q, r => (p, q, r)
  | fuel + 1, (p0, q0), (p1, q1), (n, d) =>
    if d = 0 then ((p0, q0), (p1, q1), (n, d))
    else
      let a := Int.fdiv n d
      let q2 := q0 + a * q1
      if q2 > Int.ofNat limit then ((p0, q0), (p1, q1), (n, d))
      else limitedWithin num den limit fuel (p1, q1) (p0 + a * p1, q2) (d, n - a * d)

/-- The fraction nearest to another one, with a denominator that is at most a limit. -/
def limited (num : Int) (den limit : Nat) : Int × Int :=
  if den ≤ limit then (num, Int.ofNat den)
  else
    let ((p0, q0), (p1, q1), _) :=
      limitedWithin num den limit (den.log2 * 2 + 4) (0, 1) (1, 0) (num, Int.ofNat den)
    let k := if q1 = 0 then 0 else Int.fdiv (Int.ofNat limit - q0) q1
    let (p2, q2) := (p0 + k * p1, q0 + k * q1)
    let distance (p q : Int) : Int × Int := ((p * Int.ofNat den - num * q).natAbs, q)
    let (a, b) := distance p1 q1
    let (c, d) := distance p2 q2
    if a * d ≤ c * b then (p1, q1) else (p2, q2)

/-- What a method of fractions yields. -/
def fractionMethod (num : Int) (den : Nat) (name : String) (given : Arguments) : Run Object := do
  let m ← get
  let what := "Fraction." ++ name ++ "()"
  let args (words : String) : Run (List (Option Object)) := takenBy what words given
  let o := Object.datum (.fraction num den)
  match name with
  | "as_integer_ratio" =>
    let _ ← args ""
    return ratio num den
  | "limit_denominator" =>
    let limit ← match argAt (← args "max_denominator?") 0 with
      | some o => integer o
      | none => pure 1000000
    if limit < 1 then throw .badValue
    let (p, q) := limited num den limit.toNat
    fractionOf p q
  | "conjugate" =>
    let _ ← args ""
    return o
  | "__int__" | "__trunc__" =>
    let _ ← args ""
    return intOf (truncated num den)
  | "__floor__" =>
    let _ ← args ""
    floorOf o
  | "__ceil__" =>
    let _ ← args ""
    ceilingOf o
  | "__round__" => roundedNumber o (argAt (← args "ndigits?") 0)
  | "__complex__" =>
    let _ ← args ""
    return .datum (.complex (.nearest num den) (.zero false))
  | "__copy__" | "__deepcopy__" => return o
  | "from_float" | "from_decimal" =>
    let word := if name = "from_float" then "f" else "dec"
    let o := argOr (← args word) 0
    let isGood : Bool := match m.plain o with
      | .constant (.float _) => name = "from_float"
      | .datum (.decimal _) => name = "from_decimal"
      | p => (Outcome.count? p).isSome
    if !isGood then
      refuse (.other (if name = "from_float" then
          "Fraction.from_float() only takes floats, not " ++ m.written o ++ " (" ++ m.typeName o ++ ")"
        else "Fraction.from_decimal() only takes Decimals, not " ++ m.written o ++ " (" ++ m.typeName o
          ++ ")"))
    makeFraction [some o, none]
  | _ => fail "NotImplementedError"

/-! ### Decimals -/

/-- A value of a class of rows with named members, as it is written with the name of the class. -/
def namedRow (c : LibraryClass) (shown : String) (members : List (String × Object)) : Run Object := do
  let shown := shown ++ "(" ++ ", ".intercalate
    (← members.mapM fun (name, o) => do return name ++ "=" ++ (← written o)) ++ ")"
  newMade (.library c) [.row (members.map (·.2))] members [(Memory.shownName, .text shown)]

/-- The parts of a decimal number. -/
def decimalRow (d : Decimal) : Run Object := do
  let digitsOf (n : Nat) : Object :=
    .row ((Decimal.digitsOf n).map fun c => intOf (Int.ofNat (c.toNat - '0'.toNat)))
  let (digits, exponent) := match d with
    | .finite _ a e => (digitsOf a, intOf e)
    | .infinite _ => (digitsOf 0, .text "F")
    | .notANumber _ signals payload =>
      (if payload = 0 then .row [] else digitsOf payload, .text (if signals then "N" else "n"))
  namedRow ⟨"decimal", "DecimalTuple"⟩ "DecimalTuple"
    [("sign", intOf (if d.isNegative then 1 else 0)), ("digits", digits), ("exponent", exponent)]

/-- The way to round that is given by its name. -/
def roundingOf (usual : Rounding) (o : Option Object) : Run Rounding := do
  match o.filter (!·.same .none) with
  | none => return usual
  | some o =>
    match (← text? o).bind (Rounding.names.lookup ·) with
    | some r => return r
    | none => refuse (.other ("valid values for rounding are:\n  [ROUND_CEILING, ROUND_FLOOR, ROUND_UP, "
        ++ "ROUND_DOWN,\n   ROUND_HALF_UP, ROUND_HALF_DOWN, ROUND_HALF_EVEN,\n   ROUND_05UP]"))

/-- What a method of decimals yields that works with one number alone. -/
def plainDecimalMethod? (d : Decimal) (name : String) : Option (Bool ⊕ Decimal.Result) :=
  match name with
  | "normalize" => some (.inr d.normalized)
  | "exp" => some (.inr d.exp)
  | "ln" => some (.inr d.ln)
  | "log10" => some (.inr d.log10)
  | "sqrt" => some (.inr d.squareRoot)
  | "next_plus" => some (.inr (d.next true))
  | "next_minus" => some (.inr (d.next false))
  | "logb" => some (.inr d.logPlace)
  | "logical_invert" => some (.inr (Decimal.bitwise (fun a _ => !a) d (.ofInt 0)))
  | "copy_abs" => some (.inr (.ok (d.withSign false)))
  | "copy_negate" => some (.inr (.ok (d.withSign !d.isNegative)))
  | "conjugate" | "canonical" | "__copy__" | "__deepcopy__" => some (.inr (.ok d))
  | "radix" => some (.inr (.ok (.ofInt 10)))
  | "is_normal" => some (.inl d.isNormal)
  | "is_subnormal" => some (.inl (d.kind.endsWith "Subnormal"))
  | "is_canonical" => some (.inl true)
  | "is_finite" => some (.inl (d matches .finite ..))
  | "is_infinite" => some (.inl (d matches .infinite _))
  | "is_nan" => some (.inl d.isUndefined)
  | "is_qnan" => some (.inl (d matches .notANumber _ false _))
  | "is_snan" => some (.inl (d matches .notANumber _ true _))
  | "is_signed" => some (.inl d.isNegative)
  | "is_zero" => some (.inl !d.isNonzero)
  | _ => none

/-- What a method of decimals yields that works with two numbers. -/
def jointDecimalMethod? (d e : Decimal) (name : String) : Option (Bool ⊕ Decimal.Result) :=
  match name with
  | "compare" => some (.inr (d.compareTo e))
  | "compare_signal" => some (.inr (d.compareSignal e))
  | "compare_total" => some (.inr (.ok (.ofOrder (d.total e))))
  | "compare_total_mag" => some (.inr (.ok (.ofOrder ((d.withSign false).total (e.withSign false)))))
  | "max" => some (.inr (Decimal.selected Decimal.order true d e))
  | "min" => some (.inr (Decimal.selected Decimal.order false d e))
  | "max_mag" => some (.inr (Decimal.selected Decimal.sizeOrder true d e))
  | "min_mag" => some (.inr (Decimal.selected Decimal.sizeOrder false d e))
  | "next_toward" => some (.inr (d.nextToward e))
  | "remainder_near" => some (.inr (d.nearRemainder e))
  | "copy_sign" => some (.inr (.ok (d.withSign e.isNegative)))
  | "same_quantum" => some (.inl (d.sameQuantum e))
  | "logical_and" => some (.inr (Decimal.bitwise (· && ·) d e))
  | "logical_or" => some (.inr (Decimal.bitwise (· || ·) d e))
  | "logical_xor" => some (.inr (Decimal.bitwise xor d e))
  | "rotate" => some (.inr (d.moved true e))
  | "shift" => some (.inr (d.moved false e))
  | "scaleb" => some (.inr (d.scaled e))
  | _ => none

/-- A decimal number that is given to an operation. -/
def decimalGiven (o : Object) : Run Decimal := do
  match ← decimalOf? o with
  | some d => return d
  | none => do
    refuse (.other ("conversion from " ++ (← get).typeName o ++ " to Decimal is not supported"))

/-- What a method of decimals yields. -/
def decimalMethod (d : Decimal) (name : String) (args : List (Option Object)) : Run Object := do
  let told (r : Bool ⊕ Decimal.Result) : Run Object := do
    match r with
    | .inl b => return truth b
    | .inr r => return decimalObject (← decimalResult r)
  let o := decimalObject d
  match plainDecimalMethod? d name with
  | some r => told r
  | none => match name with
    | "to_integral" | "to_integral_value" | "to_integral_exact" =>
      let r ← roundingOf .halfEven (argAt args 0)
      return decimalObject (← decimalResult (d.toWhole r))
    | "quantize" =>
      let e ← decimalGiven (argOr args 0)
      let r ← roundingOf .halfEven (argAt args 1)
      return decimalObject (← decimalResult (Decimal.quantized r d e))
    | "fma" =>
      let e ← decimalGiven (argOr args 0)
      let f ← decimalGiven (argOr args 1)
      return decimalObject (← decimalResult (d.mulAdd e f))
    | "number_class" => return .text d.kind
    | "to_eng_string" => return .text (d.textBy true)
    | "adjusted" => return intOf (match d with
        | .finite _ a e => Decimal.adjusted a e
        | _ => 0)
    | "as_tuple" => decimalRow d
    | "as_integer_ratio" => match d.fraction? with
      | some (num, den) => return ratio num den
      | none => throw (if d.isUndefined then .badValue else .failure "OverflowError")
    | "__int__" | "__trunc__" => return intOf (← integerOf o)
    | "__floor__" => floorOf o
    | "__ceil__" => ceilingOf o
    | "__round__" => roundedNumber o (argAt args 0)
    | "__complex__" => return .datum (.complex (← realOf o) (.zero false))
    | "__sizeof__" => return intOf 104
    | "from_float" => match (← get).plain (argOr args 0) with
      | .constant (.float x) => return decimalObject (.ofBinary x)
      | p => match Outcome.count? p with
        | some n => return decimalObject (.ofInt n)
        | none => refuse (.other "argument must be int or float")
    | name =>
      let e ← decimalGiven (argOr args 0)
      match jointDecimalMethod? d e name with
      | some r => told r
      | none => fail "NotImplementedError"

end Run

end Mapsmith.Program
