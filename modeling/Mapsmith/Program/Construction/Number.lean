import Mapsmith.Program.Place
import Mapsmith.Text.Numeral

/-!
# Numbers of what classes are given

The integers, binary numbers, complex numbers, fractions and decimals that the classes of numbers make of texts and
of other numbers.
-/

namespace Mapsmith.Program

namespace Run

/-! ### Values as objects -/

/-- A text as an object, from its characters. -/
def textOf (cs : List Char) : Object :=
  .text (String.ofList cs)

/-- A truth value as an object. -/
def truth (b : Bool) : Object :=
  .constant (.bool b)

/-- An integer as an object. -/
def intOf (n : Int) : Object :=
  .constant (.int n)

/-- A number that need not be whole as an object. -/
def floatOf (x : Binary64) : Object :=
  .constant (.float x)

/-- A decimal number as an object. -/
def decimalObject (d : Decimal) : Object :=
  .datum (.decimal d)

/-- A failure of a class. -/
def fail {α : Type} (name : String) : Run α :=
  throw (.failure name)

/-- What comes of working with decimal numbers. -/
def decimalResult (r : Decimal.Result) : Run Decimal := do
  match Outcome.decimal r with
  | .value (.datum (.decimal d)) => return d
  | .failed e => throw e
  | _ => throw .badValue

/-- A value by itself, which is another one each time that it is made. -/
def madeAnew (c : LibraryClass) (state : List (String × Object)) : Run Object :=
  newMade (.library c) [] [] state

/-! ### Integers -/

/-- A whole number, without what is behind the point. -/
def truncated (num : Int) (den : Nat) : Int :=
  Int.tdiv num (Int.ofNat den)

/-- The integer that a text spells, if the text is not too long. -/
def integerOfText (s : String) : Run Int := do
  match Text.integer? s with
  | some n =>
    if (s.toList.filter fun c => (Text.digit? c).isSome).length > 4300 then throw .badValue
    return n
  | none => throw .badValue

/-- The integer that an object stands for. -/
def integerOf (o : Object) : Run Int := do
  let m ← get
  match m.plain o with
  | .constant (.str s) => integerOfText s
  | .datum (.bytes values) =>
    if values.any (· ≥ 128) then throw .badValue
    integerOfText (String.ofList (values.map Char.ofNat))
  | .constant (.float x) => match x, x.truncated? with
    | .infinite _, _ => fail "OverflowError"
    | _, some n => return n
    | _, none => throw .badValue
  | .datum (.fraction num den) => return truncated num den
  | .datum (.decimal d) => match d with
    | .infinite _ => fail "OverflowError"
    | .notANumber .. => throw .badValue
    | .finite _ _ exponent =>
      if exponent > Outcome.maxBits then fail "MemoryError"
      match d.fraction? with
      | some (num, den) => return truncated num den
      | none => throw .badValue
  | .datum (.identifier n) => return Int.ofNat n
  | p => match Outcome.count? p with
    | some n => return n
    | none =>
      refuse (.other ("int() argument must be a string, a bytes-like object or a real number, "
        ++ "not " ++ Text.quote (m.typeName o)))

/-- What stands for an object where a number of a kind is asked for: what its class says by the first of the methods
of these names that it has, which has to be of the kind, or the object itself. Each method comes with what it is
called and what it has to yield. -/
def numberSaid (ev : Evaluator) (o : Object) : List (String × String × String × (Object → Bool)) → Run Object
  | [] => return o
  | (name, shown, kind, isKind) :: others => do
    match ← said? ev o name [] with
    | none => numberSaid ev o others
    | some answer =>
      let m ← get
      if isKind (m.plain answer) then return answer
      refuse (.other (shown ++ " returned non-" ++ kind ++ " (type " ++ m.typeName answer ++ ")"))

/-- Is an object an integer? -/
def isInteger (o : Object) : Bool :=
  (Outcome.count? o).isSome

/-- The integer that an object stands for, or what its class says of that. -/
def wholeSaid (ev : Evaluator) (o : Object) : Run Int := do
  integerOf (← numberSaid ev o [("__int__", "__int__", "int", isInteger),
    ("__index__", "__index__", "int", isInteger), ("__trunc__", "__trunc__", "Integral", isInteger)])

/-- The integer that a text spells in a base. -/
def integerInBase (o base : Object) : Run Object := do
  let base ← integer base
  if base < 0 || base = 1 || 36 < base then throw .badValue
  let read (s : String) : Run Object := do
    match Text.integerIn? base.toNat s with
    | some n => return intOf n
    | none => throw .badValue
  match (← get).plain o with
  | .constant (.str s) => read s
  | .datum (.bytes values) => read (String.ofList (values.map Char.ofNat))
  | _ => refuse (.other "int() can't convert non-string with explicit base")

/-- What the class of integers makes of what it is given. -/
def makeInteger (ev : Evaluator) (given : Arguments) : Run Object := do
  match ← namedOnly "int" true (parametersFrom "x? / base?") given with
  | [some o, none] => return intOf (← wholeSaid ev o)
  | [some o, some base] => integerInBase o base
  | [none, some _] => refuse (.other "int() missing string argument")
  | _ => return intOf 0

/-! ### Binary and complex numbers -/

/-- The binary number that an object stands for, if its kind has one. -/
def realOf? (o : Object) : Run (Option Binary64) := do
  let m ← get
  match m.plain o with
  | .constant (.str _) => return none
  | .datum (.decimal d) => match d, d.fraction? with
    | .infinite negative, _ => return some (.infinite negative)
    | .finite negative .., some (num, den) =>
      return some (if num = 0 then .zero negative else .nearest num den)
    | .notANumber _ signals _, _ =>
      if signals then throw .badValue else return some .notANumber
    | _, none => return some .notANumber
  | p => match (Number.of? p).bind Number.real? with
    | some x =>
      if !x.isFinite && !(p matches .constant (.float _)) then fail "OverflowError"
      return some x
    | none => return none

/-- The binary number that an object stands for. -/
def realOf (o : Object) : Run Binary64 := do
  let m ← get
  let read (s : String) : Run Binary64 := do
    match Text.float? s with
    | some x => return x
    | none => throw .badValue
  match m.plain o with
  | .constant (.str s) => read s
  | .datum (.bytes values) => read (String.ofList (values.map Char.ofNat))
  | _ => match ← realOf? o with
    | some x => return x
    | none => refuse (.other ("float() argument must be a string or a real number, not "
        ++ Text.quote (m.typeName o)))

/-- What stands for an object where a number with a point is asked for. -/
def realSaid (ev : Evaluator) (o : Object) : Run Object := do
  numberSaid ev o [("__float__", (← get).typeName o ++ ".__float__", "float", fun o => o matches .constant (.float _)),
    ("__index__", "__index__", "int", isInteger)]

/-- A complex number of two parts, each of which may be complex itself. -/
def makeComplex (ev : Evaluator) (given : Arguments) : Run Object := do
  let m ← get
  let part (which words : String) (o : Object) : Run (Binary64 × Binary64) := do
    match (Number.of? (m.plain o)).bind Number.complex? with
    | some z => return z
    | none => match ← realOf? o with
      | some x => return (x, .zero false)
      | none =>
        refuse (.other ("complex() " ++ which ++ " argument must be a " ++ words ++ "number, not "
          ++ Text.quote (m.typeName o)))
  let isText (o : Object) : Bool := (m.plain o).text?.isSome
  let isComplex (o : Object) : Bool := o matches .datum (.complex ..)
  let told ← (← namedOnly "complex" true (parametersFrom "real? imag?") given).mapM fun o => o.mapM fun o => do
    realSaid ev (← numberSaid ev o [("__complex__", "__complex__", "complex", isComplex)])
  match told with
  | [none, none] => return .datum (.complex (.zero false) (.zero false))
  | [some o, none] => match m.plain o with
    | .constant (.str s) => match Text.complex? s with
      | some (re, im) => return .datum (.complex re im)
      | none => throw .badValue
    | _ =>
      let (re, im) ← part "first" "string or a " o
      return .datum (.complex re im)
  | [re, some o] =>
    if re.any isText then refuse (.other "complex() can't take second arg if first is a string")
    if isText o then refuse (.other "complex() second arg can't be a string")
    let isComplex (o : Object) : Bool := m.plain o matches .datum (.complex ..)
    let (a, b) ← match re with
      | some o => part "first" "string or a " o
      | none => pure (.zero false, .zero false)
    let (x, y) ← part "second" "" o
    let a := if isComplex o then a.sub y else a
    return .datum (.complex a (if re.any isComplex then x.add b else x))
  | _ => return .none

/-! ### Fractions -/

/-- The fraction that a number is that is a fraction of integers. -/
def rational? (o : Object) : Option (Int × Nat) :=
  (Number.of? o).bind Number.asFraction?

/-- A fraction with a sign in either part. -/
def fractionOf (num den : Int) : Run Object := do
  match Number.quotient num den with
  | .value o => return o
  | _ => throw .divisionByZero

/-- The fraction that a number without an end behind the point is. -/
def fractionOfNumber (finite : Option (Int × Nat)) (isUndefined : Bool) : Run Object := do
  match finite with
  | some (num, den) => fractionOf num den
  | none => if isUndefined then throw .badValue else fail "OverflowError"

/-- A fraction of what a class is given. -/
def makeFraction (args : List (Option Object)) : Run Object := do
  let m ← get
  match args.map (·.map m.plain) with
  | none :: none :: _ => fractionOf 0 1
  | some o :: rest =>
    if (rest.headD none).all (·.same .none) then
      match o, rational? o with
      | _, some (num, den) => fractionOf num den
      | .constant (.str s), none => match Text.fraction? s with
        | some (num, den) => fractionOf num den
        | none => throw .badValue
      | .constant (.float x), none => fractionOfNumber x.fraction? (x = .notANumber)
      | .datum (.decimal d), none => fractionOfNumber d.fraction? d.isUndefined
      | _, none => refuse (.other "argument should be a string or a Rational instance")
    else match rational? o, (rest.headD none).bind rational? with
      | some (m, k), some (n, l) => fractionOf (m * Int.ofNat l) (n * Int.ofNat k)
      | _, _ => refuse (.other "both arguments should be Rational instances")
  | none :: some o :: _ => match rational? o with
    | some (n, l) => fractionOf 0 (n * Int.ofNat l)
    | none => refuse (.other "both arguments should be Rational instances")
  | _ => fractionOf 0 1

/-! ### Decimals -/

/-- A decimal number told by its sign, its digits and its exponent. -/
def decimalOfRow (items : List Object) : Run Decimal := do
  let m ← get
  match items with
  | [sign, digits, exponent] =>
    let negative ← match m.plain sign with
      | .constant (.int 0) => pure false
      | .constant (.int 1) => pure true
      | .constant (.bool b) => pure b
      | _ => throw .badValue
    let some ds := sequence? m digits | throw .badValue
    if !(m.plain digits matches .row _ | .list _) then throw .badValue
    let ds ← ds.mapM fun o => do
      match m.plain o with
      | .constant v => match v.count? with
        | some n => if 0 ≤ n && n < 10 then return n.toNat else throw .badValue
        | none => throw .badValue
      | _ => throw .badValue
    let value := ds.foldl (fun n d => 10 * n + d) 0
    match m.plain exponent with
    | .constant (.str "F") => return .infinite negative
    | .constant (.str "n") => return .notANumber negative false value
    | .constant (.str "N") => return .notANumber negative true value
    | .constant v => match v.count? with
      | some n => return .finite negative value n
      | none => throw .badValue
    | _ => throw .badValue
  | _ => throw .badValue

/-- The decimal number that an object stands for, if its kind has one. -/
def decimalOf? (o : Object) : Run (Option Decimal) := do
  match (← get).plain o with
  | .datum (.decimal d) => return some d
  | p => return (Outcome.count? p).map .ofInt

/-- The decimal number that an object stands for. -/
def decimalOf (o : Object) : Run Decimal := do
  let m ← get
  match m.plain o with
  | .constant (.str s) => match Decimal.ofText? s with
    | some d => return d
    | none => throw (.raised ⟨"decimal", "InvalidOperation"⟩)
  | .constant (.float x) => return .ofBinary x
  | .row items | .list items => decimalOfRow items
  | _ => match ← decimalOf? o with
    | some d => return d
    | none => refuse (.other ("conversion from " ++ m.typeName o ++ " to Decimal is not supported"))

/-- What the class of decimals makes of what it is given. -/
def makeDecimal (given : Arguments) : Run Object := do
  let args ← namedOnly "" false (parametersFrom "value? context?") given
  if (args.getD 1 none).any (!·.same .none) then refuse (.other "optional argument must be a context")
  match args.headD none with
  | some o => return decimalObject (← decimalOf o)
  | none => return decimalObject (.ofInt 0)

/-! ### Identifiers -/

/-- The number of an identifier that its fields tell. -/
def identifierOfFields (items : List Object) : Run Int := do
  if items.length ≠ 6 then throw .badValue
  let sizes : List Nat := [32, 16, 16, 8, 8, 48]
  (items.zip sizes).foldlM (fun (n : Int) (o, size) => do
    let k ← integer o
    if k < 0 || Int.ofNat (Nat.pow 2 size) ≤ k then throw .badValue
    return n * Int.ofNat (Nat.pow 2 size) + k) 0

/-- An identifier of what a class is given. -/
def makeIdentifier (args : List (Option Object)) : Run Object := do
  let m ← get
  let args := args.map (·.filter (!·.same .none))
  let given := args.take 5
  if (given.filter (·.isSome)).length ≠ 1 then
    refuse (.other "one of the hex, bytes, bytes_le, fields, or int arguments must be given")
  let unsized {α : Type} (o : Object) : Run α :=
    refuse (.other ("object of type " ++ Text.quote (m.typeName o) ++ " has no len()"))
  let notBelow {α : Type} (o : Object) : Run α :=
    refuse (.other ("'<=' not supported between instances of 'int' and " ++ Text.quote (m.typeName o)))
  let ofBytes (isMixed : Bool) (o : Object) : Run Int := do
    match m.plain o with
    | .datum (.bytes vs) =>
      if vs.length ≠ 16 then throw .badValue
      let vs := if isMixed then
          (vs.take 4).reverse ++ ((vs.drop 4).take 2).reverse ++ ((vs.drop 6).take 2).reverse ++ vs.drop 8
        else vs
      return vs.foldl (fun (n : Int) v => 256 * n + Int.ofNat v) 0
    | _ => match sequence? m o with
      | some items => if items.length ≠ 16 then throw .badValue else fail "AssertionError"
      | none => unsized o
  let n ← match given with
    | [some o, _, _, _, _] => match m.plain o with
      | .constant (.str s) =>
        let s := (s.replace "urn:" "").replace "uuid:" ""
        let isBrace (c : Char) : Bool := c = '\x7b' || c = '\x7d'
        let cs := s.toList.dropWhile isBrace
        let cs := (cs.reverse.dropWhile isBrace).reverse.filter (· ≠ '-')
        if cs.length ≠ 32 then throw .badValue
        match Text.integerIn? 16 (String.ofList cs) with
        | some n => pure n
        | none => throw .badValue
      | _ => throw (.noMember (Text.quote (m.typeName o) ++ " object has no attribute 'replace'"))
    | [_, some o, _, _, _] => ofBytes false o
    | [_, _, some o, _, _] => ofBytes true o
    | [_, _, _, some o, _] => match sequence? m o with
      | some items => identifierOfFields items
      | none => unsized o
    | [_, _, _, _, some o] => match m.plain o with
      | .constant v => match v.count? with
        | some n => pure n
        | none => if v.isFloat then
            refuse (.other "%x format: an integer is required, not float") else notBelow o
      | _ => notBelow o
    | _ => throw .badValue
  if n < 0 || Int.ofNat (Nat.pow 2 128) ≤ n then throw .badValue
  match args.getD 5 none with
  | none => return .datum (.identifier n.toNat)
  | some o => match ← integer? o with
    | none => notBelow o
    | some version =>
      if version < 1 || 5 < version then throw .badValue
      let without (n first count : Nat) : Nat :=
        n - n / Nat.pow 16 first % Nat.pow 16 count * Nat.pow 16 first
      let k := n.toNat
      let variant := k / Nat.pow 16 15 % 4
      let k := without k 15 1 + (8 + variant) * Nat.pow 16 15
      return .datum (.identifier (without k 19 1 + version.toNat * Nat.pow 16 19))

end Run

end Mapsmith.Program
