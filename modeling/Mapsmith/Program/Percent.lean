import Mapsmith.Program.Subscript

/-!
# Percent signs

Texts and bytes in which percent signs with letters stand for values. A value is had by its place, or by a key if
what is given can be subscripted; its letter tells how it is written. What is not used is refused, unless it has
been had by keys.
-/

namespace Mapsmith.Program

/-- What stands for a value: the key in front, the flags, the width and the number of places, either of which may be
given by a value, and the letter. -/
structure Mark where
  /-- The key. -/
  key : Option String := none
  /-- The flags. -/
  flags : List Char := []
  /-- The width, or nothing if a value gives it. -/
  width : Option Nat := some 0
  /-- Is the number of places told? -/
  hasPlaces : Bool := false
  /-- The number of places, or nothing if a value gives it. -/
  places : Option Nat := some 0
  /-- The letter. -/
  letter : Char
  deriving Inhabited

namespace Mark

/-- What stands before the parenthesis that closes one that has been opened, and the rest. -/
def closed? : Nat → List Char → Option (List Char × List Char)
  | _, [] => none
  | 0, ')' :: cs => some ([], cs)
  | levels, c :: cs =>
    let inner := if c = '(' then levels + 1 else if c = ')' then levels - 1 else levels
    (closed? inner cs).map fun (key, rest) => (c :: key, rest)

/-- What follows a percent sign, and the rest of the text. -/
def ofText? (cs : List Char) : Option (Mark × List Char) := do
  let (key, cs) ← match cs with
    | '(' :: cs => (closed? 0 cs).map fun (key, cs) => (some (String.ofList key), cs)
    | cs => some (none, cs)
  let flags := cs.takeWhile (· ∈ ['#', '0', '-', ' ', '+'])
  let cs := cs.drop flags.length
  let number (cs : List Char) : Option Nat × List Char := match cs with
    | '*' :: cs => (none, cs)
    | cs => let (n, cs) := Layout.number? cs; (some (n.getD 0), cs)
  let (width, cs) := number cs
  let (hasPlaces, places, cs) := match cs with
    | '.' :: cs => let (p, cs) := number cs; (true, p, cs)
    | cs => (false, some 0, cs)
  let cs := match cs with
    | c :: rest => if c ∈ ['h', 'l', 'L'] then rest else cs
    | [] => []
  match cs with
  | letter :: cs => return ({ key, flags, width, hasPlaces, places, letter }, cs)
  | [] => none

end Mark

/-- What is left of the values for percent signs. -/
inductive Supply
  /-- Values in a row. -/
  | many (values : List Object)
  /-- A value for one percent sign; it may have been used. -/
  | one (value : Object) (isUsed : Bool)

namespace Run

/-- The next value for a percent sign. -/
def nextValue : Supply → Run (Object × Supply)
  | .many (o :: os) => return (o, .many os)
  | .one o false => return (o, .one o true)
  | _ => refuse (.other "not enough arguments for format string")

/-- The integer that a number is without its fractional part, for a letter; nothing if it is no number. -/
def wholeFor (letter : Char) (o : Object) : Run (Option Int) := do
  let isExact := letter ∈ ['o', 'x', 'X']
  match (← get).plain o with
  | .constant (.float x) =>
    if isExact then return none
    match x with
    | .notANumber => throw .badValue
    | .infinite _ => throw (.failure "OverflowError")
    | x => return x.truncated?
  | .constant v => return v.count?
  | .datum (.fraction num den) => return if isExact then none else some (Int.tdiv num den)
  | .datum (.decimal d) =>
    if isExact then return none
    match d with
    | .notANumber .. => throw .badValue
    | .infinite _ => throw (.failure "OverflowError")
    | d => return d.fraction?.map fun (num, den) => Int.tdiv num den
  | .datum (.identifier n) => return if isExact then none else some (Int.ofNat n)
  | _ => return none

/-- The binary number that an object counts as, if it does. -/
def realFor? (o : Object) : Run (Option Binary64) := do
  match (← get).plain o with
  | .constant (.float x) => return some x
  | .constant v => match v.count? with
    | some n =>
      let x := Binary64.nearest n 1
      if x.isFinite then return some x else throw (.failure "OverflowError")
    | none => return none
  | .datum (.fraction num den) => return some (.nearest num den)
  | .datum (.decimal d) => match d with
    | .infinite negative => return some (.infinite negative)
    | .notANumber _ signals _ => if signals then throw .badValue else return some .notANumber
    | .finite negative digits exponent => return some (.ofDecimal negative digits exponent)
  | _ => return none

/-- The text of bytes that an object has, if it is bytes. -/
def bytesText? (o : Object) : Run (Option String) := do
  match (← get).plain o with
  | .datum (.bytes values) => return some (String.ofList (values.map Char.ofNat))
  | _ => return none

/-- A value in the place of a percent sign, in a text or among bytes. -/
def marked (ev : Evaluator) (inBytes : Bool) (k : Mark) (width : Int) (places : Option Nat) (o : Object) : Run String := do
  let m ← get
  let type := m.typeName o
  let isLeft := '-' ∈ k.flags || width < 0
  let isZeroed := '0' ∈ k.flags && !isLeft
  let l : Layout := {
    width := width.natAbs
    align := if isLeft then some '<' else if isZeroed then some '=' else some '>'
    fill := if isZeroed then '0' else ' '
    sign := if '+' ∈ k.flags then some '+' else if ' ' ∈ k.flags then some ' ' else none
    isAlternate := '#' ∈ k.flags }
  let plain : Layout := { l with fill := ' ', align := if isLeft then some '<' else some '>' }
  let textOf (s : String) : Run String :=
    return plain.filled '>' [] (s.toList.take (places.getD s.length))
  let ofNumber (what : String) : Run String :=
    refuse (.other ("%" ++ String.singleton k.letter ++ " format: " ++ what ++ " is required, not " ++ type))
  if k.letter = 's' && !inBytes then textOf (← display ev o)
  else if k.letter = 's' || (k.letter = 'b' && inBytes) then
    match ← bytesText? o with
    | some s => textOf s
    | none => refuse (.other ("%b requires a bytes-like object, or an object that implements __bytes__, not "
        ++ Text.quote type))
  else if k.letter = 'r' && !inBytes then textOf (← representation ev o)
  else if k.letter = 'r' || k.letter = 'a' then textOf (asciiOnly (← representation ev o))
  else if k.letter ∈ ['d', 'i', 'u', 'o', 'x', 'X'] then
    match ← wholeFor k.letter o with
    | some n =>
      let kind := if k.letter ∈ ['i', 'u'] then 'd' else k.letter
      let digits := Nat.toDigits (if kind = 'o' then 8 else if kind = 'd' then 10 else 16) n.natAbs
      let digits := if kind = 'X' then Layout.capital digits else digits
      let digits := List.replicate (places.getD 0 - digits.length) '0' ++ digits
      let front := l.signOf (n < 0) ++ if l.isAlternate && kind ≠ 'd' then ['0', kind] else []
      return l.filled '>' front digits
    | none => ofNumber (if k.letter ∈ ['d', 'i', 'u'] then "a real number" else "an integer")
  else if k.letter ∈ ['e', 'E', 'f', 'F', 'g', 'G'] then
    match ← realFor? o with
    | some x =>
      match ({ l with precision := some (places.getD 6), letter := some k.letter }).ofFloat x with
      | some s => return s
      | none => throw .badValue
    | none => refuse (.other (if inBytes then "float argument required, not " ++ type
        else "must be real number, not " ++ type))
  else if k.letter = 'c' then
    let character : Option Int := match m.plain o with
      | .constant (.str s) =>
        if s.length = 1 && !inBytes then (s.toList.head?).map fun c => Int.ofNat c.toNat else none
      | .datum (.bytes [n]) => if inBytes then some (Int.ofNat n) else none
      | .constant v => v.count?
      | _ => none
    match character with
    | none => refuse (.other (if inBytes then "%c requires an integer in range(256) or a single byte"
        else "%c requires int or char"))
    | some n =>
      if n < 0 || (if inBytes then 0x100 else 0x110000) ≤ n then throw (.failure "OverflowError")
      return plain.filled '>' [] [Char.ofNat n.natAbs]
  else throw .badValue

/-- A text with values in the places of percent signs, within so many characters; and what is left of the
values. -/
def percentWithin (ev : Evaluator) (s : Scope) (inBytes : Bool) (table : Option Object) :
    Nat → List Char → Supply → Run (List Char × Supply)
  | 0, _, left => return ([], left)
  | _ + 1, [], left => return ([], left)
  | fuel + 1, '%' :: cs, left => do
    let some (k, cs) := Mark.ofText? cs | throw .badValue
    let left ← match k.key, table with
      | some key, some table => do
        let key : Object := if inBytes then .datum (.bytes (key.toList.map Char.toNat)) else .text key
        pure (.one (← subscript ev s table key) false)
      | some _, none => refuse (.other "format requires a mapping")
      | none, _ => pure left
    let number (given : Option Nat) (left : Supply) : Run (Int × Supply) :=
      match given with
      | some n => return (Int.ofNat n, left)
      | none => do
        let (o, left) ← nextValue left
        match (← get).plain o with
        | .constant v => match v.count? with
          | some n => return (n, left)
          | none => refuse (.other "* wants int")
        | _ => refuse (.other "* wants int")
    let (width, left) ← number k.width left
    let (places, left) ← number k.places left
    if k.letter = '%' then
      let (rest, left) ← percentWithin ev s inBytes table fuel cs left
      return ('%' :: rest, left)
    let (o, left) ← nextValue left
    let text ← marked ev inBytes k width (if k.hasPlaces then some places.toNat else none) o
    let (rest, left) ← percentWithin ev s inBytes table fuel cs left
    return (text.toList ++ rest, left)
  | fuel + 1, c :: cs, left => do
    let (rest, left) ← percentWithin ev s inBytes table fuel cs left
    return (c :: rest, left)

/-- Can an object be subscripted, so that values are had from it by keys? -/
def hasKeys (m : Memory) (inBytes : Bool) (o : Object) : Bool :=
  match m.seen o, m.plain o with
  | _, .row _ | _, .constant (.str _) => false
  | _, .datum (.bytes _) => !inBytes
  | _, .list _ => keeper? m o ≠ some "deque"
  | _, .table _ | _, .constant (.list _) | _, .constant (.dict _) | _, .datum (.range ..) => true
  | _, .view kind _ => kind = "mappingproxy"
  | .formed former _, _ => former ≠ .bars
  | .annotated .., _ | .special _, _ | .named _, _ => true
  | .cls c, _ => (valuesOfEnum? m c).isSome
  | _, .made .. => declaresFor m o "__getitem__" || (keptUnder? m o "data").isSome
  | _, _ => false

/-- A text or bytes with values in the places of percent signs. -/
def percent (ev : Evaluator) (s : Scope) (inBytes : Bool) (text : String) (o : Object) : Run String := do
  let m ← get
  let table := if hasKeys m inBytes o then some o else none
  let supply : Supply := match m.plain o with
    | .row items => .many items
    | _ => .one o false
  let (cs, left) ← percentWithin ev s inBytes table (text.length + 1) text.toList supply
  let isDone := match left with
    | .many values => values.isEmpty
    | .one _ isUsed => isUsed
  if isDone || table.isSome then return String.ofList cs
  else refuse (.other ("not all arguments converted during " ++ (if inBytes then "bytes" else "string")
    ++ " formatting"))

/-- Two objects with an operator other than a bar between types, a percent sign after a text or bytes included. -/
def operatedWith (ev : Evaluator) (s : Scope) (operator : String) (a b : Object) : Run Object := do
  let m ← get
  match operator, m.plain a with
  | "%", .constant (.str text) =>
    if let some answer ← saidOfOperator? ev operator a b then return answer
    return .text (← percent ev s false text b)
  | "%", .datum (.bytes values) =>
    if let some answer ← saidOfOperator? ev operator a b then return answer
    let text ← percent ev s true (String.ofList (values.map Char.ofNat)) b
    bytesLike a (text.toList.map Char.toNat)
  | _, _ => operated ev operator a b

end Run

end Mapsmith.Program
